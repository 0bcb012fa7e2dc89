import VirtioAccel.Transport.Chain
import Mathlib.Data.List.Range

/-! The chains that the analysis takes for valid: one walk over all descriptors, what is readable before what is
writable. -/

namespace VirtioAccel
open Checked List ChainWalk

/-- What following `next` from a descriptor visits, up to the first that does not ask for more. -/
inductive Path (descriptors : List Descriptor) : UInt16 → List (UInt16 × Descriptor) → Prop where
  | last {i descriptor} (found : descriptors[i.toNat]? = some descriptor)
      (ends : descriptor.flags &&& descriptorNext = 0) :
    Path descriptors i [(i, descriptor)]
  | next {i descriptor rest} (found : descriptors[i.toNat]? = some descriptor)
      (goes : descriptor.flags &&& descriptorNext ≠ 0) (path : Path descriptors descriptor.next rest) :
    Path descriptors i ((i, descriptor) :: rest)

theorem Path.found {descriptors : List Descriptor} {i : UInt16} {entries : List (UInt16 × Descriptor)}
    (path : Path descriptors i entries) : ∀ entry ∈ entries, descriptors[entry.1.toNat]? = some entry.2 := by
  induction path with
  | last found ends => simpa using found
  | next found goes path ih => simpa [found] using ih

/-- The number of bytes of the descriptors. -/
def bytesOf (entries : List (UInt16 × Descriptor)) : Nat := (entries.map fun entry => entry.2.len.toNat).sum

theorem bytesOf_cons (entry : UInt16 × Descriptor) (rest : List (UInt16 × Descriptor)) :
    bytesOf (entry :: rest) = entry.2.len.toNat + bytesOf rest := sum_cons

/-- Where each descriptor ends, when they stand one after the other from `start` on. -/
def spansFrom (start : Nat) : List (UInt16 × Descriptor) → List DescriptorSpan
  | [] => []
  | (i, descriptor) :: rest =>
    ⟨i, UInt64.ofNat (start + descriptor.len.toNat)⟩ :: spansFrom (start + descriptor.len.toNat) rest

/-- A direct chain: first what the device reads, then what it writes. -/
structure DirectChain (descriptors : List Descriptor) (head : UInt16)
    (readable writable : List (UInt16 × Descriptor)) : Prop where
  path : Path descriptors head (readable ++ writable)
  once : ((readable ++ writable).map fun entry => entry.1.toNat).Perm (range descriptors.length)
  flags : ∀ entry ∈ readable ++ writable, entry.2.flags &&& ~~~(descriptorNext ||| descriptorWrite) = 0
  mapped : ∀ entry ∈ readable ++ writable, entry.2.buffer.isMapped = true
  nonzero : ∀ entry ∈ readable ++ writable, entry.2.len ≠ 0
  reads : ∀ entry ∈ readable, entry.2.isWritable = false
  writes : ∀ entry ∈ writable, entry.2.isWritable = true
  some : readable ≠ [] ∧ writable ≠ []
  fits : bytesOf readable < 2 ^ 64 ∧ bytesOf writable < 2 ^ 64

def layoutOf (readable writable : List (UInt16 × Descriptor)) : ChainLayout where
  descriptorCount := UInt16.ofNat (readable.length + writable.length)
  readableDescriptors := UInt16.ofNat readable.length
  writableDescriptors := UInt16.ofNat writable.length
  readableBytes := UInt64.ofNat (bytesOf readable)
  writableBytes := UInt64.ofNat (bytesOf writable)

/-- The loop of the source, with no count of its steps: it ends with this answer. -/
inductive ChainWalk.Ends (descriptors : List Descriptor) : UInt16 → ChainWalk → Except MalformedChain ChainWalk →
    Prop where
  | outside {current self} (missing : descriptors[current.toNat]? = none) :
    Ends descriptors current self (.error .descriptorIndex)
  | refused {current self descriptor error} (found : descriptors[current.toNat]? = some descriptor)
      (visited : visit self current descriptor = .error error) : Ends descriptors current self (.error error)
  | last {current self descriptor next} (found : descriptors[current.toNat]? = some descriptor)
      (visited : visit self current descriptor = .ok next) (ends : descriptor.flags &&& descriptorNext = 0) :
    Ends descriptors current self (.ok next)
  | next {current self descriptor next answer} (found : descriptors[current.toNat]? = some descriptor)
      (visited : visit self current descriptor = .ok next) (goes : descriptor.flags &&& descriptorNext ≠ 0)
      (rest : Ends descriptors descriptor.next next answer) : Ends descriptors current self answer

namespace ChainWalk
variable {descriptors : List Descriptor} {self final : ChainWalk} {current : UInt16} {descriptor : Descriptor}
  {entries : List (UInt16 × Descriptor)}

def marked (self : ChainWalk) (i : UInt16) : Bool := (self.visited[i.toNat]?).getD false

/-- What lets a descriptor be visited. -/
structure Admits (descriptor : Descriptor) : Prop where
  flags : descriptor.flags &&& ~~~(descriptorNext ||| descriptorWrite) = 0
  mapped : descriptor.buffer.isMapped = true

def endOf (self : ChainWalk) (writable : Bool) : UInt64 := if writable then self.writableEnd else self.readableEnd

def advance (self : ChainWalk) (current : UInt16) (descriptor : Descriptor) : ChainWalk where
  visited := self.visited.set current.toNat true
  spans := self.spans ++ [⟨current, self.endOf descriptor.isWritable + descriptor.len⟩]
  regions := self.regions ++ [descriptor.region]
  readableEnd := if descriptor.isWritable then self.readableEnd else self.readableEnd + descriptor.len
  writableEnd := if descriptor.isWritable then self.writableEnd + descriptor.len else self.writableEnd

theorem known_flags (flags : UInt16) :
    flags &&& ~~~(descriptorNext ||| descriptorWrite) = 0 ↔
      flags &&& ~~~knownDescriptorFlags = 0 ∧ flags &&& descriptorIndirect = 0 := by
  have split : ~~~(descriptorNext ||| descriptorWrite) = ~~~knownDescriptorFlags ||| descriptorIndirect := by decide
  rw [split, ← UInt16.toBitVec_inj, ← UInt16.toBitVec_inj, ← UInt16.toBitVec_inj]
  simp only [UInt16.toBitVec_and, UInt16.toBitVec_or, BitVec.and_or_distrib_left]
  exact BitVec.or_eq_zero_iff

theorem check_eq_ok : self.check current descriptor = .ok () ↔ self.marked current = false ∧ Admits descriptor := by
  have flags := known_flags descriptor.flags
  unfold check
  rw [← marked]
  constructor
  · intro passed
    split at passed
    · cases passed
    rename_i fresh
    split at passed
    · cases passed
    rename_i known
    split at passed
    · cases passed
    rename_i direct
    split at passed
    · cases passed
    rename_i mapped
    exact ⟨by simpa using fresh, flags.mpr ⟨not_not.mp known, not_not.mp direct⟩, not_not.mp mapped⟩
  · rintro ⟨fresh, admits⟩
    obtain ⟨known, direct⟩ := flags.mp admits.flags
    rw [if_neg (by simp [fresh]), if_neg (not_not.mpr known), if_neg (not_not.mpr direct),
      if_neg (not_not.mpr admits.mapped)]

theorem visit_eq_ok :
    self.visit current descriptor = .ok final ↔ self.marked current = false ∧ Admits descriptor ∧
      (self.endOf descriptor.isWritable).toNat + descriptor.len.toNat < 2 ^ 64 ∧
      final = self.advance current descriptor := by
  have next : ∀ end_ : UInt64, end_ = self.endOf descriptor.isWritable →
      (⟨self.visited.set current.toNat true, self.spans ++ [⟨current, end_ + descriptor.len⟩],
        self.regions ++ [descriptor.region], if descriptor.isWritable then self.readableEnd
        else end_ + descriptor.len,
        if descriptor.isWritable then end_ + descriptor.len else self.writableEnd⟩ : ChainWalk) =
      self.advance current descriptor := by
    rintro _ rfl
    unfold advance endOf
    cases descriptor.isWritable <;> rfl
  simp only [visit, bind_eq_ok]
  rw [← endOf]
  constructor
  · rintro ⟨_, passed, rest⟩
    obtain ⟨fresh, admits⟩ := check_eq_ok.mp passed
    split at rest
    · cases rest
    cases rest
    exact ⟨fresh, admits, by omega, next _ rfl⟩
  · rintro ⟨fresh, admits, room, rfl⟩
    refine ⟨(), check_eq_ok.mpr ⟨fresh, admits⟩, ?_⟩
    rw [if_neg (by omega)]
    exact congrArg Except.ok (next _ rfl)

/-- The walk that visits these descriptors, one after the other. -/
def visitAll (self : ChainWalk) (entries : List (UInt16 × Descriptor)) : Except MalformedChain ChainWalk :=
  entries.foldlM (fun walk entry => walk.visit entry.1 entry.2) self

/-- A walk that ends has gone along a path, and visited what is on it. -/
theorem walk_eq_ok {fuel : Nat} :
    walk descriptors fuel current self = .ok final ↔
      ∃ entries, Path descriptors current entries ∧ entries.length ≤ fuel ∧ self.visitAll entries = .ok final := by
  induction fuel generalizing current self with
  | zero =>
    constructor
    · exact nofun
    rintro ⟨entries, path, short, _⟩
    cases path <;> simp at short
  | succ fuel ih =>
    unfold walk
    cases found : descriptors[current.toNat]? with
    | none =>
      constructor
      · exact nofun
      rintro ⟨entries, path, _⟩
      cases path with
      | last there | next there => cases found.symm.trans there
    | some descriptor =>
      simp only [bind_eq_ok]
      constructor
      · rintro ⟨next, visited, rest⟩
        split at rest
        · rename_i ends
          cases rest
          refine ⟨_, .last found ends, by simp, ?_⟩
          rw [visitAll, foldlM_cons, visited]
          rfl
        · rename_i goes
          obtain ⟨entries, path, short, all⟩ := ih.mp rest
          refine ⟨_, .next found goes path, by simpa using short, ?_⟩
          rw [visitAll, foldlM_cons, visited]
          exact all
      · rintro ⟨entries, path, short, all⟩
        cases path with
        | last there ends =>
          cases found.symm.trans there
          simp only [visitAll, foldlM_cons, foldlM_nil, bind_eq_ok, pure_eq_ok] at all
          obtain ⟨next, visited, rfl⟩ := all
          exact ⟨_, visited, by rw [if_pos ends]; rfl⟩
        | next there goes path =>
          cases found.symm.trans there
          simp only [visitAll, foldlM_cons, bind_eq_ok] at all
          obtain ⟨next, visited, all⟩ := all
          refine ⟨next, visited, ?_⟩
          rw [if_neg goes]
          exact ih.mpr ⟨_, path, by simpa using short, all⟩

/-- More steps than there are unvisited descriptors are enough for the loop. -/
theorem walk_ends {fuel : Nat} (enough : self.visited.countP (!·) < fuel)
    (sized : self.visited.length = descriptors.length) :
    Ends descriptors current self (walk descriptors fuel current self) := by
  induction fuel generalizing current self with
  | zero => omega
  | succ fuel ih =>
    rw [walk]
    cases found : descriptors[current.toNat]? with
    | none => exact .outside found
    | some descriptor =>
      dsimp only
      cases visited : self.visit current descriptor with
      | error error => exact .refused found visited
      | ok next =>
        obtain ⟨fresh, _, _, rfl⟩ := visit_eq_ok.mp visited
        have inside : current.toNat < self.visited.length := by
          rw [sized]
          exact (List.getElem?_eq_some_iff.mp found).1
        have unmarked : self.visited[current.toNat] = false := by simpa [marked, inside] using fresh
        have fewer : (self.advance current descriptor).visited.countP (!·) < fuel := by
          have counted := @countP_set _ (!·) self.visited current.toNat true inside
          have positive : 0 < self.visited.countP (!·) :=
            countP_pos_iff.mpr ⟨_, getElem_mem inside, by rw [unmarked]; rfl⟩
          rw [unmarked] at counted
          simp only [Bool.not_false, Bool.not_true, if_true, Bool.false_eq_true, if_false] at counted
          change (self.visited.set current.toNat true).countP (!·) < fuel
          omega
        split
        · rename_i ends
          exact .last found visited ends
        rename_i goes
        exact .next found visited goes (ih fewer (by simpa [advance] using sized))

/-- The walk after a part of the chain in one direction. -/
def advanceAll (self : ChainWalk) (writable : Bool) (entries : List (UInt16 × Descriptor)) : ChainWalk where
  visited := entries.foldl (fun visited entry => visited.set entry.1.toNat true) self.visited
  spans := self.spans ++ spansFrom (self.endOf writable).toNat entries
  regions := self.regions ++ entries.map fun entry => entry.2.region
  readableEnd := if writable then self.readableEnd else UInt64.ofNat (self.readableEnd.toNat + bytesOf entries)
  writableEnd := if writable then UInt64.ofNat (self.writableEnd.toNat + bytesOf entries) else self.writableEnd

theorem marked_advance (inside : current.toNat < self.visited.length) (i : UInt16) :
    (self.advance current descriptor).marked i = (decide (i = current) || self.marked i) := by
  unfold marked advance
  by_cases same : i = current
  · subst same
    simp [inside]
  have apart : current.toNat ≠ i.toNat := fun equal => same (UInt16.toNat_inj.mp equal.symm)
  simp [same, getElem?_set_ne apart]

theorem advanceAll_cons {writable : Bool} {entry : UInt16 × Descriptor} (direction : entry.2.isWritable = writable)
    (room : (self.endOf writable).toNat + entry.2.len.toNat < 2 ^ 64) :
    (self.advance entry.1 entry.2).advanceAll writable entries = self.advanceAll writable (entry :: entries) ∧
      ((self.advance entry.1 entry.2).endOf writable).toNat = (self.endOf writable).toNat + entry.2.len.toNat := by
  subst direction
  have sum : (self.endOf entry.2.isWritable + entry.2.len).toNat =
      (self.endOf entry.2.isWritable).toNat + entry.2.len.toNat := by
    rw [UInt64.toNat_add, Nat.mod_eq_of_lt room]
  have now : (self.advance entry.1 entry.2).endOf entry.2.isWritable =
      self.endOf entry.2.isWritable + entry.2.len := by
    unfold advance endOf
    cases entry.2.isWritable <;> rfl
  have span : self.endOf entry.2.isWritable + entry.2.len =
      UInt64.ofNat ((self.endOf entry.2.isWritable).toNat + entry.2.len.toNat) := by
    rw [← sum, UInt64.ofNat_toNat]
  refine ⟨?_, by rw [now, sum]⟩
  unfold advanceAll
  simp only [advance, spansFrom, span, append_assoc, singleton_append, foldl_cons, map_cons, bytesOf, sum_cons]
  cases direction : entry.2.isWritable with
  | true =>
    rw [direction] at sum
    simp only [endOf, if_true] at sum ⊢
    rw [sum, Nat.add_assoc]
  | false =>
    rw [direction] at sum
    simp only [endOf, Bool.false_eq_true, if_false] at sum ⊢
    rw [sum, Nat.add_assoc]

/-- Descriptors of one direction are visited when they are new, admitted and not too long. -/
theorem visitAll_eq_ok {writable : Bool} (same : ∀ entry ∈ entries, entry.2.isWritable = writable)
    (inside : ∀ entry ∈ entries, entry.1.toNat < self.visited.length) :
    self.visitAll entries = .ok final ↔ (∀ entry ∈ entries, self.marked entry.1 = false) ∧
    (entries.map Prod.fst).Nodup ∧
      (∀ entry ∈ entries, Admits entry.2) ∧ (self.endOf writable).toNat + bytesOf entries < 2 ^ 64 ∧
      final = self.advanceAll writable entries := by
  induction entries generalizing self with
  | nil =>
    have unchanged : self.advanceAll writable [] = self := by
      unfold advanceAll
      cases writable <;> simp [bytesOf, spansFrom]
    simp only [visitAll, foldlM_nil, pure_eq_ok, unchanged]
    have small := (self.endOf writable).toNat_lt
    exact ⟨fun done => ⟨fun _ => not_mem_nil.elim, nodup_nil, fun _ => not_mem_nil.elim, small, done.symm⟩,
      fun all => all.2.2.2.2.symm⟩
  | cons entry rest ih =>
    obtain ⟨direction, same⟩ := forall_mem_cons.mp same
    obtain ⟨here, inside⟩ := forall_mem_cons.mp inside
    have later := @ih (self.advance entry.1 entry.2) same (by simpa [advance] using inside)
    simp only [marked_advance here] at later
    rw [visitAll, foldlM_cons, bind_eq_ok]
    simp only [visit_eq_ok, direction, forall_mem_cons, map_cons, nodup_cons, bytesOf, sum_cons]
    constructor
    · rintro ⟨next, ⟨fresh, admits, room, rfl⟩, all⟩
      obtain ⟨step, sum⟩ := @advanceAll_cons self rest writable entry direction room
      obtain ⟨unmarked, nodup, admitted, total, rfl⟩ := later.mp all
      rw [sum] at total
      refine ⟨⟨fresh, fun other member => (Bool.or_eq_false_iff.mp (unmarked other member)).2⟩, ⟨?_, nodup⟩,
        ⟨admits, admitted⟩, by rw [← Nat.add_assoc]; exact total, step⟩
      intro again
      obtain ⟨other, member, equal⟩ := mem_map.mp again
      exact of_decide_eq_false (Bool.or_eq_false_iff.mp (unmarked other member)).1 equal
    · rintro ⟨⟨fresh, unmarked⟩, ⟨apart, nodup⟩, ⟨admits, admitted⟩, total, rfl⟩
      have room : (self.endOf writable).toNat + entry.2.len.toNat < 2 ^ 64 := by omega
      obtain ⟨step, sum⟩ := @advanceAll_cons self rest writable entry direction room
      refine ⟨_, ⟨fresh, admits, room, rfl⟩, later.mpr ⟨fun other member => ?_, nodup, admitted, ?_, step.symm⟩⟩
      · rw [unmarked other member, Bool.or_false, decide_eq_false_iff_not]
        exact fun equal => apart (equal ▸ mem_map_of_mem member)
      rw [sum, Nat.add_assoc]
      exact total

end ChainWalk

namespace ChainScan
variable {scan final : ChainScan} {entries : List (UInt16 × Descriptor)}

theorem checkedAdd_eq_ok {left right sum : UInt64} :
    checkedAdd left right = .ok sum ↔ left.toNat + right.toNat < 2 ^ 64 ∧ left + right = sum := by
  unfold checkedAdd
  split
  · rename_i small
    rw [Except.ok.injEq]
    exact ⟨fun same => ⟨small, same⟩, fun ⟨_, same⟩ => same⟩
  · rename_i large
    exact ⟨nofun, fun ⟨small, _⟩ => absurd small large⟩

/-- The scan after the rest of a chain. -/
def scanned (scan : ChainScan) (readable writable : List (UInt16 × Descriptor)) : ChainScan where
  readableDescriptors := scan.readableDescriptors + UInt16.ofNat readable.length
  writableDescriptors := scan.writableDescriptors + UInt16.ofNat writable.length
  readableBytes := UInt64.ofNat (scan.readableBytes.toNat + bytesOf readable)
  writableBytes := UInt64.ofNat (scan.writableBytes.toNat + bytesOf writable)
  sawWritable := scan.sawWritable || !writable.isEmpty

theorem scanned_scanned (first second third fourth : List (UInt16 × Descriptor)) :
    (scan.scanned first second).scanned third fourth = scan.scanned (first ++ third) (second ++ fourth) := by
  have bytes (start : UInt64) (one two : List (UInt16 × Descriptor)) :
      UInt64.ofNat ((UInt64.ofNat (start.toNat + bytesOf one)).toNat + bytesOf two) =
        UInt64.ofNat (start.toNat + bytesOf (one ++ two)) := by
    rw [← UInt64.toNat_inj]
    simp only [UInt64.toNat_ofNat', bytesOf, map_append, sum_append, Nat.mod_add_mod, Nat.add_assoc]
  have count (start : UInt16) (one two : List (UInt16 × Descriptor)) :
      start + UInt16.ofNat one.length + UInt16.ofNat two.length = start + UInt16.ofNat (one ++ two).length := by
    rw [length_append, UInt16.ofNat_add, UInt16.add_assoc]
  have saw : (!(second ++ fourth).isEmpty) = (!second.isEmpty || !fourth.isEmpty) := by
    cases second <;> cases fourth <;> rfl
  simp only [scanned, bytes, count, saw, Bool.or_assoc]

theorem visit_eq_ok {entry : UInt16 × Descriptor} :
    scan.visit entry.2.region = .ok final ↔ entry.2.len ≠ 0 ∧
      if entry.2.isWritable then scan.writableBytes.toNat + entry.2.len.toNat < 2 ^ 64 ∧ final = scan.scanned []
      [entry]
      else scan.sawWritable = false ∧ scan.readableBytes.toNat + entry.2.len.toNat < 2 ^ 64 ∧
      final = scan.scanned [entry] [] := by
  have sum {start : UInt64} : start + entry.2.len = UInt64.ofNat (start.toNat + bytesOf [entry]) := by
    rw [← UInt64.toNat_inj, UInt64.toNat_add, UInt64.toNat_ofNat', bytesOf, map_singleton, sum_singleton]
  have none {start : UInt64} : UInt64.ofNat (start.toNat + bytesOf []) = start := by
    rw [bytesOf, map_nil, sum_nil, Nat.add_zero, UInt64.ofNat_toNat]
  unfold visit Descriptor.region
  by_cases zero : entry.2.len = 0
  · cases entry.2.isWritable <;> simp [zero]
  cases entry.2.isWritable with
  | true =>
    simp only [if_true, zero, if_false, bind_eq_ok, pure_eq_ok, checkedAdd_eq_ok, ne_eq, not_false_eq_true,
      true_and]
    constructor
    · rintro ⟨_, ⟨room, rfl⟩, rfl⟩
      exact ⟨room, by simp [scanned, sum, none]⟩
    rintro ⟨room, rfl⟩
    exact ⟨_, ⟨room, rfl⟩, by simp [scanned, sum, none]⟩
  | false =>
    simp only [Bool.false_eq_true, zero, if_false, bind_eq_ok, pure_eq_ok, refuseIf_eq_ok,
      checkedAdd_eq_ok, ne_eq, not_false_eq_true, true_and, Bool.not_eq_true]
    constructor
    · rintro ⟨_, early, _, ⟨room, rfl⟩, rfl⟩
      exact ⟨early, room, by simp [scanned, sum, none]⟩
    rintro ⟨early, room, rfl⟩
    exact ⟨(), early, _, ⟨room, rfl⟩, by simp [scanned, sum, none]⟩

/-- What the scan takes: readable descriptors, none of them after a writable one. -/
theorem foldlM_eq_ok :
    (entries.map fun entry => entry.2.region).foldlM visit scan = .ok final ↔ ∃ readable writable,
      entries = readable ++ writable ∧ (∀ entry ∈ readable, entry.2.isWritable = false) ∧
      (∀ entry ∈ writable, entry.2.isWritable = true) ∧ (∀ entry ∈ entries, entry.2.len ≠ 0) ∧
      (readable ≠ [] → scan.sawWritable = false) ∧ scan.readableBytes.toNat + bytesOf readable < 2 ^ 64 ∧
      scan.writableBytes.toNat + bytesOf writable < 2 ^ 64 ∧ final = scan.scanned readable writable := by
  have exact {start : UInt64} {entry : UInt16 × Descriptor} (room : start.toNat + entry.2.len.toNat < 2 ^ 64) :
      (UInt64.ofNat (start.toNat + bytesOf [entry])).toNat = start.toNat + entry.2.len.toNat := by
    rw [bytesOf_cons, bytesOf, map_nil, sum_nil, Nat.add_zero, UInt64.toNat_ofNat_of_lt' room]
  have same {start : UInt64} : (UInt64.ofNat (start.toNat + bytesOf [])).toNat = start.toNat := by
    rw [bytesOf, map_nil, sum_nil, Nat.add_zero, UInt64.ofNat_toNat]
  have nothing : bytesOf [] = 0 := rfl
  induction entries generalizing scan with
  | nil =>
    have unchanged : scan.scanned [] [] = scan := by simp [scanned, nothing]
    have first := scan.readableBytes.toNat_lt
    have second := scan.writableBytes.toNat_lt
    constructor
    · rintro ⟨rfl⟩
      exact ⟨[], [], rfl, nofun, nofun, nofun, nofun, first, second, unchanged.symm⟩
    rintro ⟨readable, writable, split, _, _, _, _, _, _, rfl⟩
    obtain ⟨rfl, rfl⟩ := append_eq_nil_iff.mp split.symm
    rw [unchanged]
    rfl
  | cons entry rest ih =>
    rw [map_cons, foldlM_cons, bind_eq_ok]
    simp only [visit_eq_ok, ih]
    constructor
    · rintro ⟨_, ⟨nonzero, step⟩, readable, writable, rfl, reads, writes, others, early, first, second, rfl⟩
      split at step
      · rename_i writes'
        obtain ⟨room, rfl⟩ := step
        -- After a writable descriptor there is no readable one.
        obtain rfl : readable = [] := by
          by_contra some
          simpa [scanned] using early some
        simp only [scanned, exact room, same] at first second
        refine ⟨[], entry :: writable, rfl, nofun, forall_mem_cons.mpr ⟨writes', writes⟩,
          forall_mem_cons.mpr ⟨nonzero, others⟩, nofun, first, by rw [bytesOf_cons]; omega, ?_⟩
        exact scanned_scanned [] [entry] [] writable
      · rename_i reads'
        obtain ⟨open_, room, rfl⟩ := step
        simp only [scanned, exact room, same] at first second
        refine ⟨entry :: readable, writable, rfl, forall_mem_cons.mpr ⟨by simpa using reads', reads⟩, writes,
          forall_mem_cons.mpr ⟨nonzero, others⟩, fun _ => open_, by rw [bytesOf_cons]; omega, second, ?_⟩
        exact scanned_scanned [entry] [] readable writable
    · rintro ⟨readable, writable, split, reads, writes, nonzero, early, first, second, rfl⟩
      obtain ⟨here, others⟩ := forall_mem_cons.mp nonzero
      cases readable with
      | nil =>
        cases split
        obtain ⟨writes', writes⟩ := forall_mem_cons.mp writes
        rw [bytesOf_cons] at second
        refine ⟨_, ⟨here, ?_⟩, [], rest, rfl, nofun, writes, others, nofun, ?_, ?_,
          (scanned_scanned [] [entry] [] rest).symm⟩
        · rw [if_pos writes']
          exact ⟨by omega, rfl⟩
        · simp only [scanned, same]
          exact first
        · simp only [scanned, exact (show scan.writableBytes.toNat + entry.2.len.toNat < 2 ^ 64 by omega)]
          omega
      | cons entry' readable =>
        cases split
        obtain ⟨reads', reads⟩ := forall_mem_cons.mp reads
        have open_ := early (cons_ne_nil _ _)
        rw [bytesOf_cons] at first
        have room : scan.readableBytes.toNat + entry.2.len.toNat < 2 ^ 64 := by omega
        refine ⟨_, ⟨here, ?_⟩, readable, writable, rfl, reads, writes, others, fun _ => ?_, ?_, ?_,
          (scanned_scanned [entry] [] readable writable).symm⟩
        · rw [if_neg (by simp [reads'])]
          exact ⟨open_, room, rfl⟩
        · simp [scanned, open_]
        · simp only [scanned, exact room]
          omega
        · simp only [scanned, same]
          exact second

end ChainScan

/-- The layout of regions that stand for descriptors. -/
theorem validateChainLayout_eq_ok {entries : List (UInt16 × Descriptor)} {layout : ChainLayout}
    (few : entries.length ≤ 65535) :
    validateChainLayout (entries.map fun entry => entry.2.region) 65535 = .ok layout ↔ ∃ readable writable,
      entries = readable ++ writable ∧ (∀ entry ∈ readable, entry.2.isWritable = false) ∧
      (∀ entry ∈ writable, entry.2.isWritable = true) ∧ (∀ entry ∈ entries, entry.2.len ≠ 0) ∧
      (readable ≠ [] ∧ writable ≠ []) ∧ bytesOf readable < 2 ^ 64 ∧ bytesOf writable < 2 ^ 64 ∧
      layout = layoutOf readable writable := by
  have empty {part : List (UInt16 × Descriptor)} (short : part.length ≤ 65535) :
      (0 : UInt16) + UInt16.ofNat part.length = 0 ↔ part = [] := by
    rw [UInt16.zero_add, ← UInt16.toNat_inj, UInt16.toNat_ofNat', Nat.mod_eq_of_lt (by omega), UInt16.toNat_zero,
      length_eq_zero_iff]
  have limit : (65535 : UInt16).toNat = 65535 := rfl
  simp only [validateChainLayout, bind_eq_ok, refuseIf_eq_ok, pure_eq_ok, ChainScan.foldlM_eq_ok, length_map]
  constructor
  · rintro ⟨_, _, _, ⟨readable, writable, rfl, reads, writes, nonzero, _, first, second, rfl⟩, _, some, rfl⟩
    rw [length_append] at few
    simp only [ChainScan.scanned, ChainScan.start, not_or, empty (show readable.length ≤ 65535 by omega),
      empty (show writable.length ≤ 65535 by omega)] at some first second
    refine ⟨readable, writable, rfl, reads, writes, nonzero, some, by simpa using first, by simpa using second, ?_⟩
    simp [layoutOf, ChainScan.scanned, ChainScan.start]
  · rintro ⟨readable, writable, rfl, reads, writes, nonzero, some, first, second, rfl⟩
    rw [length_append] at few
    have one := length_pos_iff.mpr some.1
    have two := length_pos_iff.mpr some.2
    refine ⟨(), by rw [length_append]; omega, _, ⟨readable, writable, rfl, reads, writes, nonzero, fun _ => rfl,
      by simpa [ChainScan.start] using first, by simpa [ChainScan.start] using second, rfl⟩, (), ?_, ?_⟩
    · simp only [ChainScan.scanned, ChainScan.start, not_or, empty (show readable.length ≤ 65535 by omega),
        empty (show writable.length ≤ 65535 by omega)]
      exact some
    · simp [layoutOf, ChainScan.scanned, ChainScan.start]

namespace ChainWalk
variable {self final : ChainWalk} {entries : List (UInt16 × Descriptor)}

theorem visitAll_gathers (done : self.visitAll entries = .ok final) :
    final.regions = self.regions ++ (entries.map fun entry => entry.2.region) ∧
      final.spans.length = self.spans.length + entries.length := by
  induction entries generalizing self with
  | nil =>
    cases done
    simp
  | cons entry rest ih =>
    rw [visitAll, foldlM_cons, bind_eq_ok] at done
    obtain ⟨next, visited, done⟩ := done
    obtain ⟨_, _, _, rfl⟩ := visit_eq_ok.mp visited
    obtain ⟨regions, spans⟩ := ih done
    rw [regions, spans]
    simp only [advance, append_assoc, singleton_append, map_cons, length_append, length_cons, length_nil, true_and]
    omega

theorem marked_advanceAll {writable : Bool} (inside : ∀ entry ∈ entries, entry.1.toNat < self.visited.length)
    (i : UInt16) :
    (self.advanceAll writable entries).marked i = (decide (i ∈ entries.map Prod.fst) || self.marked i) := by
  unfold marked advanceAll
  generalize self.visited = visited at inside
  induction entries generalizing visited with
  | nil => simp
  | cons entry rest ih =>
    obtain ⟨here, inside⟩ := forall_mem_cons.mp inside
    rw [foldl_cons, ih _ (by simpa using inside), map_cons]
    by_cases same : i = entry.1
    · simp [same, here]
    have apart : entry.1.toNat ≠ i.toNat := fun equal => same (UInt16.toNat_inj.mp equal.symm)
    simp only [mem_cons, same, false_or, getElem?_set_ne apart]

theorem advanceAll_length (self : ChainWalk) (writable : Bool) (entries : List (UInt16 × Descriptor)) :
    (self.advanceAll writable entries).visited.length = self.visited.length := by
  change (entries.foldl _ self.visited).length = _
  generalize self.visited = visited
  induction entries generalizing visited with
  | nil => rfl
  | cons entry rest ih => rw [foldl_cons, ih, length_set]

end ChainWalk

section Analysis
variable {descriptors : List Descriptor} {head : UInt16} {readable writable : List (UInt16 × Descriptor)}
variable {entries : List (UInt16 × Descriptor)} {start : Nat}

/-- Indices of a table that occur once and are as many as it has are all of them. -/
theorem perm_range_iff {indices : List Nat} {count : Nat} (inside : ∀ i ∈ indices, i < count) :
    indices.Perm (range count) ↔ indices.Nodup ∧ indices.length = count := by
  constructor
  · exact fun perm => ⟨perm.nodup_iff.mpr nodup_range, by rw [perm.length_eq, length_range]⟩
  rintro ⟨nodup, all⟩
  refine (subperm_of_subset nodup fun i member => mem_range.mpr (inside i member)).perm_of_length_le ?_
  rw [length_range, all]

/-- The walk over a chain that is readable first. -/
theorem visitAll_start_eq_ok {final : ChainWalk}
    (inside : ∀ entry ∈ readable ++ writable, entry.1.toNat < descriptors.length)
    (reads : ∀ entry ∈ readable, entry.2.isWritable = false)
    (writes : ∀ entry ∈ writable, entry.2.isWritable = true) :
    (ChainWalk.start descriptors.length).visitAll (readable ++ writable) = .ok final ↔
      ((readable ++ writable).map Prod.fst).Nodup ∧ (∀ entry ∈ readable ++ writable, Admits entry.2) ∧
      bytesOf readable < 2 ^ 64 ∧ bytesOf writable < 2 ^ 64 ∧
      final = ((ChainWalk.start descriptors.length).advanceAll false readable).advanceAll true writable := by
  have unmarked (i : UInt16) : (start descriptors.length).marked i = false := by
    simp only [marked, start, getElem?_replicate]
    split <;> rfl
  have sized : (start descriptors.length).visited.length = descriptors.length := length_replicate
  have kept := advanceAll_length (.start descriptors.length) false readable
  obtain ⟨first, second⟩ := forall_mem_append.mp inside
  have phase := @visitAll_eq_ok ((start descriptors.length).advanceAll false readable) final writable true
    writes (by rw [kept, sized]; exact second)
  have zero : ((start descriptors.length).advanceAll false readable).endOf true = 0 := rfl
  have zero' : (start descriptors.length).endOf false = 0 := rfl
  simp only [marked_advanceAll (by rw [sized]; exact first), unmarked, Bool.or_false, zero, UInt64.toNat_zero,
    Nat.zero_add, decide_eq_false_iff_not] at phase
  rw [ChainWalk.visitAll, foldlM_append, bind_eq_ok]
  change (∃ middle, visitAll _ readable = .ok middle ∧ visitAll middle writable = .ok final) ↔ _
  simp only [visitAll_eq_ok reads (by rw [sized]; exact first), unmarked, zero', UInt64.toNat_zero, Nat.zero_add,
    map_append, nodup_append, forall_mem_append]
  constructor
  · rintro ⟨_, ⟨_, nodup, admits, fits, rfl⟩, rest⟩
    obtain ⟨apart, nodup', admits', fits', rfl⟩ := phase.mp rest
    refine ⟨⟨nodup, nodup', fun i member j among same => ?_⟩, ⟨admits, admits'⟩, fits, fits', rfl⟩
    obtain ⟨entry, member', rfl⟩ := mem_map.mp among
    exact apart entry member' (same ▸ member)
  · rintro ⟨⟨nodup, nodup', apart⟩, ⟨admits, admits'⟩, fits, fits', rfl⟩
    refine ⟨_, ⟨fun _ _ => trivial, nodup, admits, fits, rfl⟩, phase.mpr ⟨fun entry member among => ?_, nodup',
      admits', fits', rfl⟩⟩
    exact apart _ among _ (mem_map_of_mem member) rfl

/-- The analysis takes exactly the direct chains for valid, and says what they are. -/
theorem analyzeChain_eq_valid (few : descriptors.length ≤ 32768) {layout : ChainLayout}
    {spans : List DescriptorSpan} {regions : List ChainRegion} :
    analyzeChain descriptors head = .valid layout spans regions ↔ ∃ readable writable,
      DirectChain descriptors head readable writable ∧ layout = layoutOf readable writable ∧
      spans = spansFrom 0 readable ++ spansFrom 0 writable ∧
      regions = (readable ++ writable).map fun entry => entry.2.region := by
  have numbers {entries : List (UInt16 × Descriptor)} :
      (entries.map fun entry => entry.1.toNat).Nodup ↔ (entries.map Prod.fst).Nodup := by
    have step : (entries.map fun entry => entry.1.toNat) = (entries.map Prod.fst).map UInt16.toNat := by
      rw [map_map]
      rfl
    rw [step, nodup_map_iff fun _ _ => UInt16.toNat_inj.mp]
  have inside {entries : List (UInt16 × Descriptor)} (path : Path descriptors head entries) :
      ∀ entry ∈ entries, entry.1.toNat < descriptors.length := fun entry member =>
    (List.getElem?_eq_some_iff.mp (path.found entry member)).1
  have within {entries : List (UInt16 × Descriptor)} (path : Path descriptors head entries) :
      ∀ i ∈ entries.map fun entry => entry.1.toNat, i < descriptors.length := by
    intro i member
    obtain ⟨entry, among, rfl⟩ := mem_map.mp member
    exact inside path entry among
  constructor
  · intro valid
    unfold analyzeChain at valid
    split at valid
    · cases valid
    rename_i walk walked
    split at valid
    · cases valid
    rename_i all
    split at valid
    · cases valid
    rename_i found validated
    cases valid
    obtain ⟨entries, path, _, visited⟩ := walk_eq_ok.mp walked
    obtain ⟨gathered, counted⟩ := visitAll_gathers visited
    have count : entries.length = descriptors.length := by
      rw [not_not] at all
      rw [← all, counted]
      exact (Nat.zero_add _).symm
    rw [gathered] at validated
    obtain ⟨readable, writable, rfl, reads, writes, nonzero, some, _, _, rfl⟩ :=
      (validateChainLayout_eq_ok (by omega)).mp validated
    obtain ⟨nodup, admits, fits, fits', rfl⟩ := (visitAll_start_eq_ok (inside path) reads writes).mp visited
    refine ⟨readable, writable, ⟨path, (perm_range_iff (within path)).mpr ⟨numbers.mpr nodup, ?_⟩,
      fun entry member => (admits entry member).flags, fun entry member => (admits entry member).mapped, nonzero,
      reads, writes, some, fits, fits'⟩, rfl, rfl, gathered⟩
    rw [length_map, count]
  · rintro ⟨readable, writable, direct, rfl, rfl, rfl⟩
    obtain ⟨nodup, count⟩ := (perm_range_iff (within direct.path)).mp direct.once
    rw [length_map] at count
    have visited := (visitAll_start_eq_ok (inside direct.path) direct.reads direct.writes).mpr
      ⟨numbers.mp nodup, fun entry member => ⟨direct.flags entry member, direct.mapped entry member⟩, direct.fits.1,
        direct.fits.2, rfl⟩
    obtain ⟨gathered, counted⟩ := visitAll_gathers visited
    have walked := walk_eq_ok.mpr ⟨_, direct.path, show _ ≤ descriptors.length + 1 by omega, visited⟩
    have validated := (@validateChainLayout_eq_ok (readable ++ writable) (layoutOf readable writable)
      (by omega)).mpr
      ⟨readable, writable, rfl, direct.reads, direct.writes, direct.nonzero, direct.some, direct.fits.1,
        direct.fits.2, rfl⟩
    unfold analyzeChain
    rw [walked]
    dsimp only
    rw [if_neg (by rw [counted, count]; simp [start]), gathered.trans (nil_append _), validated]
    rfl

theorem spansFrom_length (start : Nat) (entries : List (UInt16 × Descriptor)) :
    (spansFrom start entries).length = entries.length := by
  induction entries generalizing start with
  | nil => rfl
  | cons entry rest ih => rw [spansFrom, length_cons, ih, length_cons]

theorem spansFrom_descriptors (start : Nat) (entries : List (UInt16 × Descriptor)) :
    (spansFrom start entries).map (·.descriptor) = entries.map Prod.fst := by
  induction entries generalizing start with
  | nil => rfl
  | cons entry rest ih => rw [spansFrom, map_cons, ih, map_cons]

/-- Each span ends at the sum of the lengths up to it. -/
theorem spansFrom_ends (fits : start + bytesOf entries < 2 ^ 64) :
    (spansFrom start entries).map (·.end_.toNat) =
      (range entries.length).map fun k => start + bytesOf (entries.take (k + 1)) := by
  induction entries generalizing start with
  | nil => rfl
  | cons entry rest ih =>
    rw [bytesOf_cons] at fits
    rw [spansFrom, map_cons, ih (by omega), length_cons, range_succ_eq_map, map_cons, map_map]
    congr 1
    · rw [UInt64.toNat_ofNat', Nat.mod_eq_of_lt (by omega)]
      simp [bytesOf]
    refine map_congr_left fun k _ => ?_
    rw [Function.comp_apply, take_succ_cons, bytesOf_cons, Nat.add_assoc]

theorem spansFrom_later (fits : start + bytesOf entries < 2 ^ 64) (nonzero : ∀ entry ∈ entries, entry.2.len ≠ 0) :
    ∀ span ∈ spansFrom start entries, start < span.end_.toNat := by
  induction entries generalizing start with
  | nil => exact nofun
  | cons entry rest ih =>
    rw [bytesOf_cons] at fits
    have positive : 0 < entry.2.len.toNat :=
      Nat.pos_of_ne_zero fun zero => nonzero _ mem_cons_self (UInt64.toNat_inj.mp zero)
    rw [spansFrom, forall_mem_cons, UInt64.toNat_ofNat']
    refine ⟨by omega, fun span member => ?_⟩
    have after := ih (by omega) (fun entry among => nonzero entry (mem_cons_of_mem _ among)) span member
    omega

theorem spansFrom_increasing (fits : start + bytesOf entries < 2 ^ 64)
    (nonzero : ∀ entry ∈ entries, entry.2.len ≠ 0) :
    ((spansFrom start entries).map (·.end_.toNat)).Pairwise (· < ·) := by
  induction entries generalizing start with
  | nil => exact .nil
  | cons entry rest ih =>
    rw [bytesOf_cons] at fits
    have others : ∀ entry ∈ rest, entry.2.len ≠ 0 := fun entry among => nonzero entry (mem_cons_of_mem _ among)
    rw [spansFrom, map_cons, pairwise_cons, forall_mem_map, UInt64.toNat_ofNat', Nat.mod_eq_of_lt (by omega)]
    exact ⟨spansFrom_later (by omega) others, ih (by omega) others⟩

theorem DirectChain.few {readable writable : List (UInt16 × Descriptor)}
    (direct : DirectChain descriptors head readable writable) :
    readable.length + writable.length = descriptors.length := by
  have same := direct.once.length_eq
  rwa [length_map, length_append, length_range] at same

/-- What a valid analysis keeps for each direction. -/
theorem DirectChain.spans_eq {readable writable : List (UInt16 × Descriptor)}
    (direct : DirectChain descriptors head readable writable) (few : descriptors.length ≤ 32768) (writes : Bool) :
    (analyzeChain descriptors head).spans writes = spansFrom 0 (if writes then writable else readable) := by
  have valid := (analyzeChain_eq_valid few).mpr ⟨readable, writable, direct, rfl, rfl, rfl⟩
  have count := direct.few
  have split : (UInt16.ofNat readable.length).toNat = (spansFrom 0 readable).length := by
    rw [spansFrom_length, UInt16.toNat_ofNat', Nat.mod_eq_of_lt (by omega)]
  rw [valid]
  cases writes
  · exact take_left' split.symm
  · exact drop_left' split.symm

/-- The analysis of a table ends; it takes a table for valid exactly when the table is a direct chain from the
head; and then the layout, the regions and the spans are those of the chain in the order of the walk. -/
theorem analyzeChain_valid_iff (few : descriptors.length ≤ 32768) :
    Ends descriptors head (.start descriptors.length)
      (walk descriptors (descriptors.length + 1) head (.start descriptors.length)) ∧
    (∀ layout spans regions, analyzeChain descriptors head = .valid layout spans regions ↔ ∃ readable writable,
      DirectChain descriptors head readable writable ∧ layout = layoutOf readable writable ∧
      spans = spansFrom 0 readable ++ spansFrom 0 writable ∧
      regions = (readable ++ writable).map fun entry => entry.2.region) ∧
    ∀ readable writable, DirectChain descriptors head readable writable → ∀ writes,
      let part := if writes then writable else readable
      let spans := (analyzeChain descriptors head).spans writes
      spans.map (·.descriptor) = part.map Prod.fst ∧
      spans.map (·.end_.toNat) = ((range part.length).map fun k => bytesOf (part.take (k + 1))) ∧
      (spans.map (·.end_.toNat)).Pairwise (· < ·) := by
  refine ⟨walk_ends ?_ ?_, fun _ _ _ => analyzeChain_eq_valid few, fun readable writable direct writes => ?_⟩
  · exact Nat.lt_succ_of_le (countP_le_length.trans_eq length_replicate)
  · exact length_replicate
  have fits : 0 + bytesOf (if writes then writable else readable) < 2 ^ 64 := by
    rw [Nat.zero_add]
    cases writes
    exacts [direct.fits.1, direct.fits.2]
  have nonzero : ∀ entry ∈ (if writes then writable else readable), entry.2.len ≠ 0 := by
    intro entry member
    refine direct.nonzero entry (mem_append.mpr ?_)
    cases writes
    exacts [.inl member, .inr member]
  rw [direct.spans_eq few]
  refine ⟨spansFrom_descriptors .., ?_, spansFrom_increasing fits nonzero⟩
  simpa only [Nat.zero_add] using spansFrom_ends fits

/-- Two bytes to read, linked to one to write. -/
def linkedPair : List Descriptor :=
  [.raw [1, 2] (by decide) descriptorNext 1, .raw [3] (by decide) descriptorWrite 0]

/-- The analysis takes the pair for valid, so that it is a direct chain. -/
theorem analyzeChain_valid_iff_pair :
    linkedPair.length ≤ 32768 ∧ ∃ readable writable, DirectChain linkedPair 0 readable writable := by
  refine ⟨by decide, ?_⟩
  obtain ⟨readable, writable, direct, _⟩ :=
    ((@analyzeChain_valid_iff linkedPair 0 (by decide)).2.1 ⟨2, 1, 1, 2, 1⟩ [⟨0, 2⟩, ⟨1, 1⟩]
      [⟨.deviceReadable, 2⟩, ⟨.deviceWritable, 1⟩]).mp (by decide)
  exact ⟨readable, writable, direct⟩

end Analysis

end VirtioAccel
