import VirtioAccel.Library.SlotSums
import VirtioAccel.Transport.SplitQueue

/-! How the descriptor table hands out its slots and takes them back. -/

namespace VirtioAccel
open List
variable {slot : UInt16} {α : Type} {table : List (Option α)}

theorem entryAt_set {other : UInt16} (inside : slot.toNat < table.length) (entry : Option α) :
    entryAt (table.set slot.toNat entry) other = if other = slot then entry else entryAt table other := by
  unfold entryAt
  rw [getElem?_set]
  by_cases same : other = slot
  · subst same
    rw [if_pos rfl, if_pos inside, if_pos rfl]
    rfl
  · rw [if_neg (fun equal => same (UInt16.toNat_inj.mp equal.symm)), if_neg same]

theorem entryAt_some {x : α} (found : entryAt table slot = some x) : table[slot.toNat]? = some (some x) := by
  exact Option.join_eq_some_iff.mp found

theorem entryAt_none (inside : slot.toNat < table.length) (free : entryAt table slot = none) :
    table[slot.toNat]? = some none := by
  unfold entryAt at free
  rw [getElem?_eq_getElem inside] at free ⊢
  rw [Option.join_some] at free
  rw [free]

theorem DriverChain.queueHeadSlot_mem {D : Type} [ChainShape D] (chain : DriverChain D) :
    chain.queueHeadSlot ∈ chain.slots := by
  unfold DriverChain.queueHeadSlot
  cases found : chain.slots[chain.head.toNat]? with
  | none => exact head_mem _
  | some slot => exact mem_of_getElem? found

namespace RingStorage
variable {D : Type} [ChainShape D] {s : RingStorage D}
variable {s' : RingStorage D} {slots : List UInt16} {cursor : UInt16}

theorem toNat_next (s : RingStorage D) (cursor : UInt16) :
    (s.wrappingDescriptorAdd cursor 1).toNat = (cursor.toNat + 1) % s.size.value.toNat := by
  rw [wrappingDescriptorAdd, QueueSize.mask, UInt16.toNat_add, Nat.mod_mod_of_dvd _ s.size.dvd_wrap]
  rfl

/-- A scan of `left` slots finds a free one if there is one among them. -/
theorem findFree_spec {left : Nat} (inside : cursor.toNat < s.size.value.toNat) {n : Nat} (near : n < left)
    (place : slot.toNat = (cursor.toNat + n) % s.size.value.toNat) (free : s.owner slot = none) :
    ∃ found, s.findFree left cursor = some found ∧ found.toNat < s.size.value.toNat ∧ s.owner found = none := by
  induction left generalizing cursor n with
  | zero => omega
  | succ left ih =>
    unfold findFree
    by_cases taken : (s.owner cursor).isSome = true
    · rw [if_pos taken]
      have next := toNat_next s cursor
      cases n with
      | zero =>
        rw [Nat.add_zero, Nat.mod_eq_of_lt inside] at place
        rw [UInt16.toNat_inj.mp place] at free
        simp [free] at taken
      | succ n =>
        refine ih (by rw [next]; exact Nat.mod_lt _ s.size.pos) (show n < left by omega) ?_
        rw [place, next, Nat.mod_add_mod]
        congr 1
        omega
    · rw [if_neg taken]
      exact ⟨cursor, rfl, inside, by simpa using taken⟩

/-- The scan that `allocate_descriptors` makes sees the whole table. -/
theorem findFree_total (inside : cursor.toNat < s.size.value.toNat) (within : slot.toNat < s.size.value.toNat)
    (free : s.owner slot = none) :
    ∃ found, s.findFree s.size.value.toNat cursor = some found ∧ found.toNat < s.size.value.toNat ∧
      s.owner found = none := by
  have positive := s.size.pos
  refine findFree_spec inside (n := (slot.toNat + (s.size.value.toNat - cursor.toNat)) % s.size.value.toNat)
    (Nat.mod_lt _ positive) ?_ free
  rw [Nat.add_mod_mod, show cursor.toNat + (slot.toNat + (s.size.value.toNat - cursor.toNat)) =
    slot.toNat + s.size.value.toNat by omega, Nat.add_mod_right, Nat.mod_eq_of_lt within]

/-- The slots without an owner. -/
def unowned (s : RingStorage D) : Nat := s.descriptors.countP Option.isNone

/-- A change of the descriptor table alone. -/
structure Reowns (s s' : RingStorage D) : Prop where
  rest : s' = { s with descriptors := s'.descriptors }
  length : s'.descriptors.length = s.descriptors.length

theorem Reowns.refl (s : RingStorage D) : Reowns s s := ⟨rfl, rfl⟩

theorem Reowns.trans {middle : RingStorage D} (first : Reowns s middle) (second : Reowns middle s') :
    Reowns s s' := by
  refine ⟨?_, second.length.trans first.length⟩
  rw [second.rest, first.rest]

theorem setOwner_reowns (s : RingStorage D) (slot : UInt16) (owner : Option DescriptorOwner) :
    Reowns s (s.setOwner slot owner) := ⟨rfl, length_set ..⟩

theorem owner_setOwner (inside : slot.toNat < s.descriptors.length) (owner : Option DescriptorOwner)
    (other : UInt16) : (s.setOwner slot owner).owner other = if other = slot then owner else s.owner other :=
  entryAt_set inside owner

theorem unowned_setOwner (inside : slot.toNat < s.descriptors.length) (owner : Option DescriptorOwner) :
    (s.setOwner slot owner).unowned + (s.owner slot).elim 1
    (fun _ => 0) = s.unowned + owner.elim 1 (fun _ => 0) := by
  have weight (l : List (Option DescriptorOwner)) :
      l.countP Option.isNone = (l.map (fun entry => entry.elim 1 (fun _ => 0))).sum := by
    induction l with
    | nil => rfl
    | cons entry rest ih => cases entry <;> simp [ih, Nat.add_comm]
  have found : s.descriptors[slot.toNat]? = some (s.owner slot) := by
    cases entry : s.owner slot with
    | none => exact entryAt_none inside entry
    | some owner => exact entryAt_some entry
  rw [unowned, unowned, weight, weight]
  exact SlotSums.sum_map_set _ found owner

theorem exists_unowned (length : s.descriptors.length = s.size.value.toNat) (room : 0 < s.unowned) :
    ∃ slot : UInt16, slot.toNat < s.size.value.toNat ∧ s.owner slot = none := by
  obtain ⟨entry, member, free⟩ := countP_pos_iff.mp room
  obtain ⟨n, inside, found⟩ := getElem_of_mem member
  have bound := s.size.le_max
  have number : (UInt16.ofNat n).toNat = n := by
    rw [UInt16.toNat_ofNat', Nat.mod_eq_of_lt (by omega)]
  refine ⟨UInt16.ofNat n, by omega, ?_⟩
  rw [owner, entryAt, number, getElem?_eq_getElem inside, found]
  exact Option.isNone_iff_eq_none.mp free

/-- These slots were free and now belong to one chain, from its `first` descriptor on. -/
structure Takes (s s' : RingStorage D) (fresh : List UInt16) (first : Nat) : Prop where
  change : Reowns s s'
  nodup : fresh.Nodup
  free : ∀ slot ∈ fresh, slot.toNat < s.size.value.toNat ∧ s.owner slot = none
  owned : ∀ i slot, fresh[i]? = some slot → s'.owner slot = some ⟨0, UInt16.ofNat (first + i)⟩
  kept : ∀ slot, slot ∉ fresh → s'.owner slot = s.owner slot
  count : s'.unowned + fresh.length = s.unowned

theorem Takes.cons {fresh : List UInt16} {first : Nat} (length : s.descriptors.length = s.size.value.toNat)
    (inside : slot.toNat < s.size.value.toNat) (free : s.owner slot = none)
    (takes : Takes (s.setOwner slot (some ⟨0, UInt16.ofNat first⟩)) s' fresh (first + 1)) :
    Takes s s' (slot :: fresh) first := by
  have within : slot.toNat < s.descriptors.length := by omega
  have lookup := owner_setOwner within (some ⟨0, UInt16.ofNat first⟩)
  have other : slot ∉ fresh := by
    intro member
    have taken := (takes.free slot member).2
    rw [lookup, if_pos rfl] at taken
    cases taken
  have change := unowned_setOwner within (some ⟨0, UInt16.ofNat first⟩)
  rw [free] at change
  refine ⟨(setOwner_reowns s slot _).trans takes.change, nodup_cons.mpr ⟨other, takes.nodup⟩, ?_, ?_, ?_, ?_⟩
  · intro target member
    rcases mem_cons.mp member with rfl | later
    · exact ⟨inside, free⟩
    obtain ⟨bound, unowned⟩ := takes.free target later
    rw [lookup, if_neg (by rintro rfl; exact other later)] at unowned
    exact ⟨bound, unowned⟩
  · intro i target found
    cases i with
    | zero =>
      cases found
      rw [takes.kept slot other, lookup, if_pos rfl]
      rfl
    | succ i =>
      rw [takes.owned i target found]
      congr 3
      omega
  · intro target absent
    rw [mem_cons, not_or] at absent
    rw [takes.kept target absent.2, lookup, if_neg absent.1]
  · have count := takes.count
    simp only [Option.elim_none, Option.elim_some] at change
    rw [length_cons]
    omega

theorem takeDescriptors_spec (s : RingStorage D) (chain : DriverChain D) (cursor : UInt16) (left allocated : Nat)
    (length : s.descriptors.length = s.size.value.toNat) (inside : cursor.toNat < s.size.value.toNat)
    (room : left ≤ s.unowned) (sized : allocated + left = chain.slots.length) :
    ∃ cursor' s' chain', s.takeDescriptors chain cursor left allocated = (.ok cursor', s', chain') ∧
      cursor'.toNat < s.size.value.toNat ∧ chain'.data = chain.data ∧ chain'.head = chain.head ∧
      chain'.slots.take allocated = chain.slots.take allocated ∧
      Takes s s' (chain'.slots.drop allocated) allocated := by
  induction left generalizing s chain cursor allocated with
  | zero =>
    refine ⟨cursor, s, chain, rfl, inside, rfl, rfl, rfl, ?_⟩
    rw [drop_of_length_le (by omega)]
    exact ⟨.refl s, nodup_nil, nofun, nofun, fun _ _ => rfl, rfl⟩
  | succ left ih =>
    obtain ⟨slot, within, unowned⟩ := exists_unowned length (by omega)
    obtain ⟨found, scanned, bound, free⟩ := findFree_total inside within unowned
    have change := unowned_setOwner (show found.toNat < s.descriptors.length by omega)
      (some ⟨0, UInt16.ofNat allocated⟩)
    simp only [free, Option.elim_none, Option.elim_some] at change
    obtain ⟨cursor', s', chain', done, ahead, data, head, before, takes⟩ :=
      ih (s.setOwner found (some ⟨0, UInt16.ofNat allocated⟩)) (chain.setSlot allocated found)
        (s.wrappingDescriptorAdd found 1) (allocated + 1)
        ((setOwner_reowns s found _).length.trans length) (by rw [toNat_next]; exact Nat.mod_lt _ s.size.pos)
          (by omega)
        (by simp only [DriverChain.setSlot, length_set]; omega)
    have here : chain'.slots[allocated]? = some found := by
      have same := congrArg (fun slots => slots[allocated]?) before
      simp only [getElem?_take_of_lt (Nat.lt_succ_self allocated), DriverChain.setSlot] at same
      rw [same, getElem?_set, if_pos rfl, if_pos (by omega)]
    refine ⟨cursor', s', chain', ?_, ahead, data, head, ?_, ?_⟩
    · rw [takeDescriptors, scanned]
      exact done
    · have same := congrArg (take allocated) before
      rw [take_take, take_take, Nat.min_eq_left (by omega), DriverChain.setSlot,
        take_set_of_le (Nat.le_refl _)] at same
      exact same
    · rw [drop_eq_getElem?_toList_append, here]
      exact .cons length bound free takes

theorem nameHead_spec (s : RingStorage D) (head : UInt16) (nodup : slots.Nodup)
    (owned : ∀ slot ∈ slots, (s.owner slot).isSome) :
    ∃ s', s.nameHead head slots = (.ok (), s') ∧ Reowns s s' ∧ s'.unowned = s.unowned ∧
      (∀ slot ∈ slots, s'.owner slot = (s.owner slot).map (fun owner => { owner with head })) ∧
      ∀ slot, slot ∉ slots → s'.owner slot = s.owner slot := by
  induction slots generalizing s with
  | nil => exact ⟨s, rfl, .refl s, rfl, nofun, fun _ _ => rfl⟩
  | cons slot rest ih =>
    obtain ⟨other, later⟩ := nodup_cons.mp nodup
    obtain ⟨owner, found⟩ := Option.isSome_iff_exists.mp (owned slot mem_cons_self)
    have within : slot.toNat < s.descriptors.length := (List.getElem?_eq_some_iff.mp (entryAt_some found)).1
    have lookup := owner_setOwner within (some { owner with head })
    have count := unowned_setOwner within (some { owner with head })
    simp only [found, Option.elim_some, Nat.add_zero] at count
    obtain ⟨s', done, change, unowned, renamed, kept⟩ := ih (s.setOwner slot (some { owner with head })) later (by
      intro target member
      rw [lookup]
      split
      · rfl
      · exact owned target (mem_cons_of_mem _ member))
    refine ⟨s', ?_, (setOwner_reowns s slot _).trans change, unowned.trans count, ?_, ?_⟩
    · rw [nameHead, found]
      exact done
    · intro target member
      rcases mem_cons.mp member with rfl | later
      · rw [kept target other, lookup, if_pos rfl, found]
        rfl
      · rw [renamed target later, lookup, if_neg (by rintro rfl; exact other later)]
    · intro target absent
      rw [mem_cons, not_or] at absent
      rw [kept target absent.2, lookup, if_neg absent.1]

/-- The chain got slots that were free, under the slot of its head. -/
structure Allocates (s s' : RingStorage D) (chain chain' : DriverChain D) (head : UInt16) : Prop where
  rest : s' = { s with
    descriptors := s'.descriptors, nextDescriptor := s'.nextDescriptor, freeDescriptors := s'.freeDescriptors }
  length : s'.descriptors.length = s.descriptors.length
  next : s'.nextDescriptor.toNat < s.size.value.toNat
  data : chain'.data = chain.data
  localHead : chain'.head = chain.head
  headed : head ∈ chain'.slots
  nodup : chain'.slots.Nodup
  free : ∀ slot ∈ chain'.slots, slot.toNat < s.size.value.toNat ∧ s.owner slot = none
  owned : ∀ i slot, chain'.slots[i]? = some slot → s'.owner slot = some ⟨head, UInt16.ofNat i⟩
  kept : ∀ slot, slot ∉ chain'.slots → s'.owner slot = s.owner slot
  count : s'.unowned + chain'.slots.length = s.unowned
  freeCount : s'.freeDescriptors.toNat + chain'.slots.length = s.freeDescriptors.toNat

/-- With enough free descriptors the chain gets its own. -/
theorem allocate_spec {chain : DriverChain D} (length : s.descriptors.length = s.size.value.toNat)
    (next : s.nextDescriptor.toNat < s.size.value.toNat) (counted : s.freeDescriptors.toNat = s.unowned)
    (room : chain.descriptorCount ≤ s.freeDescriptors) :
    ∃ head s' chain', s.allocateDescriptors chain = (.ok head, s', chain') ∧ Allocates s s' chain chain' head := by
  have enough : chain.slots.length ≤ s.unowned := by
    have bound := UInt16.le_iff_toNat_le.mp room
    have sized := chain.sized
    unfold DriverChain.descriptorCount at bound
    omega
  obtain ⟨cursor, taken, chain', took, ahead, data, localHead, _, takes⟩ :=
    takeDescriptors_spec s chain s.nextDescriptor _ 0 length next enough (Nat.zero_add _)
  rw [drop_zero] at takes
  have count : chain'.slots.length = chain.descriptorCount.toNat := by
    rw [chain'.sized, data]
    rfl
  have owner {slot : UInt16} (member : slot ∈ chain'.slots) : (taken.owner slot).isSome := by
    obtain ⟨i, found⟩ := mem_iff_getElem?.mp member
    rw [takes.owned i slot found]
    rfl
  obtain ⟨s', named, change, unowned, renamed, kept⟩ :=
    nameHead_spec taken chain'.queueHeadSlot takes.nodup (fun _ member => owner member)
  have free : s'.freeDescriptors = s.freeDescriptors := by rw [change.rest, takes.change.rest]
  refine ⟨chain'.queueHeadSlot, { s' with
      nextDescriptor := cursor, freeDescriptors := s'.freeDescriptors - chain.descriptorCount }, chain', ?_, ?_⟩
  · have sized : chain.descriptorCount.toNat = chain.slots.length := chain.sized.symm
    rw [allocateDescriptors, if_neg (UInt16.not_lt.mpr room), sized, took]
    simp only [named]
  exact {
    rest := by rw [change.rest, takes.change.rest]
    length := change.length.trans takes.change.length
    next := ahead
    data := data
    localHead := localHead
    headed := chain'.queueHeadSlot_mem
    nodup := takes.nodup
    free := takes.free
    owned := by
      intro i slot found
      have named := renamed slot (mem_of_getElem? found)
      rw [takes.owned i slot found, Nat.zero_add] at named
      exact named
    kept := fun slot absent => (kept slot absent).trans (takes.kept slot absent)
    count := by
      have before := takes.count
      change s'.unowned + _ = _
      omega
    freeCount := by
      rw [free, UInt16.toNat_sub_of_le _ _ room, count]
      have bound := UInt16.le_iff_toNat_le.mp room
      omega }

/-- The slots are free again, and counted. -/
structure Releases (s s' : RingStorage D) (slots : List UInt16) : Prop where
  rest : s' = { s with descriptors := s'.descriptors, freeDescriptors := s'.freeDescriptors }
  length : s'.descriptors.length = s.descriptors.length
  freed : ∀ slot ∈ slots, s'.owner slot = none
  kept : ∀ slot, slot ∉ slots → s'.owner slot = s.owner slot
  count : s'.unowned = s.unowned + slots.length
  freeCount : s'.freeDescriptors = s.freeDescriptors + UInt16.ofNat slots.length

/-- The descriptors of a chain are free again. -/
theorem release_spec (nodup : slots.Nodup) (owned : ∀ slot ∈ slots, (s.owner slot).isSome) :
    Releases s (slots.foldl releaseDescriptor s) slots := by
  induction slots generalizing s with
  | nil => exact ⟨rfl, rfl, nofun, fun _ _ => rfl, rfl, (UInt16.add_zero _).symm⟩
  | cons slot rest ih =>
    obtain ⟨other, later⟩ := nodup_cons.mp nodup
    obtain ⟨owner, found⟩ := Option.isSome_iff_exists.mp (owned slot mem_cons_self)
    have within : slot.toNat < s.descriptors.length := (List.getElem?_eq_some_iff.mp (entryAt_some found)).1
    have lookup := owner_setOwner within none
    have count := unowned_setOwner within none
    simp only [found, Option.elim_some, Option.elim_none, Nat.add_zero] at count
    have released : s.releaseDescriptor slot =
        { s.setOwner slot none with freeDescriptors := s.freeDescriptors + 1 } := by
      rw [releaseDescriptor, found]
    have tail := ih (s := s.releaseDescriptor slot) later (by
      intro target member
      rw [released]
      change ((s.setOwner slot none).owner target).isSome
      rw [lookup, if_neg (by rintro rfl; exact other member)]
      exact owned target (mem_cons_of_mem _ member))
    rw [released] at tail
    rw [foldl_cons, released]
    refine ⟨?_, tail.length.trans (setOwner_reowns s slot none).length, ?_, ?_, ?_, ?_⟩
    · rw [tail.rest]
      rfl
    · intro target member
      rcases mem_cons.mp member with rfl | later
      · rw [tail.kept target other]
        change (s.setOwner target none).owner target = none
        rw [lookup, if_pos rfl]
      · exact tail.freed target later
    · intro target absent
      rw [mem_cons, not_or] at absent
      rw [tail.kept target absent.2]
      change (s.setOwner slot none).owner target = _
      rw [lookup, if_neg absent.1]
    · rw [tail.count, length_cons]
      change (s.setOwner slot none).unowned + _ = _
      omega
    · rw [tail.freeCount, length_cons, UInt16.ofNat_add]
      change s.freeDescriptors + 1 + _ = s.freeDescriptors + (_ + 1)
      rw [UInt16.add_assoc, UInt16.add_comm 1]

end RingStorage

end VirtioAccel
