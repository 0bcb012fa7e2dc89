import VirtioAccel.Transport.ChainTopology

/-! Access by span is access to one string: each direction of a valid chain is the concatenation of its
descriptors. -/

namespace VirtioAccel
open List
variable {chain : DriverChain ChainData}

def BufferStorage.bytes : BufferStorage → List UInt8
  | .mapped bytes _ => bytes
  | .unmapped _ => []

/-- What the analysis sees of a descriptor. -/
def Descriptor.shape (self : Descriptor) : UInt16 × UInt16 × Bool × UInt64 :=
  (self.flags, self.next, self.buffer.isMapped, self.len)

theorem ChainWalk.visit_congr {self : ChainWalk} {current : UInt16} {descriptor other : Descriptor}
    (same : other.shape = descriptor.shape) : self.visit current other = self.visit current descriptor := by
  simp only [Descriptor.shape, Prod.mk.injEq] at same
  obtain ⟨flags, _, mapped, len⟩ := same
  have writes : other.isWritable = descriptor.isWritable := by
    rw [Descriptor.isWritable, flags, Descriptor.isWritable]
  have checks : self.check current other = self.check current descriptor := by rw [check, flags, mapped, check]
  have region : other.region = descriptor.region := by rw [Descriptor.region, writes, len, Descriptor.region]
  rw [visit, checks, writes, len, region, visit]

variable {descriptors : List Descriptor}

theorem ChainWalk.walk_congr {others : List Descriptor}
    (same : others.map Descriptor.shape = descriptors.map Descriptor.shape) (fuel : Nat) (current : UInt16)
    (self : ChainWalk) :
    ChainWalk.walk others fuel current self = ChainWalk.walk descriptors fuel current self := by
  induction fuel generalizing current self with
  | zero => rfl
  | succ fuel ih =>
    have alike : (others[current.toNat]?).map Descriptor.shape =
        (descriptors[current.toNat]?).map Descriptor.shape := by
      rw [← getElem?_map, same, getElem?_map]
    rw [walk, walk]
    cases found : descriptors[current.toNat]? with
    | none =>
      rw [found, Option.map_none, Option.map_eq_none_iff] at alike
      rw [alike]
    | some descriptor =>
      rw [found, Option.map_some, Option.map_eq_some_iff] at alike
      obtain ⟨other, found', shape⟩ := alike
      have fields := shape
      simp only [Descriptor.shape, Prod.mk.injEq] at fields
      rw [found']
      dsimp only
      rw [visit_congr shape, fields.1, fields.2.1]
      simp only [ih]

/-- The analysis reads no byte of the buffers. -/
theorem analyzeChain_congr {others : List Descriptor}
    (same : others.map Descriptor.shape = descriptors.map Descriptor.shape) (head : UInt16) :
    analyzeChain others head = analyzeChain descriptors head := by
  have length := congrArg length same
  rw [length_map, length_map] at length
  unfold analyzeChain
  rw [length, ChainWalk.walk_congr same]

namespace ChainData
variable {self : ChainData} {spans : List DescriptorSpan} {start offset : UInt64}
variable {source : List UInt8} {after : ChainData} {i : Nat}

/-- What the spans stand for, one after the other. -/
def flat (self : ChainData) (spans : List DescriptorSpan) : List UInt8 :=
  spans.flatMap fun span => (self.buffer span.descriptor.toNat).bytes

/-- Each span is a mapped buffer that is not empty, from the end of the span before to its own. -/
def Covers (self : ChainData) : UInt64 → List DescriptorSpan → Prop
  | _, [] => True
  | start, span :: rest =>
    (∃ bytes small, self.buffer span.descriptor.toNat = .mapped bytes small ∧ bytes ≠ [] ∧
      span.end_.toNat = start.toNat + bytes.length) ∧ Covers self span.end_ rest

theorem Covers.congr {other : ChainData} (covers : self.Covers start spans)
    (same : ∀ span ∈ spans, other.buffer span.descriptor.toNat = self.buffer span.descriptor.toNat) :
    other.Covers start spans := by
  induction spans generalizing start with
  | nil => trivial
  | cons span rest ih =>
    obtain ⟨first, later⟩ := forall_mem_cons.mp same
    exact ⟨first ▸ covers.1, ih covers.2 later⟩

theorem flat_congr {other : ChainData}
    (same : ∀ span ∈ spans, other.buffer span.descriptor.toNat = self.buffer span.descriptor.toNat) :
    other.flat spans = self.flat spans := by
  unfold flat
  rw [flatMap_congr fun span member => congrArg BufferStorage.bytes (same span member)]

/-- The place a copy has reached lies in the first of the spans that are left. -/
structure Stands (start : UInt64) (spans : List DescriptorSpan) (place : Nat) : Prop where
  after : start.toNat ≤ place
  before : ∀ span ∈ spans.head?, place < span.end_.toNat

theorem Covers.stands (covers : self.Covers start spans) : Stands start spans start.toNat := by
  refine ⟨Nat.le_refl _, ?_⟩
  cases spans with
  | nil => exact nofun
  | cons span rest =>
    rintro _ ⟨⟩
    obtain ⟨⟨bytes, _, _, some, ends⟩, _⟩ := covers
    have positive := length_pos_iff.mpr some
    omega

/-- What `touch` gives for a place in a span. -/
theorem touch_eq {span : DescriptorSpan} {place : UInt64} {left length : Nat} (after : start.toNat ≤ place.toNat)
    (before : place.toNat < span.end_.toNat) (ends : span.end_.toNat = start.toNat + length) :
    touch start span place left = .ok (place - start, min (length - (place.toNat - start.toNat)) left) := by
  have ordered : start ≤ place := UInt64.le_iff_toNat_le.mpr after
  have below : place ≤ span.end_ := UInt64.le_iff_toNat_le.mpr (by omega)
  rw [touch, if_neg (UInt64.not_lt.mpr ordered), if_neg (UInt64.not_lt.mpr below), UInt64.toNat_sub_of_le _ _ below]
  congr 3
  omega

/-- The loop reads what is left of the range. -/
theorem copyFromSpans_eq {bytes : Nat} {copied : List UInt8} (covers : self.Covers start spans)
    (stands : Stands start spans (offset.toNat + copied.length)) (more : copied.length < bytes)
    (fits : offset.toNat + bytes ≤ start.toNat + (self.flat spans).length) (small : offset.toNat + bytes < 2 ^ 64) :
    self.copyFromSpans offset bytes start spans copied = .ok (copied ++
      ((self.flat spans).drop (offset.toNat + copied.length - start.toNat)).take (bytes - copied.length)) := by
  induction spans generalizing start copied with
  | nil =>
    have after := stands.after
    simp only [flat, flatMap_nil, length_nil] at fits
    omega
  | cons span rest ih =>
    obtain ⟨⟨stored, _, found, some, ends⟩, later⟩ := covers
    have after := stands.after
    have before := stands.before span rfl
    have place : (offset + UInt64.ofNat copied.length).toNat = offset.toNat + copied.length := by
      rw [UInt64.toNat_add, UInt64.toNat_ofNat_of_lt' (show copied.length < 2 ^ 64 by omega),
        Nat.mod_eq_of_lt (by omega)]
    have unfolded : self.flat (span :: rest) = stored ++ self.flat rest := by
      simp only [flat, flatMap_cons, found, BufferStorage.bytes]
    have within : (offset + UInt64.ofNat copied.length - start).toNat =
        offset.toNat + copied.length - start.toNat := by
      rw [UInt64.toNat_sub_of_le _ _ (UInt64.le_iff_toNat_le.mpr (by omega)), place]
    unfold copyFromSpans
    rw [touch_eq (by omega) (by omega) ends, place]
    dsimp only [bind, Except.bind]
    rw [found, BufferStorage.readAt, within]
    rw [unfolded, length_append] at fits
    generalize skip : offset.toNat + copied.length - start.toNat = skipped
    rw [if_pos (by omega), unfolded, drop_append_of_le_length (by omega)]
    dsimp only
    have taken : ((stored.drop skipped).take (min (stored.length - skipped) (bytes - copied.length))).length =
        min (stored.length - skipped) (bytes - copied.length) := by
      rw [length_take, length_drop]
      omega
    rw [length_append, taken]
    by_cases whole : bytes - copied.length ≤ stored.length - skipped
    · rw [Nat.min_eq_right whole, if_pos (by omega), take_append_of_le_length (by rw [length_drop]; omega)]
      rfl
    rw [Nat.min_eq_left (by omega), take_of_length_le (by rw [length_drop]), if_neg (by omega)]
    have reached : offset.toNat + (copied ++ stored.drop skipped).length = span.end_.toNat := by
      rw [length_append, length_drop]
      omega
    rw [ih later (reached ▸ later.stands) (by rw [length_append, length_drop]; omega) (by omega),
      append_assoc, take_append, take_of_length_le (l := stored.drop skipped) (by rw [length_drop]; omega),
      reached, Nat.sub_self, drop_zero, length_append, Nat.sub_sub]

theorem buffer_setBuffer (inside : i < self.descriptors.length) (storage : BufferStorage) (j : Nat) :
    (self.setBuffer i storage).buffer j = if j = i then storage else self.buffer j := by
  unfold buffer setBuffer
  rw [getElem?_modify]
  by_cases same : i = j
  · subst same
    rw [getElem?_eq_getElem inside]
    simp
  · rw [if_neg (Ne.symm same)]
    cases self.descriptors[j]? <;> simp [same]

/-- The descriptors agree in all but the bytes they hold. -/
structure Alike (before after : ChainData) : Prop where
  analysis : after.analysis = before.analysis
  shapes : after.descriptors.map Descriptor.shape = before.descriptors.map Descriptor.shape

theorem Alike.rfl : Alike self self := ⟨.refl _, .refl _⟩

theorem Alike.trans {middle : ChainData} (first : Alike self middle) (second : Alike middle after) :
    Alike self after :=
  ⟨second.analysis.trans first.analysis, second.shapes.trans first.shapes⟩

theorem alike_setBuffer {storage : BufferStorage} (mapped : storage.isMapped = (self.buffer i).isMapped)
    (len : storage.len = (self.buffer i).len) : Alike self (self.setBuffer i storage) := by
  refine ⟨.refl _, ext_getElem? fun j => ?_⟩
  simp only [setBuffer, getElem?_map, getElem?_modify]
  by_cases same : i = j
  · subst same
    rw [buffer] at mapped len
    cases found : self.descriptors[i]? with
    | none => rfl
    | some descriptor =>
      rw [found] at mapped len
      simp [Descriptor.shape, Descriptor.len, mapped, len]
  · cases self.descriptors[j]? <;> simp [same]

theorem inside_of_mapped {bytes : List UInt8} {small : bytes.length < 2 ^ 64}
    (found : self.buffer i = .mapped bytes small) : i < self.descriptors.length := by
  unfold buffer at found
  split at found
  · rename_i there
    exact (List.getElem?_eq_some_iff.mp there).1
  · cases found

/-- What a copy into the spans leaves: it is done, and has changed the bytes of its range only. -/
structure Written (before : ChainData) (spans : List DescriptorSpan) (place : Nat) (source : List UInt8)
    (result : Except ByteAccessError Unit × ChainData) : Prop where
  done : result.1 = .ok ()
  alike : Alike before result.2
  bytes : result.2.flat spans = (before.flat spans).overwrite place source
  others : ∀ i : UInt16, i ∉ spans.map (·.descriptor) → result.2.buffer i.toNat = before.buffer i.toNat

/-- The loop writes what is left of the source, and nothing else. -/
theorem copyToSpans_written {copied : Nat} (covers : self.Covers start spans)
    (once : (spans.map (·.descriptor)).Nodup)
    (stands : Stands start spans (offset.toNat + copied)) (more : copied < source.length)
    (fits : offset.toNat + source.length ≤ start.toNat + (self.flat spans).length)
    (small : offset.toNat + source.length < 2 ^ 64) :
    Written self spans (offset.toNat + copied - start.toNat) (source.drop copied)
      (self.copyToSpans offset source start spans copied) := by
  induction spans generalizing self start copied with
  | nil =>
    have after := stands.after
    simp only [flat, flatMap_nil, length_nil] at fits
    omega
  | cons span rest ih =>
    obtain ⟨⟨stored, bound, found, some, ends⟩, later⟩ := covers
    obtain ⟨apart, once'⟩ := nodup_cons.mp once
    have after := stands.after
    have before := stands.before span rfl
    have inside := inside_of_mapped found
    have place : (offset + UInt64.ofNat copied).toNat = offset.toNat + copied := by
      rw [UInt64.toNat_add, UInt64.toNat_ofNat_of_lt' (show copied < 2 ^ 64 by omega),
        Nat.mod_eq_of_lt (by omega)]
    have within : (offset + UInt64.ofNat copied - start).toNat = offset.toNat + copied - start.toNat := by
      rw [UInt64.toNat_sub_of_le _ _ (UInt64.le_iff_toNat_le.mpr (by omega)), place]
    have unfolded (data : ChainData) :
        data.flat (span :: rest) = (data.buffer span.descriptor.toNat).bytes ++ data.flat rest := flatMap_cons
    unfold copyToSpans
    rw [touch_eq (by omega) (by omega) ends, place]
    dsimp only
    generalize skip : offset.toNat + copied - start.toNat = skipped at within ⊢
    generalize taken : min (stored.length - skipped) (source.length - copied) = count
    have part : ((source.drop copied).take count).length = count := by
      rw [length_take, length_drop]
      omega
    have room : (offset + UInt64.ofNat copied - start).toNat + ((source.drop copied).take count).length ≤
        stored.length := by
      rw [within, part]
      omega
    rw [found, BufferStorage.writeAt, dif_pos room]
    dsimp only
    generalize changed : BufferStorage.mapped (stored.overwrite (offset + UInt64.ofNat copied - start).toNat
      ((source.drop copied).take count)) (by rw [length_overwrite room]; exact bound) = storage
    have bytes : storage.bytes = stored.overwrite skipped ((source.drop copied).take count) := by
      rw [← changed, ← within]
      rfl
    have alike : Alike self (self.setBuffer span.descriptor.toNat storage) := by
      refine alike_setBuffer ?_ ?_
      · rw [← changed, found]
        rfl
      rw [← changed, found]
      exact congrArg UInt64.ofNat (length_overwrite room)
    have kept (i : UInt16) (other : i ≠ span.descriptor) :
        (self.setBuffer span.descriptor.toNat storage).buffer i.toNat = self.buffer i.toNat := by
      rw [buffer_setBuffer inside, if_neg fun same => other (UInt16.toNat_inj.mp same)]
    have beyond : ∀ next ∈ rest, (self.setBuffer span.descriptor.toNat storage).buffer next.descriptor.toNat =
        self.buffer next.descriptor.toNat := fun next member =>
      kept _ fun same => apart (mem_map.mpr ⟨next, member, same⟩)
    have first : (self.setBuffer span.descriptor.toNat storage).buffer span.descriptor.toNat = storage := by
      rw [buffer_setBuffer inside, if_pos (.refl _)]
    rw [unfolded, found, length_append] at fits
    change offset.toNat + source.length ≤ start.toNat + (stored.length + _) at fits
    split
    · rename_i whole
      have all : (source.drop copied).take count = source.drop copied :=
        take_of_length_le (by rw [length_drop]; omega)
      refine ⟨.refl _, alike, ?_, fun i outside => kept i fun same => outside (same ▸ mem_cons_self)⟩
      rw [unfolded, unfolded, first, bytes, flat_congr beyond, found, all]
      exact (overwrite_append_left (by rw [length_drop]; omega)).symm
    · rename_i part'
      have reached : offset.toNat + (copied + count) = span.end_.toNat := by omega
      have rest' := ih (later.congr beyond) once' (reached ▸ later.stands) (by omega)
        (by rw [flat_congr beyond]; omega)
      rw [reached, Nat.sub_self, ← drop_drop] at rest'
      refine ⟨rest'.done, alike.trans rest'.alike, ?_, fun i outside => ?_⟩
      · rw [unfolded, unfolded, rest'.others _ apart, first, rest'.bytes, bytes, flat_congr beyond, found]
        refine Eq.trans ?_ (overwrite_append_across (show skipped ≤ stored.length by omega)
          (by rw [length_drop]; omega)).symm
        rw [show stored.length - skipped = count by omega]
      · rw [map_cons, mem_cons, not_or] at outside
        rw [rest'.others i outside.2, kept i outside.1]

theorem flat_append (self : ChainData) (first second : List DescriptorSpan) :
    self.flat (first ++ second) = self.flat first ++ self.flat second := flatMap_append

/-- The spans that end before a place, and where the others begin. -/
theorem Covers.first_touched (covers : self.Covers start spans) (after : start ≤ offset) :
    ∃ skipped rest begins, spans = skipped ++ rest ∧ firstTouchedSpan spans offset = skipped.length ∧
      self.Covers begins rest ∧ Stands begins rest offset.toNat ∧
      begins.toNat = start.toNat + (self.flat skipped).length ∧
      begins = (skipped.getLast?).elim start DescriptorSpan.end_ := by
  induction spans generalizing start with
  | nil => exact ⟨[], [], start, .refl _, .refl _, trivial, ⟨after, nofun⟩, .refl _, .refl _⟩
  | cons span rest ih =>
    by_cases past : span.end_ ≤ offset
    · obtain ⟨skipped, left, begins, rfl, count, covers', stands, length, last⟩ := ih covers.2 past
      obtain ⟨bytes, small, found, _, ends⟩ := covers.1
      refine ⟨span :: skipped, left, begins, .refl _, ?_, covers', stands, ?_, ?_⟩
      · unfold firstTouchedSpan at count ⊢
        rw [takeWhile_cons_of_pos (by simpa using past), length_cons, count, length_cons]
      · rw [flat, flatMap_cons, found, length_append]
        change _ = start.toNat + (bytes.length + (self.flat skipped).length)
        omega
      · rw [last, getLast?_cons]
        cases skipped.getLast? <;> rfl
    · refine ⟨[], span :: rest, start, .refl _, ?_, covers, ⟨after, ?_⟩, .refl _, .refl _⟩
      · unfold firstTouchedSpan
        rw [takeWhile_cons_of_neg (by simpa using past)]
      rintro _ ⟨⟩
      exact UInt64.lt_iff_toNat_lt.mp (UInt64.not_le.mp past)

theorem spanStart_append (skipped rest : List DescriptorSpan) :
    spanStart (skipped ++ rest) skipped.length = (skipped.getLast?).elim 0 DescriptorSpan.end_ := by
  unfold spanStart
  split
  · rename_i none
    rw [length_eq_zero_iff.mp none]
    rfl
  · rename_i prior length
    rw [getElem?_append_left (by omega), getLast?_eq_getElem?, length, Nat.succ_sub_one]

variable {writable : Bool}

theorem copyFromDescriptors_eq {bytes : Nat} (covers : self.Covers 0 (self.analysis.spans writable))
    (fits : offset.toNat + bytes ≤ (self.flat (self.analysis.spans writable)).length)
    (small : offset.toNat + bytes < 2 ^ 64) :
    self.copyFromDescriptors writable offset bytes =
      .ok (((self.flat (self.analysis.spans writable)).drop offset.toNat).take bytes) := by
  obtain ⟨skipped, rest, begins, split, count, covers', stands, length, last⟩ :=
    covers.first_touched (UInt64.le_iff_toNat_le.mpr (Nat.zero_le offset.toNat))
  unfold copyFromDescriptors
  by_cases none : bytes = 0
  · rw [if_pos none, none, take_zero]
  rw [if_neg none]
  dsimp only
  rw [split] at fits count ⊢
  rw [flat_append] at fits ⊢
  rw [length_append] at fits
  have after := stands.after
  rw [UInt64.toNat_zero, Nat.zero_add] at length
  rw [count, spanStart_append, ← last, drop_left,
    @copyFromSpans_eq self rest begins offset bytes [] covers' stands (by rw [length_nil]; omega) (by omega) small,
    drop_append, drop_of_length_le (l := self.flat skipped) (by omega), length]
  rfl

theorem copyToDescriptors_written (covers : self.Covers 0 (self.analysis.spans writable))
    (once : ((self.analysis.spans writable).map (·.descriptor)).Nodup)
    (fits : offset.toNat + source.length ≤ (self.flat (self.analysis.spans writable)).length)
    (small : offset.toNat + source.length < 2 ^ 64) :
    Written self
    (self.analysis.spans writable) offset.toNat source (self.copyToDescriptors writable offset source) := by
  obtain ⟨skipped, rest, begins, split, count, covers', stands, length, last⟩ :=
    covers.first_touched (UInt64.le_iff_toNat_le.mpr (Nat.zero_le offset.toNat))
  unfold copyToDescriptors
  by_cases none : source.length = 0
  · rw [if_pos none, length_eq_zero_iff.mp none]
    exact ⟨.refl _, .rfl, (overwrite_nil _ _).symm, fun _ _ => .refl _⟩
  rw [if_neg none]
  dsimp only
  rw [split] at fits count once ⊢
  rw [flat_append, length_append] at fits
  rw [map_append, nodup_append] at once
  have after := stands.after
  rw [UInt64.toNat_zero, Nat.zero_add] at length
  rw [count, spanStart_append, ← last, drop_left]
  obtain ⟨done, alike, bytes, others⟩ :=
    @copyToSpans_written self rest begins offset source 0 covers' once.2.1 stands (by omega) (by omega) small
  refine ⟨done, alike, ?_, fun i outside => others i fun among =>
    outside (by rw [map_append]; exact mem_append_right _ among)⟩
  have before := @flat_congr self skipped _ fun span member =>
    others span.descriptor fun among => once.2.2 _ (mem_map_of_mem member) _ among rfl
  rw [flat_append, flat_append, bytes, before, overwrite_append_right (by omega), ← length]
  rfl

/-- What the chain's descriptors of one direction hold, in the order of the chain. -/
def bytes (self : ChainData) (writable : Bool) : List UInt8 := self.flat (self.analysis.spans writable)

/-- The chain was found valid, as its descriptors are now. -/
structure Valid (data : ChainData) : Prop where
  analysed : ∃ head, data.analysis = analyzeChain data.descriptors head
  accepted : ∃ layout, data.analysis.validation = .ok layout

theorem Valid.alike (valid : self.Valid) (alike : Alike self after) : after.Valid := by
  obtain ⟨head, analysed⟩ := valid.analysed
  refine ⟨⟨head, ?_⟩, alike.analysis ▸ valid.accepted⟩
  rw [alike.analysis, analysed, analyzeChain_congr alike.shapes]

/-- The chain of the walk behind a valid analysis. -/
theorem Valid.direct (valid : self.Valid) : ∃ head readable writable,
    DirectChain self.descriptors head readable writable ∧
    self.analysis.validation = .ok (layoutOf readable writable) ∧
    ∀ writes, self.analysis.spans writes = spansFrom 0 (if writes then writable else readable) := by
  obtain ⟨⟨head, analysed⟩, layout, found⟩ := valid
  cases kind : self.analysis with
  | invalid error =>
    rw [kind] at found
    cases found
  | valid layout spans regions =>
    obtain ⟨readable, writable, direct, rfl, rfl, rfl⟩ :=
      (analyzeChain_eq_valid self.bounded).mp (analysed.symm.trans kind)
    refine ⟨head, readable, writable, direct, .refl _, fun writes => ?_⟩
    rw [← kind, analysed, direct.spans_eq self.bounded]

section Spans
variable {entries : List (UInt16 × Descriptor)}

theorem flat_spansFrom (found : ∀ entry ∈ entries, self.descriptors[entry.1.toNat]? = some entry.2) (start : Nat) :
    self.flat (spansFrom start entries) = entries.flatMap fun entry => entry.2.buffer.bytes := by
  induction entries generalizing start with
  | nil => rfl
  | cons entry rest ih =>
    obtain ⟨here, later⟩ := forall_mem_cons.mp found
    rw [spansFrom, flat, flatMap_cons, buffer, here]
    exact congrArg _ (ih later _)

theorem length_bytes {descriptor : Descriptor} (mapped : descriptor.buffer.isMapped = true) :
    descriptor.buffer.bytes.length = descriptor.len.toNat := by
  unfold Descriptor.len
  cases kind : descriptor.buffer with
  | unmapped bytes =>
    rw [kind] at mapped
    cases mapped
  | mapped bytes small => rw [BufferStorage.len, UInt64.toNat_ofNat_of_lt' small, BufferStorage.bytes]

theorem length_flatMap_bytes (mapped : ∀ entry ∈ entries, entry.2.buffer.isMapped = true) :
    (entries.flatMap fun entry => entry.2.buffer.bytes).length = bytesOf entries := by
  rw [length_flatMap, bytesOf]
  exact congrArg sum (map_congr_left fun entry member => length_bytes (mapped entry member))

theorem covers_spansFrom {start : Nat} (found : ∀ entry ∈ entries, self.descriptors[entry.1.toNat]? = some entry.2)
    (mapped : ∀ entry ∈ entries, entry.2.buffer.isMapped = true) (nonzero : ∀ entry ∈ entries, entry.2.len ≠ 0)
    (fits : start + bytesOf entries < 2 ^ 64) : self.Covers (UInt64.ofNat start) (spansFrom start entries) := by
  induction entries generalizing start with
  | nil => trivial
  | cons entry rest ih =>
    obtain ⟨here, found⟩ := forall_mem_cons.mp found
    obtain ⟨whole, mapped⟩ := forall_mem_cons.mp mapped
    obtain ⟨some, nonzero⟩ := forall_mem_cons.mp nonzero
    have length := length_bytes whole
    rw [bytesOf_cons] at fits
    refine ⟨?_, ih found mapped nonzero (by omega)⟩
    cases kind : entry.2.buffer with
    | unmapped bytes =>
      rw [kind] at whole
      cases whole
    | mapped bytes small =>
      rw [kind] at length
      refine ⟨bytes, small, by rw [buffer, here]; exact kind, fun none => some (UInt64.toNat_inj.mp ?_), ?_⟩
      · rw [← length, BufferStorage.bytes, none]
        rfl
      rw [UInt64.toNat_ofNat', UInt64.toNat_ofNat', Nat.mod_eq_of_lt (by omega), Nat.mod_eq_of_lt (by omega),
        ← length]
      rfl

end Spans

/-- What a valid chain gives the copies: the spans of each direction cover it, and no descriptor is in two of
them. -/
structure Laid (data : ChainData) (layout : ChainLayout) : Prop where
  found : data.analysis.validation = .ok layout
  readable : layout.readableBytes.toNat = (data.bytes false).length
  writable : layout.writableBytes.toNat = (data.bytes true).length
  covers : ∀ writes, data.Covers 0 (data.analysis.spans writes)
  once : ∀ writes, ((data.analysis.spans writes).map (·.descriptor)).Nodup
  apart : ∀ writes, ∀ span ∈ data.analysis.spans writes,
    span.descriptor ∉ (data.analysis.spans !writes).map (·.descriptor)

theorem Valid.laid (valid : self.Valid) : ∃ layout, self.Laid layout := by
  obtain ⟨head, readable, writable, direct, found, spans⟩ := valid.direct
  have there := forall_mem_append.mp direct.path.found
  have mapped := forall_mem_append.mp direct.mapped
  have nonzero := forall_mem_append.mp direct.nonzero
  have nodup : ((readable ++ writable).map Prod.fst).Nodup := by
    have numbers := direct.once.nodup_iff.mpr nodup_range
    refine Nodup.of_map UInt16.toNat ?_
    rwa [map_map]
  rw [map_append, nodup_append] at nodup
  have total {entries : List (UInt16 × Descriptor)} (fits : bytesOf entries < 2 ^ 64) :
      (UInt64.ofNat (bytesOf entries)).toNat = bytesOf entries := by
    rw [UInt64.toNat_ofNat_of_lt' fits]
  refine ⟨_, found, ?_, ?_, ?_, ?_, ?_⟩
  · rw [bytes, spans, if_neg Bool.false_ne_true, flat_spansFrom there.1, length_flatMap_bytes mapped.1]
    exact total direct.fits.1
  · rw [bytes, spans, if_pos rfl, flat_spansFrom there.2, length_flatMap_bytes mapped.2]
    exact total direct.fits.2
  · intro writes
    rw [spans]
    cases writes
    · exact covers_spansFrom there.1 mapped.1 nonzero.1 (by rw [Nat.zero_add]; exact direct.fits.1)
    · exact covers_spansFrom there.2 mapped.2 nonzero.2 (by rw [Nat.zero_add]; exact direct.fits.2)
  · intro writes
    rw [spans, spansFrom_descriptors]
    cases writes
    exacts [nodup.1, nodup.2.1]
  · intro writes span member among
    have named := mem_map_of_mem (f := fun span : DescriptorSpan => span.descriptor) member
    rw [spans, spansFrom_descriptors] at named among
    cases writes
    · exact nodup.2.2 _ named _ among rfl
    · exact nodup.2.2 _ among _ named rfl

/-- A write of one direction of the chain, seen as a write to the string it stands for. -/
structure Rewritten (before : ChainData) (writable : Bool) (offset : Nat) (source : List UInt8)
    (after : ChainData) : Prop where
  valid : after.Valid
  alike : Alike before after
  bytes : after.bytes writable = (before.bytes writable).overwrite offset source
  others : after.bytes (!writable) = before.bytes !writable

theorem checkedLogicalRange_eq (offset : UInt64) (count : Nat) (len : UInt64) :
    checkedLogicalRange offset count len = if offset.toNat + count ≤ len.toNat then .ok ()
    else .error .outOfBounds := by
  have bound := len.toNat_lt
  unfold checkedLogicalRange
  by_cases inside : offset.toNat + count ≤ len.toNat
  · rw [if_neg (by omega), if_neg (by omega), if_pos inside]
  split
  · rfl
  · rw [if_pos (by omega)]

section Ports
variable {layout : ChainLayout} {len : UInt64}

section
variable (laid : self.Laid layout)
include laid

theorem Laid.readAt (total : len.toNat = (self.bytes writable).length) (offset : UInt64) (count : Nat) :
    (match checkedLogicalRange offset count len with
      | .error error => Except.error error
      | .ok () => self.copyFromDescriptors writable offset count) =
    if offset.toNat + count ≤ (self.bytes writable).length then
      .ok (((self.bytes writable).drop offset.toNat).take count) else .error .outOfBounds := by
  have bound := len.toNat_lt
  rw [checkedLogicalRange_eq, total]
  split
  · rename_i error found
    split at found
    · cases found
    rename_i outside
    cases found
    rw [if_neg outside]
  · rename_i found
    split at found
    · rename_i inside
      rw [if_pos inside]
      exact copyFromDescriptors_eq (laid.covers writable) inside (by omega)
    · cases found

theorem Laid.rewritten (valid : self.Valid) (inside : offset.toNat + source.length ≤ (self.bytes writable).length)
    (small : offset.toNat + source.length < 2 ^ 64) :
    (self.copyToDescriptors writable offset source).1 = .ok () ∧
      Rewritten self writable offset.toNat source (self.copyToDescriptors writable offset source).2 := by
  obtain ⟨done, alike, bytes, others⟩ := copyToDescriptors_written (laid.covers writable)
    (laid.once writable) inside small
  refine ⟨done, valid.alike alike, alike, ?_, ?_⟩
  · rw [ChainData.bytes, alike.analysis, bytes]
    rfl
  rw [ChainData.bytes, alike.analysis]
  refine flat_congr fun span member => others _ fun among => ?_
  have apart := laid.apart (!writable) span member
  rw [Bool.not_not] at apart
  exact apart among

theorem Laid.reads {token : SplitDeviceChain ChainData} (same : token.data = self) (offset : UInt64)
    (count : Nat) : token.readAt token.id.epoch.value offset count =
      if offset.toNat + count ≤ (self.bytes false).length then
      .ok (((self.bytes false).drop offset.toNat).take count)
      else .error .outOfBounds := by
  have len : token.readableLen.toNat = (self.bytes false).length := by
    rw [SplitDeviceChain.readableLen, same, laid.found]
    exact laid.readable
  rw [SplitDeviceChain.readAt, if_neg (not_not.mpr rfl), same]
  exact laid.readAt len offset count

theorem Laid.collects (same : chain.data = self) (offset : UInt64) (count : Nat) :
    chain.readDeviceWritable offset count =
      if offset.toNat + count ≤ (self.bytes true).length then .ok (((self.bytes true).drop offset.toNat).take count)
      else .error .outOfBounds := by
  have found : chain.validation = .ok layout := by
    rw [← laid.found, ← same]
    rfl
  have len : chain.deviceWritableLen.toNat = (self.bytes true).length := by
    rw [DriverChain.deviceWritableLen, found]
    exact laid.writable
  rw [DriverChain.readDeviceWritable, same, ← laid.readAt len]
  cases checkedLogicalRange offset count chain.deviceWritableLen <;> rfl

theorem Laid.writes (valid : self.Valid) {token : SplitDeviceChain ChainData}
    (same : token.data = self) (offset : UInt64) (source : List UInt8) :
    if offset.toNat + source.length ≤ (self.bytes true).length then
      (token.writeAt token.id.epoch.value offset source).1 = .ok () ∧
        Rewritten self true offset.toNat source (token.writeAt token.id.epoch.value offset source).2
    else token.writeAt token.id.epoch.value offset source = (.error .outOfBounds, self) := by
  have found : ChainShape.validation self = .ok layout := laid.found
  have len : token.writableCapacity.toNat = (self.bytes true).length := by
    rw [SplitDeviceChain.writableCapacity, same, found]
    exact laid.writable
  have bound := token.writableCapacity.toNat_lt
  rw [SplitDeviceChain.writeAt, if_neg (not_not.mpr rfl), same, checkedLogicalRange_eq, len]
  split
  · rename_i inside
    exact laid.rewritten valid inside (by omega)
  · rfl

theorem Laid.supplies (valid : self.Valid) (same : chain.data = self) (offset : UInt64) (source : List UInt8) :
    if offset.toNat + source.length ≤ (self.bytes false).length then
      (chain.writeDeviceReadable offset source).1 = .ok () ∧
        Rewritten self false offset.toNat source (chain.writeDeviceReadable offset source).2.data
    else chain.writeDeviceReadable offset source = (.error .outOfBounds, chain) := by
  have found : chain.validation = .ok layout := by
    rw [← laid.found, ← same]
    rfl
  have len : chain.deviceReadableLen.toNat = (self.bytes false).length := by
    rw [DriverChain.deviceReadableLen, found]
    exact laid.readable
  have bound := chain.deviceReadableLen.toNat_lt
  rw [DriverChain.writeDeviceReadable, checkedLogicalRange_eq, len]
  split
  · rename_i inside
    have small : offset.toNat + source.length < 2 ^ 64 := by omega
    rw [← same] at laid valid inside ⊢
    exact laid.rewritten valid inside small
  · rfl

end

end Ports

theorem Rewritten.window (rewritten : Rewritten self writable offset.toNat source after)
    (inside : offset.toNat + source.length ≤ (self.bytes writable).length) :
    offset.toNat + source.length ≤ (after.bytes writable).length ∧
      ((after.bytes writable).drop offset.toNat).take source.length = source := by
  rw [rewritten.bytes, length_overwrite inside]
  exact ⟨inside, take_drop_overwrite inside⟩

end ChainData

/-- A chain that the driver built is valid when the analysis accepts it. -/
theorem DriverChain.raw_valid {reserve : Bool} {head : UInt16} {layout : ChainLayout}
    (built : DriverChain.raw reserve descriptors head = .ok chain) (accepted : chain.validation = .ok layout) :
    chain.data.Valid := by
  unfold DriverChain.raw at built
  split at built
  · cases built
  split at built
  · split at built
    · cases built
      exact ⟨⟨head, rfl⟩, layout, accepted⟩
    · cases built
  · cases built

/-- Each direction of a valid chain is one string, the descriptors in the order of the chain: both ports of the
device and both of the driver take exactly the ranges inside it, read that range, or replace it and nothing else;
and so each side reads what the other has written. -/
theorem ChainData.Valid.access_flat {data : ChainData} (valid : data.Valid) :
    (∃ head readable writable, DirectChain data.descriptors head readable writable ∧
      data.bytes false = (readable.flatMap fun entry => entry.2.buffer.bytes) ∧
      data.bytes true = writable.flatMap fun entry => entry.2.buffer.bytes) ∧
    (∀ token : SplitDeviceChain ChainData, token.data = data →
      (∀ offset count, token.readAt token.id.epoch.value offset count =
        if offset.toNat + count ≤ (data.bytes false).length then
        .ok (((data.bytes false).drop offset.toNat).take count)
        else .error .outOfBounds) ∧
      ∀ offset source, let written := token.writeAt token.id.epoch.value offset source
        if offset.toNat + source.length ≤ (data.bytes true).length then
          written.1 = .ok () ∧ Rewritten data true offset.toNat source written.2 ∧
          ∀ chain : DriverChain ChainData, chain.data = written.2 →
          chain.readDeviceWritable offset source.length = .ok source
        else written = (.error .outOfBounds, data)) ∧
    ∀ chain : DriverChain ChainData, chain.data = data →
      (∀ offset count, chain.readDeviceWritable offset count =
        if offset.toNat + count ≤ (data.bytes true).length then
          .ok (((data.bytes true).drop offset.toNat).take count)
        else .error .outOfBounds) ∧
      ∀ offset source, let written := chain.writeDeviceReadable offset source
        if offset.toNat + source.length ≤ (data.bytes false).length then
          written.1 = .ok () ∧ Rewritten data false offset.toNat source written.2.data ∧
          ∀ token : SplitDeviceChain ChainData, token.data = written.2.data →
            token.readAt token.id.epoch.value offset source.length = .ok source
        else written = (.error .outOfBounds, chain) := by
  obtain ⟨layout, laid⟩ := valid.laid
  refine ⟨?_, fun token same => ⟨laid.reads same, fun offset source => ?_⟩,
    fun chain same => ⟨laid.collects same, fun offset source => ?_⟩⟩
  · obtain ⟨head, readable, writable, direct, _, spans⟩ := valid.direct
    obtain ⟨reads, writes⟩ := forall_mem_append.mp direct.path.found
    refine ⟨head, readable, writable, direct, ?_, ?_⟩
    · rw [bytes, spans, if_neg Bool.false_ne_true, flat_spansFrom reads]
    · rw [bytes, spans, if_pos rfl, flat_spansFrom writes]
  · have outcome := laid.writes valid same offset source
    split
    · rename_i inside
      rw [if_pos inside] at outcome
      refine ⟨outcome.1, outcome.2, fun chain after => ?_⟩
      obtain ⟨_, laid'⟩ := outcome.2.valid.laid
      obtain ⟨inside', read⟩ := outcome.2.window inside
      rw [laid'.collects after, if_pos inside', read]
    · rename_i outside
      rwa [if_neg outside] at outcome
  · have outcome := laid.supplies valid same offset source
    dsimp only
    split
    · rename_i inside
      rw [if_pos inside] at outcome
      refine ⟨outcome.1, outcome.2, fun token after => ?_⟩
      obtain ⟨_, laid'⟩ := outcome.2.valid.laid
      obtain ⟨inside', read⟩ := outcome.2.window inside
      rw [laid'.reads after, if_pos inside', read]
    · rename_i outside
      rwa [if_neg outside] at outcome

def pairData : ChainData := ⟨linkedPair, analyzeChain linkedPair 0, by decide, by decide⟩

/-- The second of two bytes is read at offset one. -/
theorem ChainData.Valid.access_flat_pair :
    pairData.Valid ∧ ∀ token : SplitDeviceChain ChainData, token.data = pairData →
      token.readAt token.id.epoch.value 1 1 = .ok [2] := by
  obtain ⟨chain, built, accepted, same⟩ : ∃ chain, DriverChain.raw true linkedPair 0 = .ok chain ∧
      chain.validation = .ok ⟨2, 1, 1, 2, 1⟩ ∧ chain.data = pairData := ⟨_, rfl, by decide, rfl⟩
  have valid : pairData.Valid := same ▸ DriverChain.raw_valid built accepted
  refine ⟨valid, fun token same => ?_⟩
  rw [(valid.access_flat.2.1 token same).1]
  decide

/-- The shared part of a chain that the analysis accepted, as `publish` asks of it. -/
abbrev ValidData := { data : ChainData // data.Valid }

instance : ChainShape ValidData where
  descriptorCount data := ChainShape.descriptorCount data.1
  validation data := ChainShape.validation data.1
  nonempty data := ChainShape.nonempty data.1

namespace DriverChain

/-- A write of the driver leaves a valid chain valid, and with as many descriptors. -/
theorem writeDeviceReadable_valid (chain : DriverChain ChainData) (valid : chain.data.Valid) (offset : UInt64)
    (source : List UInt8) :
    (chain.writeDeviceReadable offset source).2.data.Valid ∧
      ChainShape.descriptorCount (chain.writeDeviceReadable offset source).2.data =
      ChainShape.descriptorCount chain.data := by
  obtain ⟨layout, laid⟩ := valid.laid
  have outcome := laid.supplies valid rfl offset source
  split at outcome
  · have lengths := congrArg length outcome.2.alike.shapes
    rw [length_map, length_map] at lengths
    exact ⟨outcome.2.valid, congrArg UInt16.ofNat lengths⟩
  · rw [outcome]
    exact ⟨valid, rfl⟩

/-- The chain, without the proof that it is valid. -/
def plain (self : DriverChain ValidData) : DriverChain ChainData := ⟨self.data.1, self.slots, self.head, self.sized⟩

/-- The valid chains of the split queue are chains over definite bytes: what the guest is proved to do with such
chains, it does with these. -/
instance : DriverChainBytes (DriverChain ValidData) ByteAccessError where
  deviceReadableLen chain := chain.plain.deviceReadableLen
  deviceWritableLen chain := chain.plain.deviceWritableLen
  writeDeviceReadable chain offset source :=
    let kept := chain.plain.writeDeviceReadable_valid chain.data.2 offset source
    ((chain.plain.writeDeviceReadable offset source).1, chain.withData ⟨_, kept.1⟩ kept.2)
  readDeviceWritable chain offset count := chain.plain.readDeviceWritable offset count
  readable chain := chain.data.1.bytes false
  writable chain := chain.data.1.bytes true
  readable_length chain := by
    obtain ⟨layout, laid⟩ := chain.data.2.laid
    rw [← laid.readable, deviceReadableLen, show chain.plain.validation = .ok layout from laid.found]
  writable_length chain := by
    obtain ⟨layout, laid⟩ := chain.data.2.laid
    rw [← laid.writable, deviceWritableLen, show chain.plain.validation = .ok layout from laid.found]
  written {chain chain' offset source} wrote := by
    obtain ⟨layout, laid⟩ := chain.data.2.laid
    have outcome := laid.supplies chain.data.2 (show chain.plain.data = _ from rfl) offset source
    obtain ⟨accepted, rfl⟩ := Prod.mk.inj wrote
    split at outcome
    · rename_i inside
      exact ⟨inside, outcome.2.bytes, outcome.2.others⟩
    rw [outcome] at accepted
    cases accepted
  reads chain offset count inside := by
    obtain ⟨layout, laid⟩ := chain.data.2.laid
    rw [laid.collects (show chain.plain.data = _ from rfl), if_pos inside]

end DriverChain

end VirtioAccel
