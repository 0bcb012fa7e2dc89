import VirtioAccel.Device.ObjectTable

namespace VirtioAccel.ObjectTable
open List
variable {T : Type}
variable {after t before : ObjectTable T} {id : ObjectId} {new old : Slot T} {reserve : Bool} {index : Nat}
  {value : T}
variable {failure : ObjectTableError} {first second third : ObjectTable T}

/-- Only the slots differ. -/
structure SameShape (before after : ObjectTable T) : Prop where
  kind : after.kind = before.kind
  namespaceTag : after.namespaceTag = before.namespaceTag
  maxSlots : after.maxSlots = before.maxSlots

theorem SameShape.idAt (shape : SameShape before after) (index : Nat) (slot : Slot T) :
    after.idAt index slot = before.idAt index slot := by
  simp only [ObjectTable.idAt, shape.kind, shape.namespaceTag]

theorem SameShape.trans (left : SameShape first second) (right : SameShape second third) : SameShape first third :=
  ⟨right.kind.trans left.kind, right.namespaceTag.trans left.namespaceTag, right.maxSlots.trans left.maxSlots⟩

/-- One table mutation as the layers above see it: the record under `id` goes
from `old` to `new`, every other identifier resolves as before, and a weighted
sum over the records changes by the two weights alone. No mutation forgets an
identifier that was handed out. -/
structure Writes (before after : ObjectTable T) (id : ObjectId) (old new : Option T) : Prop where
  wellFormed : after.WellFormed
  shape : SameShape before after
  lookup_before : before.lookup id = old
  lookup_after : ∀ other, after.lookup other = if other = id then new else before.lookup other
  total : ∀ f : T → Nat, after.total f + old.elim 0 f = before.total f + new.elim 0 f
  issued : ∀ other, before.Issued other → after.Issued other

/-- A later table of the same epoch: it forgets no identifier. -/
structure Descends (before after : ObjectTable T) : Prop where
  shape : SameShape before after
  issued : ∀ id, before.Issued id → after.Issued id

theorem Descends.refl (t : ObjectTable T) : Descends t t := ⟨⟨rfl, rfl, rfl⟩, fun _ issued => issued⟩

theorem Descends.trans (left : Descends first second) (right : Descends second third) : Descends first third :=
  ⟨left.shape.trans right.shape, fun id issued => right.issued id (left.issued id issued)⟩

theorem Writes.descends {old new : Option T} (writes : Writes before after id old new) :
    Descends before after := ⟨writes.shape, writes.issued⟩

theorem Writes.lookup_self {old new : Option T} (writes : Writes before after id old new) : after.lookup id = new :=
  (writes.lookup_after id).trans (if_pos rfl)

theorem Writes.lookup_other {old new : Option T} {target : ObjectId} (writes : Writes before after id old new)
    (other : target ≠ id) : after.lookup target = before.lookup target :=
  (writes.lookup_after target).trans (if_neg other)

theorem total_set (atOld : before.slots[index]? = some old) (slots : after.slots = before.slots.set index new)
    (f : T → Nat) : after.total f + old.value.elim 0 f = before.total f + new.value.elim 0 f := by
  rw [total_eq_slots, total_eq_slots, slots]
  exact SlotSums.sum_map_set (fun slot => slot.value.elim 0 f) atOld new

theorem Issued.of_set (shape : SameShape before after) (atOld : before.slots[index]? = some old)
    (slots : after.slots = before.slots.set index new)
    (advances : old.generation.toNat < new.generation.toNat ∨ old.generation = new.generation ∧
      (new.value.isSome ∨ new.retired))
    (issued : before.Issued id) : after.Issued id := by
  obtain ⟨place, generation, slot, atSlot, fits, rfl, past⟩ := issued
  by_cases same : place = index
  · subst place
    obtain rfl := Option.some.inj (atSlot.symm.trans atOld)
    refine ⟨index, generation, new, ?_, fits, (shape.idAt ..).symm, ?_⟩
    · rw [slots, getElem?_set_some_iff atOld]
      exact .inl ⟨rfl, rfl⟩
    rcases advances with later | ⟨equal, current⟩
    · rcases past with earlier | ⟨rfl, _⟩
      · exact .inl (by omega)
      · exact .inl later
    · exact past.imp (fun earlier => equal ▸ earlier) (fun now => ⟨now.1.trans equal, current⟩)
  · refine ⟨place, generation, slot, ?_, fits, (shape.idAt ..).symm, past⟩
    rw [slots, getElem?_set_some_iff atOld]
    exact .inr ⟨same, atSlot⟩

theorem Writes.of_set (wf : before.WellFormed) (wf' : after.WellFormed) (shape : SameShape before after)
    (atOld : before.slots[index]? = some old) (slots : after.slots = before.slots.set index new)
    (sameGeneration : new.value.isSome → new.generation = old.generation)
    (advances : old.generation.toNat < new.generation.toNat ∨ old.generation = new.generation ∧
      (new.value.isSome ∨ new.retired)) :
    Writes before after (before.idAt index old) old.value new.value := by
  have room := wf.index_room atOld
  have fits := wf.generation_fits atOld
  have distinct : ∀ {other : Nat} {slot : Slot T}, before.slots[other]? = some slot →
      before.idAt other slot = before.idAt index old → other = index := fun {other slot} atSlot same =>
    (idAt_injective (wf.index_room atSlot) room (wf.generation_fits atSlot) fits same).1
  have fresh : new.value.isSome → before.idAt index new = before.idAt index old := fun occupied => by
    simp only [idAt, sameGeneration occupied]
  refine ⟨wf', shape, ?_, ?_, total_set atOld slots, fun other issued => issued.of_set shape atOld slots advances⟩
  · ext value
    rw [lookup_eq_some_iff wf]
    constructor
    · rintro ⟨other, slot, atSlot, present, same⟩
      obtain rfl := distinct atSlot same.symm
      obtain rfl := Option.some.inj (atSlot.symm.trans atOld)
      exact present
    · exact fun present => ⟨index, old, atOld, present, rfl⟩
  · intro other
    ext value
    rw [lookup_eq_some_iff wf', slots]
    simp only [getElem?_set_some_iff atOld, shape.idAt]
    by_cases same : other = before.idAt index old
    · rw [if_pos same]
      constructor
      · rintro ⟨place, slot, ⟨rfl, rfl⟩ | ⟨elsewhere, atSlot⟩, present, identity⟩
        · exact present
        · exact absurd (distinct atSlot (identity.symm.trans same)) elsewhere
      · intro present
        have occupied : new.value.isSome := by rw [present]; rfl
        exact ⟨index, new, .inl ⟨rfl, rfl⟩, present, same.trans (fresh occupied).symm⟩
    · rw [if_neg same, lookup_eq_some_iff wf]
      constructor
      · rintro ⟨place, slot, ⟨rfl, rfl⟩ | ⟨_, atSlot⟩, present, identity⟩
        · exact absurd (identity.trans (fresh (by rw [present]; rfl))) same
        · exact ⟨place, slot, atSlot, present, identity⟩
      · rintro ⟨place, slot, atSlot, present, identity⟩
        have elsewhere : place ≠ index := by
          rintro rfl
          obtain rfl := Option.some.inj (atSlot.symm.trans atOld)
          exact same identity
        exact ⟨place, slot, .inr ⟨elsewhere, atSlot⟩, present, identity⟩

theorem getElem?_concat_some_iff {l : List (Slot T)} {other : Nat} {slot : Slot T} :
    (l ++ [new])[other]? = some slot ↔ (other = l.length ∧ slot = new) ∨ l[other]? = some slot := by
  rcases Nat.lt_trichotomy other l.length with less | same | more
  · simp [getElem?_append_left less, less.ne]
  · subst other
    simp [eq_comm]
  · rw [getElem?_eq_none (by rw [length_append]; exact more), getElem?_eq_none more.le]
    simp [more.ne']

theorem Writes.of_append (wf : before.WellFormed) (wf' : after.WellFormed) (shape : SameShape before after)
    (slots : after.slots = before.slots ++ [new]) (occupied : new.value = some value) :
    Writes before after (before.idAt before.slots.length new) none (some value) := by
  have atNew : after.slots[before.slots.length]? = some new := by simp [slots]
  have room := wf'.index_room atNew
  have fits := wf'.generation_fits atNew
  have distinct : ∀ {other : Nat} {slot : Slot T}, before.slots[other]? = some slot →
      before.idAt other slot ≠ before.idAt before.slots.length new := fun {other slot} atSlot same => by
    obtain ⟨inside, _⟩ := List.getElem?_eq_some_iff.mp atSlot
    exact inside.ne (idAt_injective (wf.index_room atSlot) room (wf.generation_fits atSlot) fits same).1
  have missing : before.lookup (before.idAt before.slots.length new) = none := by
    rw [Option.eq_none_iff_forall_ne_some]
    intro stored present
    obtain ⟨other, slot, atSlot, _, same⟩ := (lookup_eq_some_iff wf).mp present
    exact distinct atSlot same.symm
  refine ⟨wf', shape, missing, ?_, ?_, ?_⟩
  · intro other
    ext stored
    rw [lookup_eq_some_iff wf', slots]
    simp only [getElem?_concat_some_iff, shape.idAt]
    by_cases same : other = before.idAt before.slots.length new
    · rw [if_pos same]
      constructor
      · rintro ⟨place, slot, ⟨rfl, rfl⟩ | atSlot, present, identity⟩
        · exact occupied.symm.trans present
        · exact absurd (identity.symm.trans same) (distinct atSlot)
      · exact fun present => ⟨_, new, .inl ⟨rfl, rfl⟩, occupied.trans present, same⟩
    · rw [if_neg same, lookup_eq_some_iff wf]
      constructor
      · rintro ⟨place, slot, ⟨rfl, rfl⟩ | atSlot, present, identity⟩
        · exact absurd identity same
        · exact ⟨place, slot, atSlot, present, identity⟩
      · rintro ⟨place, slot, atSlot, present, identity⟩
        exact ⟨place, slot, .inr atSlot, present, identity⟩
  · intro f
    simp [total_eq_slots, slots, occupied]
  · rintro other ⟨index, generation, slot, atSlot, past⟩
    refine ⟨index, generation, slot, ?_, by rwa [shape.idAt]⟩
    rw [slots, getElem?_concat_some_iff]
    exact .inr atSlot

theorem live_add_one (live : before.live.toNat = before.records.length)
    (capacity : after.slots.length ≤ after.maxSlots.toNat)
    (total : ∀ f : T → Nat, after.total f = before.total f + f value) :
    (before.live + 1).toNat = after.records.length := by
  have grown := total (fun _ => 1)
  rw [← records_length, ← records_length] at grown
  have inSlots : after.records.length ≤ after.slots.length := length_filterMap_le _ _
  have word := after.maxSlots.toNat_lt
  rw [UInt32.toNat_add, show (1 : UInt32).toNat = 1 from rfl]
  omega

/-- Replacing the contents of one slot keeps a table well formed when the free
stack is adjusted for that slot alone. -/
theorem WellFormed.of_set (wf : before.WellFormed) (shape : SameShape before after)
    (atOld : before.slots[index]? = some old) (slots : after.slots = before.slots.set index new)
    (fits : new.generation.toNat < 2 ^ 13) (vacated : new.retired = true → new.value = none)
    (live : after.live.toNat = after.records.length) (nodup : after.free.Nodup)
    (freed : ∀ other, other ∈ after.free ↔ (other.toNat = index ∧ new.value = none ∧ new.retired = false) ∨
      (other.toNat ≠ index ∧ other ∈ before.free)) :
    after.WellFormed := by
  refine ⟨?_, live, ?_, ?_, nodup, ?_⟩
  · rw [slots, shape.maxSlots, length_set]
    exact wf.capacity
  · intro other slot atSlot
    rw [slots, getElem?_set_some_iff atOld] at atSlot
    rcases atSlot with ⟨_, rfl⟩ | ⟨_, atSlot⟩
    · exact fits
    · exact wf.generation_fits atSlot
  · intro other slot atSlot retired
    rw [slots, getElem?_set_some_iff atOld] at atSlot
    rcases atSlot with ⟨_, rfl⟩ | ⟨_, atSlot⟩
    · exact vacated retired
    · exact wf.retired_vacant atSlot retired
  · intro other
    rw [freed, wf.free_iff, slots]
    simp only [getElem?_set_some_iff atOld]
    constructor
    · rintro (⟨here, free⟩ | ⟨elsewhere, slot, atSlot, free⟩)
      · exact ⟨new, .inl ⟨here, rfl⟩, free⟩
      · exact ⟨slot, .inr ⟨elsewhere, atSlot⟩, free⟩
    · rintro ⟨slot, ⟨here, rfl⟩ | ⟨elsewhere, atSlot⟩, free⟩
      · exact .inl ⟨here, free⟩
      · exact .inr ⟨elsewhere, slot, atSlot, free⟩

theorem insert_eq_ok_iff :
    t.insert reserve value = .ok (id, after) ↔
      t.tryReserveInsert reserve = .ok () ∧ t.insertPrepared value = (id, after) := by
  unfold insert
  cases t.tryReserveInsert reserve <;> simp [Bind.bind, Except.bind, pure, Except.pure]

/-- Allocation failure aside, a full table is the only refusal. -/
theorem insert_error_full (refused : t.insert true value = .error failure) : failure = .full := by
  unfold insert tryReserveInsert at refused
  split at refused
  · simp [Bind.bind, Except.bind, pure, Except.pure] at refused
  split at refused
  · simpa [Bind.bind, Except.bind, eq_comm] using refused
  · simp [Bind.bind, Except.bind, pure, Except.pure] at refused

theorem reserved_below (ready : t.tryReserveInsert reserve = .ok ()) (stack : t.free = []) :
    t.slots.length < t.maxSlots.toNat := by
  unfold tryReserveInsert at ready
  simp only [stack, isEmpty_nil, not_true_eq_false, if_false] at ready
  split at ready
  · simp at ready
  · omega

/-- An insertion writes one place, which was empty. -/
theorem insertPrepared_writes (wf : t.WellFormed) (ready : t.tryReserveInsert reserve = .ok ()) (value : T) :
    Writes t (t.insertPrepared value).2 (t.insertPrepared value).1 none (some value) := by
  unfold insertPrepared
  split
  · rename_i index rest stack
    obtain ⟨slot, atSlot, vacant, notRetired⟩ := (wf.free_iff index).mp (by simp [stack])
    have identity : ObjectId.new index t.namespaceTag slot.generation t.kind = t.idAt index.toNat slot := by
      simp [idAt]
    simp only [atSlot, Option.getD_some, identity]
    generalize made : ({ t with
        live := t.live + 1
        slots := t.slots.set index.toNat { slot with value := some value }
        free := rest } : ObjectTable T) = after
    have slots : after.slots = t.slots.set index.toNat { slot with value := some value } := by rw [← made]
    have free : after.free = rest := by rw [← made]
    have shape : SameShape t after := by subst made; exact ⟨rfl, rfl, rfl⟩
    have capacity : after.slots.length ≤ after.maxSlots.toNat := by
      rw [slots, shape.maxSlots, length_set]; exact wf.capacity
    have live : after.live.toNat = after.records.length := by
      rw [show after.live = t.live + 1 by rw [← made]]
      exact live_add_one wf.live_exact capacity (fun f => by simpa [vacant] using total_set atSlot slots f)
    have distinct := nodup_cons.mp (stack ▸ wf.free_nodup)
    have fits := wf.generation_fits atSlot
    have wf' : after.WellFormed := by
      refine wf.of_set shape atSlot slots fits (by simp [notRetired]) live (free ▸ distinct.2) (fun other => ?_)
      rw [free, stack, mem_cons]
      by_cases same : other = index
      · simp [same, distinct.1]
      · simp [same, UInt32.toNat_inj]
    have writes := Writes.of_set wf wf' shape atSlot slots (fun _ => rfl) (.inr ⟨rfl, .inl rfl⟩)
    rwa [vacant] at writes
  · rename_i stack
    have below := reserved_below ready stack
    generalize made : ({ t with
        live := t.live + 1
        slots := t.slots ++ [⟨0, some value, false⟩] } : ObjectTable T) = after
    have slots : after.slots = t.slots ++ [⟨0, some value, false⟩] := by rw [← made]
    have free : after.free = [] := by rw [← made, stack]
    have shape : SameShape t after := by subst made; exact ⟨rfl, rfl, rfl⟩
    have capacity : after.slots.length ≤ after.maxSlots.toNat := by
      rw [slots, shape.maxSlots, length_append]; exact below
    have wf' : after.WellFormed := by
      refine ⟨capacity, ?_, ?_, ?_, ?_, ?_⟩
      · rw [show after.live = t.live + 1 by rw [← made]]
        refine @live_add_one _ _ _ value wf.live_exact capacity (fun f => ?_)
        simp [total_eq_slots, slots]
      · intro other found atFound
        rw [slots, getElem?_concat_some_iff] at atFound
        rcases atFound with ⟨_, rfl⟩ | atFound
        · simp
        · exact wf.generation_fits atFound
      · intro other found atFound retired
        rw [slots, getElem?_concat_some_iff] at atFound
        rcases atFound with ⟨_, rfl⟩ | atFound
        · simp at retired
        · exact wf.retired_vacant atFound retired
      · rw [free]
        exact .nil
      · intro other
        rw [free, ← stack, wf.free_iff, slots]
        simp only [getElem?_concat_some_iff]
        constructor
        · rintro ⟨found, atFound, vacant⟩
          exact ⟨found, .inr atFound, vacant⟩
        rintro ⟨found, ⟨_, rfl⟩ | atFound, vacant⟩
        · simp at vacant
        · exact ⟨found, atFound, vacant⟩
    have writes := Writes.of_append wf wf' shape slots rfl
    simpa only [idAt] using writes

/-- The identifier an insertion returns was never handed out before. -/
theorem insertPrepared_not_issued (wf : t.WellFormed) (ready : t.tryReserveInsert reserve = .ok ()) (value : T) :
    ¬ t.Issued (t.insertPrepared value).1 := by
  intro issued
  obtain ⟨place, generation, slot, atSlot, fits, identity, past⟩ := issued
  have room := wf.index_room atSlot
  unfold insertPrepared at identity
  split at identity
  · rename_i index rest stack
    obtain ⟨found, atFound, vacant, notRetired⟩ := (wf.free_iff index).mp (by simp [stack])
    have minted : t.idAt index.toNat found = t.idAt place ⟨generation, none, false⟩ := by
      simpa only [atFound, Option.getD_some, idAt, UInt32.ofNat_toNat] using identity
    obtain ⟨rfl, same⟩ := idAt_injective (wf.index_room atFound) room (wf.generation_fits atFound) fits minted
    obtain rfl := Option.some.inj (atSlot.symm.trans atFound)
    rcases past with earlier | ⟨_, occupied⟩
    · exact earlier.ne (congrArg UInt16.toNat same.symm)
    · simp [vacant, notRetired] at occupied
  · rename_i stack
    obtain ⟨inside, _⟩ := List.getElem?_eq_some_iff.mp atSlot
    have capacity := wf.capacity
    have word := t.maxSlots.toNat_lt
    have below := reserved_below ready stack
    have minted : t.idAt t.slots.length ⟨0, none, false⟩ = t.idAt place ⟨generation, none, false⟩ := by
      simpa only [idAt] using identity
    have same := (idAt_injective (by omega) room (by simp) fits minted).1
    omega

theorem lookup_eq_none_of_locate (missed : t.locate id = .error failure) : t.lookup id = none := by
  rw [Option.eq_none_iff_forall_ne_some]
  intro value present
  obtain ⟨index, located, _⟩ := lookup_eq_some_iff_locate.mp present
  simp [missed] at located

theorem locate_slot (found : t.locate id = .ok index) :
    ∃ generation value, t.slots[index]? = some ⟨generation, some value, false⟩ ∧
      generation.toNat < 2 ^ 13 ∧ id = t.idAt index ⟨generation, some value, false⟩ := by
  obtain ⟨⟨generation, occupant, retired⟩, atSlot, rfl, occupied, fits, room, layout⟩ := locate_eq_ok_iff.mp found
  obtain ⟨value, rfl⟩ := Option.isSome_iff_exists.mp occupied
  exact ⟨generation, value, atSlot, fits, ObjectId.ext_toNat (layout.trans (idAt_toNat room fits).symm)⟩

theorem WellFormed.occupied_not_free (wf : t.WellFormed) {index : UInt32} {generation : UInt16} {retired : Bool}
    (atSlot : t.slots[index.toNat]? = some ⟨generation, some value, retired⟩) :
    index ∉ t.free := by
  intro member
  obtain ⟨slot, atFree, vacant, _⟩ := (wf.free_iff index).mp member
  obtain rfl := Option.some.inj (atSlot.symm.trans atFree)
  simp at vacant

/-- Borrowing a record succeeds exactly when the identifier resolves. -/
theorem getMut_cases {R : Type} (wf : t.WellFormed) (id : ObjectId) (body : T → R × T) :
    (t.lookup id = none ∧ ∃ failure, t.getMut id body = .error failure) ∨
      ∃ value after, t.getMut id body = .ok ((body value).1, after) ∧
        Writes t after id (some value) (some (body value).2) := by
  unfold getMut
  cases found : t.locate id with
  | error failure => exact .inl ⟨lookup_eq_none_of_locate found, failure, rfl⟩
  | ok index =>
    obtain ⟨generation, value, atSlot, fits, identity⟩ := locate_slot found
    refine .inr ⟨value, _, by simp only [Bind.bind, Except.bind, atSlot]; rfl, ?_⟩
    generalize made : ({ t with slots := t.slots.set index ⟨generation, some (body value).2, false⟩ } :
      ObjectTable T) = after
    have slots : after.slots = t.slots.set index ⟨generation, some (body value).2, false⟩ := by rw [← made]
    have shape : SameShape t after := by subst made; exact ⟨rfl, rfl, rfl⟩
    have free : after.free = t.free := by rw [← made]
    have live : after.live.toNat = after.records.length := by
      have total := total_set atSlot slots (fun _ => 1)
      rw [← records_length, ← records_length] at total
      rw [show after.live = t.live by rw [← made], wf.live_exact]
      simpa using total.symm
    have wf' : after.WellFormed := by
      refine wf.of_set shape atSlot slots fits (by simp) live (free ▸ wf.free_nodup) (fun other => ?_)
      rw [free]
      refine ⟨fun member => .inr ⟨?_, member⟩, ?_⟩
      · rintro rfl
        exact wf.occupied_not_free atSlot member
      rintro (⟨_, vacant, _⟩ | ⟨_, member⟩)
      · simp at vacant
      · exact member
    have writes := Writes.of_set wf wf' shape atSlot slots (fun _ => rfl) (.inr ⟨rfl, .inl rfl⟩)
    rwa [identity]

theorem live_sub_one (live : before.live.toNat = before.records.length)
    (total : ∀ f : T → Nat, after.total f + f value = before.total f) :
    (before.live - 1).toNat = after.records.length := by
  have shrunk := total (fun _ => 1)
  rw [← records_length, ← records_length] at shrunk
  rw [UInt32.toNat_sub_of_le _ _ (UInt32.le_iff_toNat_le.mpr (by
    rw [show (1 : UInt32).toNat = 1 from rfl]; omega)), show (1 : UInt32).toNat = 1 from rfl]
  omega

/-- A removal either retires the slot, when its generation is the last one, or
hands it to the free stack under the next generation. -/
theorem remove_cases (wf : t.WellFormed) (id : ObjectId) :
    (t.lookup id = none ∧ ∃ failure, t.remove id = .error failure) ∨
      ∃ value after, t.remove id = .ok (value, after) ∧ Writes t after id (some value) none := by
  unfold remove
  cases found : t.locate id with
  | error failure => exact .inl ⟨lookup_eq_none_of_locate found, failure, rfl⟩
  | ok index =>
    obtain ⟨generation, value, atSlot, fits, identity⟩ := locate_slot found
    have room := wf.index_room atSlot
    have word : (UInt32.ofNat index).toNat = index := UInt32.toNat_ofNat_of_lt' (by
      rw [show UInt32.size = 2 ^ 32 from rfl]; omega)
    have notFree : UInt32.ofNat index ∉ t.free := wf.occupied_not_free (by rw [word]; exact atSlot)
    simp only [Bind.bind, Except.bind, atSlot]
    by_cases last : generation = generationMask
    · rw [if_pos last]
      refine .inr ⟨value, _, rfl, ?_⟩
      generalize made : ({ t with live := t.live - 1, slots := t.slots.set index ⟨generation, none, true⟩ } :
        ObjectTable T) = after
      have slots : after.slots = t.slots.set index ⟨generation, none, true⟩ := by rw [← made]
      have shape : SameShape t after := by subst made; exact ⟨rfl, rfl, rfl⟩
      have free : after.free = t.free := by rw [← made]
      have live : after.live.toNat = after.records.length := by
        rw [show after.live = t.live - 1 by rw [← made]]
        exact live_sub_one wf.live_exact (fun f => by simpa using total_set atSlot slots f)
      have wf' : after.WellFormed := by
        refine wf.of_set shape atSlot slots fits (by simp) live (free ▸ wf.free_nodup) (fun other => ?_)
        rw [free]
        refine ⟨fun member => .inr ⟨?_, member⟩, ?_⟩
        · rintro rfl
          exact wf.occupied_not_free atSlot member
        rintro (⟨_, _, retired⟩ | ⟨_, member⟩)
        · simp at retired
        · exact member
      have writes := Writes.of_set wf wf' shape atSlot slots (by simp) (.inr ⟨rfl, .inr rfl⟩)
      rwa [identity]
    · rw [if_neg last]
      refine .inr ⟨value, _, rfl, ?_⟩
      generalize made : ({ t with
        live := t.live - 1
        slots := t.slots.set index ⟨generation + 1, none, false⟩
        free := UInt32.ofNat index :: t.free } : ObjectTable T) = after
      have slots : after.slots = t.slots.set index ⟨generation + 1, none, false⟩ := by rw [← made]
      have shape : SameShape t after := by subst made; exact ⟨rfl, rfl, rfl⟩
      have free : after.free = UInt32.ofNat index :: t.free := by rw [← made]
      have live : after.live.toNat = after.records.length := by
        rw [show after.live = t.live - 1 by rw [← made]]
        exact live_sub_one wf.live_exact (fun f => by simpa using total_set atSlot slots f)
      have notLast : generation.toNat ≠ 8191 := fun same =>
        last (UInt16.toNat_inj.mp (same.trans generationMask_toNat.symm))
      have next : (generation + 1).toNat = generation.toNat + 1 := by
        rw [UInt16.toNat_add, show (1 : UInt16).toNat = 1 from rfl]
        omega
      have advanced : generation.toNat < (generation + 1).toNat := by omega
      have wf' : after.WellFormed := by
        refine wf.of_set shape atSlot slots (by simp only [next]; omega) (by simp) live
          (free ▸ nodup_cons.mpr ⟨notFree, wf.free_nodup⟩) (fun other => ?_)
        rw [free, mem_cons]
        constructor
        · rintro (rfl | member)
          · exact .inl ⟨word, rfl, rfl⟩
          refine .inr ⟨fun same => notFree ?_, member⟩
          rw [← same]
          simpa using member
        · rintro (⟨here, _⟩ | ⟨_, member⟩)
          · exact .inl (by rw [← here]; simp)
          · exact .inr member
      have writes := Writes.of_set wf wf' shape atSlot slots (by simp) (.inl advanced)
      rwa [identity]

end VirtioAccel.ObjectTable
