import VirtioAccel.Device.ObjectTable

namespace VirtioAccel.ObjectTable
open List
variable {T : Type}
variable {t : ObjectTable T}
variable {id : ObjectId} {slot : Slot T} {index cursor : Nat} {value : T}

/-- The slot number in the low word of an identifier. -/
def slotNumber (id : ObjectId) : UInt32 := id.raw.toUInt32

theorem slotNumber_idAt (room : index + 1 < 2 ^ 32) (fits : slot.generation.toNat < 2 ^ 13) :
    (slotNumber (t.idAt index slot)).toNat = index + 1 := by
  rw [slotNumber, UInt64.toNat_toUInt32, idAt_toNat room fits]
  omega

section
variable (wf : t.WellFormed)
include wf

theorem mem_ids_iff : id ∈ t.ids ↔ ∃ value, t.lookup id = some value := by
  simp only [ids, mem_filterMap, lookup_eq_some_iff wf]
  constructor
  · rintro ⟨⟨slot, index⟩, member, minted⟩
    obtain ⟨value, occupied, rfl⟩ := Option.map_eq_some_iff.mp minted
    exact ⟨value, index, slot, mem_zipIdx_iff_getElem?.mp member, occupied, rfl⟩
  · rintro ⟨value, index, slot, atSlot, occupied, rfl⟩
    exact ⟨(slot, index), mem_zipIdx_iff_getElem?.mpr atSlot, by simp [occupied]⟩

theorem ids_sorted : t.ids.Pairwise (fun left right => slotNumber left < slotNumber right) := by
  rw [ids, pairwise_filterMap, pairwise_iff_getElem]
  intro i j inI inJ less left atLeft right atRight
  simp only [getElem_zipIdx, Nat.zero_add] at atLeft atRight
  simp only [length_zipIdx] at inI inJ
  have atI := getElem?_eq_getElem inI
  have atJ := getElem?_eq_getElem inJ
  obtain ⟨_, _, rfl⟩ := Option.map_eq_some_iff.mp atLeft
  obtain ⟨_, _, rfl⟩ := Option.map_eq_some_iff.mp atRight
  rw [UInt32.lt_iff_toNat_lt, slotNumber_idAt (wf.index_room atI) (wf.generation_fits atI),
    slotNumber_idAt (wf.index_room atJ) (wf.generation_fits atJ)]
  omega

theorem ids_length : t.len.toNat = t.ids.length := by
  have counted : t.ids.length = (t.slots.zipIdx.map Prod.fst).countP (fun slot => slot.value.isSome) := by
    rw [ids, length_filterMap_eq_countP, countP_map]
    refine countP_congr (fun entry _ => ?_)
    simp
  rw [len, wf.live_exact, counted, zipIdx_map_fst, records, length_filterMap_eq_countP]

theorem WellFormed.not_retired (atSlot : t.slots[index]? = some slot)
    (occupied : slot.value = some value) : slot.retired = false := by
  cases retired : slot.retired with
  | false => rfl
  | true => simp [wf.retired_vacant atSlot retired] at occupied

/-- `next_id_from` finds the first live slot at or after a position. -/
theorem nextIdFrom_slot {next : Nat} (found : t.nextIdFrom cursor = some (next, id)) :
    (∃ value, t.lookup id = some value) ∧ (slotNumber id).toNat = next ∧
      ∀ {other value}, t.lookup other = some value → cursor < (slotNumber other).toNat →
        other = id ∨ next < (slotNumber other).toNat := by
  obtain ⟨skipped, ⟨slot, index⟩, rest, split, made, passed⟩ := findSome?_eq_some_iff.mp found
  dsimp only at made
  split at made
  · cases made
  rename_i occupied
  simp only [Bool.or_eq_true, not_or, Bool.not_eq_true, Option.isNone_eq_false_iff,
    Option.isSome_iff_exists] at occupied
  obtain ⟨_, value, stored⟩ := occupied
  cases made
  have position : ∀ k : Nat,
      (t.slots.zipIdx.drop cursor)[k]? = t.slots[cursor + k]?.map (fun slot => (slot, cursor + k)) := by
    intro k
    rw [getElem?_drop, getElem?_zipIdx, Nat.zero_add]
  have here := position skipped.length
  rw [split, getElem?_append_right (Nat.le_refl _), Nat.sub_self] at here
  obtain ⟨slot', atSlot, same⟩ := Option.map_eq_some_iff.mp here.symm
  cases same
  have slotted := slotNumber_idAt (t := t) (wf.index_room atSlot) (wf.generation_fits atSlot)
  refine ⟨⟨value, (lookup_eq_some_iff wf).mpr ⟨_, slot, atSlot, stored, rfl⟩⟩, slotted, ?_⟩
  intro other found' present ahead
  obtain ⟨place, held, atPlace, occupied, rfl⟩ := (lookup_eq_some_iff wf).mp present
  rw [slotNumber_idAt (wf.index_room atPlace) (wf.generation_fits atPlace)] at ahead ⊢
  rcases Nat.lt_trichotomy place (cursor + skipped.length) with less | same | more
  · have listed := position (place - cursor)
    rw [split, getElem?_append_left (by omega), Nat.add_sub_cancel' (by omega), atPlace] at listed
    have none := passed _ (mem_of_getElem? listed)
    simp [occupied, wf.not_retired atPlace occupied] at none
  · subst same
    cases atPlace.symm.trans atSlot
    exact .inl rfl
  · exact .inr (by omega)

theorem nextIdFrom_none (ended : t.nextIdFrom cursor = none) {other : ObjectId}
    (present : t.lookup other = some value) : (slotNumber other).toNat ≤ cursor := by
  obtain ⟨place, held, atPlace, occupied, rfl⟩ := (lookup_eq_some_iff wf).mp present
  rw [slotNumber_idAt (wf.index_room atPlace) (wf.generation_fits atPlace)]
  by_contra ahead
  have listed : (held, place) ∈ t.slots.zipIdx.drop cursor := by
    refine mem_of_getElem? (i := place - cursor) ?_
    rw [getElem?_drop, getElem?_zipIdx, Nat.add_sub_cancel' (by omega), atPlace]
    simp
  have none := findSome?_eq_none_iff.mp ended _ listed
  simp [occupied, wf.not_retired atPlace occupied] at none

end

/-- The identifiers met by calling `next_id_from` again and again, each time
from the position the previous call returned, until it returns nothing. -/
inductive Walk (t : ObjectTable T) : Nat → List ObjectId → Prop
  | done {start} : t.nextIdFrom start = none → Walk t start []
  | next {start position id rest} : t.nextIdFrom start = some (position, id) → Walk t position rest →
      Walk t start (id :: rest)

theorem Walk.skip {start later : Nat} {found : List ObjectId} (same : t.nextIdFrom start = t.nextIdFrom later)
    (walk : Walk t later found) : Walk t start found := by
  cases walk with
  | done ended => exact .done (same.trans ended)
  | next step rest => exact .next (same.trans step) rest

theorem walk_from (wf : t.WellFormed) (start : Nat) :
    Walk t start ((t.slots.zipIdx.drop start).filterMap
      (fun (slot, index) => slot.value.map (fun _ => t.idAt index slot))) := by
  induction remaining : t.slots.length - start generalizing start with
  | zero =>
    have ended : t.slots.zipIdx.drop start = [] := by
      rw [drop_eq_nil_iff, length_zipIdx]
      omega
    rw [ended]
    exact .done (by simp [nextIdFrom, ended])
  | succ n ih =>
    have inside : start < t.slots.zipIdx.length := by rw [length_zipIdx]; omega
    have rest := ih (start + 1) (by omega)
    have atSlot : t.slots[start]? = some t.slots[start] :=
      getElem?_eq_getElem (by simpa only [length_zipIdx] using inside)
    have split := drop_eq_getElem_cons inside
    rw [getElem_zipIdx, Nat.zero_add] at split
    generalize t.slots[start] = slot at atSlot split
    rw [split, filterMap_cons]
    cases occupied : slot.value with
    | none =>
      simp only [occupied, Option.map_none]
      refine Walk.skip ?_ rest
      simp [nextIdFrom, split, occupied]
    | some value =>
      simp only [occupied, Option.map_some]
      refine Walk.next ?_ rest
      simp [nextIdFrom, split, occupied, wf.not_retired atSlot occupied]

theorem walk_ids (wf : t.WellFormed) : Walk t 0 t.ids := by
  simpa only [drop_zero, ids] using walk_from wf 0

def retiredSlots (t : ObjectTable T) : Nat := t.slots.countP Slot.retired

/-- Every slot is occupied, retired, or on the free stack. -/
theorem live_add_retired (wf : t.WellFormed) :
    t.len.toNat + t.retiredSlots = t.slots.countP (fun slot => slot.value.isSome || slot.retired) := by
  rw [len, wf.live_exact, records, length_filterMap_eq_countP, retiredSlots]
  have disjoint : ∀ slot ∈ t.slots, slot.retired = true → slot.value = none := fun slot member retired => by
    obtain ⟨index, atSlot⟩ := mem_iff_getElem?.mp member
    exact wf.retired_vacant atSlot retired
  generalize t.slots = slots at disjoint
  induction slots with
  | nil => rfl
  | cons slot rest ih =>
    have tail := ih (fun other member => disjoint other (mem_cons_of_mem _ member))
    have head := disjoint slot (mem_cons_self ..)
    cases retired : slot.retired with
    | false => cases occupied : slot.value <;> simp [retired, occupied] at tail ⊢ <;> omega
    | true => simp [retired, head retired] at tail ⊢; omega

theorem insert_full_iff (wf : t.WellFormed) (value : T) :
    t.insert true value = .error .full ↔ t.len.toNat + t.retiredSlots = t.maxSlots.toNat := by
  have capacity := wf.capacity
  have counted := live_add_retired wf
  have atMost := countP_le_length (p := fun slot : Slot T => slot.value.isSome || slot.retired) (l := t.slots)
  have noneFree : t.free = [] ↔ t.len.toNat + t.retiredSlots = t.slots.length := by
    rw [counted, countP_eq_length, eq_nil_iff_forall_not_mem]
    constructor
    · intro empty slot member
      obtain ⟨index, atSlot⟩ := mem_iff_getElem?.mp member
      have room := wf.index_room atSlot
      have word : (UInt32.ofNat index).toNat = index := UInt32.toNat_ofNat_of_lt' (by
        rw [show UInt32.size = 2 ^ 32 from rfl]; omega)
      by_contra vacant
      simp only [Bool.or_eq_true, not_or, Bool.not_eq_true, Option.isSome_eq_false_iff, Option.isNone_iff_eq_none]
        at vacant
      exact empty _ ((wf.free_iff _).mpr ⟨slot, by rwa [word], vacant⟩)
    · intro all index member
      obtain ⟨slot, atSlot, vacant, notRetired⟩ := (wf.free_iff index).mp member
      simpa [vacant, notRetired] using all slot (mem_of_getElem? atSlot)
  unfold insert tryReserveInsert
  by_cases empty : t.free = []
  · have full := noneFree.mp empty
    by_cases below : t.maxSlots.toNat ≤ t.slots.length
    · simp [empty, below, Bind.bind, Except.bind]
      omega
    simp [empty, below, Bind.bind, Except.bind, pure, Except.pure]
    omega
  · have notFull := mt noneFree.mpr empty
    simp [empty, Bind.bind, Except.bind, pure, Except.pure]
    omega

end VirtioAccel.ObjectTable
