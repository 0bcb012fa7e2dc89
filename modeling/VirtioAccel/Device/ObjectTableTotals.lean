import VirtioAccel.Device.ObjectTableSteps
import VirtioAccel.Device.ObjectTableListing

namespace VirtioAccel.ObjectTable
open List
variable {T : Type}
variable {t before after : ObjectTable T} {f : T → T} {value : T}
variable {ids : List ObjectId} {middle : ObjectTable T} {id : ObjectId}

section
variable (wf : t.WellFormed)
include wf

theorem mem_records_iff : value ∈ t.records ↔ ∃ id, t.lookup id = some value := by
  simp only [records, mem_filterMap, lookup_eq_some_iff wf]
  constructor
  · rintro ⟨slot, member, occupied⟩
    obtain ⟨index, atSlot⟩ := mem_iff_getElem?.mp member
    exact ⟨t.idAt index slot, index, slot, atSlot, occupied, rfl⟩
  · rintro ⟨id, index, slot, atSlot, occupied, _⟩
    exact ⟨slot, mem_of_getElem? atSlot, occupied⟩

theorem len_eq_total : t.len.toNat = t.total (fun _ => 1) := by
  rw [len, wf.live_exact, records_length]

theorem total_eq_zero {f : T → Nat} (each : ∀ id value, t.lookup id = some value → f value = 0) :
    t.total f = 0 := by
  refine SlotSums.sum_map_eq_zero (fun value member => ?_)
  obtain ⟨id, present⟩ := (mem_records_iff wf).mp member
  exact each id value present

theorem weight_le_total (f : T → Nat) (present : t.lookup id = some value) : f value ≤ t.total f := by
  have member := (mem_records_iff wf).mpr ⟨id, present⟩
  exact le_sum_of_mem (mem_map_of_mem (f := f) member)

theorem total_le_maxSlots_mul {f : T → Nat} {bound : Nat} (each : ∀ value, f value ≤ bound) :
    t.total f ≤ t.maxSlots.toNat * bound := by
  have length : t.records.length ≤ t.maxSlots.toNat := Nat.le_trans (length_filterMap_le _ _) wf.capacity
  calc t.total f ≤ t.records.length * bound := SlotSums.sum_map_le_length_mul (fun value _ => each value)
    _ ≤ t.maxSlots.toNat * bound := Nat.mul_le_mul_right _ length

theorem total_eq_sum_ids (f : T → Nat) : t.total f = (t.ids.map (fun id => (t.lookup id).elim 0 f)).sum := by
  have aligned : t.slots.zipIdx.filterMap (fun entry => entry.1.value) =
      (t.slots.zipIdx.map Prod.fst).filterMap Slot.value := by
    rw [filterMap_map]
    rfl
  have slotwise : t.total f = ((t.slots.zipIdx.filterMap (fun entry => entry.1.value)).map f).sum := by
    rw [aligned, zipIdx_map_fst]
    rfl
  rw [slotwise, ids, map_filterMap, map_filterMap]
  congr 1
  refine filterMap_congr (fun entry member => ?_)
  obtain ⟨slot, index⟩ := entry
  cases occupied : slot.value with
  | none => simp only [occupied, Option.map_none]
  | some value =>
    have present : t.lookup (t.idAt index slot) = some value :=
      (lookup_eq_some_iff wf).mpr ⟨index, slot, mem_zipIdx_iff_getElem?.mp member, occupied, rfl⟩
    simp [occupied, present]

theorem ids_nodup : t.ids.Nodup := by
  refine (ids_sorted wf).imp (fun less same => ?_)
  subst same
  exact UInt32.lt_irrefl _ less

/-- A weighted sum over the records depends only on what the identifiers resolve to. -/
theorem total_eq_of_lookup {t' : ObjectTable T} (wf' : t'.WellFormed)
    (same : ∀ id, t'.lookup id = t.lookup id) (f : T → Nat) : t'.total f = t.total f := by
  have permuted : t'.ids.Perm t.ids := by
    rw [perm_ext_iff_of_nodup (ids_nodup wf') (ids_nodup wf)]
    intro id
    rw [mem_ids_iff wf', mem_ids_iff wf, same]
  rw [total_eq_sum_ids wf', total_eq_sum_ids wf]
  simp only [same]
  exact (permuted.map _).sum_eq

end

/-- Every record is rewritten by `f` once for each occurrence of its identifier. -/
structure Bumps (before after : ObjectTable T) (f : T → T) (ids : List ObjectId) : Prop where
  wellFormed : after.WellFormed
  shape : SameShape before after
  lookup : ∀ id, after.lookup id = (before.lookup id).map f^[ids.count id]
  total : ∀ weight : T → Nat, (∀ value, weight (f value) = weight value) → after.total weight = before.total weight
  issued : ∀ id, before.Issued id → after.Issued id

theorem Bumps.descends (bumps : Bumps before after f ids) :
    Descends before after := ⟨bumps.shape, bumps.issued⟩

theorem Bumps.none (wf : t.WellFormed) (f : T → T) : Bumps t t f [] :=
  ⟨wf, ⟨rfl, rfl, rfl⟩, fun id => by simp, fun _ _ => rfl, fun _ issued => issued⟩

theorem Writes.bumps {rest : List ObjectId} (first : Writes before middle id (some value) (some (f value)))
    (others : Bumps middle after f rest) :
    Bumps before after f (id :: rest) := by
  refine ⟨others.wellFormed, first.shape.trans others.shape, fun other => ?_, fun weight fixed => ?_,
    fun other issued => others.issued other (first.issued other issued)⟩
  · rw [others.lookup, first.lookup_after]
    by_cases same : other = id
    · subst other
      simp [first.lookup_before]
    · simp [same, Ne.symm same]
  · have step := first.total weight
    simp only [Option.elim_some, fixed] at step
    rw [others.total weight fixed]
    omega

/-- The inverse rewriting over the same identifiers undoes the first. -/
theorem Bumps.undo {g : T → T} (inverse : Function.LeftInverse g f) (there : Bumps before middle f ids)
    (back : Bumps middle after g ids) :
    ∀ id, after.lookup id = before.lookup id := by
  intro id
  rw [back.lookup, there.lookup, Option.map_map]
  cases before.lookup id with
  | none => rfl
  | some value => exact congrArg some (inverse.iterate _ value)

end VirtioAccel.ObjectTable
