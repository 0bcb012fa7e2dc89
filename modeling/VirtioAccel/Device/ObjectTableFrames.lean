import VirtioAccel.Device.ObjectTableTotals
import Mathlib.Algebra.Order.BigOperators.Group.Finset

/-! What a table is beside its records, and sums that look at the identifiers. -/

namespace VirtioAccel.ObjectTable
open List
variable {T : Type}
variable {g : ObjectId → T → Nat} {t after : ObjectTable T}
variable {before : ObjectTable T} {f : T → Nat}

/-- All of a slot but the stored value. -/
def slotFrame (slot : Slot T) : UInt16 × Bool × Bool := (slot.generation, slot.retired, slot.value.isSome)

/-- The tables may differ in the stored values alone, so the next insertion
gives the same identifier in both. -/
structure SameFrame (before after : ObjectTable T) : Prop where
  shape : SameShape before after
  live : after.live = before.live
  free : after.free = before.free
  slots : after.slots.map slotFrame = before.slots.map slotFrame

theorem SameFrame.refl (t : ObjectTable T) : SameFrame t t := ⟨⟨rfl, rfl, rfl⟩, rfl, rfl, rfl⟩

theorem SameFrame.trans {first second third : ObjectTable T} (left : SameFrame first second)
    (right : SameFrame second third) : SameFrame first third :=
  ⟨left.shape.trans right.shape, right.live.trans left.live, right.free.trans left.free,
    right.slots.trans left.slots⟩

theorem getMut_frame {R : Type} {id : ObjectId} {body : T → R × T} {result : R}
    (done : t.getMut id body = .ok (result, after)) : SameFrame t after := by
  unfold getMut at done
  cases found : t.locate id with
  | error failure =>
    rw [found] at done
    cases done
  | ok index =>
    obtain ⟨generation, value, atSlot, _⟩ := locate_slot found
    simp only [found, Bind.bind, Except.bind, atSlot] at done
    cases done
    obtain ⟨inside, here⟩ := List.getElem?_eq_some_iff.mp atSlot
    refine ⟨⟨rfl, rfl, rfl⟩, rfl, rfl, ?_⟩
    have kept : slotFrame (⟨generation, some (body value).2, false⟩ : Slot T) = (t.slots.map slotFrame).get
        ⟨index, by rwa [length_map]⟩ := by
      rw [get_eq_getElem, getElem_map, here]
      rfl
    rw [map_set, kept]
    exact set_getElem_self _

/-- Frame and records together are the whole table. -/
theorem SameFrame.eq_of_lookup (same : SameFrame before after) (wf : before.WellFormed) (wf' : after.WellFormed)
    (lookup : ∀ id, after.lookup id = before.lookup id) : after = before := by
  have slots : after.slots = before.slots := by
    refine ext_getElem? (fun index => ?_)
    have frames : (after.slots[index]?).map slotFrame = (before.slots[index]?).map slotFrame := by
      rw [← getElem?_map, ← getElem?_map, same.slots]
    cases atBefore : before.slots[index]? with
    | none =>
      rw [atBefore] at frames
      exact Option.map_eq_none_iff.mp frames
    | some slot =>
      rw [atBefore] at frames
      obtain ⟨slot', atAfter, alike⟩ := Option.map_eq_some_iff.mp frames
      obtain ⟨generation, retired, occupied⟩ : slot'.generation = slot.generation ∧ slot'.retired = slot.retired ∧
          slot'.value.isSome = slot.value.isSome := by simpa [slotFrame] using alike
      have value : slot'.value = slot.value := by
        cases stored : slot'.value with
        | none =>
          rw [stored] at occupied
          exact (Option.isNone_iff_eq_none.mp (Option.isSome_eq_false_iff.mp occupied.symm)).symm
        | some value =>
          have present : after.lookup (after.idAt index slot') = some value :=
            (lookup_eq_some_iff wf').mpr ⟨index, slot', atAfter, stored, rfl⟩
          rw [lookup, same.shape.idAt] at present
          obtain ⟨index', other, atOther, held, identity⟩ := (lookup_eq_some_iff wf).mp present
          have fits : slot'.generation.toNat < 2 ^ 13 := wf'.generation_fits atAfter
          obtain ⟨rfl, _⟩ := idAt_injective (wf.index_room atBefore) (wf.index_room atOther) fits
            (wf.generation_fits atOther) identity
          cases atBefore.symm.trans atOther
          exact held.symm
      rw [atAfter]
      obtain ⟨_, _, _⟩ := slot
      obtain ⟨_, _, _⟩ := slot'
      cases generation
      cases retired
      cases value
      rfl
  obtain ⟨kind, namespaceTag, maxSlots⟩ := same.shape
  have live := same.live
  have free := same.free
  obtain ⟨_, _, _, _, _, _⟩ := before
  obtain ⟨_, _, _, _, _, _⟩ := after
  cases kind
  cases namespaceTag
  cases maxSlots
  cases live
  cases free
  cases slots
  rfl

/-! Sums over identifiers and records -/

/-- Sum over the occupied slots of a weight that may depend on the identifier. -/
def weigh (t : ObjectTable T) (g : ObjectId → T → Nat) : Nat :=
  (t.ids.map (fun id => (t.lookup id).elim 0 (g id))).sum

theorem weigh_eq_sum (wf : t.WellFormed) (g : ObjectId → T → Nat) :
    t.weigh g = ∑ id ∈ t.ids.toFinset, (t.lookup id).elim 0 (g id) :=
  (sum_toFinset _ (ids_nodup wf)).symm

/-- Records that weigh something were there before, and weighed as much. -/
theorem weigh_le (wf : before.WellFormed) (wf' : after.WellFormed) {g' : ObjectId → T → Nat}
    (each : ∀ id value', after.lookup id = some value' → g' id value' = 0 ∨ ∃ value, before.lookup id = some value ∧
      g' id value' ≤ g id value) :
    after.weigh g' ≤ before.weigh g := by
  rw [weigh_eq_sum wf, weigh_eq_sum wf']
  have bound : ∀ id ∈ after.ids.toFinset, (after.lookup id).elim 0 (g' id) ≤ (before.lookup id).elim 0 (g id) := by
    intro id member
    obtain ⟨value', present⟩ := (mem_ids_iff wf').mp (mem_toFinset.mp member)
    rw [present, Option.elim_some]
    obtain zero | ⟨value, found, less⟩ := each id value' present
    · rw [zero]
      exact Nat.zero_le _
    · rwa [found, Option.elim_some]
  calc ∑ id ∈ after.ids.toFinset, (after.lookup id).elim 0 (g' id)
      ≤ ∑ id ∈ after.ids.toFinset, (before.lookup id).elim 0 (g id) := Finset.sum_le_sum bound
    _ ≤ ∑ id ∈ before.ids.toFinset, (before.lookup id).elim 0 (g id) := by
      refine Finset.sum_le_sum_of_ne_zero (fun id _ nonzero => ?_)
      rw [mem_toFinset, mem_ids_iff wf]
      cases found : before.lookup id with
      | none =>
        rw [found] at nonzero
        exact absurd rfl nonzero
      | some value => exact ⟨value, rfl⟩

theorem weigh_le_total (wf : t.WellFormed) (each : ∀ id value, g id value ≤ f value) : t.weigh g ≤ t.total f := by
  rw [total_eq_sum_ids wf]
  refine weigh_le wf wf (fun id value present => .inr ⟨value, present, each id value⟩)

/-- A smaller weight is smaller somewhere. -/
theorem exists_of_weigh_lt (wf : t.WellFormed) (less : t.weigh g < t.total f) :
    ∃ id value, t.lookup id = some value ∧ g id value < f value := by
  by_contra none
  refine Nat.not_le.mpr less ?_
  rw [total_eq_sum_ids wf]
  have each : ∀ id value, t.lookup id = some value → f value ≤ g id value := fun id value present =>
    Nat.not_lt.mp (fun smaller => none ⟨id, value, present, smaller⟩)
  exact weigh_le wf wf (fun id value present => .inr ⟨value, present, each id value present⟩)

end VirtioAccel.ObjectTable
