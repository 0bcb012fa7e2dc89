import Mathlib.Data.List.Basic

namespace List
open List
variable {α : Type}
variable {data target : List α} {index : Nat} {first second : List α}

/-- The list with the elements from an index on replaced by another list. -/
def overwrite (target : List α) (index : Nat) (data : List α) : List α :=
  target.take index ++ data ++ target.drop (index + data.length)

section
variable (fits : index + data.length ≤ target.length)
include fits

theorem length_overwrite : (target.overwrite index data).length = target.length := by
  simp [overwrite]
  omega

theorem getElem?_overwrite_outside {i : Nat} (outside : i < index ∨ index + data.length ≤ i) :
    (target.overwrite index data)[i]? = target[i]? := by
  simp only [overwrite, append_assoc]
  rcases outside with before | after
  · rw [getElem?_append_left (by simp; omega), getElem?_take_of_lt before]
  rw [getElem?_append_right (by simp; omega), getElem?_append_right (by simp; omega), getElem?_drop]
  congr 1
  simp
  omega

theorem take_drop_overwrite : ((target.overwrite index data).drop index).take data.length = data := by
  have length : (target.take index).length = index := by simp; omega
  simp only [overwrite, append_assoc]
  rw [drop_left' length, take_left' rfl]

end

@[simp] theorem overwrite_nil (target : List α) (index : Nat) : target.overwrite index [] = target := by
  simp [overwrite]

theorem overwrite_zero (target data : List α) : target.overwrite 0 data = data ++ target.drop data.length := by
  simp [overwrite]

/-- Two adjacent writes are one. -/
theorem overwrite_overwrite (fits : index + first.length ≤ target.length) :
    (target.overwrite index first).overwrite (index + first.length) second =
      target.overwrite index (first ++ second) := by
  have done : (target.take index ++ first).length = index + first.length := by
    rw [length_append, length_take]
    omega
  have tail : (target.overwrite index first).drop (index + first.length + second.length) =
      target.drop (index + first.length + second.length) := by
    rw [overwrite, drop_append, drop_of_length_le (by omega), nil_append, drop_drop]
    congr 1
    omega
  rw [overwrite, tail, overwrite, take_left' done, overwrite, length_append]
  simp only [append_assoc, Nat.add_assoc]

theorem overwrite_append_left (fits : index + data.length ≤ first.length) :
    (first ++ second).overwrite index data = first.overwrite index data ++ second := by
  rw [overwrite, overwrite, take_append_of_le_length (by omega), drop_append_of_le_length fits]
  simp only [append_assoc]

theorem overwrite_append_right (past : first.length ≤ index) :
    (first ++ second).overwrite index data = first ++ second.overwrite (index - first.length) data := by
  rw [overwrite, overwrite, take_append, take_of_length_le past, drop_append,
    drop_of_length_le (by omega), Nat.sub_add_comm past]
  simp only [append_assoc, nil_append]

theorem overwrite_append_across (inside : index ≤ first.length) (across : first.length ≤ index + data.length) :
    (first ++ second).overwrite index data =
      first.overwrite index (data.take (first.length - index)) ++
        second.overwrite 0 (data.drop (first.length - index)) := by
  have split : data = data.take (first.length - index) ++ data.drop (first.length - index) :=
    (take_append_drop _ _).symm
  have whole : (data.take (first.length - index)).length = first.length - index := by
    rw [length_take]
    omega
  rw [overwrite, overwrite, overwrite, take_append_of_le_length inside, drop_append,
    drop_of_length_le across, drop_of_length_le (l := first) (by omega), length_drop]
  nth_rewrite 1 [split]
  simp only [append_assoc, nil_append, take_zero]
  congr 4
  omega

/-- A write inside a window, seen from the window and from the list around it. -/
theorem overwrite_window {start size : Nat} (inside : start + size ≤ target.length)
    (fits : index + data.length ≤ size) :
    ((target.overwrite (start + index) data).drop start).take size =
    ((target.drop start).take size).overwrite index data ∧
      target.overwrite start (((target.drop start).take size).overwrite index data) =
        target.overwrite (start + index) data := by
  obtain ⟨before, window, after, rfl, first, second⟩ : ∃ before window after, target = before ++ (window ++ after) ∧
      before.length = start ∧ window.length = size := by
    refine ⟨target.take start, (target.drop start).take size, (target.drop start).drop size, ?_, ?_, ?_⟩
    · rw [take_append_drop, take_append_drop]
    · rw [length_take]
      omega
    · rw [length_take, length_drop]
      omega
  subst first second
  have changed : (window.overwrite index data).length = window.length := length_overwrite fits
  have whole : (before ++ (window ++ after)).overwrite (before.length + index) data =
      before ++ (window.overwrite index data ++ after) := by
    rw [overwrite_append_right (by omega), Nat.add_sub_cancel_left, overwrite_append_left fits]
  rw [whole, drop_left, drop_left, take_left, take_left' changed]
  refine ⟨rfl, ?_⟩
  rw [overwrite_append_right (Nat.le_refl _), Nat.sub_self, overwrite_zero, changed, drop_left]

end List
