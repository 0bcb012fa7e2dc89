import Mathlib.Data.UInt

/-! Machine counters that are stepped one unit at a time. -/

namespace Counters
variable {x : UInt32} {n : Nat}

/-- A view that one step leaves alone is left alone by any number of steps. -/
theorem iterate_fixed {T U : Type} {f : T → T} {view : T → U} (fixed : ∀ x, view (f x) = view x) (n : Nat) (x : T) :
    view (f^[n] x) = view x := by
  induction n generalizing x with
  | zero => rfl
  | succ n ih => rw [Function.iterate_succ_apply, ih, fixed]

theorem iterate_add_one (room : x.toNat + n < 2 ^ 32) : ((· + 1)^[n] x).toNat = x.toNat + n := by
  induction n generalizing x with
  | zero => rfl
  | succ n ih =>
    have step : (x + 1).toNat = x.toNat + 1 := by
      rw [UInt32.toNat_add, show (1 : UInt32).toNat = 1 from rfl]
      omega
    rw [Function.iterate_succ_apply, ih (by omega)]
    omega

theorem iterate_sub_one (enough : n ≤ x.toNat) : ((· - 1)^[n] x).toNat = x.toNat - n := by
  induction n generalizing x with
  | zero => rfl
  | succ n ih =>
    have step : (x - 1).toNat = x.toNat - 1 := by
      rw [UInt32.toNat_sub_of_le _ _ (UInt32.le_iff_toNat_le.mpr (by
        rw [show (1 : UInt32).toNat = 1 from rfl]; omega)), show (1 : UInt32).toNat = 1 from rfl]
    rw [Function.iterate_succ_apply, ih (by omega)]
    omega

/-- Each occurrence has all the earlier ones before it. -/
theorem occurrence_split {α : Type} [DecidableEq α] {l : List α} {x : α} {k : Nat} (below : k < l.count x) :
    ∃ earlier later, l = earlier ++ x :: later ∧ earlier.count x = k := by
  induction l generalizing k with
  | nil => simp at below
  | cons first rest ih =>
    by_cases same : first = x
    · subst first
      cases k with
      | zero => exact ⟨[], rest, rfl, rfl⟩
      | succ k =>
        rw [List.count_cons_self] at below
        obtain ⟨earlier, later, rfl, counted⟩ := ih (Nat.lt_of_succ_lt_succ below)
        exact ⟨x :: earlier, later, rfl, by rw [List.count_cons_self, counted]⟩
    · rw [List.count_cons_of_ne same] at below
      obtain ⟨earlier, later, rfl, counted⟩ := ih below
      exact ⟨first :: earlier, later, rfl, by rw [List.count_cons_of_ne same, counted]⟩

end Counters
