import Mathlib.Data.List.ReduceOption
import Mathlib.Algebra.Order.BigOperators.Group.List
import Mathlib.Tactic.Ring

namespace SlotSums
open List
variable {α β : Type}
variable {l : List α}
variable {f : α → Nat} {n : Nat}

/-- Replacing one entry of a list changes a weighted sum by the difference of
the two weights. Written additively, so that no truncated subtraction occurs. -/
theorem sum_map_set {old : α} (f : α → Nat) (atOld : l[n]? = some old) (new : α) :
    ((l.set n new).map f).sum + f old = (l.map f).sum + f new := by
  induction l generalizing n with
  | nil => simp at atOld
  | cons x xs ih =>
    cases n with
    | zero =>
      simp only [getElem?_cons_zero, Option.some.injEq] at atOld
      subst x
      simp only [set_cons_zero, map_cons, sum_cons]
      omega
    | succ n =>
      have tail := ih (by simpa only [getElem?_cons_succ] using atOld)
      simp only [set_cons_succ, map_cons, sum_cons]
      omega

theorem sum_map_le_length_mul {bound : Nat} (each : ∀ x ∈ l, f x ≤ bound) : (l.map f).sum ≤ l.length * bound := by
  induction l with
  | nil => simp
  | cons x xs ih =>
    have head := each x (mem_cons_self ..)
    have tail := ih (fun y member => each y (mem_cons_of_mem _ member))
    simp only [map_cons, sum_cons, length_cons, Nat.succ_mul]
    omega

theorem sum_map_eq_zero (each : ∀ x ∈ l, f x = 0) : (l.map f).sum = 0 := by
  have bound := @sum_map_le_length_mul _ l f 0 (fun x member => (each x member).le)
  omega

/-- The weighted sum over the occupied entries alone. -/
theorem sum_map_elim (l : List α) (value : α → Option β) (f : β → Nat) :
    (l.map (fun x => (value x).elim 0 f)).sum = ((l.filterMap value).map f).sum := by
  induction l with
  | nil => rfl
  | cons x xs ih => cases occupied : value x <;> simp [occupied, ih]

/-- Replacing one optional entry exchanges it among the occupied ones. -/
theorem perm_reduceOption_set {l : List (Option α)} {old : Option α} (atOld : l[n]? = some old) (new : Option α) :
    ∃ rest, l.reduceOption.Perm (old.toList ++ rest) ∧ (l.set n new).reduceOption.Perm (new.toList ++ rest) := by
  induction l generalizing n with
  | nil => simp at atOld
  | cons x xs ih =>
    have split (entry : Option α) (tail : List (Option α)) :
        (entry :: tail).reduceOption = entry.toList ++ tail.reduceOption := by cases entry <;> rfl
    cases n with
    | zero =>
      simp only [getElem?_cons_zero, Option.some.injEq] at atOld
      subst x
      exact ⟨xs.reduceOption, .of_eq (split _ _), .of_eq (split _ _)⟩
    | succ n =>
      obtain ⟨rest, before, after⟩ := ih (by simpa only [getElem?_cons_succ] using atOld)
      refine ⟨x.toList ++ rest, ?_, ?_⟩
      · rw [split]
        exact (before.append_left _).trans (perm_append_comm_assoc _ _ _)
      rw [set_cons_succ, split]
      exact (after.append_left _).trans (perm_append_comm_assoc _ _ _)

/-- Two entries with one name are at one place, when the names are distinct. -/
theorem place_unique {name : α → Option β} (distinct : (l.map name).reduceOption.Nodup) {i j : Nat}
    {x y : α} {n : β}
    (atI : l[i]? = some x) (atJ : l[j]? = some y) (named : name x = some n) (same : name y = some n) : i = j := by
  induction l generalizing i j with
  | nil => simp at atI
  | cons z rest ih =>
    have clash {k : Nat} {w : α} (later : rest[k]? = some w) (first : name z = some n)
        (again : name w = some n) : False := by
      rw [map_cons, first, reduceOption_cons_of_some, nodup_cons] at distinct
      exact distinct.1 (reduceOption_mem_iff.mpr (again ▸ mem_map_of_mem (mem_of_getElem? later)))
    have tail : (rest.map name).reduceOption.Nodup := by
      cases first : name z with
      | none =>
        rw [map_cons, first, reduceOption_cons_of_none] at distinct
        exact distinct
      | some m =>
        rw [map_cons, first, reduceOption_cons_of_some, nodup_cons] at distinct
        exact distinct.2
    cases i with
    | zero =>
      cases j with
      | zero => rfl
      | succ j =>
        cases atI
        exact (clash atJ named same).elim
    | succ i =>
      cases j with
      | zero =>
        cases atJ
        exact (clash atI same named).elim
      | succ j => exact congrArg (· + 1) (ih tail atI atJ)

/-- Entries that name their places have different names. -/
theorem nodup_reduceOption_map {l : List (Option α)} {name : α → β}
    (places : ∀ (i j : Nat) (x y : α), l[i]? = some (some x) → l[j]? = some (some y) → name x = name y → i = j) :
    (l.reduceOption.map name).Nodup := by
  induction l with
  | nil => exact nodup_nil
  | cons entry rest ih =>
    have tail := ih (fun i j x y atI atJ same => Nat.succ.inj (places (i + 1) (j + 1) x y atI atJ same))
    cases entry with
    | none => exact tail
    | some x =>
      refine nodup_cons.mpr ⟨fun member => ?_, tail⟩
      obtain ⟨y, inRest, same⟩ := mem_map.mp member
      obtain ⟨j, atJ⟩ := mem_iff_getElem?.mp (reduceOption_mem_iff.mp inRest)
      have clash := places 0 (j + 1) x y rfl atJ same.symm
      omega

theorem sum_map_ite_eq_countP (l : List β) (p : β → Prop) [DecidablePred p] :
    (l.map (fun x => if p x then 1 else 0)).sum = l.countP (fun x => decide (p x)) := by
  induction l with
  | nil => rfl
  | cons x xs ih => by_cases holds : p x <;> simp [holds, ih, Nat.add_comm]

/-- Lists that agree in every weighted sum have the same elements. -/
theorem perm_of_sums {l' : List α} (each : ∀ weight : α → Nat, (l.map weight).sum = (l'.map weight).sum) :
    l.Perm l' := by
  classical
  refine perm_iff_count.mpr (fun x => ?_)
  have counted := each (fun y => if y = x then 1 else 0)
  rw [sum_map_ite_eq_countP, sum_map_ite_eq_countP] at counted
  simpa [count, BEq.beq] using counted

end SlotSums
