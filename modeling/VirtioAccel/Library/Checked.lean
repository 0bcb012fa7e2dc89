import Mathlib.Data.List.Forall2

/-! Computations that stop at their first failure, and how to take them apart. -/

namespace Checked
open List
variable {ε ε' α β : Type}
variable {f : α → Except ε β} {l : List α} {x : Except ε α} {l' : List β} {p : Prop} {e : ε} {a : α}
variable {u : Unit} {b : β}

/-- Stop with `e` when the condition holds. -/
def refuseIf (p : Prop) [Decidable p] (e : ε) : Except ε Unit := if p then .error e else .ok ()

@[simp] theorem refuseIf_eq_ok [Decidable p] : (refuseIf p e : Except ε Unit) = .ok u ↔ ¬ p := by
  by_cases holds : p <;> simp [refuseIf]

@[simp] theorem bind_eq_ok : (x >>= f) = .ok b ↔ ∃ a, x = .ok a ∧ f a = .ok b := by
  cases x with
  | error | ok => simp [Bind.bind, Except.bind]

theorem refuseIf_bind_eq_ok [Decidable p] {f : Unit → Except ε β} :
    (refuseIf p e >>= f) = .ok b ↔ ¬ p ∧ f () = .ok b := by
  rw [bind_eq_ok]
  exact ⟨fun ⟨_, goes, done⟩ => ⟨refuseIf_eq_ok.mp goes, done⟩, fun ⟨goes, done⟩ =>
    ⟨(), refuseIf_eq_ok.mpr goes, done⟩⟩

@[simp] theorem pure_eq_ok {b : α} : (pure a : Except ε α) = .ok b ↔ a = b := by
  simp [pure, Except.pure]

@[simp] theorem mapError_eq_ok {f : ε → ε'} : x.mapError f = .ok a ↔ x = .ok a := by
  cases x <;> simp [Except.mapError]

@[simp] theorem refuseIf_eq_error [Decidable p] {e' : ε} :
    (refuseIf p e : Except ε Unit) = .error e' ↔ p ∧ e = e' := by
  by_cases holds : p <;> simp [refuseIf, holds]

@[simp] theorem bind_eq_error : (x >>= f) = .error e ↔ x = .error e ∨ ∃ a, x = .ok a ∧ f a = .error e := by
  cases x with
  | error | ok => simp [Bind.bind, Except.bind]

@[simp] theorem mapError_eq_error {f : ε → ε'} {e : ε'} :
    x.mapError f = .error e ↔ ∃ e', x = .error e' ∧ f e' = e := by
  cases x <;> simp [Except.mapError]

@[simp] theorem pure_ne_error : (pure a : Except ε α) ≠ .error e := by
  simp [pure, Except.pure]

theorem mapM_eq_ok : l.mapM f = .ok l' ↔ Forall₂ (fun x y => f x = .ok y) l l' := by
  induction l generalizing l' with
  | nil =>
    rw [mapM_nil, pure_eq_ok, forall₂_nil_left_iff]
    exact eq_comm
  | cons x xs ih =>
    simp only [mapM_cons, bind_eq_ok, pure_eq_ok, ih, forall₂_cons_left_iff]
    constructor
    · rintro ⟨y, head, ys, tail, rfl⟩
      exact ⟨y, ys, head, tail, rfl⟩
    rintro ⟨y, ys, head, tail, rfl⟩
    exact ⟨y, head, ys, tail, rfl⟩

theorem mapM_eq_error (failed : l.mapM f = .error e) : ∃ x ∈ l, f x = .error e := by
  induction l with
  | nil => simp at failed
  | cons x xs ih =>
    simp only [mapM_cons, bind_eq_error, pure_ne_error, and_false, exists_false, or_false] at failed
    rcases failed with head | ⟨_, _, tail⟩
    · exact ⟨x, mem_cons_self .., head⟩
    obtain ⟨y, member, found⟩ := ih tail
    exact ⟨y, mem_cons_of_mem _ member, found⟩

/-- Where every element has a result, the list of them is the result. -/
theorem mapM_total {P : α → β → Prop} (each : ∀ x ∈ l, ∃ y, f x = .ok y ∧ P x y) :
    ∃ l', l.mapM f = .ok l' ∧ Forall₂ P l l' := by
  induction l with
  | nil => exact ⟨[], rfl, .nil⟩
  | cons x xs ih =>
    obtain ⟨y, head, holds⟩ := each x (mem_cons_self ..)
    obtain ⟨ys, tail, rest⟩ := ih (fun x' member => each x' (mem_cons_of_mem _ member))
    refine ⟨y :: ys, ?_, .cons holds rest⟩
    rw [mapM_cons, head, tail]
    rfl

theorem mapM_eq_map {g : α → β} (each : ∀ x ∈ l, f x = .ok (g x)) : l.mapM f = .ok (l.map g) := by
  rw [mapM_eq_ok, forall₂_map_right_iff, forall₂_same]
  exact each

theorem allM_eq_all {f : α → Except ε Bool} {g : α → Bool} (each : ∀ x ∈ l, f x = .ok (g x)) :
    l.allM f = .ok (l.all g) := by
  induction l with
  | nil => rfl
  | cons x rest ih =>
    obtain ⟨head, tail⟩ := forall_mem_cons.mp each
    rw [allM, head, all_cons]
    cases g x with
    | false => rfl
    | true => exact ih tail

theorem forM_eq_ok {f : α → Except ε Unit} : l.forM f = .ok u ↔ ∀ x ∈ l, f x = .ok u := by
  induction l with
  | nil => simp [List.forM, pure, Except.pure]
  | cons x xs ih =>
    change (f x >>= fun _ => xs.forM f) = _ ↔ _
    rw [bind_eq_ok, forall_mem_cons, ← ih]
    exact ⟨fun ⟨_, head, tail⟩ => ⟨head, tail⟩, fun ⟨head, tail⟩ => ⟨u, head, tail⟩⟩

/-- A loop of refusals goes through, or stops where one of them holds. -/
theorem forM_refuse {f : α → Except ε Unit} {p : α → Bool} {e : α → ε}
    (each : ∀ x ∈ l, f x = refuseIf (p x = false) (e x)) :
    (∀ x ∈ l, p x = true) ∧ l.forM f = .ok () ∨ ∃ x ∈ l, p x = false ∧ l.forM f = .error (e x) := by
  induction l with
  | nil => exact .inl ⟨nofun, rfl⟩
  | cons x rest ih =>
    obtain ⟨here, later⟩ := forall_mem_cons.mp each
    change (_ ∧ (f x >>= fun _ => rest.forM f) = _) ∨ ∃ y ∈ x :: rest, p y = false ∧
      (f x >>= fun _ => rest.forM f) = _
    rw [here]
    cases holds : p x with
    | false => exact .inr ⟨x, mem_cons_self, holds, rfl⟩
    | true =>
      rcases ih later with ⟨all, done⟩ | ⟨y, member, fails, stopped⟩
      · exact .inl ⟨forall_mem_cons.mpr ⟨holds, all⟩, done⟩
      · exact .inr ⟨y, mem_cons_of_mem _ member, fails, stopped⟩

/-- Every failure of the computation is of one sort. -/
structure FailsAs (P : ε → Prop) (x : Except ε α) : Prop where
  sort : ∀ {e}, x = .error e → P e

namespace FailsAs
variable {P : ε → Prop}

theorem ok (a : α) : FailsAs P (.ok a : Except ε α) := ⟨fun failed => by cases failed⟩

theorem error (sort : P e) : FailsAs P (.error e : Except ε α) := ⟨fun failed => by cases failed; exact sort⟩

theorem refuse [Decidable p] (sort : P e) : FailsAs P (refuseIf p e) := by
  refine ⟨fun failed => ?_⟩
  obtain ⟨_, rfl⟩ := refuseIf_eq_error.mp failed
  exact sort

theorem bind (first : FailsAs P x) (rest : ∀ a, FailsAs P (f a)) : FailsAs P (x >>= f) := by
  refine ⟨fun failed => ?_⟩
  rcases bind_eq_error.mp failed with here | ⟨a, _, later⟩
  · exact first.sort here
  · exact (rest a).sort later

theorem check [Decidable p] {y : Except ε α} (sort : P e) (rest : FailsAs P y) :
    FailsAs P (refuseIf p e >>= fun _ => y) := bind (refuse sort) fun _ => rest

theorem mapError {x : Except ε' α} {f : ε' → ε} (sort : ∀ e, P (f e)) : FailsAs P (x.mapError f) := by
  refine ⟨fun failed => ?_⟩
  obtain ⟨cause, _, rfl⟩ := mapError_eq_error.mp failed
  exact sort cause

theorem mapM (each : ∀ a, FailsAs P (f a)) : FailsAs P (l.mapM f) := by
  refine ⟨fun failed => ?_⟩
  obtain ⟨a, _, found⟩ := mapM_eq_error failed
  exact (each a).sort found

theorem forM {f : α → Except ε Unit} (each : ∀ a, FailsAs P (f a)) : FailsAs P (l.forM f) := by
  induction l with
  | nil => exact ok _
  | cons x xs ih => exact bind (each x) (fun _ => ih)

end FailsAs

end Checked
