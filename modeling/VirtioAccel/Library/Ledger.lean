import Mathlib.Algebra.BigOperators.Group.List.Basic
import Mathlib.Data.List.Nodup
import Mathlib.Algebra.GroupWithZero.Nat

/-! A log whose entries may grant something of some kind, with a weight, or
settle the grant an earlier entry made. A grant is named by the number of its
entry. -/

namespace Ledger
open List
variable {E K : Type} [DecidableEq K]
variable (grants settles : E → Option (K × Nat))

def granted (log : List E) (kind : K) (n : Nat) : Bool := (log[n]?.bind grants).any (fun grant => grant.1 = kind)

def settled (log : List E) (kind : K) (n : Nat) : Bool := log.any (fun e => settles e = some (kind, n))

/-- The grants of a kind that no entry has settled. -/
def outstanding (log : List E) (kind : K) : List Nat :=
  (range log.length).filter (fun n => granted grants log kind n && !settled settles log kind n)

def weight (log : List E) (n : Nat) : Nat := (log[n]?.bind grants).elim 0 Prod.snd

def total (f : Nat → Nat) (log : List E) (kind : K) : Nat :=
  ((outstanding grants settles log kind).map (fun n => f (weight grants log n))).sum

/-- Every settlement names a grant that was outstanding when it was made. -/
inductive Sound : List E → Prop
  | nil : Sound []
  | quiet {log e} : Sound log → grants e = none → settles e = none → Sound (log ++ [e])
  | grant {log e kind w} : Sound log → grants e = some (kind, w) → settles e = none → Sound (log ++ [e])
  | settle {log e kind n} : Sound log → grants e = none → settles e = some (kind, n) →
      n ∈ outstanding grants settles log kind → Sound (log ++ [e])

variable {grants settles} {log : List E} {e : E} {kind other : K} {n w : Nat}

theorem lt_of_mem_outstanding (member : n ∈ outstanding grants settles log kind) : n < log.length :=
  mem_range.mp (mem_filter.mp member).1

theorem outstanding_nodup : (outstanding grants settles log kind).Nodup := Nodup.filter _ nodup_range

omit [DecidableEq K] in
theorem weight_append (inside : n < log.length) : weight grants (log ++ [e]) n = weight grants log n := by
  rw [weight, weight, getElem?_append_left inside]

omit [DecidableEq K] in
theorem weight_last (grant : grants e = some (kind, w)) : weight grants (log ++ [e]) log.length = w := by
  simp [weight, grant]

theorem Sound.settled_lt (sound : Sound grants settles log) :
    ∀ {kind n}, settled settles log kind n = true → n < log.length := by
  induction sound with
  | nil => simp [settled]
  | quiet _ _ silent ih | grant _ _ silent ih =>
    intro kind n done
    rw [length_append]
    simp only [settled, any_append, any_cons, silent] at done
    have inside := ih (by simpa [settled] using done)
    omega
  | @settle log e kind' n' _ _ settlement member ih =>
    intro kind n done
    rw [length_append]
    by_cases before : settled settles log kind n = true
    · have inside := ih before
      omega
    have last : settles e = some (kind, n) := by
      simp only [settled] at done before
      simpa [before] using done
    cases settlement.symm.trans last
    have inside := lt_of_mem_outstanding member
    omega

/-- The old entries of a log that has grown by one: what was granted stays
granted, and what was settled stays settled. -/
theorem filter_old (same : ∀ n < log.length, settled settles (log ++ [e]) kind n = settled settles log kind n) :
    (range log.length).filter
        (fun n => granted grants (log ++ [e]) kind n && !settled settles (log ++ [e]) kind n) =
      outstanding grants settles log kind := by
  refine filter_congr (fun n member => ?_)
  have inside := mem_range.mp member
  rw [same n inside, granted, granted, getElem?_append_left inside]

theorem settled_of_silent (silent : settles e = none) : settled settles (log ++ [e]) kind n =
    settled settles log kind n := by
  simp [settled, silent]

theorem outstanding_quiet (noGrant : grants e = none) (silent : settles e = none) :
    outstanding grants settles (log ++ [e]) kind = outstanding grants settles log kind := by
  rw [outstanding, length_append, length_singleton, range_succ, filter_append,
    filter_old (fun n _ => settled_of_silent silent)]
  simp [granted, noGrant]

theorem outstanding_grant (sound : Sound grants settles log) (grant : grants e = some (other, w))
    (silent : settles e = none) : outstanding grants settles (log ++ [e]) kind =
      outstanding grants settles log kind ++ if other = kind then [log.length] else [] := by
  rw [outstanding, length_append, length_singleton, range_succ, filter_append,
    filter_old (fun n _ => settled_of_silent silent)]
  have fresh : settled settles (log ++ [e]) kind log.length = false := by
    rw [settled_of_silent silent]
    by_contra done
    exact absurd (sound.settled_lt (by simpa using done)) (Nat.lt_irrefl _)
  by_cases same : other = kind <;> simp [granted, grant, fresh, same]

theorem outstanding_settle (noGrant : grants e = none) (settlement : settles e = some (other, n)) :
    outstanding grants settles (log ++ [e]) kind =
      if other = kind then (outstanding grants settles log kind).erase n
      else outstanding grants settles log kind := by
  rw [outstanding, length_append, length_singleton, range_succ, filter_append]
  have last : granted grants (log ++ [e]) kind log.length = false := by simp [granted, noGrant]
  rw [filter_singleton, last, Bool.false_and, cond_false, append_nil]
  by_cases same : other = kind
  · subst other
    rw [if_pos rfl, outstanding_nodup.erase_eq_filter, outstanding, filter_filter]
    refine filter_congr (fun m member => ?_)
    rw [granted, granted, getElem?_append_left (mem_range.mp member)]
    by_cases here : m = n
    · simp [settled, settlement, here]
    · simp [settled, settlement, here, Ne.symm here]
  · rw [if_neg same]
    exact filter_old (fun m _ => by simp [settled, settlement, same])

theorem total_quiet (f : Nat → Nat) (noGrant : grants e = none) (silent : settles e = none) :
    total grants settles f (log ++ [e]) kind = total grants settles f log kind := by
  rw [total, outstanding_quiet noGrant silent]
  refine congrArg sum (map_congr_left (fun n member => ?_))
  rw [weight_append (lt_of_mem_outstanding member)]

theorem total_grant (f : Nat → Nat) (sound : Sound grants settles log) (grant : grants e = some (other, w))
    (silent : settles e = none) : total grants settles f (log ++ [e]) kind =
      total grants settles f log kind + if other = kind then f w else 0 := by
  have old : (outstanding grants settles log kind).map (fun n => f (weight grants (log ++ [e]) n)) =
      (outstanding grants settles log kind).map (fun n => f (weight grants log n)) :=
    map_congr_left (fun n member => by rw [weight_append (lt_of_mem_outstanding member)])
  rw [total, total, outstanding_grant sound grant silent, map_append, old]
  by_cases same : other = kind <;> simp [same, weight_last grant]

theorem total_settle (f : Nat → Nat) (noGrant : grants e = none) (settlement : settles e = some (other, n))
    (member : n ∈ outstanding grants settles log other) :
    total grants settles f (log ++ [e]) kind + (if other = kind then f (weight grants log n) else 0) =
      total grants settles f log kind := by
  have old : ∀ l : List Nat, (∀ m ∈ l, m ∈ outstanding grants settles log kind) →
      l.map (fun n => f (weight grants (log ++ [e]) n)) = l.map (fun n => f (weight grants log n)) :=
    fun l sub => map_congr_left (fun m there => by rw [weight_append (lt_of_mem_outstanding (sub m there))])
  rw [total, total, outstanding_settle noGrant settlement]
  by_cases same : other = kind
  · subst other
    rw [if_pos rfl, if_pos rfl, old _ (fun m there => mem_of_mem_erase there), Nat.add_comm]
    exact sum_map_erase (fun n => f (weight grants log n)) member
  · rw [if_neg same, if_neg same, old _ (fun _ there => there), Nat.add_zero]

def grantCount (grants : E → Option (K × Nat)) (log : List E) (kind : K) : Nat :=
  log.countP (fun e => (grants e).any (fun grant => grant.1 = kind))

/-- What was granted is what was settled and what is outstanding: no grant is settled twice. -/
theorem Sound.balance (sound : Sound grants settles log) (kind : K) :
    grantCount grants log kind = grantCount settles log kind + total grants settles (fun _ => 1) log kind := by
  induction sound with
  | nil => simp [grantCount, total, outstanding]
  | quiet _ noGrant silent ih =>
    rw [total_quiet _ noGrant silent]
    simpa [grantCount, noGrant, silent] using ih
  | grant sound grant silent ih =>
    rw [total_grant _ sound grant silent]
    simp only [grantCount, countP_append, countP_singleton, grant, silent, Option.any_some,
      decide_eq_true_eq] at ih ⊢
    split <;> simp <;> omega
  | settle _ noGrant settlement member ih =>
    have paid := @total_settle _ _ _ grants settles _ _ kind _ _ (fun _ => 1) noGrant settlement member
    simp only [grantCount] at ih paid ⊢
    split at paid <;> simp_all
    omega

end Ledger
