import Mathlib.Algebra.Order.BigOperators.Group.List
import Mathlib.Data.Finset.Max
import Mathlib.Data.List.Sort

/-! The lowest place for an interval among obstacles. -/

namespace FirstFit
open List
variable {α : Type} [AddCommMonoid α] [LinearOrder α] {obstacles : List (α × α)} {size place : α}

/-- An interval of this size, started here, ends before or begins after every obstacle. -/
def Clear (obstacles : List (α × α)) (size place : α) : Prop :=
  ∀ obstacle ∈ obstacles, place + size ≤ obstacle.1 ∨ obstacle.2 ≤ place

/-- The origin and the ends of the obstacles, in ascending order. -/
def candidates (obstacles : List (α × α)) : List α :=
  (0 :: obstacles.map Prod.snd).insertionSort (· ≤ ·)

theorem zero_mem_candidates : 0 ∈ candidates obstacles := (mem_insertionSort _).mpr mem_cons_self

theorem end_mem_candidates {obstacle : α × α} (present : obstacle ∈ obstacles) :
    obstacle.2 ∈ candidates obstacles :=
  (mem_insertionSort _).mpr (mem_cons_of_mem _ (mem_map_of_mem present))

variable [CanonicallyOrderedAdd α]

theorem exists_clear (obstacles : List (α × α)) (size : α) : ∃ place, Clear obstacles size place :=
  ⟨(obstacles.map Prod.snd).sum, fun _ present => .inr (le_sum_of_mem (mem_map_of_mem present))⟩

variable [IsOrderedAddMonoid α]

/-- A clear place can be moved down until it abuts an obstacle or the origin. -/
theorem Clear.moved_down (clear : Clear obstacles size place) :
    ∃ candidate ∈ candidates obstacles, candidate ≤ place ∧ Clear obstacles size candidate := by
  let below := (candidates obstacles).toFinset.filter (· ≤ place)
  have reached {candidate : α} : candidate ∈ below ↔ candidate ∈ candidates obstacles ∧ candidate ≤ place := by
    rw [Finset.mem_filter, mem_toFinset]
  have nonempty : below.Nonempty := ⟨0, reached.mpr ⟨zero_mem_candidates, zero_le⟩⟩
  obtain ⟨member, le⟩ := reached.mp (below.max'_mem nonempty)
  refine ⟨below.max' nonempty, member, le, fun obstacle present => ?_⟩
  cases clear obstacle present with
  | inl before => exact .inl ((add_le_add_left le size).trans before)
  | inr after => exact .inr (below.le_max' _ (reached.mpr ⟨end_mem_candidates present, after⟩))

/-- The first clear candidate exists, and no lower place is clear. -/
theorem find_isLeast (obstacles : List (α × α)) (size : α) (fits : α → Bool)
    (exact : ∀ place ∈ candidates obstacles, fits place ↔ Clear obstacles size place) :
    ∃ place, (candidates obstacles).find? fits = some place ∧
    IsLeast {place | Clear obstacles size place} place := by
  obtain ⟨_, somewhere⟩ := exists_clear obstacles size
  obtain ⟨candidate, member, -, clear⟩ := somewhere.moved_down
  have found : ((candidates obstacles).find? fits).isSome :=
    find?_isSome.mpr ⟨candidate, member, (exact candidate member).mpr clear⟩
  obtain ⟨place, first⟩ := Option.isSome_iff_exists.mp found
  refine ⟨place, first, (exact place (mem_of_find?_eq_some first)).mp (find?_some first), ?_⟩
  intro other free
  obtain ⟨lower, tried, le, fit⟩ := Clear.moved_down free
  obtain ⟨_, before, after, split, passed⟩ := find?_eq_some_iff_append.mp first
  have sorted : (candidates obstacles).Pairwise (· ≤ ·) := pairwise_insertionSort _ _
  rw [split] at sorted
  -- A lower clear candidate would have been found first.
  have later : lower ∈ place :: after := by
    have place := exact lower tried
    rw [split, mem_append] at tried
    refine tried.resolve_left fun early => ?_
    have rejected := passed lower early
    rw [place.mpr fit] at rejected
    exact absurd rejected (by decide)
  refine le_trans ?_ le
  cases later with
  | head => exact le_rfl
  | tail _ behind => exact (pairwise_cons.mp (pairwise_append.mp sorted).2.1).1 lower behind

end FirstFit
