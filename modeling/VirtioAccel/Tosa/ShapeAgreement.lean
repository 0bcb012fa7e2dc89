import VirtioAccel.Tosa.Runtime
import Mathlib.Algebra.BigOperators.Ring.Finset
import Mathlib.Algebra.Order.BigOperators.GroupWithZero.List
import Mathlib.Algebra.Order.Ring.Nat

/-! The shape operands of an operator are checked in two places, by the semantic pass when their values are
serialized and by the specialization when they are supplied: what the two verdicts are, and when they are the
same. -/

namespace VirtioAccel.Tosa
open Checked
variable {i : Nat}

/-- A ranked tensor that the structural pass and the size limit of the level let through. -/
structure Tensor.Admitted (value : Tensor) (level : Level) (rank : Nat) : Prop where
  ranked : value.rank = some rank
  positive : ∀ size ∈ value.dimensions, 0 < size.toInt
  within : tensorWithinLevel value level.limits = true

/-- A shape operand with its values, all in the range of the level. -/
structure Shape.Supplied (value : Shape) (level : Level) (rank : Nat) : Prop where
  rank_eq : value.rank.toNat = rank
  length : value.data.length = 8 * rank
  range : shapeWithinLevel value level.limits = .ok true

/-- One dimension of a tensor, and one value of a shape. -/
def Tensor.extent (value : Tensor) (position : Nat) : Int := (value.dimensions[position]?).elim 0 Int32.toInt
def Shape.value (value : Shape) (position : Nat) : Int := (Runtime.shapeAt value.data position).getD 0

section Operands
variable {level : Level} {rank : Nat} {value : Tensor} {operand : Shape}

section
variable (admitted : value.Admitted level rank) (below : i < rank)
include admitted below

theorem Tensor.Admitted.dimension : Tosa.dimension value i = .ok (value.extent i) := by
  have length := Tensor.dimensions_length admitted.ranked
  have found := List.getElem?_eq_getElem (l := value.dimensions) (i := i) (by omega)
  rw [Tosa.dimension, index, Tensor.extent, found]
  rfl

theorem Tensor.Admitted.tensorDimension : Runtime.tensorDimension (.tensor value) i = some (value.extent i) := by
  have ranked := admitted.ranked
  have length := Tensor.dimensions_length ranked
  rw [Tensor.rank] at ranked
  split at ranked
  · cases ranked
  rename_i known
  rw [Tensor.dimensions] at length
  cases shape : value.shape with
  | none =>
    rw [shape] at length
    simp only [Option.getD_none, List.length_nil] at length
    omega
  | some sizes =>
    rw [shape, Option.getD_some] at length
    have found := List.getElem?_eq_getElem (l := sizes) (i := i) (by omega)
    rw [Runtime.tensorDimension, Tensor.dimension, if_neg known, shape, Option.bind_some, Tensor.extent,
      Tensor.dimensions, shape, Option.getD_some, found]
    rfl

theorem Tensor.Admitted.extent_bounds : 0 < value.extent i ∧ value.extent i < 2 ^ 31 := by
  have length := Tensor.dimensions_length admitted.ranked
  have found := List.getElem?_eq_getElem (l := value.dimensions) (i := i) (by omega)
  rw [Tensor.extent, found]
  exact ⟨admitted.positive _ (List.getElem_mem _), Int32.toInt_lt _⟩

end

section
variable (supplied : operand.Supplied level rank)
include supplied

theorem Shape.Supplied.decoded (below : i < rank) :
    Runtime.shapeAt operand.data i = some (signedLe ((operand.data.drop (i * 8)).take 8)) := by
  have small : rank < 2 ^ 32 := supplied.rank_eq ▸ operand.rank.toNat_lt
  have length := supplied.length
  have product : checkedMul i 8 = some (i * 8) := if_pos (by rw [usizeMax]; omega)
  have window : slice? operand.data (i * 8) 8 = some ((operand.data.drop (i * 8)).take 8) := if_pos (by omega)
  simp only [Runtime.shapeAt, product, Option.bind_eq_bind, Option.bind_some, window, Option.map_eq_map,
    Option.map_some]

theorem Shape.Supplied.shapeAt (below : i < rank) : Runtime.shapeAt operand.data i = some (operand.value i) := by
  rw [Shape.value, supplied.decoded below]
  rfl

theorem Shape.Supplied.hasValues : operand.hasValues = true := by
  have length := supplied.length
  have same := supplied.rank_eq
  rw [Shape.hasValues, Bool.or_eq_true, Bool.not_eq_true', List.isEmpty_eq_false_iff, beq_iff_eq,
    ← List.length_pos_iff]
  by_cases none : rank = 0
  · exact .inr (UInt32.toNat_inj.mp (same.trans none))
  · exact .inl (by omega)

theorem Shape.Supplied.values : (operand.values : Rule _) = .ok (some ((List.range rank).map operand.value)) := by
  have each : ∀ i ∈ List.range rank, (do
      let bytes ← slice operand.data (i * 8) 8
      return signedLe bytes : Rule Int) = .ok (operand.value i) := by
    intro i member
    have below := List.mem_range.mp member
    have length := supplied.length
    have found := Option.some.inj ((supplied.shapeAt below).symm.trans (supplied.decoded below))
    rw [slice, if_pos (by omega), found]
    rfl
  rw [Shape.values, if_pos supplied.hasValues, supplied.rank_eq, mapM_eq_map each]
  rfl

theorem Shape.Supplied.shapeValue (below : i < rank) : shapeValue operand i = .ok (some (operand.value i)) := by
  rw [Tosa.shapeValue, supplied.values]
  change Except.ok (((List.range rank).map operand.value)[i]?) = _
  rw [List.getElem?_map, List.getElem?_range below]
  rfl

theorem Shape.Supplied.value_range (below : i < rank) :
    -2 ^ level.limits.maxLog2Size ≤ operand.value i ∧ operand.value i < 2 ^ level.limits.maxLog2Size := by
  have range := supplied.range
  rw [shapeWithinLevel, supplied.values] at range
  have each := Except.ok.inj range
  simp only [Option.all_some, List.all_map, List.all_eq_true, List.mem_range, Function.comp_apply, Bool.and_eq_true,
    decide_eq_true_eq] at each
  exact each i below

end

end Operands

/-- A check of each dimension in turn: what is asked before the arithmetic, the exact result of the arithmetic and
what is asked of it. -/
structure DimensionCheck where
  guard : Nat → Bool
  exact : Nat → Int
  test : Nat → Int → Bool

namespace DimensionCheck
variable (self : DimensionCheck)

/-- A dimension passes, with its arithmetic brought back by `round`. -/
def passes (round : Int → Int) (i : Nat) : Bool := self.guard i && self.test i (round (self.exact i))

/-- The condition over the integers. -/
def Holds (rank : Nat) : Prop := ∀ i < rank, self.guard i = true ∧ self.test i (self.exact i) = true

/-- The dimensions that a check reaches, when it stops at the first that fails, have results that fit. -/
def Fits (round : Int → Int) (rank : Nat) : Prop :=
  ∀ i < rank, (∀ j < i, self.passes round j = true) → self.guard i = true → fitsI64 (self.exact i)

variable {self} {rank : Nat}

theorem holds_iff : self.Holds rank ↔ (List.range rank).all (self.passes id) = true := by
  simp [Holds, passes]

/-- As long as the results fit, the two arithmetics agree on a dimension. -/
theorem Fits.passes_eq {round : Int → Int} (fits : self.Fits round rank) (below : i < rank)
    (reached : ∀ j < i, self.passes round j = true) : self.passes wrap64 i = self.passes id i := by
  unfold passes
  cases asked : self.guard i with
  | false => rfl
  | true => rw [wrap64_of_fits (fits i below reached asked), id_eq]

theorem fits_wrap_iff : self.Fits wrap64 rank ↔ self.Fits id rank := by
  have step {first second : Int → Int} (fits : self.Fits first rank)
      (same : ∀ i < rank, (∀ j < i, self.passes first j = true) → self.passes first i = self.passes second i) :
      self.Fits second rank := by
    intro i below reached asked
    refine fits i below (fun j before => ?_) asked
    induction j using Nat.strong_induction_on with
    | _ j ih =>
      rw [same j (by omega) fun k earlier => ih k earlier (by omega)]
      exact reached j before
  exact ⟨fun fits => step fits fun i below reached => fits.passes_eq below reached,
    fun fits => step fits fun i below reached => (fits.passes_eq below reached).symm⟩

/-- The wrapping check answers as the integers do, when no result it computes overflows. -/
theorem Fits.wrapped (fits : self.Fits wrap64 rank) :
    (List.range rank).all (self.passes wrap64) = true ↔ self.Holds rank := by
  rw [holds_iff, List.all_eq_true, List.all_eq_true]
  constructor
  · intro all i member
    have below := List.mem_range.mp member
    rw [← fits.passes_eq below fun j before => all j (List.mem_range.mpr (by omega))]
    exact all i member
  · intro all i
    induction i using Nat.strong_induction_on with
    | _ i ih =>
      intro member
      have below := List.mem_range.mp member
      rw [fits.passes_eq below fun j before => ih j before (List.mem_range.mpr (by omega))]
      exact all i member

end DimensionCheck

/-- The two checks of an operator give one verdict, that of a condition. -/
structure Agree (static : Rule Bool) (runtime : Bool) (condition : Prop) : Prop where
  static : ∃ verdict, static = .ok verdict ∧ (verdict = true ↔ condition)
  runtime : runtime = true ↔ condition

section Checks
variable (input output : Tensor)

def padCheck (padding : Shape) : DimensionCheck where
  guard i := 0 ≤ padding.value (i * 2) && 0 ≤ padding.value (i * 2 + 1)
  exact i := input.extent i + padding.value (i * 2) + padding.value (i * 2 + 1)
  test i sum := sum == output.extent i

def sliceCheck (start size : Shape) : DimensionCheck where
  guard i := 0 ≤ start.value i && 0 < size.value i
  exact i := start.value i + size.value i
  test i sum := sum ≤ input.extent i && size.value i == output.extent i

def tileCheck (multiples : Shape) : DimensionCheck where
  guard i := 1 ≤ multiples.value i
  exact i := input.extent i * multiples.value i
  test i product := product == output.extent i

/-- The values are the dimensions of the output, which has as many elements as the input. -/
def ReshapeHolds (newShape : Shape) : Prop :=
  (∀ i < output.dimensions.length, newShape.value i = output.extent i) ∧
    (input.dimensions.map Int32.toInt).prod = (output.dimensions.map Int32.toInt).prod

/-- One direction of a resize over the integers: the scale is a fraction of small numbers that is neither too
large nor too small, and the offset and the border are within one sample of its grid. -/
structure ResizeRange (limits : LevelLimits) (n d o b : Int) : Prop where
  numerator : 0 < n ∧ n ≤ 2048
  denominator : 0 < d ∧ d < 16 * n
  scale : n ≤ limits.maxScale * d
  offset : -n ≤ o ∧ o < 16 * n
  border : -16 * n ≤ b ∧ b < n

/-- The condition of a resize over the integers: the output has as many samples as the scale makes of the input. -/
structure ResizeHolds (scale offset border : Shape) (limits : LevelLimits) : Prop where
  vertical : ResizeRange limits (scale.value 0) (scale.value 1) (offset.value 0) (border.value 0)
  horizontal : ResizeRange limits (scale.value 2) (scale.value 3) (offset.value 1) (border.value 1)
  small : input.extent 1 < 16384 ∧ input.extent 2 < 16384 ∧ output.extent 1 < 16384 ∧ output.extent 2 < 16384
  batches : output.extent 0 = input.extent 0
  height : (output.extent 1 - 1) * scale.value 1 =
    (input.extent 1 - 1) * scale.value 0 - offset.value 0 + border.value 0
  width : (output.extent 2 - 1) * scale.value 3 = (input.extent 2 - 1) * scale.value 2 - offset.value 1 +
    border.value 1
  channels : output.extent 3 = input.extent 3

end Checks

section Agreement
variable {level : Level} {rank rank' : Nat} {input output : Tensor}
variable {static : Rule Bool}

variable {check : DimensionCheck}

/-- A check of the specialization that goes over the dimensions. -/
theorem eachDimension_iff (given : input.Admitted level rank) (given' : output.Admitted level rank')
    {condition : Nat → Int → Int → Bool}
    (each : rank' = rank → ∀ i < rank, condition i (input.extent i) (output.extent i) = check.passes id i) :
    Runtime.eachDimension (.tensor input) (.tensor output) condition = true ↔ rank' = rank ∧ check.Holds rank := by
  have ranked : Runtime.tensorRank (.tensor input) = some rank := given.ranked
  have ranked' : Runtime.tensorRank (.tensor output) = some rank' := given'.ranked
  rw [Runtime.eachDimension, ranked, ranked', Option.any_some, Bool.and_eq_true, beq_iff_eq, Option.some.injEq,
    DimensionCheck.holds_iff]
  refine and_congr_right fun same => ?_
  subst same
  rw [List.all_eq_true, List.all_eq_true]
  refine forall₂_congr fun i member => ?_
  have below := List.mem_range.mp member
  rw [given.tensorDimension below, given'.tensorDimension below]
  dsimp only
  rw [each rfl i below]

/-- The semantic pass goes over the dimensions with wrapping arithmetic, once the ranks agree. -/
theorem DimensionCheck.verdict (same : rank' = rank → static = .ok ((List.range rank).all (check.passes wrap64)))
    (other : rank' ≠ rank → static = .ok false) (fits : rank' = rank → check.Fits wrap64 rank) :
    ∃ verdict, static = .ok verdict ∧ (verdict = true ↔ rank' = rank ∧ check.Holds rank) := by
  by_cases ranks : rank' = rank
  · exact ⟨_, same ranks, (fits ranks).wrapped.trans (and_iff_right ranks).symm⟩
  · exact ⟨false, other ranks, by simp [ranks]⟩

section
variable (given : input.Admitted level rank) (given' : output.Admitted level rank')
include given given'

variable {padding : Shape}

theorem pad_agree {pad : Tensor} (supplied : padding.Supplied level (rank * 2)) (scalar : scalarShape pad = true)
    (dynamic : Bool) (fits : rank' = rank → (padCheck input output padding).Fits wrap64 rank) :
    Agree (padShape input padding pad output dynamic)
    (Runtime.padValid (.tensor input) (.tensor output) padding.data)
      (rank' = rank ∧ (padCheck input output padding).Holds rank) := by
  constructor
  · rw [padShape, given.ranked, given'.ranked, supplied.rank_eq, scalar, supplied.hasValues]
    refine DimensionCheck.verdict (fun same => ?_) (fun other => if_pos (.inr (.inr (by simpa using other)))) fits
    subst same
    refine (if_neg (by simp)).trans ((if_neg (by simp)).trans (allM_eq_all fun i member => ?_))
    have below := List.mem_range.mp member
    rw [supplied.shapeValue (by omega), supplied.shapeValue (by omega), given'.dimension below,
      given.dimension below]
    unfold DimensionCheck.passes padCheck
    dsimp only [bind, Except.bind, pure, Except.pure, andM]
    cases decide (0 ≤ padding.value (i * 2)) && decide (0 ≤ padding.value (i * 2 + 1)) with
    | false => rfl
    | true => exact congrArg Except.ok (Bool.beq_comm ..)
  · refine eachDimension_iff given given' fun same i below => ?_
    rw [supplied.shapeAt (by omega), supplied.shapeAt (by omega)]
    rfl

variable {start size : Shape}

theorem slice_agree (supplied : start.Supplied level rank) (supplied' : size.Supplied level rank) (dynamic : Bool)
    (fits : rank' = rank → (sliceCheck input output start size).Fits wrap64 rank) :
    Agree (sliceShape input start size output dynamic)
      (Runtime.sliceValid (.tensor input) (.tensor output) start.data size.data)
      (rank' = rank ∧ (sliceCheck input output start size).Holds rank) := by
  constructor
  · rw [sliceShape, given.ranked, given'.ranked, supplied.rank_eq, supplied'.rank_eq, supplied.hasValues,
      supplied'.hasValues]
    refine DimensionCheck.verdict (fun same => ?_) (fun other => if_pos (.inr (.inr (by simpa using other)))) fits
    subst same
    refine (if_neg (by simp)).trans ((if_neg (by simp)).trans (allM_eq_all fun i member => ?_))
    have below := List.mem_range.mp member
    rw [supplied.shapeValue below, supplied'.shapeValue below, given'.dimension below, given.dimension below]
    exact congrArg Except.ok (Bool.and_assoc ..)
  · refine eachDimension_iff given given' fun same i below => ?_
    rw [supplied.shapeAt below, supplied'.shapeAt below]
    exact Bool.and_assoc ..

variable {multiples : Shape}

theorem tile_agree (supplied : multiples.Supplied level rank) (dynamic : Bool)
    (fits : rank' = rank → (tileCheck input output multiples).Fits wrap64 rank) :
    Agree (tileShape input multiples output dynamic)
    (Runtime.tileValid (.tensor input) (.tensor output) multiples.data)
      (rank' = rank ∧ (tileCheck input output multiples).Holds rank) := by
  constructor
  · rw [tileShape, given.ranked, given'.ranked, supplied.rank_eq, supplied.hasValues]
    refine DimensionCheck.verdict (fun same => ?_) (fun other => if_pos (.inr (by simpa using other))) fits
    subst same
    refine (if_neg (by simp)).trans ((if_neg (by simp)).trans (allM_eq_all fun i member => ?_))
    have below := List.mem_range.mp member
    rw [supplied.shapeValue below, given'.dimension below, given.dimension below]
    rfl
  · refine eachDimension_iff given given' fun same i below => ?_
    rw [supplied.shapeAt below]
    rfl

end

/-- The sizes of a tensor whose dimensions are positive. -/
def Tensor.counts (value : Tensor) : List Nat := value.dimensions.map fun size => size.toInt.toNat

theorem Tensor.Admitted.counts_eq (given : input.Admitted level rank) {f : Int32 → Nat}
    (same : ∀ size : Int32, 0 < size.toInt → f size = size.toInt.toNat) : input.dimensions.map f = input.counts :=
  List.map_congr_left fun size member => same size (given.positive size member)

theorem Tensor.Admitted.prod_counts (given : input.Admitted level rank) :
    (input.dimensions.map Int32.toInt).prod = (input.counts.prod : Nat) := by
  rw [Nat.cast_list_prod, Tensor.counts, List.map_map]
  refine congrArg List.prod (List.map_congr_left fun size member => ?_)
  have positive := given.positive size member
  exact (Int.toNat_of_nonneg (by omega)).symm

/-- A product that is checked at each step, of sizes that are positive. -/
theorem foldlM_checked {bound : Nat} {f : Nat → Nat → Option Nat}
    (step : ∀ a b, f a b = if a * b ≤ bound then some (a * b) else none) {sizes : List Nat}
    (positive : ∀ size ∈ sizes, 0 < size) (count : Nat) :
    sizes.foldlM f count = if count * sizes.prod ≤ bound ∨ sizes = [] then some (count * sizes.prod) else none := by
  induction sizes generalizing count with
  | nil => simp
  | cons size rest ih =>
    obtain ⟨here, later⟩ := List.forall_mem_cons.mp positive
    have grows : count * size ≤ count * size * rest.prod := Nat.le_mul_of_pos_right _ (List.prod_pos later)
    rw [List.foldlM_cons, step, List.prod_cons, ← Nat.mul_assoc]
    by_cases fits : count * size ≤ bound
    · rw [if_pos fits]
      refine (ih later _).trans (if_congr ?_ rfl rfl)
      cases rest with
      | nil => simpa using fits
      | cons next rest => simp
    · rw [if_neg fits, if_neg (by simp; omega)]
      rfl

theorem Tensor.Admitted.positive_counts (given : input.Admitted level rank) : ∀ size ∈ input.counts, 0 < size := by
  intro count member
  obtain ⟨size, among, rfl⟩ := List.mem_map.mp member
  have positive := given.positive size among
  omega

/-- The limit of the level keeps the number of elements far below the machine's. -/
theorem Tensor.Admitted.few (given : input.Admitted level rank) : input.counts.prod < 2 ^ 63 := by
  have within := given.within
  have wide : 2 ^ level.limits.maxLog2Size ≤ 2 ^ 63 := Nat.pow_le_pow_right (by decide) (by cases level <;> decide)
  have sizes := given.counts_eq (f := fun size => (size.toInt % 2 ^ 128).toNat) fun size positive => by
    have bound := size.toInt_lt
    rw [Int.emod_eq_of_lt (by omega) (by omega)]
  have step (a b : Nat) : checkedMul128 a b = if a * b ≤ 2 ^ 128 - 1 then some (a * b) else none :=
    if_congr (by omega) rfl rfl
  rw [tensorWithinLevel, given.ranked, sizes, foldlM_checked step given.positive_counts, Nat.one_mul] at within
  split at within
  · cases width : dtypeElementBytes input.dtype with
    | none => simp [width] at within
    | some bytes =>
      have positive : 0 < bytes := by
        unfold dtypeElementBytes dtypeWidth at width
        split at width
        · cases width
          decide
        · split at width <;> cases width <;> decide
      rw [width] at within
      simp only [Option.isNone_some, Bool.false_or, Option.bind_eq_bind, Option.bind_some, checkedMul128] at within
      split at within
      · simp only [Option.any_some, decide_eq_true_eq] at within
        have grows := Nat.le_mul_of_pos_right input.counts.prod positive
        have below : 0 < 2 ^ level.limits.maxLog2Size := Nat.two_pow_pos _
        omega
      · simp at within
  · simp at within

theorem foldlM_checkedCount {sizes : List Int32} (positive : ∀ size ∈ sizes, 0 < size.toInt) (count : Nat) :
    sizes.foldlM Runtime.checkedCount count = (sizes.map fun size => size.toInt.toNat).foldlM checkedMul count := by
  induction sizes generalizing count with
  | nil => rfl
  | cons size rest ih =>
    obtain ⟨here, later⟩ := List.forall_mem_cons.mp positive
    rw [List.foldlM_cons, List.map_cons, List.foldlM_cons, Runtime.checkedCount, if_pos (by omega)]
    simp only [ih later]

theorem Tensor.Admitted.elements (given : input.Admitted level rank) :
    tensorElements input = some input.counts.prod ∧
      Runtime.tensorElements (.tensor input) = some input.counts.prod := by
  have few := given.few
  have product : input.counts.foldlM checkedMul 1 = some input.counts.prod := by
    have step (a b : Nat) : checkedMul a b = if a * b ≤ usizeMax then some (a * b) else none := rfl
    rw [foldlM_checked step given.positive_counts, if_pos (.inl (by rw [usizeMax]; omega)), Nat.one_mul]
  constructor
  · rw [tensorElements, given.counts_eq (f := asUsize) fun size positive => ?_, product]
    have bound := size.toInt_lt
    rw [asUsize, intAsUsize, Int.emod_eq_of_lt (by omega) (by omega)]
  · rw [Runtime.tensorElements, given.ranked]
    exact (foldlM_checkedCount given.positive 1).trans product

theorem reshape_agree (given : input.Admitted level rank) (given' : output.Admitted level rank') {newShape : Shape}
    (supplied : newShape.Supplied level rank') (dynamic : Bool) :
    Agree (reshapeShape input newShape output dynamic)
      (Runtime.reshapeValid (.tensor input) (.tensor output) newShape.data)
      (ReshapeHolds input output newShape) := by
  have counted := Tensor.dimensions_length given'.ranked
  have elements : (some input.counts.prod : Option Nat) = some output.counts.prod ↔
      (input.dimensions.map Int32.toInt).prod = (output.dimensions.map Int32.toInt).prod := by
    rw [given.prod_counts, given'.prod_counts, Nat.cast_inj, Option.some.injEq]
  rw [ReshapeHolds, counted, ← elements]
  constructor
  · rw [reshapeShape, given'.ranked, supplied.rank_eq, given.elements.1, given'.elements.1, supplied.hasValues]
    by_cases same : (some input.counts.prod : Option Nat) = some output.counts.prod
    · refine ⟨(List.range rank').all fun i => newShape.value i == output.extent i, ?_, ?_⟩
      · refine (if_neg (by simpa using same)).trans ((if_neg (by simp)).trans (allM_eq_all fun i member => ?_))
        have below := List.mem_range.mp member
        rw [supplied.shapeValue below, given'.dimension below]
        rfl
      · rw [and_iff_left same]
        simp
    · exact ⟨false, if_pos (.inr same), by simp [same]⟩
  · have ranked : Runtime.tensorRank (.tensor output) = some rank' := given'.ranked
    rw [Runtime.reshapeValid, ranked, Option.any_some, given.elements.2, given'.elements.2, Bool.and_eq_true,
      beq_iff_eq, List.all_eq_true]
    refine and_congr_left fun _ => ?_
    simp only [List.mem_range]
    refine forall₂_congr fun i below => ?_
    rw [supplied.shapeAt below, given'.tensorDimension below]
    simp

/-- A quotient that is exact, by what it is the quotient of. -/
theorem exact_quotient {numerator denominator size : Int} (positive : 0 < denominator) :
    numerator.tmod denominator = 0 ∧ size = numerator.tdiv denominator + 1 ↔
    (size - 1) * denominator = numerator := by
  constructor
  · rintro ⟨whole, rfl⟩
    rw [Int.add_sub_cancel]
    exact Int.tdiv_mul_cancel (Int.dvd_of_tmod_eq_zero whole)
  · rintro rfl
    rw [Int.mul_tdiv_cancel _ (by omega)]
    exact ⟨Int.mul_tmod_left .., by omega⟩

variable {scale offset border : Shape}

/-- An arithmetic of `i64` that is exact where the result fits. -/
def Exact (arith : Int → Rule Int) : Prop := ∀ {value}, fitsI64 value → arith value = .ok value

theorem exact_wrapping : Exact wrapping := fun fits => congrArg Except.ok (wrap64_of_fits fits)

theorem exact_overflowChecked : Exact overflowChecked := fun fits => if_pos fits

section Resize
variable {arith : Int → Rule Int} {limits : LevelLimits} {yn yd xn xd oy ox bY bX : Int} {sizes : List Int}

/-- Both directions are in range and the sizes are small. -/
def ResizeInRange (limits : LevelLimits) (yn yd xn xd oy ox bY bX : Int) (sizes : List Int) : Prop :=
  ResizeRange limits yn yd oy bY ∧ ResizeRange limits xn xd ox bX ∧ ∀ size ∈ sizes, size < 16384

/-- The conditions in the order in which the two checks ask them. -/
theorem resizeInRange_iff : ResizeInRange limits yn yd xn xd oy ox bY bX sizes ↔
    ((0 < yn ∧ 0 < yd ∧ 0 < xn ∧ 0 < xd ∧ yn ≤ 2048 ∧ xn ≤ 2048) ∧
      yn ≤ limits.maxScale * yd ∧ xn ≤ limits.maxScale * xd) ∧ yd < 16 * yn ∧ xd < 16 * xn ∧
    (-yn ≤ oy ∧ oy < 16 * yn) ∧ (-xn ≤ ox ∧ ox < 16 * xn) ∧ (-16 * yn ≤ bY ∧ bY < yn) ∧ (-16 * xn ≤ bX ∧ bX < xn) ∧
    ∀ size ∈ sizes, size < 16384 := by
  constructor
  · rintro ⟨vertical, horizontal, small⟩
    exact ⟨⟨⟨vertical.numerator.1, vertical.denominator.1, horizontal.numerator.1, horizontal.denominator.1,
      vertical.numerator.2, horizontal.numerator.2⟩, vertical.scale, horizontal.scale⟩, vertical.denominator.2,
      horizontal.denominator.2, vertical.offset, horizontal.offset, vertical.border, horizontal.border, small⟩
  · rintro ⟨⟨⟨yn', yd', xn', xd', yl, xl⟩, ys, xs⟩, ydn, xdn, oy', ox', bY', bX', small⟩
    exact ⟨⟨⟨yn', yl⟩, ⟨yd', ydn⟩, ys, oy', bY'⟩, ⟨⟨xn', xl⟩, ⟨xd', xdn⟩, xs, ox', bX'⟩, small⟩

theorem Runtime.resizeOutOfRange_iff : Runtime.resizeOutOfRange yn yd xn xd oy ox bY bX sizes limits = false ↔
    ResizeInRange limits yn yd xn xd oy ox bY bX sizes := by
  rw [resizeInRange_iff]
  simp only [Runtime.resizeOutOfRange, Bool.or_eq_false_iff, decide_eq_false_iff_not, Bool.not_eq_false',
    Bool.and_eq_true, decide_eq_true_eq, List.any_eq_false, not_le, not_lt, and_assoc]

theorem orM_ok (a b : Bool) : ((.ok a : Rule Bool) <||> .ok b) = .ok (a || b) := by cases a <;> rfl

theorem andM_ok (a b : Bool) : ((.ok a : Rule Bool) <&&> .ok b) = .ok (a && b) := by cases a <;> rfl

/-- The products are computed only of numerators that are small, so that none overflows. -/
theorem resizeOutOfRange_eq (exact : Exact arith) : ∃ left,
    resizeOutOfRange arith yn yd xn xd oy ox bY bX sizes limits = .ok left ∧
      (left = false ↔ ResizeInRange limits yn yd xn xd oy ox bY bX sizes) := by
  by_cases asked : 0 < yn ∧ 0 < yd ∧ 0 < xn ∧ 0 < xd ∧ yn ≤ 2048 ∧ xn ≤ 2048
  · have products {n : Int} (positive : 0 < n) (small : n ≤ 2048) :
        arith (16 * n) = .ok (16 * n) ∧ arith (-n) = .ok (-n) ∧ arith (-16 * n) = .ok (-16 * n) :=
      ⟨exact ⟨by omega, by omega⟩, exact ⟨by omega, by omega⟩, exact ⟨by omega, by omega⟩⟩
    have vertical := products asked.1 asked.2.2.2.2.1
    have horizontal := products asked.2.2.1 asked.2.2.2.2.2
    refine ⟨_, by
      simp only [resizeOutOfRange, vertical, horizontal, pure, Except.pure, bind, Except.bind, orM_ok]
      rfl, ?_⟩
    rw [resizeInRange_iff]
    simp only [Bool.or_eq_false_iff, decide_eq_false_iff_not, Bool.not_eq_false', Bool.and_eq_true,
      decide_eq_true_eq, List.any_eq_false, not_le, not_lt, and_assoc]
  · refine ⟨true, ?_, ?_⟩
    · have left : (yn ≤ 0 || yd ≤ 0 || xn ≤ 0 || xd ≤ 0 || 2048 < yn || 2048 < xn) = true := by
        simp only [Bool.or_eq_true, decide_eq_true_eq]
        omega
      rw [resizeOutOfRange, left]
      rfl
    · exact iff_of_false (by simp) fun range => asked (resizeInRange_iff.mp range).1.1

/-- In range the scaled size stays below two to the power of thirty. -/
theorem resizeNumerator_eq (exact : Exact arith) {size n d o b : Int} (range : ResizeRange limits n d o b)
    (positive : 0 < size) (small : size < 16384) :
    resizeNumerator arith size n o b = .ok ((size - 1) * n - o + b) ∧
      fitsI64 (((size - 1) * n - o + b).tdiv d + 1) := by
  obtain ⟨numerator, _, _, offset, border⟩ := range
  have low : 0 ≤ (size - 1) * n := Int.mul_nonneg (by omega) (by omega)
  have high : (size - 1) * n ≤ 16384 * 2048 := Int.mul_le_mul (by omega) numerator.2 (by omega) (by omega)
  constructor
  · have last : arith (size - 1) = .ok (size - 1) := exact ⟨by omega, by omega⟩
    have scaled : arith ((size - 1) * n) = .ok ((size - 1) * n) := exact ⟨by omega, by omega⟩
    have shifted : arith ((size - 1) * n - o) = .ok ((size - 1) * n - o) := exact ⟨by omega, by omega⟩
    simp only [resizeNumerator, last, scaled, shifted, bind, Except.bind]
    exact exact ⟨by omega, by omega⟩
  · have shrinks : (((size - 1) * n - o + b).tdiv d).natAbs ≤ ((size - 1) * n - o + b).natAbs :=
      (Int.natAbs_tdiv ..).trans_le (Nat.div_le_self ..)
    exact ⟨by omega, by omega⟩

end Resize

theorem Tensor.Admitted.four (given : input.Admitted level 4) :
    input.dimensions.map Int32.toInt = [input.extent 0, input.extent 1, input.extent 2, input.extent 3] := by
  have length := Tensor.dimensions_length given.ranked
  simp only [Tensor.extent]
  match input.dimensions, length with
  | [_, _, _, _], _ => rfl

theorem Tensor.Admitted.dimensions4 (given : input.Admitted level 4) :
    Runtime.dimensions4 (.tensor input) = some
    (input.extent 0, input.extent 1, input.extent 2, input.extent 3) := by
  have ranked : Runtime.tensorRank (.tensor input) = some 4 := given.ranked
  simp (disch := decide) only [Runtime.dimensions4, ranked, if_true, given.tensorDimension]
  rfl

/-- A size that is positive is never the stand-in for a quotient that does not fit. -/
theorem asI32_eq {size value : Int} (positive : 0 < size) (small : size < 2 ^ 31) :
    size = (asI32 value).getD 0 ↔ size = value := by
  unfold asI32
  split
  · rfl
  rw [Option.getD_none]
  omega

theorem asI64_eq {size value : Int} (positive : 0 < size) (small : size < 2 ^ 31) :
    size = (Runtime.asI64 value).getD (-2 ^ 63) ↔ size = value := by
  unfold Runtime.asI64
  split
  · rfl
  rename_i outside
  rw [Option.getD_none]
  unfold fitsI64 at outside
  omega

/-- The condition of a resize, as both checks go through it. -/
theorem resizeHolds_iff {limits : LevelLimits} : ResizeHolds input output scale offset border limits ↔
    ResizeInRange limits (scale.value 0) (scale.value 1) (scale.value 2) (scale.value 3) (offset.value 0)
      (offset.value 1) (border.value 0) (border.value 1)
      [input.extent 1, input.extent 2, output.extent 1, output.extent 2] ∧
    ((input.extent 1 - 1) * scale.value 0 - offset.value 0 + border.value 0).tmod (scale.value 1) = 0 ∧
    ((input.extent 2 - 1) * scale.value 2 - offset.value 1 + border.value 1).tmod (scale.value 3) = 0 ∧
    output.extent 0 = input.extent 0 ∧
    output.extent 1 = ((input.extent 1 - 1) * scale.value 0 - offset.value 0 + border.value 0).tdiv
    (scale.value 1) + 1 ∧
    output.extent 2 = ((input.extent 2 - 1) * scale.value 2 - offset.value 1 + border.value 1).tdiv
    (scale.value 3) + 1 ∧
    output.extent 3 = input.extent 3 := by
  constructor
  · rintro ⟨vertical, horizontal, small, batches, height, width, channels⟩
    obtain ⟨rows, size⟩ := (exact_quotient vertical.denominator.1).mpr height
    obtain ⟨columns, size'⟩ := (exact_quotient horizontal.denominator.1).mpr width
    exact ⟨⟨vertical, horizontal, by simpa using small⟩, rows, columns, batches, size, size', channels⟩
  · rintro ⟨⟨vertical, horizontal, small⟩, rows, columns, batches, size, size', channels⟩
    exact ⟨vertical, horizontal, by simpa using small, batches,
      (exact_quotient vertical.denominator.1).mp ⟨rows, size⟩,
      (exact_quotient horizontal.denominator.1).mp ⟨columns, size'⟩, channels⟩

section
variable (given : input.Admitted level 4) (given' : output.Admitted level 4)
  (supplied : scale.Supplied level 4) (supplied' : offset.Supplied level 2) (supplied'' : border.Supplied level 2)
include given given' supplied supplied' supplied''

/-- The semantic pass gives the verdict of the integers, in any arithmetic that is exact where the result fits. -/
theorem resizeShapeWith_verdict {arith : Int → Rule Int} (exact : Exact arith) (dynamic : Bool) :
    ∃ verdict, resizeShapeWith arith input scale offset border output level.limits dynamic = .ok verdict ∧
      (verdict = true ↔ ResizeHolds input output scale offset border level.limits) := by
  have ranks : ¬ (scale.rank ≠ 4 ∨ offset.rank ≠ 2 ∨ border.rank ≠ 2) := by
    have same : scale.rank = 4 := UInt32.toNat_inj.mp supplied.rank_eq
    have same' : offset.rank = 2 := UInt32.toNat_inj.mp supplied'.rank_eq
    have same'' : border.rank = 2 := UInt32.toNat_inj.mp supplied''.rank_eq
    simp [same, same', same'']
  obtain ⟨tall, low⟩ := given'.extent_bounds (i := 1) (by decide)
  obtain ⟨wide, narrow⟩ := given'.extent_bounds (i := 2) (by decide)
  rw [resizeHolds_iff, resizeShapeWith, if_neg ranks]
  simp (disch := decide) only [supplied.hasValues, supplied'.hasValues, supplied''.hasValues, given.dimension,
    given'.dimension, supplied.shapeValue, supplied'.shapeValue, supplied''.shapeValue]
  dsimp only [bind, Except.bind]
  rw [if_neg (by decide)]
  obtain ⟨left, checked, inRange⟩ := resizeOutOfRange_eq exact
  rw [checked]
  cases left with
  | true => exact ⟨false, rfl, by simp [← inRange]⟩
  | false =>
    have range := inRange.mp rfl
    have ⟨vertical, horizontal, small⟩ := range
    obtain ⟨rows, height⟩ :=
      resizeNumerator_eq exact vertical (given.extent_bounds (i := 1) (by decide)).1 (small _ (by simp))
    obtain ⟨columns, width⟩ :=
      resizeNumerator_eq exact horizontal (given.extent_bounds (i := 2) (by decide)).1 (small _ (by simp))
    rw [rows, columns]
    dsimp only
    rw [if_neg Bool.false_ne_true, exact height, exact width]
    refine ⟨_, (congrArg (andM _) (andM_ok ..)).trans (andM_ok ..), ?_⟩
    rw [and_iff_right range, dimensionsEqual, given'.ranked, given'.four]
    simp only [Bool.and_eq_true, beq_iff_eq, List.cons.injEq, asI32_eq tall low, asI32_eq wide narrow, and_true]
    simp

theorem resizeValid_iff :
    Runtime.resizeValid (.tensor input) (.tensor output) scale.data offset.data border.data level.limits = true ↔
      ResizeHolds input output scale offset border level.limits := by
  obtain ⟨tall, low⟩ := given'.extent_bounds (i := 1) (by decide)
  obtain ⟨wide, narrow⟩ := given'.extent_bounds (i := 2) (by decide)
  simp (disch := decide) only [Runtime.resizeValid, given.dimensions4, given'.dimensions4, Option.bind_eq_bind,
    Option.bind_some, supplied.shapeAt, supplied'.shapeAt, supplied''.shapeAt]
  rw [resizeHolds_iff, ← Runtime.resizeOutOfRange_iff]
  split
  · rename_i left
    simp [left]
  rename_i range
  rw [and_iff_right (Bool.not_eq_true _ ▸ range)]
  simp only [Option.pure_def, Option.any_some, id_eq, Bool.and_eq_true, beq_iff_eq, Prod.mk.injEq, and_assoc,
    asI64_eq tall low, asI64_eq wide narrow]

/-- Both checks give the verdict of the integers, and so does the semantic pass when an overflow would stop it. -/
theorem resize_sound (dynamic : Bool) :
    Agree (resizeShape input scale offset border output level.limits dynamic)
      (Runtime.resizeValid (.tensor input) (.tensor output) scale.data offset.data border.data level.limits)
      (ResizeHolds input output scale offset border level.limits) ∧
    resizeShapeWith overflowChecked input scale offset border output level.limits dynamic =
      resizeShape input scale offset border output level.limits dynamic := by
  have wrapped := resizeShapeWith_verdict given given' supplied supplied' supplied'' exact_wrapping dynamic
  obtain ⟨verdict, checked, holds⟩ :=
    resizeShapeWith_verdict given given' supplied supplied' supplied'' exact_overflowChecked dynamic
  refine ⟨⟨wrapped, resizeValid_iff given given' supplied supplied' supplied''⟩, ?_⟩
  obtain ⟨verdict', unchecked, holds'⟩ := wrapped
  rw [resizeShape, checked, unchecked, Bool.eq_iff_iff.mpr (holds.trans holds'.symm)]

end

/-- At the bounded level the shape values are too small for an overflow. -/
theorem Shape.Supplied.value_lt {operand : Shape} (supplied : operand.Supplied .level8K rank) (below : i < rank) :
    -2 ^ 31 ≤ operand.value i ∧ operand.value i < 2 ^ 31 := supplied.value_range below

theorem padCheck_fits (given : input.Admitted .level8K rank) (supplied : padding.Supplied .level8K (rank * 2)) :
    (padCheck input output padding).Fits id rank := by
  intro i below _ asked
  have size := given.extent_bounds below
  have before := supplied.value_lt (i := i * 2) (by omega)
  have after := supplied.value_lt (i := i * 2 + 1) (by omega)
  simp only [padCheck, fitsI64]
  omega

theorem sliceCheck_fits (supplied : start.Supplied .level8K rank) (supplied' : size.Supplied .level8K rank) :
    (sliceCheck input output start size).Fits id rank := by
  intro i below _ asked
  have first := supplied.value_lt below
  have length := supplied'.value_lt below
  simp only [sliceCheck, fitsI64]
  omega

theorem tileCheck_fits (given : input.Admitted .level8K rank) (supplied : multiples.Supplied .level8K rank) :
    (tileCheck input output multiples).Fits id rank := by
  intro i below _ asked
  have size := given.extent_bounds below
  have multiple := supplied.value_lt below
  simp only [tileCheck, decide_eq_true_eq] at asked
  simp only [tileCheck, fitsI64]
  have product : input.extent i * multiples.value i < 2 ^ 31 * 2 ^ 31 :=
    Int.mul_lt_mul size.2 (by omega) (by omega) (by omega)
  have positive : 0 ≤ input.extent i * multiples.value i := Int.mul_nonneg (by omega) (by omega)
  omega

/-- Both checks give the verdict of the integers, and no arithmetic of the semantic pass overflows. -/
structure DimensionCheck.Sound (check : DimensionCheck) (rank rank' : Nat) (static : Rule Bool)
    (runtime : Bool) : Prop where
  agree : Agree static runtime (rank' = rank ∧ check.Holds rank)
  computes : rank' = rank → check.Fits wrap64 rank

theorem DimensionCheck.sound_iff {runtime : Bool}
    (agree : (rank' = rank → check.Fits wrap64 rank) → Agree static runtime (rank' = rank ∧ check.Holds rank)) :
    check.Sound rank rank' static runtime ↔ (rank' = rank → check.Fits id rank) := by
  simp only [← fits_wrap_iff]
  exact ⟨Sound.computes, fun fits => ⟨agree fits, fits⟩⟩

/-- For pads, slices and tiles the two checks are sound exactly when, in the first dimensions of which the
condition holds and in the one after them, the exact sum or product is one of 64 bits. At the bounded level it
always is. For reshapes and resizes the two checks always give the verdict of the integers, and no arithmetic of a
resize overflows: a build that stops at an overflow answers alike. -/
theorem shape_checks_sound_iff (given : input.Admitted level rank) (given' : output.Admitted level rank')
    (dynamic : Bool) : (∀ pad padding, scalarShape pad = true → padding.Supplied level (rank * 2) →
      ((padCheck input output padding).Sound rank rank' (padShape input padding pad output dynamic)
          (Runtime.padValid (.tensor input) (.tensor output) padding.data) ↔
        (rank' = rank → (padCheck input output padding).Fits id rank)) ∧
      (level = .level8K → (padCheck input output padding).Fits id rank)) ∧
    (∀ start size, start.Supplied level rank → size.Supplied level rank →
      ((sliceCheck input output start size).Sound rank rank' (sliceShape input start size output dynamic)
          (Runtime.sliceValid (.tensor input) (.tensor output) start.data size.data) ↔
        (rank' = rank → (sliceCheck input output start size).Fits id rank)) ∧
      (level = .level8K → (sliceCheck input output start size).Fits id rank)) ∧
    (∀ multiples, multiples.Supplied level rank →
      ((tileCheck input output multiples).Sound rank rank' (tileShape input multiples output dynamic)
          (Runtime.tileValid (.tensor input) (.tensor output) multiples.data) ↔
        (rank' = rank → (tileCheck input output multiples).Fits id rank)) ∧
      (level = .level8K → (tileCheck input output multiples).Fits id rank)) ∧
    (∀ newShape, newShape.Supplied level rank' →
      Agree (reshapeShape input newShape output dynamic)
        (Runtime.reshapeValid (.tensor input) (.tensor output) newShape.data)
        (ReshapeHolds input output newShape)) ∧
    (rank = 4 → rank' = 4 → ∀ scale offset border, scale.Supplied level 4 → offset.Supplied level 2 →
      border.Supplied level 2 →
      Agree (resizeShape input scale offset border output level.limits dynamic)
        (Runtime.resizeValid (.tensor input) (.tensor output) scale.data offset.data border.data level.limits)
        (ResizeHolds input output scale offset border level.limits) ∧
      resizeShapeWith overflowChecked input scale offset border output level.limits dynamic =
        resizeShape input scale offset border output level.limits dynamic) := by
  refine ⟨fun pad padding scalar supplied => ⟨?_, ?_⟩, fun start size supplied supplied' => ⟨?_, ?_⟩,
    fun multiples supplied => ⟨?_, ?_⟩, fun newShape supplied => reshape_agree given given' supplied dynamic, ?_⟩
  · exact DimensionCheck.sound_iff (pad_agree given given' supplied scalar dynamic)
  · rintro rfl
    exact padCheck_fits given supplied
  · exact DimensionCheck.sound_iff (slice_agree given given' supplied supplied' dynamic)
  · rintro rfl
    exact sliceCheck_fits supplied supplied'
  · exact DimensionCheck.sound_iff (tile_agree given given' supplied dynamic)
  · rintro rfl
    exact tileCheck_fits given supplied
  · rintro rfl rfl scale offset border supplied supplied' supplied''
    exact resize_sound given given' supplied supplied' supplied'' dynamic

/-- Tensors of one dimension, and shapes of one value. -/
def lineTensor (size : Int32) : Tensor :=
  { name := [], dtype := .int8, shape := some [size], isUnranked := false, data := [], isVariable := false,
    variableName := none, offset := 0, size := 0 }

def lineShape (bytes : Bytes) : Shape := { name := [], rank := 1, data := bytes }

def lastStart : Shape := lineShape [255, 255, 255, 255, 255, 255, 255, 127]
def unitSize : Shape := lineShape [1, 0, 0, 0, 0, 0, 0, 0]

/-- Images of one channel, and the shapes that double one: a scale of two, no offset and no border. -/
def imageTensor (side : Int32) : Tensor := { lineTensor 1 with shape := some [1, side, side, 1] }

def doubling : Shape :=
  { name := [], rank := 4, data := [2, 1, 2, 1].flatMap fun value => [value, 0, 0, 0, 0, 0, 0, 0] }

def noMargin : Shape := { name := [], rank := 2, data := List.replicate 16 0 }

/-- One element cut out of four, and an image of side two resized to side three. -/
theorem shape_checks_sound_iff_slice_resize :
    ((lineTensor 4).Admitted .unbounded 1 ∧ (lineTensor 1).Admitted .unbounded 1 ∧ unitSize.Supplied .unbounded 1 ∧
      ((sliceCheck (lineTensor 4) (lineTensor 1) unitSize unitSize).Sound 1 1
        (sliceShape (lineTensor 4) unitSize unitSize (lineTensor 1) false)
        (Runtime.sliceValid (.tensor (lineTensor 4)) (.tensor (lineTensor 1)) unitSize.data unitSize.data))) ∧
    (imageTensor 2).Admitted .level8K 4 ∧ (imageTensor 3).Admitted .level8K 4 ∧ doubling.Supplied .level8K 4 ∧
      noMargin.Supplied .level8K 2 ∧
      resizeShape (imageTensor 2) doubling noMargin noMargin (imageTensor 3) Level.level8K.limits false = .ok true ∧
      ResizeHolds (imageTensor 2) (imageTensor 3) doubling noMargin noMargin Level.level8K.limits := by
  constructor
  · have given : (lineTensor 4).Admitted .unbounded 1 := ⟨rfl, List.forall_mem_singleton.mpr (by decide), by decide⟩
    have given' : (lineTensor 1).Admitted .unbounded 1 :=
      ⟨rfl, List.forall_mem_singleton.mpr (by decide), by decide⟩
    have supplied : unitSize.Supplied .unbounded 1 := ⟨rfl, rfl, by decide⟩
    refine ⟨given, given', supplied, (((shape_checks_sound_iff given given' false).2.1 unitSize unitSize
      supplied supplied).1).mpr fun _ i below _ _ => ?_⟩
    obtain rfl : i = 0 := by omega
    exact ⟨by decide, by decide⟩
  · have given : (imageTensor 2).Admitted .level8K 4 := ⟨rfl, by simp [imageTensor, Tensor.dimensions], by decide⟩
    have given' : (imageTensor 3).Admitted .level8K 4 := ⟨rfl, by simp [imageTensor, Tensor.dimensions], by decide⟩
    have supplied : doubling.Supplied .level8K 4 := ⟨rfl, rfl, by decide⟩
    have supplied' : noMargin.Supplied .level8K 2 := ⟨rfl, rfl, by decide⟩
    have accepted : resizeShape (imageTensor 2) doubling noMargin noMargin (imageTensor 3) Level.level8K.limits
        false = .ok true := by decide
    obtain ⟨⟨⟨verdict, checked, holds⟩, _⟩, _⟩ := (shape_checks_sound_iff given given' false).2.2.2.2 rfl rfl
      doubling noMargin noMargin supplied supplied' supplied'
    cases accepted.symm.trans checked
    exact ⟨given, given', supplied, supplied', accepted, holds.mp rfl⟩

/-- A start at the end of the range overflows with any size: the semantic pass takes the slice, the specialization
does not. -/
theorem slice_sum_overflows :
    (lineTensor 4).Admitted .unbounded 1 ∧ (lineTensor 1).Admitted .unbounded 1 ∧ lastStart.Supplied .unbounded 1 ∧
      unitSize.Supplied .unbounded 1 ∧
      sliceShape (lineTensor 4) lastStart unitSize (lineTensor 1) false = .ok true ∧
      Runtime.sliceValid (.tensor (lineTensor 4)) (.tensor (lineTensor 1)) lastStart.data unitSize.data =
      false := by
  refine ⟨⟨rfl, List.forall_mem_singleton.mpr (by decide), by decide⟩,
    ⟨rfl, List.forall_mem_singleton.mpr (by decide), by decide⟩,
    ⟨rfl, rfl, by decide⟩, ⟨rfl, rfl, by decide⟩, ?_, ?_⟩
  · decide
  · decide

end Agreement

end VirtioAccel.Tosa
