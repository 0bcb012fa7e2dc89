import VirtioAccel.Tosa.Types
import Mathlib.Algebra.BigOperators.Group.List.Basic
import Mathlib.Tactic.Linarith

/-! The integer primitives that the conformance tests and the providers share: a result is exact, or it is
refused. -/

namespace VirtioAccel.Tosa
open Checked List
variable {count : Nat} {round value' value : Int} {shift : Int8}

inductive IntegerError where
  | lengthMismatch | negativeMultiplier | shiftOutOfRange | inputOutOfRange | accumulatorOverflow
  deriving DecidableEq

/-- `checked_add` and `checked_mul` of `i64`, given the exact result. -/
def checked64 (exact : Int) : Except IntegerError Int :=
  if fitsI64 exact then .ok exact else .error .accumulatorOverflow

def fitsI32 (value : Int) : Prop := -2 ^ 31 ≤ value ∧ value < 2 ^ 31

instance (value : Int) : Decidable (fitsI32 value) := inferInstanceAs (Decidable (_ ∧ _))

def i32TryFrom (value : Int) : Except IntegerError Int32 :=
  if fitsI32 value then .ok (.ofInt value) else .error .accumulatorOverflow

/-- `1_i64 << count`. -/
def shl64 (count : Nat) : Int := wrap64 (2 ^ count)

def checkedShift (shift : Int8) : Except IntegerError Nat :=
  if shift.toInt < 2 ∨ 62 < shift.toInt then .error .shiftOutOfRange else .ok shift.toInt.toNat

/-- One round of the loop over both slices. -/
def addProduct (leftZeroPoint rightZeroPoint : Int8) (accumulator : Int) (pair : UInt8 × UInt8) :
    Except IntegerError Int :=
  let left := wrap64 (pair.1.toInt8.toInt - leftZeroPoint.toInt)
  let right := wrap64 (pair.2.toInt8.toInt - rightZeroPoint.toInt)
  checked64 (accumulator + wrap64 (left * right))

def dotI8I32 (left right : Bytes) (leftZeroPoint rightZeroPoint : Int8) (bias : Int32) :
    Except IntegerError Int32 := do
  refuseIf (left.length ≠ right.length) .lengthMismatch
  let accumulator ← (left.zip right).foldlM (addProduct leftZeroPoint rightZeroPoint) bias.toInt
  i32TryFrom accumulator

/-- The product, rounded and shifted, as both scalings end. -/
def scaleRounded (value multiplier round : Int) (shift : Nat) : Except IntegerError Int32 := do
  let product ← checked64 (value * multiplier)
  let rounded ← checked64 (product + round)
  i32TryFrom (rounded >>> shift)

def applyScale32 (value multiplier : Int32) (shift : Int8) (doubleRound : Bool) : Except IntegerError Int32 := do
  refuseIf (multiplier.toInt < 0) .negativeMultiplier
  let shift ← checkedShift shift
  let bound := shl64 (shift - 1)
  refuseIf (¬ (wrap64 (-bound) ≤ value.toInt ∧ value.toInt < bound)) .inputOutOfRange
  let half := shl64 (shift - 1)
  let round :=
    if doubleRound = true ∧ 31 < shift then
      if 0 ≤ value.toInt then wrap64 (half + shl64 30) else wrap64 (half - shl64 30)
    else half
  scaleRounded value.toInt multiplier.toInt round shift

def applyScale16 (value : Int64) (multiplier : Int16) (shift : Int8) : Except IntegerError Int32 := do
  refuseIf (multiplier.toInt < 0) .negativeMultiplier
  refuseIf (¬ (wrap64 (-shl64 47) ≤ value.toInt ∧ value.toInt < shl64 47)) .inputOutOfRange
  let shift ← checkedShift shift
  scaleRounded value.toInt multiplier.toInt (shl64 (shift - 1)) shift

def rescaleI32ToI8 (value multiplier : Int32) (shift outputZeroPoint : Int8) (doubleRound : Bool) :
    Except IntegerError Int8 := do
  let scaled ← applyScale32 value multiplier shift doubleRound
  let shifted := wrap64 (scaled.toInt + outputZeroPoint.toInt)
  return .ofInt (max (-128) (min shifted 127))

/-! What they compute, over the integers -/

/-- Half a unit of the result, and the second rounding of a long shift. -/
def roundingOf (shift : Nat) (doubleRound : Bool) (value : Int) : Int :=
  2 ^ (shift - 1) + if doubleRound = true ∧ 31 < shift then if 0 ≤ value then 2 ^ 30 else -2 ^ 30 else 0

/-- The quotient by a power of two, rounded down. -/
def scaledExactly (value multiplier round : Int) (shift : Nat) : Int :=
  (value * multiplier + round).fdiv (2 ^ shift)

def exactProduct (leftZeroPoint rightZeroPoint : Int8) (pair : UInt8 × UInt8) : Int :=
  (pair.1.toInt8.toInt - leftZeroPoint.toInt) * (pair.2.toInt8.toInt - rightZeroPoint.toInt)

def exactDot (left right : Bytes) (leftZeroPoint rightZeroPoint : Int8) (bias : Int32) : Int :=
  bias.toInt + ((left.zip right).map (exactProduct leftZeroPoint rightZeroPoint)).sum

def exactScale32 (value multiplier : Int32) (shift : Int8) (doubleRound : Bool) : Int :=
  scaledExactly value.toInt multiplier.toInt (roundingOf shift.toInt.toNat doubleRound value.toInt)
    shift.toInt.toNat

def exactScale16 (value : Int64) (multiplier : Int16) (shift : Int8) : Int :=
  scaledExactly value.toInt multiplier.toInt (2 ^ (shift.toInt.toNat - 1)) shift.toInt.toNat

/-- What the 32-bit scaling takes. -/
structure Scalable (value multiplier : Int32) (shift : Int8) : Prop where
  positive : 0 ≤ multiplier.toInt
  admitted : 2 ≤ shift.toInt ∧ shift.toInt ≤ 62
  range : -2 ^ (shift.toInt.toNat - 1) ≤ value.toInt ∧ value.toInt < 2 ^ (shift.toInt.toNat - 1)

theorem checked64_eq {exact : Int} (fits : fitsI64 exact) : checked64 exact = .ok exact := if_pos fits

theorem i32TryFrom_fits (fits : fitsI32 value) :
    ∃ result : Int32, i32TryFrom value = .ok result ∧ result.toInt = value :=
  ⟨_, if_pos fits, Int32.toInt_ofInt_of_le fits.1 fits.2⟩

theorem shl64_eq (few : count ≤ 62) : shl64 count = 2 ^ count := by
  have positive : (0 : Int) < 2 ^ count := by positivity
  have most : (2 : Int) ^ count ≤ 2 ^ 62 := pow_le_pow_right₀ (by norm_num) few
  refine wrap64_of_fits ⟨?_, ?_⟩ <;> omega

theorem checkedShift_eq (admitted : 2 ≤ shift.toInt ∧ shift.toInt ≤ 62) :
    checkedShift shift = .ok shift.toInt.toNat :=
  if_neg (by omega)

theorem scaleRounded_eq {multiplier : Int} {shift : Nat} (product : fitsI64 (value * multiplier))
    (rounded : fitsI64 (value * multiplier + round)) :
    scaleRounded value multiplier round shift = i32TryFrom (scaledExactly value multiplier round shift) := by
  have floor : (value * multiplier + round) >>> shift = scaledExactly value multiplier round shift := by
    rw [Int.shiftRight_eq_div_pow, scaledExactly, Int.fdiv_eq_ediv_of_nonneg _ (by positivity)]
    norm_cast
  rw [scaleRounded, checked64_eq product, ← floor]
  change (do let rounded ← checked64 (value * multiplier + round); i32TryFrom (rounded >>> shift)) = _
  rw [checked64_eq rounded]
  rfl

/-- The unit of a shift is twice its half, and half of it is at most `2 ^ 61`. -/
theorem half_unit (shift : Nat) (least : 2 ≤ shift) (most : shift ≤ 62) :
    ∃ half : Int, 2 ^ (shift - 1) = half ∧ 2 ^ shift = 2 * half ∧ 2 ≤ half ∧ half ≤ 2 ^ 61 ∧
    (31 < shift → 2 ^ 31 ≤ half) := by
  refine ⟨_, rfl, ?_, ?_, pow_le_pow_right₀ (by norm_num) (by omega), fun long => pow_le_pow_right₀ (by norm_num)
    (by omega)⟩
  · rw [← pow_succ', Nat.sub_add_cancel (by omega)]
  calc (2 : Int) = 2 ^ 1 := by norm_num
    _ ≤ 2 ^ (shift - 1) := pow_le_pow_right₀ (by norm_num) (by omega)

theorem roundingOf_mono (shift : Nat) (doubleRound : Bool) (le : value ≤ value') :
    roundingOf shift doubleRound value ≤ roundingOf shift doubleRound value' := by
  unfold roundingOf
  split
  · split <;> split <;> omega
  · exact le_rfl

theorem scaledExactly_mono {multiplier round' : Int} (shift : Nat) (positive : 0 ≤ multiplier)
    (le : value ≤ value') (le' : round ≤ round') :
    scaledExactly value multiplier round shift ≤ scaledExactly value' multiplier round' shift := by
  have unit : (0 : Int) < 2 ^ shift := by positivity
  simp only [scaledExactly, Int.fdiv_eq_ediv_of_nonneg _ unit.le]
  exact Int.ediv_le_ediv unit (add_le_add (mul_le_mul_of_nonneg_right le positive) le')

theorem Scalable.fits {value multiplier : Int32} (scalable : Scalable value multiplier shift) (doubleRound : Bool) :
    fitsI64 (value.toInt * multiplier.toInt) ∧
      fitsI64 (value.toInt * multiplier.toInt + roundingOf shift.toInt.toNat doubleRound value.toInt) ∧
      fitsI32 (exactScale32 value multiplier shift doubleRound) := by
  obtain ⟨positive, ⟨least, most⟩, low, high⟩ := scalable
  obtain ⟨half, halfEq, unit, some, bounded, long⟩ := half_unit shift.toInt.toNat (by omega) (by omega)
  have large := multiplier.toInt_lt
  have wide := value.toInt_lt
  have wide' := value.le_toInt
  have up : value.toInt * multiplier.toInt ≤ half * 2 ^ 31 := by nlinarith
  have down : -(half * 2 ^ 31) ≤ value.toInt * multiplier.toInt := by nlinarith
  have up' : value.toInt * multiplier.toInt ≤ 2 ^ 31 * 2 ^ 31 := by nlinarith
  have down' : -(2 ^ 31 * 2 ^ 31) ≤ value.toInt * multiplier.toInt := by nlinarith
  have round : roundingOf shift.toInt.toNat doubleRound value.toInt ≤ 2 * half ∧
      0 ≤ roundingOf shift.toInt.toNat doubleRound value.toInt ∧
      roundingOf shift.toInt.toNat doubleRound value.toInt ≤ half + 2 ^ 30 := by
    unfold roundingOf
    split
    · rename_i doubled
      split <;> omega
    · omega
  refine ⟨⟨by omega, by omega⟩, ⟨by omega, by omega⟩, ?_⟩
  rw [exactScale32, scaledExactly, Int.fdiv_eq_ediv_of_nonneg _ (by positivity)]
  refine ⟨Int.le_ediv_of_mul_le (by omega) (by omega), Int.ediv_lt_of_lt_mul (by omega) (by omega)⟩

theorem inRange_iff (few : count ≤ 62) :
    (wrap64 (-shl64 count) ≤ value ∧ value < shl64 count) ↔ -2 ^ count ≤ value ∧ value < 2 ^ count := by
  have positive : (0 : Int) < 2 ^ count := by positivity
  have most : (2 : Int) ^ count ≤ 2 ^ 62 := pow_le_pow_right₀ (by norm_num) few
  rw [shl64_eq few, wrap64_of_fits ⟨by omega, by omega⟩]

theorem round_eq {shift : Nat} (least : 2 ≤ shift) (most : shift ≤ 62) (doubleRound : Bool) (value : Int) :
    (if doubleRound = true ∧ 31 < shift then
      if 0 ≤ value then wrap64 (shl64 (shift - 1) + shl64 30) else wrap64 (shl64 (shift - 1) - shl64 30)
    else shl64 (shift - 1)) = roundingOf shift doubleRound value := by
  obtain ⟨half, halfEq, _, some, bounded, _⟩ := half_unit shift least most
  have second : shl64 30 = 2 ^ 30 := shl64_eq (by decide)
  rw [roundingOf, shl64_eq (by omega), halfEq, second, wrap64_of_fits ⟨by omega, by omega⟩,
    wrap64_of_fits ⟨by omega, by omega⟩]
  split
  · split <;> rfl
  · exact (add_zero _).symm

section Scaling
variable {value multiplier : Int32} {shift : Int8} (doubleRound : Bool)
variable {result : Int32}

theorem applyScale32_scalable (scalable : Scalable value multiplier shift) :
    ∃ result : Int32, applyScale32 value multiplier shift doubleRound = .ok result ∧
      result.toInt = exactScale32 value multiplier shift doubleRound := by
  obtain ⟨product, rounded, fits⟩ := scalable.fits doubleRound
  obtain ⟨result, done, exact'⟩ := i32TryFrom_fits fits
  refine ⟨result, ?_, exact'⟩
  obtain ⟨positive, admitted, range⟩ := scalable
  simp only [applyScale32, bind_eq_ok, refuseIf_eq_ok, not_not]
  refine ⟨(), positive.not_gt, _, checkedShift_eq admitted, (), (inRange_iff (by omega)).mpr range, ?_⟩
  rw [round_eq (by omega) (by omega), scaleRounded_eq product rounded]
  exact done

theorem applyScale32_refused (refused : ¬ Scalable value multiplier shift) :
    ∃ error, error ≠ .accumulatorOverflow ∧ applyScale32 value multiplier shift doubleRound = .error error := by
  simp only [applyScale32, bind_eq_error, refuseIf_eq_error, refuseIf_eq_ok]
  by_cases positive : 0 ≤ multiplier.toInt
  · by_cases admitted : 2 ≤ shift.toInt ∧ shift.toInt ≤ 62
    · have outside := fun range => refused ⟨positive, admitted, (inRange_iff (by omega)).mp range⟩
      exact ⟨.inputOutOfRange, by decide,
        .inr ⟨(), positive.not_gt, .inr ⟨_, checkedShift_eq admitted, .inl ⟨outside, rfl⟩⟩⟩⟩
    · exact ⟨.shiftOutOfRange, by decide, .inr ⟨(), positive.not_gt, .inl (if_pos (by omega))⟩⟩
  · exact ⟨.negativeMultiplier, by decide, .inl ⟨not_le.mp positive, rfl⟩⟩

variable {doubleRound}

theorem applyScale32_eq_ok : applyScale32 value multiplier shift doubleRound = .ok result ↔
    Scalable value multiplier shift ∧
      result.toInt = exactScale32 value multiplier shift doubleRound := by
  by_cases scalable : Scalable value multiplier shift
  · obtain ⟨found, done, exact'⟩ := applyScale32_scalable doubleRound scalable
    rw [done, Except.ok.injEq, ← exact', Int32.toInt_inj]
    exact ⟨fun same => ⟨scalable, same.symm⟩, fun both => both.2.symm⟩
  · obtain ⟨error, _, stopped⟩ := applyScale32_refused doubleRound scalable
    simp [stopped, scalable]

theorem applyScale32_mono {value' result' : Int32} (le : value ≤ value')
    (done : applyScale32 value multiplier shift doubleRound = .ok result)
    (done' : applyScale32 value' multiplier shift doubleRound = .ok result') : result ≤ result' := by
  obtain ⟨scalable, exact'⟩ := applyScale32_eq_ok.mp done
  obtain ⟨_, exact''⟩ := applyScale32_eq_ok.mp done'
  rw [Int32.le_iff_toInt_le] at le ⊢
  rw [exact', exact'']
  exact scaledExactly_mono _ scalable.positive le (roundingOf_mono _ _ le)

theorem rescaleI32ToI8_eq_ok {outputZeroPoint result : Int8} :
    rescaleI32ToI8 value multiplier shift outputZeroPoint doubleRound = .ok result ↔
      Scalable value multiplier shift ∧
        result.toInt = max (-128)
        (min (exactScale32 value multiplier shift doubleRound + outputZeroPoint.toInt) 127) := by
  have clamped (scaled : Int32) :
    (Int8.ofInt (max (-128) (min (wrap64 (scaled.toInt + outputZeroPoint.toInt)) 127))).toInt =
      max (-128) (min (scaled.toInt + outputZeroPoint.toInt) 127) := by
    have := scaled.toInt_lt
    have := scaled.le_toInt
    have := outputZeroPoint.toInt_lt
    have := outputZeroPoint.le_toInt
    rw [wrap64_of_fits ⟨by omega, by omega⟩, Int8.toInt_ofInt_of_le (by omega) (by omega)]
  simp only [rescaleI32ToI8, bind_eq_ok, pure_eq_ok]
  constructor
  · rintro ⟨scaled, done, rfl⟩
    obtain ⟨scalable, exact'⟩ := applyScale32_eq_ok.mp done
    exact ⟨scalable, exact' ▸ clamped scaled⟩
  · rintro ⟨scalable, same⟩
    obtain ⟨scaled, done, exact'⟩ := applyScale32_scalable doubleRound scalable
    exact ⟨scaled, done, Int8.toInt_inj.mp ((clamped scaled).trans (exact' ▸ same.symm))⟩

end Scaling

/-- What the 16-bit scaling takes. -/
structure Scalable16 (value : Int64) (multiplier : Int16) (shift : Int8) : Prop where
  positive : 0 ≤ multiplier.toInt
  range : -2 ^ 47 ≤ value.toInt ∧ value.toInt < 2 ^ 47
  admitted : 2 ≤ shift.toInt ∧ shift.toInt ≤ 62

theorem applyScale16_scalable {value : Int64} {multiplier : Int16}
    (scalable : Scalable16 value multiplier shift) :
    applyScale16 value multiplier shift =
      i32TryFrom (exactScale16 value multiplier shift) := by
  obtain ⟨positive, range, admitted⟩ := scalable
  obtain ⟨half, halfEq, _, some, bounded, _⟩ := half_unit shift.toInt.toNat (by omega) (by omega)
  have large := multiplier.toInt_lt
  have up : value.toInt * multiplier.toInt ≤ 2 ^ 47 * 2 ^ 15 := by nlinarith
  have down : -(2 ^ 47 * 2 ^ 15) ≤ value.toInt * multiplier.toInt := by nlinarith
  rw [applyScale16, refuseIf, if_neg positive.not_gt, refuseIf,
    if_neg (not_not.mpr ((inRange_iff (by decide)).mpr range)),
    checkedShift_eq admitted, exactScale16,
    ← scaleRounded_eq ⟨by omega, by omega⟩ (by rw [halfEq]; exact ⟨by omega, by omega⟩)]
  change scaleRounded _ _ (shl64 _) _ = _
  rw [shl64_eq (by omega)]

theorem applyScale16_refused {value : Int64} {multiplier : Int16}
    (refused : ¬ Scalable16 value multiplier shift) :
    ∃ error, error ≠ .accumulatorOverflow ∧ applyScale16 value multiplier shift = .error error := by
  simp only [applyScale16, bind_eq_error, refuseIf_eq_error, refuseIf_eq_ok, not_not,
    inRange_iff (show 47 ≤ 62 by decide)]
  by_cases positive : 0 ≤ multiplier.toInt
  · by_cases range : -2 ^ 47 ≤ value.toInt ∧ value.toInt < 2 ^ 47
    · have outside : ¬ (2 ≤ shift.toInt ∧ shift.toInt ≤ 62) := fun admitted => refused ⟨positive, range, admitted⟩
      exact ⟨.shiftOutOfRange, by decide, .inr ⟨(), positive.not_gt, .inr ⟨(), range, .inl (if_pos (by omega))⟩⟩⟩
    · exact ⟨.inputOutOfRange, by decide, .inr ⟨(), positive.not_gt, .inl ⟨range, rfl⟩⟩⟩
  · exact ⟨.negativeMultiplier, by decide, .inl ⟨not_le.mp positive, rfl⟩⟩

section Dot
variable (leftZeroPoint rightZeroPoint : Int8)
variable {accumulator : Int}

theorem exactProduct_small (pair : UInt8 × UInt8) :
    -65025 ≤ exactProduct leftZeroPoint rightZeroPoint pair ∧
    exactProduct leftZeroPoint rightZeroPoint pair ≤ 65025 := by
  have difference (a b : Int8) : -255 ≤ a.toInt - b.toInt ∧ a.toInt - b.toInt ≤ 255 := by
    have := a.toInt_lt
    have := a.le_toInt
    have := b.toInt_lt
    have := b.le_toInt
    omega
  obtain ⟨low, high⟩ := difference pair.1.toInt8 leftZeroPoint
  obtain ⟨low', high'⟩ := difference pair.2.toInt8 rightZeroPoint
  exact ⟨by unfold exactProduct; nlinarith, by unfold exactProduct; nlinarith⟩

theorem addProduct_eq {pair : UInt8 × UInt8}
    (fits : fitsI64 (accumulator + exactProduct leftZeroPoint rightZeroPoint pair)) :
    addProduct leftZeroPoint rightZeroPoint accumulator pair =
      .ok (accumulator + exactProduct leftZeroPoint rightZeroPoint pair) := by
  have difference (a b : Int8) : wrap64 (a.toInt - b.toInt) = a.toInt - b.toInt := by
    have := a.toInt_lt
    have := a.le_toInt
    have := b.toInt_lt
    have := b.le_toInt
    exact wrap64_of_fits ⟨by omega, by omega⟩
  obtain ⟨low, high⟩ := exactProduct_small leftZeroPoint rightZeroPoint pair
  have product : wrap64 (exactProduct leftZeroPoint rightZeroPoint pair) = _ := wrap64_of_fits ⟨by omega, by omega⟩
  rw [exactProduct] at product fits ⊢
  simp only [addProduct, difference, product, checked64_eq fits]

/-- No partial sum leaves `i64` while there is room for the products still to come. -/
theorem foldlM_addProduct (pairs : List (UInt8 × UInt8)) (low : -2 ^ 63 ≤ accumulator - 65025 * pairs.length)
    (high : accumulator + 65025 * pairs.length < 2 ^ 63) :
    pairs.foldlM (addProduct leftZeroPoint rightZeroPoint) accumulator =
      .ok (accumulator + (pairs.map (exactProduct leftZeroPoint rightZeroPoint)).sum) := by
  induction pairs generalizing accumulator with
  | nil => exact congrArg Except.ok (add_zero _).symm
  | cons pair rest ih =>
    obtain ⟨least, most⟩ := exactProduct_small leftZeroPoint rightZeroPoint pair
    rw [length_cons, Nat.cast_add, Nat.cast_one] at low high
    rw [foldlM_cons, addProduct_eq _ _ ⟨by omega, by omega⟩, map_cons, sum_cons, ← add_assoc]
    exact ih (by omega) (by omega)

theorem dotI8I32_eq {left right : Bytes} (bias : Int32) (same : left.length = right.length)
    (few : left.length < 2 ^ 46) :
    dotI8I32 left right leftZeroPoint rightZeroPoint bias =
      i32TryFrom (exactDot left right leftZeroPoint rightZeroPoint bias) := by
  have := bias.toInt_lt
  have := bias.le_toInt
  have pairs : (left.zip right).length = left.length := by rw [length_zip, same, min_self]
  rw [dotI8I32, foldlM_addProduct _ _ _ (by omega) (by omega), refuseIf, if_neg (not_not.mpr same)]
  rfl

end Dot

/-- The scalings and the dot product are exact: what they return is the rounded quotient, or the sum, of the
integers. -/
theorem fixed_point_exact :
    (∀ (value multiplier : Int32) (shift : Int8) (doubleRound : Bool),
      ((∃ result, applyScale32 value multiplier shift doubleRound = .ok result) ↔
        Scalable value multiplier shift) ∧
      applyScale32 value multiplier shift doubleRound ≠ .error .accumulatorOverflow ∧
      (∀ result, applyScale32 value multiplier shift doubleRound = .ok result →
        result.toInt = exactScale32 value multiplier shift doubleRound) ∧
      ∀ value' result result', value ≤ value' → applyScale32 value multiplier shift doubleRound = .ok result →
        applyScale32 value' multiplier shift doubleRound = .ok result' → result ≤ result') ∧
    (∀ (value : Int64) (multiplier : Int16) (shift : Int8),
      ((∃ error, error ≠ .accumulatorOverflow ∧ applyScale16 value multiplier shift = .error error) ↔
        multiplier.toInt < 0 ∨ ¬ (-2 ^ 47 ≤ value.toInt ∧ value.toInt < 2 ^ 47) ∨
        ¬ (2 ≤ shift.toInt ∧ shift.toInt ≤ 62)) ∧
      (Scalable16 value multiplier shift →
        (fitsI32 (exactScale16 value multiplier shift) → ∃ result : Int32,
          applyScale16 value multiplier shift = .ok result ∧ result.toInt = exactScale16 value multiplier shift) ∧
        (¬ fitsI32 (exactScale16 value multiplier shift) →
          applyScale16 value multiplier shift = .error .accumulatorOverflow))) ∧
    (∀ (value multiplier : Int32) (shift outputZeroPoint : Int8) (doubleRound : Bool),
      (∀ error, rescaleI32ToI8 value multiplier shift outputZeroPoint doubleRound = .error error ↔
        applyScale32 value multiplier shift doubleRound = .error error) ∧
      ∀ result, rescaleI32ToI8 value multiplier shift outputZeroPoint doubleRound = .ok result →
        result.toInt = max (-128)
        (min (exactScale32 value multiplier shift doubleRound + outputZeroPoint.toInt) 127)) ∧
    ∀ (left right : Bytes) (leftZeroPoint rightZeroPoint : Int8) (bias : Int32),
      left.length = right.length → left.length < 2 ^ 46 →
        let exact := exactDot left right leftZeroPoint rightZeroPoint bias
        (fitsI32 exact → ∃ result : Int32,
          dotI8I32 left right leftZeroPoint rightZeroPoint bias = .ok result ∧ result.toInt = exact) ∧
          (¬ fitsI32 exact → dotI8I32 left right leftZeroPoint rightZeroPoint bias =
              .error .accumulatorOverflow) := by
  refine ⟨fun value multiplier shift doubleRound => ⟨⟨?_, ?_⟩, ?_, ?_, ?_⟩, fun value multiplier shift =>
    ⟨⟨?_, ?_⟩, ?_⟩, fun value multiplier shift outputZeroPoint doubleRound => ⟨?_, ?_⟩, ?_⟩
  · rintro ⟨result, done⟩
    exact (applyScale32_eq_ok.mp done).1
  · intro scalable
    exact ⟨_, (applyScale32_scalable doubleRound scalable).choose_spec.1⟩
  · intro overflow
    by_cases scalable : Scalable value multiplier shift
    · obtain ⟨result, done, _⟩ := applyScale32_scalable doubleRound scalable
      cases done.symm.trans overflow
    obtain ⟨error, other, stopped⟩ := applyScale32_refused doubleRound scalable
    exact other (Except.error.inj (stopped.symm.trans overflow))
  · exact fun result done => (applyScale32_eq_ok.mp done).2
  · exact fun value' result result' => applyScale32_mono
  · rintro ⟨error, other, stopped⟩
    by_contra inside
    simp only [not_or, not_not, not_lt] at inside
    rw [applyScale16_scalable ⟨inside.1, inside.2.1, inside.2.2⟩, i32TryFrom] at stopped
    split at stopped
    · cases stopped
    · exact other (Except.error.inj stopped).symm
  · intro outside
    refine applyScale16_refused fun scalable => ?_
    rcases outside with negative | outside | outside
    · exact negative.not_ge scalable.positive
    · exact outside scalable.range
    · exact outside scalable.admitted
  · intro scalable
    rw [applyScale16_scalable scalable]
    exact ⟨i32TryFrom_fits, fun wide => if_neg wide⟩
  · intro error
    simp only [rescaleI32ToI8, bind_eq_error, pure_ne_error, and_false, exists_false, or_false]
  · exact fun result done => (rescaleI32ToI8_eq_ok.mp done).2
  · intro left right leftZeroPoint rightZeroPoint bias same few
    rw [dotI8I32_eq _ _ bias same few]
    exact ⟨i32TryFrom_fits, fun wide => if_neg wide⟩

end VirtioAccel.Tosa
