import VirtioAccel.Tosa.OperatorRules

/-! The shape rules of the operators. Their `i64` sums and products are not checked in the source: in a build
without overflow checks they wrap around. -/

namespace VirtioAccel.Tosa
open Checked

def dimensionsEqual (value : Tensor) (expected : List Int) : Bool :=
  value.rank == some expected.length && value.dimensions.map Int32.toInt == expected

def scalarShape (value : Tensor) : Bool := dimensionsEqual value [1]

def asI32 (value : Int) : Option Int := if -2 ^ 31 ≤ value ∧ value < 2 ^ 31 then some value else none

def shapeValue (value : Shape) (position : Nat) : Rule (Option Int) := do
  let values ← value.values
  return values.bind fun values => values[position]?

def padShape (input : Tensor) (padding : Shape) (pad output : Tensor) (dynamic : Bool) : Rule Bool := do
  let rank ← orPanic input.rank
  if padding.rank.toNat ≠ rank * 2 ∨ ¬ scalarShape pad ∨ output.rank ≠ some rank then return false
  if !padding.hasValues then return dynamic
  (List.range rank).allM fun position => do
    let before ← shapeValue padding (position * 2)
    let after ← shapeValue padding (position * 2 + 1)
    match before, after with
    | some before, some after =>
      pure (0 ≤ before && 0 ≤ after) <&&> do
        return (← dimension output position) == wrap64 ((← dimension input position) + before + after)
    | _, _ => return false

/-- `u64` products. -/
def tensorElements (value : Tensor) : Option Nat := (value.dimensions.map asUsize).foldlM checkedMul 1

def reshapeShape (input : Tensor) (newShape : Shape) (output : Tensor) (dynamic : Bool) : Rule Bool := do
  let outputRank ← orPanic output.rank
  if newShape.rank.toNat ≠ outputRank ∨ tensorElements input ≠ tensorElements output then return false
  if !newShape.hasValues then return dynamic
  (List.range outputRank).allM fun position => do
    return (← shapeValue newShape position) == some (← dimension output position)

def sliceShape (input : Tensor) (start size : Shape) (output : Tensor) (dynamic : Bool) : Rule Bool := do
  let rank ← orPanic input.rank
  if start.rank.toNat ≠ rank ∨ size.rank.toNat ≠ rank ∨ output.rank ≠ some rank then return false
  if !start.hasValues || !size.hasValues then return dynamic
  (List.range rank).allM fun position => do
    match ← shapeValue start position, ← shapeValue size position with
    | some start, some size =>
      return 0 ≤ start && 0 < size && wrap64 (start + size) ≤ (← dimension input position) &&
        size == (← dimension output position)
    | _, _ => return false

def tileShape (input : Tensor) (multiples : Shape) (output : Tensor) (dynamic : Bool) : Rule Bool := do
  let rank ← orPanic input.rank
  if multiples.rank.toNat ≠ rank ∨ output.rank ≠ some rank then return false
  if !multiples.hasValues then return dynamic
  (List.range rank).allM fun position => do
    match ← shapeValue multiples position with
    | some multiple =>
      return 1 ≤ multiple && wrap64 ((← dimension input position) * multiple) == (← dimension output position)
    | none => return false

/-- What a build without overflow checks makes of an exact `i64` result. -/
def wrapping (exact : Int) : Rule Int := .ok (wrap64 exact)

/-- What a build with overflow checks makes of it. -/
def overflowChecked (exact : Int) : Rule Int := if fitsI64 exact then .ok exact else .error .panicked

section Resize
variable (arith : Int → Rule Int)

/-- The ranges of a resize, in the order of the source, which stops at the first one that is left. Only the products
with the level's scale are `i128`. -/
def resizeOutOfRange (yn yd xn xd oy ox bY bX : Int) (sizes : List Int) (limits : LevelLimits) : Rule Bool :=
  pure (yn ≤ 0 || yd ≤ 0 || xn ≤ 0 || xd ≤ 0 || 2048 < yn || 2048 < xn) <||>
  pure (limits.maxScale * yd < yn || limits.maxScale * xd < xn) <||>
  (do return (← arith (16 * yn)) ≤ yd) <||>
  (do return (← arith (16 * xn)) ≤ xd) <||>
  (do return !((← arith (-yn)) ≤ oy && oy < (← arith (16 * yn)))) <||>
  (do return !((← arith (-xn)) ≤ ox && ox < (← arith (16 * xn)))) <||>
  (do return !((← arith (-16 * yn)) ≤ bY && bY < yn)) <||>
  (do return !((← arith (-16 * xn)) ≤ bX && bX < xn)) <||>
  pure (sizes.any fun size => 16384 ≤ size)

/-- What is left of the scaled size between the offset and the border. -/
def resizeNumerator (size numerator offset border : Int) : Rule Int := do
  let last ← arith (size - 1)
  let scaled ← arith (last * numerator)
  let shifted ← arith (scaled - offset)
  arith (shifted + border)

/-- `resize_shape` over an arithmetic of `i64`. The denominators are positive where it divides, so that `%` and `/`
neither panic nor overflow. -/
def resizeShapeWith (input : Tensor) (scale offset border : Shape) (output : Tensor) (limits : LevelLimits)
    (dynamic : Bool) : Rule Bool := do
  if scale.rank ≠ 4 ∨ offset.rank ≠ 2 ∨ border.rank ≠ 2 then return false
  let inputHeight ← dimension input 1
  let inputWidth ← dimension input 2
  let sizes := [inputHeight, inputWidth, ← dimension output 1, ← dimension output 2]
  if !scale.hasValues || !offset.hasValues || !border.hasValues then
    return dynamic && (← dimension input 0) == (← dimension output 0) &&
      (← dimension input 3) == (← dimension output 3) && sizes.all fun size => size < 16384
  match ← shapeValue scale 0, ← shapeValue scale 1, ← shapeValue scale 2, ← shapeValue scale 3,
      ← shapeValue offset 0, ← shapeValue offset 1, ← shapeValue border 0, ← shapeValue border 1 with
  | some yn, some yd, some xn, some xd, some oy, some ox, some bY, some bX =>
    if ← resizeOutOfRange arith yn yd xn xd oy ox bY bX sizes limits then return false
    let heightNumerator ← resizeNumerator arith inputHeight yn oy bY
    let widthNumerator ← resizeNumerator arith inputWidth xn ox bX
    pure (heightNumerator.tmod yd == 0) <&&> pure (widthNumerator.tmod xd == 0) <&&> do
      let height ← arith (heightNumerator.tdiv yd + 1)
      let width ← arith (widthNumerator.tdiv xd + 1)
      return dimensionsEqual output
        [← dimension input 0, (asI32 height).getD 0, (asI32 width).getD 0, ← dimension input 3]
  | _, _, _, _, _, _, _, _ => return false

end Resize

def resizeShape := resizeShapeWith wrapping

end VirtioAccel.Tosa
