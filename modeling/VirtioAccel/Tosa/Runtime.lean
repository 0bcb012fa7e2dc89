import VirtioAccel.Tosa.OperatorShapes

/-! The checks of compile-time inputs that are supplied only when a plan is specialized. -/

namespace VirtioAccel.Tosa.Runtime
open Checked

inductive RuntimeErrorKind where
  | valuesOutOfOrder | missingValue | invalidEncoding | requiredConditionFailed
  deriving DecidableEq

/-- What is wrong, and with which operator and value. -/
structure RuntimeError where
  operator : Option Nat
  value : Option Nat
  kind : RuntimeErrorKind
  deriving DecidableEq

/-- An operation whose condition fails is unpredictable. -/
inductive ConditionResult where
  | valid | unpredictable
  deriving DecidableEq

abbrev Running (α : Type) := Except (Stop RuntimeError) α

section Decoding

def integerAt (dtype : DType) (bytes : Bytes) (position : Nat) : Option Int := do
  let width ← match dtype with
    | .int4 | .int8 => some 1
    | .int16 => some 2
    | .int32 => some 4
    | .int48 => some 8
    | _ => none
  let start ← checkedMul position width
  match dtype with
  | .int4 => unpackInt4 bytes position
  | .int8 => signedLe <$> slice? bytes start 1
  | .int16 => signedLe <$> slice? bytes start 2
  | .int32 => signedLe <$> slice? bytes start 4
  | .int48 => signedLe <$> slice? bytes start 8
  | _ => none

def shapeAt (bytes : Bytes) (position : Nat) : Option Int := do
  let start ← checkedMul position 8
  signedLe <$> slice? bytes start 8

def valueIsZero (dtype : DType) (bytes : Bytes) (position : Nat) : Bool :=
  match dtype with
  | .int4 | .int8 | .int16 | .int32 | .int48 => integerAt dtype bytes position == some 0
  | .fp8e4m3 | .fp8e5m2 => (slice? bytes position 1).any fun bits => Codec.leValue bits % 2 ^ 7 == 0
  | .fp16 | .bf16 => (slice? bytes (position * 2) 2).any fun bits => Codec.leValue bits % 2 ^ 15 == 0
  | .fp32 => (slice? bytes (position * 4) 4).any fun bits => Codec.leValue bits % 2 ^ 31 == 0
  | _ => false

def tensorDtype : Symbol → DType
  | .tensor value => value.dtype
  | .shape _ => .shape

def tensorRank : Symbol → Option Nat
  | .tensor value => value.rank
  | .shape _ => none

def tensorDimension (operand : Symbol) (position : Nat) : Option Int :=
  match operand with
  | .tensor value => (value.dimension position).map Int32.toInt
  | .shape _ => none

/-- `usize::try_from`, and a checked product. -/
def checkedCount (count : Nat) (size : Int32) : Option Nat :=
  if 0 ≤ size.toInt then checkedMul count size.toInt.toNat else none

def tensorElements : Symbol → Option Nat
  | .tensor value => do
    let _ ← value.rank
    value.dimensions.foldlM checkedCount 1
  | .shape value => some value.rank.toNat

def integerValue (operand : Symbol) (bytes : Bytes) (position : Nat) : Option Int :=
  integerAt (tensorDtype operand) bytes position

end Decoding

/-- `saturating_mul`. -/
def saturatingMul (a b : Nat) : Nat := min (a * b) usizeMax

def encodedLength (dtype : DType) (elements : Nat) : Option Nat :=
  match dtype with
  | .int4 => some ((elements + 1) / 2)
  | .bool | .int8 | .fp8e4m3 | .fp8e5m2 => some elements
  | .int16 | .fp16 | .bf16 => some (saturatingMul elements 2)
  | .int32 | .fp32 => some (saturatingMul elements 4)
  | .int48 | .shape => some (saturatingMul elements 8)
  | .other _ => none

def validEncoding (limits : LevelLimits) (operand : Symbol) (bytes : Bytes) : Bool :=
  let dtype := tensorDtype operand
  (tensorElements operand).any fun elements =>
    (encodedLength dtype elements).any fun expected =>
      bytes.length == expected &&
        match dtype with
        | .bool => bytes.all fun byte => byte ≤ 1
        | .int4 => (List.range elements).all fun position => unpackInt4 bytes position != some (-8)
        | .int48 => (List.range elements).all fun position =>
          (integerAt dtype bytes position).any fun value => -2 ^ 47 ≤ value && value < 2 ^ 47
        | .shape => (List.range elements).all fun position =>
          (shapeAt bytes position).any fun value =>
            -2 ^ limits.maxLog2Size ≤ value && value < 2 ^ limits.maxLog2Size
        | _ => true

def zeroPointValid (operand : Symbol) (bytes : Bytes) (unsigned : Bool) : Bool :=
  let dtype := tensorDtype operand
  dtype == .int8 ||
    dtype == .int16 && unsigned &&
      (slice? bytes 0 2).any (fun bits => Codec.leValue bits == 0 || Codec.leValue bits == 32768) ||
    valueIsZero dtype bytes 0

section Shapes
variable (input output : Symbol)

/-- The ranks agree, and a condition holds of each pair of dimensions. -/
def eachDimension (condition : Nat → Int → Int → Bool) : Bool :=
  (tensorRank input).any fun rank =>
    tensorRank output == some rank && (List.range rank).all fun position =>
      match tensorDimension input position, tensorDimension output position with
      | some size, some size' => condition position size size'
      | _, _ => false

/-- Sums and products here are `i128`, which holds them all. -/
def padValid (padding : Bytes) : Bool :=
  eachDimension input output fun position size size' =>
    match shapeAt padding (position * 2), shapeAt padding (position * 2 + 1) with
    | some before, some after => 0 ≤ before && 0 ≤ after && size + before + after == size'
    | _, _ => false

def reshapeValid (shape : Bytes) : Bool :=
  (tensorRank output).any (fun rank => (List.range rank).all fun position =>
    (tensorDimension output position).any fun size => shapeAt shape position == some size) &&
    tensorElements input == tensorElements output

def sliceValid (starts sizes : Bytes) : Bool :=
  eachDimension input output fun position size size' =>
    match shapeAt starts position, shapeAt sizes position with
    | some start, some length => 0 ≤ start && 0 < length && start + length ≤ size && length == size'
    | _, _ => false

def tileValid (multiples : Bytes) : Bool :=
  eachDimension input output fun position size size' =>
    (shapeAt multiples position).any fun multiple => 1 ≤ multiple && size * multiple == size'

def dimensions4 (operand : Symbol) : Option (Int × Int × Int × Int) :=
  if tensorRank operand = some 4 then do
    return (← tensorDimension operand 0, ← tensorDimension operand 1, ← tensorDimension operand 2,
      ← tensorDimension operand 3)
  else none

/-- `i64::try_from`. -/
def asI64 (value : Int) : Option Int := if fitsI64 value then some value else none

/-- The ranges of a resize. The values are `i64` and all arithmetic is `i128`, which holds it. -/
def resizeOutOfRange (yn yd xn xd oy ox bY bX : Int) (sizes : List Int) (limits : LevelLimits) : Bool :=
  yn ≤ 0 || yd ≤ 0 || xn ≤ 0 || xd ≤ 0 || 2048 < yn || 2048 < xn ||
    limits.maxScale * yd < yn || limits.maxScale * xd < xn || 16 * yn ≤ yd || 16 * xn ≤ xd ||
    !(-yn ≤ oy && oy < 16 * yn) || !(-xn ≤ ox && ox < 16 * xn) ||
    !(-16 * yn ≤ bY && bY < yn) || !(-16 * xn ≤ bX && bX < xn) || sizes.any fun size => 16384 ≤ size

def resizeValid (scale offset border : Bytes) (limits : LevelLimits) : Bool :=
  ((do
    let (n, h, w, c) ← dimensions4 input
    let (n', h', w', c') ← dimensions4 output
    let yn ← shapeAt scale 0
    let yd ← shapeAt scale 1
    let xn ← shapeAt scale 2
    let xd ← shapeAt scale 3
    let oy ← shapeAt offset 0
    let ox ← shapeAt offset 1
    let bY ← shapeAt border 0
    let bX ← shapeAt border 1
    if resizeOutOfRange yn yd xn xd oy ox bY bX [h, w, h', w'] limits then return false
    let heightNumerator := (h - 1) * yn - oy + bY
    let widthNumerator := (w - 1) * xn - ox + bX
    return heightNumerator.tmod yd == 0 && widthNumerator.tmod xd == 0 &&
      (n', h', w', c') == (n, (asI64 (heightNumerator.tdiv yd + 1)).getD (-2 ^ 63),
        (asI64 (widthNumerator.tdiv xd + 1)).getD (-2 ^ 63), c)) : Option Bool).any id

end Shapes

section Operators
variable (limits : LevelLimits) (attributes : OpAttributes) (inputs outputs : List Symbol)
  (data : Nat → Running Bytes) (fail : Nat → RuntimeError)

def checkZeroPoint (position : Nat) (unsigned : Bool) : Running Unit := do
  let operand ← index inputs position
  let bytes ← data position
  refuseIf (zeroPointValid operand bytes unsigned = false) (.failed (fail position))

/-- A shape condition that must hold, reported at the first shape operand. -/
def requireShape (holds : Bool) : Running ConditionResult := do
  refuseIf (holds = false) (.failed (fail 1))
  return .valid

/-- A condition that is only advised. -/
def advise (holds : Bool) : ConditionResult := if holds then .valid else .unpredictable

def checkRescale : Running ConditionResult := do
  let (inputUnsigned, outputUnsigned) ← match attributes with
    | .rescale _ _ _ inputUnsigned outputUnsigned => pure (inputUnsigned, outputUnsigned)
    | _ => .error .panicked
  checkZeroPoint inputs data fail 3 inputUnsigned
  checkZeroPoint inputs data fail 4 outputUnsigned
  let multipliers ← data 1
  let shifts ← data 2
  let multiplier ← index inputs 1
  let amount ← index inputs 2
  return advise ((List.range ((tensorElements multiplier).getD 0)).all fun channel =>
    (integerValue multiplier multipliers channel).any (fun value => 0 ≤ value) &&
      (integerValue amount shifts channel).any fun value => 2 ≤ value && value ≤ 62)

def checkMul : Running ConditionResult := do
  let shift := integerValue (← index inputs 2) (← data 2) 0
  let dtype := tensorDtype (← index inputs 0)
  return advise (shift.any fun shift => (0 ≤ shift && shift ≤ 63) && (dtype == .int32 || shift == 0))

/-- The conditions of one operator on the values of its compile-time inputs. -/
def checkOperator (op : Op) : Running ConditionResult :=
  match op with
  | .avgPool2d | .conv2d | .conv3d | .depthwiseConv2d | .transposeConv2d | .matmul | .negate => do
    (zeroPoints op).forM fun position => checkZeroPoint inputs data fail position false
    return .valid
  | .mul => checkMul inputs data
  | .pad => do
    checkZeroPoint inputs data fail 2 false
    requireShape fail (padValid (← index inputs 0) (← index outputs 0) (← data 1))
  | .reshape => do requireShape fail (reshapeValid (← index inputs 0) (← index outputs 0) (← data 1))
  | .slice => do requireShape fail (sliceValid (← index inputs 0) (← index outputs 0) (← data 1) (← data 2))
  | .tile => do requireShape fail (tileValid (← index inputs 0) (← index outputs 0) (← data 1))
  | .resize => do
    requireShape fail (resizeValid (← index inputs 0) (← index outputs 0) (← data 1) (← data 2) (← data 3) limits)
  | .rescale => checkRescale attributes inputs data fail
  | _ => .ok .valid

end Operators

end VirtioAccel.Tosa.Runtime
