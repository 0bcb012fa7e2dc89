import VirtioAccel.Tosa.OperatorTypes

/-! The rules on the compile-time constants of an operator and on the sizes that a level allows. -/

namespace VirtioAccel.Tosa
open Checked
variable {ε : Type}

/-- The bytes of a tensor, in its own table or in the range of the model that it names. -/
def tensorData (model : Bytes) (value : Tensor) : Except (Stop ε) Bytes :=
  match value.externalDataRange with
  | some (offset, size) => slice model offset size
  | none => .ok value.data

def dtypeWidth : DType → Option Nat
  | .bool | .int4 | .int8 | .fp8e4m3 | .fp8e5m2 => some 1
  | .int16 | .fp16 | .bf16 => some 2
  | .int32 | .fp32 => some 4
  | .int48 | .shape => some 8
  | .other _ => none

def dtypeElementBytes : DType → Option Nat
  | .int48 => some 6
  | dtype => dtypeWidth dtype

/-- A signed nibble, the low one first. -/
def unpackInt4 (bytes : Bytes) (position : Nat) : Option Int := do
  let byte ← bytes[position / 2]?
  let nibble := if position % 2 = 0 then byte.toNat % 16 else byte.toNat / 16
  return Int.bmod nibble 16

/-- A dimension, at a position below the rank. -/
def dimension (value : Tensor) (position : Nat) : Rule Int := do
  let size ← index value.dimensions position
  return size.toInt

section Constants
variable (model : Bytes)

/-- The compile-time constant inputs of each operator. -/
def ctcInputs : Op → List Nat
  | .avgPool2d => [1, 2]
  | .conv2d | .conv3d | .depthwiseConv2d | .transposeConv2d => [3, 4]
  | .matmul => [2, 3]
  | .mul => [2]
  | .table => [1]
  | .negate => [1, 2]
  | .pad => [1, 2]
  | .reshape => [1]
  | .slice => [1, 2]
  | .tile => [1]
  | .resize => [1, 2, 3]
  | .rescale => [1, 2, 3, 4]
  | _ => []

/-- The zero points among them. -/
def zeroPoints : Op → List Nat
  | .avgPool2d => [1, 2]
  | .conv2d | .conv3d | .depthwiseConv2d | .transposeConv2d => [3, 4]
  | .matmul => [2, 3]
  | .negate => [1, 2]
  | .pad => [2]
  | _ => []

def constantInteger (value : Tensor) (position : Nat) : Rule (Option Int) := do
  let data ← tensorData model value
  return do
    let width ← dtypeWidth value.dtype
    let start ← checkedMul position width
    match value.dtype with
    | .int4 => unpackInt4 data position
    | .int8 => signedLe <$> slice? data start 1
    | .int16 => signedLe <$> slice? data start 2
    | .int32 => signedLe <$> slice? data start 4
    | .int48 => signedLe <$> slice? data start 8
    | _ => none

def constantIsZero (value : Tensor) (position : Nat) : Rule Bool := do
  let data ← tensorData model value
  match dtypeWidth value.dtype with
  | none => return false
  | some width =>
    match checkedMul position width with
    | none => return false
    | some start =>
      match value.dtype with
      | .int4 | .int8 | .int16 | .int32 | .int48 => return (← constantInteger model value position) == some 0
      | .fp8e4m3 | .fp8e5m2 => return (slice? data start 1).any fun bytes => Codec.leValue bytes % 2 ^ 7 == 0
      | .fp16 | .bf16 => return (slice? data start 2).any fun bytes => Codec.leValue bytes % 2 ^ 15 == 0
      | .fp32 => return (slice? data start 4).any fun bytes => Codec.leValue bytes % 2 ^ 31 == 0
      | _ => return false

def checkZeroPoint (dynamic : Bool) (inputs : List Symbol) (position : Nat) (unsigned : Bool) : Rule Bool := do
  let value ← tensorAt inputs position
  let data ← tensorData model value
  if data.isEmpty then return dynamic
  let zero ← constantIsZero model value 0
  return value.dtype == .int8 ||
    value.dtype == .int16 && unsigned &&
      (slice? data 0 2).any (fun bytes => Codec.leValue bytes == 0 || Codec.leValue bytes == 32768) ||
    zero

/-- A required constant is the output of a constant operator and carries its data. -/
def validateRequiredConstant (op : Op) (operator : Operator) (inputs : List Symbol) (constants : List Name)
    (dynamic : Bool) (position : Nat) : Rule Unit := do
  let connectedToConstant := operator.inputs[position]?.any fun name => (binarySearch constants name).isSome
  let present ← match ← index inputs position with
    | .tensor value => do
      let data ← tensorData model value
      pure (!data.isEmpty)
    | .shape value => pure value.hasValues
  refuseIf ((!connectedToConstant || !present) && !dynamic) (.failed (.constantRequired op position))

def validateMulShift (op : Op) (inputs : List Symbol) (dynamic : Bool) : Rule Unit := do
  let amount ← tensorAt inputs 2
  let left ← tensorAt inputs 0
  match ← constantInteger model amount 0 with
  | none => refuseIf (dynamic = false) (.failed (.constantRequired op 2))
  | some shift =>
    refuseIf (¬ (0 ≤ shift ∧ shift ≤ 63) ∨ left.dtype ≠ .int32 ∧ shift ≠ 0) (.failed (.invalidConstantData op 2))

/-- The multipliers or the shifts of a rescale, when they are there. -/
def validateRescaleValues (op : Op) (inputs : List Symbol) (position channels : Nat) (valid : Int → Bool) :
    Rule Unit := do
  let value ← tensorAt inputs position
  let data ← tensorData model value
  if data.isEmpty then return ()
  (List.range channels).forM fun channel => do
    let number ← constantInteger model value channel
    refuseIf (¬ number.any valid) (.failed (.invalidConstantData op position))

def validateRescaleConstants (op : Op) (attributes : OpAttributes) (inputs : List Symbol) (dynamic : Bool) :
    Rule Unit := do
  let (perChannel, inputUnsigned, outputUnsigned) ← match attributes with
    | .rescale _ _ perChannel inputUnsigned outputUnsigned => pure (perChannel, inputUnsigned, outputUnsigned)
    | _ => .error .panicked
  let inputZero ← checkZeroPoint model dynamic inputs 3 inputUnsigned
  let outputZero ← checkZeroPoint model dynamic inputs 4 outputUnsigned
  refuseIf (¬ (inputZero && outputZero)) (.failed (.invalidConstantData op 3))
  let input ← tensorAt inputs 0
  let channels ← if perChannel then do
      let rank ← orPanic input.rank
      let channels ← dimension input (rank - 1)
      pure (intAsUsize channels)
    else pure 1
  [1, 2].forM fun position => do
    let value ← tensorAt inputs position
    let count ← dimension value 0
    refuseIf (intAsUsize count ≠ channels) (.failed (.invalidConstantData op position))
  validateRescaleValues model op inputs 1 channels fun value => 0 ≤ value
  validateRescaleValues model op inputs 2 channels fun value => 2 ≤ value && value ≤ 62

def validateCtcInputs (op : Op) (operator : Operator) (attributes : OpAttributes) (inputs : List Symbol)
    (constants : List Name) (target : Target) : Rule Unit := do
  let dynamic := target.extensions.contains .dynamic
  (ctcInputs op).forM (validateRequiredConstant model op operator inputs constants dynamic)
  let zero ← (zeroPoints op).allM fun position => checkZeroPoint model dynamic inputs position false
  refuseIf (zero = false) (.failed (.invalidConstantData op ((zeroPoints op).headD 0)))
  if op = .mul then validateMulShift model op inputs dynamic
  else if op = .rescale then validateRescaleConstants model op attributes inputs dynamic
  else .ok ()

end Constants

/-- `u128` products. -/
def checkedMul128 (a b : Nat) : Option Nat := if a * b < 2 ^ 128 then some (a * b) else none

def tensorWithinLevel (value : Tensor) (limits : LevelLimits) : Bool :=
  value.rank.isNone || ((do
    let elements ← (value.dimensions.map fun size => (size.toInt % 2 ^ 128).toNat).foldlM checkedMul128 1
    let width ← dtypeElementBytes value.dtype
    checkedMul128 elements width) : Option Nat).any fun bytes => bytes ≤ 2 ^ limits.maxLog2Size - 1

def shapeWithinLevel (value : Shape) (limits : LevelLimits) : Rule Bool := do
  let values ← value.values
  return values.all fun values => values.all fun number =>
    -2 ^ limits.maxLog2Size ≤ number && number < 2 ^ limits.maxLog2Size

end VirtioAccel.Tosa
