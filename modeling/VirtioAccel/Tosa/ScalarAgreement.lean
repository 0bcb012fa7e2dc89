import VirtioAccel.Tosa.Runtime

/-! Zero points, shifts and multipliers are checked by the semantic pass when their bytes are serialized, and by the
specialization when they are supplied: the two decoders and the two verdicts agree. -/

namespace VirtioAccel.Tosa
open Checked List

/-- A tensor with its data serialized in its own table. -/
def Tensor.holding (value : Tensor) (bytes : Bytes) : Tensor := { value with data := bytes, offset := 0, size := 0 }

def Symbol.holding (bytes : Bytes) : Symbol → Symbol
  | .tensor value => .tensor (value.holding bytes)
  | .shape value => .shape { value with data := bytes }

/-- The inputs of an operator with the data of its compile-time inputs serialized. -/
def serialize (op : Op) (bytes : Nat → Bytes) (inputs : List Symbol) : List Symbol :=
  inputs.mapIdx fun i operand => if i ∈ ctcInputs op then operand.holding (bytes i) else operand

/-- A zero point is one that its type allows. -/
def zeroPointGood (inputs : List Symbol) (bytes : Nat → Bytes) (i : Nat) (unsigned : Bool) : Bool :=
  inputs[i]?.any fun operand => Runtime.zeroPointValid operand (bytes i) unsigned

section Decoders
variable (model : Bytes) (value : Tensor) (bytes : Bytes)

/-- The two decoders of packed integers are one. -/
theorem constantInteger_holding (i : Nat) :
    constantInteger model (value.holding bytes) i = .ok (Runtime.integerAt value.dtype bytes i) := by
  change Except.ok _ = _
  congr 1
  unfold Runtime.integerAt Tensor.holding
  cases value.dtype <;> first | rfl | exact Option.bind_fun_none _

theorem constantIsZero_holding :
    constantIsZero model (value.holding bytes) 0 = .ok (Runtime.valueIsZero value.dtype bytes 0) := by
  have integer := constantInteger_holding model value bytes 0
  unfold Runtime.valueIsZero Tensor.holding
  cases value.dtype <;> rfl

end Decoders

/-- Bytes that encode a tensor with positive dimensions. -/
structure Tensor.Encoded (value : Tensor) (limits : LevelLimits) (bytes : Bytes) : Prop where
  positive : ∀ size ∈ value.dimensions, 0 < size.toInt
  encoded : Runtime.validEncoding limits (.tensor value) bytes = true

theorem checkedCount_pos {sizes : List Int32} (positive : ∀ size ∈ sizes, 0 < size.toInt) {start count : Nat}
    (some : 0 < start) (counted : sizes.foldlM Runtime.checkedCount start = .some count) : 0 < count := by
  induction sizes generalizing start with
  | nil =>
    cases counted
    exact some
  | cons size rest ih =>
    obtain ⟨here, later⟩ := forall_mem_cons.mp positive
    obtain ⟨next, product, counted⟩ := Option.bind_eq_some_iff.mp (foldlM_cons.symm.trans counted)
    refine ih later ?_ counted
    rw [Runtime.checkedCount, if_pos (by omega), checkedMul] at product
    split at product
    · cases product
      exact Nat.mul_pos some (by omega)
    · cases product

theorem Tensor.Encoded.nonempty {value : Tensor} {limits : LevelLimits} {bytes : Bytes}
    (given : value.Encoded limits bytes) :
    bytes.isEmpty = false := by
  have encoded := given.encoded
  rw [Runtime.validEncoding, Option.any_eq_true] at encoded
  obtain ⟨elements, counted, encoded⟩ := encoded
  rw [Option.any_eq_true] at encoded
  obtain ⟨expected, length, encoded⟩ := encoded
  rw [Bool.and_eq_true, beq_iff_eq] at encoded
  obtain ⟨_, _, product⟩ := Option.bind_eq_some_iff.mp counted
  have positive := checkedCount_pos given.positive Nat.one_pos product
  have some : 0 < expected := by
    unfold Runtime.encodedLength Runtime.saturatingMul usizeMax at length
    split at length <;> cases length <;> omega
  rw [isEmpty_eq_false_iff, ← length_pos_iff, encoded.1]
  exact some

section Operands
variable {model : Bytes} {limits : LevelLimits} {op : Op} {inputs : List Symbol} {bytes : Nat → Bytes} {i : Nat}
  {value : Tensor}

variable {operand : Symbol}

theorem serialize_ctc (member : i ∈ ctcInputs op) (found : inputs[i]? = some operand) :
    (serialize op bytes inputs)[i]? = some (operand.holding (bytes i)) := by
  rw [serialize, getElem?_mapIdx, found, Option.map_some, if_pos member]

theorem serialize_first (found : inputs[0]? = some (.tensor value)) :
    tensorAt (serialize op bytes inputs) 0 = .ok value := by
  have outside : 0 ∉ ctcInputs op := by cases op <;> simp [ctcInputs]
  rw [tensorAt, index, serialize, getElem?_mapIdx, found, Option.map_some, if_neg outside]
  rfl

theorem tensorAt_serialize (member : i ∈ ctcInputs op) (found : inputs[i]? = some (.tensor value)) :
    tensorAt (serialize op bytes inputs) i = .ok (value.holding (bytes i)) := by
  rw [tensorAt, index, serialize_ctc member found]
  rfl

/-- One zero point, statically. -/
theorem checkZeroPoint_serialize (member : i ∈ ctcInputs op) (found : inputs[i]? = some (.tensor value))
    (given : value.Encoded limits (bytes i)) (dynamic unsigned : Bool) :
    checkZeroPoint model dynamic (serialize op bytes inputs) i unsigned =
      .ok (zeroPointGood inputs bytes i unsigned) := by
  rw [checkZeroPoint, tensorAt_serialize member found, zeroPointGood, found]
  change (if (bytes i).isEmpty then _ else _) = _
  rw [given.nonempty]
  rw [constantIsZero_holding]
  rfl

end Operands

/-- The zero points of an operator, with what it says about their sign. -/
def zeroPointsOf (op : Op) (attributes : OpAttributes) : List (Nat × Bool) :=
  match op, attributes with
  | .rescale, .rescale _ _ _ inputUnsigned outputUnsigned => [(3, inputUnsigned), (4, outputUnsigned)]
  | _, _ => (zeroPoints op).map (·, false)

section Verdicts
variable (limits : LevelLimits) (op : Op) (attributes : OpAttributes) (operator : Operator) (constants : List Name)
  (inputs outputs : List Symbol) (bytes : Nat → Bytes)

/-- The compile-time inputs of an operator: outputs of constant operators, tensors but for the padding of a pad, and
with bytes that encode them. -/
structure CtcGiven : Prop where
  connected : ∀ i ∈ ctcInputs op, operator.inputs[i]?.any (fun name => (binarySearch constants name).isSome) = true
  tensors : ∀ i ∈ ctcInputs op, op = .pad ∧ i = 1 ∨ ∃ value, inputs[i]? = some (.tensor value) ∧
    value.Encoded limits (bytes i)
  first : ∃ value, inputs[0]? = some (.tensor value)
  shift : op = .mul → ∀ value, inputs[2]? = some (.tensor value) → value.dtype = .int8
  /-- Only the zero point of a pad is compared here: its padding passes. -/
  padded : op = .pad → ∃ input output padding, inputs[0]? = some input ∧ outputs[0]? = some output ∧
    inputs[1]? = some (.shape padding) ∧ Runtime.validEncoding limits (.shape padding) (bytes 1) = true ∧
    Runtime.padValid input output (bytes 1) = true

/-- The multipliers and shifts of a rescale are one for each channel. -/
structure RescaleGiven (channels : Nat) (inputUnsigned outputUnsigned : Bool) : Prop where
  attributes : ∃ scale32 mode perChannel,
    attributes = .rescale scale32 mode perChannel inputUnsigned outputUnsigned ∧
    if perChannel then ∃ (input : Tensor) (size : Int32) (rank : Nat), inputs[0]? = some (.tensor input) ∧
    input.rank = some (rank + 1) ∧
      input.dimensions[rank]? = some size ∧ size.toInt = channels
    else channels = 1
  operands : ∀ i ∈ [1, 2], ∃ (value : Tensor) (size : Int32), inputs[i]? = some (.tensor value) ∧
    value.rank = some 1 ∧ value.dimensions = [size] ∧ size.toInt = channels

def ZeroPointsGood : Prop := ∀ entry ∈ zeroPointsOf op attributes, zeroPointGood inputs bytes entry.1 entry.2 = true

def valueAt (i channel : Nat) : Option Int := inputs[i]?.bind fun operand =>
    Runtime.integerValue operand (bytes i) channel

def MulShiftGood : Prop :=
  ∃ shift, valueAt inputs bytes 2 0 = some shift ∧ (0 ≤ shift ∧ shift ≤ 63) ∧
    (inputs[0]?.map Runtime.tensorDtype = some .int32 ∨ shift = 0)

def RescaleChannelsGood (channels : Nat) : Prop :=
  ∀ channel < channels, (∃ multiplier, valueAt inputs bytes 1 channel = some multiplier ∧ 0 ≤ multiplier) ∧
    ∃ shift, valueAt inputs bytes 2 channel = some shift ∧ 2 ≤ shift ∧ shift ≤ 62

end Verdicts

section Agreement
variable {model : Bytes} {target : Target} {op : Op} {attributes : OpAttributes} {operator : Operator}
  {constants : List Name}
  {inputs outputs : List Symbol} {bytes : Nat → Bytes} {fail : Nat → Runtime.RuntimeError}
variable {i : Nat}

theorem CtcGiven.required (given : CtcGiven target.level.limits op operator constants inputs outputs bytes)
    (dynamic : Bool) :
    (ctcInputs op).forM (validateRequiredConstant model op operator (serialize op bytes inputs) constants dynamic) =
    .ok () := by
  refine forM_eq_ok.mpr fun i member => ?_
  rw [validateRequiredConstant, given.connected i member]
  rcases given.tensors i member with ⟨rfl, rfl⟩ | ⟨value, found, encoded⟩
  · obtain ⟨_, _, padding, _, _, found, encoded, _⟩ := given.padded rfl
    rw [index, serialize_ctc member found]
    have some : ({ padding with data := bytes 1 } : Shape).hasValues = true := by
      rw [Runtime.validEncoding, Option.any_eq_true] at encoded
      obtain ⟨elements, counted, encoded⟩ := encoded
      rw [Option.any_eq_true] at encoded
      obtain ⟨expected, length, encoded⟩ := encoded
      rw [Bool.and_eq_true, beq_iff_eq] at encoded
      cases counted
      cases length
      rw [Shape.hasValues, Bool.or_eq_true, Bool.not_eq_true', isEmpty_eq_false_iff, ← length_pos_iff, encoded.1,
        beq_iff_eq]
      by_cases none : padding.rank.toNat = 0
      · exact .inr (UInt32.toNat_inj.mp none)
      unfold Runtime.saturatingMul usizeMax
      omega
    change refuseIf ((!true || !({ padding with data := bytes 1 } : Shape).hasValues) && !dynamic) _ = _
    rw [some]
    rfl
  · rw [index, serialize_ctc member found]
    change refuseIf ((!true || !!(bytes i).isEmpty) && !dynamic) _ = _
    rw [encoded.nonempty]
    rfl

/-- One zero point, at run time. -/
theorem checkZeroPoint_supplied (found : inputs[i]? = some operand) (unsigned : Bool) :
    Runtime.checkZeroPoint inputs (fun i => .ok (bytes i)) fail i unsigned =
      refuseIf (zeroPointGood inputs bytes i unsigned = false) (.failed (fail i)) := by
  rw [Runtime.checkZeroPoint, index, zeroPointGood, found]
  rfl

/-- What the two checks say of the zero points and of the other values: good ones pass both, a bad zero point is
refused by both, and other bad values are refused by the first and reported by the second. -/
structure Verdicts (op : Op) (fail : Nat → Runtime.RuntimeError) (static : Rule Unit)
    (runtime : Runtime.Running Runtime.ConditionResult) (zeroPoints amounts : Prop) : Prop where
  accepted : zeroPoints → amounts → static = .ok () ∧ runtime = .ok .valid
  refused : ¬ zeroPoints → (∃ i, static = .error (.failed (.invalidConstantData op i))) ∧
    ∃ i, runtime = .error (.failed (fail i))
  advised : zeroPoints → ¬ amounts → (∃ i, static = .error (.failed (.invalidConstantData op i))) ∧
    runtime = .ok .unpredictable

theorem Verdicts.accepts_iff {static : Rule Unit} {runtime : Runtime.Running Runtime.ConditionResult}
    {zeroPoints amounts : Prop} (verdicts : Verdicts op fail static runtime zeroPoints amounts) :
    static = .ok () ↔ runtime = .ok .valid := by
  by_cases zero : zeroPoints
  · by_cases good : amounts
    · obtain ⟨first, second⟩ := verdicts.accepted zero good
      exact ⟨fun _ => second, fun _ => first⟩
    obtain ⟨⟨i, first⟩, second⟩ := verdicts.advised zero good
    rw [first, second]
    simp
  · obtain ⟨⟨i, first⟩, j, second⟩ := verdicts.refused zero
    rw [first, second]
    simp

/-- The zero points of every operator but a rescale are signed, and compile-time inputs that are tensors. -/
theorem zeroPoints_ctc (member : i ∈ zeroPoints op) : i ∈ ctcInputs op ∧ ¬ (op = .pad ∧ i = 1) := by
  cases op <;> simp_all [zeroPoints, ctcInputs]

theorem zeroPointsOf_signed (other : op ≠ .rescale) :
    zeroPointsOf op attributes = (zeroPoints op).map (·, false) := by
  cases op <;> first | rfl | exact absurd rfl other

section
variable (given : CtcGiven target.level.limits op operator constants inputs outputs bytes)
include given

theorem CtcGiven.zeroPoint (member : i ∈ zeroPoints op) :
    ∃ value, inputs[i]? = some (.tensor value) ∧ value.Encoded target.level.limits (bytes i) := by
  obtain ⟨ctc, other⟩ := zeroPoints_ctc member
  exact (given.tensors i ctc).resolve_left other

/-- The semantic pass up to the rules of single operators. -/
theorem CtcGiven.static_eq :
    validateCtcInputs model op operator attributes (serialize op bytes inputs) constants target =
      refuseIf (((zeroPoints op).all fun i => zeroPointGood inputs bytes i false) = false)
          (.failed (.invalidConstantData op ((zeroPoints op).headD 0))) >>= fun _ =>
        if op = .mul then validateMulShift model op (serialize op bytes inputs)
        (target.extensions.contains .dynamic)
        else if op = .rescale then
          validateRescaleConstants model op attributes (serialize op bytes inputs)
          (target.extensions.contains .dynamic)
        else .ok () := by
  rw [validateCtcInputs, given.required, allM_eq_all fun i member => ?_]
  · rfl
  obtain ⟨value, found, encoded⟩ := given.zeroPoint member
  exact checkZeroPoint_serialize (zeroPoints_ctc member).1 found encoded _ false

theorem CtcGiven.runtime_eq (some : zeroPoints op ≠ []) :
    Runtime.checkOperator target.level.limits attributes inputs outputs (fun i => .ok (bytes i)) fail op =
      (zeroPoints op).forM (Runtime.checkZeroPoint inputs (fun i => .ok (bytes i)) fail · false) >>= fun _ =>
      .ok .valid := by
  by_cases pad : op = .pad
  · subst pad
    obtain ⟨input, output, _, found, found', _, _, valid⟩ := given.padded rfl
    rw [Runtime.checkOperator, index, found, index, found']
    change (Runtime.checkZeroPoint inputs _ fail 2 false >>= fun _ =>
      Runtime.requireShape fail (Runtime.padValid input output (bytes 1))) =
      (Runtime.checkZeroPoint inputs _ fail 2 false >>= fun _ => .ok ()) >>= fun _ => .ok .valid
    rw [valid]
    cases Runtime.checkZeroPoint inputs (fun i => .ok (bytes i)) fail 2 false <;> rfl
  · cases op <;> first | rfl | exact absurd rfl some | exact absurd rfl pad

/-- Operators with zero points only. -/
theorem CtcGiven.zeroPoint_verdicts (some : zeroPoints op ≠ []) :
    Verdicts op fail (validateCtcInputs model op operator attributes (serialize op bytes inputs) constants target)
      (Runtime.checkOperator target.level.limits attributes inputs outputs (fun i => .ok (bytes i)) fail op)
      (ZeroPointsGood op attributes inputs bytes) True := by
  have others : op ≠ .mul ∧ op ≠ .rescale := by constructor <;> rintro rfl <;> exact some rfl
  have loop := forM_refuse fun i member => by
    obtain ⟨value, found, _⟩ := given.zeroPoint member
    exact @checkZeroPoint_supplied inputs bytes fail i _ found false
  rw [given.static_eq, if_neg others.1, if_neg others.2]
  have good : ZeroPointsGood op attributes inputs bytes ↔ ∀ i ∈ zeroPoints op,
      zeroPointGood inputs bytes i false = true := by
    rw [ZeroPointsGood, zeroPointsOf_signed others.2, forall_mem_map]
  rw [given.runtime_eq some]
  rcases loop with ⟨all, done⟩ | ⟨i, member, bad, stopped⟩
  · rw [done, all_eq_true.mpr all]
    exact ⟨fun _ _ => ⟨rfl, rfl⟩, fun ill => absurd (good.mpr all) ill, fun _ no => absurd trivial no⟩
  have fails : ((zeroPoints op).all fun i => zeroPointGood inputs bytes i false) = false :=
    all_eq_false.mpr ⟨i, member, by rw [bad]; exact Bool.false_ne_true⟩
  have ill : ¬ ZeroPointsGood op attributes inputs bytes := fun well =>
    Bool.false_ne_true (bad.symm.trans (good.mp well i member))
  rw [stopped, fails]
  exact ⟨fun well => absurd well ill, fun _ => ⟨⟨_, rfl⟩, i, rfl⟩, fun well => absurd well ill⟩

end

theorem CtcGiven.mul_verdicts (given : CtcGiven target.level.limits .mul operator constants inputs outputs bytes) :
    Verdicts .mul fail
    (validateCtcInputs model .mul operator attributes (serialize .mul bytes inputs) constants target)
      (Runtime.checkOperator target.level.limits attributes inputs outputs (fun i => .ok (bytes i)) fail .mul)
      (ZeroPointsGood .mul attributes inputs bytes) (MulShiftGood inputs bytes) := by
  obtain ⟨input, first⟩ := given.first
  obtain ⟨amount, found, encoded⟩ := (given.tensors 2 (by decide)).resolve_left (by simp)
  have good : ZeroPointsGood .mul attributes inputs bytes := by
    exact nofun
  have dtype := given.shift rfl amount found
  obtain ⟨shift, decoded⟩ : ∃ shift, Runtime.integerAt .int8 (bytes 2) 0 = some shift := by
    have length := length_pos_iff.mpr (isEmpty_eq_false_iff.mp encoded.nonempty)
    exact ⟨_, congrArg (Option.map signedLe) (if_pos (show 0 + 1 ≤ (bytes 2).length by omega))⟩
  have read : valueAt inputs bytes 2 0 = some shift := by
    rw [valueAt, found, Option.bind_some, Runtime.integerValue, Runtime.tensorDtype, dtype, decoded]
  have amounts : MulShiftGood inputs bytes ↔ (0 ≤ shift ∧ shift ≤ 63) ∧ (input.dtype = .int32 ∨ shift = 0) := by
    rw [MulShiftGood, read, first]
    simp [Runtime.tensorDtype]
  have static : validateMulShift model .mul (serialize .mul bytes inputs) (target.extensions.contains .dynamic) =
      refuseIf (¬ (0 ≤ shift ∧ shift ≤ 63) ∨ input.dtype ≠ .int32 ∧ shift ≠ 0)
          (.failed (.invalidConstantData .mul 2)) := by
    rw [validateMulShift, tensorAt_serialize (by decide) found, serialize_first first]
    dsimp only [bind, Except.bind]
    rw [constantInteger_holding, dtype, decoded]
  have runtime : Runtime.checkOperator target.level.limits attributes inputs outputs (fun i =>
    .ok (bytes i)) fail .mul =
      .ok (Runtime.advise ((decide (0 ≤ shift) && decide (shift ≤ 63)) &&
          (input.dtype == .int32 || shift == 0))) := by
    rw [Runtime.checkOperator, Runtime.checkMul, index, found, index, first]
    change Except.ok (Runtime.advise ((Runtime.integerAt amount.dtype (bytes 2) 0).any _)) = _
    rw [dtype, decoded]
    rfl
  rw [given.static_eq, static, runtime]
  refine ⟨fun _ fine => ?_, fun ill => absurd good ill, fun _ bad => ?_⟩
  · obtain ⟨range, kind⟩ := amounts.mp fine
    refine ⟨refuseIf_eq_ok.mpr (by tauto), congrArg Except.ok (if_pos ?_)⟩
    simpa using ⟨range, kind⟩
  · rw [amounts] at bad
    refine ⟨⟨2, refuseIf_eq_error.mpr ⟨by tauto, rfl⟩⟩, congrArg Except.ok (if_neg ?_)⟩
    simpa using fun low high => not_or.mp fun kind => bad ⟨⟨low, high⟩, kind⟩

/-- The values of a rescale, statically: one for each channel, or a refusal. -/
theorem validateRescaleValues_serialize {channels : Nat} {value : Tensor} {valid : Int → Bool}
    (member : i ∈ ctcInputs op) (found : inputs[i]? = some (.tensor value))
    (encoded : value.Encoded target.level.limits (bytes i)) :
    (∀ channel < channels, (valueAt inputs bytes i channel).any valid = true) ∧
        validateRescaleValues model op (serialize op bytes inputs) i channels valid = .ok () ∨
      (∃ channel < channels, (valueAt inputs bytes i channel).any valid = false) ∧
        validateRescaleValues model op (serialize op bytes inputs) i channels valid =
          .error (.failed (.invalidConstantData op i)) := by
  have read (channel : Nat) : valueAt inputs bytes i channel = Runtime.integerAt value.dtype (bytes i) channel := by
    rw [valueAt, found]
    rfl
  have loop : validateRescaleValues model op (serialize op bytes inputs) i channels valid =
      (range channels).forM fun channel =>
        refuseIf ((valueAt inputs bytes i channel).any valid = false) (.failed (.invalidConstantData op i)) := by
    rw [validateRescaleValues, tensorAt_serialize member found]
    change (if (bytes i).isEmpty then _ else _) = _
    rw [encoded.nonempty]
    refine congrArg (List.forM _) (funext fun channel => ?_)
    rw [constantInteger_holding, read]
    exact if_congr (by rw [Bool.not_eq_true]) rfl rfl
  rw [loop]
  rcases forM_refuse (l := range channels) fun channel _ => rfl with
    ⟨all, done⟩ | ⟨channel, among, bad, stopped⟩
  · exact .inl ⟨fun channel below => all channel (mem_range.mpr below), done⟩
  · exact .inr ⟨⟨channel, mem_range.mp among, bad⟩, stopped⟩

section Rescale
variable {channels : Nat} {inputUnsigned outputUnsigned : Bool}

section
variable (given : CtcGiven target.level.limits .rescale operator constants inputs outputs bytes)
  (rescale : RescaleGiven attributes inputs channels inputUnsigned outputUnsigned)
include given rescale

/-- The semantic pass of a rescale, once its channels are counted. -/
theorem CtcGiven.rescale_static :
    validateCtcInputs model .rescale operator attributes (serialize .rescale bytes inputs) constants target = (do
      refuseIf (¬ (zeroPointGood inputs bytes 3 inputUnsigned && zeroPointGood inputs bytes 4 outputUnsigned))
        (.failed (.invalidConstantData .rescale 3))
      validateRescaleValues model .rescale (serialize .rescale bytes inputs) 1 channels fun value => 0 ≤ value
      validateRescaleValues model .rescale (serialize .rescale bytes inputs) 2 channels
        fun value => 2 ≤ value && value ≤ 62) := by
  obtain ⟨scale32, mode, perChannel, rfl, counted⟩ := rescale.attributes
  obtain ⟨input, first⟩ := given.first
  obtain ⟨zero, found, encoded⟩ := (given.tensors 3 (by decide)).resolve_left (by simp)
  obtain ⟨zero', found', encoded'⟩ := (given.tensors 4 (by decide)).resolve_left (by simp)
  have narrow {size : Int32} (same : size.toInt = channels) : intAsUsize size.toInt = channels := by
    have bound := size.toInt_lt
    rw [intAsUsize, Int.emod_eq_of_lt (by omega) (by omega), same, Int.toNat_natCast]
  have counts : [1, 2].forM (fun position => (do
      let value ← tensorAt (serialize .rescale bytes inputs) position
      let count ← dimension value 0
      refuseIf (intAsUsize count ≠ channels) (.failed (.invalidConstantData .rescale position)) : Rule Unit)) =
          .ok () := by
    refine forM_eq_ok.mpr fun i member => ?_
    obtain ⟨value, size, there, _, sizes, same⟩ := rescale.operands i member
    have ctc : i ∈ ctcInputs .rescale := by
      simp only [mem_cons, not_mem_nil, or_false] at member
      rcases member with rfl | rfl <;> decide
    have size_eq : dimension (value.holding (bytes i)) 0 = .ok size.toInt := by
      rw [dimension, show (value.holding (bytes i)).dimensions = [size] from sizes]
      rfl
    rw [tensorAt_serialize ctc there]
    change (do
      let count ← dimension (value.holding (bytes i)) 0
      refuseIf _ _) = _
    rw [size_eq]
    exact refuseIf_eq_ok.mpr (not_not.mpr (narrow same))
  have zero_eq (dynamic : Bool) : checkZeroPoint model dynamic (serialize .rescale bytes inputs) 3 inputUnsigned =
      .ok (zeroPointGood inputs bytes 3 inputUnsigned) := checkZeroPoint_serialize (by decide) found encoded ..
  have zero_eq' (dynamic : Bool) : checkZeroPoint model dynamic (serialize .rescale bytes inputs) 4 outputUnsigned =
      .ok (zeroPointGood inputs bytes 4 outputUnsigned) := checkZeroPoint_serialize (by decide) found' encoded' ..
  have first_eq : tensorAt (serialize .rescale bytes inputs) 0 = .ok input := serialize_first first
  rw [given.static_eq, validateRescaleConstants]
  simp only [refuseIf, bind, Except.bind, pure, Except.pure, zero_eq, zero_eq', first_eq]
  simp only [refuseIf, bind, Except.bind] at counts
  congr 1
  cases perChannel with
  | false =>
    obtain rfl : channels = 1 := counted
    rw [if_neg Bool.false_ne_true, counts]
  | true =>
    obtain ⟨input', size, rank, first', ranked, last, same⟩ := counted
    cases Symbol.tensor.inj (Option.some.inj (first'.symm.trans first))
    have size_eq : dimension input rank = .ok size.toInt := by
      rw [dimension, index, last]
      rfl
    rw [if_pos rfl, ranked]
    dsimp only [orPanic]
    rw [Nat.add_sub_cancel, size_eq]
    dsimp only
    rw [narrow same, counts]

theorem CtcGiven.rescale_runtime :
    Runtime.checkOperator target.level.limits attributes inputs outputs (fun i => .ok (bytes i)) fail .rescale = (do
      refuseIf (zeroPointGood inputs bytes 3 inputUnsigned = false) (.failed (fail 3))
      refuseIf (zeroPointGood inputs bytes 4 outputUnsigned = false) (.failed (fail 4))
      return Runtime.advise ((range channels).all fun channel =>
        (valueAt inputs bytes 1 channel).any (fun value => 0 ≤ value) &&
          (valueAt inputs bytes 2 channel).any fun value => 2 ≤ value && value ≤ 62)) := by
  obtain ⟨scale32, mode, perChannel, rfl, _⟩ := rescale.attributes
  obtain ⟨_, found, _⟩ := (given.tensors 3 (by decide)).resolve_left (by simp)
  obtain ⟨_, found', _⟩ := (given.tensors 4 (by decide)).resolve_left (by simp)
  obtain ⟨multiplier, size, there, ranked, sizes, same⟩ := rescale.operands 1 (by decide)
  obtain ⟨amount, _, there', _⟩ := rescale.operands 2 (by decide)
  have elements : Runtime.tensorElements (.tensor multiplier) = some channels := by
    have bound := size.toInt_lt
    rw [Runtime.tensorElements, ranked, sizes]
    change (Runtime.checkedCount 1 size).bind some = _
    rw [Runtime.checkedCount, if_pos (by omega), checkedMul, if_pos (by rw [usizeMax]; omega), same,
      Option.bind_some, Int.toNat_natCast, Nat.one_mul]
  have read (channel : Nat) : valueAt inputs bytes 1 channel = Runtime.integerValue (.tensor multiplier)
      (bytes 1) channel := by
    rw [valueAt, there, Option.bind_some]
  have read' (channel : Nat) : valueAt inputs bytes 2 channel = Runtime.integerValue (.tensor amount)
      (bytes 2) channel := by
    rw [valueAt, there', Option.bind_some]
  rw [Runtime.checkOperator, Runtime.checkRescale]
  simp only [pure, Except.pure, bind, Except.bind, checkZeroPoint_supplied found, checkZeroPoint_supplied found',
    index, there, there', orPanic, elements, read, read', Option.getD_some]

theorem CtcGiven.rescale_verdicts : Verdicts .rescale fail
      (validateCtcInputs model .rescale operator attributes (serialize .rescale bytes inputs) constants target)
      (Runtime.checkOperator target.level.limits attributes inputs outputs (fun i => .ok (bytes i)) fail .rescale)
      (ZeroPointsGood .rescale attributes inputs bytes) (RescaleChannelsGood inputs bytes channels) := by
  have zero : ZeroPointsGood .rescale attributes inputs bytes ↔
      zeroPointGood inputs bytes 3 inputUnsigned = true ∧ zeroPointGood inputs bytes 4 outputUnsigned = true := by
    obtain ⟨scale32, mode, perChannel, rfl, _⟩ := rescale.attributes
    simp [ZeroPointsGood, zeroPointsOf]
  have amounts : RescaleChannelsGood inputs bytes channels ↔ ∀ channel < channels,
      (valueAt inputs bytes 1 channel).any (fun value => decide (0 ≤ value)) = true ∧
      (valueAt inputs bytes 2 channel).any (fun value => decide (2 ≤ value) && decide (value ≤ 62)) = true := by
    simp [RescaleChannelsGood, Option.any_eq_true]
  obtain ⟨multiplier, found, encoded⟩ := (given.tensors 1 (by decide)).resolve_left (by simp)
  obtain ⟨amount, found', encoded'⟩ := (given.tensors 2 (by decide)).resolve_left (by simp)
  have multipliers := @validateRescaleValues_serialize model target .rescale inputs bytes 1 channels multiplier
    (fun value => decide (0 ≤ value)) (by decide) found encoded
  have shifts := @validateRescaleValues_serialize model target .rescale inputs bytes 2 channels amount
    (fun value => decide (2 ≤ value) && decide (value ≤ 62)) (by decide) found' encoded'
  rw [given.rescale_static rescale, given.rescale_runtime rescale, zero]
  cases third : zeroPointGood inputs bytes 3 inputUnsigned with
  | false => exact ⟨by simp, fun _ => ⟨⟨3, rfl⟩, 3, rfl⟩, by simp⟩
  | true =>
    cases fourth : zeroPointGood inputs bytes 4 outputUnsigned with
    | false => exact ⟨by simp, fun _ => ⟨⟨3, rfl⟩, 4, rfl⟩, by simp⟩
    | true =>
      -- what is left on both sides are the channels
      have verdict :
          ((range channels).all fun channel => (valueAt inputs bytes 1 channel).any (fun value =>
            decide (0 ≤ value)) &&
            (valueAt inputs bytes 2 channel).any fun value => decide (2 ≤ value) && decide (value ≤ 62)) = true ↔
          RescaleChannelsGood inputs bytes channels := by
        rw [amounts, all_eq_true]
        simp only [mem_range, Bool.and_eq_true]
      refine ⟨fun _ good => ?_, fun ill => absurd ⟨rfl, rfl⟩ ill, fun _ bad => ⟨?_, ?_⟩⟩
      · have each := amounts.mp good
        rw [verdict.mpr good]
        refine ⟨?_, rfl⟩
        rcases multipliers with ⟨_, done⟩ | ⟨⟨channel, below, wrong⟩, _⟩
        · rcases shifts with ⟨_, done'⟩ | ⟨⟨channel, below, wrong⟩, _⟩
          · exact (congrArg (· >>= fun _ => _) done).trans done'
          · cases wrong.symm.trans (each channel below).2
        · cases wrong.symm.trans (each channel below).1
      · rcases multipliers with ⟨all, done⟩ | ⟨_, stopped⟩
        · rcases shifts with ⟨all', _⟩ | ⟨_, stopped'⟩
          · exact absurd (amounts.mpr fun channel below => ⟨all channel below, all' channel below⟩) bad
          · exact ⟨2, (congrArg (· >>= fun _ => _) done).trans stopped'⟩
        · exact ⟨1, congrArg (· >>= fun _ => _) stopped⟩
      · rw [Bool.eq_false_iff.mpr (fun all => bad (verdict.mp all))]
        rfl

end

end Rescale

/-- With well-encoded bytes, serialized on one side and supplied on the other, the two checks accept the same zero
points, shifts and multipliers, and each bad value is answered on both sides as its kind asks. -/
theorem scalar_checks_agree (given : CtcGiven target.level.limits op operator constants inputs outputs bytes) :
    let static := validateCtcInputs model op operator attributes (serialize op bytes inputs) constants target
    let runtime :=
      Runtime.checkOperator target.level.limits attributes inputs outputs (fun i => .ok (bytes i)) fail op
    (zeroPoints op ≠ [] → (static = .ok () ↔ runtime = .ok .valid) ∧
      Verdicts op fail static runtime (ZeroPointsGood op attributes inputs bytes) True) ∧
    (op = .mul → (static = .ok () ↔ runtime = .ok .valid) ∧
      Verdicts op fail static runtime (ZeroPointsGood op attributes inputs bytes) (MulShiftGood inputs bytes)) ∧
    ∀ channels inputUnsigned outputUnsigned, op = .rescale →
      RescaleGiven attributes inputs channels inputUnsigned outputUnsigned →
      (static = .ok () ↔ runtime = .ok .valid) ∧
      Verdicts op fail static runtime (ZeroPointsGood op attributes inputs bytes)
        (RescaleChannelsGood inputs bytes channels) := by
  refine ⟨fun some => ?_, ?_, ?_⟩
  · exact ⟨(given.zeroPoint_verdicts some).accepts_iff, given.zeroPoint_verdicts some⟩
  · rintro rfl
    exact ⟨given.mul_verdicts.accepts_iff, given.mul_verdicts⟩
  · rintro channels inputUnsigned outputUnsigned rfl rescale
    exact ⟨(given.rescale_verdicts rescale).accepts_iff, given.rescale_verdicts rescale⟩

/-- An operand of one dimension. -/
def operandOf (dtype : DType) (size : Int32) : Tensor :=
  { name := [], dtype := dtype, shape := some [size], isUnranked := false, data := [], isVariable := false,
    variableName := none, offset := 0, size := 0 }

def shiftTarget : Target := { version := .tosa10, profiles := .all, level := .unbounded, extensions := .dynamic }

/-- A multiplication whose shift is a constant. -/
def shiftOperator : Operator := { op := .mul, attributes := .other, inputs := [[1], [2], [3]], outputs := [[4]] }

def shiftInputs : List Symbol :=
  [.tensor (operandOf .int32 1), .tensor (operandOf .int32 1), .tensor (operandOf .int8 1)]

def channelAttributes : OpAttributes := .rescale true 0 true false false

/-- A rescale of two channels, with a multiplier and a shift for each. -/
def channelOperator : Operator :=
  { op := .rescale, attributes := channelAttributes, inputs := [[1], [2], [3], [4], [5]], outputs := [[6]] }

def channelInputs : List Symbol :=
  [.tensor (operandOf .int8 2), .tensor (operandOf .int32 2), .tensor (operandOf .int8 2),
    .tensor (operandOf .int8 1), .tensor (operandOf .int8 1)]

def channelBytes : Nat → Bytes
  | 1 => [7, 0, 0, 0, 255, 255, 255, 127]
  | 2 => [2, 62]
  | _ => [0]

/-- The shift of a multiplication passes, and so do the multipliers and the shifts of both channels of a rescale. -/
theorem scalar_checks_agree_constants :
    validateCtcInputs [] .mul shiftOperator .other (serialize .mul (fun _ => [5]) shiftInputs)
    [[3]] shiftTarget = .ok () ∧
    RescaleGiven channelAttributes channelInputs 2 false false ∧
    validateCtcInputs [] .rescale channelOperator channelAttributes (serialize .rescale channelBytes channelInputs)
      [[2], [3], [4], [5]] shiftTarget = .ok () := by
  have shift : CtcGiven shiftTarget.level.limits .mul shiftOperator [[3]] shiftInputs [] (fun _ => [5]) := by
    refine ⟨by decide, fun i member => .inr ?_, ⟨_, rfl⟩, fun _ value found => ?_, nofun⟩
    · obtain rfl : i = 2 := by simpa [ctcInputs] using member
      exact ⟨_, rfl, forall_mem_singleton.mpr (by decide), by decide⟩
    cases Symbol.tensor.inj (Option.some.inj found)
    rfl
  have given : CtcGiven shiftTarget.level.limits .rescale channelOperator [[2], [3], [4], [5]] channelInputs []
      channelBytes := by
    refine ⟨by decide, fun i member => .inr ?_, ⟨_, rfl⟩, nofun, nofun⟩
    obtain rfl | rfl | rfl | rfl : i = 1 ∨ i = 2 ∨ i = 3 ∨ i = 4 := by simpa [ctcInputs] using member
    all_goals exact ⟨_, rfl, forall_mem_singleton.mpr (by decide), by decide⟩
  have rescale : RescaleGiven channelAttributes channelInputs 2 false false := by
    refine ⟨⟨true, 0, true, rfl, operandOf .int8 2, 2, 0, rfl, rfl, rfl, rfl⟩, fun i member => ?_⟩
    obtain rfl | rfl : i = 1 ∨ i = 2 := by simpa using member
    all_goals exact ⟨_, 2, rfl, rfl, rfl, rfl⟩
  have agree := (@scalar_checks_agree [] shiftTarget .mul .other shiftOperator [[3]] _ _ _
    (fun _ => ⟨none, none, .missingValue⟩) shift).2.1 rfl
  have agree' := (@scalar_checks_agree [] shiftTarget .rescale channelAttributes channelOperator _ _ _ _
    (fun _ => ⟨none, none, .missingValue⟩) given).2.2 2 false false rfl rescale
  exact ⟨agree.1.mpr (by decide), rescale, agree'.1.mpr (by decide)⟩

end Agreement

end VirtioAccel.Tosa
