import VirtioAccel.Conformance.CleanRoomFacts

/-! What the clean-room encoders write. Each body is filled with zeros first, and
its fields are then written from left to right, so what is behind the last field
is still zero. -/

namespace VirtioAccel.CleanRoom
open Checked List Codec
variable {output value : List UInt8} {offset n len : Nat}
variable {values : List Binding} {body : RequestBody} {β : Type} {next : List UInt8 → Except Error β}

/-- A write into the zeros, `gap` bytes behind what stands there. -/
theorem writeSlice_zeros (before : List UInt8) (gap m : Nat) (place : before.length + gap = offset)
    (room : gap + value.length + m = n) :
    writeSlice (before ++ replicate n 0) offset value =
      .ok ((before ++ replicate gap 0 ++ value) ++ replicate m 0) := by
  have zeros : (replicate n 0 : List UInt8) =
      replicate gap 0 ++ (replicate value.length 0 ++ replicate m 0) := by
    rw [replicate_append_replicate, replicate_append_replicate, ← room, Nat.add_assoc]
  have reached : (before ++ replicate gap 0 : List UInt8).length = offset := by
    rw [length_append, length_replicate, place]
  rw [writeSlice, if_neg, zeros, ← append_assoc, overwrite, take_left' reached, ← append_assoc, drop_left']
  · rw [length_append, reached, length_replicate]
  rw [length_append, length_replicate]
  omega

theorem writeSlice_then (before : List UInt8) (gap m : Nat) (place : before.length + gap = offset)
    (room : gap + value.length + m = n) :
    (writeSlice (before ++ replicate n 0) offset value >>= next) =
      next ((before ++ replicate gap 0 ++ value) ++ replicate m 0) := by
  rw [writeSlice_zeros before gap m place room]
  rfl

theorem fillZero_eq (length : output.length = n) : fillZero output = [] ++ replicate n 0 := by
  rw [fillZero, length]
  rfl

theorem encodeTransfer_zeros (transfer : TransferBuffer) (m : Nat) :
    encodeTransfer transfer ([] ++ replicate (24 + m) 0) =
      .ok (TransferBufferRequest.codec.encode ⟨transfer.bufferId, transfer.offset, transfer.bytes⟩ ++
        replicate m 0) := by
  simp only [encodeTransfer, writeU64]
  rw [writeSlice_then [] 0 (16 + m), writeSlice_then _ 0 (8 + m), writeSlice_zeros _ 0 m]
  · simp [TransferBufferRequest.codec, seq, iso]
  all_goals simp <;> omega

theorem encodeObject_zeros (object : UInt64) (m : Nat) :
    writeU64 ([] ++ replicate (8 + m) 0) 0 object =
      .ok (ObjectPayload.codec.encode ⟨object⟩ ++ replicate m 0) := by
  rw [writeU64, writeSlice_zeros [] 0 m (by simp) (by simp)]
  simp [ObjectPayload.codec, iso]

theorem encodeBinding_zeros (binding : Binding) (before : List UInt8) (place : before.length = offset) (m : Nat) :
    encodeBinding binding (before ++ replicate (32 + m) 0) offset =
      .ok (before ++ WireBinding.codec.encode binding.wire ++ replicate m 0) := by
  simp only [encodeBinding, writeU64, writeU32]
  have access : u8.encode binding.access = [binding.access] := by simp [u8, leBytes]
  have padding : (u8.array 3).encode (Vector.replicate 3 0) = replicate 3 0 := by decide
  rw [writeSlice_then _ 0 (24 + m), writeSlice_then _ 0 (16 + m), writeSlice_then _ 0 (8 + m),
    writeSlice_then _ 0 (4 + m), writeSlice_zeros _ 0 (3 + m)]
  · simp only [replicate_zero, append_nil, replicate_add]
    simp [WireBinding.codec, seq, iso, Binding.wire, access, padding]
  all_goals
    simp
    omega

theorem set_zeros (before : List UInt8) {index : Nat} (place : before.length = index) (value : UInt8) (m : Nat) :
    (before ++ replicate (1 + m) 0).set index value = (before ++ [value]) ++ replicate m 0 := by
  rw [set_append_right _ _ (by omega), Nat.sub_eq_zero_of_le (by omega), Nat.add_comm, replicate_succ,
    set_cons_zero, append_assoc]
  rfl

theorem encodeAllocate_zeros (request : AllocateBuffer) (length : output.length = 40) :
    encodeRequestBody (.allocateBuffer request) output =
      .ok (AllocateBufferRequest.codec.encode ⟨request.contextId, request.bytes, request.alignment,
        request.memoryDomain,
        Vector.replicate 7 0, request.usage, 0⟩) := by
  simp only [encodeRequestBody, writeU64, writeU32, fillZero_eq length]
  have domain : u8.encode request.memoryDomain = [request.memoryDomain] := by simp [u8, leBytes]
  have padding : (u8.array 7).encode (Vector.replicate 7 0) = replicate 7 0 := by decide
  have reserved : u32.encode 0 = replicate 4 0 := by decide
  rw [writeSlice_then [] 0 32, writeSlice_then _ 0 24, writeSlice_then _ 0 16,
    set_zeros _ (by simp) request.memoryDomain 15, writeSlice_zeros _ 7 4]
  · simp [AllocateBufferRequest.codec, seq, iso, domain, padding, reserved]
  all_goals simp

/-- The words of the target, one after the other. -/
theorem encodeWords_zeros (words : List UInt32) (before : List UInt8) (start : Nat)
    (place : before.length = 16 + start * 4) (m : Nat) :
    (words.zipIdx start).foldlM (fun output entry => writeU32 output (16 + entry.2 * 4) entry.1)
        (before ++ replicate (words.length * 4 + m) 0) =
      .ok (before ++ words.flatMap u32.encode ++ replicate m 0) := by
  induction words generalizing before start with
  | nil => simp [pure, Except.pure]
  | cons word rest ih =>
    simp only [zipIdx_cons, foldlM_cons, writeU32]
    rw [writeSlice_then before 0 (rest.length * 4 + m) (by simpa using place) (by simp; omega)]
    simp only [replicate_zero, append_nil]
    have next := ih (before ++ u32.encode word) (start + 1)
      (by rw [length_append, encode_length, u32_size, place]; omega)
    simp only [writeU32] at next
    rw [next, flatMap_cons]
    simp only [append_assoc]

theorem encodeLoadProgram_zeros (request : LoadProgram) (length : output.length = 80 + request.artifact.length) :
    encodeRequestBody (.loadProgram request) output =
      .ok (LoadProgramRequest.codec.encode ⟨request.contextId, request.format, 0, request.target,
        UInt64.ofNat request.artifact.length, request.residentBytes⟩ ++ request.artifact) := by
  have words := fun before place => encodeWords_zeros request.target.toList before 0 place
    (16 + request.artifact.length)
  rw [Vector.length_toList] at words
  have reserved : u32.encode 0 = replicate 4 0 := by decide
  simp only [encodeRequestBody, writeU64, fillZero_eq length]
  rw [writeSlice_then [] 0 (72 + request.artifact.length), writeU32,
    writeSlice_then _ 0 (68 + request.artifact.length),
    show 68 + request.artifact.length = 4 + (12 * 4 + (16 + request.artifact.length)) by omega, replicate_add,
    ← append_assoc, words _ (by simp)]
  change (writeSlice _ _ _ >>= _) = _
  rw [writeSlice_then _ 0 (8 + request.artifact.length), writeSlice_then _ 0 request.artifact.length,
    writeSlice_zeros _ 0 0]
  · simp [LoadProgramRequest.codec, seq, iso, array, reserved]
  all_goals simp <;> omega

/-- The loop over the bindings, up to any of them. -/
theorem encodeBindings_zeros {bindings : Bindings}
    (each : ∀ (i : Nat) (inside : i < values.length), bindings.get (UInt32.ofNat i) = .ok values[i])
    {before : List UInt8} (place : before.length = 32) (within : n ≤ values.length) :
    (range n).foldlM (fun output index => do
        let binding ← bindings.get (UInt32.ofNat index)
        encodeBinding binding output (32 + index * 32)) (before ++ replicate (values.length * 32) 0) =
      .ok (before ++ ((values.take n).map Binding.wire).flatMap WireBinding.codec.encode ++
        replicate ((values.length - n) * 32) 0) := by
  induction n with
  | zero => simp [pure, Except.pure]
  | succ n ih =>
    have inside : n < values.length := within
    have here : (before ++ ((values.take n).map Binding.wire).flatMap WireBinding.codec.encode).length =
        32 + n * 32 := by
      rw [length_append, flatMap_length, length_map, length_take, Nat.min_eq_left (by omega), place,
        WireBinding.codec_size]
    have room : (values.length - n) * 32 = 32 + (values.length - (n + 1)) * 32 := by omega
    rw [range_succ, foldlM_append, ih (by omega), room]
    change (do
      let binding ← bindings.get (UInt32.ofNat n)
      encodeBinding binding _ (32 + n * 32)) >>= pure = _
    rw [bind_pure, each n inside]
    change encodeBinding values[n] _ _ = _
    rw [encodeBinding_zeros _ _ here, take_succ_eq_append_getElem inside]
    simp only [map_append, flatMap_append, map_cons, map_nil, flatMap_cons, flatMap_nil, append_nil, append_assoc]

theorem encodeSubmit_zeros (request : Submit) (listed : request.bindings.list = .ok values)
    (length : output.length = 32 + values.length * 32) :
    encodeRequestBody (.submit request) output =
      .ok (SubmitRequest.codec.encode ⟨request.queueId, request.programId, UInt32.ofNat values.length, 0,
        request.timeoutNs⟩ ++
        (values.map Binding.wire).flatMap WireBinding.codec.encode) := by
  obtain ⟨counted, small, each⟩ := Bindings.list_eq_ok listed
  have count : (UInt32.ofNat values.length).toNat = values.length := by rw [UInt32.toNat_ofNat_of_lt' small]
  have reserved : u32.encode 0 = replicate 4 0 := by decide
  simp only [encodeRequestBody, writeU64, fillZero_eq length]
  rw [writeSlice_then [] 0 (24 + values.length * 32), writeSlice_then _ 0 (16 + values.length * 32), counted]
  change (writeU32 _ _ _ >>= _) = _
  rw [writeU32, writeSlice_then _ 0 (12 + values.length * 32), writeSlice_then _ 4 (values.length * 32), count,
    encodeBindings_zeros each (by simp) (Nat.le_refl _), take_length, Nat.sub_self, Nat.zero_mul]
  · simp [SubmitRequest.codec, seq, iso, reserved]
  all_goals simp <;> omega

/-- The computed length is that of the payload. -/
theorem requestPayloadLen_payload (computed : requestPayloadLen body = .ok len) : body.payload.length = len := by
  cases body with
  | getDeviceInfo | createContext =>
    cases computed
    rfl
  | allocateBuffer | readBuffer | createQueue =>
    simp only [requestPayloadLen, bind_eq_ok, pure_eq_ok] at computed
    obtain ⟨_, _, rfl⟩ := computed
    exact encode_length _ _
  | writeBuffer transfer data =>
    simp only [requestPayloadLen, bind_eq_ok, pure_eq_ok, refuseIf_eq_ok, not_not] at computed
    obtain ⟨_, _, _, same, rfl⟩ := computed
    rw [RequestBody.payload, length_append, encode_length, same]
    rfl
  | loadProgram request =>
    simp only [requestPayloadLen, bind_eq_ok, pure_eq_ok] at computed
    obtain ⟨_, _, rfl⟩ := computed
    rw [RequestBody.payload, length_append, encode_length]
    rfl
  | submit request =>
    simp only [requestPayloadLen, bind_eq_ok, validateBindings_eq_ok] at computed
    obtain ⟨_, _, _, values, listed, _, _, _, _, rfl⟩ := computed
    rw [RequestBody.payload, listed]
    simp only [length_append, encode_length, flatMap_length, length_map, SubmitRequest.codec_size,
      WireBinding.codec_size]
  | destroyContext object | freeBuffer object | unloadProgram object | destroyQueue object | pollEvent object
  | cancelEvent object | destroyEvent object =>
    obtain ⟨_, rfl⟩ := objectLen_eq_ok.mp computed
    exact encode_length _ _

/-- The encoder writes the payload. -/
theorem encodeRequestBody_eq (computed : requestPayloadLen body = .ok len) (length : output.length = len) :
    encodeRequestBody body output = .ok body.payload := by
  have payload := requestPayloadLen_payload computed
  cases body with
  | getDeviceInfo =>
    cases computed
    rw [encodeRequestBody, fillZero, length]
    rfl
  | createContext =>
    cases computed
    rw [encodeRequestBody, fillZero, length]
    decide
  | allocateBuffer request =>
    have exactly : output.length = 40 := by rw [length, ← payload]; exact encode_length _ _
    exact encodeAllocate_zeros request exactly
  | writeBuffer transfer data =>
    rw [RequestBody.payload, length_append, encode_length, TransferBufferRequest.codec_size] at payload
    rw [encodeRequestBody, fillZero_eq (length.trans payload.symm), encodeTransfer_zeros]
    change writeSlice _ _ _ = _
    rw [writeSlice_zeros _ 0 0 (by simp) (by simp)]
    simp [RequestBody.payload]
  | readBuffer transfer =>
    have exactly : output.length = 24 + 0 := by rw [length, ← payload]; exact encode_length _ _
    rw [encodeRequestBody, fillZero_eq exactly, encodeTransfer_zeros, replicate_zero, append_nil]
    rfl
  | loadProgram request =>
    rw [RequestBody.payload, length_append, encode_length, LoadProgramRequest.codec_size] at payload
    exact encodeLoadProgram_zeros request (length.trans payload.symm)
  | createQueue contextId =>
    have exactly : output.length = 8 + 8 := by rw [length, ← payload]; exact encode_length _ _
    have reserved : u32.encode 0 = replicate 4 0 := by decide
    rw [encodeRequestBody, fillZero_eq exactly, encodeObject_zeros]
    simp [RequestBody.payload, CreateQueueRequest.codec, ObjectPayload.codec, seq, iso, reserved]
  | submit request =>
    have shape := computed
    simp only [requestPayloadLen, bind_eq_ok, validateBindings_eq_ok] at shape
    obtain ⟨_, _, _, values, listed, _, _, _, _, total⟩ := shape
    rw [encodeSubmit_zeros request listed (length.trans total.symm), RequestBody.payload, listed]
  | destroyContext object | freeBuffer object | unloadProgram object | destroyQueue object | pollEvent object
  | cancelEvent object | destroyEvent object =>
    have exactly : output.length = 8 + 0 := by rw [length, ← payload]; exact encode_length _ _
    rw [encodeRequestBody, fillZero_eq exactly, encodeObject_zeros, replicate_zero, append_nil]
    rfl

/-- A write right behind those made from the start of the output. -/
theorem writeSlice_next {done : List UInt8} (place : done.length = offset)
    (room : offset + value.length ≤ output.length) :
    (writeSlice (output.overwrite 0 done) offset value >>= next) = next (output.overwrite 0 (done ++ value)) := by
  have length : (output.overwrite 0 done).length = output.length := length_overwrite (by omega)
  have joined : (output.overwrite 0 done).overwrite (0 + done.length) value = output.overwrite 0 (done ++ value) :=
    overwrite_overwrite (by omega)
  rw [Nat.zero_add, place] at joined
  rw [writeSlice, if_neg (by omega), joined]
  rfl

/-- The four writes of a header, and the encoder of the body behind it. -/
theorem writeHeader_eq {payload : List UInt8} (first second : UInt16) (third : UInt32) (fourth : UInt64)
    {encode : List UInt8 → Except Error (List UInt8)} (room : 16 + len ≤ output.length)
    (encoded : ∀ output : List UInt8, output.length = len → encode output = .ok payload) :
    (do
      let output ← writeU16 output 0 first
      let output ← writeU16 output 2 second
      let output ← writeU32 output 4 third
      let output ← writeU64 output 8 fourth
      let output ← within output 16 (16 + len) encode
      return (16 + len, output)) =
    .ok (16 + len, u16.encode first ++ (u16.encode second ++ (u32.encode third ++ u64.encode fourth)) ++
      payload ++ output.drop (16 + len)) := by
  have shape : [] ++ u16.encode first ++ u16.encode second ++ u32.encode third ++ u64.encode fourth =
      u16.encode first ++ (u16.encode second ++ (u32.encode third ++ u64.encode fourth)) := by simp
  have size : (u16.encode first ++ (u16.encode second ++ (u32.encode third ++ u64.encode fourth))).length =
      16 := by simp
  simp only [writeU16, writeU32, writeU64]
  nth_rewrite 1 [← overwrite_nil output 0]
  iterate 4 rw [writeSlice_next (by simp) (by simp; omega)]
  rw [shape, overwrite_zero, size]
  generalize u16.encode first ++ (u16.encode second ++ (u32.encode third ++ u64.encode fourth)) = header
    at size ⊢
  rw [within, drop_left' size, Nat.add_sub_cancel_left,
    encoded _ (by rw [length_take, length_drop]; omega), take_left' size, drop_append, size,
    drop_of_length_le (by omega), Nat.add_sub_cancel_left, nil_append, drop_drop]
  rfl

/-- What `Request::encode` takes, and what it leaves in the output. -/
theorem Request.encode_eq_ok {request : Request} {written : List UInt8} {total : Nat} :
    request.encode output = .ok (total, written) ↔ request.requestId ≠ 0 ∧
      requestPayloadLen request.body = .ok request.body.payload.length ∧ total = request.frame.length ∧
      total ≤ 16777216 ∧
      total ≤ output.length ∧ written = request.frame ++ output.drop total := by
  have writes {len : Nat} (computed : requestPayloadLen request.body = .ok len) (room : 16 + len ≤ output.length) :=
    writeHeader_eq request.body.opcode.toU16 0 (UInt32.ofNat len) request.requestId room
      (fun output length => encodeRequestBody_eq computed length)
  rw [request.frame_length]
  simp only [Request.encode]
  constructor
  · intro encodes
    obtain ⟨_, named, encodes⟩ := bind_eq_ok.mp encodes
    obtain ⟨len, computed, encodes⟩ := bind_eq_ok.mp encodes
    obtain ⟨_, _, encodes⟩ := bind_eq_ok.mp encodes
    obtain ⟨_, few, encodes⟩ := bind_eq_ok.mp encodes
    obtain ⟨_, room, encodes⟩ := bind_eq_ok.mp encodes
    rw [requireOutput, refuseIf_eq_ok, Nat.not_lt] at room
    cases (writes computed room).symm.trans encodes
    obtain rfl := requestPayloadLen_payload computed
    exact ⟨refuseIf_eq_ok.mp named, computed, rfl, Nat.not_lt.mp (refuseIf_eq_ok.mp few), room, rfl⟩
  · rintro ⟨named, computed, rfl, few, room, rfl⟩
    have small : ¬ 2 ^ 32 ≤ request.body.payload.length := by omega
    exact bind_eq_ok.mpr ⟨(), refuseIf_eq_ok.mpr named,
      bind_eq_ok.mpr ⟨_, computed, bind_eq_ok.mpr ⟨(), refuseIf_eq_ok.mpr small,
      bind_eq_ok.mpr ⟨(), refuseIf_eq_ok.mpr (Nat.not_lt.mpr few),
        bind_eq_ok.mpr ⟨(), refuseIf_eq_ok.mpr (Nat.not_lt.mpr room), writes computed room⟩⟩⟩⟩⟩

end VirtioAccel.CleanRoom
