import VirtioAccel.Conformance.CleanRoomEncoding

/-! Responses: which bodies answer which command, and that a body has one payload. -/

namespace VirtioAccel.CleanRoom
open Checked List Codec
variable {context : ResponseContext} {output : List UInt8} {response : Response}

/-- The body of a success, which the command decides. -/
def Opcode.Answers (readBytes : Option Nat) : Opcode → ResponseBody → Prop
  | .getDeviceInfo, .deviceInfo info => info.validate = .ok ()
  | .createContext, .object id | .allocateBuffer, .object id | .loadProgram, .object id | .createQueue,
    .object id => id ≠ 0
  | .destroyContext, .empty | .freeBuffer, .empty | .writeBuffer, .empty | .unloadProgram, .empty | .destroyQueue,
    .empty
  | .cancelEvent, .empty | .destroyEvent, .empty => True
  | .readBuffer, .data bytes => readBytes = some bytes.length
  | .submit, .eventId id => id ≠ 0
  | .pollEvent, .eventState state => state.validate = .ok ()
  | _, _ => False

/-- The bodies that a response with this status may have. -/
inductive Answer (context : ResponseContext) : UInt16 → ResponseBody → Prop where
  | failed {status} (bad : status ≠ 0) : Answer context status .empty
  | indeterminate {status eventId} (bad : status ≠ 0) (submit : context.opcode = some .submit)
      (named : eventId ≠ 0) :
    Answer context status (.eventId eventId)
  | success {opcode body} (known : context.opcode = some opcode) (answers : opcode.Answers context.readBytes body) :
    Answer context 0 body

def DeviceInfo.wire (self : DeviceInfo) : WireDeviceInfo where
  uuid := self.uuid
  acceleratorClass := self.acceleratorClass
  reserved := 0
  vendorId := self.vendorId
  deviceId := self.deviceId
  capabilities := self.capabilities
  maxContexts := self.maxContexts
  maxBuffersPerContext := self.maxBuffersPerContext
  maxProgramsPerContext := self.maxProgramsPerContext
  maxQueuesPerContext := self.maxQueuesPerContext
  maxEventsPerContext := self.maxEventsPerContext
  maxBindingsPerSubmission := self.maxBindingsPerSubmission
  maxBufferBytes := self.maxBufferBytes
  maxArtifactBytes := self.maxArtifactBytes

def ResponseBody.payload : ResponseBody → List UInt8
  | empty => []
  | deviceInfo info => WireDeviceInfo.codec.encode info.wire
  | object id | eventId id => ObjectPayload.codec.encode ⟨id⟩
  | data bytes => bytes
  | eventState state => WireEventState.codec.encode ⟨state.kind.toU16, state.error, 0⟩

/-- The one frame of a response. -/
def Response.frame (self : Response) : List UInt8 :=
  ResponseHeader.codec.encode ⟨self.status, 0, UInt32.ofNat self.body.payload.length, self.requestId⟩ ++
    self.body.payload

theorem Response.frame_length (response : Response) :
    response.frame.length = 16 + response.body.payload.length := by
  rw [frame, length_append, ResponseHeader.codec.encode_length, ResponseHeader.codec_size]

/-! Decoding -/

section Decoding
variable {payload : List UInt8}
variable {status : UInt16}

theorem EventKind.tryFrom_eq_ok {raw : UInt16} {kind : EventKind} : EventKind.tryFrom raw = .ok kind ↔
    raw = kind.toU16 := by
  constructor
  · intro found
    unfold EventKind.tryFrom at found
    split at found <;> cases found <;> rfl
  · rintro rfl
    cases kind <;> rfl

theorem decodeEventState_payload {state : EventState} :
    decodeEventState payload = .ok state ↔
      state.validate = .ok () ∧ payload = WireEventState.codec.encode ⟨state.kind.toU16, state.error, 0⟩ := by
  rw [← WireEventState.canonical.field_iff, WireEventState.field_eq, WireEventState.codec_size,
    WireEventState.mk.injEq]
  simp only [decodeEventState, bind_eq_ok, pure_eq_ok, refuseIf_eq_ok, not_not, requireExact_eq_ok,
    readU16_eq_ok, readU32_eq_ok, EventKind.tryFrom_eq_ok]
  constructor
  · rintro ⟨_, length, _, ⟨_, rfl⟩, _, reserved, _, ⟨_, rfl⟩, kind, same, _, ⟨_, rfl⟩, _, valid, rfl⟩
    exact ⟨valid, length, same, rfl, reserved⟩
  rintro ⟨valid, length, kind, error, reserved⟩
  refine ⟨(), length, _, ⟨by omega, rfl⟩, (), reserved, _, ⟨by omega, rfl⟩, state.kind, kind, _,
    ⟨by omega, rfl⟩, ?_⟩
  rw [show u16.field payload 2 = state.error from error]
  exact ⟨(), valid, rfl⟩

theorem decodeDeviceInfo_payload {info : DeviceInfo} :
    decodeDeviceInfo payload = .ok info ↔ info.validate = .ok () ∧
    payload = WireDeviceInfo.codec.encode info.wire := by
  rw [← WireDeviceInfo.canonical.field_iff, WireDeviceInfo.field_eq, WireDeviceInfo.codec_size]
  have uuid (length : payload.length = 76) :
      Vector.ofFn (fun index : Fin 16 => byteAt payload index) = (u8.array 16).field payload 0 := by
    refine Vector.ext (fun i bound => ?_)
    simp only [field_array, Vector.getElem_ofFn, u8_size, Nat.mul_one, Nat.zero_add]
    exact byteAt_eq (by omega)
  simp only [decodeDeviceInfo, bind_eq_ok, pure_eq_ok, refuseIf_eq_ok, not_not, requireExact_eq_ok,
    readU16_eq_ok, readU32_eq_ok, readU64_eq_ok]
  simp only [DeviceInfo.encodedBytes]
  constructor
  · rintro ⟨_, length, _, ⟨_, rfl⟩, _, reserved, _, ⟨_, rfl⟩, _, ⟨_, rfl⟩, _, ⟨_, rfl⟩, _, ⟨_, rfl⟩, _, ⟨_, rfl⟩, _,
      ⟨_, rfl⟩, _, ⟨_, rfl⟩, _, ⟨_, rfl⟩, _, ⟨_, rfl⟩, _, ⟨_, rfl⟩, _, ⟨_, rfl⟩, _, ⟨_, rfl⟩, _, valid, rfl⟩
    refine ⟨valid, length, ?_⟩
    simp only [DeviceInfo.wire, uuid length, reserved]
  rintro ⟨valid, length, fields⟩
  simp only [DeviceInfo.wire, WireDeviceInfo.mk.injEq] at fields
  obtain ⟨identity, acceleratorClass, reserved, vendorId, deviceId, capabilities, maxContexts, maxBuffers,
    maxPrograms, maxQueues, maxEvents, maxBindings, maxBufferBytes, maxArtifactBytes⟩ := fields
  refine ⟨(), length, _, ⟨by omega, rfl⟩, (), reserved, _, ⟨by omega, acceleratorClass⟩, _, ⟨by omega, vendorId⟩, _,
    ⟨by omega, deviceId⟩, _, ⟨by omega, capabilities⟩, _, ⟨by omega, maxContexts⟩, _, ⟨by omega, maxBuffers⟩, _,
    ⟨by omega, maxPrograms⟩, _, ⟨by omega, maxQueues⟩, _, ⟨by omega, maxEvents⟩, _, ⟨by omega, maxBindings⟩, _,
    ⟨by omega, maxBufferBytes⟩, _, ⟨by omega, maxArtifactBytes⟩, ?_⟩
  rw [uuid length, identity]
  exact ⟨(), valid, rfl⟩

variable {body : ResponseBody}

variable {opcode : Opcode}

theorem decodeSuccess_eq_ok :
    decodeSuccess opcode payload context = .ok body ↔ opcode.Answers context.readBytes body ∧
    payload = body.payload := by
  cases opcode with
  | getDeviceInfo =>
    simp only [decodeSuccess, bind_eq_ok, pure_eq_ok, decodeDeviceInfo_payload]
    cases body <;> simp [ResponseBody.payload, Opcode.Answers.eq_def]
  | createContext | allocateBuffer | loadProgram | createQueue | submit =>
    simp only [decodeSuccess, bind_eq_ok, pure_eq_ok, decodeObject_eq_ok]
    cases body <;> simp [ResponseBody.payload, Opcode.Answers.eq_def]
  | destroyContext | freeBuffer | writeBuffer | unloadProgram | destroyQueue | cancelEvent | destroyEvent =>
    simp only [decodeSuccess, bind_eq_ok, pure_eq_ok, requireExact_eq_ok, length_eq_zero_iff]
    cases body <;> simp [ResponseBody.payload, Opcode.Answers.eq_def]
  | readBuffer =>
    simp only [decodeSuccess, bind_eq_ok, pure_eq_ok, requireExact_eq_ok]
    cases body with
    | data data =>
      cases expected : context.readBytes with
      | none => simp [Opcode.Answers.eq_def]
      | some length =>
        simp only [Option.elim_some, Except.ok.injEq, ResponseBody.data.injEq, ResponseBody.payload,
          Opcode.Answers.eq_def, Option.some.injEq]
        constructor
        · rintro ⟨_, rfl, _, same, rfl⟩
          exact ⟨same.symm, rfl⟩
        rintro ⟨same, rfl⟩
        exact ⟨length, rfl, (), same.symm, rfl⟩
    | _ => simp [Opcode.Answers.eq_def]
  | pollEvent =>
    simp only [decodeSuccess, bind_eq_ok, pure_eq_ok, decodeEventState_payload]
    cases body <;> simp [ResponseBody.payload, Opcode.Answers.eq_def]

/-- A failure has no body, or the event of an indeterminate submission. -/
theorem Answer.failure (bad : status ≠ 0) :
    Answer context status body ↔
      body = .empty ∨ ∃ eventId, context.opcode = some .submit ∧ eventId ≠ 0 ∧ body = .eventId eventId := by
  constructor
  · intro answer
    cases answer with
    | failed => exact .inl rfl
    | indeterminate _ submit named => exact .inr ⟨_, submit, named, rfl⟩
    | success => exact absurd rfl bad
  · rintro (rfl | ⟨eventId, submit, named, rfl⟩)
    · exact .failed bad
    · exact .indeterminate bad submit named

theorem Answer.of_success :
    Answer context 0 body ↔ ∃ opcode, context.opcode = some opcode ∧ opcode.Answers context.readBytes body := by
  constructor
  · intro answer
    cases answer with
    | failed bad | indeterminate bad => exact absurd rfl bad
    | success known answers => exact ⟨_, known, answers⟩
  · rintro ⟨opcode, known, answers⟩
    exact .success known answers

theorem Answer.of_known (known : context.opcode = some opcode) :
    Answer context 0 body ↔ opcode.Answers context.readBytes body := by
  simp [Answer.of_success, known]

/-- A body is decoded from its own payload, and from no other. -/
theorem decodeResponseBody_eq_ok :
    decodeResponseBody status payload context = .ok body ↔ Answer context status body ∧ payload = body.payload := by
  have event (id : UInt64) : (ObjectPayload.codec.encode ⟨id⟩).length = 8 := ObjectPayload.codec.encode_length _
  unfold decodeResponseBody
  by_cases bad : status ≠ 0
  · rw [if_pos bad, Answer.failure bad]
    by_cases owns : context.opcode = some .submit ∧ payload.length = 8
    · rw [if_pos owns]
      simp only [bind_eq_ok, pure_eq_ok, decodeObject_eq_ok]
      constructor
      · rintro ⟨raw, ⟨named, payload⟩, rfl⟩
        exact ⟨.inr ⟨raw, owns.1, named, rfl⟩, payload⟩
      rintro ⟨rfl | ⟨eventId, _, named, rfl⟩, payload⟩
      · rw [payload] at owns
        exact absurd owns.2 (by decide)
      · exact ⟨eventId, ⟨named, payload⟩, rfl⟩
    · rw [if_neg owns]
      simp only [bind_eq_ok, pure_eq_ok, requireExact_eq_ok, length_eq_zero_iff]
      constructor
      · rintro ⟨_, empty, rfl⟩
        exact ⟨.inl rfl, empty⟩
      rintro ⟨rfl | ⟨eventId, submit, _, rfl⟩, payload⟩
      · exact ⟨(), payload, rfl⟩
      rw [payload] at owns
      exact absurd ⟨submit, event eventId⟩ owns
  · rw [not_not] at bad
    subst bad
    rw [Answer.of_success]
    cases known : context.opcode with
    | none => simp
    | some opcode =>
      simp [decodeSuccess_eq_ok]

/-- The length that encoder and decoder compute. -/
theorem responsePayloadLen_eq_ok {len : Nat} :
    responsePayloadLen response context = .ok len ↔ response.requestId ≠ 0 ∧
    response.requestId = context.requestId ∧
      Answer context response.status response.body ∧ response.body.payload.length = len := by
  obtain ⟨status, requestId, body⟩ := response
  have object (id : UInt64) : objectLen id = .ok len ↔ id ≠ 0 ∧ (ObjectPayload.codec.encode ⟨id⟩).length = len := by
    rw [objectLen_eq_ok, ObjectPayload.codec.encode_length, ObjectPayload.codec_size, eq_comm (a := len)]
  unfold responsePayloadLen
  rw [refuseIf_bind_eq_ok, not_or, not_not, and_assoc]
  refine and_congr_right (fun _ => and_congr_right (fun _ => ?_))
  by_cases bad : status ≠ 0
  · rw [if_pos bad, Answer.failure bad]
    split
    · rename_i eventId submit same
      obtain rfl : body = .eventId eventId := same
      simp [object, submit, ResponseBody.payload]
    · rename_i same
      obtain rfl : body = .empty := same
      simp [ResponseBody.payload]
    · rename_i some owns
      simp only [reduceCtorEq, false_iff]
      rintro ⟨rfl | ⟨eventId, submit, _, rfl⟩, _⟩
      · exact (some rfl).elim
      · exact (owns eventId submit rfl).elim
  · rw [if_neg bad]
    rw [not_not] at bad
    subst bad
    cases known : context.opcode with
    | none => simp [Answer.of_success, known]
    | some opcode =>
      rw [Answer.of_known known]
      cases opcode with
      | getDeviceInfo =>
        cases body with
        | deviceInfo info =>
          simp only [bind_eq_ok, pure_eq_ok, Opcode.Answers.eq_def, ResponseBody.payload,
            WireDeviceInfo.codec.encode_length]
          exact ⟨fun done => done.elim (fun _ both => both), fun both => ⟨(), both⟩⟩
        | _ => simp [Opcode.Answers.eq_def]
      | createContext | allocateBuffer | loadProgram | createQueue =>
        cases body with
        | object id => exact object id
        | _ => simp [Opcode.Answers.eq_def]
      | destroyContext | freeBuffer | writeBuffer | unloadProgram | destroyQueue | cancelEvent | destroyEvent =>
        cases body with
        | empty => simp [Opcode.Answers.eq_def, ResponseBody.payload]
        | _ => simp [Opcode.Answers.eq_def]
      | readBuffer =>
        cases body with
        | data bytes =>
          simp only [bind_eq_ok, pure_eq_ok, refuseIf_eq_ok, not_not, Opcode.Answers.eq_def,
            ResponseBody.payload, exists_const]
          rw [eq_comm (a := some bytes.length)]
        | _ => simp [Opcode.Answers.eq_def]
      | submit =>
        cases body with
        | eventId id => exact object id
        | _ => simp [Opcode.Answers.eq_def]
      | pollEvent =>
        cases body with
        | eventState state =>
          simp only [bind_eq_ok, pure_eq_ok]
          exact ⟨fun done => done.elim (fun _ both => both), fun both => ⟨(), both⟩⟩
        | _ => simp [Opcode.Answers.eq_def]

/-- What is decoded from a frame is what it is the frame of. -/
theorem decodeResponse_eq_ok {bytes : List UInt8} :
    decodeResponse bytes context = .ok response ↔ response.requestId ≠ 0 ∧ response.requestId = context.requestId ∧
      Answer context response.status response.body ∧ bytes.length ≤ 16777216 ∧ bytes = response.frame := by
  have most : hardMaxResponseBytes = 16777216 := rfl
  simp only [decodeResponse, bind_eq_ok, refuseIf_eq_ok, pure_eq_ok, not_not, not_or, readU16_eq_ok,
    readU32_eq_ok, readU64_eq_ok, decodeResponseBody_eq_ok, responsePayloadLen_eq_ok, most, Nat.not_lt]
  simp only [responseHeaderBytes]
  constructor
  · rintro ⟨_, enough, _, ⟨_, rfl⟩, _, ⟨_, rfl⟩, _, flags, _, ⟨_, rfl⟩, _, total, _, few, _, ⟨_, rfl⟩, _,
      ⟨named, some⟩, body, ⟨answer, payload⟩, _, ⟨_, _, _, rfl⟩, _, length, rfl⟩
    refine ⟨some, named, answer, by omega, ResponseHeader.canonical.append_iff.mp ⟨enough, ?_, payload⟩⟩
    rw [ResponseHeader.field_eq, flags, length, UInt32.ofNat_toNat]
  rintro ⟨some, named, answer, few, same⟩
  have size := response.frame_length
  obtain ⟨enough, header, rest⟩ := ResponseHeader.canonical.append_iff.mpr same
  rw [ResponseHeader.field_eq, ResponseHeader.mk.injEq] at header
  obtain ⟨status, flags, payloadBytes, requestId⟩ := header
  rw [← same] at size
  rw [ResponseHeader.codec_size] at enough rest
  have counted : (UInt32.ofNat response.body.payload.length).toNat = response.body.payload.length := by
    rw [UInt32.toNat_ofNat', Nat.mod_eq_of_lt (by omega)]
  exact ⟨(), enough, _, ⟨by omega, status⟩, _, ⟨by omega, flags⟩, (), rfl, _, ⟨by omega, payloadBytes⟩, (), by
    omega, (), by omega,
    _, ⟨by omega, requestId⟩, (), ⟨named, some⟩, _, ⟨answer, rest⟩, _, ⟨some, named, answer, rfl⟩, (),
    counted.symm, rfl⟩

end Decoding

/-! Encoding -/

theorem encodeDeviceInfo_zeros (info : DeviceInfo) (length : output.length = 76) :
    encodeResponseBody (.deviceInfo info) output = .ok (WireDeviceInfo.codec.encode info.wire) := by
  have reserved : u16.encode 0 = replicate 2 0 := by decide
  have bytes : info.uuid.toList.flatMap u8.encode = info.uuid.toList := by
    have one : u8.encode = fun byte => [byte] := by
      funext byte
      simp [u8, leBytes]
    rw [one, flatMap_singleton']
  simp only [encodeResponseBody, writeU16, writeU32, writeU64, fillZero_eq length]
  rw [writeSlice_then [] 0 60, writeSlice_then _ 0 58, writeSlice_then _ 2 52, writeSlice_then _ 0 48,
    writeSlice_then _ 0 40, writeSlice_then _ 0 36, writeSlice_then _ 0 32, writeSlice_then _ 0 28,
    writeSlice_then _ 0 24, writeSlice_then _ 0 20, writeSlice_then _ 0 16, writeSlice_then _ 0 8,
    writeSlice_zeros _ 0 0]
  · simp [WireDeviceInfo.codec, seq, iso, array, DeviceInfo.wire, reserved, bytes]
  all_goals simp

theorem encodeResponseBody_eq (body : ResponseBody) (length : output.length = body.payload.length) :
    encodeResponseBody body output = .ok body.payload := by
  cases body with
  | empty =>
    rw [encodeResponseBody, fillZero, length]
    rfl
  | deviceInfo info => exact encodeDeviceInfo_zeros info (length.trans (WireDeviceInfo.codec.encode_length _))
  | object id | eventId id =>
    have exactly : output.length = 8 + 0 := length.trans (ObjectPayload.codec.encode_length _)
    rw [encodeResponseBody, fillZero_eq exactly]
    rfl
  | data bytes =>
    have exactly : output.length = bytes.length := length
    rw [encodeResponseBody, fillZero_eq exactly, writeSlice_zeros [] 0 0 (by simp) (by simp)]
    simp [ResponseBody.payload]
  | eventState state =>
    have exactly : output.length = 8 := length.trans (WireEventState.codec.encode_length _)
    have reserved : u32.encode 0 = replicate 4 0 := by decide
    simp only [encodeResponseBody, writeU16, fillZero_eq exactly]
    rw [writeSlice_then [] 0 6, writeSlice_zeros _ 0 4]
    · simp [ResponseBody.payload, WireEventState.codec, seq, iso, reserved]
    all_goals simp

/-- What `Response::encode` takes, and what it leaves in the output. -/
theorem Response.encode_eq_ok {written : List UInt8} {total : Nat} :
    response.encode context output = .ok (total, written) ↔ response.requestId ≠ 0 ∧
    response.requestId = context.requestId ∧
      Answer context response.status response.body ∧ total = response.frame.length ∧ total ≤ 16777216 ∧
      total ≤ output.length ∧ written = response.frame ++ output.drop total := by
  have written (room : 16 + response.body.payload.length ≤ output.length) :=
    writeHeader_eq response.status 0 (UInt32.ofNat response.body.payload.length) response.requestId room
      (fun _ length => encodeResponseBody_eq response.body length)
  have fits (few : 16 + response.body.payload.length ≤ 16777216) :
      (refuseIf (2 ^ 32 ≤ response.body.payload.length) .resourceLimit : Except Error Unit) = .ok () :=
    refuseIf_eq_ok.mpr (by omega)
  rw [response.frame_length]
  constructor
  · intro encodes
    obtain ⟨len, computed, encodes⟩ := bind_eq_ok.mp encodes
    obtain ⟨some, named, answer, rfl⟩ := responsePayloadLen_eq_ok.mp computed
    obtain ⟨_, few, encodes⟩ := bind_eq_ok.mp encodes
    obtain ⟨_, room, encodes⟩ := bind_eq_ok.mp encodes
    rw [requireOutput, refuseIf_eq_ok, Nat.not_lt] at room
    rw [refuseIf_eq_ok, Nat.not_lt] at few
    simp only [fits few] at encodes
    cases (written room).symm.trans encodes
    exact ⟨some, named, answer, rfl, few, room, rfl⟩
  · rintro ⟨some, named, answer, rfl, few, room, rfl⟩
    refine bind_eq_ok.mpr ⟨_, responsePayloadLen_eq_ok.mpr ⟨some, named, answer, rfl⟩, bind_eq_ok.mpr ⟨(),
      refuseIf_eq_ok.mpr (Nat.not_lt.mpr few), bind_eq_ok.mpr ⟨(), refuseIf_eq_ok.mpr (Nat.not_lt.mpr room), ?_⟩⟩⟩
    simp only [fits few]
    exact written room

end VirtioAccel.CleanRoom
