import VirtioAccel.Conformance.CleanRoomAnswers
import VirtioAccel.Guest.Custody

/-! The guest takes no response that the clean-room decoder refuses, and lets
nothing follow one that it refuses itself. -/

namespace VirtioAccel.Guest
open Checked List
variable {status : StatusCode} {payloadBytes : UInt32} {T : Type}

/-- The operation's opcode, as the clean-room codec names it. -/
def Operation.clean : Operation → CleanRoom.Opcode
  | getDeviceInfo => .getDeviceInfo
  | createContext => .createContext
  | destroyContext _ => .destroyContext
  | allocateBuffer _ _ => .allocateBuffer
  | freeBuffer _ => .freeBuffer
  | writeBuffer => .writeBuffer
  | readBuffer _ => .readBuffer
  | loadProgram _ _ => .loadProgram
  | unloadProgram _ => .unloadProgram
  | createExecutionQueue _ => .createQueue
  | destroyExecutionQueue _ => .destroyQueue
  | submit _ => .submit
  | pollEvent => .pollEvent
  | cancelEvent => .cancelEvent
  | destroyEvent _ => .destroyEvent

def Operation.readBytes : Operation → Option Nat
  | readBuffer bytes => some bytes.toNat
  | _ => none

/-- What the clean-room decoder is told about a request. -/
def Pending.context (self : Pending) : CleanRoom.ResponseContext :=
  ⟨some self.operation.clean, self.requestId, self.operation.readBytes⟩

def DeviceInfo.plain (self : DeviceInfo) : CleanRoom.DeviceInfo where
  uuid := self.uuid
  acceleratorClass := self.acceleratorClass
  vendorId := self.vendorId
  deviceId := self.deviceId
  capabilities := self.capabilities
  maxContexts := self.maxContexts
  maxBuffersPerContext := self.maxBuffersPerContext
  maxProgramsPerContext := self.maxProgramsPerContext
  maxQueuesPerContext := self.maxQueuesPerContext
  maxEventsPerContext := self.maxEventsPerContext
  maxBindingsPerSubmission := self.maxBindingsPerSubmission
  maxBufferBytes := self.maxBufferBytes
  maxArtifactBytes := self.maxArtifactBytes

def EventState.plain : EventState → CleanRoom.EventState
  | pending => ⟨.pending, 0⟩
  | complete => ⟨.complete, 0⟩
  | failed status => ⟨.failed, status.value⟩
  | cancelled => ⟨.cancelled, 0⟩

/-- A typed result and a status with a body have one meaning. -/
def Operation.Means : (self : Operation) → OperationResult self.Output → UInt16 → CleanRoom.ResponseBody → Prop
  | _, .deviceError status, code, body => code = status.value ∧ code ≠ 0 ∧ body = .empty
  | getDeviceInfo, .success info, code, body => code = 0 ∧ body = .deviceInfo (DeviceInfo.plain info)
  | createContext, .success context, code, body => code = 0 ∧ body = .object (SimpleHandle.handle context).id.raw
  | allocateBuffer _ _, .success buffer, code, body => code = 0 ∧ body = .object (Buffer.handle buffer).id.raw
  | readBuffer _, .success output, code, body =>
    code = 0 ∧ ∃ data, body = .data data ∧ data.length = (ReadBufferOutput.bytes output).toNat
  | loadProgram _ _, .success program, code, body => code = 0 ∧ body = .object (SimpleHandle.handle program).id.raw
  | createExecutionQueue _, .success queue, code, body => code = 0 ∧
    body = .object (SimpleHandle.handle queue).id.raw
  | submit _, .success (.accepted event), code, body => code = 0 ∧ body = .eventId event.handle.id.raw
  | submit _, .success (.indeterminate status event), code, body =>
    code = status.value ∧ code ≠ 0 ∧ body = .eventId event.handle.id.raw
  | pollEvent, .success state, code, body => code = 0 ∧ body = .eventState (EventState.plain state)
  | destroyContext _, .success _, code, body | freeBuffer _, .success _, code, body | writeBuffer,
    .success _, code, body
  | unloadProgram _, .success _, code, body | destroyExecutionQueue _, .success _, code, body
  | cancelEvent, .success _, code, body | destroyEvent _, .success _, code, body => code = 0 ∧ body = .empty

namespace Operation
variable {χ ε : Type} [DriverChainBuffer χ ε]

theorem isSuccess_iff : status.isSuccess = true ↔ status.value = 0 := beq_iff_eq

theorem expectPayload_eq_ok {actual : UInt32} {expected : UInt64} {u : Unit} :
    (expectPayload actual expected : Except (ResponseError ε) Unit) = .ok u ↔ actual.toNat = expected.toNat := by
  rw [expectPayload, refuseIf_eq_ok, not_not, ← UInt64.toNat_inj, UInt32.toNat_toUInt64]

theorem objectId_eq_ok {raw : UInt64} {id : ObjectId} :
    (objectId raw : Except (ResponseError ε) ObjectId) = .ok id ↔ id.raw = raw := by
  unfold objectId ObjectId.fromRaw
  constructor
  · intro found
    split at found
    · cases found
      rfl
    · cases found
  · rintro rfl
    rw [dif_pos id.nonzero]
    rfl

/-- A failure without a payload, or a success with the right one. -/
theorem ordinary_eq_ok {successBytes : UInt64} {success : Except (ResponseError ε) T} {result : OperationResult T}
    (taken : ordinary status payloadBytes successBytes success = .ok result) :
    (status.value ≠ 0 ∧ payloadBytes.toNat = 0 ∧ result = .deviceError status) ∨
    (status.value = 0 ∧ payloadBytes.toNat = successBytes.toNat ∧ ∃ output, success = .ok output ∧
      result = .success output) := by
  unfold ordinary at taken
  by_cases good : status.isSuccess = true
  · rw [if_neg (not_not.mpr good)] at taken
    simp only [bind_eq_ok, pure_eq_ok, expectPayload_eq_ok] at taken
    obtain ⟨_, length, output, found, rfl⟩ := taken
    exact .inr ⟨isSuccess_iff.mp good, length, output, found, rfl⟩
  · rw [if_pos good] at taken
    simp only [bind_eq_ok, pure_eq_ok, expectPayload_eq_ok] at taken
    obtain ⟨_, length, rfl⟩ := taken
    exact .inl ⟨fun zero => good (isSuccess_iff.mpr zero), length, rfl⟩

end Operation

section Agreement
variable {χ ε : Type} [DriverChainBytes χ ε] {chain : χ} {payload : List UInt8}
open DriverChainBytes (writable)
open CleanRoom (Answer)
variable {epoch : QueueEpoch} {context : ObjectId}

/-- The payload of the response that the device wrote into a chain. -/
structure Payload (chain : χ) (payload : List UInt8) : Prop where
  bytes : ((writable chain).drop 16).take payload.length = payload
  fits : 16 + payload.length ≤ (writable chain).length

theorem Payload.encodes (there : Payload chain payload) {codec : Codec T} (canonical : codec.Canonical) {value : T}
    (read : Operation.readPayload chain codec = .ok value) (length : payload.length = codec.size) :
    payload = codec.encode value := by
  have fits := there.fits
  unfold Operation.readPayload at read
  split at read
  · cases read
  rw [DriverChainBytes.reads chain 16 codec.size (show 16 + codec.size ≤ _ by omega)] at read
  refine canonical.field_iff.mp ⟨length, ?_⟩
  rw [Codec.field, drop_zero, ← length, take_length]
  rw [show (16 : UInt64).toNat = 16 from rfl, ← length, there.bytes] at read
  exact Except.ok.inj read

/-- What the guest checks in the device information, and the fields it keeps. -/
theorem DeviceInfo.fromWire_plain {wire : WireDeviceInfo} {maxRequestBytes : UInt32} {info : DeviceInfo}
    (taken : DeviceInfo.fromWire wire maxRequestBytes = .ok info) : info.plain.validate = .ok () ∧
    info.plain.wire = wire := by
  simp only [fromWire, bind_eq_ok, refuseIf_eq_ok, pure_eq_ok, not_or, not_not] at taken
  obtain ⟨_, reserved, _, _, _, _, _, ⟨contexts, buffers, programs, queues, events⟩, _, bindings, _,
    ⟨bytes, artifact⟩, _, _, _, _, rfl⟩ := taken
  obtain ⟨one, few⟩ := bindings
  constructor
  · refine bind_eq_ok.mpr ⟨(), refuseIf_eq_ok.mpr ?_, refuseIf_eq_ok.mpr (UInt32.not_lt.mpr few)⟩
    have some : wire.maxBindingsPerSubmission ≠ 0 := by
      intro none
      rw [none] at one
      exact absurd one (by decide)
    simp only [plain, not_or]
    exact ⟨contexts, buffers, programs, queues, events, some, bytes, artifact⟩
  · obtain ⟨_, _, _, _, _, _, _, _, _, _, _, _, _, _⟩ := wire
    cases reserved
    rfl

section
variable (there : Payload chain payload) (length : payload.length = 8)
include there length

theorem EventState.of_wire {state : EventState} (taken : Operation.decodeEventState chain = .ok state) :
    state.plain.validate = .ok () ∧
      payload = WireEventState.codec.encode ⟨state.plain.kind.toU16, state.plain.error, 0⟩ := by
  simp only [Operation.decodeEventState, bind_eq_ok, refuseIf_eq_ok, not_not] at taken
  obtain ⟨value, read, _, reserved, taken⟩ := taken
  rw [there.encodes WireEventState.canonical read length]
  obtain ⟨code, error, padding⟩ := value
  cases reserved
  cases known : KnownEventState.tryFrom code with
  | none =>
    rw [known] at taken
    cases taken
  | some kind =>
    obtain rfl := KnownEventState.tryFrom_eq_some known
    rw [known] at taken
    cases good : StatusCode.isSuccess ⟨error⟩ with
    | true =>
      rw [good] at taken
      obtain rfl : error = 0 := Operation.isSuccess_iff.mp good
      cases kind <;> cases taken <;> exact ⟨rfl, rfl⟩
    | false =>
      rw [good] at taken
      have bad : error ≠ 0 := fun zero => absurd (Operation.isSuccess_iff.mpr zero) (by rw [good]; decide)
      cases kind <;> cases taken
      exact ⟨refuseIf_eq_ok.mpr bad, rfl⟩

/-- A response that names a new object. -/
theorem Payload.object {construct : ObjectId → T} {output : T}
    (taken : (do
      let object ← Operation.readPayload chain ObjectPayload.codec
      return construct (← Operation.objectId object.objectId)) = (.ok output : Except (ResponseError ε) T)) :
    ∃ id : ObjectId, construct id = output ∧ payload = ObjectPayload.codec.encode ⟨id.raw⟩ := by
  simp only [bind_eq_ok, pure_eq_ok, Operation.objectId_eq_ok] at taken
  obtain ⟨⟨raw⟩, read, id, rfl, rfl⟩ := taken
  exact ⟨id, rfl, there.encodes ObjectPayload.canonical read length⟩

theorem Payload.event {event : Event} (taken : Operation.decodeEvent chain epoch context = .ok event) :
    payload = ObjectPayload.codec.encode ⟨event.handle.id.raw⟩ := by
  simp only [Operation.decodeEvent, bind_eq_ok, pure_eq_ok, Operation.objectId_eq_ok] at taken
  obtain ⟨⟨raw⟩, read, id, rfl, rfl⟩ := taken
  exact there.encodes SubmitResponse.canonical read length

end

/-- A submission fails, or names the event that owns it under either status. -/
theorem Payload.submit (there : Payload chain payload) {result : OperationResult SubmissionOutcome}
    (sized : payload.length = payloadBytes.toNat)
    (taken : Operation.decodeSubmit context chain status payloadBytes epoch = .ok result) :
    (payloadBytes.toNat = 0 ∧ status.value ≠ 0 ∧ result = .deviceError status) ∨
    ∃ event : Event, payload = ObjectPayload.codec.encode ⟨event.handle.id.raw⟩ ∧
      ((status.value = 0 ∧ result = .success (.accepted event)) ∨
        (status.value ≠ 0 ∧ result = .success (.indeterminate status event))) := by
  unfold Operation.decodeSubmit at taken
  by_cases good : status.isSuccess = true
  · rw [if_pos good] at taken
    simp only [bind_eq_ok, pure_eq_ok, Operation.expectPayload_eq_ok] at taken
    obtain ⟨_, length, event, read, rfl⟩ := taken
    exact .inr ⟨event, there.event (sized.trans length) read, .inl ⟨Operation.isSuccess_iff.mp good, rfl⟩⟩
  have bad : status.value ≠ 0 := fun zero => good (Operation.isSuccess_iff.mpr zero)
  rw [if_neg good] at taken
  split at taken
  · rename_i none
    cases taken
    exact .inl ⟨congrArg UInt32.toNat none, bad, rfl⟩
  · split at taken
    · cases taken
    simp only [bind_eq_ok, pure_eq_ok, Operation.expectPayload_eq_ok] at taken
    obtain ⟨_, length, event, read, rfl⟩ := taken
    exact .inr ⟨event, there.event (sized.trans length) read, .inr ⟨bad, rfl⟩⟩

/-- The guest's reading of a payload is one of the answers of the clean-room codec. -/
theorem Operation.decode_answers (operation : Operation) {config : GuestConfig}
    {result : OperationResult operation.Output} {requestId : UInt64} (there : Payload chain payload)
    (sized : payload.length = payloadBytes.toNat)
    (taken : operation.decode chain status payloadBytes epoch config = .ok result) :
    ∃ body, Answer ⟨some operation.clean, requestId, operation.readBytes⟩ status.value body ∧
    payload = body.payload ∧
      operation.Means result status.value body := by
  -- A failure without payload reads the same under every command.
  have failed (empty : payloadBytes.toNat = 0) (bad : status.value ≠ 0) (same : result = .deviceError status) :
      ∃ body, Answer ⟨some operation.clean, requestId, operation.readBytes⟩ status.value body ∧
        payload = body.payload ∧ operation.Means result status.value body := by
    refine ⟨.empty, .failed bad, length_eq_zero_iff.mp (sized.trans empty), ?_⟩
    rw [same]
    cases operation <;> exact ⟨rfl, bad, rfl⟩
  cases operation with
  | getDeviceInfo =>
    obtain ⟨bad, empty, same⟩ | ⟨good, length, info, read, rfl⟩ := ordinary_eq_ok taken
    · exact failed empty bad same
    obtain ⟨wire, read, kept⟩ := bind_eq_ok.mp read
    obtain ⟨valid, same⟩ := DeviceInfo.fromWire_plain (mapError_eq_ok.mp kept)
    have bytes := there.encodes WireDeviceInfo.canonical read (sized.trans length)
    rw [good]
    refine ⟨.deviceInfo (DeviceInfo.plain info), .success rfl valid, ?_, rfl, rfl⟩
    rw [bytes, CleanRoom.ResponseBody.payload, same]
  | createContext | allocateBuffer | loadProgram | createExecutionQueue =>
    obtain ⟨bad, empty, same⟩ | ⟨good, length, output, read, rfl⟩ := ordinary_eq_ok taken
    · exact failed empty bad same
    obtain ⟨id, rfl, bytes⟩ := there.object (sized.trans length) read
    rw [good]
    exact ⟨.object id.raw, .success rfl id.nonzero, bytes, rfl, rfl⟩
  | readBuffer bytes =>
    obtain ⟨bad, empty, same⟩ | ⟨good, length, output, read, rfl⟩ := ordinary_eq_ok taken
    · exact failed empty bad same
    cases read
    rw [good]
    exact ⟨.data payload, .success rfl (congrArg some (sized.trans length).symm), rfl, rfl, payload, rfl,
      sized.trans length⟩
  | submit context =>
    obtain ⟨empty, bad, same⟩ | ⟨event, bytes, ⟨good, rfl⟩ | ⟨bad, rfl⟩⟩ := there.submit sized taken
    · exact failed empty bad same
    · rw [good]
      exact ⟨.eventId event.handle.id.raw, .success rfl event.handle.id.nonzero, bytes, rfl, rfl⟩
    · exact ⟨.eventId event.handle.id.raw, .indeterminate bad rfl event.handle.id.nonzero, bytes, rfl, bad, rfl⟩
  | pollEvent =>
    obtain ⟨bad, empty, same⟩ | ⟨good, length, state, read, rfl⟩ := ordinary_eq_ok taken
    · exact failed empty bad same
    obtain ⟨valid, bytes⟩ := EventState.of_wire there (sized.trans length) read
    rw [good]
    exact ⟨.eventState (EventState.plain state), .success rfl valid, bytes, rfl, rfl⟩
  | destroyContext | freeBuffer | writeBuffer | unloadProgram | destroyExecutionQueue | cancelEvent
  | destroyEvent =>
    obtain ⟨bad, empty, same⟩ | ⟨good, length, output, read, rfl⟩ := ordinary_eq_ok taken
    · exact failed empty bad same
    rw [good]
    exact ⟨.empty, .success rfl trivial, length_eq_zero_iff.mp (sized.trans length), rfl, rfl⟩

variable {Q θ : Type}

theorem GuestConfig.maxResponseBytes_le (config : GuestConfig) : config.wire.maxResponseBytes.toNat ≤ 16777216 := by
  have valid := config.wire_valid
  unfold WireConfig.validate at valid
  iterate 5
    split at valid
    · cases valid
  rename_i bounds
  exact UInt32.le_iff_toNat_le.mp (not_not.mp bounds).2

variable {pending : Pending}

/-- A response that the guest accepts, as the clean-room decoder sees it. -/
theorem GuestClient.validateResponse_taken {client : GuestClient Q χ} {used : UInt32}
    (named : pending.requestId ≠ 0)
    (fits : used.toNat ≤ (writable chain).length) {result : OperationResult pending.operation.Output}
    (taken : client.validateResponse pending chain used = .ok result) :
    ∃ response, CleanRoom.decodeResponse ((writable chain).take used.toNat) pending.context = .ok response ∧
      pending.operation.Means result response.status response.body := by
  simp only [validateResponse, bind_eq_ok, refuseIf_eq_ok, mapError_eq_ok, not_not,
    UInt64.lt_iff_toNat_lt, UInt32.lt_iff_toNat_lt, UInt32.toNat_toUInt64, responseHeaderBytes_toNat,
    Nat.not_lt] at taken
  obtain ⟨_, enough, _, few, head, read, _, requestId, _, flags, _, total, taken⟩ := taken
  have most := client.config.maxResponseBytes_le
  have length : ((writable chain).take used.toNat).length = used.toNat := by
    rw [length_take, Nat.min_eq_left fits]
  have header : ResponseHeader.codec.decode head =
      ResponseHeader.codec.field ((writable chain).take used.toNat) 0 := by
    rw [DriverChainBytes.reads chain 0 ResponseHeader.codec.size (by
      rw [ResponseHeader.codec_size, UInt64.toNat_zero]; omega)] at read
    cases read
    rw [Codec.field_take _ _ _ (by rw [ResponseHeader.codec_size]; omega)]
    rfl
  rw [header, ResponseHeader.field_eq] at requestId flags total taken
  simp only at requestId flags total taken
  have whole : used.toNat = 16 + (Codec.u32.field ((writable chain).take used.toNat) 4).toNat := by
    have sum := congrArg UInt64.toNat total
    have small := (Codec.u32.field ((writable chain).take used.toNat) 4).toNat_lt
    rw [UInt64.toNat_add, UInt32.toNat_toUInt64, UInt32.toNat_toUInt64, responseHeaderBytes_toNat,
      Nat.mod_eq_of_lt (by omega)]
      at sum
    exact sum.symm
  have sized : (((writable chain).take used.toNat).drop 16).length =
      (Codec.u32.field ((writable chain).take used.toNat) 4).toNat := by
    rw [length_drop, length]
    omega
  have there : Payload chain (((writable chain).take used.toNat).drop 16) := by
    constructor
    · rw [length_drop, length, drop_take]
    rw [length_drop, length]
    omega
  obtain ⟨body, answer, payload, means⟩ := pending.operation.decode_answers there sized taken
  refine ⟨⟨_, pending.requestId, body⟩, CleanRoom.decodeResponse_eq_ok.mpr ⟨named, rfl, answer, by omega,
    ResponseHeader.canonical.append_iff.mp ⟨by rw [length]; exact enough, ?_, payload⟩⟩, means⟩
  rw [ResponseHeader.field_eq, flags, requestId, ← payload, sized, UInt32.ofNat_toNat]

end Agreement

/-! What follows a refused response -/

section Refused
variable {Q χ ε θ : Type} [DriverChainBuffer χ ε] [CompletionQueue Q χ θ]
variable {error : ResponseError ε} {used : UsedChain χ}

/-- A poll comes to the completion of its own request: it was popped earlier, or
the queue has it next. -/
inductive GuestClient.Reaches (client : GuestClient Q χ) (pending : Pending) (used : UsedChain χ) : Prop where
  | settled (running : client.health = .running) (current : pending.epoch = DriverQueue.epoch client.queue)
      (found : client.slots[pending.slot]? = some (.completed pending.requestId used))
  | popped {queue} (running : client.health = .running) (current : pending.epoch = DriverQueue.epoch client.queue)
      (next : CompletionQueue.popUsed client.queue = (.ok (some used), queue))
      (awaited : Slot.position used.id client.slots = some (pending.slot, pending.requestId))

/-- Only the configuration of the client matters to a response. -/
theorem GuestClient.decodeCompletion_refused {client other : GuestClient Q χ}
    (refused : client.validateResponse pending used.chain used.used = .error error)
    (same : other.config = client.config) :
    other.decodeCompletion pending used =
    (.invalidResponse error used.chain, { other with health := .needsReset }) := by
  have refused : other.validateResponse pending used.chain used.used = .error error := by
    rw [← refused, validateResponse, same]
    rfl
  rw [decodeCompletion, refused]

theorem GuestClient.Reaches.poll_refused {client : GuestClient Q χ} (reaches : client.Reaches pending used)
    (refused : client.validateResponse pending used.chain used.used = .error error) :
    ∃ client', client.poll pending = (.ready (.invalidResponse error used.chain), client') ∧
    client'.health = .needsReset ∧
      (client'.queue = client.queue ∨ CompletionQueue.popUsed client.queue = (.ok (some used), client'.queue)) := by
  cases reaches with
  | settled running current found =>
    have matching : client.pendingMatches pending = true := by
      rw [pendingMatches, found]
      exact beq_self_eq_true _
    have idle : client.pumpFor pending = (.ok .idle, client) := by
      rw [pumpFor, found]
      rfl
    unfold poll
    rw [if_neg (not_not.mpr current), if_neg (by simp [running]), if_neg (not_not.mpr matching), idle]
    dsimp only
    rw [found]
    dsimp only
    rw [if_neg (not_not.mpr rfl), decodeCompletion_refused refused (by rfl)]
    exact ⟨_, rfl, rfl, .inl rfl⟩
  | @popped queue running current next awaited =>
    have waiting := Slot.position_eq_some awaited
    have matching : client.pendingMatches pending = true := by
      rw [pendingMatches, waiting]
      exact beq_self_eq_true _
    have pumped : client.pumpFor pending = (.ok (.completion pending.requestId),
        { client with queue, slots := client.slots.set pending.slot (.completed pending.requestId used) }) := by
      rw [pumpFor, if_pos (by rw [waiting]; rfl), pump, if_neg (by simp [running]), next]
      dsimp only
      rw [awaited]
    have inside := (List.getElem?_eq_some_iff.mp waiting).1
    unfold poll
    rw [if_neg (not_not.mpr current), if_neg (by simp [running]), if_neg (not_not.mpr matching), pumped]
    dsimp only
    rw [getElem?_set_self inside]
    dsimp only
    rw [if_neg (not_not.mpr rfl), decodeCompletion_refused refused (by rfl)]
    exact ⟨_, rfl, rfl, .inr next⟩

end Refused

section Silence
variable {Q χ ε θ : Type} [DriverChainBuffer χ ε] [CompletionQueue Q χ θ]
namespace Desk
variable {desk : Desk Q χ}

/-- No reset of the run succeeds. -/
def Unreset (desk : Desk Q χ) : List (Call Q χ) → Prop
  | [] => True
  | call :: rest =>
    (∀ nextEpoch reclaimed, call = .reset nextEpoch → (desk.client.reset nextEpoch).1 ≠ .ok reclaimed) ∧
      Unreset (desk.step call) rest

/-- A client that needs a reset hands no chain to the queue, whatever it is asked. -/
theorem step_silent (lost : desk.client.health = .needsReset) {call : Call Q χ}
    (unreset : ∀ nextEpoch reclaimed, call = .reset nextEpoch → (desk.client.reset nextEpoch).1 ≠ .ok reclaimed) :
    (desk.step call).client.health = .needsReset ∧ (desk.step call).client.queue.given =
    desk.client.queue.given := by
  have halted : desk.client.health ≠ .running := fun running => nomatch lost.symm.trans running
  cases call with
  | start chain start =>
    have started := GuestClient.start_started desk.client chain start
    unfold step
    dsimp only
    generalize desk.client.start chain start = result at started
    cases started with
    | refused | exhausted => exact ⟨lost, rfl⟩
    | unpublished _ _ running | published _ _ running => exact absurd running halted
  | pump =>
    have same : desk.client.pump = (.ok .needsReset, desk.client) := by
      rw [GuestClient.pump, if_pos lost]
    unfold step
    rw [same]
    exact ⟨lost, rfl⟩
  | poll pending =>
    have polled : (desk.step (.poll pending)) = desk := by
      unfold step GuestClient.poll
      dsimp only
      by_cases current : pending.epoch = DriverQueue.epoch desk.client.queue
      · rw [if_neg (not_not.mpr current), if_pos lost]
      · rw [if_pos current]
    rw [polled]
    exact ⟨lost, rfl⟩
  | reset nextEpoch =>
    have kept := unreset nextEpoch
    unfold GuestClient.reset at kept
    unfold step GuestClient.reset
    dsimp only
    split at kept
    · rename_i error queue failed
      exact ⟨lost, (Audited.reset_eq failed).1⟩
    · exact absurd rfl (kept _ rfl)
  | popRecoveredCompletion =>
    unfold step GuestClient.popRecoveredCompletion
    dsimp only
    split
    · exact ⟨lost, rfl⟩
    · exact ⟨lost, rfl⟩
  | takeUnexpectedCompletion | outside change => exact ⟨lost, rfl⟩

theorem run_silent (lost : desk.client.health = .needsReset) {calls : List (Call Q χ)}
    (unreset : desk.Unreset calls) :
    (desk.run calls).client.health = .needsReset ∧ (desk.run calls).client.queue.given =
    desk.client.queue.given := by
  induction calls generalizing desk with
  | nil => exact ⟨lost, rfl⟩
  | cons call rest ih =>
    obtain ⟨still, same⟩ := step_silent lost unreset.1
    obtain ⟨health, given⟩ := ih still unreset.2
    exact ⟨health, given.trans same⟩

end Desk
end Silence

section Responses
variable {Q χ ε θ : Type} [DriverChainBytes χ ε] [CompletionQueue Q χ θ]
open DriverChainBytes (writable)

/-- For a request that the client published: a response it takes, the clean-room
decoder takes with the same meaning; a response it refuses stops it until a reset. -/
theorem response_agrees {earlier later : GuestClient (Audited Q χ) χ} {sent : χ} {start : Start}
    {published : Published χ} (started : earlier.start sent start = (.ok published, later)) :
    (∀ (client : GuestClient (Audited Q χ) χ) (chain : χ) (used : UInt32) result,
      used.toNat ≤ (writable chain).length →
      client.validateResponse published.pending chain used = .ok result →
      ∃ response, CleanRoom.decodeResponse ((writable chain).take used.toNat) published.pending.context =
      .ok response ∧
        published.pending.operation.Means result response.status response.body) ∧
    (∀ (desk : Desk Q χ) (used : UsedChain χ) error, desk.client.Reaches published.pending used →
      desk.client.validateResponse published.pending used.chain used.used = .error error →
      ∃ client', desk.client.poll published.pending = (.ready (.invalidResponse error used.chain), client') ∧
        client'.health = .needsReset ∧
        ∀ calls, (desk.step (.poll published.pending)).Unreset calls →
          ((desk.step (.poll published.pending)).run calls).client.health = .needsReset ∧
          ((desk.step (.poll published.pending)).run calls).client.queue.given = desk.client.queue.given) := by
  have named : published.pending.requestId ≠ 0 := by
    have result := GuestClient.start_started earlier sent start
    rw [started] at result
    cases result with
    | published _ _ _ _ found => exact GuestClient.searchRequestId_ne_zero found
  refine ⟨fun client chain used result fits taken => client.validateResponse_taken named fits taken, ?_⟩
  intro desk used error reaches refused
  obtain ⟨client', polled, lost, queue⟩ := reaches.poll_refused refused
  have after : desk.step (.poll published.pending) = ⟨client', desk.passed, desk.returned ++ [used.chain]⟩ := by
    unfold Desk.step
    dsimp only
    rw [polled]
    rfl
  have given : client'.queue.given = desk.client.queue.given := by
    obtain same | popped := queue
    · rw [same]
    · exact (Audited.popUsed_eq popped).1
  refine ⟨client', polled, lost, fun calls unreset => ?_⟩
  rw [after] at unreset ⊢
  obtain ⟨health, silent⟩ := Desk.run_silent lost unreset
  exact ⟨health, silent.trans given⟩

end Responses

open GuestClient (SliceChain sampleChain sampleClient sampleWrite)

/-- A queue that takes every chain, and has these to give back. -/
structure Replies where
  taken : List SliceChain
  used : List (UsedChain SliceChain)

instance : CompletionQueue Replies SliceChain Empty where
  epoch _ := .initial
  publish queue chain := (.ok ⟨.initial, UInt64.ofNat queue.taken.length⟩,
    { queue with taken := queue.taken ++ [chain] })
  state _ := ⟨⟨4096, Desk.page_power⟩, some ⟨4096, Desk.page_power⟩, true, .initial⟩
  popUsed queue := (.ok queue.used.head?, { queue with used := queue.used.tail })
  reset queue _ := (.ok [], queue)
  epoch_state _ := rfl

/-- An empty answer to the first request, with these flags. -/
def reply (flags : UInt16) : UsedChain SliceChain :=
  ⟨⟨.initial, 0⟩, 16, { sampleChain with
    response := ⟨ResponseHeader.codec.encode ⟨0, flags, 0, 1⟩, by
      rw [ResponseHeader.codec.encode_length]; decide⟩ }⟩

def repliedClient : GuestClient (Audited Replies SliceChain) SliceChain :=
  { sampleClient with queue := ⟨⟨[], [reply 1]⟩, [], []⟩ }

/-- The same request, with a good answer and with one that has a flag set. -/
theorem response_agrees_flags : ∃ published later, repliedClient.start sampleChain sampleWrite =
    (.ok published, later) ∧
    (∃ response, CleanRoom.decodeResponse (ResponseHeader.codec.encode ⟨0, 0, 0, 1⟩) published.pending.context =
      .ok response) ∧
    ∃ error client', later.poll published.pending = (.ready (.invalidResponse error (reply 1).chain), client') ∧
      client'.health = .needsReset := by
  have started : ∃ published later, repliedClient.start sampleChain sampleWrite = (.ok published, later) ∧
      published.pending = ⟨0, 1, .initial, .writeBuffer⟩ ∧ later.config = sampleClient.config ∧
      later.Reaches published.pending (reply 1) :=
    ⟨_, _, rfl, rfl, rfl, .popped rfl rfl rfl rfl⟩
  obtain ⟨published, later, started, pending, config, reaches⟩ := started
  obtain ⟨taken, refused⟩ := response_agrees started
  rw [pending] at taken refused reaches
  refine ⟨published, later, started, ?_, ?_⟩
  · obtain ⟨response, decoded, _⟩ := taken later (reply 0).chain 16 (.success ()) (by decide) (by
      rw [GuestClient.validateResponse, config]
      rfl)
    rw [pending]
    exact ⟨response, decoded⟩
  · obtain ⟨client', polled, lost, _⟩ := refused ⟨later, [], []⟩ (reply 1) (.flags 1) reaches (by
      rw [GuestClient.validateResponse, config]
      rfl)
    rw [pending]
    exact ⟨_, client', polled, lost⟩

end VirtioAccel.Guest
