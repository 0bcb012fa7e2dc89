import VirtioAccel.Guest.Types

/-! Typed pending operations and what each makes of its response. -/

namespace VirtioAccel.Guest
open Checked (refuseIf)

inductive GuestConfigError where
  | wire (error : ConfigError)
  | features | queueNotConfigured | queueNotReady | queueSize | inflightLimit
  deriving DecidableEq

/-- What the guest relies on, with the proof that it is consistent. -/
structure GuestConfig where
  wire : WireConfig
  maxInflight : UInt16
  wire_valid : wire.validate = .ok ()
  inflight_some : maxInflight ≠ 0

def GuestConfig.new (wire : WireConfig) (offeredFeatures : UInt64) (maxInflight : UInt16) :
    Except GuestConfigError GuestConfig :=
  match valid : wire.validate with
  | .error error => .error (.wire error)
  | .ok () =>
    if offeredFeatures ≠ 0 then .error .features
    else if some : maxInflight ≠ 0 then .ok ⟨wire, maxInflight, valid, some⟩
    else .error .inflightLimit

/-- Why a response is not believed. -/
inductive ResponseError (ε : Type) where
  | usedLength (used : UInt32)
  | responseLimit
  | headerAccess (error : ε)
  | payloadAccess (error : ε)
  | requestId (expected actual : UInt64)
  | flags (value : UInt16)
  | payloadLength (expected : UInt64) (actual : UInt32)
  | payloadEncoding
  | objectId
  | deviceInfo (error : DeviceInfoError)
  | eventState (value : UInt16)
  | eventStatus (state : UInt16) (error : StatusCode)

inductive OperationResult (T : Type) where
  | success (output : T)
  | deviceError (status : StatusCode)
  deriving DecidableEq

/-- What a request in flight has asked for. -/
inductive Operation where
  | getDeviceInfo
  | createContext
  | destroyContext (context : Context)
  | allocateBuffer (context : ObjectId) (desc : BufferDesc)
  | freeBuffer (buffer : Buffer)
  | writeBuffer
  | readBuffer (bytes : UInt64)
  | loadProgram (context : ObjectId) (desc : ProgramDesc)
  | unloadProgram (program : Program)
  | createExecutionQueue (context : ObjectId)
  | destroyExecutionQueue (queue : ExecutionQueue)
  | submit (context : ObjectId)
  | pollEvent
  | cancelEvent
  | destroyEvent (event : Event)

namespace Operation
variable {χ ε : Type} [DriverChainBuffer χ ε]

def Output : Operation → Type
  | getDeviceInfo => DeviceInfo
  | createContext => Context
  | allocateBuffer _ _ => Buffer
  | readBuffer _ => ReadBufferOutput
  | loadProgram _ _ => Program
  | createExecutionQueue _ => ExecutionQueue
  | submit _ => SubmissionOutcome
  | pollEvent => EventState
  | destroyContext _ | freeBuffer _ | writeBuffer | unloadProgram _ | destroyExecutionQueue _ | cancelEvent
  | destroyEvent _ => Unit

def opcode : Operation → KnownOpcode
  | getDeviceInfo => .getDeviceInfo
  | createContext => .createContext
  | destroyContext _ => .destroyContext
  | allocateBuffer _ _ => .allocateBuffer
  | freeBuffer _ => .freeBuffer
  | writeBuffer => .writeBuffer
  | readBuffer _ => .readBuffer
  | loadProgram _ _ => .loadProgram
  | unloadProgram _ => .unloadProgram
  | createExecutionQueue _ => .createQueue
  | destroyExecutionQueue _ => .destroyQueue
  | submit _ => .submit
  | pollEvent => .pollEvent
  | cancelEvent => .cancelEvent
  | destroyEvent _ => .destroyEvent

def requiresDiscovery : Operation → Bool
  | getDeviceInfo => false
  | _ => true

/-- The trait's default, which no operation overrides. -/
def failureDisposition (status : StatusCode) : FailureDisposition :=
  if ¬ status.isKnown then .unknown
  else if status = .staleObject then .invalidated
  else if status = .deviceLost then .indeterminate
  else .retryable

def expectPayload (actual : UInt32) (expected : UInt64) : Except (ResponseError ε) Unit :=
  refuseIf (actual.toUInt64 ≠ expected) (.payloadLength expected actual)

def ordinary {T : Type} (status : StatusCode) (payloadBytes : UInt32) (successBytes : UInt64)
    (success : Except (ResponseError ε) T) : Except (ResponseError ε) (OperationResult T) :=
  if ¬ status.isSuccess then do
    expectPayload payloadBytes 0
    return .deviceError status
  else do
    expectPayload payloadBytes successBytes
    return .success (← success)

def maxFixedPayloadBytes : Nat := WireDeviceInfo.codec.size

def readPayload {T : Type} (chain : χ) (codec : Codec T) : Except (ResponseError ε) T :=
  if maxFixedPayloadBytes < codec.size then .error .payloadEncoding
  else match DriverChainBuffer.readDeviceWritable chain 16 codec.size with
    | .error error => .error (.payloadAccess error)
    | .ok bytes => .ok (codec.decode bytes)

def objectId (raw : UInt64) : Except (ResponseError ε) ObjectId :=
  (ObjectId.fromRaw raw).elim (.error .objectId) .ok

def ordinaryObject {T : Type} (status : StatusCode) (payloadBytes : UInt32) (chain : χ) (construct : ObjectId → T) :
    Except (ResponseError ε) (OperationResult T) :=
  ordinary status payloadBytes (UInt64.ofNat ObjectPayload.codec.size) (do
    let object ← readPayload chain ObjectPayload.codec
    return construct (← objectId object.objectId))

def decodeEvent (chain : χ) (epoch : QueueEpoch) (context : ObjectId) : Except (ResponseError ε) Event := do
  let response ← readPayload chain SubmitResponse.codec
  let id ← objectId response.eventId
  return { handle := ⟨id, epoch⟩, context := some context }

def decodeEventState (chain : χ) : Except (ResponseError ε) EventState := do
  let value ← readPayload chain WireEventState.codec
  refuseIf (value.reserved ≠ 0) .payloadEncoding
  let error : StatusCode := ⟨value.error⟩
  match KnownEventState.tryFrom value.state, error.isSuccess with
  | none, _ => .error (.eventState value.state)
  | some .pending, true => return .pending
  | some .complete, true => return .complete
  | some .failed, false => return .failed error
  | some .cancelled, true => return .cancelled
  | some _, _ => .error (.eventStatus value.state error)

/-- A submission whose failure carries a payload names the event that owns it. -/
def decodeSubmit (context : ObjectId) (chain : χ) (status : StatusCode) (payloadBytes : UInt32)
    (epoch : QueueEpoch) :
    Except (ResponseError ε) (OperationResult SubmissionOutcome) :=
  if status.isSuccess then do
    expectPayload payloadBytes (UInt64.ofNat SubmitResponse.codec.size)
    let event ← decodeEvent chain epoch context
    return .success (.accepted event)
  else if payloadBytes = 0 then .ok (.deviceError status)
  else if ¬ status.isKnown then .error (.payloadLength 0 payloadBytes)
  else do
    expectPayload payloadBytes (UInt64.ofNat SubmitResponse.codec.size)
    let event ← decodeEvent chain epoch context
    return .success (.indeterminate status event)

def decode (self : Operation) (chain : χ) (status : StatusCode) (payloadBytes : UInt32) (epoch : QueueEpoch)
    (config : GuestConfig) : Except (ResponseError ε) (OperationResult self.Output) :=
  match self with
  | getDeviceInfo => ordinary status payloadBytes (UInt64.ofNat WireDeviceInfo.codec.size) (do
      let wire ← readPayload chain WireDeviceInfo.codec
      (DeviceInfo.fromWire wire config.wire.maxRequestBytes).mapError .deviceInfo)
  | createContext => ordinaryObject status payloadBytes chain
      (fun id => ({ handle := ⟨id, epoch⟩, context := none } : Context))
  | allocateBuffer context desc => ordinaryObject status payloadBytes chain
      (fun id => ({ handle := ⟨id, epoch⟩, context, desc } : Buffer))
  | readBuffer bytes => ordinary status payloadBytes bytes (.ok (⟨bytes⟩ : ReadBufferOutput))
  | loadProgram context _ => ordinaryObject status payloadBytes chain
      (fun id => ({ handle := ⟨id, epoch⟩, context := some context } : Program))
  | createExecutionQueue context => ordinaryObject status payloadBytes chain
      (fun id => ({ handle := ⟨id, epoch⟩, context := some context } : ExecutionQueue))
  | submit context => decodeSubmit context chain status payloadBytes epoch
  | pollEvent => ordinary status payloadBytes (UInt64.ofNat WireEventState.codec.size) (decodeEventState chain)
  | destroyContext _ | freeBuffer _ | writeBuffer | unloadProgram _ | destroyExecutionQueue _ | cancelEvent
  | destroyEvent _ => ordinary status payloadBytes 0 (.ok ())

/-- Device loss reported inside a success. -/
def outputRequiresReset : (self : Operation) → self.Output → Bool
  | submit _, .indeterminate status _ => status == .deviceLost
  | pollEvent, .failed status => status == .deviceLost
  | _, _ => false

def discoveredInfo : (self : Operation) → self.Output → Option DeviceInfo
  | getDeviceInfo, info => some info
  | _, _ => none

end Operation

end VirtioAccel.Guest
