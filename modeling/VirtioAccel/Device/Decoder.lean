import VirtioAccel.Library.Checked
import VirtioAccel.Core.Ports
import VirtioAccel.Proto.Wire
import VirtioAccel.Device.ObjectTable

/-! Validation of one untrusted command frame. -/

namespace VirtioAccel
open Checked (refuseIf)

def requestHeaderBytes : UInt64 := UInt64.ofNat RequestHeader.codec.size
def responseHeaderBytes : UInt64 := UInt64.ofNat ResponseHeader.codec.size
def maxFixedPrefixBytes : Nat := LoadProgramRequest.codec.size

inductive DecoderLimitsError where
  | config (error : ConfigError)
  | bindingLimit | bufferLimit | artifactLimit
  deriving DecidableEq

/-- How large a frame, and what is in it, may be. -/
structure DecoderLimits where
  maxChainDescriptors : UInt16
  maxRequestBytes : UInt32
  maxResponseBytes : UInt32
  maxBindings : UInt32
  maxBufferBytes : UInt64
  maxArtifactBytes : UInt64
  capabilities : Capabilities
  deriving DecidableEq

def DecoderLimits.new (config : WireConfig) (info : DeviceInfo) : Except DecoderLimitsError DecoderLimits := do
  config.validate.mapError .config
  refuseIf (¬ (1 ≤ info.limits.maxBindingsPerSubmission ∧ info.limits.maxBindingsPerSubmission ≤ hardMaxBindings))
    .bindingLimit
  refuseIf (info.limits.maxBufferBytes = 0) .bufferLimit
  refuseIf (info.limits.maxArtifactBytes = 0) .artifactLimit
  return {
    maxChainDescriptors := config.maxChainDescriptors
    maxRequestBytes := config.maxRequestBytes
    maxResponseBytes := config.maxResponseBytes
    maxBindings := info.limits.maxBindingsPerSubmission
    maxBufferBytes := info.limits.maxBufferBytes
    maxArtifactBytes := info.limits.maxArtifactBytes
    capabilities := info.capabilities }

inductive UnrecoverableDecodeError where
  | requestHeader | requestAccess | responseHeader
  deriving DecidableEq

/-- A frame that cannot be answered, one with an answer, and one whose answer has no room. -/
inductive FrameDecodeError where
  | unrecoverable (error : UnrecoverableDecodeError)
  | protocol (requestId : UInt64) (status : StatusCode)
  | insufficientResponse (requestId required available : UInt64)
  deriving DecidableEq

structure DecodedBinding where
  bufferId : ObjectId
  range : BufferRange
  slot : UInt32
  access : AccessMode
  deriving DecidableEq

/-- A command whose fields are checked. -/
inductive DecodedRequestBody where
  | getDeviceInfo
  | createContext (desc : ContextDesc)
  | destroyContext (contextId : ObjectId)
  | allocateBuffer (contextId : ObjectId) (desc : BufferDesc)
  | freeBuffer (bufferId : ObjectId)
  | writeBuffer (bufferId : ObjectId) (range : BufferRange) (data : ByteSource)
  | readBuffer (bufferId : ObjectId) (range : BufferRange)
  | loadProgram (contextId : ObjectId) (format : ArtifactFormat) (target : TargetIdentity) (payload : ByteSource)
      (residentBytes : UInt64)
  | unloadProgram (programId : ObjectId)
  | createQueue (contextId : ObjectId) (desc : QueueDesc)
  | destroyQueue (queueId : ObjectId)
  | submit (queueId programId : ObjectId) (bindings : List DecodedBinding) (timeout : Timeout)
  | pollEvent (eventId : ObjectId)
  | cancelEvent (eventId : ObjectId)
  | destroyEvent (eventId : ObjectId)

def DecodedRequestBody.opcode : DecodedRequestBody → KnownOpcode
  | getDeviceInfo => .getDeviceInfo
  | createContext _ => .createContext
  | destroyContext _ => .destroyContext
  | allocateBuffer _ _ => .allocateBuffer
  | freeBuffer _ => .freeBuffer
  | writeBuffer _ _ _ => .writeBuffer
  | readBuffer _ _ => .readBuffer
  | loadProgram _ _ _ _ _ => .loadProgram
  | unloadProgram _ => .unloadProgram
  | createQueue _ _ => .createQueue
  | destroyQueue _ => .destroyQueue
  | submit _ _ _ _ => .submit
  | pollEvent _ => .pollEvent
  | cancelEvent _ => .cancelEvent
  | destroyEvent _ => .destroyEvent

/-- A command, and the room that its answer needs. -/
structure DecodedRequest where
  requestId : UInt64
  requiredResponseBytes : UInt32
  body : DecodedRequestBody

/-- A body is refused with a status, or cannot be read. -/
inductive BodyDecodeError where
  | protocol (status : StatusCode)
  | access
  deriving DecidableEq

namespace BodyDecodeError

def invalid : BodyDecodeError := .protocol .invalidArgument
def resourceLimit : BodyDecodeError := .protocol .resourceLimit
def unsupported : BodyDecodeError := .protocol .unsupported

end BodyDecodeError

open BodyDecodeError (invalid resourceLimit unsupported)

def expectPayloadBytes (payloadBytes : UInt32) (expected : Nat) : Except BodyDecodeError Unit :=
  refuseIf (payloadBytes.toNat ≠ expected) invalid

/-- The scratch area holds the largest fixed prefix; a read that succeeds has
filled exactly the bytes of the value. -/
def readWire {T : Type} (source : ByteSource) (offset : UInt64) (codec : Codec T) : Except BodyDecodeError T :=
  if maxFixedPrefixBytes < codec.size then .error (.protocol .internalError)
  else match source.readAt offset codec.size with
    | .error _ => .error .access
    | .ok bytes => .ok (codec.decode bytes)

def readPayload {T : Type} (request : ByteSource) (codec : Codec T) : Except BodyDecodeError T :=
  readWire request requestHeaderBytes codec

def objectId (raw : UInt64) : Except BodyDecodeError ObjectId :=
  (ObjectId.fromRaw raw).elim (.error invalid) .ok

def decodeObject (request : ByteSource) (payloadBytes : UInt32) : Except BodyDecodeError ObjectId := do
  expectPayloadBytes payloadBytes ObjectPayload.codec.size
  let value ← readPayload request ObjectPayload.codec
  objectId value.objectId

def decodeRange (offset bytes : UInt64) : Except BodyDecodeError BufferRange :=
  (BufferRange.new offset bytes).mapError (fun _ => invalid)

/-- A transfer prefix, followed by its data when it has any. -/
def decodeTransfer (request : ByteSource) (payloadBytes : UInt32) (hasData : Bool) :
    Except BodyDecodeError (ObjectId × BufferRange) := do
  refuseIf (payloadBytes.toNat < TransferBufferRequest.codec.size) invalid
  let value ← readPayload request TransferBufferRequest.codec
  refuseIf (value.bytes = 0 ∨ 2 ^ 64 ≤ value.offset.toNat + value.bytes.toNat) invalid
  refuseIf (hasData = true ∧ 2 ^ 64 ≤ TransferBufferRequest.codec.size + value.bytes.toNat) resourceLimit
  refuseIf (TransferBufferRequest.codec.size + (if hasData then value.bytes.toNat else 0) ≠ payloadBytes.toNat)
    invalid
  let bufferId ← objectId value.bufferId
  let range ← decodeRange value.offset value.bytes
  return (bufferId, range)

def decodeBinding (request : ByteSource) (offset : UInt64) : Except BodyDecodeError DecodedBinding := do
  let binding ← readWire request offset WireBinding.codec
  refuseIf (binding.reserved ≠ Vector.replicate 3 0) invalid
  refuseIf (binding.bytes = 0 ∨ 2 ^ 64 ≤ binding.offset.toNat + binding.bytes.toNat) invalid
  let range ← decodeRange binding.offset binding.bytes
  let access ← (AccessMode.tryFrom binding.access).mapError (fun _ => invalid)
  let bufferId ← objectId binding.bufferId
  return { bufferId, range, slot := binding.slot, access }

def sortBindings (bindings : List DecodedBinding) : List DecodedBinding :=
  bindings.insertionSort (fun left right => left.slot ≤ right.slot)

structure FrameDecoder where
  limits : DecoderLimits
  deriving DecidableEq

namespace FrameDecoder
variable (self : FrameDecoder)

def decodeCreateContext (request : ByteSource) (payloadBytes : UInt32) :
    Except BodyDecodeError DecodedRequestBody := do
  expectPayloadBytes payloadBytes CreateContextRequest.codec.size
  let value ← readPayload request CreateContextRequest.codec
  refuseIf (value.flags ≠ 0) unsupported
  refuseIf (value.reserved ≠ 0) invalid
  return .createContext ⟨0⟩

def decodeAllocateBuffer (request : ByteSource) (payloadBytes : UInt32) :
    Except BodyDecodeError DecodedRequestBody := do
  expectPayloadBytes payloadBytes AllocateBufferRequest.codec.size
  let value ← readPayload request AllocateBufferRequest.codec
  let contextId ← objectId value.contextId
  refuseIf (value.reserved0 ≠ Vector.replicate 7 0 ∨ value.reserved1 ≠ 0) invalid
  let domain ← (MemoryDomain.tryFrom value.memoryDomain).mapError (fun _ => invalid)
  refuseIf (¬ Flags32.contains BufferUsage.all value.usage) unsupported
  refuseIf (value.usage = 0) invalid
  let desc ← (BufferDesc.new value.bytes value.alignment domain value.usage).mapError (fun _ => invalid)
  refuseIf (self.limits.maxBufferBytes < desc.bytes) resourceLimit
  refuseIf (¬ self.limits.capabilities.supportsMemoryDomain domain) unsupported
  return .allocateBuffer contextId desc

def decodeWriteBuffer (request : ByteSource) (payloadBytes : UInt32) :
    Except BodyDecodeError DecodedRequestBody := do
  let (bufferId, range) ← decodeTransfer request payloadBytes true
  let data ← (request.readableRegion (requestHeaderBytes + UInt64.ofNat TransferBufferRequest.codec.size)
    range.bytes).mapError (fun _ => .access)
  return .writeBuffer bufferId range data

def decodeLoadProgram (request : ByteSource) (payloadBytes : UInt32) :
    Except BodyDecodeError DecodedRequestBody := do
  refuseIf (payloadBytes.toNat < LoadProgramRequest.codec.size) invalid
  let value ← readPayload request LoadProgramRequest.codec
  refuseIf (value.flags ≠ 0) unsupported
  let contextId ← objectId value.contextId
  let format ← (ArtifactFormat.new value.format).elim (.error invalid) .ok
  refuseIf (value.payloadBytes = 0 ∨ value.residentBytes = 0) invalid
  refuseIf (2 ^ 64 ≤ LoadProgramRequest.codec.size + value.payloadBytes.toNat) resourceLimit
  refuseIf (LoadProgramRequest.codec.size + value.payloadBytes.toNat ≠ payloadBytes.toNat) invalid
  refuseIf (self.limits.maxArtifactBytes < value.payloadBytes) resourceLimit
  let payload ← (request.readableRegion (requestHeaderBytes + UInt64.ofNat LoadProgramRequest.codec.size)
    value.payloadBytes).mapError (fun _ => .access)
  return .loadProgram contextId format value.target payload value.residentBytes

def decodeCreateQueue (request : ByteSource) (payloadBytes : UInt32) :
    Except BodyDecodeError DecodedRequestBody := do
  expectPayloadBytes payloadBytes CreateQueueRequest.codec.size
  let value ← readPayload request CreateQueueRequest.codec
  refuseIf (value.flags ≠ 0) unsupported
  refuseIf (value.reserved ≠ 0) invalid
  let contextId ← objectId value.contextId
  return .createQueue contextId ⟨0⟩

/-- `reserve` is the allocator's answer for the binding vector. -/
def decodeSubmit (reserve : Bool) (request : ByteSource) (payloadBytes : UInt32) :
    Except BodyDecodeError DecodedRequestBody := do
  refuseIf (payloadBytes.toNat < SubmitRequest.codec.size) invalid
  let value ← readPayload request SubmitRequest.codec
  refuseIf (value.flags ≠ 0) unsupported
  refuseIf (value.bindingCount = 0) invalid
  refuseIf (self.limits.maxBindings < value.bindingCount ∨ hardMaxBindings < value.bindingCount) resourceLimit
  refuseIf (SubmitRequest.codec.size + value.bindingCount.toNat * WireBinding.codec.size ≠ payloadBytes.toNat)
    invalid
  refuseIf (reserve = false) (.protocol .outOfMemory)
  let bindings ← (List.range value.bindingCount.toNat).mapM (fun index => decodeBinding request
    (requestHeaderBytes + UInt64.ofNat SubmitRequest.codec.size + UInt64.ofNat (index * WireBinding.codec.size)))
  refuseIf (¬ (sortBindings bindings).IsChain (fun left right => left.slot ≠ right.slot)) invalid
  let queueId ← objectId value.queueId
  let programId ← objectId value.programId
  return .submit queueId programId (sortBindings bindings) (Timeout.fromWireNs value.timeoutNs)

def decodeBody (reserve : Bool) (request : ByteSource) (payloadBytes : UInt32) :
    KnownOpcode → Except BodyDecodeError DecodedRequestBody
  | .getDeviceInfo => do
    expectPayloadBytes payloadBytes 0
    return .getDeviceInfo
  | .createContext => decodeCreateContext request payloadBytes
  | .destroyContext => return .destroyContext (← decodeObject request payloadBytes)
  | .allocateBuffer => self.decodeAllocateBuffer request payloadBytes
  | .freeBuffer => return .freeBuffer (← decodeObject request payloadBytes)
  | .writeBuffer => decodeWriteBuffer request payloadBytes
  | .readBuffer => do
    let (bufferId, range) ← decodeTransfer request payloadBytes false
    refuseIf (2 ^ 64 ≤ responseHeaderBytes.toNat + range.bytes.toNat) resourceLimit
    return .readBuffer bufferId range
  | .loadProgram => self.decodeLoadProgram request payloadBytes
  | .unloadProgram => return .unloadProgram (← decodeObject request payloadBytes)
  | .createQueue => decodeCreateQueue request payloadBytes
  | .destroyQueue => return .destroyQueue (← decodeObject request payloadBytes)
  | .submit => self.decodeSubmit reserve request payloadBytes
  | .pollEvent => return .pollEvent (← decodeObject request payloadBytes)
  | .cancelEvent => return .cancelEvent (← decodeObject request payloadBytes)
  | .destroyEvent => return .destroyEvent (← decodeObject request payloadBytes)

end FrameDecoder

/-- The largest success payload of each command, which `decode_body` returns
beside the body. -/
def DecodedRequestBody.successPayload : DecodedRequestBody → Nat
  | getDeviceInfo => WireDeviceInfo.codec.size
  | createContext _ | allocateBuffer _ _ | loadProgram _ _ _ _ _ | createQueue _ _ => ObjectPayload.codec.size
  | readBuffer _ range => range.bytes.toNat
  | submit _ _ _ _ => SubmitResponse.codec.size
  | pollEvent _ => WireEventState.codec.size
  | destroyContext _ | freeBuffer _ | writeBuffer _ _ _ | unloadProgram _ | destroyQueue _ | cancelEvent _
  | destroyEvent _ => 0

def DecodedRequestBody.requiredResponseBytes (body : DecodedRequestBody) : Nat :=
  ResponseHeader.codec.size + body.successPayload

namespace FrameDecoder

/-- The checks on the header, before the opcode decides the body. -/
def decodeHeader (self : FrameDecoder) (request : ByteSource) (responseCapacity : UInt64) :
    Except FrameDecodeError (RequestHeader × KnownOpcode) := do
  refuseIf (responseCapacity < responseHeaderBytes) (.unrecoverable .responseHeader)
  refuseIf (request.len < requestHeaderBytes) (.unrecoverable .requestHeader)
  let header ← (readWire request 0 RequestHeader.codec).mapError (fun _ => .unrecoverable .requestAccess)
  let rejected (status : StatusCode) : FrameDecodeError := .protocol header.requestId status
  refuseIf (self.limits.maxRequestBytes.toNat < request.len.toNat) (rejected .resourceLimit)
  refuseIf (request.len.toNat ≠ RequestHeader.codec.size + header.payloadBytes.toNat) (rejected .invalidArgument)
  refuseIf (header.requestId = 0) (rejected .invalidArgument)
  refuseIf (header.flags ≠ 0) (rejected .unsupported)
  let opcode ← header.knownOpcode.elim (.error (rejected .unsupported)) .ok
  return (header, opcode)

def decode (self : FrameDecoder) (reserve : Bool) (request : ByteSource) (responseCapacity : UInt64) :
    Except FrameDecodeError DecodedRequest := do
  let (header, opcode) ← self.decodeHeader request responseCapacity
  let body ← (self.decodeBody reserve request header.payloadBytes opcode).mapError (fun error =>
    match error with
    | .protocol status => .protocol header.requestId status
    | .access => .unrecoverable .requestAccess)
  let required := body.requiredResponseBytes
  refuseIf (self.limits.maxResponseBytes.toNat < required) (.protocol header.requestId .resourceLimit)
  refuseIf (responseCapacity.toNat < required)
    (.insufficientResponse header.requestId (UInt64.ofNat required) responseCapacity)
  return { requestId := header.requestId, requiredResponseBytes := UInt32.ofNat required, body }

end FrameDecoder

end VirtioAccel
