import VirtioAccel.Library.Codec
import VirtioAccel.Proto.Protocol

/-! Pointer-free little-endian wire structures, fields in wire order. -/

namespace VirtioAccel
open Codec

structure RequestHeader where
  opcode : UInt16
  flags : UInt16
  payloadBytes : UInt32
  requestId : UInt64
  deriving DecidableEq

def RequestHeader.codec : Codec RequestHeader :=
  (u16.seq (u16.seq (u32.seq u64))).iso
    (fun (opcode, flags, payloadBytes, requestId) => ⟨opcode, flags, payloadBytes, requestId⟩)
    (fun wire => (wire.opcode, wire.flags, wire.payloadBytes, wire.requestId))
    (fun _ => rfl)

def RequestHeader.new (opcode : KnownOpcode) (payloadBytes : UInt32) (requestId : UInt64) : RequestHeader :=
  ⟨opcode.toU16, 0, payloadBytes, requestId⟩

def RequestHeader.knownOpcode (self : RequestHeader) : Option KnownOpcode := KnownOpcode.tryFrom self.opcode

structure ResponseHeader where
  status : UInt16
  flags : UInt16
  payloadBytes : UInt32
  requestId : UInt64
  deriving DecidableEq

def ResponseHeader.codec : Codec ResponseHeader :=
  (u16.seq (u16.seq (u32.seq u64))).iso
    (fun (status, flags, payloadBytes, requestId) => ⟨status, flags, payloadBytes, requestId⟩)
    (fun wire => (wire.status, wire.flags, wire.payloadBytes, wire.requestId))
    (fun _ => rfl)

def ResponseHeader.new (status : StatusCode) (payloadBytes : UInt32) (requestId : UInt64) : ResponseHeader :=
  ⟨status.value, 0, payloadBytes, requestId⟩

structure WireDeviceInfo where
  uuid : Vector UInt8 16
  acceleratorClass : UInt16
  reserved : UInt16
  vendorId : UInt32
  deviceId : UInt32
  capabilities : UInt64
  maxContexts : UInt32
  maxBuffersPerContext : UInt32
  maxProgramsPerContext : UInt32
  maxQueuesPerContext : UInt32
  maxEventsPerContext : UInt32
  maxBindingsPerSubmission : UInt32
  maxBufferBytes : UInt64
  maxArtifactBytes : UInt64
  deriving DecidableEq

def WireDeviceInfo.codec : Codec WireDeviceInfo :=
  ((u8.array 16).seq (u16.seq (u16.seq (u32.seq (u32.seq (u64.seq
    (u32.seq (u32.seq (u32.seq (u32.seq (u32.seq (u32.seq (u64.seq u64))))))))))))).iso
    (fun (uuid, acceleratorClass, reserved, vendorId, deviceId, capabilities, maxContexts, maxBuffersPerContext,
      maxProgramsPerContext, maxQueuesPerContext, maxEventsPerContext, maxBindingsPerSubmission, maxBufferBytes,
      maxArtifactBytes) => ⟨uuid, acceleratorClass, reserved, vendorId, deviceId, capabilities, maxContexts,
      maxBuffersPerContext, maxProgramsPerContext, maxQueuesPerContext, maxEventsPerContext,
      maxBindingsPerSubmission, maxBufferBytes, maxArtifactBytes⟩)
    (fun wire => (wire.uuid, wire.acceleratorClass, wire.reserved, wire.vendorId, wire.deviceId, wire.capabilities,
      wire.maxContexts, wire.maxBuffersPerContext, wire.maxProgramsPerContext, wire.maxQueuesPerContext,
      wire.maxEventsPerContext, wire.maxBindingsPerSubmission, wire.maxBufferBytes, wire.maxArtifactBytes))
    (fun _ => rfl)

structure CreateContextRequest where
  flags : UInt32
  reserved : UInt32
  deriving DecidableEq

def CreateContextRequest.codec : Codec CreateContextRequest :=
  (u32.seq u32).iso (fun (flags, reserved) => ⟨flags, reserved⟩) (fun wire => (wire.flags, wire.reserved))
    (fun _ => rfl)

structure ObjectPayload where
  objectId : UInt64
  deriving DecidableEq

def ObjectPayload.codec : Codec ObjectPayload :=
  u64.iso (fun objectId => ⟨objectId⟩) ObjectPayload.objectId (fun _ => rfl)

structure AllocateBufferRequest where
  contextId : UInt64
  bytes : UInt64
  alignment : UInt64
  memoryDomain : UInt8
  reserved0 : Vector UInt8 7
  usage : UInt32
  reserved1 : UInt32
  deriving DecidableEq

def AllocateBufferRequest.codec : Codec AllocateBufferRequest :=
  (u64.seq (u64.seq (u64.seq (u8.seq ((u8.array 7).seq (u32.seq
    u32)))))).iso
    (fun (contextId, bytes, alignment, memoryDomain, reserved0, usage, reserved1) => ⟨contextId, bytes, alignment,
      memoryDomain, reserved0, usage, reserved1⟩)
    (fun wire => (wire.contextId, wire.bytes, wire.alignment, wire.memoryDomain, wire.reserved0, wire.usage,
      wire.reserved1))
    (fun _ => rfl)

structure TransferBufferRequest where
  bufferId : UInt64
  offset : UInt64
  bytes : UInt64
  deriving DecidableEq

def TransferBufferRequest.codec : Codec TransferBufferRequest :=
  (u64.seq (u64.seq u64)).iso (fun (bufferId, offset, bytes) => ⟨bufferId, offset, bytes⟩)
    (fun wire => (wire.bufferId, wire.offset, wire.bytes))
    (fun _ => rfl)

structure LoadProgramRequest where
  contextId : UInt64
  format : UInt32
  flags : UInt32
  target : Vector UInt32 12
  payloadBytes : UInt64
  residentBytes : UInt64
  deriving DecidableEq

def LoadProgramRequest.codec : Codec LoadProgramRequest :=
  (u64.seq (u32.seq (u32.seq ((u32.array 12).seq (u64.seq u64))))).iso
    (fun (contextId, format, flags, target, payloadBytes, residentBytes) => ⟨contextId, format, flags, target,
      payloadBytes, residentBytes⟩)
    (fun wire => (wire.contextId, wire.format, wire.flags, wire.target, wire.payloadBytes, wire.residentBytes))
    (fun _ => rfl)

structure CreateQueueRequest where
  contextId : UInt64
  flags : UInt32
  reserved : UInt32
  deriving DecidableEq

def CreateQueueRequest.codec : Codec CreateQueueRequest :=
  (u64.seq (u32.seq u32)).iso (fun (contextId, flags, reserved) => ⟨contextId, flags, reserved⟩)
    (fun wire => (wire.contextId, wire.flags, wire.reserved))
    (fun _ => rfl)

structure SubmitRequest where
  queueId : UInt64
  programId : UInt64
  bindingCount : UInt32
  flags : UInt32
  timeoutNs : UInt64
  deriving DecidableEq

def SubmitRequest.codec : Codec SubmitRequest :=
  (u64.seq (u64.seq (u32.seq (u32.seq u64)))).iso (fun (queueId, programId, bindingCount, flags, timeoutNs) =>
      ⟨queueId, programId, bindingCount, flags, timeoutNs⟩)
    (fun wire => (wire.queueId, wire.programId, wire.bindingCount, wire.flags, wire.timeoutNs))
    (fun _ => rfl)

structure WireBinding where
  bufferId : UInt64
  offset : UInt64
  bytes : UInt64
  slot : UInt32
  access : UInt8
  reserved : Vector UInt8 3
  deriving DecidableEq

def WireBinding.codec : Codec WireBinding :=
  (u64.seq (u64.seq (u64.seq (u32.seq (u8.seq ((u8.array 3))))))).iso
    (fun (bufferId, offset, bytes, slot, access, reserved) => ⟨bufferId, offset, bytes, slot, access, reserved⟩)
    (fun wire => (wire.bufferId, wire.offset, wire.bytes, wire.slot, wire.access, wire.reserved))
    (fun _ => rfl)

/-- Event identifier returned for an accepted or indeterminate submission. -/
structure SubmitResponse where
  eventId : UInt64
  deriving DecidableEq

def SubmitResponse.codec : Codec SubmitResponse :=
  u64.iso (fun eventId => ⟨eventId⟩) SubmitResponse.eventId (fun _ => rfl)

structure WireEventState where
  state : UInt16
  error : UInt16
  reserved : UInt32
  deriving DecidableEq

def WireEventState.codec : Codec WireEventState :=
  (u16.seq (u16.seq u32)).iso (fun (state, error, reserved) => ⟨state, error, reserved⟩)
    (fun wire => (wire.state, wire.error, wire.reserved))
    (fun _ => rfl)

/-! The sizes the source takes with `size_of`. -/

@[simp] theorem RequestHeader.codec_size : RequestHeader.codec.size = 16 := rfl
@[simp] theorem ResponseHeader.codec_size : ResponseHeader.codec.size = 16 := rfl
@[simp] theorem WireDeviceInfo.codec_size : WireDeviceInfo.codec.size = 76 := rfl
@[simp] theorem CreateContextRequest.codec_size : CreateContextRequest.codec.size = 8 := rfl
@[simp] theorem ObjectPayload.codec_size : ObjectPayload.codec.size = 8 := rfl
@[simp] theorem AllocateBufferRequest.codec_size : AllocateBufferRequest.codec.size = 40 := rfl
@[simp] theorem TransferBufferRequest.codec_size : TransferBufferRequest.codec.size = 24 := rfl
@[simp] theorem LoadProgramRequest.codec_size : LoadProgramRequest.codec.size = 80 := rfl
@[simp] theorem CreateQueueRequest.codec_size : CreateQueueRequest.codec.size = 16 := rfl
@[simp] theorem SubmitRequest.codec_size : SubmitRequest.codec.size = 32 := rfl
@[simp] theorem WireBinding.codec_size : WireBinding.codec.size = 32 := rfl
@[simp] theorem SubmitResponse.codec_size : SubmitResponse.codec.size = 8 := rfl
@[simp] theorem WireEventState.codec_size : WireEventState.codec.size = 8 := rfl

end VirtioAccel
