import VirtioAccel.Library.Checked
import VirtioAccel.Proto.Wire
import VirtioAccel.Device.ObjectTable
import VirtioAccel.Transport.Driver

/-! The guest's typed values. Its memory domains, access modes and byte ranges
are those of the core crate under other error names, and its nonzero
identifiers are the words of `ObjectId`; one type stands for both. -/

namespace VirtioAccel.Guest

inductive ValueError where
  | zero | overflow | alignment | bufferUsage
  deriving DecidableEq

/-- What a well-formed failure means for the ownership of the operation. -/
inductive FailureDisposition where
  | retryable | invalidated | indeterminate | unknown
  deriving DecidableEq

/-- A locally valid request; its usage is never empty and has known bits only. -/
structure BufferDesc extends VirtioAccel.BufferDesc where
  usage_some : usage ≠ 0
  usage_known : Flags32.contains BufferUsage.all usage = true
  deriving DecidableEq

def BufferDesc.new (bytes alignment : UInt64) (domain : MemoryDomain) (usage : BufferUsage) :
    Except ValueError BufferDesc :=
  if sized : bytes ≠ 0 then
    if aligned : isPowerOfTwo alignment = true then
      if used : usage ≠ 0 ∧ Flags32.contains BufferUsage.all usage = true then
        .ok ⟨⟨bytes, alignment, domain, usage, sized, aligned⟩, used.1, used.2⟩
      else .error .bufferUsage
    else .error .alignment
  else .error .zero

def BufferRange.new (offset bytes : UInt64) : Except ValueError BufferRange :=
  if sized : bytes ≠ 0 then
    if fits : offset.toNat + bytes.toNat < 2 ^ 64 then .ok ⟨offset, bytes, sized, fits⟩
    else .error .overflow
  else .error .zero

def BufferRange.fits (self : BufferRange) (limit : UInt64) : Bool :=
  self.offset.toNat + self.bytes.toNat ≤ limit.toNat

@[ext]
structure ProgramDesc where
  format : ArtifactFormat
  target : TargetIdentity
  residentBytes : UInt64
  resident_nonzero : residentBytes ≠ 0

instance : DecidableEq ProgramDesc := fun a b =>
  decidable_of_iff (a.format = b.format ∧ a.target = b.target ∧ a.residentBytes = b.residentBytes)
    ProgramDesc.ext_iff.symm

/-- An object of the device, valid in one epoch of the queue. -/
structure Handle where
  id : ObjectId
  epoch : QueueEpoch
  deriving DecidableEq

/-- The family `simple_handle!` declares. -/
structure SimpleHandle (kind : ObjectKind) where
  handle : Handle
  context : Option ObjectId
  deriving DecidableEq

abbrev Context := SimpleHandle .context
abbrev Program := SimpleHandle .program
abbrev ExecutionQueue := SimpleHandle .queue
abbrev Event := SimpleHandle .event

/-- A buffer of a context, as it was allocated. -/
structure Buffer where
  handle : Handle
  context : ObjectId
  desc : BufferDesc
  deriving DecidableEq

structure Binding where
  buffer : Buffer
  range : BufferRange
  slot : UInt32
  access : AccessMode
  deriving DecidableEq

structure DeviceInfo where
  uuid : Vector UInt8 16
  acceleratorClass : UInt16
  vendorId : UInt32
  deviceId : UInt32
  capabilities : UInt64
  maxContexts : UInt32
  maxBuffersPerContext : UInt32
  maxProgramsPerContext : UInt32
  maxQueuesPerContext : UInt32
  maxEventsPerContext : UInt32
  maxBindingsPerSubmission : UInt32
  maxBufferBytes : UInt64
  maxArtifactBytes : UInt64
  deriving DecidableEq

/-- Why the guest refuses what the device says of itself. -/
inductive DeviceInfoError where
  | reserved | reservedCapabilities | missingMemoryDomain | zeroLimit | bindingLimit | artifactLimit
  deriving DecidableEq

namespace DeviceInfo
open Checked (refuseIf)

def fromWire (wire : WireDeviceInfo) (maxRequestBytes : UInt32) : Except DeviceInfoError DeviceInfo := do
  refuseIf (wire.reserved ≠ 0) .reserved
  refuseIf (Flags64.intersects wire.capabilities Capabilities.reserved = true) .reservedCapabilities
  refuseIf (¬ Flags64.intersects wire.capabilities Capabilities.memoryDomains) .missingMemoryDomain
  refuseIf (wire.maxContexts = 0 ∨ wire.maxBuffersPerContext = 0 ∨ wire.maxProgramsPerContext = 0 ∨
    wire.maxQueuesPerContext = 0 ∨ wire.maxEventsPerContext = 0) .zeroLimit
  refuseIf (¬ (1 ≤ wire.maxBindingsPerSubmission ∧ wire.maxBindingsPerSubmission ≤ hardMaxBindings)) .bindingLimit
  refuseIf (wire.maxBufferBytes = 0 ∨ wire.maxArtifactBytes = 0) .zeroLimit
  refuseIf (2 ^ 64 ≤ 16 + 80 + wire.maxArtifactBytes.toNat) .artifactLimit
  refuseIf (maxRequestBytes.toNat < 16 + 80 + wire.maxArtifactBytes.toNat) .artifactLimit
  return {
    uuid := wire.uuid
    acceleratorClass := wire.acceleratorClass
    vendorId := wire.vendorId
    deviceId := wire.deviceId
    capabilities := wire.capabilities
    maxContexts := wire.maxContexts
    maxBuffersPerContext := wire.maxBuffersPerContext
    maxProgramsPerContext := wire.maxProgramsPerContext
    maxQueuesPerContext := wire.maxQueuesPerContext
    maxEventsPerContext := wire.maxEventsPerContext
    maxBindingsPerSubmission := wire.maxBindingsPerSubmission
    maxBufferBytes := wire.maxBufferBytes
    maxArtifactBytes := wire.maxArtifactBytes }

def supportsDomain (self : DeviceInfo) : MemoryDomain → Bool
  | .host => Flags64.intersects self.capabilities Capabilities.hostVisibleMemory
  | .device => Flags64.intersects self.capabilities Capabilities.deviceLocalMemory
  | .shared => Flags64.intersects self.capabilities Capabilities.sharedMemory

end DeviceInfo

inductive EventState where
  | pending | complete
  | failed (status : StatusCode)
  | cancelled
  deriving DecidableEq

/-- An indeterminate admission also hands over the event that owns it. -/
inductive SubmissionOutcome where
  | accepted (event : Event)
  | indeterminate (status : StatusCode) (event : Event)
  deriving DecidableEq

structure ReadBufferOutput where
  bytes : UInt64
  deriving DecidableEq

end VirtioAccel.Guest
