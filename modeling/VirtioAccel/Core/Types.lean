import Mathlib.Data.UInt

namespace VirtioAccel
variable {B : Type}

/-- Why a backend refuses a call. -/
inductive BackendError where
  | unsupported | incompatible | invalidArgument | outOfBounds | busy | outOfMemory
  | resourceLimit | deadlineExpired | deviceLost | permissionDenied
  | external (domain : UInt32) (code : Int64)
  deriving DecidableEq

/-- `bitflags` sets are represented by their words. -/
def Flags32.contains (self other : UInt32) : Bool := self &&& other == other
def Flags32.intersects (self other : UInt32) : Bool := self &&& other != 0
def Flags64.contains (self other : UInt64) : Bool := self &&& other == other
def Flags64.intersects (self other : UInt64) : Bool := self &&& other != 0

abbrev Capabilities := UInt64

namespace Capabilities

def hostVisibleMemory : Capabilities := 0b1
def deviceLocalMemory : Capabilities := 0b10
def eventCancellation : Capabilities := 0b100
def externalMemory : Capabilities := 0b1000
def secureContexts : Capabilities := 0b10000
def sharedMemory : Capabilities := 0b100000
def memoryDomains : Capabilities := hostVisibleMemory ||| deviceLocalMemory ||| sharedMemory
def reserved : Capabilities := externalMemory ||| secureContexts

end Capabilities

/-- Where the bytes of a buffer are. -/
inductive MemoryDomain where
  | host | device | shared
  deriving DecidableEq

def MemoryDomain.tryFrom : UInt8 → Except BackendError MemoryDomain
  | 1 => .ok .host
  | 2 => .ok .device
  | 3 => .ok .shared
  | _ => .error .invalidArgument

def MemoryDomain.toU8 : MemoryDomain → UInt8
  | .host => 1
  | .device => 2
  | .shared => 3

def Capabilities.supportsMemoryDomain (self : Capabilities) : MemoryDomain → Bool
  | .host => Flags64.contains self hostVisibleMemory
  | .device => Flags64.contains self deviceLocalMemory
  | .shared => Flags64.contains self sharedMemory

/-- The class word of `AcceleratorClass` is kept raw. -/
structure DeviceIdentity where
  uuid : Vector UInt8 16
  acceleratorClass : UInt16
  vendorId : UInt32
  deviceId : UInt32
  deriving DecidableEq

/-- How many objects of each kind a device holds, and how large they are. -/
structure DeviceLimits where
  maxContexts : UInt32
  maxBuffersPerContext : UInt32
  maxProgramsPerContext : UInt32
  maxQueuesPerContext : UInt32
  maxEventsPerContext : UInt32
  maxBindingsPerSubmission : UInt32
  maxBufferBytes : UInt64
  maxArtifactBytes : UInt64
  deriving DecidableEq

/-- What a device says of itself. -/
structure DeviceInfo where
  identity : DeviceIdentity
  capabilities : Capabilities
  limits : DeviceLimits
  deriving DecidableEq

inductive DeviceInfoError where
  | reservedCapabilities | missingMemoryDomain | zeroLimit
  deriving DecidableEq

abbrev BufferUsage := UInt32

namespace BufferUsage

def transferSource : BufferUsage := 0b1
def transferDestination : BufferUsage := 0b10
def programInput : BufferUsage := 0b100
def programOutput : BufferUsage := 0b1000
def mutableState : BufferUsage := 0b10000
def all : BufferUsage := 0b11111

end BufferUsage

def isPowerOfTwo (value : UInt64) : Bool := value != 0 && value &&& (value - 1) == 0

/-- How a submission uses a buffer. -/
inductive AccessMode where
  | read | write | readWrite
  deriving DecidableEq

def AccessMode.tryFrom : UInt8 → Except BackendError AccessMode
  | 1 => .ok .read
  | 2 => .ok .write
  | 3 => .ok .readWrite
  | _ => .error .invalidArgument

def AccessMode.toU8 : AccessMode → UInt8
  | .read => 1
  | .write => 2
  | .readWrite => 3

/-- The size and alignment are private in the source and carry what the
constructor checks about them; the usage set is public and does not. -/
structure BufferDesc where
  bytes : UInt64
  alignment : UInt64
  domain : MemoryDomain
  usage : BufferUsage
  bytes_nonzero : bytes ≠ 0
  alignment_power : isPowerOfTwo alignment = true
  deriving DecidableEq

namespace BufferDesc

def new (bytes alignment : UInt64) (domain : MemoryDomain) (usage : BufferUsage) : Except BackendError BufferDesc :=
  if sized : bytes ≠ 0 then
    if aligned : isPowerOfTwo alignment = true then
      if usage = 0 ∨ ¬ Flags32.contains BufferUsage.all usage then .error .invalidArgument
      else .ok ⟨bytes, alignment, domain, usage, sized, aligned⟩
    else .error .invalidArgument
  else .error .invalidArgument

def allowsAccess (self : BufferDesc) : AccessMode → Bool
  | .read => Flags32.intersects self.usage (BufferUsage.programInput ||| BufferUsage.mutableState)
  | .write => Flags32.intersects self.usage (BufferUsage.programOutput ||| BufferUsage.mutableState)
  | .readWrite => Flags32.contains self.usage BufferUsage.mutableState

def isProgramVisible (self : BufferDesc) : Bool :=
  Flags32.intersects self.usage
    (BufferUsage.programInput ||| BufferUsage.programOutput ||| BufferUsage.mutableState)

end BufferDesc

abbrev BufferProperties := UInt32

namespace BufferProperties

def hostVisible : BufferProperties := 0b1
def deviceLocal : BufferProperties := 0b10
def directBinding : BufferProperties := 0b100
def all : BufferProperties := 0b111

end BufferProperties

/-- The checks of the allocation-metadata constructor, in its order. -/
def BufferInfo.check (desc : BufferDesc) (allocationBytes alignment : UInt64) (properties : BufferProperties) :
    Except BackendError Unit :=
  if allocationBytes = 0 then .error .invalidArgument
  else if alignment = 0 then .error .invalidArgument
  else if ¬ Flags32.contains BufferProperties.all properties then .error .invalidArgument
  else if allocationBytes < desc.bytes ∨ ¬ isPowerOfTwo alignment ∨ alignment < desc.alignment then
    .error .incompatible
  else
    let required := match desc.domain with
      | .host => BufferProperties.hostVisible
      | .device => BufferProperties.deviceLocal
      | .shared => BufferProperties.hostVisible ||| BufferProperties.directBinding
    if ¬ Flags32.contains properties required ∨
        (desc.isProgramVisible ∧ ¬ Flags32.contains properties BufferProperties.directBinding) then
      .error .incompatible
    else .ok ()

/-- Verified properties of one provider allocation; every field is private, so
a value exists only when the constructor's checks passed. -/
structure BufferInfo where
  desc : BufferDesc
  allocationBytes : UInt64
  alignment : UInt64
  properties : BufferProperties
  verified : BufferInfo.check desc allocationBytes alignment properties = .ok ()
  deriving DecidableEq

/-- A nonempty byte range whose end is representable. -/
structure BufferRange where
  offset : UInt64
  bytes : UInt64
  bytes_nonzero : bytes ≠ 0
  end_fits : offset.toNat + bytes.toNat < 2 ^ 64
  deriving DecidableEq

namespace BufferRange

def new (offset bytes : UInt64) : Except BackendError BufferRange :=
  if sized : bytes ≠ 0 then
    if fits : offset.toNat + bytes.toNat < 2 ^ 64 then .ok ⟨offset, bytes, sized, fits⟩
    else .error .outOfBounds
  else .error .invalidArgument

/-- One past the last byte, `end` in the source. -/
def stop (self : BufferRange) : UInt64 := self.offset + self.bytes

end BufferRange

def DeviceInfo.validate (self : DeviceInfo) : Except DeviceInfoError Unit :=
  if Flags64.intersects self.capabilities Capabilities.reserved then .error .reservedCapabilities
  else if ¬ Flags64.intersects self.capabilities Capabilities.memoryDomains then .error .missingMemoryDomain
  else if self.limits.maxContexts = 0 ∨ self.limits.maxBuffersPerContext = 0 ∨
      self.limits.maxProgramsPerContext = 0 ∨ self.limits.maxQueuesPerContext = 0 ∨
      self.limits.maxEventsPerContext = 0 ∨ self.limits.maxBindingsPerSubmission = 0 ∨
      self.limits.maxBufferBytes = 0 ∨ self.limits.maxArtifactBytes = 0 then .error .zeroLimit
  else .ok ()

/-- The flag words of both descriptors have reserved bits only. -/
structure ContextDesc where
  flags : UInt32
  deriving DecidableEq

structure QueueDesc where
  flags : UInt32
  deriving DecidableEq

def DeviceInfo.validateContextDesc (_self : DeviceInfo) (desc : ContextDesc) : Except BackendError Unit :=
  if desc.flags = 0 then .ok () else .error .unsupported

def DeviceInfo.validateQueueDesc (_self : DeviceInfo) (desc : QueueDesc) : Except BackendError Unit :=
  if desc.flags = 0 then .ok () else .error .unsupported

def DeviceInfo.validateBufferDesc (self : DeviceInfo) (desc : BufferDesc) : Except BackendError Unit :=
  if self.limits.maxBufferBytes < desc.bytes then .error .resourceLimit
  else if ¬ self.capabilities.supportsMemoryDomain desc.domain then .error .unsupported
  else .ok ()

def DeviceInfo.validateEventCancellation (self : DeviceInfo) : Except BackendError Unit :=
  if Flags64.contains self.capabilities Capabilities.eventCancellation then .ok () else .error .unsupported

/-- A format of programs; zero is none. -/
structure ArtifactFormat where
  value : UInt32
  nonzero : value ≠ 0
  deriving DecidableEq

def ArtifactFormat.new (value : UInt32) : Option ArtifactFormat :=
  if nonzero : value ≠ 0 then some ⟨value, nonzero⟩ else none

abbrev TargetIdentity := Vector UInt32 12

/-- Zero on the wire means infinite; the bounded case is never zero. -/
inductive Timeout where
  | infinite
  | afterNs (value : UInt64) (nonzero : value ≠ 0)
  deriving DecidableEq

def Timeout.fromWireNs (value : UInt64) : Timeout :=
  if nonzero : value ≠ 0 then .afterNs value nonzero else .infinite

def Timeout.toWireNs : Timeout → UInt64
  | .infinite => 0
  | .afterNs value _ => value

/-- How far a submission has come. -/
inductive EventState where
  | pending | complete
  | failed (error : BackendError)
  | cancelled
  deriving DecidableEq

/-- `indeterminate` carries the event that owns the invocation. -/
inductive SubmitFailure (E : Type) where
  | rejected (error : BackendError)
  | indeterminate (error : BackendError) (event : E)

/-- `rejected` hands the live resource back for a retry. -/
inductive ReleaseFailure (R : Type) where
  | rejected (error : BackendError) (resource : R)
  | indeterminate (error : BackendError)

def ReleaseFailure.error {R : Type} : ReleaseFailure R → BackendError
  | .rejected error _ => error
  | .indeterminate error => error

/-- A range of a buffer at a slot of the program. -/
structure BindingRef (B : Type) where
  slot : UInt32
  buffer : B
  range : BufferRange
  access : AccessMode

/-- Ascending slots do not repeat. -/
theorem slots_nodup {α : Type} {slot : α → UInt32} {items : List α}
    (ascending : items.IsChain (fun left right => slot left < slot right)) : (items.map slot).Nodup := by
  have trans : IsTrans α (fun left right => slot left < slot right) := ⟨fun _ _ _ => UInt32.lt_trans⟩
  refine List.pairwise_map.mpr ((List.isChain_iff_pairwise.mp ascending).imp (fun less same => ?_))
  exact absurd (same ▸ less) (UInt32.lt_irrefl _)

/-- The fallback for other orders: each binding is compared with those before it. -/
def scanSlots {B : Type} (earlier : List (BindingRef B)) : List (BindingRef B) → Except BackendError Unit
  | [] => .ok ()
  | binding :: rest =>
    if earlier.any (fun prior => prior.slot == binding.slot) then .error .invalidArgument
    else scanSlots (earlier ++ [binding]) rest

/-- Strictly slot-ordered input takes the linear path; any other order is
accepted as long as no slot repeats. -/
def validateBindings {B : Type} (bindings : List (BindingRef B)) (maxBindings : UInt32) :
    Except BackendError Unit :=
  if bindings.isEmpty ∨ maxBindings.toNat < bindings.length then .error .resourceLimit
  else if bindings.IsChain (fun left right => left.slot < right.slot) then .ok ()
  else scanSlots [] bindings

theorem scanSlots_eq_ok {earlier rest : List (BindingRef B)} (distinct : (earlier.map BindingRef.slot).Nodup) :
    scanSlots earlier rest = .ok () ↔ ((earlier ++ rest).map BindingRef.slot).Nodup := by
  induction rest generalizing earlier with
  | nil => simpa [scanSlots] using distinct
  | cons binding rest ih =>
    have split : earlier ++ binding :: rest = earlier ++ [binding] ++ rest := by simp
    rw [scanSlots, split]
    by_cases fresh : binding.slot ∈ earlier.map BindingRef.slot
    · have seen : earlier.any (fun prior => prior.slot == binding.slot) = true := by simpa using fresh
      rw [if_pos seen]
      refine ⟨nofun, fun all => ?_⟩
      rw [List.map_append, List.map_append, List.nodup_append, List.nodup_append] at all
      exact absurd rfl (all.1.2.2 _ fresh _ (by simp))
    · have unseen : ¬ earlier.any (fun prior => prior.slot == binding.slot) = true := by simpa using fresh
      rw [if_neg unseen]
      refine ih ?_
      rw [List.map_append, List.nodup_append]
      refine ⟨distinct, by simp, fun slot member other same equal => fresh ?_⟩
      rw [List.map_singleton, List.mem_singleton] at same
      exact same ▸ equal ▸ member

theorem validateBindings_eq_ok {bindings : List (BindingRef B)} {maxBindings : UInt32} :
    validateBindings bindings maxBindings = .ok () ↔
      bindings ≠ [] ∧ bindings.length ≤ maxBindings.toNat ∧ (bindings.map BindingRef.slot).Nodup := by
  unfold validateBindings
  by_cases outside : bindings.isEmpty ∨ maxBindings.toNat < bindings.length
  · rw [if_pos outside]
    refine ⟨nofun, fun ⟨listed, few, _⟩ => ?_⟩
    rcases outside with none | many
    · exact absurd (List.isEmpty_iff.mp none) listed
    · omega
  rw [if_neg outside]
  have within : bindings ≠ [] ∧ bindings.length ≤ maxBindings.toNat := by
    simpa [not_or] using outside
  by_cases ascending : bindings.IsChain (fun left right => left.slot < right.slot)
  · rw [if_pos ascending]
    exact ⟨fun _ => ⟨within.1, within.2, slots_nodup ascending⟩, fun _ => rfl⟩
  have scanned : scanSlots [] bindings = .ok () ↔ (([] ++ bindings).map BindingRef.slot).Nodup :=
    scanSlots_eq_ok List.nodup_nil
  rw [if_neg ascending, scanned]
  exact ⟨fun distinct => ⟨within.1, within.2, distinct⟩, fun valid => valid.2.2⟩

end VirtioAccel
