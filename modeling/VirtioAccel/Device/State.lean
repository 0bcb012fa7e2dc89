import VirtioAccel.Library.Checked
import VirtioAccel.Proto.Protocol
import VirtioAccel.Device.Records

namespace VirtioAccel
open Checked (refuseIf)

/-- 128-bit totals are naturals with the source's saturation and wrapping written out. -/
def saturatingAdd128 (left right : Nat) : Nat := min (left + right) (2 ^ 128 - 1)
def wrappingSub128 (left right : Nat) : Nat := (left + (2 ^ 128 - right)) % 2 ^ 128

inductive DeviceStateConfigError where
  | zeroLimit | bindingLimit | countOverflow | referenceCountOverflow
  deriving DecidableEq

/-- One number for each kind of object. -/
structure ResourceCounts where
  contexts : UInt64
  buffers : UInt64
  programs : UInt64
  queues : UInt64
  events : UInt64
  deriving DecidableEq

/-- How many bytes the device may retain. -/
structure ResourcePolicy where
  maxBufferBackingBytes : UInt64
  maxProgramResidentBytes : UInt64
  nonzero : maxBufferBackingBytes ≠ 0 ∧ maxProgramResidentBytes ≠ 0
  deriving DecidableEq

/-- The bytes that buffers and programs take. -/
structure RetainedBytes where
  bufferBacking : Nat
  programResident : Nat
  deriving DecidableEq

def mapTableError : ObjectTableError → DeviceStateError
  | .invalidId => .invalidObject
  | .wrongKind | .staleId => .staleObject
  | .full => .resourceLimit
  | .allocationFailed => .outOfMemory

/-- The objects of the device, a table for each kind. -/
structure DeviceState (A : Handles) where
  objectNamespace : ObjectNamespace
  limits : DeviceLimits
  policy : ResourcePolicy
  retained : RetainedBytes
  contexts : ObjectTable (ContextRecord A)
  buffers : ObjectTable (BufferRecord A)
  programs : ObjectTable (ProgramRecord A)
  queues : ObjectTable (QueueRecord A)
  events : ObjectTable (EventRecord A)

/-- Validated provider resources of one submission. -/
structure SubmissionResources (A : Handles) where
  contextId : ObjectId
  queue : A .queue
  program : A .program
  buffers : ObjectTable (BufferRecord A)
  bufferIds : List ObjectId

/-- Validated provider resources of one ordered submission. -/
structure SubmissionSequenceResources (A : Handles) where
  contextId : ObjectId
  queue : A .queue
  programs : ObjectTable (ProgramRecord A)
  programIds : List ObjectId
  buffers : ObjectTable (BufferRecord A)
  bufferIds : List ObjectId

/-- The binary search of the source runs on the sorted list, so it decides membership. -/
def SubmissionResources.bufferWithInfoById {A : Handles} (self : SubmissionResources A) (id : ObjectId) :
    Except DeviceStateError (A .buffer × BufferInfo) := do
  refuseIf (id ∉ self.bufferIds) .invalidArgument
  let record ← (self.buffers.get id).mapError mapTableError
  let buffer ← record.resource.get
  return (buffer, record.info)

def aggregateSlots (contexts perContext : UInt32) : Except DeviceStateConfigError UInt32 :=
  if contexts.toNat * perContext.toNat < 2 ^ 32 then .ok (contexts * perContext) else .error .countOverflow

namespace DeviceState
variable {A : Handles} {ω ε : Type}
variable (s : DeviceState A)

def new (ns : ObjectNamespace) (limits : DeviceLimits) (policy : ResourcePolicy) :
    Except DeviceStateConfigError (DeviceState A) := do
  refuseIf (limits.maxContexts = 0 ∨ limits.maxBuffersPerContext = 0 ∨ limits.maxProgramsPerContext = 0 ∨
    limits.maxQueuesPerContext = 0 ∨ limits.maxEventsPerContext = 0 ∨ limits.maxBufferBytes = 0 ∨
    limits.maxArtifactBytes = 0) .zeroLimit
  refuseIf (¬ (1 ≤ limits.maxBindingsPerSubmission ∧ limits.maxBindingsPerSubmission ≤ hardMaxBindings))
    .bindingLimit
  refuseIf (¬ limits.maxEventsPerContext.toNat * limits.maxBindingsPerSubmission.toNat < 2 ^ 32)
    .referenceCountOverflow
  let buffers ← aggregateSlots limits.maxContexts limits.maxBuffersPerContext
  let programs ← aggregateSlots limits.maxContexts limits.maxProgramsPerContext
  let queues ← aggregateSlots limits.maxContexts limits.maxQueuesPerContext
  let events ← aggregateSlots limits.maxContexts limits.maxEventsPerContext
  return {
    objectNamespace := ns, limits, policy, retained := ⟨0, 0⟩
    contexts := ObjectTable.withNamespace .context limits.maxContexts ns
    buffers := ObjectTable.withNamespace .buffer buffers ns
    programs := ObjectTable.withNamespace .program programs ns
    queues := ObjectTable.withNamespace .queue queues ns
    events := ObjectTable.withNamespace .event events ns }

def resourceCounts : ResourceCounts :=
  { contexts := s.contexts.len.toUInt64
    buffers := s.buffers.len.toUInt64
    programs := s.programs.len.toUInt64
    queues := s.queues.len.toUInt64
    events := s.events.len.toUInt64 }

def isEmpty : Bool :=
  s.contexts.isEmpty && s.buffers.isEmpty && s.programs.isEmpty && s.queues.isEmpty && s.events.isEmpty

/-- The table of one kind, and the state with that table replaced. -/
def table : (kind : ObjectKind) → ObjectTable (Record A kind)
  | .context => s.contexts
  | .buffer => s.buffers
  | .program => s.programs
  | .queue => s.queues
  | .event => s.events

def setTable : (kind : ObjectKind) → ObjectTable (Record A kind) → DeviceState A
  | .context, contexts => { s with contexts := contexts }
  | .buffer, buffers => { s with buffers := buffers }
  | .program, programs => { s with programs := programs }
  | .queue, queues => { s with queues := queues }
  | .event, events => { s with events := events }

def contextRecord (id : ObjectId) : Except DeviceStateError (ContextRecord A) :=
  (s.contexts.get id).mapError mapTableError

def bufferRecord (id : ObjectId) : Except DeviceStateError (BufferRecord A) :=
  (s.buffers.get id).mapError mapTableError

def programRecord (id : ObjectId) : Except DeviceStateError (ProgramRecord A) :=
  (s.programs.get id).mapError mapTableError

def queueRecord (id : ObjectId) : Except DeviceStateError (QueueRecord A) :=
  (s.queues.get id).mapError mapTableError

def eventRecord (id : ObjectId) : Except DeviceStateError (EventRecord A) :=
  (s.events.get id).mapError mapTableError

/-! Creation. A provider closure runs against an outer world `ω`, so that the
caller can record what it asked of the provider. `reserve` is the allocator's
answer to the table's own reservation. -/

def createContextWith (reserve : Bool) (create : ω → Except ε (A .context) × ω) (w : ω) :
    Except (CreateError ε) ObjectId × DeviceState A × ω :=
  if s.limits.maxContexts ≤ s.contexts.len then (.error (.state .resourceLimit), s, w)
  else match s.contexts.tryReserveInsert reserve with
    | .error error => (.error (.state (mapTableError error)), s, w)
    | .ok () =>
      match create w with
      | (.error error, w) => (.error (.provider error), s, w)
      | (.ok resource, w) =>
        let inserted := s.contexts.insertPrepared ⟨ResourceSlot.new resource, ChildCounts.zero⟩
        (.ok inserted.1, { s with contexts := inserted.2 }, w)

def checkChildAdmission (contextId : ObjectId) (child : ObjectKind) (limit : UInt32) :
    Except DeviceStateError Unit := do
  let context ← s.contextRecord contextId
  let _ ← context.resource.get
  refuseIf (limit ≤ context.children.count child) .resourceLimit

/-- Everything `create_{buffer,program,queue}_with` ask before their provider
call; the handle is the context's. -/
def admitChild (child : ObjectKind) (limit : UInt32) (reserve : Bool) (contextId : ObjectId) :
    Except DeviceStateError (A .context) := do
  s.checkChildAdmission contextId child limit
  ((s.table child).tryReserveInsert reserve).mapError mapTableError
  let context ← s.contextRecord contextId
  context.resource.get

/-- What the borrowed context reference of a creation writes afterwards. -/
def countChild (contextId : ObjectId) (child : ObjectKind) : DeviceState A :=
  match s.contexts.getMut contextId
    (fun context => ((), { context with children := context.children.modify child (· + 1) })) with
  | .ok ((), contexts) => { s with contexts }
  | .error _ => s

/-- The common body of `create_{buffer,program,queue}_with`: `adopt` makes the
record and the retained totals from what the provider returned. -/
def createChildWith {X : Type} (s : DeviceState A) (child : ObjectKind) (limit : UInt32) (reserve : Bool)
    (contextId : ObjectId) (create : A .context → ω → Except ε X × ω)
    (adopt : X → Record A child × RetainedBytes) (w : ω) :
    Except (CreateError ε) (ObjectId × X) × DeviceState A × ω :=
  match s.admitChild child limit reserve contextId with
  | .error error => (.error (.state error), s, w)
  | .ok context =>
    match create context w with
    | (.error error, w) => (.error (.provider error), s, w)
    | (.ok made, w) =>
      let inserted := (s.table child).insertPrepared (adopt made).1
      (.ok (inserted.1, made),
        { (s.setTable child inserted.2).countChild contextId child with retained := (adopt made).2 }, w)

def createBufferWith (reserve : Bool) (contextId : ObjectId) (desc : BufferDesc)
    (create : A .context → BufferDesc → ω → Except ε (A .buffer × BufferInfo) × ω) (w : ω) :
    Except (CreateError ε) BufferCreateOutcome × DeviceState A × ω :=
  let retainedWith (bytes : UInt64) := saturatingAdd128 s.retained.bufferBacking bytes.toNat
  if s.limits.maxBufferBytes < desc.bytes then (.error (.state .resourceLimit), s, w)
  else if s.policy.maxBufferBackingBytes.toNat < retainedWith desc.bytes then
    (.error (.state .resourceLimit), s, w)
  else
    match s.createChildWith .buffer s.limits.maxBuffersPerContext reserve contextId
      (fun context => create context desc)
      (fun (resource, info) => (⟨ResourceSlot.new resource, contextId, info, 0⟩,
        { s.retained with bufferBacking := retainedWith info.allocationBytes })) w with
    | (.error error, s, w) => (.error error, s, w)
    | (.ok (id, _, info), after, w) =>
      if info.desc ≠ desc then (.ok (.cleanupRequired id .incompatible), after, w)
      else if s.policy.maxBufferBackingBytes.toNat < retainedWith info.allocationBytes then
        (.ok (.cleanupRequired id .resourceLimit), after, w)
      else (.ok (.admitted id), after, w)

def createProgramWith (reserve : Bool) (contextId : ObjectId)
    (artifactBytes residentBytes : UInt64) (create : A .context → ω → Except ε (A .program) × ω) (w : ω) :
    Except (CreateError ε) ObjectId × DeviceState A × ω :=
  let retained := saturatingAdd128 s.retained.programResident residentBytes.toNat
  if artifactBytes = 0 ∨ residentBytes = 0 then (.error (.state .invalidArgument), s, w)
  else if s.limits.maxArtifactBytes < artifactBytes then (.error (.state .resourceLimit), s, w)
  else if s.policy.maxProgramResidentBytes.toNat < retained then (.error (.state .resourceLimit), s, w)
  else
    match s.createChildWith .program s.limits.maxProgramsPerContext reserve contextId create
      (fun resource => (⟨ResourceSlot.new resource, contextId, residentBytes, 0⟩,
        { s.retained with programResident := retained })) w with
    | (.error error, s, w) => (.error error, s, w)
    | (.ok (id, _), s, w) => (.ok id, s, w)

def createQueueWith (reserve : Bool) (contextId : ObjectId)
    (create : A .context → ω → Except ε (A .queue) × ω) (w : ω) :
    Except (CreateError ε) ObjectId × DeviceState A × ω :=
  match s.createChildWith .queue s.limits.maxQueuesPerContext reserve contextId create
    (fun resource => (⟨ResourceSlot.new resource, contextId, 0⟩, s.retained)) w with
  | (.error error, s, w) => (.error error, s, w)
  | (.ok (id, _), s, w) => (.ok id, s, w)

end DeviceState

end VirtioAccel
