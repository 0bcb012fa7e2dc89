import VirtioAccel.Core.Types
import VirtioAccel.Device.ObjectTable

namespace VirtioAccel

/-- The backend's owned handle types, one for each kind of object. -/
abbrev Handles := ObjectKind → Type

/-- Why the state refuses an operation. -/
inductive DeviceStateError where
  | invalidArgument | invalidObject | staleObject | contextMismatch | busy | resourceLimit
  | outOfMemory | releasing | invalidTransition | referenceCountOverflow
  deriving DecidableEq

/-- The state refuses, or the provider does. -/
inductive CreateError (ε : Type) where
  | state (error : DeviceStateError)
  | provider (error : ε)

/-- A buffer is admitted, or its backing breaks a rule and is to be released. -/
inductive BufferCreateOutcome where
  | admitted (id : ObjectId)
  | cleanupRequired (id : ObjectId) (error : BackendError)

/-- A restore that fails returns the resource. -/
structure RestoreError (R : Type) where
  error : DeviceStateError
  resource : R

inductive ReleaseState where
  | live | releasing
  deriving DecidableEq

/-- A handle that is present exactly while its record is live. -/
structure ResourceSlot (R : Type) where
  resource : Option R
  release : ReleaseState
  consistent : resource.isSome = true ↔ release = .live

namespace ResourceSlot
variable {R : Type}

def new (resource : R) : ResourceSlot R := ⟨some resource, .live, by simp⟩

/-- The slot of a record whose handle is out for release. -/
def taken : ResourceSlot R := ⟨none, .releasing, by simp⟩

def get (self : ResourceSlot R) : Except DeviceStateError R :=
  match self.resource with
  | some resource => .ok resource
  | none => .error .releasing

def beginRelease (self : ResourceSlot R) : Except DeviceStateError (R × ResourceSlot R) :=
  if self.release ≠ .live then .error .releasing
  else match self.resource with
    | none => .error .releasing
    | some resource => .ok (resource, taken)

def restore (self : ResourceSlot R) (resource : R) : Except (RestoreError R) (ResourceSlot R) :=
  if self.release ≠ .releasing ∨ self.resource.isSome then .error ⟨.invalidTransition, resource⟩
  else .ok (new resource)

end ResourceSlot

/-- How many objects of each kind a context owns. -/
structure ChildCounts where
  buffers : UInt32
  programs : UInt32
  queues : UInt32
  events : UInt32
  deriving DecidableEq

namespace ChildCounts

def zero : ChildCounts := ⟨0, 0, 0, 0⟩

def isEmpty (self : ChildCounts) : Bool :=
  self.buffers == 0 && self.programs == 0 && self.queues == 0 && self.events == 0

def count (self : ChildCounts) : ObjectKind → UInt32
  | .context => 0
  | .buffer => self.buffers
  | .program => self.programs
  | .queue => self.queues
  | .event => self.events

def modify (self : ChildCounts) (kind : ObjectKind) (f : UInt32 → UInt32) : ChildCounts :=
  match kind with
  | .context => self
  | .buffer => { self with buffers := f self.buffers }
  | .program => { self with programs := f self.programs }
  | .queue => { self with queues := f self.queues }
  | .event => { self with events := f self.events }

end ChildCounts

variable (A : Handles)

/-- A context and what it owns. -/
structure ContextRecord where
  resource : ResourceSlot (A .context)
  children : ChildCounts

/-- A buffer, with its uses by events that are not done. -/
structure BufferRecord where
  resource : ResourceSlot (A .buffer)
  contextId : ObjectId
  info : BufferInfo
  inFlight : UInt32

/-- A program, with its uses by events that are not done. -/
structure ProgramRecord where
  resource : ResourceSlot (A .program)
  contextId : ObjectId
  residentBytes : UInt64
  inFlight : UInt32

/-- A queue, with its events that are not done. -/
structure QueueRecord where
  resource : ResourceSlot (A .queue)
  contextId : ObjectId
  inFlight : UInt32

/-- `programId` is the first program of the sequence, when there is one. -/
structure EventRecord where
  resource : ResourceSlot (A .event)
  contextId : ObjectId
  queueId : ObjectId
  programId : ObjectId
  sequenceProgramIds : Option (List ObjectId)
  bufferIds : List ObjectId
  leads : ∀ ids, sequenceProgramIds = some ids → ids.head? = some programId

variable {A}

def EventRecord.programIds (self : EventRecord A) : List ObjectId :=
  self.sequenceProgramIds.getD [self.programId]

theorem EventRecord.programIds_head (self : EventRecord A) : self.programIds.head? = some self.programId := by
  unfold programIds
  cases sequence : self.sequenceProgramIds with
  | none => rfl
  | some ids => exact self.leads ids sequence

variable (A) in
/-- The record type of each table. -/
def Record : ObjectKind → Type
  | .context => ContextRecord A
  | .buffer => BufferRecord A
  | .program => ProgramRecord A
  | .queue => QueueRecord A
  | .event => EventRecord A

namespace Record

def resource : {kind : ObjectKind} → Record A kind → ResourceSlot (A kind)
  | .context, record => ContextRecord.resource record
  | .buffer, record => BufferRecord.resource record
  | .program, record => ProgramRecord.resource record
  | .queue, record => QueueRecord.resource record
  | .event, record => EventRecord.resource record

def setResource : {kind : ObjectKind} → Record A kind → ResourceSlot (A kind) → Record A kind
  | .context, record, slot => ({ (record : ContextRecord A) with resource := slot } : ContextRecord A)
  | .buffer, record, slot => ({ (record : BufferRecord A) with resource := slot } : BufferRecord A)
  | .program, record, slot => ({ (record : ProgramRecord A) with resource := slot } : ProgramRecord A)
  | .queue, record, slot => ({ (record : QueueRecord A) with resource := slot } : QueueRecord A)
  | .event, record, slot => ({ (record : EventRecord A) with resource := slot } : EventRecord A)

/-- The context a record belongs to; contexts belong to none. -/
def owner : {kind : ObjectKind} → Record A kind → Option ObjectId
  | .context, _ => none
  | .buffer, record => some (BufferRecord.contextId record)
  | .program, record => some (ProgramRecord.contextId record)
  | .queue, record => some (QueueRecord.contextId record)
  | .event, record => some (EventRecord.contextId record)

def inFlight : {kind : ObjectKind} → Record A kind → UInt32
  | .context, _ => 0
  | .buffer, record => BufferRecord.inFlight record
  | .program, record => ProgramRecord.inFlight record
  | .queue, record => QueueRecord.inFlight record
  | .event, _ => 0

/-- What each `begin_*_release` refuses with `Busy`. -/
def busy : {kind : ObjectKind} → Record A kind → Bool
  | .context, record => !(ContextRecord.children record).isEmpty
  | .buffer, record => BufferRecord.inFlight record != 0
  | .program, record => ProgramRecord.inFlight record != 0
  | .queue, record => QueueRecord.inFlight record != 0
  | .event, _ => false

/-- The bulk bytes a record accounts for while its handle is outstanding. -/
def charge : {kind : ObjectKind} → Record A kind → Nat
  | .buffer, record => (BufferRecord.info record).allocationBytes.toNat
  | .program, record => (ProgramRecord.residentBytes record).toNat
  | _, _ => 0

end Record

/-- The objects of one kind an event keeps in flight, with multiplicity. -/
def EventRecord.references (self : EventRecord A) : ObjectKind → List ObjectId
  | .queue => [self.queueId]
  | .program => self.programIds
  | .buffer => self.bufferIds
  | .context | .event => []

end VirtioAccel
