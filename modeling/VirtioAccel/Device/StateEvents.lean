import VirtioAccel.Device.State

namespace VirtioAccel
open Checked (refuseIf)

/-- Borrow and rewrite each named record in turn, stopping at the first that
does not resolve; earlier writes stay. -/
def ObjectTable.mutateEach {T : Type} (t : ObjectTable T) (f : T → T) :
    List ObjectId → Except ObjectTableError Unit × ObjectTable T
  | [] => (.ok (), t)
  | id :: rest =>
    match t.getMut id (fun record => ((), f record)) with
    | .error error => (.error error, t)
    | .ok ((), t) => t.mutateEach f rest

namespace DeviceState
variable {A : Handles} {ω ε : Type}
variable (s : DeviceState A)

/-- One buffer or program of a submission: live and in the queue's context. -/
def validateMember {R : Type} (contextId owner : ObjectId) (resource : ResourceSlot R) :
    Except DeviceStateError Unit := do
  let _ ← resource.get
  refuseIf (owner ≠ contextId) .contextMismatch

def validateSubmission (queueId programId : ObjectId) (bufferIds : List ObjectId) :
    Except DeviceStateError ObjectId := do
  let queue ← s.queueRecord queueId
  let _ ← queue.resource.get
  let program ← s.programRecord programId
  validateMember queue.contextId program.contextId program.resource
  bufferIds.forM (fun bufferId => do
    let buffer ← s.bufferRecord bufferId
    validateMember queue.contextId buffer.contextId buffer.resource)
  return queue.contextId

def validateSubmissionSequence (queueId : ObjectId) (programIds bufferIds : List ObjectId) :
    Except DeviceStateError ObjectId :=
  match programIds with
  | [] => .error .invalidArgument
  | first :: rest => do
    let contextId ← s.validateSubmission queueId first bufferIds
    rest.forM (fun programId => do
      let program ← s.programRecord programId
      validateMember contextId program.contextId program.resource)
    return contextId

/-- `checked_add` on a reference count of at most `u32::MAX` more. -/
def checkIncrement (inFlight : UInt32) (count : Nat) : Except DeviceStateError Unit :=
  if 2 ^ 32 ≤ count then .error .referenceCountOverflow
  else if 2 ^ 32 ≤ inFlight.toNat + count then .error .referenceCountOverflow
  else .ok ()

/-- Each program is checked at its first occurrence, for all of them. -/
def checkProgramIncrement (seen : List ObjectId) (id : ObjectId) (count : Nat) : Except DeviceStateError Unit :=
  if id ∈ seen then .ok ()
  else do
    let program ← s.programRecord id
    checkIncrement program.inFlight count

def checkProgramIncrements (s : DeviceState A) (seen : List ObjectId) : List ObjectId → Except DeviceStateError Unit
  | [] => .ok ()
  | id :: rest => do
    s.checkProgramIncrement seen id ((id :: rest).count id)
    s.checkProgramIncrements (id :: seen) rest

/-- The runs of equal identifiers in the sorted list, one check for each run;
a list has at most as many runs as entries. -/
def checkBufferIncrements (s : DeviceState A) : Nat → List ObjectId → Except DeviceStateError Unit
  | 0, _ => .ok ()
  | _, [] => .ok ()
  | fuel + 1, id :: rest => do
    let buffer ← s.bufferRecord id
    checkIncrement buffer.inFlight ((rest.takeWhile (· = id)).length + 1)
    s.checkBufferIncrements fuel (rest.dropWhile (· = id))

def checkReferenceIncrements (queueId : ObjectId) (programIds sortedBufferIds : List ObjectId) :
    Except DeviceStateError Unit := do
  let queue ← s.queueRecord queueId
  checkIncrement queue.inFlight 1
  s.checkProgramIncrements [] programIds
  s.checkBufferIncrements sortedBufferIds.length sortedBufferIds

/-- The two reference loops differ in the arithmetic alone. -/
def adjustEventReferences (f : UInt32 → UInt32) (contextId queueId : ObjectId)
    (programIds bufferIds : List ObjectId) : Except DeviceStateError Unit × DeviceState A :=
  match s.queues.mutateEach (fun record => { record with inFlight := f record.inFlight }) [queueId] with
  | (.error error, queues) => (.error (mapTableError error), { s with queues })
  | (.ok (), queues) =>
    match s.programs.mutateEach (fun record => { record with inFlight := f record.inFlight }) programIds with
    | (.error error, programs) => (.error (mapTableError error), { s with queues, programs })
    | (.ok (), programs) =>
      match s.buffers.mutateEach (fun record => { record with inFlight := f record.inFlight }) bufferIds with
      | (.error error, buffers) => (.error (mapTableError error), { s with queues, programs, buffers })
      | (.ok (), buffers) =>
        match s.contexts.mutateEach
          (fun record => { record with children := record.children.modify .event f }) [contextId] with
        | (.error error, contexts) =>
          (.error (mapTableError error), { s with queues, programs, buffers, contexts })
        | (.ok (), contexts) => (.ok (), { s with queues, programs, buffers, contexts })

def incrementEventReferences :=
  s.adjustEventReferences (· + 1)

def decrementEventReferences :=
  s.adjustEventReferences (· - 1)

def sortIds (ids : List ObjectId) : List ObjectId :=
  ids.insertionSort (fun left right => left.raw ≤ right.raw)

/-- The admission of an event, once its submission was validated. -/
def admitEvent (reserve : Bool) (validated : Except DeviceStateError ObjectId)
    (queueId : ObjectId) (programIds sortedBufferIds : List ObjectId) : Except DeviceStateError ObjectId := do
  let contextId ← validated
  let context ← s.contextRecord contextId
  refuseIf (s.limits.maxEventsPerContext ≤ context.children.events) .resourceLimit
  (s.events.tryReserveInsert reserve).mapError mapTableError
  s.checkReferenceIncrements queueId programIds sortedBufferIds
  return contextId

/-- The common tail of `create_event_with` and `create_event_sequence_with`:
references are taken before the provider call and given back if it fails. -/
def createEventFrom {X : Type} (s : DeviceState A) (admitted : Except DeviceStateError ObjectId)
    (queueId : ObjectId) (programIds bufferIds : List ObjectId)
    (resolve : DeviceState A → ObjectId → Except DeviceStateError X) (create : X → ω → Except ε (A .event) × ω)
    (record : A .event → ObjectId → EventRecord A) (w : ω) :
    Except (CreateError ε) ObjectId × DeviceState A × ω :=
  match admitted with
  | .error error => (.error (.state error), s, w)
  | .ok contextId =>
    match s.incrementEventReferences contextId queueId programIds bufferIds with
    | (.error error, s) => (.error (.state error), s, w)
    | (.ok (), s) =>
      match resolve s contextId with
      | .error error => (.error (.state error), s, w)
      | .ok resources =>
        match create resources w with
        | (.error error, w) =>
          match s.decrementEventReferences contextId queueId programIds bufferIds with
          | (.error failure, s) => (.error (.state failure), s, w)
          | (.ok (), s) => (.error (.provider error), s, w)
        | (.ok event, w) =>
          let inserted := s.events.insertPrepared (record event contextId)
          (.ok inserted.1, { s with events := inserted.2 }, w)

/-- The lookups of `create_event_with` between its references and its provider call. -/
def resolveSubmission (queueId programId : ObjectId) (sorted : List ObjectId) (s : DeviceState A)
    (contextId : ObjectId) : Except DeviceStateError (SubmissionResources A) := do
  let queue ← s.queueRecord queueId
  let queue ← queue.resource.get
  let program ← s.programRecord programId
  let program ← program.resource.get
  return { contextId, queue, program, buffers := s.buffers, bufferIds := sorted }

/-- The lookup of `create_event_sequence_with` at the same place. -/
def resolveSequence (queueId : ObjectId) (programIds sorted : List ObjectId) (s : DeviceState A)
    (contextId : ObjectId) : Except DeviceStateError (SubmissionSequenceResources A) := do
  let queue ← s.queueRecord queueId
  let queue ← queue.resource.get
  return { contextId, queue, programs := s.programs, programIds, buffers := s.buffers, bufferIds := sorted }

def submissionRecord (queueId programId : ObjectId) (sorted : List ObjectId) (event : A .event)
    (contextId : ObjectId) : EventRecord A :=
  { resource := ResourceSlot.new event, contextId, queueId, programId
    sequenceProgramIds := none, bufferIds := sorted, leads := by simp }

def sequenceRecord (queueId first : ObjectId) (rest sorted : List ObjectId) (event : A .event)
    (contextId : ObjectId) : EventRecord A :=
  { resource := ResourceSlot.new event, contextId, queueId, programId := first
    sequenceProgramIds := some (first :: rest), bufferIds := sorted
    leads := by rintro ids ⟨⟩; rfl }

def createEventWith (reserve : Bool) (queueId programId : ObjectId) (bufferIds : List ObjectId)
    (create : SubmissionResources A → ω → Except ε (A .event) × ω) (w : ω) :
    Except (CreateError ε) ObjectId × DeviceState A × ω :=
  let sorted := sortIds bufferIds
  if bufferIds.isEmpty then (.error (.state .invalidArgument), s, w)
  else if s.limits.maxBindingsPerSubmission.toNat < bufferIds.length then
    (.error (.state .resourceLimit), s, w)
  else
    s.createEventFrom
      (s.admitEvent reserve (s.validateSubmission queueId programId bufferIds) queueId [programId] sorted)
      queueId [programId] sorted
      (resolveSubmission queueId programId sorted)
      create
      (submissionRecord queueId programId sorted) w

def createEventSequenceWith (reserve : Bool) (queueId : ObjectId)
    (programIds bufferIds : List ObjectId) (create : SubmissionSequenceResources A → ω → Except ε (A .event) × ω)
    (w : ω) : Except (CreateError ε) ObjectId × DeviceState A × ω :=
  let sorted := sortIds bufferIds
  match programIds with
  | [] => (.error (.state .invalidArgument), s, w)
  | first :: rest =>
    if bufferIds.isEmpty then (.error (.state .invalidArgument), s, w)
    else
      s.createEventFrom
        (s.admitEvent reserve (s.validateSubmissionSequence queueId (first :: rest) bufferIds) queueId
          (first :: rest) sorted)
        queueId (first :: rest) sorted
        (resolveSequence queueId (first :: rest) sorted)
        create
        (sequenceRecord queueId first rest sorted) w

/-! Release. Each kind moves through begin, then restore or commit. -/

/-- What `begin_*_release` and `restore_resource` do to the record they borrow. -/
def beginRecord {kind : ObjectKind} (record : Record A kind) : Except DeviceStateError (A kind) × Record A kind :=
  if record.busy then (.error .busy, record)
  else match record.resource.beginRelease with
    | .error error => (.error error, record)
    | .ok (resource, slot) => (.ok resource, record.setResource slot)

def restoreRecord {kind : ObjectKind} (resource : A kind) (record : Record A kind) :
    Except (RestoreError (A kind)) Unit × Record A kind :=
  match record.resource.restore resource with
  | .error error => (.error error, record)
  | .ok slot => (.ok (), record.setResource slot)

def beginRelease (kind : ObjectKind) (id : ObjectId) : Except DeviceStateError (A kind) × DeviceState A :=
  match (s.table kind).getMut id beginRecord with
  | .error error => (.error (mapTableError error), s)
  | .ok (result, table) => (result, s.setTable kind table)

def beginContextRelease := s.beginRelease .context
def beginBufferRelease := s.beginRelease .buffer
def beginProgramRelease := s.beginRelease .program
def beginQueueRelease := s.beginRelease .queue
def beginEventRelease := s.beginRelease .event

def restoreRelease (kind : ObjectKind) (id : ObjectId) (resource : A kind) :
    Except (RestoreError (A kind)) Unit × DeviceState A :=
  match (s.table kind).getMut id (restoreRecord resource) with
  | .error error => (.error ⟨mapTableError error, resource⟩, s)
  | .ok (result, table) => (result, s.setTable kind table)

def restoreContextRelease := s.restoreRelease .context
def restoreBufferRelease := s.restoreRelease .buffer
def restoreProgramRelease := s.restoreRelease .program
def restoreQueueRelease := s.restoreRelease .queue
def restoreEventRelease := s.restoreRelease .event

def ensureReleasing {R : Type} (slot : ResourceSlot R) : Except DeviceStateError Unit :=
  if slot.release ≠ .releasing then .error .invalidTransition else .ok ()

/-- Look a record up, insist that it is being released, and remove it. -/
def removeReleasing {T R : Type} (t : ObjectTable T) (slot : T → ResourceSlot R) (id : ObjectId) :
    Except DeviceStateError (T × ObjectTable T) := do
  let record ← (t.get id).mapError mapTableError
  ensureReleasing (slot record)
  (t.remove id).mapError mapTableError

def commitContextRelease (id : ObjectId) : Except DeviceStateError Unit × DeviceState A :=
  match removeReleasing s.contexts ContextRecord.resource id with
  | .error error => (.error error, s)
  | .ok (_, contexts) => (.ok (), { s with contexts })

/-- Buffers, programs and queues also leave their context's count and, for the
first two, the retained total. -/
def commitChildRelease (kind : ObjectKind) (contextId : Record A kind → ObjectId)
    (refund : Record A kind → RetainedBytes → RetainedBytes) (id : ObjectId) :
    Except DeviceStateError Unit × DeviceState A :=
  match removeReleasing (s.table kind) Record.resource id with
  | .error error => (.error error, s)
  | .ok (record, table) =>
    let s := { s.setTable kind table with retained := refund record s.retained }
    match s.contexts.getMut (contextId record)
      (fun context => ((), { context with children := context.children.modify kind (· - 1) })) with
    | .error error => (.error (mapTableError error), s)
    | .ok ((), contexts) => (.ok (), { s with contexts })

def refundBuffer (record : BufferRecord A) (retained : RetainedBytes) : RetainedBytes :=
  { retained with bufferBacking := wrappingSub128 retained.bufferBacking record.info.allocationBytes.toNat }

def refundProgram (record : ProgramRecord A) (retained : RetainedBytes) : RetainedBytes :=
  { retained with programResident := wrappingSub128 retained.programResident record.residentBytes.toNat }

def commitBufferRelease :=
  s.commitChildRelease .buffer BufferRecord.contextId refundBuffer

def commitProgramRelease :=
  s.commitChildRelease .program ProgramRecord.contextId refundProgram

def commitQueueRelease :=
  s.commitChildRelease .queue QueueRecord.contextId (fun _ retained => retained)

def commitEventRelease (id : ObjectId) : Except DeviceStateError Unit × DeviceState A :=
  let removed : Except DeviceStateError (EventRecord A × ObjectTable (EventRecord A)) := do
    let record ← s.eventRecord id
    ensureReleasing record.resource
    let _ ← s.validateSubmissionSequence record.queueId record.programIds record.bufferIds
    (s.events.remove id).mapError mapTableError
  match removed with
  | .error error => (.error error, s)
  | .ok (record, events) =>
    { s with events }.decrementEventReferences record.contextId record.queueId record.programIds record.bufferIds

def commitRelease : (kind : ObjectKind) → ObjectId → Except DeviceStateError Unit × DeviceState A
  | .context => s.commitContextRelease
  | .buffer => s.commitBufferRelease
  | .program => s.commitProgramRelease
  | .queue => s.commitQueueRelease
  | .event => s.commitEventRelease

/-- What a write through `buffer_record_mut` and `resource_mut` leaves behind. -/
def writeBufferRecord (buffer : A .buffer) (record : BufferRecord A) : Unit × BufferRecord A :=
  ((), if record.resource.release = .live then { record with resource := ResourceSlot.new buffer } else record)

def setBufferResource (id : ObjectId) (buffer : A .buffer) : DeviceState A :=
  match s.buffers.getMut id (writeBufferRecord buffer) with
  | .ok ((), buffers) => { s with buffers }
  | .error _ => s

end DeviceState

end VirtioAccel
