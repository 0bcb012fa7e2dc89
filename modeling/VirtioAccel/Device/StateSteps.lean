import VirtioAccel.Device.ObjectTableFrames
import VirtioAccel.Device.StateRelease

/-! What each operation on a device state comes to. -/

namespace VirtioAccel
variable {A : Handles} {ω ε : Type}

theorem ObjectTable.mutateEach_frame {T : Type} (t : ObjectTable T) (f : T → T) (ids : List ObjectId) :
    t.SameFrame (t.mutateEach f ids).2 := by
  induction ids generalizing t with
  | nil => exact .refl t
  | cons id rest ih =>
    unfold mutateEach
    split
    · exact .refl t
    rename_i middle done
    exact (getMut_frame done).trans (ih middle)

namespace DeviceState
variable {s s' : DeviceState A} {kind : ObjectKind} {id : ObjectId}
variable {bufferIds : List ObjectId} {error : CreateError ε} {queueId : ObjectId} {w w' : ω}
variable {programIds : List ObjectId} {reserve : Bool}

/-- The public operations that change a state, each with what its caller and
its provider choose. `ω` is whatever the provider closures work on. -/
inductive Operation (A : Handles) (ω ε : Type) where
  | createContext (reserve : Bool) (create : ω → Except ε (A .context) × ω)
  | createBuffer (reserve : Bool) (contextId : ObjectId) (desc : BufferDesc)
      (create : A .context → BufferDesc → ω → Except ε (A .buffer × BufferInfo) × ω)
  | createProgram (reserve : Bool) (contextId : ObjectId) (artifactBytes residentBytes : UInt64)
      (create : A .context → ω → Except ε (A .program) × ω)
  | createQueue (reserve : Bool) (contextId : ObjectId) (create : A .context → ω → Except ε (A .queue) × ω)
  | createEvent (reserve : Bool) (queueId programId : ObjectId) (bufferIds : List ObjectId)
      (create : SubmissionResources A → ω → Except ε (A .event) × ω)
  | createEventSequence (reserve : Bool) (queueId : ObjectId) (programIds bufferIds : List ObjectId)
      (create : SubmissionSequenceResources A → ω → Except ε (A .event) × ω)
  | beginRelease (kind : ObjectKind) (id : ObjectId)
  | restoreRelease (kind : ObjectKind) (id : ObjectId) (handle : A kind)
  | commitRelease (kind : ObjectKind) (id : ObjectId)
  | writeBuffer (id : ObjectId) (buffer : A .buffer)

def step (current : DeviceState A × ω) : Operation A ω ε → DeviceState A × ω
  | .createContext reserve create => (current.1.createContextWith reserve create current.2).2
  | .createBuffer reserve contextId desc create =>
    (current.1.createBufferWith reserve contextId desc create current.2).2
  | .createProgram reserve contextId artifactBytes residentBytes create =>
    (current.1.createProgramWith reserve contextId artifactBytes residentBytes create current.2).2
  | .createQueue reserve contextId create => (current.1.createQueueWith reserve contextId create current.2).2
  | .createEvent reserve queueId programId bufferIds create =>
    (current.1.createEventWith reserve queueId programId bufferIds create current.2).2
  | .createEventSequence reserve queueId programIds bufferIds create =>
    (current.1.createEventSequenceWith reserve queueId programIds bufferIds create current.2).2
  | .beginRelease kind id => ((current.1.beginRelease kind id).2, current.2)
  | .restoreRelease kind id handle => ((current.1.restoreRelease kind id handle).2, current.2)
  | .commitRelease kind id => ((current.1.commitRelease kind id).2, current.2)
  | .writeBuffer id buffer => (current.1.setBufferResource id buffer, current.2)

def run (start : DeviceState A × ω) (operations : List (Operation A ω ε)) : DeviceState A × ω :=
  operations.foldl step start

/-- The states may differ in the records alone. -/
def SameFrames (s s' : DeviceState A) : Prop := ∀ kind, (s.table kind).SameFrame (s'.table kind)

theorem SameFrames.trans {first second third : DeviceState A} (left : first.SameFrames second)
    (right : second.SameFrames third) : first.SameFrames third := fun kind => (left kind).trans (right kind)

/-- With its frames a state that shows the same records is the same state. -/
theorem SameView.eq (same : SameView s s') (wf : ∀ kind, (s.table kind).WellFormed) (frames : s.SameFrames s') :
    s' = s := by
  have table : ∀ kind, s'.table kind = s.table kind := fun kind =>
    (frames kind).eq_of_lookup (wf kind) (same.tables kind) (same.lookup kind)
  obtain ⟨objectNamespace, limits, policy⟩ := same.config
  have retained := same.retained
  have contexts : s'.contexts = s.contexts := table .context
  have buffers : s'.buffers = s.buffers := table .buffer
  have programs : s'.programs = s.programs := table .program
  have queues : s'.queues = s.queues := table .queue
  have events : s'.events = s.events := table .event
  clear same wf frames table
  obtain ⟨_, _, _, _, _, _, _, _, _⟩ := s
  obtain ⟨_, _, _, _, _, _, _, _, _⟩ := s'
  cases objectNamespace
  cases limits
  cases policy
  cases retained
  cases contexts
  cases buffers
  cases programs
  cases queues
  cases events
  rfl

theorem setTable_frames {t : ObjectTable (Record A kind)} (frame : (s.table kind).SameFrame t) :
    s.SameFrames (s.setTable kind t) := by
  intro other
  by_cases same : other = kind
  · subst other
    rw [table_setTable_self]
    exact frame
  · rw [table_setTable_ne s t same]
    exact .refl _

theorem beginRelease_frames (s : DeviceState A) (kind : ObjectKind) (id : ObjectId) :
    s.SameFrames (s.beginRelease kind id).2 := by
  unfold beginRelease
  split
  · exact fun _ => .refl _
  rename_i done
  exact setTable_frames (ObjectTable.getMut_frame done)

theorem restoreRelease_frames (s : DeviceState A) (kind : ObjectKind) (id : ObjectId) (handle : A kind) :
    s.SameFrames (s.restoreRelease kind id handle).2 := by
  unfold restoreRelease
  split
  · exact fun _ => .refl _
  rename_i done
  exact setTable_frames (ObjectTable.getMut_frame done)

theorem setBufferResource_frames (s : DeviceState A) (id : ObjectId) (buffer : A .buffer) :
    s.SameFrames (s.setBufferResource id buffer) := by
  unfold setBufferResource
  split
  · rename_i buffers done
    have frames : s.SameFrames (s.setTable .buffer buffers) := setTable_frames (ObjectTable.getMut_frame done)
    exact frames
  · exact fun _ => .refl _

theorem adjustEventReferences_frames (s : DeviceState A) (f : UInt32 → UInt32) (contextId queueId : ObjectId)
    (programIds bufferIds : List ObjectId) :
    s.SameFrames (s.adjustEventReferences f contextId queueId programIds bufferIds).2 := by
  have queues := s.queues.mutateEach_frame (fun record => { record with inFlight := f record.inFlight }) [queueId]
  have programs :=
    s.programs.mutateEach_frame (fun record => { record with inFlight := f record.inFlight }) programIds
  have buffers := s.buffers.mutateEach_frame (fun record => { record with inFlight := f record.inFlight }) bufferIds
  have contexts := s.contexts.mutateEach_frame
    (fun record => { record with children := record.children.modify .event f }) [contextId]
  unfold adjustEventReferences
  split <;> rename_i done <;> rw [done] at queues
  · rintro (_ | _ | _ | _ | _)
    exacts [.refl _, .refl _, .refl _, queues, .refl _]
  split <;> rename_i done <;> rw [done] at programs
  · rintro (_ | _ | _ | _ | _)
    exacts [.refl _, .refl _, programs, queues, .refl _]
  split <;> rename_i done <;> rw [done] at buffers
  · rintro (_ | _ | _ | _ | _)
    exacts [.refl _, buffers, programs, queues, .refl _]
  split <;> rename_i done <;> rw [done] at contexts
  all_goals
    rintro (_ | _ | _ | _ | _)
    exacts [contexts, buffers, programs, queues, .refl _]

/-- A creation whose provider refuses only takes references and gives them back. -/
theorem createEventFrom_frames {X : Type} {admitted : Except DeviceStateError ObjectId}
    {resolve : DeviceState A → ObjectId → Except DeviceStateError X} {create : X → ω → Except ε (A .event) × ω}
    {record : A .event → ObjectId → EventRecord A}
    (failed : s.createEventFrom admitted queueId programIds bufferIds resolve create record w =
      (.error error, s', w')) :
    s.SameFrames s' := by
  unfold createEventFrom at failed
  split at failed
  · cases failed
    exact fun _ => .refl _
  rename_i contextId
  have increments := s.adjustEventReferences_frames (· + 1) contextId queueId programIds bufferIds
  split at failed
  · rename_i taken done
    cases failed
    rw [show s.adjustEventReferences (· + 1) contextId queueId programIds bufferIds = _ from done] at increments
    exact increments
  rename_i taken done
  rw [show s.adjustEventReferences (· + 1) contextId queueId programIds bufferIds = _ from done] at increments
  split at failed
  · cases failed
    exact increments
  split at failed
  · have decrements := taken.adjustEventReferences_frames (· - 1) contextId queueId programIds bufferIds
    split at failed
    all_goals
      rename_i given
      cases failed
      rw [show taken.adjustEventReferences (· - 1) contextId queueId programIds bufferIds = _ from
        given] at decrements
      exact increments.trans decrements
  · cases failed

theorem createEventWith_frames {programId : ObjectId} {create : SubmissionResources A → ω → Except ε (A .event) × ω}
    (failed : s.createEventWith reserve queueId programId bufferIds create w = (.error error, s', w')) :
    s.SameFrames s' := by
  unfold createEventWith at failed
  split at failed
  · cases failed
    exact fun _ => .refl _
  split at failed
  · cases failed
    exact fun _ => .refl _
  · exact createEventFrom_frames failed

theorem createEventSequenceWith_frames {create : SubmissionSequenceResources A → ω → Except ε (A .event) × ω}
    (failed : s.createEventSequenceWith reserve queueId programIds bufferIds create w = (.error error, s', w')) :
    s.SameFrames s' := by
  unfold createEventSequenceWith at failed
  split at failed
  · cases failed
    exact fun _ => .refl _
  split at failed
  · cases failed
    exact fun _ => .refl _
  · exact createEventFrom_frames failed

/-- The operation returns an error. -/
def Operation.Fails (s : DeviceState A) (w : ω) : Operation A ω ε → Prop
  | .createContext reserve create => ∃ error, (s.createContextWith reserve create w).1 = .error error
  | .createBuffer reserve contextId desc create => ∃ error, (s.createBufferWith reserve contextId desc create w).1 =
    .error error
  | .createProgram reserve contextId artifactBytes residentBytes create =>
    ∃ error, (s.createProgramWith reserve contextId artifactBytes residentBytes create w).1 = .error error
  | .createQueue reserve contextId create => ∃ error, (s.createQueueWith reserve contextId create w).1 =
    .error error
  | .createEvent reserve queueId programId bufferIds create =>
    ∃ error, (s.createEventWith reserve queueId programId bufferIds create w).1 = .error error
  | .createEventSequence reserve queueId programIds bufferIds create =>
    ∃ error, (s.createEventSequenceWith reserve queueId programIds bufferIds create w).1 = .error error
  | .beginRelease kind id => ∃ error, (s.beginRelease kind id).1 = .error error
  | .restoreRelease kind id handle => ∃ error, (s.restoreRelease kind id handle).1 = .error error
  | .commitRelease kind id => ∃ error, (s.commitRelease kind id).1 = .error error
  | .writeBuffer id _ => ∃ error, (s.bufferRecord id >>= fun record => record.resource.get) = .error error

/-- Everything an operation can do: it fails and the state stays, or it makes one
change of its own kind. -/
inductive Effect (s : DeviceState A) (w : ω) : Operation A ω ε → DeviceState A → Prop where
  | refused {operation} (failed : operation.Fails s w) : Effect s w operation s
  | context {reserve create resource id s'} (made : (create w).1 = .ok resource)
      (below : s.contexts.len < s.limits.maxContexts) (done : (s.createContextWith reserve create w).1 = .ok id)
      (opens : Opens s s' id ⟨ResourceSlot.new resource, ChildCounts.zero⟩) :
    Effect s w (.createContext reserve create) s'
  | buffer {reserve contextId desc create handle resource info context id outcome s'}
      (made : (create handle desc w).1 = .ok (resource, info))
      (below : context.children.buffers < s.limits.maxBuffersPerContext)
      (done : (s.createBufferWith reserve contextId desc create w).1 = .ok outcome)
      (adopts : Adopts s s' .buffer id (⟨ResourceSlot.new resource, contextId, info, 0⟩ : BufferRecord A)
        contextId context)
      (judged : outcome = .admitted id ∧ info.desc = desc ∧
          s'.retained.bufferBacking ≤ s.policy.maxBufferBackingBytes.toNat ∨ ∃ error,
          outcome = .cleanupRequired id error) :
    Effect s w (.createBuffer reserve contextId desc create) s'
  | program {reserve contextId artifactBytes residentBytes create handle resource context id s'}
      (made : (create handle w).1 = .ok resource)
      (below : context.children.programs < s.limits.maxProgramsPerContext)
      (within : s'.retained.programResident ≤ s.policy.maxProgramResidentBytes.toNat)
      (done : (s.createProgramWith reserve contextId artifactBytes residentBytes create w).1 = .ok id)
      (adopts : Adopts s s' .program id (⟨ResourceSlot.new resource, contextId, residentBytes, 0⟩ : ProgramRecord A)
        contextId context) :
    Effect s w (.createProgram reserve contextId artifactBytes residentBytes create) s'
  | queue {reserve contextId create handle resource context id s'} (made : (create handle w).1 = .ok resource)
      (below : context.children.queues < s.limits.maxQueuesPerContext)
      (done : (s.createQueueWith reserve contextId create w).1 = .ok id)
      (adopts : Adopts s s' .queue id (⟨ResourceSlot.new resource, contextId, 0⟩ : QueueRecord A)
        contextId context) :
    Effect s w (.createQueue reserve contextId create) s'
  | event {reserve queueId programId bufferIds create resources event context id s'}
      (made : (create resources w).1 = .ok event)
      (short : bufferIds.length ≤ s.limits.maxBindingsPerSubmission.toNat)
      (done : (s.createEventWith reserve queueId programId bufferIds create w).1 = .ok id)
      (admitted : s.Admitted (named queueId [programId] (sortIds bufferIds)) resources.contextId context reserve)
      (adopts :
        Adopts s s' .event id (submissionRecord queueId programId (sortIds bufferIds) event resources.contextId)
        resources.contextId context) :
    Effect s w (.createEvent reserve queueId programId bufferIds create) s'
  | sequence {reserve queueId programIds bufferIds create resources event record contextId context id s'}
      (made : (create resources w).1 = .ok event) (held : record.resource = ResourceSlot.new event)
      (refers : record.references = named queueId programIds (sortIds bufferIds))
      (done : (s.createEventSequenceWith reserve queueId programIds bufferIds create w).1 = .ok id)
      (admitted : s.Admitted (named queueId programIds (sortIds bufferIds)) contextId context reserve)
      (adopts : Adopts s s' .event id record contextId context) :
    Effect s w (.createEventSequence reserve queueId programIds bufferIds create) s'
  | begun {kind id record handle s'} (idle : record.busy = false) (held : record.resource.resource = some handle)
      (done : (s.beginRelease kind id).1 = .ok handle) (reslots : Reslots s s' kind id record ResourceSlot.taken) :
    Effect s w (.beginRelease kind id) s'
  | restored {kind id handle record s'} (releasing : record.resource.release = .releasing)
      (done : (s.restoreRelease kind id handle).1 = .ok ())
      (reslots : Reslots s s' kind id record (ResourceSlot.new handle)) :
    Effect s w (.restoreRelease kind id handle) s'
  | committed {kind id record s'} (done : (s.commitRelease kind id).1 = .ok ())
      (retires : Retires s s' kind id record) : Effect s w (.commitRelease kind id) s'
  | written {id buffer s'} {record : BufferRecord A} {old : A .buffer} (held : record.resource.resource = some old)
      (reslots : Reslots s s' .buffer id record (ResourceSlot.new buffer)) : Effect s w (.writeBuffer id buffer) s'

theorem writeBuffer_fails {buffer : A .buffer}
    (releasing : ∀ record, s.buffers.lookup id = some record → record.resource.release = .releasing) :
    Operation.Fails s w (.writeBuffer id buffer : Operation A ω ε) := by
  change ∃ error, (s.bufferRecord id >>= fun record => record.resource.get) = .error error
  cases found : s.bufferRecord id with
  | error error => exact ⟨error, rfl⟩
  | ok record =>
    have empty := ResourceSlot.resource_of_releasing (releasing record (bufferRecord_eq_ok.mp found))
    refine ⟨.releasing, ?_⟩
    change record.resource.get = .error .releasing
    rw [ResourceSlot.get, empty]

/-- Each operation has one of its effects. -/
theorem step_effect (graph : s.Consistent) (w : ω) (operation : Operation A ω ε) :
    Effect s w operation (step (s, w) operation).1 := by
  cases operation with
  | createContext reserve create =>
    rcases createContextWith_cases graph reserve create w with
      ⟨_, done⟩ | ⟨_, _, ⟨_, _, _, rfl, done⟩ | ⟨_, _, _, made, ⟨below, opens⟩, done⟩⟩ <;> simp only [step, done]
    · exact .refused ⟨_, congrArg Prod.fst done⟩
    · exact .refused ⟨_, congrArg Prod.fst done⟩
    · exact .context made below (congrArg Prod.fst done) opens
  | createBuffer reserve contextId desc create =>
    rcases createBufferWith_cases graph reserve contextId desc create w with
      ⟨_, done⟩ | ⟨_, _, ⟨_, _, _, rfl, done⟩ | ⟨_, _, _, made, ⟨_, _, below, adopts, judged⟩, done⟩⟩ <;>
      simp only [step, done]
    · exact .refused ⟨_, congrArg Prod.fst done⟩
    · exact .refused ⟨_, congrArg Prod.fst done⟩
    refine .buffer made below (congrArg Prod.fst done) adopts (judged.imp_right ?_)
    rintro ⟨error, _, same⟩
    exact ⟨error, same⟩
  | createProgram reserve contextId artifactBytes residentBytes create =>
    rcases createProgramWith_cases graph reserve contextId artifactBytes residentBytes create w with
      ⟨_, done⟩ | ⟨_, _, ⟨_, _, _, rfl, done⟩ | ⟨_, _, _, made, ⟨_, below, within, adopts⟩, done⟩⟩ <;>
      simp only [step, done]
    · exact .refused ⟨_, congrArg Prod.fst done⟩
    · exact .refused ⟨_, congrArg Prod.fst done⟩
    · exact .program made below within (congrArg Prod.fst done) adopts
  | createQueue reserve contextId create =>
    rcases createQueueWith_cases graph reserve contextId create w with
      ⟨_, done⟩ | ⟨_, _, ⟨_, _, _, rfl, done⟩ | ⟨_, _, _, made, ⟨_, below, adopts⟩, done⟩⟩ <;>
        simp only [step, done]
    · exact .refused ⟨_, congrArg Prod.fst done⟩
    · exact .refused ⟨_, congrArg Prod.fst done⟩
    · exact .queue made below (congrArg Prod.fst done) adopts
  | createEvent reserve queueId programId bufferIds create =>
    rcases createEventWith_cases graph reserve queueId programId bufferIds create w with
      ⟨_, done⟩ | ⟨_, _, ⟨_, _, _, same, done⟩ | ⟨_, _, _, made, ⟨short, _, admitted, adopts⟩, done⟩⟩ <;>
      simp only [step, done]
    · exact .refused ⟨_, congrArg Prod.fst done⟩
    · rw [same.eq graph.tables (createEventWith_frames done)]
      exact .refused ⟨_, congrArg Prod.fst done⟩
    · exact .event made short (congrArg Prod.fst done) admitted adopts
  | createEventSequence reserve queueId programIds bufferIds create =>
    rcases createEventSequenceWith_cases graph reserve queueId programIds bufferIds create w with
      ⟨_, done⟩ | ⟨_, _, ⟨_, _, _, same, done⟩ | ⟨_, _, _, made, ⟨_, _, _, held, refers, admitted, adopts⟩, done⟩⟩
    all_goals simp only [step, done]
    · exact .refused ⟨_, congrArg Prod.fst done⟩
    · rw [same.eq graph.tables (createEventSequenceWith_frames done)]
      exact .refused ⟨_, congrArg Prod.fst done⟩
    · exact .sequence made held refers (congrArg Prod.fst done) admitted adopts
  | beginRelease kind id =>
    have frames := s.beginRelease_frames kind id
    rcases beginRelease_cases graph.tables kind id with
      ⟨_, s', done, same, _⟩ | ⟨_, _, s', done, idle, held, reslots⟩ <;> simp only [step, done]
    · rw [done] at frames
      rw [same.eq graph.tables frames]
      exact .refused ⟨_, congrArg Prod.fst done⟩
    · exact .begun idle held (congrArg Prod.fst done) reslots
  | restoreRelease kind id handle =>
    have frames := s.restoreRelease_frames kind id handle
    rcases restoreRelease_cases graph.tables kind id handle with
      ⟨_, s', done, same, _⟩ | ⟨_, s', done, releasing, reslots⟩ <;> simp only [step, done]
    · rw [done] at frames
      rw [same.eq graph.tables frames]
      exact .refused ⟨_, congrArg Prod.fst done⟩
    · exact .restored releasing (congrArg Prod.fst done) reslots
  | commitRelease kind id =>
    rcases commitRelease_cases graph kind id with ⟨_, done, _⟩ | ⟨_, s', done, retires⟩ <;> simp only [step, done]
    · exact .refused ⟨_, congrArg Prod.fst done⟩
    · exact .committed (congrArg Prod.fst done) retires
  | writeBuffer id buffer =>
    have frames := s.setBufferResource_frames id buffer
    simp only [step]
    rcases setBufferResource_cases graph.tables id buffer with ⟨same, releasing⟩ | ⟨_, live, reslots⟩
    · rw [same.eq graph.tables frames]
      exact .refused (writeBuffer_fails releasing)
    obtain ⟨old, held⟩ := ResourceSlot.resource_of_live live
    exact .written held reslots

end DeviceState

end VirtioAccel
