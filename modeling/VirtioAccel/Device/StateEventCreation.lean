import VirtioAccel.Device.StateReferences

namespace VirtioAccel
open Checked ResourceSlot
variable {A : Handles} {ω ε : Type}

namespace DeviceState
variable {s s' : DeviceState A} {queueId programId : ObjectId} {programIds bufferIds : List ObjectId}
variable {context : ContextRecord A} {contextId : ObjectId}
variable {taken : DeviceState A} {sorted : List ObjectId} {id : ObjectId}

/-- References are taken first, and given back if the provider refuses. -/
theorem createEventFrom_cases {X : Type} (graph : s.Consistent) {reserve : Bool}
    {admission : Except DeviceStateError ObjectId}
    (sound : ∀ contextId, admission = .ok contextId →
      ∃ context, s.Admitted (named queueId programIds bufferIds) contextId context reserve)
    {resolve : DeviceState A → ObjectId → Except DeviceStateError X}
    (resolved : ∀ contextId context taken, s.Submittable (named queueId programIds bufferIds) contextId →
      Refers s taken (· + 1) (named queueId programIds bufferIds) contextId context →
      ∃ resources, resolve taken contextId = .ok resources)
    (create : X → ω → Except ε (A .event) × ω) (record : A .event → ObjectId → EventRecord A)
    (shape : ∀ event contextId, (record event contextId).references = named queueId programIds bufferIds ∧
      (record event contextId).contextId = contextId ∧ (record event contextId).resource.release = .live) (w : ω) :
    (∃ error, admission = .error error ∧
      s.createEventFrom admission queueId programIds bufferIds resolve create record w =
      (.error (.state error), s, w)) ∨
    ∃ contextId context taken resources, s.Admitted (named queueId programIds bufferIds) contextId context reserve ∧
      Refers s taken (· + 1) (named queueId programIds bufferIds) contextId context ∧
      resolve taken contextId = .ok resources ∧
      ((∃ error s', (create resources w).1 = .error error ∧ SameView s s' ∧
        s.createEventFrom admission queueId programIds bufferIds resolve create record w =
          (.error (.provider error), s', (create resources w).2)) ∨
      ∃ event id s', (create resources w).1 = .ok event ∧
        Adopts s s' .event id (record event contextId) contextId context ∧
        s.createEventFrom admission queueId programIds bufferIds resolve create record w =
          (.ok id, s', (create resources w).2)) := by
  unfold createEventFrom
  split
  · exact .inl ⟨_, rfl, rfl⟩
  rename_i contextId
  obtain ⟨context, admitted⟩ := sound contextId rfl
  have bound : ∀ other target, target ∈ named queueId programIds bufferIds other →
      (s.table other).lookup target ≠ none := fun other target member => by
    obtain ⟨found, present, _⟩ := admitted.members other target member
    simp [present]
  obtain ⟨taken, increment, refers⟩ := adjustEventReferences_refers graph.tables (· + 1) admitted.present bound
  obtain ⟨resources, found⟩ := resolved contextId context taken admitted.members refers
  have increment' : s.incrementEventReferences contextId queueId programIds bufferIds = (.ok (), taken) := increment
  refine .inr ⟨contextId, context, taken, resources, admitted, refers, found, ?_⟩
  simp only [increment', found]
  split
  · rename_i error w' answered
    -- The provider refused: the references are given back one by one.
    have still : ∀ other target, target ∈ named queueId programIds bufferIds other →
        (taken.table other).lookup target ≠ none := fun other target member => by
      obtain ⟨after, here, _⟩ := refers.resolves admitted.members rfl member
      simp [here]
    have rooted : taken.contexts.lookup contextId =
        some { context with children := context.children.modify .event (· + 1) } := refers.contexts.lookup_self
    obtain ⟨given, decrement, returned⟩ := adjustEventReferences_refers (refers.wellFormed graph)
      (· - 1) rooted still
    have decrement' : taken.decrementEventReferences contextId queueId programIds bufferIds = (.ok (), given) :=
      decrement
    exact .inl ⟨error, given, by rw [answered], refers.undo graph returned, by simp only [decrement', answered]⟩
  · rename_i event w' answered
    obtain ⟨same, owner, live⟩ := shape event contextId
    exact .inr ⟨event, _, _, by rw [answered], refers.adopts graph admitted same owner live, by rw [answered]⟩

/-- The resources handed to a provider are those of the state the submission
was validated in. -/
structure Resolved (s : DeviceState A) (queueId programId : ObjectId) (resources : SubmissionResources A) :
    Prop where
  queue : ∃ queue, s.queues.lookup queueId = some queue ∧ queue.contextId = resources.contextId ∧
    queue.resource.resource = some resources.queue
  program : ∃ program, s.programs.lookup programId = some program ∧ program.contextId = resources.contextId ∧
    program.resource.resource = some resources.program
  buffer : ∀ {id buffer info}, resources.bufferWithInfoById id = .ok (buffer, info) →
    ∃ record, s.buffers.lookup id = some record ∧ record.contextId = resources.contextId ∧
      record.resource.resource = some buffer ∧ record.info = info
  complete : ∀ id ∈ resources.bufferIds, ∃ found, resources.bufferWithInfoById id = .ok found

theorem Refers.buffer_back {names : ObjectKind → List ObjectId}
    (change : Refers s s' (· + 1) names contextId context)
    {after : BufferRecord A} (present : s'.buffers.lookup id = some after) :
    ∃ before, s.buffers.lookup id = some before ∧ after.contextId = before.contextId ∧
      after.resource = before.resource ∧ after.info = before.info := by
  have bumped := (change.others .buffer (by decide) (by decide)).lookup id
  obtain ⟨before, found, rfl⟩ := Option.map_eq_some_iff.mp (bumped.symm.trans present)
  let bump : BufferRecord A → BufferRecord A := fun record => { record with inFlight := record.inFlight + 1 }
  exact ⟨before, found, @Counters.iterate_fixed _ _ bump BufferRecord.contextId (fun _ => rfl) _ before,
    @Counters.iterate_fixed _ _ bump BufferRecord.resource (fun _ => rfl) _ before,
    @Counters.iterate_fixed _ _ bump BufferRecord.info (fun _ => rfl) _ before⟩

theorem bufferWithInfoById_eq_ok {resources : SubmissionResources A} {buffer : A .buffer} {info : BufferInfo} :
    resources.bufferWithInfoById id = .ok (buffer, info) ↔ id ∈ resources.bufferIds ∧
      ∃ record, resources.buffers.lookup id = some record ∧ record.resource.resource = some buffer ∧
        record.info = info := by
  simp only [SubmissionResources.bufferWithInfoById, bind_eq_ok, refuseIf_eq_ok, not_not,
    mapError_eq_ok, ObjectTable.get_eq_ok_iff, get_eq_ok, pure_eq_ok, Prod.mk.injEq]
  constructor
  · rintro ⟨⟨⟩, member, record, present, handle, held, same, sameInfo⟩
    exact ⟨member, record, present, same ▸ held, sameInfo⟩
  rintro ⟨member, record, present, held, sameInfo⟩
  exact ⟨(), member, record, present, buffer, held, rfl, sameInfo⟩

theorem resolveSubmission_ok (valid : s.Submittable (named queueId [programId] sorted) contextId)
    (refers : Refers s taken (· + 1) (named queueId [programId] sorted) contextId context) :
    ∃ resources, resolveSubmission queueId programId sorted taken contextId = .ok resources ∧
      Resolved s queueId programId resources ∧ resources.contextId = contextId ∧ resources.bufferIds = sorted := by
  obtain ⟨queue, atQueue, queueOwner, queueLive⟩ := valid .queue queueId (by simp [named])
  obtain ⟨program, atProgram, programOwner, programLive⟩ := valid .program programId (by simp [named])
  obtain ⟨queueHandle, queueHeld⟩ := resource_of_live queueLive
  obtain ⟨programHandle, programHeld⟩ := resource_of_live programLive
  obtain ⟨queue', atQueue', _, sameQueue, _⟩ := refers.lookup (by decide) atQueue
  obtain ⟨program', atProgram', _, sameProgram, _⟩ := refers.lookup (by decide) atProgram
  have queueHeld' : (QueueRecord.resource queue').resource = some queueHandle :=
    (congrArg resource sameQueue).trans queueHeld
  have programHeld' : (ProgramRecord.resource program').resource = some programHandle :=
    (congrArg resource sameProgram).trans programHeld
  have queueFound : taken.queueRecord queueId = .ok queue' := queueRecord_eq_ok.mpr atQueue'
  have programFound : taken.programRecord programId = .ok program' := programRecord_eq_ok.mpr atProgram'
  refine ⟨⟨contextId, queueHandle, programHandle, taken.buffers, sorted⟩, ?_, ?_, rfl, rfl⟩
  · simp only [resolveSubmission, bind_eq_ok, get_eq_ok, pure_eq_ok]
    exact ⟨queue', queueFound, queueHandle, queueHeld', program', programFound, programHandle, programHeld', rfl⟩
  refine ⟨⟨queue, atQueue, Option.some.inj queueOwner, queueHeld⟩,
    ⟨program, atProgram, Option.some.inj programOwner, programHeld⟩, ?_, ?_⟩
  · intro id buffer info found
    obtain ⟨member, after, present, held, sameInfo⟩ := bufferWithInfoById_eq_ok.mp found
    obtain ⟨before, stored, _, sameResource, keptInfo⟩ := refers.buffer_back present
    obtain ⟨valid', atValid, owner, _⟩ := valid .buffer id member
    cases stored.symm.trans atValid
    exact ⟨before, stored, Option.some.inj owner, sameResource ▸ held, keptInfo.symm.trans sameInfo⟩
  · intro id member
    have listed : id ∈ named queueId [programId] sorted .buffer := member
    obtain ⟨after, here, _, live⟩ := refers.resolves valid rfl listed
    obtain ⟨handle, held⟩ := resource_of_live live
    exact ⟨(handle, BufferRecord.info after), bufferWithInfoById_eq_ok.mpr ⟨member, after, here, held, rfl⟩⟩

theorem createEventWith_cases (graph : s.Consistent) (reserve : Bool) (queueId programId : ObjectId)
    (bufferIds : List ObjectId) (create : SubmissionResources A → ω → Except ε (A .event) × ω) (w : ω) :
    Creation s (fun resources => Resolved s queueId programId resources ∧ resources.bufferIds = sortIds bufferIds)
      (SameView s) (fun resources event id s' => bufferIds.length ≤ s.limits.maxBindingsPerSubmission.toNat ∧
        ∃ context, s.Admitted (named queueId [programId] (sortIds bufferIds)) resources.contextId context reserve ∧
          Adopts s s' .event id (submissionRecord queueId programId (sortIds bufferIds) event resources.contextId)
            resources.contextId context) create w
      (s.createEventWith reserve queueId programId bufferIds create w) := by
  unfold createEventWith
  simp only
  split
  · exact .refused _ rfl
  split
  · exact .refused _ rfl
  rename_i short
  have sound : ∀ contextId,
    s.admitEvent reserve (s.validateSubmission queueId programId bufferIds) queueId [programId]
      (sortIds bufferIds) = .ok contextId →
      ∃ context, s.Admitted (named queueId [programId] (sortIds bufferIds)) contextId context reserve :=
    fun _ => admitEvent_ok (fun _ => validateSubmission_eq_ok.mp)
  rcases createEventFrom_cases graph sound
    (fun contextId context taken valid refers => (resolveSubmission_ok valid refers).imp (fun _ found => found.1))
    create (submissionRecord queueId programId (sortIds bufferIds))
    (fun event contextId => ⟨references_eq_named _, rfl, rfl⟩) w
    with ⟨error, _, refused⟩ | ⟨contextId, context, taken, resources, admitted, refers, found, outcome⟩
  · exact .refused error refused
  obtain ⟨resources', found', resolved, rfl, sameIds⟩ := resolveSubmission_ok admitted.members refers
  cases found.symm.trans found'
  refine .called resources ⟨resolved, sameIds⟩ (outcome.imp_right ?_)
  rintro ⟨event, id, s', answer, adopts, done⟩
  exact ⟨event, id, s', answer, ⟨Nat.not_lt.mp short, context, admitted, adopts⟩, done⟩

theorem resolveSequence_ok (valid : s.Submittable (named queueId programIds sorted) contextId)
    (refers : Refers s taken (· + 1) (named queueId programIds sorted) contextId context) :
    ∃ resources, resolveSequence queueId programIds sorted taken contextId = .ok resources := by
  have listed : queueId ∈ named queueId programIds sorted .queue := by simp [named]
  obtain ⟨queue, atQueue, _, live⟩ := refers.resolves valid rfl listed
  obtain ⟨handle, held⟩ := resource_of_live live
  refine ⟨⟨contextId, handle, taken.programs, programIds, taken.buffers, sorted⟩, ?_⟩
  simp only [resolveSequence, bind_eq_ok, queueRecord_eq_ok, get_eq_ok, pure_eq_ok]
  exact ⟨queue, atQueue, handle, held, rfl⟩

/-- The context is not in the result of the creation: it is the queue's. -/
theorem createEventSequenceWith_cases (graph : s.Consistent) (reserve : Bool) (queueId : ObjectId)
    (programIds bufferIds : List ObjectId) (create : SubmissionSequenceResources A → ω → Except ε (A .event) × ω)
    (w : ω) :
    Creation s (fun _ => True) (SameView s) (fun _ event id s' => ∃ (record : EventRecord A) (contextId : ObjectId)
      (context : ContextRecord A), record.resource = ResourceSlot.new event ∧
      record.references = named queueId programIds (sortIds bufferIds) ∧
      s.Admitted (named queueId programIds (sortIds bufferIds)) contextId context reserve ∧
      Adopts s s' .event id record contextId context) create w
        (s.createEventSequenceWith reserve queueId programIds bufferIds create w) := by
  unfold createEventSequenceWith
  cases programIds with
  | nil => exact .refused _ rfl
  | cons first rest =>
    simp only
    split
    · exact .refused _ rfl
    have sound : ∀ contextId, s.admitEvent reserve (s.validateSubmissionSequence queueId (first :: rest) bufferIds)
        queueId (first :: rest) (sortIds bufferIds) = .ok contextId →
        ∃ context, s.Admitted (named queueId (first :: rest) (sortIds bufferIds)) contextId context reserve :=
      fun _ => admitEvent_ok (fun _ valid => (validateSubmissionSequence_eq_ok.mp valid).2)
    rcases createEventFrom_cases graph sound
      (fun contextId context taken valid refers => resolveSequence_ok valid refers)
      create (sequenceRecord queueId first rest (sortIds bufferIds))
      (fun event contextId => ⟨references_eq_named _, rfl, rfl⟩) w
      with ⟨error, _, refused⟩ | ⟨contextId, context, taken, resources, admitted, refers, found, outcome⟩
    · exact .refused error refused
    refine .called resources trivial (outcome.imp_right ?_)
    rintro ⟨event, id, s', answer, adopts, done⟩
    exact ⟨event, id, s', answer, ⟨_, contextId, context, rfl, references_eq_named _, admitted, adopts⟩, done⟩

end DeviceState

end VirtioAccel
