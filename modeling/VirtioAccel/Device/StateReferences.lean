import VirtioAccel.Device.StateSubmission

namespace VirtioAccel
open Checked List
variable {A : Handles} {ω ε : Type}
variable {ids : List ObjectId}

theorem ObjectTable.mutateEach_bumps {T : Type} {t : ObjectTable T} (wf : t.WellFormed) (f : T → T)
    (resolves : ∀ id ∈ ids, t.lookup id ≠ none) :
    ∃ after, t.mutateEach f ids = (.ok (), after) ∧ t.Bumps after f ids := by
  induction ids generalizing t with
  | nil => exact ⟨t, rfl, .none wf f⟩
  | cons id rest ih =>
    rcases getMut_cases wf id (fun record => ((), f record)) with ⟨missing, _⟩ | ⟨value, middle, done, writes⟩
    · exact absurd missing (resolves id (mem_cons_self ..))
    have still : ∀ other ∈ rest, middle.lookup other ≠ none := by
      intro other member
      rw [writes.lookup_after]
      split
      · simp
      · exact resolves other (mem_cons_of_mem _ member)
    obtain ⟨after, others, bumps⟩ := ih writes.wellFormed still
    exact ⟨after, by rw [mutateEach, done]; exact others, writes.bumps bumps⟩

namespace DeviceState
variable {s s' : DeviceState A} {f : UInt32 → UInt32}
variable {names : ObjectKind → List ObjectId} {context : ContextRecord A} {contextId : ObjectId}
  {programIds bufferIds : List ObjectId} {queueId target : ObjectId}
variable {other : ObjectKind} {reserve : Bool}

/-- The effect of taking or giving back the references of one event. -/
structure Refers (s s' : DeviceState A) (f : UInt32 → UInt32) (names : ObjectKind → List ObjectId)
    (contextId : ObjectId) (context : ContextRecord A) : Prop where
  config : SameConfig s s'
  retained : s'.retained = s.retained
  events : s'.events = s.events
  contexts : s.contexts.Writes s'.contexts contextId (some context)
    (some { context with children := context.children.modify .event f })
  others : ∀ other, other ≠ .event → other ≠ .context →
    (s.table other).Bumps (s'.table other) (Record.adjust f) (names other)

theorem adjustEventReferences_refers (wf : ∀ kind, (s.table kind).WellFormed) (f : UInt32 → UInt32)
    (root : s.contexts.lookup contextId = some context)
    (resolves : ∀ other target, target ∈ named queueId programIds bufferIds other →
      (s.table other).lookup target ≠ none) :
    ∃ s', s.adjustEventReferences f contextId queueId programIds bufferIds = (.ok (), s') ∧
      Refers s s' f (named queueId programIds bufferIds) contextId context := by
  have bumps (kind : ObjectKind) := ObjectTable.mutateEach_bumps (wf kind) (Record.adjust f) (resolves kind)
  obtain ⟨queues, queuesDone, queuesBumped⟩ := bumps .queue
  obtain ⟨programs, programsDone, programsBumped⟩ := bumps .program
  obtain ⟨buffers, buffersDone, buffersBumped⟩ := bumps .buffer
  rcases ObjectTable.getMut_cases (t := s.contexts) (wf .context) contextId
    (fun record => ((), { record with children := record.children.modify .event f }))
    with ⟨missing, _⟩ | ⟨stored, contexts, contextsDone, writes⟩
  · exact nomatch root.symm.trans missing
  cases root.symm.trans writes.lookup_before
  have counted : s.contexts.mutateEach
      (fun record => { record with children := record.children.modify .event f }) [contextId] =
      (.ok (), contexts) := by
    simp only [ObjectTable.mutateEach, contextsDone]
  have queuesDone' : s.queues.mutateEach (fun record => { record with inFlight := f record.inFlight }) [queueId] =
      (.ok (), queues) := queuesDone
  have programsDone' : s.programs.mutateEach (fun record => { record with inFlight := f record.inFlight })
      programIds = (.ok (), programs) := programsDone
  have buffersDone' : s.buffers.mutateEach (fun record => { record with inFlight := f record.inFlight })
      bufferIds = (.ok (), buffers) := buffersDone
  refine ⟨{ s with queues, programs, buffers, contexts }, ?_, ⟨rfl, rfl, rfl⟩, rfl, rfl, writes, ?_⟩
  · simp only [adjustEventReferences, queuesDone', programsDone', buffersDone', counted]
  intro other notEvent notContext
  cases other with
  | context => exact absurd rfl notContext
  | event => exact absurd rfl notEvent
  | queue => exact queuesBumped
  | program => exact programsBumped
  | buffer => exact buffersBumped

theorem Refers.lookup (change : Refers s s' f names contextId context) (notContext : other ≠ .context)
    {record : Record A other} (present : (s.table other).lookup target = some record) :
    ∃ after, (s'.table other).lookup target = some after ∧ after.owner = record.owner ∧
      after.resource = record.resource ∧ after.charge = record.charge := by
  by_cases event : other = .event
  · subst other
    have same : s'.table .event = s.table .event := change.events
    exact ⟨record, by rw [same]; exact present, rfl, rfl, rfl⟩
  · refine ⟨_, by rw [(change.others other event notContext).lookup, present]; rfl, ?_, ?_, ?_⟩
    · exact Counters.iterate_fixed (fun record => record.owner_adjust f) _ _
    · exact Counters.iterate_fixed (fun record => record.resource_adjust f) _ _
    · exact Counters.iterate_fixed (fun record => record.charge_adjust f) _ _

theorem adjust_leftInverse {kind : ObjectKind} : Function.LeftInverse
    (Record.adjust (· - 1) : Record A kind → Record A kind) (Record.adjust (· + 1)) := by
  intro record
  cases kind with
  | context | event => rfl
  | buffer | program | queue =>
    simp only [Record.adjust, UInt32.add_sub_cancel]
    rfl

/-- Taking the references of an event and giving them back is not observable. -/
theorem Refers.undo {again : ContextRecord A} {s'' : DeviceState A} (graph : s.Consistent)
    (taken : Refers s s' (· + 1) names contextId context) (given : Refers s' s'' (· - 1) names contextId again) :
    SameView s s'' := by
  have restored : again = { context with children := context.children.modify .event (· + 1) } := by
    have stored := taken.contexts.lookup_self
    rw [given.contexts.lookup_before] at stored
    exact Option.some.inj stored
  have events : s''.table .event = s.table .event := given.events.trans taken.events
  refine ⟨⟨given.config.objectNamespace.trans taken.config.objectNamespace,
    given.config.limits.trans taken.config.limits, given.config.policy.trans taken.config.policy⟩, ?_, ?_, ?_,
    given.retained.trans taken.retained⟩
  · intro kind
    by_cases root : kind = .context
    · subst kind
      exact given.contexts.wellFormed
    by_cases event : kind = .event
    · subst kind
      rw [events]
      exact graph.tables .event
    · exact (given.others kind event root).wellFormed
  · intro kind
    by_cases root : kind = .context
    · subst kind
      exact taken.contexts.descends.trans given.contexts.descends
    by_cases event : kind = .event
    · subst kind
      rw [events]
      exact .refl _
    · exact (taken.others kind event root).descends.trans (given.others kind event root).descends
  · intro kind id
    by_cases root : kind = .context
    · subst kind
      refine (given.contexts.lookup_after id).trans ?_
      split
      · rename_i here
        subst id
        refine (congrArg some ?_).trans taken.contexts.lookup_before.symm
        subst restored
        simp [ChildCounts.modify]
      · rename_i elsewhere
        exact taken.contexts.lookup_other elsewhere
    · by_cases event : kind = .event
      · subst kind
        rw [events]
      · exact (taken.others kind event root).undo adjust_leftInverse (given.others kind event root) id

theorem mem_sortIds {id : ObjectId} : id ∈ sortIds ids ↔ id ∈ ids := (perm_insertionSort _ ids).mem_iff

theorem sortIds_sorted (ids : List ObjectId) : (sortIds ids).Pairwise (fun left right => left.raw ≤ right.raw) := by
  have total : Std.Total (fun left right : ObjectId => left.raw ≤ right.raw) :=
    ⟨fun a b => UInt64.le_total a.raw b.raw⟩
  have trans : IsTrans ObjectId (fun left right => left.raw ≤ right.raw) := ⟨fun _ _ _ => UInt64.le_trans⟩
  exact pairwise_insertionSort _ ids

/-- What an admission establishes before any reference is taken. -/
structure Admitted (s : DeviceState A) (names : ObjectKind → List ObjectId) (contextId : ObjectId)
    (context : ContextRecord A) (reserve : Bool) : Prop where
  present : s.contexts.lookup contextId = some context
  below : context.children.events < s.limits.maxEventsPerContext
  ready : s.events.tryReserveInsert reserve = .ok ()
  members : s.Submittable names contextId
  room : ∀ other {target found}, target ∈ names other → (s.table other).lookup target = some found →
    found.inFlight.toNat + (names other).count target < 2 ^ 32

/-- The check looks at the queue, at the first occurrence of each program, and at
each run of equal buffers; every counter has room for all of its increments. -/
theorem checkReferenceIncrements_room {u : Unit}
    (sorted : bufferIds.Pairwise (fun left right => left.raw ≤ right.raw))
    (checked : s.checkReferenceIncrements queueId programIds bufferIds = .ok u) (other : ObjectKind)
    {found : Record A other} (member : target ∈ named queueId programIds bufferIds other)
    (stored : (s.table other).lookup target = some found) :
    found.inFlight.toNat + (named queueId programIds bufferIds other).count target < 2 ^ 32 := by
  simp only [checkReferenceIncrements, bind_eq_ok, queueRecord_eq_ok, checkIncrement_eq_ok] at checked
  obtain ⟨queue, atQueue, ⟨⟩, queueRoom, ⟨⟩, programs, buffers⟩ := checked
  cases other with
  | context | event => simp [named] at member
  | queue =>
    cases mem_singleton.mp member
    cases atQueue.symm.trans stored
    have once : (named queueId programIds bufferIds .queue).count queueId = 1 := by simp [named]
    rw [once]
    exact queueRoom
  | program =>
    obtain ⟨program, atProgram, room⟩ := checkProgramIncrements_room programs member (by simp)
    cases atProgram.symm.trans stored
    exact room
  | buffer =>
    obtain ⟨buffer, atBuffer, room⟩ := checkBufferIncrements_room (Nat.le_refl _) sorted buffers member
    cases atBuffer.symm.trans stored
    exact room

theorem Submittable.sorted (members : s.Submittable (named queueId programIds bufferIds) contextId) :
    s.Submittable (named queueId programIds (sortIds bufferIds)) contextId := by
  intro other target member
  cases other with
  | context | event => simp [named] at member
  | queue | program => exact members _ target member
  | buffer => exact members .buffer target (mem_sortIds.mp member)

theorem admitEvent_ok {validated : Except DeviceStateError ObjectId}
    (valid : ∀ contextId, validated = .ok contextId → s.Submittable (named queueId programIds bufferIds) contextId)
    (admitted : s.admitEvent reserve validated queueId programIds (sortIds bufferIds) = .ok contextId) :
    ∃ context, s.Admitted (named queueId programIds (sortIds bufferIds)) contextId context reserve := by
  simp only [admitEvent, bind_eq_ok, contextRecord_eq_ok, refuseIf_eq_ok, mapError_eq_ok, pure_eq_ok] at admitted
  obtain ⟨root, validOk, context, present, ⟨⟩, below, ⟨⟩, ready, ⟨⟩, checked, same⟩ := admitted
  subst same
  exact ⟨context, present, UInt32.not_le.mp below, ready, Submittable.sorted (valid root validOk),
      fun other {target found} =>
    checkReferenceIncrements_room (sortIds_sorted bufferIds) checked other⟩

theorem Refers.resolves (change : Refers s s' f names contextId context) (valid : s.Submittable names contextId)
    (rootless : names .context = []) (member : target ∈ names other) :
    ∃ found, (s'.table other).lookup target = some found ∧ found.owner = some contextId ∧
      found.resource.release = .live := by
  have notContext : other ≠ .context := by
    rintro rfl
    simp [rootless] at member
  obtain ⟨before, present, owner, live⟩ := valid other target member
  obtain ⟨after, here, sameOwner, sameResource, _⟩ := change.lookup notContext present
  exact ⟨after, here, sameOwner.trans owner, by rw [sameResource]; exact live⟩

theorem Refers.wellFormed (change : Refers s s' f names contextId context) (graph : s.Consistent)
    (kind : ObjectKind) : (s'.table kind).WellFormed := by
  by_cases root : kind = .context
  · subst kind
    exact change.contexts.wellFormed
  by_cases event : kind = .event
  · subst kind
    have same : s'.table .event = s.table .event := change.events
    rw [same]
    exact graph.tables .event
  · exact (change.others kind event root).wellFormed

/-- References taken for a new event, followed by its insertion. -/
theorem Refers.adopts {record : EventRecord A} (graph : s.Consistent)
    (taken : Refers s s' (· + 1) names contextId context) (admitted : s.Admitted names contextId context reserve)
    (refers : record.references = names) (owner : record.contextId = contextId)
    (live : record.resource.release = .live) :
    Adopts s { s' with events := (s'.events.insertPrepared record).2 } .event (s'.events.insertPrepared record).1
      record contextId context := by
  subst refers
  have writes := ObjectTable.insertPrepared_writes graph.events_wellFormed admitted.ready record
  rw [taken.events]
  have room : (context.children.count .event).toNat + 1 < 2 ^ 32 := by
    have less := UInt32.lt_iff_toNat_lt.mp admitted.below
    have word := s.limits.maxEventsPerContext.toNat_lt
    simp only [ChildCounts.count]
    omega
  have rootLive : context.resource.release = .live := by
    obtain ⟨queue, atQueue, queueOwner, _⟩ := admitted.members .queue record.queueId
      (by simp [EventRecord.references])
    have counted := graph.owned .queue contextId context admitted.present
    have one := ObjectTable.weight_le_total (graph.tables .queue)
      (fun record => if record.owner = some contextId then 1 else 0) atQueue
    refine graph.context_live admitted.present ?_
    by_contra empty
    rw [ChildCounts.isEmpty_iff.mp (by simpa using empty) .queue, UInt32.toNat_zero] at counted
    simp only [queueOwner, if_true] at one
    omega
  refine ⟨⟨⟨taken.config.objectNamespace, taken.config.limits, taken.config.policy⟩, by decide, taken.contexts,
    writes, ?_⟩, ?_, congrArg some owner, rfl, live, rootLive, room, ?_⟩
  · intro other notEvent notContext
    cases other with
    | context => exact absurd rfl notContext
    | event => exact absurd rfl notEvent
    | buffer | program | queue => exact taken.others _ (by decide) (by decide)
  · intro other
    rw [show ({ s' with events := (s.events.insertPrepared record).2 } : DeviceState A).retained = s.retained from
      taken.retained]
    cases other <;> rfl
  · intro other target member
    obtain ⟨found, stored, sameOwner, foundLive⟩ := admitted.members other target member
    exact ⟨found, stored, sameOwner, foundLive, admitted.room other member stored⟩

end DeviceState

end VirtioAccel
