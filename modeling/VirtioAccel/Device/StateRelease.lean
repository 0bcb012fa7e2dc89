import VirtioAccel.Device.StateEventCreation

namespace VirtioAccel
open ObjectTable
variable {A : Handles} {kind : ObjectKind}

theorem ObjectTable.locate_error {T : Type} {t : ObjectTable T} {id : ObjectId} {failure : ObjectTableError}
    (missed : t.locate id = .error failure) :
    mapTableError failure = .invalidObject ∨ mapTableError failure = .staleObject := by
  simp only [locate] at missed
  split at missed
  · cases missed
    exact .inl rfl
  all_goals
    right
    repeat' split at missed
    all_goals first | cases missed; rfl | cases missed

theorem ObjectTable.getMut_missing {T R : Type} {t : ObjectTable T} {id : ObjectId}
    (missing : t.lookup id = none) (body : T → R × T) : ∃ failure, t.getMut id body = .error failure ∧
      (mapTableError failure = .invalidObject ∨ mapTableError failure = .staleObject) := by
  cases found : t.locate id with
  | error failure => exact ⟨failure, by rw [getMut, found]; rfl, locate_error found⟩
  | ok index =>
    obtain ⟨generation, value, atSlot, _⟩ := locate_slot found
    have present : t.lookup id = some value := lookup_eq_some_iff_locate.mpr ⟨index, found, by rw [atSlot]; rfl⟩
    simp [missing] at present

theorem ObjectTable.get_cases {T : Type} (t : ObjectTable T) (id : ObjectId) :
    (∃ failure, t.get id = .error failure ∧ t.lookup id = none ∧
      (mapTableError failure = .invalidObject ∨ mapTableError failure = .staleObject)) ∨
    ∃ value, t.get id = .ok value ∧ t.lookup id = some value := by
  cases found : t.locate id with
  | error failure =>
    have failed : t.get id = .error failure := by rw [get, found]; rfl
    exact .inl ⟨failure, failed, by rw [lookup, failed]; rfl, locate_error found⟩
  | ok index =>
    obtain ⟨generation, value, atSlot, _⟩ := locate_slot found
    have present : t.lookup id = some value := lookup_eq_some_iff_locate.mpr ⟨index, found, by rw [atSlot]; rfl⟩
    exact .inr ⟨value, get_eq_ok_iff.mpr present, present⟩

namespace DeviceState
variable {s s' : DeviceState A} {id : ObjectId}
variable {t : ObjectTable (Record A kind)}

/-- A borrowed record written back unchanged. -/
theorem sameView_of_writes (wf : ∀ kind, (s.table kind).WellFormed) {record : Record A kind}
    (writes : (s.table kind).Writes t id (some record) (some record)) :
    SameView s (s.setTable kind t) := by
  refine ⟨sameConfig_setTable s t, fun other => ?_, fun other => ?_, fun other target => ?_, retained_setTable s t⟩
  · by_cases same : other = kind
    · subst other
      rw [table_setTable_self]
      exact writes.wellFormed
    · rw [table_setTable_ne s t same]
      exact wf other
  · by_cases same : other = kind
    · subst other
      rw [table_setTable_self]
      exact writes.descends
    · rw [table_setTable_ne s t same]
      exact .refl _
  · by_cases same : other = kind
    · subst other
      rw [table_setTable_self, writes.lookup_after]
      split
      · rename_i here
        rw [here, writes.lookup_before]
      · rfl
    · rw [table_setTable_ne s t same]

theorem reslots_of_writes {record : Record A kind} {slot : ResourceSlot (A kind)}
    (writes : (s.table kind).Writes t id (some record) (some (record.setResource slot)))
    (needed : record.busy = true → slot.release = .live) : Reslots s (s.setTable kind t) kind id record slot :=
  ⟨sameConfig_setTable s t, by rw [table_setTable_self]; exact writes,
    fun _ differs => table_setTable_ne s t differs, retained_setTable s t, needed⟩

/-- Why a release cannot begin. -/
inductive Refused (s : DeviceState A) (kind : ObjectKind) (id : ObjectId) : DeviceStateError → Prop
  | missing {error} : (s.table kind).lookup id = none → error = .invalidObject ∨ error = .staleObject →
      Refused s kind id error
  | busy {record} : (s.table kind).lookup id = some record → record.busy = true → Refused s kind id .busy
  | releasing {record} : (s.table kind).lookup id = some record → record.resource.release = .releasing →
      Refused s kind id .releasing

theorem beginRecord_cases (record : Record A kind) :
    (beginRecord record = (.error .busy, record) ∧ record.busy = true) ∨
    (beginRecord record = (.error .releasing, record) ∧ record.resource.release = .releasing) ∨
    ∃ handle, beginRecord record = (.ok handle, record.setResource ResourceSlot.taken) ∧ record.busy = false ∧
      record.resource.resource = some handle := by
  unfold beginRecord ResourceSlot.beginRelease
  by_cases busy : record.busy = true
  · exact .inl ⟨by rw [if_pos busy], busy⟩
  rw [if_neg busy]
  cases state : record.resource.release with
  | releasing => exact .inr (.inl ⟨rfl, rfl⟩)
  | live =>
    obtain ⟨handle, held⟩ := ResourceSlot.resource_of_live state
    exact .inr (.inr ⟨handle, by simp [held], by simpa using busy, held⟩)

theorem beginRelease_cases (wf : ∀ kind, (s.table kind).WellFormed) (kind : ObjectKind) (id : ObjectId) :
    (∃ error s', s.beginRelease kind id = (.error error, s') ∧ SameView s s' ∧ Refused s kind id error) ∨
    ∃ record handle s', s.beginRelease kind id = (.ok handle, s') ∧ record.busy = false ∧
      record.resource.resource = some handle ∧ Reslots s s' kind id record ResourceSlot.taken := by
  unfold beginRelease
  rcases getMut_cases (wf kind) id beginRecord with ⟨missing, _⟩ | ⟨record, t, done, writes⟩
  · obtain ⟨failure, failed, mapped⟩ := getMut_missing missing beginRecord
    exact .inl ⟨_, s, by rw [failed], .refl wf, .missing missing mapped⟩
  simp only [done]
  rcases beginRecord_cases record with ⟨begun, busy⟩ | ⟨begun, releasing⟩ | ⟨handle, begun, idle, held⟩
  · rw [begun] at writes ⊢
    exact .inl ⟨.busy, _, rfl, sameView_of_writes wf writes, .busy writes.lookup_before busy⟩
  · rw [begun] at writes ⊢
    exact .inl ⟨.releasing, _, rfl, sameView_of_writes wf writes, .releasing writes.lookup_before releasing⟩
  · rw [begun] at writes ⊢
    exact .inr ⟨record, handle, _, rfl, idle, held, reslots_of_writes writes (by simp [idle])⟩

theorem restoreRelease_cases (wf : ∀ kind, (s.table kind).WellFormed) (kind : ObjectKind) (id : ObjectId)
    (handle : A kind) :
    (∃ error s', s.restoreRelease kind id handle = (.error ⟨error, handle⟩, s') ∧ SameView s s' ∧
      ∀ record, (s.table kind).lookup id = some record → record.resource.release = .live) ∨
    ∃ record s', s.restoreRelease kind id handle = (.ok (), s') ∧ record.resource.release = .releasing ∧
      Reslots s s' kind id record (ResourceSlot.new handle) := by
  unfold restoreRelease
  rcases getMut_cases (wf kind) id (restoreRecord handle) with
    ⟨missing, failure, failed⟩ | ⟨record, t, done, writes⟩
  · exact .inl ⟨_, s, by rw [failed], .refl wf, by simp [missing]⟩
  simp only [done]
  cases state : record.resource.release with
  | live =>
    have kept : restoreRecord handle record = (.error ⟨.invalidTransition, handle⟩, record) := by
      simp [restoreRecord, ResourceSlot.restore, state]
    rw [kept] at writes ⊢
    refine .inl ⟨_, _, rfl, sameView_of_writes wf writes, fun other present => ?_⟩
    cases present.symm.trans writes.lookup_before
    exact state
  | releasing =>
    have empty : record.resource.resource.isSome = false := by
      by_contra some
      have live := record.resource.consistent.mp (eq_true_of_ne_false some)
      exact nomatch live.symm.trans state
    have restored : restoreRecord handle record = (.ok (), record.setResource (ResourceSlot.new handle)) := by
      simp [restoreRecord, ResourceSlot.restore, state, empty]
    rw [restored] at writes ⊢
    exact .inr ⟨record, _, rfl, state, reslots_of_writes writes (fun _ => rfl)⟩

/-- A released record leaves the state, a child also its context. -/
inductive Retires (s s' : DeviceState A) : (kind : ObjectKind) → ObjectId → Record A kind → Prop
  | context {id context} : Closes s s' id context → Retires s s' .context id context
  | child {kind id record contextId context} : Drops s s' kind id record contextId context →
      Retires s s' kind id record

theorem Consistent.retire {record : Record A kind} (graph : s.Consistent) (change : Retires s s' kind id record) :
    s'.Consistent := by
  cases change with
  | context closes => exact graph.close closes
  | child drops => exact graph.drop drops

theorem Retires.releasing {record : Record A kind} (change : Retires s s' kind id record) :
    record.resource.release = .releasing := by
  cases change with
  | context closes | child closes => exact closes.releasing

theorem removeReleasing_cases {T R : Type} {t : ObjectTable T} (wf : t.WellFormed) (slot : T → ResourceSlot R)
    (id : ObjectId) :
    (∃ error, removeReleasing t slot id = .error error ∧
      ∀ record, t.lookup id = some record → (slot record).release = .live) ∨
    ∃ record after, removeReleasing t slot id = .ok (record, after) ∧ (slot record).release = .releasing ∧
      t.Writes after id (some record) none := by
  unfold removeReleasing
  rcases remove_cases wf id with ⟨missing, _⟩ | ⟨record, after, removed, writes⟩
  · obtain ⟨failure, failed⟩ := get_error_of_lookup missing
    exact .inl ⟨mapTableError failure, by rw [failed]; rfl, by simp [missing]⟩
  have present := get_eq_ok_iff.mpr writes.lookup_before
  rw [present, removed]
  cases state : (slot record).release with
  | live =>
    refine .inl ⟨.invalidTransition, ?_, fun other found => ?_⟩
    · simp [Except.mapError, Bind.bind, Except.bind, ensureReleasing, state]
    cases found.symm.trans writes.lookup_before
    exact state
  | releasing =>
    refine .inr ⟨record, after, ?_, state, writes⟩
    simp [Except.mapError, Bind.bind, Except.bind, ensureReleasing, state]

theorem commitContextRelease_cases (graph : s.Consistent) (id : ObjectId) :
    (∃ error, s.commitContextRelease id = (.error error, s) ∧
      ∀ record, s.contexts.lookup id = some record → record.resource.release = .live) ∨
    ∃ (context : ContextRecord A) (s' : DeviceState A), s.commitContextRelease id = (.ok (), s') ∧
      Retires s s' .context id context := by
  unfold commitContextRelease
  rcases removeReleasing_cases graph.contexts_wellFormed ContextRecord.resource id with
    ⟨error, failed, live⟩ | ⟨context, contexts, removed, releasing, writes⟩
  · exact .inl ⟨error, by rw [failed], live⟩
  exact .inr ⟨context, { s with contexts }, by rw [removed], .context ⟨⟨rfl, rfl, rfl⟩, writes,
    fun other child => table_rooted s _ _ child, rfl, releasing⟩⟩

/-- Buffers, programs and queues: their record goes, their context's count
drops by one, and what they were charged is refunded. -/
theorem commitChildRelease_cases (graph : s.Consistent) (kind : ObjectKind) (child : kind ≠ .context)
    (notEvent : kind ≠ .event) (contextId : Record A kind → ObjectId)
    (owner : ∀ record, record.owner = some (contextId record))
    (refund : Record A kind → RetainedBytes → RetainedBytes)
    (refunded : ∀ record, record.charge ≤ s.retained.amount kind → ∀ other,
      (refund record s.retained).amount other + (if other = kind then record.charge else 0) =
      s.retained.amount other)
    (id : ObjectId) :
    (∃ error, s.commitChildRelease kind contextId refund id = (.error error, s) ∧
      ∀ record, (s.table kind).lookup id = some record → record.resource.release = .live) ∨
    ∃ record s', s.commitChildRelease kind contextId refund id = (.ok (), s') ∧ Retires s s' kind id record := by
  unfold commitChildRelease
  rcases removeReleasing_cases (graph.tables kind) Record.resource id with
    ⟨error, failed, live⟩ | ⟨record, t, removed, releasing, writes⟩
  · exact .inl ⟨error, by rw [failed], live⟩
  obtain ⟨context, root⟩ := graph.owner_resolves kind writes.lookup_before (owner record)
  have charged : record.charge ≤ s.retained.amount kind := by
    rw [graph.retained]
    exact weight_le_total (graph.tables kind) Record.charge writes.lookup_before
  have same : (s.setTable kind t).contexts = s.contexts := table_setTable_ne s t (Ne.symm child)
  have config := sameConfig_setTable s t
  have silent := record.references_eq_nil notEvent
  simp only [removed, same]
  rcases getMut_cases graph.contexts_wellFormed (contextId record)
    (fun context => ((), { context with children := context.children.modify kind (· - 1) }))
    with ⟨missing, _⟩ | ⟨stored, contexts, done, counted⟩
  · exact nomatch root.symm.trans missing
  cases root.symm.trans counted.lookup_before
  simp only [done]
  refine .inr ⟨record, _, rfl, .child ⟨⟨⟨config.objectNamespace, config.limits, config.policy⟩, child, counted, ?_,
    ?_⟩, ?_, owner record, releasing⟩⟩
  · rw [table_rooted (s.setTable kind t) _ _ child, table_setTable_self]
    exact writes
  · intro other differs child'
    rw [table_rooted (s.setTable kind t) _ _ child', table_setTable_ne s t differs, silent]
    exact .none (graph.tables other) _
  · exact refunded record charged

theorem wrappingSub128_eq {left right : Nat} (enough : right ≤ left) (small : left < 2 ^ 96) :
    wrappingSub128 left right + right = left := by
  unfold wrappingSub128
  omega

/-- Everything an event refers to is live in the event's context. -/
theorem Consistent.submittable (graph : s.Consistent) {event : EventRecord A}
    (present : s.events.lookup id = some event) :
    s.Submittable event.references event.contextId := by
  intro other target member
  have child : other ≠ .context := by
    rintro rfl
    simp [EventRecord.references] at member
  obtain ⟨found, stored, owner⟩ := graph.reference_resolves other present member
  refine ⟨found, stored, owner, graph.busy_live other stored ?_⟩
  rw [Record.busy_iff_inFlight child]
  intro zero
  have counted := graph.flight other stored
  have one := weight_le_total graph.events_wellFormed (fun event => (event.references other).count target) present
  have positive := List.count_pos_iff.mpr member
  rw [zero, UInt32.toNat_zero] at counted
  omega

/-- The end of an event gives its references back. -/
theorem commitEventRelease_cases (graph : s.Consistent) (id : ObjectId) :
    (∃ error, s.commitEventRelease id = (.error error, s) ∧
      ∀ record, s.events.lookup id = some record → record.resource.release = .live) ∨
    ∃ (record : EventRecord A) (s' : DeviceState A), s.commitEventRelease id = (.ok (), s') ∧
      Retires s s' .event id record := by
  unfold commitEventRelease
  rcases remove_cases graph.events_wellFormed id with ⟨missing, _⟩ | ⟨record, events, removed, writes⟩
  · obtain ⟨failure, failed⟩ := get_error_of_lookup missing
    exact .inl ⟨mapTableError failure, by rw [eventRecord, failed]; rfl, by simp [missing]⟩
  have present := eventRecord_eq_ok.mpr writes.lookup_before
  cases state : record.resource.release with
  | live =>
    refine .inl ⟨.invalidTransition, ?_, fun other found => ?_⟩
    · simp [present, Bind.bind, Except.bind, ensureReleasing, state]
    cases found.symm.trans writes.lookup_before
    exact state
  | releasing =>
    have members := graph.submittable writes.lookup_before
    rw [references_eq_named] at members
    have nonempty : record.programIds ≠ [] := by
      intro empty
      simpa [empty] using record.programIds_head
    have validated := validateSubmissionSequence_eq_ok.mpr ⟨nonempty, members⟩
    obtain ⟨context, root⟩ := graph.owner_resolves .event writes.lookup_before rfl
    have apart : ∀ other, other ≠ .event → ({ s with events } : DeviceState A).table other = s.table other := by
      intro other notEvent
      cases other with
      | event => exact absurd rfl notEvent
      | context | buffer | program | queue => rfl
    have wf : ∀ other, (({ s with events } : DeviceState A).table other).WellFormed := by
      intro other
      by_cases same : other = .event
      · subst other
        exact writes.wellFormed
      rw [apart other same]
      exact graph.tables other
    have resolves : ∀ other target, target ∈ named record.queueId record.programIds record.bufferIds other →
        (({ s with events } : DeviceState A).table other).lookup target ≠ none := by
      intro other target member
      have notEvent : other ≠ .event := by
        rintro rfl
        simp [named] at member
      obtain ⟨found, stored, _⟩ := members other target member
      rw [apart other notEvent, stored]
      simp
    obtain ⟨s', given, refers⟩ := adjustEventReferences_refers wf (· - 1) root resolves
    have given' : decrementEventReferences ({ s with events } : DeviceState A) record.contextId record.queueId
        record.programIds record.bufferIds = (.ok (), s') := given
    refine .inr ⟨record, s', ?_, .child ⟨⟨?_, by decide, refers.contexts, ?_, ?_⟩, ?_, rfl, state⟩⟩
    · simp [present, Bind.bind, Except.bind, ensureReleasing, state, validated, removed, Except.mapError, given']
    · exact ⟨refers.config.objectNamespace, refers.config.limits, refers.config.policy⟩
    · have same : s'.table .event = events := refers.events
      rw [same]
      exact writes
    · intro other notEvent child
      have bumps := refers.others other notEvent child
      rw [apart other notEvent] at bumps
      cases other with
      | event => exact absurd rfl notEvent
      | context => exact absurd rfl child
      | buffer | program | queue => exact bumps
    · intro other
      rw [show s'.retained = s.retained from refers.retained]
      cases other <;> rfl

/-- A commit succeeds exactly on a record that is being released. -/
theorem commitRelease_cases (graph : s.Consistent) (kind : ObjectKind) (id : ObjectId) :
    (∃ error, s.commitRelease kind id = (.error error, s) ∧
      ∀ record, (s.table kind).lookup id = some record → record.resource.release = .live) ∨
    ∃ record s', s.commitRelease kind id = (.ok (), s') ∧ Retires s s' kind id record := by
  have refund : ∀ {kind} (record : Record A kind), record.charge ≤ s.retained.amount kind →
      wrappingSub128 (s.retained.amount kind) record.charge + record.charge = s.retained.amount kind :=
    fun record enough => wrappingSub128_eq enough (graph.retained_lt _)
  cases kind with
  | context => exact commitContextRelease_cases graph id
  | event => exact commitEventRelease_cases graph id
  | queue =>
    exact commitChildRelease_cases graph .queue (by decide) (by decide) QueueRecord.contextId (fun _ => rfl)
      (fun _ retained => retained) (fun record _ other => by cases other <;> rfl) id
  | buffer =>
    refine commitChildRelease_cases graph .buffer (by decide) (by decide) BufferRecord.contextId (fun _ => rfl)
      refundBuffer (fun record enough other => ?_) id
    cases other with
    | buffer => exact refund record enough
    | context | program | queue | event => rfl
  | program =>
    refine commitChildRelease_cases graph .program (by decide) (by decide) ProgramRecord.contextId (fun _ => rfl)
      refundProgram (fun record enough other => ?_) id
    cases other with
    | program => exact refund record enough
    | context | buffer | queue | event => rfl

/-- A write through a mutable buffer borrow exchanges the handle of a live buffer. -/
theorem setBufferResource_cases (wf : ∀ kind, (s.table kind).WellFormed) (id : ObjectId) (buffer : A .buffer) :
    (SameView s (s.setBufferResource id buffer) ∧
      ∀ record, s.buffers.lookup id = some record → record.resource.release = .releasing) ∨
    ∃ record : BufferRecord A, record.resource.release = .live ∧
      Reslots s (s.setBufferResource id buffer) .buffer id record (ResourceSlot.new buffer) := by
  unfold setBufferResource
  rcases getMut_cases (t := s.buffers) (wf .buffer) id (writeBufferRecord buffer) with
    ⟨missing, failure, failed⟩ | ⟨record, buffers, done, writes⟩
  · rw [failed]
    exact .inl ⟨.refl wf, by simp [missing]⟩
  simp only [done]
  cases state : record.resource.release with
  | live =>
    have written : (writeBufferRecord buffer record).2 = { record with resource := ResourceSlot.new buffer } := by
      simp [writeBufferRecord, state]
    rw [written] at writes
    have reslots : Reslots s (s.setTable .buffer buffers) .buffer id record (ResourceSlot.new buffer) :=
      reslots_of_writes writes (fun _ => rfl)
    exact .inr ⟨record, state, reslots⟩
  | releasing =>
    have kept : (writeBufferRecord buffer record).2 = record := by simp [writeBufferRecord, state]
    rw [kept] at writes
    have view : SameView s (s.setTable .buffer buffers) := sameView_of_writes wf writes
    refine .inl ⟨view, fun other present => ?_⟩
    cases present.symm.trans writes.lookup_before
    exact state

end DeviceState

end VirtioAccel
