import VirtioAccel.Device.EngineMoves

namespace VirtioAccel
variable {A V : Handles}

theorem ObjectTable.Writes.trans {T : Type} {before middle after : ObjectTable T} {id : ObjectId}
    {old mid new : Option T} (first : before.Writes middle id old mid) (second : middle.Writes after id mid new) :
    before.Writes after id old new := by
  refine ⟨second.wellFormed, first.shape.trans second.shape, first.lookup_before, fun other => ?_, fun f => ?_,
    fun other issued => second.issued other (first.issued other issued)⟩
  · rw [second.lookup_after]
    split
    · rfl
    rename_i elsewhere
    exact first.lookup_other elsewhere
  · have left := first.total f
    have right := second.total f
    omega

namespace DeviceState
variable {s middle s' : DeviceState A} {kind : ObjectKind} {id : ObjectId} {record : Record A kind}

theorem Reslots.trans {taken slot : ResourceSlot (A kind)} (first : Reslots s middle kind id record taken)
    (second : Reslots middle s' kind id (record.setResource taken) slot) : Reslots s s' kind id record slot := by
  have again : (record.setResource taken).setResource slot = record.setResource slot := by cases kind <;> rfl
  refine ⟨first.config.trans second.config, ?_, fun other differs => ?_, second.retained.trans first.retained, ?_⟩
  · have table := first.table.trans second.table
    rwa [again] at table
  · rw [second.others other differs, first.others other differs]
  · simpa using second.needed

theorem Consistent.idle_unreferenced (graph : s.Consistent) (present : (s.table kind).lookup id = some record)
    (idle : record.busy = false) : s.Unreferenced kind id where
  events event member := by
    by_cases root : kind = .context
    · subst kind
      simp [EventRecord.references]
    have zero : record.inFlight = 0 := by
      by_contra busy
      simp [(Record.busy_iff_inFlight root record).mpr busy] at idle
    have counted := graph.flight kind present
    obtain ⟨eventId, stored⟩ := (ObjectTable.mem_records_iff graph.events_wellFormed).mp member
    have one := ObjectTable.weight_le_total graph.events_wellFormed
      (fun event => (event.references kind).count id) stored
    rw [zero, UInt32.toNat_zero] at counted
    rw [← List.count_eq_zero]
    omega
  children root other child member := by
    subst kind
    have empty : (ContextRecord.children record).isEmpty = true := by simpa [Record.busy] using idle
    have none := ChildCounts.isEmpty_iff.mp empty other
    have counted := graph.owned other id record present
    obtain ⟨childId, stored⟩ := (ObjectTable.mem_records_iff (graph.tables other)).mp member
    have one := ObjectTable.weight_le_total (graph.tables other)
      (fun record => if record.owner = some id then 1 else 0) stored
    intro owner
    simp only [owner, if_true] at one
    rw [none, UInt32.toNat_zero] at counted
    omega

/-- A record whose handle is out commits. -/
theorem Reslots.commit (graph : s.Consistent) (begun : Reslots s middle kind id record ResourceSlot.taken) :
    ∃ s', middle.commitRelease kind id = (.ok (), s') ∧ Frees s s' kind id record := by
  have stored := begun.table.lookup_self
  rcases commitRelease_cases (graph.reslot begun) kind id with ⟨_, _, live⟩ | ⟨record', s', done, retires⟩
  · have impossible := live _ stored
    simp [ResourceSlot.taken] at impossible
  have same : record' = record.setResource ResourceSlot.taken := by
    have present : (middle.table kind).lookup id = some record' := by
      cases retires with
      | context closes => exact closes.contexts.lookup_before
      | child drops => exact drops.table.lookup_before
    exact Option.some.inj (present.symm.trans stored)
  subst record'
  exact ⟨s', done, middle, begun, retires⟩

/-- A record whose handle is out takes a handle back. -/
theorem Reslots.restore (graph : s.Consistent) (begun : Reslots s middle kind id record ResourceSlot.taken)
    (handle : A kind) : ∃ s', middle.restoreRelease kind id handle = (.ok (), s') ∧
      Reslots s s' kind id record (ResourceSlot.new handle) := by
  have stored := begun.table.lookup_self
  rcases restoreRelease_cases (graph.reslot begun).tables kind id handle with
    ⟨_, _, _, _, live⟩ | ⟨record', s', done, _, reslots⟩
  · have impossible := live _ stored
    simp [ResourceSlot.taken] at impossible
  have same := Option.some.inj (reslots.table.lookup_before.symm.trans stored)
  subst record'
  exact ⟨s', done, begun.trans reslots⟩

end DeviceState

open DeviceState (SameView Reslots Refused Frees)

namespace CommandProcessor
variable {p : CommandProcessor V}

/-- What a release attempt can come to: refused before the backend hears of
it, or one call on an idle live handle. A begun release always commits, and
a rejected one is always restored. -/
theorem attemptRelease_cases (graph : p.state.Consistent) (kind : ObjectKind) (id : ObjectId) :
    (∃ error state, p.attemptRelease kind id = (.refused error, { p with state }) ∧ SameView p.state state ∧
      Refused p.state kind id error) ∨
    ∃ record handle, p.state.Holds kind id record handle ∧ p.state.Unreferenced kind id ∧
      ((∃ state, p.attemptRelease kind id = (.released true,
          { p with state, accelerator := p.accelerator.after ⟨p.state, .release kind handle, .ok ()⟩ }) ∧
        Frees p.state state kind id record) ∨
      (∃ error value state, p.attemptRelease kind id = (.rejected error true, { p with
            state
            accelerator := p.accelerator.after ⟨p.state, .release kind handle, .error (.rejected error value)⟩ }) ∧
        Reslots p.state state kind id record (ResourceSlot.new { handle with value })) ∨
      ∃ error state, p.attemptRelease kind id = (.indeterminate, { p with
            state
            accelerator := p.accelerator.after ⟨p.state, .release kind handle, .error (.indeterminate error)⟩ }) ∧
        Reslots p.state state kind id record ResourceSlot.taken) := by
  unfold attemptRelease
  rcases DeviceState.beginRelease_cases graph.tables kind id with
    ⟨error, state, begun, same, refused⟩ | ⟨record, handle, state, begun, idle, held, reslots⟩
  · exact .inl ⟨error, state, by rw [begun], same, refused⟩
  have present := reslots.table.lookup_before
  refine .inr ⟨record, handle, ⟨present, held⟩, graph.idle_unreferenced present idle, ?_⟩
  simp only [begun]
  rcases Accelerator.release_cases p.state p.accelerator kind handle with
    answer | ⟨error, value, answer⟩ | ⟨error, answer⟩
  · obtain ⟨after, done, frees⟩ := reslots.commit graph
    exact .inl ⟨after, by simp only [answer, done], frees⟩
  · obtain ⟨after, done, restored⟩ := reslots.restore graph { handle with value }
    exact .inr (.inl ⟨error, value, after, by simp only [answer, done], restored⟩)
  · exact .inr (.inr ⟨error, state, by simp only [answer], reslots⟩)

theorem recordedBytes_cases (p : CommandProcessor V) (kind : ObjectKind) (id : ObjectId) :
    (∃ error, p.recordedBytes kind id = .error error ∧ (p.state.table kind).lookup id = none ∧
      (error = .invalidObject ∨ error = .staleObject)) ∨
    ∃ bytes, p.recordedBytes kind id = .ok bytes ∧
      ∀ record, (p.state.table kind).lookup id = some record → bytes.toNat = record.charge := by
  cases kind with
  | context | queue | event => exact .inr ⟨0, rfl, fun _ _ => rfl⟩
  | buffer =>
    unfold recordedBytes DeviceState.bufferRecord
    rcases ObjectTable.get_cases p.state.buffers id with ⟨failure, failed, missing, mapped⟩ | ⟨record,
      found, present⟩
    · exact .inl ⟨_, by rw [failed]; rfl, missing, mapped⟩
    refine .inr ⟨record.info.allocationBytes, by rw [found]; rfl, fun other stored => ?_⟩
    cases stored.symm.trans present
    rfl
  | program =>
    unfold recordedBytes DeviceState.programRecord
    rcases ObjectTable.get_cases p.state.programs id with ⟨failure, failed, missing, mapped⟩ | ⟨record,
      found, present⟩
    · exact .inl ⟨_, by rw [failed]; rfl, missing, mapped⟩
    refine .inr ⟨record.residentBytes, by rw [found]; rfl, fun other stored => ?_⟩
    cases stored.symm.trans present
    rfl

/-- What a release command can come to, with its response. -/
inductive Released (p : CommandProcessor V) (kind : ObjectKind) (id : ObjectId) : CommandProcessor V ×
    Response V → Prop
  | refused {error state} : SameView p.state state → Refused p.state kind id error →
      Released p kind id ({ p with state }, .empty (statusFromDeviceStateError error) false)
  | freed {record handle state} : p.state.Holds kind id record handle → p.state.Unreferenced kind id →
      Frees p.state state kind id record →
      Released p kind id ({ p with
        state
        accelerator := p.accelerator.after ⟨p.state, .release kind handle, .ok ()⟩ }, .empty .ok true)
  | rejected {record handle error value state} : p.state.Holds kind id record handle →
      p.state.Unreferenced kind id →
      Reslots p.state state kind id record (ResourceSlot.new { handle with value }) →
      Released p kind id (respondBackendError { p with
        state
        accelerator := p.accelerator.after ⟨p.state, .release kind handle, .error (.rejected error value)⟩ }
          error false)
  | forfeited {record handle error state bytes} : p.state.Holds kind id record handle →
      p.state.Unreferenced kind id → Frees p.state state kind id record → bytes.toNat = record.charge →
      Released p kind id (discardResponse { p with
        state
        accelerator := p.accelerator.after ⟨p.state, .release kind handle, .error (.indeterminate error)⟩
        quarantined := p.quarantined.bump kind
        quarantinedBytes := p.quarantinedBytes.charge kind bytes })

/-- The command path settles an indeterminate release by quarantine. -/
theorem quarantine_eq {kind : ObjectKind} {id : ObjectId} {record : Record (Owned V) kind}
    {state : DeviceState (Owned V)} (graph : p.state.Consistent)
    (begun : Reslots p.state state kind id record ResourceSlot.taken) (accelerator : Accelerator V)
    (bytes : UInt64) :
    ∃ after, Frees p.state after kind id record ∧
      quarantine { p with state, accelerator } kind id bytes =
        { p with
          state := after
          accelerator
          quarantined := p.quarantined.bump kind
          quarantinedBytes := p.quarantinedBytes.charge kind bytes } := by
  obtain ⟨after, done, frees⟩ := begun.commit graph
  exact ⟨after, frees, by simp only [quarantine, done]⟩

theorem releaseObject_cases (graph : p.state.Consistent) (kind : ObjectKind) (id : ObjectId) :
    Released p kind id (p.releaseObject kind id) := by
  unfold releaseObject
  rcases p.recordedBytes_cases kind id with ⟨error, read, missing, mapped⟩ | ⟨bytes, read, charged⟩
  · simp only [read]
    exact .refused (.refl graph.tables) (.missing missing mapped)
  simp only [read]
  rcases attemptRelease_cases graph kind id with
    ⟨error, state, done, same, refused⟩ | ⟨record, handle, holds, idle, ⟨state, done, frees⟩ |
      ⟨error, value, state, done, restored⟩ | ⟨error, state, done, taken⟩⟩
  · rw [done]
    exact .refused same refused
  · rw [done]
    exact .freed holds idle frees
  · rw [done]
    exact .rejected holds idle restored
  · rw [done]
    obtain ⟨after, frees, settled⟩ := quarantine_eq graph taken
      (p.accelerator.after ⟨p.state, .release kind handle, .error (.indeterminate error)⟩) bytes
    simp only [respondRelease, settled]
    exact @Released.forfeited V p kind id record handle error after bytes holds idle frees
      (charged record holds.present)

end CommandProcessor

end VirtioAccel
