import VirtioAccel.Device.EngineReleases

/-! What each command can come to: one lemma for each handler. -/

namespace VirtioAccel
open DeviceState (SameView Reslots Refused Gains Frees Adopts)
variable {V : Handles}

theorem statusFromBackendError_ne_ok (error : BackendError) : statusFromBackendError error ≠ .ok := by
  cases error <;> simp only [statusFromBackendError] <;> decide

theorem statusFromDeviceStateError_ne_ok (error : DeviceStateError) : statusFromDeviceStateError error ≠ .ok := by
  cases error <;> decide

namespace CommandProcessor
variable {p : CommandProcessor V} {kind : ObjectKind} {id : ObjectId}
variable {error : BackendError}

theorem noteBackendError_of_ne (kept : error ≠ .deviceLost) : p.noteBackendError error = p := by
  rw [noteBackendError, if_neg kept]

/-- The backend returned a handle and the state holds it in a new record. -/
structure Grants (p p' : CommandProcessor V) (e : Exchange V) (kind : ObjectKind) (id : ObjectId)
    (record : Record (Owned V) kind) : Prop where
  processor : p' = { p with state := p'.state, accelerator := p.accelerator.after e }
  permitted : Permitted false p e
  gains : Gains p.state p'.state kind id record
  grants : e.grants = some (kind, record.charge)
  settles : e.settles = none
  fresh : ∃ value, record.resource = ResourceSlot.new (p.accelerator.own value)

/-- What a creation command can come to, with its response. -/
inductive Created (p : CommandProcessor V) (kind : ObjectKind) : CommandProcessor V × Response V → Prop
  | refused {status} : status ≠ .ok → Created p kind (p, .empty status false)
  | declined {e error} : Permitted false p e → e.Neutral →
      Created p kind (respondBackendError { p with accelerator := p.accelerator.after e } error false)
  | made {e p' id record} : Grants p p' e kind id record → Created p kind (p'.respondObject id)

theorem Created.of_state_error (error : DeviceStateError) : Created p kind (p.respondStateError error) :=
  .refused (statusFromDeviceStateError_ne_ok error)

/-- A descriptor the device information rules out; none of these errors is a device loss. -/
theorem Created.of_descriptor (kept : error ≠ .deviceLost) :
    Created p kind (p.respondBackendError error false) := by
  rw [respondBackendError, noteBackendError_of_ne kept]
  exact .refused (statusFromBackendError_ne_ok error)

theorem createContext_cases (graph : p.state.Consistent) (reserve : Bool) (desc : ContextDesc) :
    Created p .context (p.createContext reserve desc) := by
  unfold createContext
  split
  · rename_i error refused
    refine .of_descriptor ?_
    unfold DeviceInfo.validateContextDesc at refused
    split at refused <;> cases refused
    decide
  obtain ⟨reply, called⟩ := Accelerator.createContext_eq p.state p.accelerator desc
  rcases DeviceState.createContextWith_cases graph reserve (Accelerator.createContext p.state desc)
    p.accelerator with
    ⟨error, done⟩ | ⟨_, _, ⟨error, _, answer, rfl, done⟩ | ⟨resource, id, state, answer, ⟨_, opens⟩, done⟩⟩
  · rw [done]
    exact .of_state_error error
  · rw [called] at done answer
    cases reply with
    | ok => cases answer
    | error => rw [done]; exact .declined ⟨rfl, trivial⟩ ⟨rfl, rfl⟩
  · rw [called] at done answer
    cases reply with
    | error => cases answer
    | ok value =>
      cases answer
      rw [done]
      exact .made ⟨rfl, ⟨rfl, trivial⟩, .context opens, rfl, rfl, value, rfl⟩

theorem createQueue_cases (graph : p.state.Consistent) (reserve : Bool) (contextId : ObjectId) (desc : QueueDesc) :
    Created p .queue (p.createQueue reserve contextId desc) := by
  unfold createQueue
  split
  · rename_i error refused
    refine .of_descriptor ?_
    unfold DeviceInfo.validateQueueDesc at refused
    split at refused <;> cases refused
    decide
  rcases DeviceState.createQueueWith_cases graph reserve contextId (Accelerator.createQueue p.state desc)
    p.accelerator with ⟨error, done⟩ | ⟨handle, ⟨context, present, held⟩, outcome⟩
  · rw [done]
    exact .of_state_error error
  obtain ⟨reply, called⟩ := Accelerator.createQueue_eq p.state p.accelerator desc handle
  rcases outcome with ⟨error, _, answer, rfl, done⟩ | ⟨resource, id, state, answer, ⟨_, _, adopts⟩, done⟩
  · rw [called] at done answer
    cases reply with
    | ok => cases answer
    | error => rw [done]; exact .declined ⟨rfl, contextId, context, present, held⟩ ⟨rfl, rfl⟩
  · rw [called] at done answer
    cases reply with
    | error => cases answer
    | ok value =>
      cases answer
      rw [done]
      exact .made ⟨rfl, ⟨rfl, contextId, context, present, held⟩, .child adopts, rfl, rfl, value, rfl⟩

theorem loadProgram_cases (graph : p.state.Consistent) (reserve : Bool) (contextId : ObjectId)
    (artifact : ArtifactRef) : Created p .program (p.loadProgram reserve contextId artifact) := by
  unfold loadProgram
  rcases DeviceState.createProgramWith_cases graph reserve contextId artifact.payload.len artifact.residentBytes
    (Accelerator.loadProgram p.state artifact) p.accelerator with
    ⟨error, done⟩ | ⟨handle, ⟨context, present, held⟩, outcome⟩
  · rw [done]
    exact .of_state_error error
  obtain ⟨reply, called⟩ := Accelerator.loadProgram_eq p.state p.accelerator artifact handle
  rcases outcome with ⟨error, _, answer, rfl, done⟩ | ⟨resource, id, state, answer, ⟨_, _, _, adopts⟩, done⟩
  · rw [called] at done answer
    cases reply with
    | ok => cases answer
    | error => rw [done]; exact .declined ⟨rfl, contextId, context, present, held⟩ ⟨rfl, rfl⟩
  · rw [called] at done answer
    cases reply with
    | error => cases answer
    | ok value =>
      cases answer
      rw [done]
      exact .made ⟨rfl, ⟨rfl, contextId, context, present, held⟩, .child adopts, rfl, rfl, value, rfl⟩

/-- What becomes of an allocation that was admitted only to be released. -/
inductive Withdrawn (p : CommandProcessor V) (id : ObjectId) (error : BackendError) :
    CommandProcessor V × Response V → Prop
  | freed {record handle state} : p.state.Holds .buffer id record handle → p.state.Unreferenced .buffer id →
      Frees p.state state .buffer id record →
      Withdrawn p id error (respondBackendError { p with
        state
        accelerator := p.accelerator.after ⟨p.state, .release .buffer handle, .ok ()⟩ } error false)
  | rejected {record handle refusal value state} : p.state.Holds .buffer id record handle →
      p.state.Unreferenced .buffer id →
      Reslots p.state state .buffer id record (ResourceSlot.new { handle with value }) →
      Withdrawn p id error (discardResponse { p with
        state
        accelerator := p.accelerator.after ⟨p.state, .release .buffer handle, .error (.rejected refusal value)⟩ })
  | forfeited {record handle refusal state bytes} : p.state.Holds .buffer id record handle →
      p.state.Unreferenced .buffer id → Frees p.state state .buffer id record → bytes.toNat = record.charge →
      Withdrawn p id error (discardResponse { p with
        state
        accelerator := p.accelerator.after ⟨p.state, .release .buffer handle, .error (.indeterminate refusal)⟩
        quarantined := p.quarantined.bump .buffer
        quarantinedBytes := p.quarantinedBytes.charge .buffer bytes })

theorem releaseUnpublishedBuffer_cases (graph : p.state.Consistent) {record : Record (Owned V) .buffer}
    (present : (p.state.table .buffer).lookup id = some record) (idle : record.busy = false)
    (live : record.resource.release = .live) (error : BackendError) :
    Withdrawn p id error (p.releaseUnpublishedBuffer id error) := by
  unfold releaseUnpublishedBuffer
  rcases p.recordedBytes_cases .buffer id with ⟨_, _, missing, _⟩ | ⟨bytes, read, charged⟩
  · exact nomatch present.symm.trans missing
  simp only [read]
  rcases attemptRelease_cases graph .buffer id with
    ⟨_, state, done, same, refused⟩ | ⟨record', handle, holds, quiet, ⟨state, done, frees⟩ |
      ⟨refusal, value, state, done, restored⟩ | ⟨refusal, state, done, taken⟩⟩
  · cases refused with
    | missing missing _ => exact nomatch present.symm.trans missing
    | busy stored busy =>
      cases present.symm.trans stored
      exact nomatch idle.symm.trans busy
    | releasing stored releasing =>
      cases present.symm.trans stored
      exact nomatch live.symm.trans releasing
  · rw [done]
    exact .freed holds quiet frees
  · rw [done]
    exact .rejected holds quiet restored
  · rw [done]
    obtain ⟨after, frees, settled⟩ := quarantine_eq graph taken
      (p.accelerator.after ⟨p.state, .release .buffer handle, .error (.indeterminate refusal)⟩) bytes
    simp only [settled]
    exact @Withdrawn.forfeited V p id error record' handle refusal after bytes holds quiet frees
      (charged record' holds.present)

/-- An allocation is either a creation like the others, or the backend's
answer did not fit and the buffer is withdrawn. -/
theorem allocateBuffer_cases (graph : p.state.Consistent) (reserve : Bool) (contextId : ObjectId)
    (desc : BufferDesc) :
    Created p .buffer (p.allocateBuffer reserve contextId desc) ∨
    ∃ e p' id record error, Grants p p' e .buffer id record ∧ (error = .incompatible ∨ error = .resourceLimit) ∧
      Withdrawn p' id error (p.allocateBuffer reserve contextId desc) := by
  unfold allocateBuffer
  split
  · rename_i error refused
    refine .inl (.of_descriptor ?_)
    unfold DeviceInfo.validateBufferDesc at refused
    split at refused
    · cases refused
      decide
    split at refused <;> cases refused
    decide
  · rcases DeviceState.createBufferWith_cases graph reserve contextId desc (Accelerator.allocateBuffer p.state)
      p.accelerator with ⟨error, done⟩ | ⟨handle, ⟨context, present, held⟩, outcome⟩
    · rw [done]
      exact .inl (.of_state_error error)
    obtain ⟨reply, called⟩ := Accelerator.allocateBuffer_eq p.state p.accelerator handle desc
    rcases outcome with ⟨error, _, answer, rfl, done⟩ | ⟨_, _, state, answer, ⟨_, id, _, adopts, judged⟩, done⟩
    · rw [called] at done answer
      cases reply with
      | ok => cases answer
      | error => rw [done]; exact .inl (.declined ⟨rfl, contextId, context, present, held⟩ ⟨rfl, rfl⟩)
    rw [called] at done answer
    cases reply with
    | error => cases answer
    | ok made =>
      cases answer
      let e : Exchange V := ⟨p.state, .allocateBuffer handle desc, .ok made⟩
      have grants : Grants p { p with state, accelerator := p.accelerator.after e } e .buffer id _ :=
        ⟨rfl, ⟨rfl, contextId, context, present, held⟩, .child adopts, rfl, rfl, made.1, rfl⟩
      rcases judged with ⟨rfl, _⟩ | ⟨error, cause, rfl⟩
      · rw [done]
        exact .inl (.made grants)
      rw [done]
      refine .inr ⟨_, _, id, _, error, grants, cause, ?_⟩
      have stored := adopts.table.lookup_self
      exact releaseUnpublishedBuffer_cases (graph.adopt adopts) stored rfl rfl error

end CommandProcessor

end VirtioAccel
