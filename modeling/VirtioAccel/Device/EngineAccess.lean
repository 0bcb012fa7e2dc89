import VirtioAccel.Device.EngineSubmission

/-! Events and transfers. -/

namespace VirtioAccel
open Checked
open DeviceState (SameView Reslots Refused Frees)
variable {V : Handles}
variable {A : Handles} {record : BufferRecord A}

theorem BufferRange.stop_toNat (range : BufferRange) :
    range.stop.toNat = range.offset.toNat + range.bytes.toNat := by
  rw [stop, UInt64.toNat_add, Nat.mod_eq_of_lt range.end_fits]

theorem DeviceState.setBufferResource_reslots {s : DeviceState A} {id : ObjectId} {handle : A .buffer}
    (graph : s.Consistent) (holds : s.Holds .buffer id record handle) (buffer : A .buffer) :
    Reslots s (s.setBufferResource id buffer) .buffer id record (ResourceSlot.new buffer) := by
  have live := ResourceSlot.live_of_resource holds.live
  rcases setBufferResource_cases graph.tables id buffer with ⟨_, releasing⟩ | ⟨record', _, reslots⟩
  · exact nomatch live.symm.trans (releasing record holds.present)
  cases reslots.table.lookup_before.symm.trans holds.present
  exact reslots

namespace CommandProcessor
variable {p : CommandProcessor V} {id : ObjectId}
variable {range : BufferRange} {usage : BufferUsage}
variable {u : Unit}

theorem liveEvent_cases (p : CommandProcessor V) (id : ObjectId) :
    (∃ error, p.liveEvent id = .error error ∧ Refused p.state .event id error) ∨
    ∃ record event, p.liveEvent id = .ok event ∧ p.state.Holds .event id record event := by
  unfold liveEvent DeviceState.eventRecord
  rcases ObjectTable.get_cases p.state.events id with ⟨failure, failed, missing, mapped⟩ | ⟨record, found, present⟩
  · exact .inl ⟨_, by rw [failed]; rfl, .missing missing mapped⟩
  rw [found]
  cases held : record.resource.resource with
  | some event =>
    refine .inr ⟨record, event, ?_, present, held⟩
    simp [Except.mapError, Bind.bind, Except.bind, held]
  | none =>
    refine .inl ⟨.releasing, ?_, .releasing present ?_⟩
    · simp [Except.mapError, Bind.bind, Except.bind, ResourceSlot.get, held]
    cases state : record.resource.release with
    | releasing => exact state
    | live =>
      obtain ⟨event, there⟩ := ResourceSlot.resource_of_live state
      simp [held] at there

/-- A processor that has asked the backend something and learned only that. -/
def asked (p : CommandProcessor V) (call : Call V) (reply : call.Reply) : CommandProcessor V :=
  { p with accelerator := p.accelerator.after ⟨p.state, call, reply⟩ }

/-- What a poll can come to. -/
inductive Polled (p : CommandProcessor V) (id : ObjectId) : CommandProcessor V × Response V → Prop
  | refused {error} : Refused p.state .event id error → Polled p id (p.respondStateError error)
  | failed {record event error} : p.state.Holds .event id record event →
      Polled p id (respondBackendError (p.asked (.pollEvent event) (.error error)) error false)
  | found {record event state} : p.state.Holds .event id record event →
      Polled p id
        (if state = .failed .deviceLost then (p.asked (.pollEvent event) (.ok state)).requireBackendDiscard
        else p.asked (.pollEvent event) (.ok state),
        .bytes .ok (WireEventState.codec.encode (wireEventState state)) false)

theorem pollEvent_cases (p : CommandProcessor V) (id : ObjectId) : Polled p id (p.pollEvent id) := by
  unfold pollEvent
  rcases p.liveEvent_cases id with ⟨error, found, refused⟩ | ⟨record, event, found, holds⟩
  · rw [found]
    exact .refused refused
  obtain ⟨reply, called⟩ := Accelerator.pollEvent_eq p.state p.accelerator event
  simp only [found, called]
  cases reply with
  | error error => exact .failed holds
  | ok state => exact .found holds

/-- What a cancellation can come to. -/
inductive Cancelled (p : CommandProcessor V) (id : ObjectId) : CommandProcessor V × Response V → Prop
  | unsupported : Cancelled p id (p, .empty .unsupported false)
  | refused {error} : Refused p.state .event id error → Cancelled p id (p.respondStateError error)
  | failed {record event error} : p.state.Holds .event id record event →
      Cancelled p id (respondBackendError (p.asked (.cancelEvent event) (.error error)) error false)
  | done {record event} : p.state.Holds .event id record event →
      Cancelled p id (p.asked (.cancelEvent event) (.ok ()), .empty .ok true)

theorem cancelEvent_cases (p : CommandProcessor V) (id : ObjectId) : Cancelled p id (p.cancelEvent id) := by
  unfold cancelEvent
  split
  · exact .unsupported
  rcases p.liveEvent_cases id with ⟨error, found, refused⟩ | ⟨record, event, found, holds⟩
  · rw [found]
    exact .refused refused
  obtain ⟨reply, called⟩ := Accelerator.cancelEvent_eq p.state p.accelerator event
  simp only [found, called]
  cases reply with
  | error error => exact .failed holds
  | ok => exact .done holds

/-- Destruction polls first and goes on only with an event that is over. -/
inductive Destroyed (p : CommandProcessor V) (id : ObjectId) : CommandProcessor V × Response V → Prop
  | refused {error} : Refused p.state .event id error → Destroyed p id (p.respondStateError error)
  | failed {record event error} : p.state.Holds .event id record event →
      Destroyed p id (respondBackendError (p.asked (.pollEvent event) (.error error)) error false)
  | pending {record event} : p.state.Holds .event id record event →
      Destroyed p id (p.asked (.pollEvent event) (.ok .pending), .empty .busy false)
  | lost {record event} : p.state.Holds .event id record event →
      Destroyed p id ((p.asked (.pollEvent event) (.ok (.failed .deviceLost))).requireBackendDiscard,
        .empty .deviceLost false)
  | ended {record event state result} : p.state.Holds .event id record event → state ≠ .pending →
      state ≠ .failed .deviceLost → Released (p.asked (.pollEvent event) (.ok state)) .event id result →
      Destroyed p id result

theorem destroyEvent_cases (graph : p.state.Consistent) (id : ObjectId) : Destroyed p id (p.destroyEvent id) := by
  unfold destroyEvent
  rcases p.liveEvent_cases id with ⟨error, found, refused⟩ | ⟨record, event, found, holds⟩
  · rw [found]
    exact .refused refused
  obtain ⟨reply, called⟩ := Accelerator.pollEvent_eq p.state p.accelerator event
  simp only [found, called]
  have released : ∀ state, Released (p.asked (.pollEvent event) (.ok state)) .event id
      ((p.asked (.pollEvent event) (.ok state)).releaseObject .event id) := fun state =>
    releaseObject_cases (p := p.asked (.pollEvent event) (.ok state)) graph .event id
  rcases reply with error | state
  · exact .failed holds
  rcases state with _ | _ | error | _
  · exact .pending holds
  · exact .ended holds (by decide) (by decide) (released _)
  · by_cases lost : error = .deviceLost
    · subst error
      exact .lost holds
    have past := Destroyed.ended holds (by simp) (by simp [lost]) (released (.failed error))
    cases error <;> first | exact past | exact absurd rfl lost
  · exact .ended holds (by decide) (by decide) (released _)

theorem validateTransfer_ok (valid : validateTransfer record range usage = .ok u) : record.inFlight = 0 ∧
      range.offset.toNat + range.bytes.toNat ≤ record.info.desc.bytes.toNat ∧
      Flags32.contains record.info.desc.usage usage = true := by
  simp only [validateTransfer, bind_eq_ok, refuseIf_eq_ok, not_not, UInt64.not_lt] at valid
  obtain ⟨_, idle, _, within, allowed⟩ := valid
  rw [UInt64.le_iff_toNat_le, range.stop_toNat] at within
  exact ⟨idle, within, allowed⟩

theorem validateTransfer_error {status : StatusCode}
    (invalid : validateTransfer record range usage = .error status) :
    status ≠ .ok := by
  simp only [validateTransfer, bind_eq_error, refuseIf_eq_error] at invalid
  rcases invalid with ⟨_, rfl⟩ | ⟨_, _, ⟨_, rfl⟩ | ⟨_, _, _, rfl⟩⟩ <;> decide

/-- What both transfers check before they go to the backend. -/
theorem transfer_ready {record : BufferRecord (Owned V)} {buffer : Owned V .buffer} (graph : p.state.Consistent)
    (found : p.state.bufferRecord id = .ok record) (valid : validateTransfer record range usage = .ok u)
    (live : record.resource.get = .ok buffer) :
    p.state.Holds .buffer id record buffer ∧ p.state.Transferable buffer range.offset range.bytes usage := by
  obtain ⟨idle, within, allowed⟩ := validateTransfer_ok valid
  have holds : p.state.Holds .buffer id record buffer :=
    ⟨DeviceState.bufferRecord_eq_ok.mp found, ResourceSlot.get_eq_ok.mp live⟩
  have quiet : Record.busy (show Record (Owned V) .buffer from record) = false := by simp [Record.busy, idle]
  exact ⟨holds, id, record, holds, graph.idle_unreferenced holds.present quiet, within, allowed⟩

/-- What a write can come to. -/
inductive Written (p : CommandProcessor V) (id : ObjectId) (range : BufferRange) (data : ByteSource) :
    CommandProcessor V × Response V → Prop
  | refused {status} : status ≠ .ok → Written p id range data (p, .empty status false)
  | done {record buffer value state} : p.state.Holds .buffer id record buffer →
      p.state.Transferable buffer range.offset range.bytes BufferUsage.transferDestination →
      Reslots p.state state .buffer id record (ResourceSlot.new { buffer with value }) →
      Written p id range data
        ({ p.asked (.writeBuffer buffer range.offset data) (.ok (), value) with state }, .empty .ok true)
  | failed {record buffer value error state} : p.state.Holds .buffer id record buffer →
      p.state.Transferable buffer range.offset range.bytes BufferUsage.transferDestination →
      Reslots p.state state .buffer id record (ResourceSlot.new { buffer with value }) →
      Written p id range data (respondBackendError
        { p.asked (.writeBuffer buffer range.offset data) (.error error, value) with state } error true)

theorem writeBuffer_cases (graph : p.state.Consistent) (id : ObjectId) (range : BufferRange) (data : ByteSource) :
    Written p id range data (p.writeBuffer id range data) := by
  unfold writeBuffer
  split
  · exact .refused (statusFromDeviceStateError_ne_ok _)
  rename_i record found
  split
  · rename_i status invalid
    exact .refused (validateTransfer_error invalid)
  rename_i valid
  split
  · exact .refused (statusFromDeviceStateError_ne_ok _)
  rename_i buffer live
  obtain ⟨holds, ready⟩ := transfer_ready graph found valid live
  obtain ⟨result, value, called⟩ := Accelerator.writeBuffer_eq p.state p.accelerator buffer range.offset data
  have reslots := DeviceState.setBufferResource_reslots graph holds { buffer with value }
  simp only [called]
  cases result with
  | ok => exact .done holds ready reslots
  | error error => exact .failed holds ready reslots

/-- What a read can come to, before its bytes are moved. -/
inductive ReadReady (p : CommandProcessor V) (id : ObjectId) (range : BufferRange) :
    CommandProcessor V × Response V → Prop
  | refused {status} : status ≠ .ok → ReadReady p id range (p, .empty status false)
  | ready {record buffer} : p.state.Holds .buffer id record buffer →
      p.state.Transferable buffer range.offset range.bytes BufferUsage.transferSource →
      ReadReady p id range (p, .transfer buffer range)

theorem readBuffer_cases (graph : p.state.Consistent) (id : ObjectId) (range : BufferRange) :
    ReadReady p id range (p.readBuffer id range) := by
  unfold readBuffer
  split
  · exact .refused (statusFromDeviceStateError_ne_ok _)
  rename_i record found
  split
  · rename_i status invalid
    exact .refused (validateTransfer_error invalid)
  rename_i valid
  split
  · exact .refused (statusFromDeviceStateError_ne_ok _)
  rename_i buffer live
  obtain ⟨holds, ready⟩ := transfer_ready graph found valid live
  exact .ready holds ready

end CommandProcessor

end VirtioAccel
