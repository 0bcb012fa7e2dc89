import VirtioAccel.Device.Framing
import VirtioAccel.Device.StateFrames

/-! From the response a handler chose to the bytes of the sink. -/

namespace VirtioAccel
open ResponseWriter
variable {V : Handles} {σ : Type}
variable {response : Response V}
variable {status : StatusCode}

/-- The read the backend would make now. -/
def Accelerator.transfer (self : Accelerator V) (buffer : Owned V .buffer) (offset bytes : UInt64) : Transfer :=
  self.behaviour self.log (.readBuffer buffer offset bytes)

/-- The kind of object a command creates; a submission's event is apart. -/
def DecodedRequestBody.creates : DecodedRequestBody → Option ObjectKind
  | .createContext _ => some .context
  | .allocateBuffer _ _ => some .buffer
  | .loadProgram _ _ _ _ _ => some .program
  | .createQueue _ _ => some .queue
  | _ => none

namespace Response

/-- The payload bytes a response needs room for. -/
def size : Response V → Nat
  | .empty _ _ => 0
  | .bytes _ payload _ => payload.length
  | .transfer _ range => range.bytes.toNat

/-- A response that waits for the backend waits for a whole read. -/
def Whole (accelerator : Accelerator V) : Response V → Prop
  | .transfer buffer range => (accelerator.transfer buffer range.offset range.bytes).Whole range.bytes
  | .empty _ _ | .bytes _ _ _ => True

/-- The status and payload a response can turn into. A read fails with the
backend's status and no payload. -/
inductive Says : Response V → StatusCode → List UInt8 → Prop
  | empty {status mutated} : Says (.empty status mutated) status []
  | bytes {status payload mutated} : Says (.bytes status payload mutated) status payload
  | read {buffer range payload} : payload.length = range.bytes.toNat → Says (.transfer buffer range) .ok payload
  | failed {buffer range error} : Says (.transfer buffer range) (statusFromBackendError error) []

theorem Says.length_le {payload : List UInt8} (meant : response.Says status payload) :
    payload.length ≤ response.size := by
  cases meant with
  | empty | failed => exact Nat.zero_le _
  | bytes => exact Nat.le_refl _
  | read sized => exact sized.le

end Response

namespace CommandProcessor
variable (p : CommandProcessor V)
variable {p' : CommandProcessor V} {range : BufferRange}
variable {outcome : CommandOutcome} {requestId : UInt64} {sink after : σ}

@[simp] theorem noteBackendError_decoder (error : BackendError) :
    (p.noteBackendError error).decoder = p.decoder := by
  unfold noteBackendError
  split <;> rfl

@[simp] theorem noteBackendError_state (error : BackendError) : (p.noteBackendError error).state = p.state := by
  unfold noteBackendError
  split <;> rfl

variable {p} {body : DecodedRequestBody}

/-- A read that has its window is one exchange, and then a header over what the
exchange left there. -/
theorem transferResponse_cases [ByteSink σ] (requestId : UInt64) (buffer : Owned V .buffer)
    {window : ResponsePayload σ} {moved : Except BackendError Unit × ResponsePayload σ}
    (opened : payload p.decoder.limits.maxResponseBytes sink range.bytes = .ok window)
    (ran : (p.accelerator.transfer buffer range.offset range.bytes).run window = moved) :
    ∃ after : Accelerator V, (moved.1 = .ok () ∧ p.transferResponse sink requestId buffer range =
      { p with accelerator := after }.completeResponse (moved.2.commit .ok requestId) .ok requestId false) ∨
    ∃ error, moved.1 = .error error ∧ p.transferResponse sink requestId buffer range =
      ({ p with accelerator := after }.noteBackendError error).completeResponse
        (writeEmpty p.decoder.limits.maxResponseBytes moved.2.sink (statusFromBackendError error) requestId)
        (statusFromBackendError error) requestId false := by
  refine ⟨p.accelerator.after ⟨p.state, .readBuffer buffer range.offset range.bytes,
    p.accelerator.transfer buffer range.offset range.bytes⟩, ?_⟩
  have called : p.accelerator.readBuffer p.state buffer range.offset window = (moved.1, moved.2,
      p.accelerator.after ⟨p.state, .readBuffer buffer range.offset range.bytes,
        p.accelerator.transfer buffer range.offset range.bytes⟩) := by
    rw [← ran, ← ResponseWriter.payload_len opened]
    rfl
  simp only [transferResponse, opened, called]
  cases moved.1 with
  | ok => exact .inl ⟨rfl, rfl⟩
  | error error => exact .inr ⟨error, rfl, by simp only [noteBackendError_decoder]⟩

theorem completeResponse_eq_ok {written : Except ResponseWriteError UInt32 × σ} {mutated : Bool}
    (done : p.completeResponse written status requestId mutated = (.ok outcome, p', after)) :
    ∃ used, written = (.ok used, after) ∧ outcome = .response requestId status used ∧ p' = p := by
  rcases written with ⟨_ | used, sink⟩
  · cases done
  cases done
  exact ⟨used, rfl, rfl, rfl⟩

/-- A response that was written is the one the handler chose. Only a read
reaches the backend again. -/
theorem respond_said [HonestSink σ] (done : p.respond sink requestId response = (.ok outcome, p', after)) :
    ∃ status used payload, outcome = .response requestId status used ∧
      Answered sink after requestId status used payload ∧ response.Says status payload ∧ p'.state = p.state ∧
      ((∀ buffer range, response ≠ .transfer buffer range) → p' = p) := by
  cases response with
  | empty status mutated =>
    obtain ⟨used, written, rfl, rfl⟩ := completeResponse_eq_ok done
    obtain ⟨rfl, answered⟩ := writeEmpty_written rfl written
    exact ⟨status, 16, [], rfl, answered, .empty, rfl, fun _ => rfl⟩
  | bytes status payload mutated =>
    obtain ⟨used, written, rfl, rfl⟩ := completeResponse_eq_ok done
    exact ⟨status, used, payload, rfl, writeBytes_written written, .bytes, rfl, fun _ => rfl⟩
  | transfer buffer range =>
    change p.transferResponse sink requestId buffer range = _ at done
    cases opened : payload p.decoder.limits.maxResponseBytes sink range.bytes with
    | error error =>
      simp only [transferResponse, opened] at done
      cases done
    | ok window =>
      obtain ⟨rfl, size, total, room⟩ := payload_eq_ok opened
      obtain ⟨accelerator, ⟨_, same⟩ | ⟨error, _, same⟩⟩ := transferResponse_cases requestId buffer opened rfl
      all_goals
        have kept := ResponsePayload.Within.run (p.accelerator.transfer buffer range.offset range.bytes) window
        rw [same] at done
        obtain ⟨used, written, rfl, rfl⟩ := completeResponse_eq_ok done
      · obtain ⟨rfl, answered⟩ := commit_written _ _ kept.len
          (by rw [kept.used, kept.payloadBytes, total, size]) (by rw [kept.used, total]; exact room) written
        have length := answered.length
        rw [kept.used] at length
        exact ⟨.ok, _, _, rfl, answered, .read (by omega), rfl, fun other => absurd rfl (other buffer range)⟩
      · obtain ⟨rfl, answered⟩ := writeEmpty_written kept.len written
        exact ⟨_, 16, [], rfl, answered, .failed, noteBackendError_state _ error,
          fun other => absurd rfl (other buffer range)⟩

section Reliable
variable [ReliableSink σ]

/-- A response that fits is written out whole, whatever the backend does, and
the device state stays as the handler left it. -/
theorem respond_answers (sink : Traced σ) (requestId : UInt64) (response : Response V)
    (limit : 16 + response.size ≤ p.decoder.limits.maxResponseBytes.toNat)
    (room : 16 + response.size ≤ (ByteSink.len sink).toNat) :
    ∃ status used payload p' after,
      p.respond sink requestId response = (.ok (.response requestId status used), p', after) ∧
      Answered sink after requestId status used payload ∧ response.Says status payload ∧
      payload.length ≤ response.size ∧ p'.state = p.state ∧
      (response.Whole p.accelerator → ∀ i < used.toNat, Covers after.writes i) := by
  have capacity : 16 ≤ (ByteSink.len sink).toNat := by omega
  have header : 16 ≤ p.decoder.limits.maxResponseBytes.toNat := by omega
  cases response with
  | empty status mutated =>
    obtain ⟨after, written, answered, recorded⟩ := writeEmpty_answered rfl header capacity status requestId
    refine ⟨status, 16, [], p, after, by simp only [respond, written]; rfl, answered, .empty,
      Nat.zero_le _, rfl, ?_⟩
    intro _ i below
    rw [recorded]
    exact .header below
  | bytes status payload mutated =>
    obtain ⟨used, after, written, answered, recorded⟩ := writeBytes_answered limit room status requestId
    refine ⟨status, used, payload, p, after, by simp only [respond, written]; rfl, answered, .bytes, Nat.le_refl _,
      rfl, ?_⟩
    intro _ i below
    have length := answered.length
    rw [recorded]
    by_cases early : i < 16
    · exact .append_right ⟨(0, 16), by simp, by simpa using early⟩
    · exact .append_right ⟨(16, payload.length), by simp, by omega, by omega⟩
  | transfer buffer range =>
    simp only [Response.size] at limit room
    have opened := payload_ok sink range.bytes limit room
    have bound := p.decoder.limits.maxResponseBytes.toNat_lt
    obtain ⟨accelerator, outcome⟩ := transferResponse_cases requestId buffer opened rfl
    have narrow : range.bytes.toUInt32.toNat = range.bytes.toNat := by
      rw [UInt64.toNat_toUInt32, Nat.mod_eq_of_lt (by omega)]
    have widen : range.bytes.toUInt32.toUInt64 = range.bytes := by
      rw [← UInt64.toNat_inj, UInt32.toNat_toUInt64, narrow]
    have traced := Transfer.run_traced (p.accelerator.transfer buffer range.offset range.bytes)
      ⟨sink, range.bytes.toUInt32, UInt32.ofNat (16 + range.bytes.toNat)⟩ (by rw [narrow]; exact room)
    rw [widen] at traced
    have kept := ResponsePayload.Within.run (p.accelerator.transfer buffer range.offset range.bytes)
      ⟨sink, range.bytes.toUInt32, UInt32.ofNat (16 + range.bytes.toNat)⟩
    generalize (p.accelerator.transfer buffer range.offset range.bytes).run
      (⟨sink, range.bytes.toUInt32, UInt32.ofNat (16 + range.bytes.toNat)⟩ : ResponsePayload (Traced σ)) = ran
      at kept outcome traced
    have size : ran.2.payloadBytes.toNat = range.bytes.toNat := by
      rw [kept.payloadBytes, narrow]
    have total : ran.2.used.toNat = 16 + range.bytes.toNat := by
      rw [kept.used, UInt32.toNat_ofNat', Nat.mod_eq_of_lt (by omega)]
    rcases outcome with ⟨finished, done⟩ | ⟨error, _, done⟩
    · obtain ⟨after, written, answered, recorded⟩ := commit_answered sink ran.2 kept.len
        (by rw [total, size]) (by rw [total]; exact room) .ok requestId
      have length := answered.length
      rw [total] at length
      refine ⟨.ok, ran.2.used, _, { p with accelerator }, after, ?_, answered, .read (by omega),
        by simp only [Response.size]; omega, rfl, fun whole i below => ?_⟩
      · simp only [respond, done, written]
        rfl
      rw [recorded, traced.2]
      by_cases early : i < 16
      · exact .header early
      obtain ⟨write, member, lower, upper⟩ := whole (traced.1.symm.trans finished) (i - 16) (by omega)
      exact .append_left (.append_right ⟨(16 + write.1, write.2), List.mem_map.mpr ⟨write, member, rfl⟩,
        by dsimp only; omega, by dsimp only; omega⟩)
    · obtain ⟨after, written, answered, recorded⟩ := writeEmpty_answered kept.len header capacity
        (statusFromBackendError error) requestId
      refine ⟨_, 16, [], { p with accelerator }.noteBackendError error, after, ?_, answered, .failed, Nat.zero_le _,
        noteBackendError_state _ error, fun _ i below => ?_⟩
      · simp only [respond, done, written]
        rfl
      rw [recorded]
      exact .header below

end Reliable

/-! Which response each command chooses. -/

/-- The object is there afterwards, under a live handle, and was not before. -/
def Appears (p p' : CommandProcessor V) (kind : ObjectKind) (id : ObjectId) : Prop :=
  (p.state.table kind).lookup id = none ∧ ∃ record handle, p'.state.Holds kind id record handle

/-- The responses of a command, given the processor before and after it. -/
inductive Answers (p p' : CommandProcessor V) : DecodedRequestBody → Response V → Prop
  | refused {body status mutated} : status ≠ .ok → Answers p p' body (.empty status mutated)
  | done {body mutated} : body.successPayload = 0 → Answers p p' body (.empty .ok mutated)
  | info : Answers p p' .getDeviceInfo (.bytes .ok (WireDeviceInfo.codec.encode (wireDeviceInfo p.info)) false)
  | made {body kind id} : body.creates = some kind → Appears p p' kind id →
      Answers p p' body (.bytes .ok (ObjectPayload.codec.encode ⟨id.raw⟩) true)
  | accepted {queueId programId bindings timeout id} : Appears p p' .event id →
      Answers p p' (.submit queueId programId bindings timeout)
        (.bytes .ok (SubmitResponse.codec.encode ⟨id.raw⟩) true)
  | indeterminate {queueId programId bindings timeout id error} : Appears p p' .event id →
      Answers p p' (.submit queueId programId bindings timeout)
        (.bytes (statusFromBackendError error) (SubmitResponse.codec.encode ⟨id.raw⟩) true)
  | polled {id record event state} : p.state.Holds .event id record event →
      p'.accelerator.log = p.accelerator.log ++
      [⟨p.state, .pollEvent event, (.ok state : Except BackendError EventState)⟩] →
      Answers p p' (.pollEvent id) (.bytes .ok (WireEventState.codec.encode (wireEventState state)) false)
  | transfer {id buffer range} : Answers p p' (.readBuffer id range) (.transfer buffer range)

theorem Answers.sized (answers : Answers p p' body response) : response.size ≤ body.successPayload := by
  cases answers with
  | refused | done => exact Nat.zero_le _
  | info | accepted | indeterminate | polled => exact (Codec.encode_length _ _).le
  | made creates =>
    cases body <;> first | cases creates; done | exact Nat.le_refl _
  | transfer => exact Nat.le_refl _

variable {body : DecodedRequestBody} {kind : ObjectKind} {id : ObjectId} {result : CommandProcessor V × Response V}

theorem Grants.appears {e : Exchange V} {record : Record (Owned V) kind} (grants : Grants p p' e kind id record) :
    Appears p p' kind id := by
  obtain ⟨value, fresh⟩ := grants.fresh
  obtain ⟨absent, present⟩ := grants.gains.present
  exact ⟨absent, record, p.accelerator.own value, present, by rw [fresh]; rfl⟩

theorem Released.answers {q : CommandProcessor V} (quiet : body.successPayload = 0)
    (released : Released q kind id result) : Answers p result.1 body result.2 := by
  cases released with
  | refused => exact .refused (statusFromDeviceStateError_ne_ok _)
  | freed => exact .done quiet
  | rejected => exact .refused (statusFromBackendError_ne_ok _)
  | forfeited => exact .refused (by decide)

theorem Created.answers (creates : body.creates = some kind) (created : Created p kind result) :
    Answers p result.1 body result.2 := by
  cases created with
  | refused bad => exact .refused bad
  | declined => exact .refused (statusFromBackendError_ne_ok _)
  | made grants => exact .made creates grants.appears

theorem Withdrawn.refuses {error : BackendError} (withdrawn : Withdrawn p id error result) :
    ∃ status mutated, status ≠ .ok ∧ result.2 = .empty status mutated := by
  cases withdrawn with
  | freed => exact ⟨_, _, statusFromBackendError_ne_ok _, rfl⟩
  | rejected | forfeited => exact ⟨_, _, by decide, rfl⟩

theorem Submitted.answers {queueId programId : ObjectId} {bufferIds : List ObjectId}
    (bindings : List DecodedBinding)
    (timeout : Timeout) (submitted : Submitted p queueId programId bufferIds result) :
    Answers p result.1 (.submit queueId programId bindings timeout) result.2 := by
  cases submitted with
  | refused bad => exact .refused bad
  | broken => exact .refused (by decide)
  | declined => exact .refused (statusFromBackendError_ne_ok _)
  | accepted grants => exact .accepted grants.appears
  | indeterminate grants =>
    obtain ⟨absent, record, handle, holds⟩ := grants.appears
    refine .indeterminate ⟨absent, record, handle, ?_⟩
    simp only [respondEventId, noteBackendError_state]
    exact holds

theorem Polled.answers (polled : Polled p id result) : Answers p result.1 (.pollEvent id) result.2 := by
  cases polled with
  | refused => exact .refused (statusFromDeviceStateError_ne_ok _)
  | failed => exact .refused (statusFromBackendError_ne_ok _)
  | @found record event state holds =>
    have answered := @Answers.polled V p (if state = .failed .deviceLost then
      (p.asked (.pollEvent event) (.ok state)).requireBackendDiscard else p.asked (.pollEvent event) (.ok state))
      id record event state
    exact answered holds (by split <;> rfl)

theorem Cancelled.answers (cancelled : Cancelled p id result) : Answers p result.1 (.cancelEvent id) result.2 := by
  cases cancelled with
  | unsupported => exact .refused (by decide)
  | refused => exact .refused (statusFromDeviceStateError_ne_ok _)
  | failed => exact .refused (statusFromBackendError_ne_ok _)
  | done => exact .done rfl

theorem Destroyed.answers (destroyed : Destroyed p id result) : Answers p result.1 (.destroyEvent id) result.2 := by
  cases destroyed with
  | refused => exact .refused (statusFromDeviceStateError_ne_ok _)
  | failed => exact .refused (statusFromBackendError_ne_ok _)
  | pending | lost => exact .refused (by decide)
  | ended _ _ _ released => exact released.answers rfl

theorem Written.answers {data : ByteSource} (written : Written p id range data result) :
    Answers p result.1 (.writeBuffer id range data) result.2 := by
  cases written with
  | refused bad => exact .refused bad
  | done => exact .done rfl
  | failed => exact .refused (statusFromBackendError_ne_ok _)

theorem ReadReady.answers (read : ReadReady p id range result) :
    Answers p result.1 (.readBuffer id range) result.2 := by
  cases read with
  | refused bad => exact .refused bad
  | ready => exact .transfer

theorem ReadReady.whole (whole : p.accelerator.ReadsWhole) (read : ReadReady p id range result) :
    result.2.Whole result.1.accelerator := by
  cases read with
  | refused => trivial
  | ready => exact whole _ _ _ _

theorem Answers.whole (answers : Answers p p' body response) (other : body.opcode ≠ .readBuffer) :
    response.Whole p'.accelerator := by
  cases answers with
  | refused | done | info | made | accepted | indeterminate | polled => trivial
  | transfer => exact absurd rfl other

/-- Each command has its own answers. -/
theorem dispatch_answers (graph : p.state.Consistent) (alloc : Allocator)
    (valid : body.Valid) : Answers p (p.dispatch alloc body).1 body (p.dispatch alloc body).2 := by
  cases body with
  | getDeviceInfo => exact .info
  | createContext desc => exact (createContext_cases graph alloc.table desc).answers rfl
  | destroyContext id => exact (releaseObject_cases graph .context id).answers rfl
  | allocateBuffer contextId desc =>
    rcases allocateBuffer_cases graph alloc.table contextId desc with
      created | ⟨e, p', id, record, error, _, _, withdrawn⟩
    · exact created.answers rfl
    obtain ⟨status, mutated, bad, same⟩ := withdrawn.refuses
    simp only [dispatch, same]
    exact .refused bad
  | freeBuffer id => exact (releaseObject_cases graph .buffer id).answers rfl
  | writeBuffer id range data => exact (writeBuffer_cases graph id range data).answers
  | readBuffer id range => exact (readBuffer_cases graph id range).answers
  | loadProgram contextId format target payload residentBytes =>
    exact (loadProgram_cases graph alloc.table contextId _).answers rfl
  | unloadProgram id => exact (releaseObject_cases graph .program id).answers rfl
  | createQueue contextId desc => exact (createQueue_cases graph alloc.table contextId desc).answers rfl
  | destroyQueue id => exact (releaseObject_cases graph .queue id).answers rfl
  | submit queueId programId bindings timeout =>
    exact (submit_cases graph alloc queueId programId valid timeout).answers bindings timeout
  | pollEvent id => exact (p.pollEvent_cases id).answers
  | cancelEvent id => exact (p.cancelEvent_cases id).answers
  | destroyEvent id => exact (destroyEvent_cases graph id).answers

/-- A read is handed to the backend that the handler found. -/
theorem dispatch_whole (graph : p.state.Consistent) (alloc : Allocator)
    (valid : body.Valid) (whole : p.accelerator.ReadsWhole) :
    (p.dispatch alloc body).2.Whole (p.dispatch alloc body).1.accelerator := by
  by_cases reading : body.opcode = .readBuffer
  · cases body with
    | readBuffer id range => exact (readBuffer_cases graph id range).whole whole
    | _ => cases reading
  · exact (dispatch_answers graph alloc valid).whole reading

end CommandProcessor

end VirtioAccel
