import VirtioAccel.Guest.Responses
import VirtioAccel.Device.FailureGuarantees
import VirtioAccel.Device.HealthGuarantees

/-! What the guest may conclude from a response about who owns what. -/

namespace VirtioAccel
open Checked CommandProcessor FrameDecoder
open DeviceState (SameView Refused submissionRecord sortIds)
open ObjectTable (slotNumber)
variable {V : Handles} {σ : Type}
variable {queueId programId : ObjectId} {alloc : Allocator} {request : ByteSource} {mutated : Bool} {after : σ}

namespace ObjectTable
variable {T : Type} {t : ObjectTable T} {id : ObjectId}

theorem WellFormed.issued_slot (wf : t.WellFormed) (issued : t.Issued id) : slotNumber id ≠ 0 := by
  obtain ⟨index, generation, slot, atSlot, fits, rfl, _⟩ := issued
  have placed : (slotNumber (t.idAt index ⟨generation, none, false⟩)).toNat = index + 1 :=
    slotNumber_idAt (wf.index_room atSlot) fits
  intro zero
  rw [zero] at placed
  cases placed

/-- An identifier with a slot number is never malformed, so it resolves or is stale. -/
theorem locate_stale {failure : ObjectTableError} (placed : slotNumber id ≠ 0)
    (missed : t.locate id = .error failure) :
    mapTableError failure = .staleObject := by
  replace placed : ¬ id.raw.toUInt32 = 0 := placed
  simp only [locate, if_neg placed] at missed
  iterate 4
    split at missed
    · cases missed
      rfl
  · cases missed

theorem missing_stale (placed : slotNumber id ≠ 0) (missing : t.lookup id = none) :
    ∃ failure, mapTableError failure = .staleObject ∧ t.get id = .error failure ∧
      ∀ {R : Type} (body : T → R × T), t.getMut id body = .error failure := by
  cases found : t.locate id with
  | error failure =>
    exact ⟨failure, locate_stale placed found, by rw [get, found]; rfl, fun body => by rw [getMut, found]; rfl⟩
  | ok index =>
    obtain ⟨generation, value, atSlot, _⟩ := locate_slot found
    have present : t.lookup id = some value := lookup_eq_some_iff_locate.mpr ⟨index, found, by rw [atSlot]; rfl⟩
    simp [missing] at present

end ObjectTable

theorem statusFromBackendError_ne_stale (error : BackendError) : statusFromBackendError error ≠ .staleObject := by
  cases error <;> exact fun same => nomatch same

namespace CommandProcessor
variable {p p' : CommandProcessor V} {kind : ObjectKind} {id : ObjectId} {result : CommandProcessor V × Response V}
variable {buffers : List ObjectId} {error : BackendError} {e : Exchange V} {requestId : UInt64} {used : UInt32}

/-- The command that releases an object of a kind. -/
def releaseBody : ObjectKind → ObjectId → DecodedRequestBody
  | .context => .destroyContext
  | .buffer => .freeBuffer
  | .program => .unloadProgram
  | .queue => .destroyQueue
  | .event => .destroyEvent

/-- What the status of a release tells about its object. -/
def Parted (p : CommandProcessor V) (kind : ObjectKind) (id : ObjectId) (result : CommandProcessor V × Response V) :
    Prop :=
  ∃ status mutated, result.2 = .empty status mutated ∧
    (status = .ok ∨ status = .staleObject → (result.1.state.table kind).lookup id = none) ∧
    (status ≠ .ok → status ≠ .staleObject → status ≠ .deviceLost →
      ∃ record, (p.state.table kind).lookup id = some record)

section Present
variable {record : Record (Owned V) kind} (present : (p.state.table kind).lookup id = some record)
include present

theorem Parted.of_failure : Parted p kind id (p'.respondBackendError error mutated) := by
  refine ⟨_, _, rfl, ?_, fun _ _ _ => ⟨record, present⟩⟩
  rintro (good | stale)
  · exact absurd good (statusFromBackendError_ne_ok error)
  · exact absurd stale (statusFromBackendError_ne_stale error)

theorem Parted.of_status {status : StatusCode} (bad : status ≠ .ok) (held : status ≠ .staleObject) :
    Parted p kind id (p', .empty status mutated) :=
  ⟨_, _, rfl, fun either => either.elim (absurd · bad) (absurd · held), fun _ _ _ => ⟨record, present⟩⟩

theorem Parted.of_refused {error : DeviceStateError} (refused : Refused p.state kind id error) :
    Parted p kind id (p', .empty (statusFromDeviceStateError error) mutated) := by
  cases refused with
  | missing absent => exact nomatch present.symm.trans absent
  | busy | releasing => exact .of_status present (by decide) (by decide)

theorem Released.parted (released : Released p kind id result) : Parted p kind id result := by
  cases released with
  | refused _ refused => exact .of_refused present refused
  | freed _ _ frees => exact ⟨_, _, rfl, fun _ => frees.gone, fun bad => absurd rfl bad⟩
  | rejected => exact .of_failure present
  | forfeited => exact .of_status present (by decide) (by decide)

end Present

theorem Destroyed.parted {record : Record (Owned V) .event}
    (present : (p.state.table .event).lookup id = some record)
    (destroyed : Destroyed p id result) : Parted p .event id result := by
  cases destroyed with
  | refused refused => exact .of_refused present refused
  | failed => exact .of_failure present
  | pending | lost => exact .of_status present (by decide) (by decide)
  | ended _ _ _ released => exact Released.parted (p := p.asked _ _) present released

theorem releaseObject_missing (placed : slotNumber id ≠ 0) (missing : (p.state.table kind).lookup id = none) :
    p.releaseObject kind id = (p, .empty .staleObject false) := by
  obtain ⟨failure, stale, read, borrowed⟩ := ObjectTable.missing_stale placed missing
  have begun : p.state.beginRelease kind id = (.error .staleObject, p.state) := by
    simp only [DeviceState.beginRelease, borrowed, stale]
  unfold releaseObject
  cases kind with
  | context | queue | event =>
    simp only [recordedBytes, attemptRelease, begun]
    rfl
  | buffer =>
    replace read : p.state.buffers.get id = .error failure := read
    simp only [recordedBytes, DeviceState.bufferRecord, read, Except.mapError, Except.map, stale]
    rfl
  | program =>
    replace read : p.state.programs.get id = .error failure := read
    simp only [recordedBytes, DeviceState.programRecord, read, Except.mapError, Except.map, stale]
    rfl

theorem destroyEvent_missing (placed : slotNumber id ≠ 0) (missing : (p.state.table .event).lookup id = none) :
    p.destroyEvent id = (p, .empty .staleObject false) := by
  obtain ⟨failure, stale, read, _⟩ := ObjectTable.missing_stale placed missing
  replace read : p.state.events.get id = .error failure := read
  simp only [destroyEvent, liveEvent, DeviceState.eventRecord, read, Except.mapError, stale]
  rfl

/-- The answer to a release is about the object it names. -/
theorem dispatch_parted (graph : p.state.Consistent) (alloc : Allocator) (placed : slotNumber id ≠ 0)
    (kind : ObjectKind) :
    Parted p kind id (p.dispatch alloc (releaseBody kind id)) := by
  cases found : (p.state.table kind).lookup id with
  | none =>
    have answer : p.dispatch alloc (releaseBody kind id) = (p, .empty .staleObject false) := by
      cases kind with
      | event => exact destroyEvent_missing placed found
      | context | buffer | program | queue => exact releaseObject_missing placed found
    rw [answer]
    exact ⟨_, _, rfl, fun _ => found, fun _ fresh => absurd rfl fresh⟩
  | some record =>
    cases kind with
    | event => exact (destroyEvent_cases graph id).parted found
    | context | buffer | program | queue => exact (releaseObject_cases graph _ id).parted found

/-- A command for a new object that ends without one and without a device loss. -/
def Unmade (p : CommandProcessor V) (result : CommandProcessor V × Response V) : Prop :=
  ∀ status mutated, result.2 = .empty status mutated → status ≠ .deviceLost → SameView p.state result.1.state

theorem Created.unmade (graph : p.state.Consistent) (created : Created p kind result) : Unmade p result := by
  cases created with
  | refused => exact fun _ _ _ _ => .refl graph.tables
  | declined =>
    intro _ _ _ _
    simp only [respondBackendError, noteBackendError_state]
    exact .refl graph.tables
  | made =>
    intro _ _ answer
    cases answer

theorem Withdrawn.unmade (graph : p.state.Consistent) {record : Record (Owned V) .buffer}
    (grants : Grants p p' e .buffer id record) (withdrawn : Withdrawn p' id error result) :
    Unmade p result := by
  cases withdrawn with
  | freed holds _ frees =>
    intro _ _ _ _
    cases holds.present.symm.trans grants.gains.present.2
    simp only [respondBackendError, noteBackendError_state]
    exact grants.gains.withdrawn graph (by decide) (by decide) frees
  | rejected | forfeited =>
    intro status _ answer kept
    cases answer
    exact absurd rfl kept

theorem Submitted.unmade (submitted : Submitted p queueId programId buffers result) : Unmade p result := by
  cases submitted with
  | refused _ same | broken same => exact fun _ _ _ _ => same
  | declined _ _ same =>
    intro _ _ _ _
    simp only [respondBackendError, noteBackendError_state]
    exact same
  | accepted | indeterminate =>
    intro _ _ answer
    cases answer

theorem dispatch_unmade (graph : p.state.Consistent) (alloc : Allocator) {body : DecodedRequestBody}
    (valid : body.Valid)
    (adds : body.creates ≠ none ∨ body.opcode = .submit) : Unmade p (p.dispatch alloc body) := by
  cases body with
  | createContext desc => exact (createContext_cases graph alloc.table desc).unmade graph
  | allocateBuffer contextId desc =>
    rcases allocateBuffer_cases graph alloc.table contextId desc with
      created | ⟨e, p', id, record, error, grants, _, withdrawn⟩
    · exact created.unmade graph
    · exact withdrawn.unmade graph grants
  | loadProgram contextId format target payload residentBytes =>
    exact (loadProgram_cases graph alloc.table contextId _).unmade graph
  | createQueue contextId desc => exact (createQueue_cases graph alloc.table contextId desc).unmade graph
  | submit queueId programId bindings timeout =>
    exact (submit_cases graph alloc queueId programId valid timeout).unmade
  | _ => exact adds.elim (absurd rfl) (fun other => nomatch other)

/-- A live event that was not there before and retains this queue, this program and these buffers. -/
structure Retains (s s' : DeviceState (Owned V)) (queueId programId : ObjectId) (buffers : List ObjectId)
    (id : ObjectId) : Prop where
  absent : s.events.lookup id = none
  live : ∃ (record : EventRecord (Owned V)) (handle : Owned V .event), s'.Holds .event id record handle ∧
    record.queueId = queueId ∧ record.programIds = [programId] ∧ ∀ buffer, buffer ∈ record.bufferIds ↔
    buffer ∈ buffers

theorem Retains.not_sameView {s s' : DeviceState (Owned V)} (same : SameView s s') :
    ¬ Retains s s' queueId programId buffers id := by
  rintro ⟨absent, record, handle, holds, _⟩
  have missing := (same.lookup .event id).trans absent
  exact nomatch holds.present.symm.trans missing

theorem Retains.congr {s s' : DeviceState (Owned V)} {buffers' : List ObjectId}
    (same : ∀ buffer, buffer ∈ buffers ↔ buffer ∈ buffers') :
    Retains s s' queueId programId buffers id ↔ Retains s s' queueId programId buffers' id := by
  constructor
  · rintro ⟨absent, record, handle, holds, queue, program, members⟩
    exact ⟨absent, record, handle, holds, queue, program, fun buffer => (members buffer).trans (same buffer)⟩
  rintro ⟨absent, record, handle, holds, queue, program, members⟩
  exact ⟨absent, record, handle, holds, queue, program, fun buffer => (members buffer).trans (same buffer).symm⟩

/-- A submission adds the one event it answers with, or none. -/
inductive Answer (p : CommandProcessor V) (queueId programId : ObjectId) (buffers : List ObjectId) :
    CommandProcessor V × Response V → Prop
  | none {p' status mutated} : status ≠ .ok → SameView p.state p'.state →
      Answer p queueId programId buffers (p', .empty status mutated)
  | event {p' id status} : status = .ok ∨ (∃ error, status = statusFromBackendError error) →
      (∀ other, Retains p.state p'.state queueId programId buffers other ↔ other = id) →
      Answer p queueId programId buffers (p', .bytes status (SubmitResponse.codec.encode ⟨id.raw⟩) true)

theorem Grants.retains {contextId : ObjectId} {event : Owned V .event}
    (grants : Grants p p' e .event id (submissionRecord queueId programId (sortIds buffers) event contextId))
    (other : ObjectId) : Retains p.state p'.state queueId programId buffers other ↔ other = id := by
  obtain ⟨absent, present⟩ := grants.gains.present
  constructor
  · rintro ⟨missing, record, handle, holds, _⟩
    by_contra differs
    obtain ⟨_, before, _⟩ := grants.gains.frame .event (fun here => differs here.2) holds.present
    exact nomatch missing.symm.trans before
  · rintro rfl
    exact ⟨absent, _, event, ⟨present, rfl⟩, rfl, rfl, fun buffer => DeviceState.mem_sortIds⟩

theorem Submitted.answer (submitted : Submitted p queueId programId buffers result) :
    Answer p queueId programId buffers result := by
  cases submitted with
  | refused bad same => exact .none bad same
  | broken same => exact .none (by decide) same
  | declined _ _ same =>
    refine .none (statusFromBackendError_ne_ok _) ?_
    rw [noteBackendError_state]
    exact same
  | accepted grants => exact .event (.inl rfl) grants.retains
  | @indeterminate e q id event contextId error grants =>
    refine .event (.inr ⟨error, rfl⟩) (fun other => ?_)
    rw [noteBackendError_state]
    exact grants.retains other

theorem Responded.written [HonestSink σ] {sink : σ} {status : StatusCode}
    (responded : Responded p alloc request sink requestId status used p' after) :
    ∃ payload, Answered sink after requestId status used payload := by
  cases responded with
  | rejected _ _ answered _ | stopped _ _ _ _ answered _ | handled _ _ _ _ answered _ _ => exact ⟨_, answered⟩

/-- A frame that asks for a release is always accepted, so its answer is the handler's. -/
theorem Reachable.release_handled [HonestSink σ] (reach : Reachable p) (running : p.health = .running)
    {regions : List ChainRegion} {sink : σ} {answered : UInt64} {status : StatusCode} (placed : slotNumber id ≠ 0)
    (named : requestId ≠ 0)
    (serves : request.Serves
      (RequestHeader.codec.encode (RequestHeader.new (releaseBody kind id).opcode 8 requestId) ++
        ObjectPayload.codec.encode ⟨id.raw⟩))
    (done : p.process alloc regions request sink = (.ok (.response answered status used), p', after)) :
    ∃ mutated, p.serving.dispatch alloc (releaseBody kind id) = (p', .empty status mutated) ∧
      Answered sink after answered status used [] := by
  have size := ObjectPayload.codec.encode_length ⟨id.raw⟩
  have framed : Framed request (ObjectPayload.codec.encode ⟨id.raw⟩) :=
    ⟨_, RequestHeader.codec.encode_length _, serves⟩
  have parsed : p.decoder.decodeBody alloc.decodedBindings request 8 (releaseBody kind id).opcode =
      .ok (releaseBody kind id) := by
    have object : decodeObject request 8 = .ok id := (framed.object_eq_ok (by rw [size]; rfl)).mpr rfl
    cases kind <;> simp only [releaseBody, DecodedRequestBody.opcode, decodeBody, object] <;> rfl
  have quiet : (releaseBody kind id).requiredResponseBytes = 16 := by cases kind <;> rfl
  have accepts (room : 16 ≤ (ByteSink.len sink).toNat) := decode_serves serves (by rw [size]; rfl) named
    (by rw [size]; exact reach.frame_room.1) parsed (by rw [quiet]; exact reach.frame_room.2)
      (by rw [quiet]; exact room)
  rcases p.process_cases alloc regions request sink with
    ⟨_, _, _, same⟩ | ⟨_, _, _, _, preflight, same⟩ | ⟨_, _, _, same⟩ | ⟨decoded, _, accepted,
      ⟨halted, _⟩ | ⟨_, same⟩⟩
  · cases same.symm.trans done
  · obtain ⟨failed, _⟩ := preflight_rejected preflight
    obtain ⟨_, room, _⟩ := decode_rejects failed
    cases (accepts room).symm.trans failed
  · cases same.symm.trans done
  · exact absurd running halted
  · obtain ⟨_, _, capacity⟩ := decode_carries accepted
    cases (accepts (by omega)).symm.trans accepted
    obtain ⟨_, mutated, answer, _⟩ := dispatch_parted (p := p.serving) reach.accounted.graph alloc placed kind
    obtain ⟨_, _, _, outcome, written, meant, _, kept⟩ := respond_said (same.symm.trans done)
    cases outcome
    rw [answer] at meant kept
    cases meant
    exact ⟨mutated, Prod.ext (kept (by simp)).symm answer, written⟩

end CommandProcessor

namespace Guest
open DriverChainBytes (readable writable)
variable {p p' : CommandProcessor V} {Q χ ε : Type} [DriverChainBytes χ ε]

/-- The kind of object that an operation gives back. -/
def Operation.releases : Operation → Option ObjectKind
  | .destroyContext _ => some .context
  | .freeBuffer _ => some .buffer
  | .unloadProgram _ => some .program
  | .destroyExecutionQueue _ => some .queue
  | .destroyEvent _ => some .event
  | _ => none

/-- The operations that ask for a new object. -/
def Operation.acquires : Operation → Bool
  | .createContext | .allocateBuffer _ _ | .loadProgram _ _ | .createExecutionQueue _ | .submit _ => true
  | _ => false

def OperationResult.disposition {T : Type} : OperationResult T → Option FailureDisposition
  | .success _ => none
  | .deviceError status => some (Operation.failureDisposition status)

/-- The event that a submission's result speaks of. -/
def Operation.reportedEvent : (operation : Operation) → OperationResult operation.Output → Option Event
  | .submit _, .success (.accepted event) => some event
  | .submit _, .success (.indeterminate _ event) => some event
  | _, _ => none

/-- A request as its bytes. -/
def requestFrame (opcode : KnownOpcode) (requestId : UInt64) (payload : List UInt8) : List UInt8 :=
  RequestHeader.codec.encode (RequestHeader.new opcode (UInt32.ofNat payload.length) requestId) ++ payload

def submitPayload (queueId programId : ObjectId) (bindings : List DecodedBinding) (timeoutNs : UInt64) :
    List UInt8 :=
  SubmitRequest.codec.encode ⟨queueId.raw, programId.raw, UInt32.ofNat bindings.length, 0, timeoutNs⟩ ++
    (bindings.map DecodedBinding.wire).flatMap WireBinding.codec.encode

/-- What the guest makes of the answer to a release is so. -/
structure ReleaseSound {T : Type} (p p' : CommandProcessor V) (kind : ObjectKind) (id : ObjectId)
    (result : OperationResult T) : Prop where
  success : ∀ output, result = .success output → (p'.state.table kind).lookup id = none
  retryable : result.disposition = some .retryable → Unchanged p p' ∧
    ∃ record handle record' value, p.state.Holds kind id record handle ∧
      p'.state.Holds kind id record' { handle with value } ∧ SameObject p'.accelerator.log.getLast? record record'
  invalidated : result.disposition = some .invalidated → ∀ record handle, ¬ p'.state.Holds kind id record handle

/-- What the guest makes of a response is so, for each family of requests. -/
structure Sound (p p' : CommandProcessor V) (operation : Operation) (payload : List UInt8)
    (result : OperationResult operation.Output) : Prop where
  release : ∀ kind id, operation.releases = some kind → payload = ObjectPayload.codec.encode ⟨id.raw⟩ →
    (∃ other, (p.state.table other).Issued id) → ReleaseSound p p' kind id result
  creation : operation.acquires = true → result.disposition = some .retryable →
    (∀ kind id, (p'.state.table kind).lookup id = (p.state.table kind).lookup id) ∧
    p'.retainedBytes = p.retainedBytes
  submission : ∀ context queueId programId bindings timeoutNs, operation = .submit context → bindings ≠ [] →
    (bindings.map DecodedBinding.slot).Nodup → payload = submitPayload queueId programId bindings timeoutNs →
    ∀ id, (∃ event, operation.reportedEvent result = some event ∧ event.handle.id = id) ↔
      Retains p.state p'.state queueId programId (bindings.map DecodedBinding.bufferId) id

namespace Operation
variable {chain : χ} {status : StatusCode} {payloadBytes : UInt32} {epoch : QueueEpoch} {config : GuestConfig}
variable {reported : StatusCode}

theorem ordinary_deviceError {T : Type} {bytes : UInt64} {success : Except (ResponseError ε) T}
    (decoded : ordinary status payloadBytes bytes success = .ok (.deviceError reported)) :
    reported = status ∧ status ≠ .ok ∧ payloadBytes = 0 := by
  unfold ordinary at decoded
  split at decoded
  · rename_i bad
    simp only [bind_eq_ok, expectPayload, refuseIf_eq_ok, not_not] at decoded
    obtain ⟨_, empty, same⟩ := decoded
    cases same
    exact ⟨rfl, by rintro rfl; exact bad rfl, UInt32.toNat_inj.mp (congrArg UInt64.toNat empty)⟩
  · simp only [bind_eq_ok, pure_eq_ok] at decoded
    obtain ⟨_, _, _, _, same⟩ := decoded
    cases same

theorem ordinary_success {T : Type} {bytes : UInt64} {success : Except (ResponseError ε) T} {output : T}
    (decoded : ordinary status payloadBytes bytes success = .ok (.success output)) : status = .ok := by
  unfold ordinary at decoded
  split at decoded
  · simp only [bind_eq_ok] at decoded
    obtain ⟨_, _, same⟩ := decoded
    cases same
  · rename_i good
    simp only [StatusCode.isSuccess, not_not, beq_iff_eq] at good
    exact congrArg StatusCode.mk good

/-- An operation reports a device error for a status without a payload only. -/
theorem decode_deviceError {operation : Operation}
    (decoded : operation.decode chain status payloadBytes epoch config = .ok (.deviceError reported)) :
    reported = status ∧ status ≠ .ok ∧ payloadBytes = 0 := by
  cases operation with
  | submit context =>
    replace decoded : decodeSubmit context chain status payloadBytes epoch = .ok (.deviceError reported) := decoded
    unfold decodeSubmit at decoded
    split at decoded
    · simp only [bind_eq_ok, pure_eq_ok] at decoded
      obtain ⟨_, _, _, _, same⟩ := decoded
      cases same
    rename_i bad
    split at decoded
    · rename_i empty
      cases decoded
      exact ⟨rfl, by rintro rfl; exact bad rfl, empty⟩
    split at decoded
    · cases decoded
    simp only [bind_eq_ok, pure_eq_ok] at decoded
    obtain ⟨_, _, _, _, same⟩ := decoded
    cases same
  | _ => exact ordinary_deviceError decoded

theorem decode_released {operation : Operation} {kind : ObjectKind} (releases : operation.releases = some kind)
    {output : operation.Output}
    (decoded : operation.decode chain status payloadBytes epoch config = .ok (.success output)) : status = .ok := by
  cases operation with
  | destroyContext | freeBuffer | unloadProgram | destroyExecutionQueue | destroyEvent =>
    exact ordinary_success decoded
  | _ => cases releases

end Operation

variable {chain : χ} {requestId : UInt64} {status : StatusCode} {used : UInt32} {kind : ObjectKind} {id : ObjectId}
variable {operation : Operation}

/-- A response that the client accepts was decoded under its own status and length. -/
theorem Holds.understood {payload : List UInt8} {client : GuestClient Q χ} {pending : Pending}
    {result : OperationResult pending.operation.Output} (holds : Holds chain requestId status used payload)
    (understood : client.validateResponse pending chain used = .ok result) :
    pending.operation.decode chain status (UInt32.ofNat payload.length) pending.epoch client.config =
    .ok result := by
  have checked := understood
  simp only [GuestClient.validateResponse, bind_eq_ok, mapError_eq_ok, refuseIf_eq_ok, not_not] at checked
  obtain ⟨_, _, _, short, bytes, read, _, named, _⟩ := checked
  cases holds.header.symm.trans read
  rw [ResponseHeader.codec.decode_encode] at named
  subst named
  rw [UInt32.not_lt, UInt32.le_iff_toNat_le] at short
  rw [holds.validate short] at understood
  exact understood

theorem disposition_retryable (retryable : Operation.failureDisposition status = .retryable) :
    status ≠ .staleObject ∧ status ≠ .deviceLost := by
  constructor <;> rintro rfl <;> cases retryable

theorem disposition_invalidated (invalidated : Operation.failureDisposition status = .invalidated) :
    status = .staleObject := by
  unfold Operation.failureDisposition at invalidated
  split at invalidated
  · cases invalidated
  split at invalidated
  · assumption
  split at invalidated <;> cases invalidated

/-- The guest's reading of a release, from what the handler answered. -/
theorem releaseSound_of_handled {result : OperationResult operation.Output} {epoch : QueueEpoch}
    {config : GuestConfig} (reach : Reachable p) (running : p.health = .running) (placed : slotNumber id ≠ 0)
    (releases : operation.releases = some kind)
    (handled : p.serving.dispatch alloc (releaseBody kind id) = (p', .empty status mutated))
    (decoded : operation.decode chain status 0 epoch config = .ok result) : ReleaseSound p p' kind id result := by
  have graph := reach.accounted.graph
  obtain ⟨_, _, answer, gone, there⟩ := dispatch_parted (p := p.serving) graph alloc placed kind
  rw [handled] at answer gone
  cases answer
  refine ⟨?_, ?_, ?_⟩
  · rintro output rfl
    exact gone (.inl (Operation.decode_released releases decoded))
  · intro retryable
    cases result with
    | success => cases retryable
    | deviceError reported =>
      obtain ⟨rfl, bad, _⟩ := Operation.decode_deviceError decoded
      have ⟨fresh, kept⟩ := disposition_retryable (Option.some.inj retryable)
      obtain ⟨record, present⟩ := there bad fresh kept
      have valid : (releaseBody kind id).Valid := by cases kind <;> trivial
      have harmless := dispatch_harmless (p := p.serving) graph alloc valid
      rw [handled] at harmless
      have unchanged := (harmless _ _ rfl bad kept).of_forgotten
      refine ⟨unchanged, ?_⟩
      obtain ⟨handle, held⟩ := ResourceSlot.resource_of_live (reach.settled (by rw [running]; decide) kind present)
      have same := unchanged.objects kind id
      rw [present] at same
      generalize found : (p'.state.table kind).lookup id = after at same
      cases same with
      | some same =>
        cases same with
        | kept => exact ⟨record, handle, record, handle.value, ⟨present, held⟩, ⟨found, held⟩, .kept⟩
        | @returned e other value last returned taken =>
          cases held.symm.trans taken
          exact ⟨record, handle, _, value, ⟨present, held⟩, ⟨found, by cases kind <;> rfl⟩,
            .returned last returned held⟩
  · intro invalidated record handle holds
    cases result with
    | success => cases invalidated
    | deviceError reported =>
      obtain ⟨rfl, _, _⟩ := Operation.decode_deviceError decoded
      have missing := gone (.inr (disposition_invalidated (Option.some.inj invalidated)))
      exact nomatch holds.present.symm.trans missing

omit [DriverChainBytes χ ε] in
theorem Operation.opcode_releases (releases : operation.releases = some kind) :
    operation.opcode = (releaseBody kind id).opcode := by
  cases operation <;> cases releases <;> rfl

/-- A request for a new object that the guest may repeat has left nothing behind. -/
theorem creation_unmade [HonestSink σ] {sink : σ} (reach : Reachable p)
    (running : p.health = .running) (acquires : operation.acquires = true)
    (takes : ∀ decoded, p.decoder.decode alloc.decodedBindings request (ByteSink.len sink) = .ok decoded →
      decoded.body.opcode = operation.opcode)
    (responded : Responded p alloc request sink requestId status used p' after) (short : used.toNat = 16)
    (bad : status ≠ .ok) (present : status ≠ .deviceLost) :
    SameView p.state p'.state ∧ p'.retainedBytes = p.retainedBytes := by
  have graph := reach.accounted.graph
  cases responded with
  | rejected _ _ _ same =>
    subst same
    exact ⟨.refl graph.tables, rfl⟩
  | stopped _ _ halted => exact absurd running halted
  | @handled decoded payload accepted _ _ meant answered _ kept =>
    have shape := takes decoded accepted
    have valid := decode_valid accepted
    have answers := dispatch_answers (p := p.serving) graph alloc valid
    have length := answered.length
    cases chosen : (p.serving.dispatch alloc decoded.body).2 with
    | empty status' mutated =>
      rw [chosen] at meant
      cases meant
      have adds : decoded.body.creates ≠ none ∨ decoded.body.opcode = .submit := by
        generalize decoded.body = body at shape
        cases operation with
        | createContext | allocateBuffer | loadProgram | createExecutionQueue =>
          refine .inl ?_
          cases body <;> first | cases shape; done | exact nofun
        | submit => exact .inr shape
        | _ => cases acquires
      have harmless := dispatch_harmless (p := p.serving) graph alloc valid _ _ chosen
        bad present
      rw [kept (by rw [chosen]; simp)]
      exact ⟨dispatch_unmade (p := p.serving) graph alloc valid adds _ _ chosen present,
        harmless.of_forgotten.retained⟩
    | bytes =>
      rw [chosen] at answers meant
      cases meant
      have sent := answers.sent
      omega
    | transfer =>
      rw [chosen] at answers
      generalize decoded.body = body at answers shape
      cases answers with
      | transfer => cases operation <;> first | cases shape; done | cases acquires

/-- The guest speaks of an event exactly when there is a new one, and of that one. -/
theorem submission_reported [HonestSink σ] {context : ObjectId} {bindings : List DecodedBinding} {timeout : Timeout}
    {sink : σ} {epoch : QueueEpoch} {config : GuestConfig}
    {result : OperationResult (Operation.submit context).Output}
    (reach : Reachable p) (running : p.health = .running)
    (takes : ∀ decoded, p.decoder.decode alloc.decodedBindings request (ByteSink.len sink) = .ok decoded →
      decoded.body = .submit queueId programId (sortBindings bindings) timeout)
    (responded : Responded p alloc request sink requestId status used p' after)
    (understood : ∀ payload, Answered sink after requestId status used payload →
      Holds chain requestId status used payload ∧
      (Operation.submit context).decode chain status (UInt32.ofNat payload.length) epoch config = .ok result) :
    (∃ event, (Operation.submit context).reportedEvent result = some event ∧ event.handle.id = id) ↔
      Retains p.state p'.state queueId programId (bindings.map DecodedBinding.bufferId) id := by
  have graph := reach.accounted.graph
  have silent (answered : Answered sink after requestId status used []) (bad : status ≠ .ok)
      (same : SameView p.state p'.state) :
      (∃ event, (Operation.submit context).reportedEvent result = some event ∧ event.handle.id = id) ↔
        Retains p.state p'.state queueId programId (bindings.map DecodedBinding.bufferId) id := by
    have refused : (Operation.submit context).decode chain status 0 epoch config = .ok (.deviceError status) :=
      Operation.decode_refused _ bad
    cases refused.symm.trans (understood [] answered).2
    refine iff_of_false ?_ (Retains.not_sameView same)
    rintro ⟨_, reported, _⟩
    cases reported
  cases responded with
  | rejected _ bad answered same =>
    subst same
    exact silent answered bad (.refl graph.tables)
  | stopped _ _ halted => exact absurd running halted
  | @handled decoded payload accepted _ _ meant answered state _ =>
    have body := takes decoded accepted
    have valid := decode_valid accepted
    rw [body] at meant state valid
    have answer := (submit_cases (p := p.serving) graph alloc queueId programId valid
      timeout).answer
    change Answer _ _ _ _ (p.serving.dispatch alloc (.submit queueId programId (sortBindings bindings) timeout))
      at answer
    generalize
      p.serving.dispatch alloc (.submit queueId programId (sortBindings bindings) timeout) =
      outcome at answer meant state
    cases answer with
    | none bad same =>
      cases meant
      exact silent answered bad (by rw [state]; exact same)
    | @event q id' _ outcome retains =>
      cases meant
      obtain ⟨holds, decoded⟩ := understood _ answered
      have paid := Operation.decodeSubmit_paid epoch context (holds.payload (by decide))
      have members : ∀ buffer, buffer ∈ (sortBindings bindings).map DecodedBinding.bufferId ↔
          buffer ∈ bindings.map DecodedBinding.bufferId := fun buffer =>
        ((List.perm_insertionSort _ bindings).map DecodedBinding.bufferId).mem_iff
      have told : ∃ event, (Operation.submit context).reportedEvent result = some event ∧
          event.handle.id = id' := by
        rcases outcome with rfl | ⟨error, rfl⟩
        · cases paid.1.symm.trans decoded
          exact ⟨_, rfl, rfl⟩
        cases (paid.2 error).symm.trans decoded
        exact ⟨_, rfl, rfl⟩
      obtain ⟨event, reported, rfl⟩ := told
      rw [state, ← Retains.congr members]
      refine Iff.trans ?_ (retains id).symm
      constructor
      · rintro ⟨other, same, rfl⟩
        cases reported.symm.trans same
        rfl
      · rintro rfl
        exact ⟨event, reported, rfl⟩

/-- Whatever the backend does: when the client understands the device's answer
to a request for a new object, a submission or a release, what it concludes
about the ownership is so in the device. -/
theorem ownership_sound [HonestSink σ] {client : GuestClient Q χ} {pending : Pending} {alloc : Allocator}
    {regions : List ChainRegion} {request : ByteSource} {sink after : σ} {payload : List UInt8} {answered : UInt64}
    {completed : χ} {result : OperationResult pending.operation.Output} (reach : Reachable p)
    (running : p.health = .running) (named : requestId ≠ 0) (small : payload.length < 2 ^ 32)
    (serves : request.Serves (requestFrame pending.operation.opcode requestId payload))
    (done : p.process alloc regions request sink = (.ok (.response answered status used), p', after))
    (returned : writable completed = FramedSink.bytes after)
    (understood : client.validateResponse pending completed used = .ok result) :
    Sound p p' pending.operation payload result := by
  have responded := process_responded done
  have head : readWire request 0 RequestHeader.codec =
      .ok (RequestHeader.new pending.operation.opcode (UInt32.ofNat payload.length) requestId) := by
    exact readWire_head serves (by decide)
  have sized : (UInt32.ofNat payload.length).toNat = payload.length := by
    rw [UInt32.toNat_ofNat_of_lt' small]
  have holds {payload : List UInt8} (written : Answered sink after answered status used payload) :
      Holds completed answered status used payload := by
    refine ⟨written.length, ?_, ?_⟩
    · rw [returned, FramedSink.bytes_length, written.len]
      exact written.fits
    rw [returned]
    exact written.bytes
  refine ⟨?_, ?_, ?_⟩
  · rintro kind id releases rfl ⟨other, issued⟩
    have placed := (reach.accounted.graph.tables other).issued_slot issued
    rw [requestFrame, Operation.opcode_releases releases] at serves
    obtain ⟨mutated, handled, written⟩ := reach.release_handled running placed named serves done
    exact releaseSound_of_handled reach running placed releases handled ((holds written).understood understood)
  · intro acquires retryable
    obtain ⟨sent, written⟩ := responded.written
    have decoded := (holds written).understood understood
    cases result with
    | success => cases retryable
    | deviceError reported =>
      obtain ⟨rfl, bad, empty⟩ := Operation.decode_deviceError decoded
      have ⟨_, present⟩ := disposition_retryable (Option.some.inj retryable)
      have length := written.length
      have bound := used.toNat_lt
      have short : used.toNat = 16 := by
        have none := congrArg UInt32.toNat empty
        rw [UInt32.toNat_ofNat', Nat.mod_eq_of_lt (by omega), UInt32.toNat_zero] at none
        omega
      have same := creation_unmade reach running acquires (fun _ accepted =>
        decodeBody_opcode (decode_body head accepted)) responded short bad present
      exact ⟨same.1.lookup, same.2⟩
  · rintro context queueId programId bindings timeoutNs asked some distinct rfl id
    obtain ⟨slot, requestId, epoch, operation⟩ := pending
    subst asked
    have few : bindings.length < 2 ^ 32 := by
      rw [submitPayload, List.length_append, WireBinding.codec.flatMap_length, List.length_map,
        WireBinding.codec_size] at small
      omega
    have takes : ∀ decoded, p.decoder.decode alloc.decodedBindings request (ByteSink.len sink) = .ok decoded →
        decoded.body = .submit queueId programId (sortBindings bindings) (Timeout.fromWireNs timeoutNs) := by
      intro decoded accepted
      have found := decode_body head accepted
      exact Framed.submit_taken some distinct few ⟨_, RequestHeader.codec.encode_length _, serves⟩ sized found
    exact submission_reported reach running takes responded
      (fun _ written => ⟨holds written, (holds written).understood understood⟩)

/-- The context of the sample device, as its guest knows it. -/
def sampleContext : Context :=
  { handle := ⟨ObjectId.new 0 1 0 .context, ⟨1, QueueEpoch.one_nonzero⟩⟩, context := none }

def sampleDestroy : Pending := ⟨0, 1, ⟨1, QueueEpoch.one_nonzero⟩, .destroyContext sampleContext⟩

/-- A context that still has a buffer stays where it is, and may be destroyed later. -/
theorem ownership_sound_busy : ∃ start p' after, fresh (agreeable sampleInfo) = .ok start ∧
    start.withBuffer.process roomy destroyRegions
      (.slice destroyFrame) blank = (.ok (.response 1 .busy 16), p', after) ∧
    GuestClient.sampleClient.validateResponse sampleDestroy
      (⟨blank, after⟩ : GuestClient.SliceChain) 16 = .ok (.deviceError .busy) ∧
    ReleaseSound start.withBuffer p' .context sampleContext.handle.id (.deviceError .busy :
      OperationResult Unit) := by
  have answered : ∃ start : CommandProcessor (fun _ => Unit), fresh (agreeable sampleInfo) = .ok start ∧
      start.withBuffer.health = .running ∧
      ((start.withBuffer.state.table .context).lookup sampleContext.handle.id).isSome = true ∧
      (start.withBuffer.process roomy destroyRegions (.slice destroyFrame) blank).1 = .ok (.response 1 .busy 16) ∧
      GuestClient.sampleClient.validateResponse sampleDestroy
        (⟨blank, (start.withBuffer.process roomy destroyRegions
          (.slice destroyFrame) blank).2.2⟩ : GuestClient.SliceChain) 16 = .ok (.deviceError .busy) :=
    ⟨_, rfl, by decide +kernel, by decide +kernel, by decide +kernel, rfl⟩
  obtain ⟨start, made, running, there, status, understood⟩ := answered
  obtain ⟨record, present⟩ := Option.isSome_iff_exists.mp there
  have reach := (Reachable.of_fresh _ rfl made).withBuffer
  generalize done : start.withBuffer.process roomy destroyRegions
    (.slice destroyFrame) blank = outcome at status understood
  obtain ⟨_, p', after⟩ := outcome
  cases status
  have frame : requestFrame .destroyContext 1 (ObjectPayload.codec.encode ⟨sampleContext.handle.id.raw⟩) =
      destroyFrame := by
    rw [requestFrame, ObjectPayload.codec.encode_length]
    rfl
  have serves : (ByteSource.slice destroyFrame).Serves (requestFrame sampleDestroy.operation.opcode 1
          (ObjectPayload.codec.encode ⟨sampleContext.handle.id.raw⟩)) := by
    rw [show sampleDestroy.operation.opcode = .destroyContext from rfl, frame]
    exact ByteSource.slice_serves (by decide)
  have sound := ownership_sound reach running (by decide) (by decide) serves done rfl understood
  exact ⟨start, p', after, made, done, understood, sound.release .context sampleContext.handle.id rfl rfl
    ⟨.context, (reach.accounted.graph.tables .context).issued_of_lookup present⟩⟩

end Guest

end VirtioAccel
