import VirtioAccel.Device.HealthGuarantees

/-! Identifiers of one reset epoch mean nothing in another. -/

namespace VirtioAccel
open List DeviceState
variable {V : Handles} {σ : Type}
variable {kind : ObjectKind} {status : StatusCode}

namespace ObjectId

/-- The namespace field of an identifier. -/
def namespaceTag (id : ObjectId) : UInt16 := ((id.raw >>> 32).toUInt32 >>> namespaceShift).toUInt16

end ObjectId

theorem ObjectTable.lookup_namespace {T : Type} {t : ObjectTable T} {id : ObjectId} {value : T}
    (present : t.lookup id = some value) : id.namespaceTag = t.namespaceTag := by
  obtain ⟨index, found, _⟩ := lookup_eq_some_iff_locate.mp present
  unfold locate at found
  dsimp only at found
  iterate 3
    split at found
    · cases found
  rename_i same
  exact not_not.mp same

namespace DeviceState
variable {A : Handles} {s s' : DeviceState A}

/-- Every table issues identifiers of the state's namespace. -/
def Stamped (s : DeviceState A) : Prop := ∀ kind, (s.table kind).namespaceTag = s.objectNamespace.value

theorem Stamped.sameEpoch (stamped : s.Stamped) (same : SameEpoch s s') : s'.Stamped := by
  intro kind
  rw [(same.descends kind).shape.namespaceTag, same.config.objectNamespace]
  exact stamped kind

theorem new_stamped {ns : ObjectNamespace} {limits : DeviceLimits} {policy : ResourcePolicy}
    (created : new ns limits policy = .ok s) : s.Stamped := by
  simp only [new, Checked.bind_eq_ok, Checked.pure_eq_ok] at created
  obtain ⟨_, _, _, _, _, _, _, _, _, _, _, _, _, _, rfl⟩ := created
  intro kind
  cases kind <;> rfl

theorem Stamped.namespace_eq {other : ObjectKind} {id : ObjectId} {record : Record A kind} {found : Record A other}
    (here : s.Stamped) (there : s'.Stamped) (present : (s.table kind).lookup id = some record)
    (later : (s'.table other).lookup id = some found) : s'.objectNamespace = s.objectNamespace := by
  have value := (ObjectTable.lookup_namespace later).symm.trans (ObjectTable.lookup_namespace present)
  rw [there, here] at value
  cases left : s'.objectNamespace
  cases right : s.objectNamespace
  rw [left, right] at value
  cases value
  rfl

end DeviceState

namespace CommandProcessor
variable {p p' q : CommandProcessor V}
variable {supplied : List ObjectNamespace} {renewed : Bool}

theorem Move.sameEpoch (move : Move false p p') : SameEpoch p.state p'.state := by
  cases move with
  | rest _ _ same _ | ask _ _ same _ => exact same.sameEpoch
  | gain _ _ _ gains _ _ => exact gains.sameEpoch
  | refit _ _ _ reslots _ => exact reslots.sameEpoch
  | settle _ _ _ _ frees _ | forfeit _ _ _ frees _ _ _ _ _ => exact frees.sameEpoch
  | strand never | renew never => cases never

theorem Moves.sameEpoch (moves : Moves false p p') : SameEpoch p.state p'.state := by
  induction moves with
  | refl => exact .refl _
  | tail _ move ih => exact ih.trans move.sameEpoch

/-- The reset found every handle released and may go on with its backend. -/
def reusable : Except ResetError ResetReport → Bool
  | .ok report => report.disposition = .backendReusable
  | .error _ => false

/-- A reset either starts an epoch in the namespace it was given, or stays in the old one. -/
theorem reset_epoch (reach : Reachable p) (ns : ObjectNamespace) :
    (∃ limits policy, DeviceState.new ns limits policy = .ok (p.reset ns).2.state) ∨
    reusable (p.reset ns).1 = false ∧ SameEpoch p.state (p.reset ns).2.state := by
  rcases p.reset_cases ns with ⟨_, done⟩ | ⟨_, ⟨_, done⟩ | ⟨_, done⟩⟩
  · rw [done]
    exact .inr ⟨by simp [reusable, reach.reports.standing], .refl _⟩
  · rw [done]
    exact .inr ⟨rfl, .refl _⟩
  have follows := swept_follows reach.accounted.graph
  rcases concludeReset_cases ns (ResetPass.start p.beginReset).sweep with
    ⟨_, ended, _⟩ | ⟨state, ended, _, _, made⟩ | ended
  · rw [done, ended]
    exact .inr ⟨rfl, follows.epoch⟩
  · rw [done, ended]
    exact .inl ⟨_, _, made⟩
  · rw [done, ended]
    exact .inr ⟨rfl, follows.epoch⟩

theorem Reachable.stamped (reach : Reachable p) : p.state.Stamped := by
  induction reach with
  | new _ created =>
    obtain ⟨_, made, _⟩ := new_state created
    exact new_stamped made
  | process alloc regions request response before ih =>
    exact ih.sameEpoch (Moves.sameEpoch (process_moves before.accounted.graph alloc regions request response))
  | reset ns before ih =>
    rcases reset_epoch before ns with ⟨_, _, made⟩ | ⟨_, same⟩
    · exact new_stamped made
    · exact ih.sameEpoch same

/-- What the transport does from one moment to another: the namespaces it
supplies, and whether a reset has started a new epoch. -/
inductive Run (p : CommandProcessor V) : List ObjectNamespace → Bool → CommandProcessor V → Prop
  | start : Run p [] false p
  | process {supplied : List ObjectNamespace} {renewed : Bool} {q : CommandProcessor V} {σ : Type} [ByteSink σ]
      (alloc : Allocator) (regions : List ChainRegion) (request : ByteSource) (response : σ) :
      Run p supplied renewed q → Run p supplied renewed (q.process alloc regions request response).2.1
  | reset {supplied : List ObjectNamespace} {renewed : Bool} {q : CommandProcessor V} (ns : ObjectNamespace) :
      Run p supplied renewed q → Run p (supplied ++ [ns]) (renewed || reusable (q.reset ns).1) (q.reset ns).2

theorem Run.reachable (reach : Reachable p) (run : Run p supplied renewed q) : Reachable q := by
  induction run with
  | start => exact reach
  | process alloc regions request response _ ih => exact .process alloc regions request response ih
  | reset ns _ ih => exact .reset ns ih

/-- The namespace is one that was supplied, unless no epoch has ended. -/
theorem Run.namespace_cases (reach : Reachable p) (run : Run p supplied renewed q) :
    q.state.objectNamespace ∈ supplied ∨ renewed = false ∧ q.state.objectNamespace = p.state.objectNamespace := by
  induction run with
  | start => exact .inr ⟨rfl, rfl⟩
  | process alloc regions request response before ih =>
    have same :=
      Moves.sameEpoch (process_moves (before.reachable reach).accounted.graph alloc regions request response)
    rw [same.config.objectNamespace]
    exact ih
  | reset ns before ih =>
    rcases reset_epoch (before.reachable reach) ns with ⟨_, _, made⟩ | ⟨kept, same⟩
    · rw [new_namespace made]
      exact .inl (by simp)
    rw [same.config.objectNamespace, kept, Bool.or_false]
    exact ih.imp_left (fun member => mem_append_left _ member)

/-- The command is turned away before the backend hears of it. -/
structure Turned (p : CommandProcessor V) (result : CommandProcessor V × Response V) : Prop where
  refused : ∃ status mutated, status ≠ .ok ∧ result.2 = .empty status mutated
  accelerator : result.1.accelerator = p.accelerator
  decoder : result.1.decoder = p.decoder

section Absent
variable {id : ObjectId} {result : CommandProcessor V × Response V}
variable {range : BufferRange}

theorem Turned.of_status {mutated : Bool} (bad : status ≠ .ok) (state : DeviceState (Owned V)) :
    Turned p ({ p with state }, .empty status mutated) := ⟨⟨status, mutated, bad, rfl⟩, rfl, rfl⟩

theorem Turned.of_state_error (error : DeviceStateError) : Turned p (p.respondStateError error) :=
  .of_status (statusFromDeviceStateError_ne_ok error) p.state

theorem Turned.of_backend_error (error : BackendError) : Turned p (p.respondBackendError error false) := by
  refine ⟨⟨_, _, statusFromBackendError_ne_ok error, rfl⟩, ?_, noteBackendError_decoder p error⟩
  simp only [respondBackendError, noteBackendError]
  split <;> rfl

theorem Released.turned (absent : (p.state.table kind).lookup id = none) (released : Released p kind id result) :
    Turned p result := by
  cases released with
  | @refused error state => exact .of_status (statusFromDeviceStateError_ne_ok error) state
  | freed holds | rejected holds | forfeited holds => exact nomatch absent.symm.trans holds.present

section
variable (absent : (p.state.table .event).lookup id = none)
include absent

theorem Polled.turned (polled : Polled p id result) : Turned p result := by
  cases polled with
  | refused => exact .of_state_error _
  | failed holds | found holds => exact nomatch absent.symm.trans holds.present

theorem Cancelled.turned (cancelled : Cancelled p id result) : Turned p result := by
  cases cancelled with
  | unsupported => exact .of_status (by decide) p.state
  | refused => exact .of_state_error _
  | failed holds | done holds => exact nomatch absent.symm.trans holds.present

theorem Destroyed.turned (destroyed : Destroyed p id result) : Turned p result := by
  cases destroyed with
  | refused => exact .of_state_error _
  | failed holds | pending holds | lost holds | ended holds => exact nomatch absent.symm.trans holds.present

end

theorem Written.turned {data : ByteSource} (absent : (p.state.table .buffer).lookup id = none)
    (written : Written p id range data result) : Turned p result := by
  cases written with
  | refused bad => exact .of_status bad p.state
  | done holds | failed holds => exact nomatch absent.symm.trans holds.present

theorem ReadReady.turned (absent : (p.state.table .buffer).lookup id = none) (read : ReadReady p id range result) :
    Turned p result := by
  cases read with
  | refused bad => exact .of_status bad p.state
  | ready holds => exact nomatch absent.symm.trans holds.present

section
variable (graph : p.state.Consistent) (absent : p.state.contexts.lookup id = none)
include graph absent

theorem createQueue_turned (reserve : Bool) (desc : QueueDesc) : Turned p (p.createQueue reserve id desc) := by
  unfold createQueue
  split
  · exact .of_backend_error _
  rcases createQueueWith_cases graph reserve id (Accelerator.createQueue p.state desc) p.accelerator with
    ⟨error, done⟩ | ⟨_, ⟨_, present, _⟩, _⟩
  · rw [done]
    exact .of_state_error error
  · cases absent.symm.trans present

theorem loadProgram_turned (reserve : Bool)
    (artifact : ArtifactRef) : Turned p (p.loadProgram reserve id artifact) := by
  unfold loadProgram
  rcases createProgramWith_cases graph reserve id artifact.payload.len artifact.residentBytes
    (Accelerator.loadProgram p.state artifact) p.accelerator with ⟨error, done⟩ | ⟨_, ⟨_, present, _⟩, _⟩
  · rw [done]
    exact .of_state_error error
  · cases absent.symm.trans present

theorem allocateBuffer_turned (reserve : Bool) (desc : BufferDesc) :
    Turned p (p.allocateBuffer reserve id desc) := by
  unfold allocateBuffer
  split
  · exact .of_backend_error _
  rcases createBufferWith_cases graph reserve id desc (Accelerator.allocateBuffer p.state) p.accelerator
    with ⟨error, done⟩ | ⟨_, ⟨_, present, _⟩, _⟩
  · rw [done]
    exact .of_state_error error
  · cases absent.symm.trans present

end

/-- A submission resolves everything it names before anything else. -/
theorem submit_turned (graph : p.state.Consistent) (absent : ∀ kind, (p.state.table kind).lookup id = none)
    (alloc : Allocator) {queueId programId : ObjectId} {bindings : List DecodedBinding} (timeout : Timeout)
    (names : id ∈ queueId :: programId :: bindings.map DecodedBinding.bufferId) :
    Turned p (p.submit alloc queueId programId bindings timeout) := by
  unfold submit
  split
  · exact .of_status (by decide) p.state
  rcases createEventWith_cases graph alloc.table queueId programId (bindings.map DecodedBinding.bufferId)
    (admitSubmission p.state alloc.nativeBindings p.info.limits.maxBindingsPerSubmission bindings timeout)
    ⟨p.accelerator, .ok, false⟩ with ⟨error, done⟩ | ⟨resources, ⟨resolved, sorted⟩, _⟩
  · rw [done]
    exact .of_state_error error
  rcases mem_cons.mp names with rfl | names
  · obtain ⟨queue, present, _⟩ := resolved.queue
    exact nomatch (absent .queue).symm.trans present
  rcases mem_cons.mp names with rfl | names
  · obtain ⟨program, present, _⟩ := resolved.program
    exact nomatch (absent .program).symm.trans present
  obtain ⟨⟨buffer, info⟩, found⟩ := resolved.complete id (by rw [sorted]; exact mem_sortIds.mpr names)
  obtain ⟨record, present, _⟩ := resolved.buffer found
  exact nomatch (absent .buffer).symm.trans present

end Absent

end CommandProcessor

/-- The objects a command names. -/
def DecodedRequestBody.names : DecodedRequestBody → List ObjectId
  | .getDeviceInfo | .createContext _ => []
  | .destroyContext id | .freeBuffer id | .unloadProgram id | .destroyQueue id => [id]
  | .allocateBuffer id _ | .loadProgram id _ _ _ _ | .createQueue id _ => [id]
  | .writeBuffer id _ _ | .readBuffer id _ => [id]
  | .submit queueId programId bindings _ => queueId :: programId :: bindings.map DecodedBinding.bufferId
  | .pollEvent id | .cancelEvent id | .destroyEvent id => [id]

namespace CommandProcessor
variable {p p' q : CommandProcessor V}
variable {id : ObjectId}

variable {body : DecodedRequestBody}

/-- A command that names an unknown object is turned away. -/
theorem dispatch_turned (graph : p.state.Consistent) (absent : ∀ kind, (p.state.table kind).lookup id = none)
    (alloc : Allocator) (names : id ∈ body.names) : Turned p (p.dispatch alloc body) := by
  cases body with
  | getDeviceInfo | createContext => cases names
  | submit queueId programId bindings timeout => exact submit_turned graph absent alloc timeout names
  | destroyContext target =>
    cases mem_singleton.mp names
    exact (releaseObject_cases graph .context id).turned (absent .context)
  | allocateBuffer target desc =>
    cases mem_singleton.mp names
    exact allocateBuffer_turned graph (absent .context) alloc.table desc
  | freeBuffer target =>
    cases mem_singleton.mp names
    exact (releaseObject_cases graph .buffer id).turned (absent .buffer)
  | writeBuffer target range data =>
    cases mem_singleton.mp names
    exact (writeBuffer_cases graph id range data).turned (absent .buffer)
  | readBuffer target range =>
    cases mem_singleton.mp names
    exact (readBuffer_cases graph id range).turned (absent .buffer)
  | loadProgram target format identity payload residentBytes =>
    cases mem_singleton.mp names
    exact loadProgram_turned graph (absent .context) alloc.table _
  | unloadProgram target =>
    cases mem_singleton.mp names
    exact (releaseObject_cases graph .program id).turned (absent .program)
  | createQueue target desc =>
    cases mem_singleton.mp names
    exact createQueue_turned graph (absent .context) alloc.table desc
  | destroyQueue target =>
    cases mem_singleton.mp names
    exact (releaseObject_cases graph .queue id).turned (absent .queue)
  | pollEvent target =>
    cases mem_singleton.mp names
    exact (p.pollEvent_cases id).turned (absent .event)
  | cancelEvent target =>
    cases mem_singleton.mp names
    exact (p.cancelEvent_cases id).turned (absent .event)
  | destroyEvent target =>
    cases mem_singleton.mp names
    exact (destroyEvent_cases graph id).turned (absent .event)

/-- What becomes of a command that names an object the device does not have. -/
structure Declined [ByteSink σ] (p : CommandProcessor V) (alloc : Allocator) (regions : List ChainRegion)
    (request : ByteSource) (sink : σ) (requestId : UInt64) : Prop where
  silent : (p.process alloc regions request sink).2.1.accelerator.log = p.accelerator.log
  refused : ∀ requestId status used, (p.process alloc regions request sink).1 =
    .ok (.response requestId status used) → status ≠ .ok
  answered : Accepts sink → ∃ status, status ≠ .ok ∧
    (p.process alloc regions request sink).1 = .ok (.response requestId status 16)

theorem completeResponse_log {written : Except ResponseWriteError UInt32 × σ} (status : StatusCode)
    (requestId : UInt64) (mutated : Bool) :
    (p.completeResponse written status requestId mutated).2.1.accelerator = p.accelerator := by
  unfold completeResponse
  split
  · rfl
  · split <;> rfl

theorem process_declined [ByteSink σ] (graph : p.state.Consistent)
    (absent : ∀ kind, (p.state.table kind).lookup id = none) {alloc : Allocator} {regions : List ChainRegion}
    {request : ByteSource} {sink : σ} {decoded : DecodedRequest}
    (ready : (preflightCommandFrame p.decoder alloc.decodedBindings regions request sink).1 = .ok (.ready decoded))
    (names : id ∈ decoded.body.names) : Declined p alloc regions request sink decoded.requestId := by
  obtain ⟨sink', found⟩ : ∃ sink', preflightCommandFrame p.decoder alloc.decodedBindings regions request sink =
      (.ok (.ready decoded), sink') := ⟨_, Prod.ext ready rfl⟩
  obtain ⟨_, accepted, rfl⟩ := preflight_ready found
  obtain ⟨_, limit, room⟩ := FrameDecoder.decode_carries accepted
  -- Both ways the processor ends in an empty response, with the backend as it was.
  have chosen : ∃ (after : CommandProcessor V) (status : StatusCode) (mutated : Bool), status ≠ .ok ∧
      after.accelerator = p.accelerator ∧ after.decoder = p.decoder ∧
      p.process alloc regions request sink' = after.respond sink' decoded.requestId (.empty status mutated) := by
    by_cases running : p.health = .running
    · obtain ⟨⟨status, mutated, bad, same⟩, accelerator, decoder⟩ :=
        dispatch_turned (p := p.serving) graph absent alloc names
      refine ⟨_, status, mutated, bad, accelerator, decoder, ?_⟩
      rw [← same]
      simp only [process, found, if_neg (not_not.mpr running)]
    · exact ⟨p, .deviceLost, false, by decide, rfl, rfl, by simp only [process, found, if_pos running]⟩
  obtain ⟨after, status, mutated, bad, accelerator, decoder, done⟩ := chosen
  refine ⟨?_, fun requestId status' used answer => ?_, fun accepts => ⟨status, bad, ?_⟩⟩
  · rw [done, respond, completeResponse_log, accelerator]
  · rw [done] at answer
    have written : after.respond sink' decoded.requestId (.empty status mutated) =
      (.ok (.response requestId status' used), _, _) := Prod.ext answer rfl
    obtain ⟨_, _, outcome, _⟩ := completeResponse_eq_ok written
    cases outcome
    exact bad
  · rw [done]
    exact respond_accepted accepts (by rw [decoder]; omega) (by omega) decoded.requestId status mutated

/-- A response to a creating command put this object ID into the guest's hands. -/
inductive Returned (p p' : CommandProcessor V) (id : ObjectId) : Prop
  | response {σ : Type} [HonestSink σ] {alloc : Allocator} {regions : List ChainRegion} {request : ByteSource}
      {sink after : σ} {decoded : DecodedRequest} {requestId : UInt64} {status : StatusCode} {used : UInt32}
      {header : ResponseHeader} :
      p.process alloc regions request sink = (.ok (.response requestId status used), p', after) →
      p.decoder.decode alloc.decodedBindings request (ByteSink.len sink) = .ok decoded →
      decoded.body.creates ≠ none ∨ decoded.body.opcode = .submit →
      (FramedSink.bytes after).take used.toNat =
        ResponseHeader.codec.encode header ++ ObjectPayload.codec.encode ⟨id.raw⟩ →
      Returned p p' id

theorem Answers.created {response : Response V} (answers : Answers p p' body response)
    (creating : body.creates ≠ none ∨ body.opcode = .submit)
    (meant : response.Says status (ObjectPayload.codec.encode ⟨id.raw⟩)) : ∃ kind, Appears p p' kind id := by
  have same : ∀ made : ObjectId, ObjectPayload.codec.encode ⟨id.raw⟩ = ObjectPayload.codec.encode ⟨made.raw⟩ →
      id = made := by
    intro made encoded
    have decoded := congrArg ObjectPayload.codec.decode encoded
    rw [ObjectPayload.codec.decode_encode, ObjectPayload.codec.decode_encode] at decoded
    exact ObjectId.ext_toNat (congrArg UInt64.toNat (ObjectPayload.mk.inj decoded))
  have silent : ObjectPayload.codec.encode ⟨id.raw⟩ ≠ [] := by
    intro empty
    have length := ObjectPayload.codec.encode_length ⟨id.raw⟩
    rw [empty] at length
    cases length
  generalize carried : ObjectPayload.codec.encode ⟨id.raw⟩ = payload at meant
  cases answers with
  | refused | done =>
    cases meant
    exact absurd carried silent
  | info | polled | transfer => rcases creating with none | other <;> contradiction
  | made _ appears | accepted appears | indeterminate appears =>
    cases meant
    rw [same _ carried]
    exact ⟨_, appears⟩

/-- An ID the guest was given names a live object at that moment. -/
theorem Returned.present (graph : p.state.Consistent) (returned : Returned p p' id) :
    ∃ (kind : ObjectKind) (record : Record (Owned V) kind), (p'.state.table kind).lookup id = some record := by
  obtain ⟨done, accepted, creating, carried⟩ := returned
  have short : ∀ {requestId status} {used : UInt32} {header : ResponseHeader} {bytes : List UInt8},
      bytes.take used.toNat = ResponseHeader.codec.encode (ResponseHeader.new status 0 requestId) ++ [] →
      bytes.take used.toNat ≠ ResponseHeader.codec.encode header ++ ObjectPayload.codec.encode ⟨id.raw⟩ := by
    intro _ _ _ _ _ bare whole
    have length := congrArg length (bare.symm.trans whole)
    simp at length
  cases process_responded done with
  | rejected _ _ answered | stopped _ _ _ _ answered => exact absurd carried (short answered.bytes)
  | @handled decoded' payload accepted' _ _ meant answered state _ =>
    cases accepted.symm.trans accepted'
    have payloads := (append_inj (answered.bytes.symm.trans carried) (by simp)).2
    rw [payloads] at meant
    obtain ⟨kind, _, record, handle, holds⟩ := (dispatch_answers (p := p.serving) graph _
      (FrameDecoder.decode_valid accepted)).created creating meant
    exact ⟨kind, record, by rw [state]; exact holds.present⟩

/-- An ID that was returned before a reset that started a new epoch resolves
nowhere ever after, if no namespace is supplied twice; a command that names it
is refused without a call to the backend. -/
theorem Reachable.epochs_isolated {accelerator : Accelerator V} {config : WireConfig} {ns : ObjectNamespace}
    {policy : ResourcePolicy} {start : CommandProcessor V} {first second : List ObjectNamespace} {renewed : Bool}
    {id : ObjectId} (unused : accelerator.log = [])
    (created : CommandProcessor.new accelerator config ns policy = .ok start) (before : Run start first renewed p)
    (returned : Returned p p' id) (after : Run p' second true q) (distinct : (ns :: (first ++ second)).Nodup) :
    (∀ kind, (q.state.table kind).lookup id = none) ∧
    ∀ {σ : Type} [ByteSink σ] (alloc : Allocator) (regions : List ChainRegion) (request : ByteSource) (sink : σ)
      (decoded : DecodedRequest),
      (preflightCommandFrame q.decoder alloc.decodedBindings regions request sink).1 = .ok (.ready decoded) →
      id ∈ decoded.body.names → Declined q alloc regions request sink decoded.requestId := by
  have origin : Reachable start := .new unused created
  have reach := before.reachable origin
  have moved : Reachable p' ∧ p'.state.objectNamespace = p.state.objectNamespace := by
    obtain ⟨done, _, _, _⟩ := returned
    have same := congrArg (fun result => result.2.1) done
    dsimp only at same
    rw [← same]
    exact ⟨.process _ _ _ _ reach,
      (Moves.sameEpoch (process_moves reach.accounted.graph _ _ _ _)).config.objectNamespace⟩
  have old : p'.state.objectNamespace ∈ ns :: first := by
    rw [moved.2]
    obtain ⟨_, made, _⟩ := new_state created
    rcases before.namespace_cases origin with member | ⟨_, same⟩
    · exact mem_cons_of_mem _ member
    rw [same, new_namespace made]
    exact mem_cons_self
  have new : q.state.objectNamespace ∈ second :=
    (after.namespace_cases moved.1).resolve_right (fun never => nomatch never.1)
  have apart : q.state.objectNamespace ≠ p'.state.objectNamespace := by
    intro same
    rw [same] at new
    rw [← cons_append] at distinct
    exact disjoint_of_nodup_append distinct old new
  have later := after.reachable moved.1
  have absent : ∀ kind, (q.state.table kind).lookup id = none := by
    intro kind
    obtain ⟨_, _, present⟩ := returned.present reach.accounted.graph
    cases found : (q.state.table kind).lookup id with
    | none => rfl
    | some record => exact absurd (moved.1.stamped.namespace_eq later.stamped present found) apart
  exact ⟨absent, fun _ _ _ _ _ ready names => process_declined later.accounted.graph absent ready names⟩

/-- A context from before a reset into another namespace. -/
theorem Reachable.epochs_isolated_context : ∃ start p' after q, fresh (agreeable sampleInfo) = .ok start ∧
    start.process roomy createRegions (.slice createFrame) blank = (.ok (.response 1 .ok 24), p', after) ∧
    q = (p'.reset ⟨2, by decide⟩).2 ∧ q.health = .running ∧
    ∀ kind, (q.state.table kind).lookup (ObjectId.new 0 1 0 .context) = none := by
  have answered : ∃ start : CommandProcessor (fun _ => Unit), fresh (agreeable sampleInfo) = .ok start ∧
      (start.process roomy createRegions (.slice createFrame) blank).1 = .ok (.response 1 .ok 24) ∧
      FramedSink.bytes (start.process roomy createRegions (.slice createFrame) blank).2.2 =
        ResponseHeader.codec.encode (ResponseHeader.new .ok 8 1) ++
          ObjectPayload.codec.encode ⟨(ObjectId.new 0 1 0 .context).raw⟩ ∧
      reusable ((start.process roomy createRegions (.slice createFrame) blank).2.1.reset ⟨2, by decide⟩).1 = true ∧
      ((start.process roomy createRegions (.slice createFrame) blank).2.1.reset ⟨2, by decide⟩).2.health =
      .running ∧
      ∃ decoded, start.decoder.decode true (.slice createFrame) 24 = .ok decoded ∧ decoded.body.creates ≠ none :=
    ⟨_, rfl, by decide +kernel, by decide +kernel, by decide +kernel, by decide +kernel, _, rfl, by decide +kernel⟩
  obtain ⟨start, made, status, bytes, kept, running, decoded, accepted, creating⟩ := answered
  have done : start.process roomy createRegions (.slice createFrame) blank = (.ok (.response 1 .ok 24), _, _) :=
    Prod.ext status rfl
  have returned : Returned start (start.process roomy createRegions (.slice createFrame) blank).2.1
      (ObjectId.new 0 1 0 .context) :=
    .response done accepted (.inl creating) ((take_of_length_le (by rw [bytes]; decide)).trans bytes)
  have renewed : Run (start.process roomy createRegions (.slice createFrame) blank).2.1 [⟨2, by decide⟩] true
      ((start.process roomy createRegions (.slice createFrame) blank).2.1.reset ⟨2, by decide⟩).2 := by
    have run := Run.reset ⟨2, by decide⟩
      (Run.start (p := (start.process roomy createRegions (.slice createFrame) blank).2.1))
    rwa [kept] at run
  have isolated := Reachable.epochs_isolated rfl made .start returned renewed (by decide)
  exact ⟨start, _, _, _, made, done, rfl, running, isolated.1⟩

end CommandProcessor

end VirtioAccel
