import VirtioAccel.Device.DecoderFacts
import VirtioAccel.Device.EngineAccess

/-! Commands as sequences of moves. -/

namespace VirtioAccel
open ResponseWriter
open DeviceState (SameView Reslots Refused Gains Frees)
variable {V : Handles}

theorem Due.of_ne {resetting : Bool} {past : List (Exchange V)} {kind : ObjectKind} (quiet : kind ≠ .event)
    (handle : Owned V kind) : Due resetting past kind handle := by
  cases kind with
  | event => exact absurd rfl quiet
  | context | buffer | program | queue => trivial

namespace CommandProcessor
variable {p p' : CommandProcessor V} {kind : ObjectKind} {id : ObjectId} {resetting : Bool}
variable {result : CommandProcessor V × Response V}
variable {state : DeviceState (Owned V)} {record : Record (Owned V) kind} {handle : Owned V kind}
  {error : BackendError}
  {range : BufferRange}
variable {regions : List ChainRegion} {decoder : FrameDecoder} {e : Exchange V} {data request : ByteSource}
  {bytes : UInt64} {reserve : Bool}

theorem Move.consistent (graph : p.state.Consistent) (move : Move resetting p p') : p'.state.Consistent := by
  cases move with
  | rest _ _ same _ | ask _ _ same _ => exact graph.sameView same
  | gain _ _ _ gains _ _ => exact graph.gain gains
  | refit _ _ _ reslots _ | strand _ _ _ _ reslots _ => exact graph.reslot reslots
  | settle _ _ _ _ frees _ | forfeit _ _ _ frees _ _ _ _ _ => exact graph.free frees
  | renew _ _ _ _ fresh _ _ => exact fresh

theorem Moves.consistent (graph : p.state.Consistent) (moves : Moves resetting p p') : p'.state.Consistent := by
  induction moves with
  | refl => exact graph
  | tail _ move ih => exact move.consistent ih

theorem Kept.step {state : DeviceState (Owned V)} {accelerator : Accelerator V} :
    Kept p { p with state, accelerator } := ⟨rfl, rfl, rfl, fun condemned => condemned, fun reports => reports⟩

theorem Kept.refl (p : CommandProcessor V) : Kept p p := .step

theorem Kept.trans {p'' : CommandProcessor V} (first : Kept p p') (second : Kept p' p'') : Kept p p'' :=
  ⟨second.info.trans first.info, second.policy.trans first.policy, second.decoder.trans first.decoder,
    fun condemned => second.discard (first.discard condemned), fun reports =>
    second.reports (first.reports reports)⟩

theorem Move.kept (move : Move resetting p p') : Kept p p' := by
  cases move with
  | rest kept _ _ _ | renew _ kept _ _ _ _ _ => exact kept
  | ask calls _ _ _ | gain calls _ _ _ _ _ | refit calls _ _ _ _ | settle calls _ _ _ _ _
  | forfeit calls _ _ _ _ _ _ _ _ | strand _ calls _ _ _ _ =>
    exact calls.toKept

theorem Moves.kept (moves : Moves resetting p p') : Kept p p' := by
  induction moves with
  | refl => exact .refl p
  | tail _ move ih => exact ih.trans move.kept

section
variable (graph : p.state.Consistent) (moves : Moves resetting p p')
include graph moves

/-- A change of health alone, which never pardons the backend. -/
theorem Moves.mark {health : DeviceHealth} {lastReset : Option ResetReport}
    (sticky : p'.health = .backendDiscardRequired → health = .backendDiscardRequired)
    (reports : p'.ReportsDiscard → ∀ report, lastReset = some report →
      report.disposition = .backendDiscardRequired) :
    Moves resetting p { p' with health, lastReset } :=
  moves.tail (.rest ⟨rfl, rfl, rfl, sticky, reports⟩ rfl (.refl (moves.consistent graph).tables) ⟨rfl, rfl⟩)

theorem Moves.condemn : Moves resetting p p'.requireBackendDiscard := moves.mark graph (fun _ => rfl) (by simp)

theorem Moves.note (error : BackendError) : Moves resetting p (p'.noteBackendError error) := by
  unfold noteBackendError
  split
  · exact moves.condemn graph
  · exact moves

end

theorem Moves.view (same : SameView p.state state) :
    Moves resetting p { p with state } := .single (.rest .step rfl same ⟨rfl, rfl⟩)

theorem Moves.ask (permitted : Permitted resetting p e) (neutral : e.Neutral) (same : SameView p.state state) :
    Moves resetting p { p with state, accelerator := p.accelerator.after e } :=
  .single (.ask ⟨.step, permitted, rfl⟩ neutral same ⟨rfl, rfl⟩)

theorem Grants.moves (grants : Grants p p' e kind id record) : Moves false p p' := by
  obtain ⟨value, fresh⟩ := grants.fresh
  refine .single (.gain ⟨?_, grants.permitted, ?_⟩ grants.grants grants.settles grants.gains fresh ?_) <;>
    rw [grants.processor]
  · exact .step
  · rfl
  · exact ⟨rfl, rfl⟩

theorem Permitted.release (reply : Except (ReleaseFailure (V kind)) Unit)
    (holds : p.state.Holds kind id record handle)
    (idle : p.state.Unreferenced kind id) (due : Due resetting p.accelerator.log kind handle) :
    Permitted resetting p ⟨p.state, .release kind handle, reply⟩ :=
  ⟨rfl, ⟨id, record, holds, idle⟩, due⟩

section
variable (holds : p.state.Holds kind id record handle) (idle : p.state.Unreferenced kind id)
  (due : Due resetting p.accelerator.log kind handle)
include holds idle due

theorem Moves.release (frees : Frees p.state state kind id record) : Moves resetting p { p with
      state
      accelerator := p.accelerator.after ⟨p.state, .release kind handle, .ok ()⟩ } :=
  .single (.settle ⟨.step, .release (.ok ()) holds idle due, rfl⟩ rfl rfl holds
    frees ⟨rfl, rfl⟩)

theorem Moves.restore {value : V kind}
    (reslots : Reslots p.state state kind id record (ResourceSlot.new { handle with value })) :
    Moves resetting p { p with
      state
      accelerator := p.accelerator.after ⟨p.state, .release kind handle, .error (.rejected error value)⟩ } :=
  .single (.refit ⟨.step, .release (.error (.rejected error value)) holds idle due,
    rfl⟩ ⟨rfl, rfl⟩ holds reslots ⟨rfl, rfl⟩)

end

theorem Moves.forfeit (running : p.health = .running) (holds : p.state.Holds kind id record handle)
    (idle : p.state.Unreferenced kind id) (due : Due resetting p.accelerator.log kind handle)
    (frees : Frees p.state state kind id record) (charged : bytes.toNat = record.charge) :
    Moves resetting p (requireBackendDiscard { p with
      state
      accelerator := p.accelerator.after ⟨p.state, .release kind handle, .error (.indeterminate error)⟩
      quarantined := p.quarantined.bump kind
      quarantinedBytes := p.quarantinedBytes.charge kind bytes }) :=
  .single (.forfeit ⟨⟨rfl, rfl, rfl, fun _ => rfl, fun _ _ never => nomatch never⟩,
    .release (.error (.indeterminate error)) holds idle due, rfl⟩
    ⟨rfl, rfl⟩ holds frees running rfl charged rfl rfl)

/-- A pending transfer is one the backend may be asked for. -/
def Ready (p : CommandProcessor V) : Response V → Prop
  | .transfer buffer range => p.state.Transferable buffer range.offset range.bytes BufferUsage.transferSource
  | .empty _ _ | .bytes _ _ _ => True

/-- A handler has moved the processor and chosen its response. -/
structure Handled (p : CommandProcessor V) (result : CommandProcessor V × Response V) : Prop where
  moves : Moves false p result.1
  ready : Ready result.1 result.2

section
variable (graph : p.state.Consistent)
variable {event : Owned V .event}

include graph

theorem Released.handled (running : p.health = .running)
    (due : ∀ {record handle}, p.state.Holds kind id record handle → Due false p.accelerator.log kind handle)
    (released : Released p kind id result) : Handled p result := by
  cases released with
  | refused same _ => exact ⟨.view same, trivial⟩
  | freed holds idle frees => exact ⟨.release holds idle (due holds) frees, trivial⟩
  | rejected holds idle reslots => exact ⟨(Moves.restore holds idle (due holds) reslots).note graph _, trivial⟩
  | forfeited holds idle frees charged => exact ⟨.forfeit running holds idle (due holds) frees charged, trivial⟩

theorem Created.handled (created : Created p kind result) : Handled p result := by
  cases created with
  | refused => exact ⟨.refl, trivial⟩
  | declined permitted neutral => exact ⟨(Moves.ask permitted neutral (.refl graph.tables)).note graph _, trivial⟩
  | made grants => exact ⟨grants.moves, trivial⟩

theorem Withdrawn.handled (running : p.health = .running)
    (withdrawn : Withdrawn p id error result) : Handled p result := by
  cases withdrawn with
  | freed holds idle frees => exact ⟨(Moves.release holds idle trivial frees).note graph _, trivial⟩
  | rejected holds idle reslots => exact ⟨(Moves.restore holds idle trivial reslots).condemn graph, trivial⟩
  | forfeited holds idle frees charged => exact ⟨.forfeit running holds idle trivial frees charged, trivial⟩

theorem Submitted.handled {queueId programId : ObjectId} {bufferIds : List ObjectId}
    (submitted : Submitted p queueId programId bufferIds result) : Handled p result := by
  cases submitted with
  | refused _ same => exact ⟨.view same, trivial⟩
  | broken same => exact ⟨(Moves.view same).condemn graph, trivial⟩
  | declined permitted neutral same => exact ⟨(Moves.ask permitted neutral same).note graph _, trivial⟩
  | accepted grants => exact ⟨grants.moves, trivial⟩
  | indeterminate grants => exact ⟨grants.moves.note graph _, trivial⟩

theorem Moves.polled {record : Record (Owned V) .event} (holds : p.state.Holds .event id record event)
    (reply : Except BackendError EventState) :
    Moves resetting p (p.asked (.pollEvent event) reply) :=
  .ask ⟨rfl, id, record, holds⟩ ⟨rfl, rfl⟩ (.refl graph.tables)

theorem Moves.cancelled {record : Record (Owned V) .event} (holds : p.state.Holds .event id record event)
    (reply : Except BackendError Unit) :
    Moves resetting p (p.asked (.cancelEvent event) reply) :=
  .ask ⟨rfl, id, record, holds⟩ ⟨rfl, rfl⟩ (.refl graph.tables)

theorem Polled.handled (polled : Polled p id result) : Handled p result := by
  cases polled with
  | refused => exact ⟨.refl, trivial⟩
  | failed holds => exact ⟨(Moves.polled graph holds _).note graph _, trivial⟩
  | @found record event state holds =>
    have asked : Moves false p (p.asked (.pollEvent event) (.ok state)) := .polled graph holds _
    refine ⟨?_, trivial⟩
    split
    · exact asked.condemn graph
    · exact asked

theorem Cancelled.handled (cancelled : Cancelled p id result) : Handled p result := by
  cases cancelled with
  | unsupported | refused => exact ⟨.refl, trivial⟩
  | failed holds => exact ⟨(Moves.cancelled graph holds _).note graph _, trivial⟩
  | done holds => exact ⟨.cancelled graph holds _, trivial⟩

theorem Destroyed.handled (running : p.health = .running) (destroyed : Destroyed p id result) :
    Handled p result := by
  cases destroyed with
  | refused => exact ⟨.refl, trivial⟩
  | failed holds => exact ⟨(Moves.polled graph holds _).note graph _, trivial⟩
  | pending holds => exact ⟨.polled graph holds _, trivial⟩
  | lost holds => exact ⟨(Moves.polled graph holds _).condemn graph, trivial⟩
  | @ended record event state _ holds past present released =>
    have after := Released.handled (p := p.asked (.pollEvent event) (.ok state)) graph running
      (fun {record' handle} holds' => by
        -- The poll is the last exchange, and it was about this very handle.
        cases holds.present.symm.trans holds'.present
        cases holds.live.symm.trans holds'.live
        exact .inl ⟨p.state, state, List.getLast?_concat, past, present⟩) released
    exact ⟨(Moves.polled graph holds _).trans after.moves, after.ready⟩

end

theorem Moves.write (sized : data.len = range.bytes) {record : BufferRecord (Owned V)} {buffer : Owned V .buffer}
    {value : V .buffer} (holds : p.state.Holds .buffer id record buffer)
    (ready : p.state.Transferable buffer range.offset range.bytes BufferUsage.transferDestination)
    (reslots : Reslots p.state state .buffer id record (ResourceSlot.new { buffer with value }))
    (reply : Except BackendError Unit) :
    Moves false p { p.asked (.writeBuffer buffer range.offset data) (reply, value) with state } := by
  rw [← sized] at ready
  have permitted : Permitted false p ⟨p.state, .writeBuffer buffer range.offset data, (reply, value)⟩ :=
    ⟨rfl, ready⟩
  exact .single (.refit ⟨.step, permitted, rfl⟩ ⟨rfl, rfl⟩ holds reslots ⟨rfl, rfl⟩)

theorem Written.handled (graph : p.state.Consistent) (sized : data.len = range.bytes)
    (written : Written p id range data result) : Handled p result := by
  cases written with
  | refused => exact ⟨.refl, trivial⟩
  | done holds ready reslots => exact ⟨.write sized holds ready reslots (.ok ()), trivial⟩
  | failed holds ready reslots => exact ⟨(Moves.write sized holds ready reslots (.error _)).note graph _, trivial⟩

theorem ReadReady.handled (read : ReadReady p id range result) : Handled p result := by
  cases read with
  | refused => exact ⟨.refl, trivial⟩
  | ready holds ready => exact ⟨.refl, ready⟩

theorem releaseObject_handled (graph : p.state.Consistent) (running : p.health = .running) (kind : ObjectKind)
    (quiet : kind ≠ .event) (id : ObjectId) : Handled p (p.releaseObject kind id) :=
  (releaseObject_cases graph kind id).handled graph running (fun _ => .of_ne quiet _)

/-- Each command makes its own moves. -/
theorem dispatch_handled (graph : p.state.Consistent) (running : p.health = .running) (alloc : Allocator)
    {body : DecodedRequestBody} (valid : body.Valid) : Handled p (p.dispatch alloc body) := by
  cases body with
  | getDeviceInfo => exact ⟨.refl, trivial⟩
  | createContext desc => exact (createContext_cases graph alloc.table desc).handled graph
  | destroyContext id => exact releaseObject_handled graph running .context (by decide) id
  | allocateBuffer contextId desc =>
    rcases allocateBuffer_cases graph alloc.table contextId desc with
      created | ⟨e, p', id, record, error, grants, _, withdrawn⟩
    · exact created.handled graph
    have running' : p'.health = .running := by rw [grants.processor]; exact running
    have after := withdrawn.handled (graph.gain grants.gains) running'
    exact ⟨grants.moves.trans after.moves, after.ready⟩
  | freeBuffer id => exact releaseObject_handled graph running .buffer (by decide) id
  | writeBuffer id range data => exact (writeBuffer_cases graph id range data).handled graph valid
  | readBuffer id range => exact (readBuffer_cases graph id range).handled
  | loadProgram contextId format target payload residentBytes =>
    exact (loadProgram_cases graph alloc.table contextId _).handled graph
  | unloadProgram id => exact releaseObject_handled graph running .program (by decide) id
  | createQueue contextId desc => exact (createQueue_cases graph alloc.table contextId desc).handled graph
  | destroyQueue id => exact releaseObject_handled graph running .queue (by decide) id
  | submit queueId programId bindings timeout =>
    exact (submit_cases graph alloc queueId programId valid timeout).handled graph
  | pollEvent id => exact (p.pollEvent_cases id).handled graph
  | cancelEvent id => exact (p.cancelEvent_cases id).handled graph
  | destroyEvent id => exact (destroyEvent_cases graph id).handled graph running

variable {σ : Type} [ByteSink σ]
variable {response : σ}

variable {sink : σ}

omit [ByteSink σ] in
theorem Moves.complete (graph : p.state.Consistent) (moves : Moves false p p')
    (written : Except ResponseWriteError UInt32 × σ) (status : StatusCode) (requestId : UInt64) (mutated : Bool) :
    Moves false p (p'.completeResponse written status requestId mutated).2.1 := by
  unfold completeResponse
  split
  · exact moves
  simp only
  split
  · rename_i failed
    exact moves.mark graph (fun condemned => nomatch failed.2.symm.trans condemned) (by simp)
  · exact moves

theorem ResponseWriter.payload_len {maxResponseBytes : UInt32} {window : ResponsePayload σ}
    (opened : payload maxResponseBytes sink bytes = .ok window) : ByteSink.len window = bytes := by
  unfold payload at opened
  split at opened
  · cases opened
  split at opened
  · cases opened
  cases opened
  apply UInt64.toNat_inj.mp
  simp only [ByteSink.len, UInt32.toNat_toUInt64, UInt64.toNat_toUInt32]
  omega

theorem respond_moves (graph : p.state.Consistent) (sink : σ) (requestId : UInt64) {response : Response V}
    (ready : Ready p response) : Moves false p (p.respond sink requestId response).2.1 := by
  cases response with
  | empty status mutated | bytes status payload mutated => exact Moves.complete graph .refl _ _ _ _
  | transfer buffer range =>
    simp only [respond, transferResponse]
    split
    · exact .refl
    rename_i window opened
    obtain ⟨transfer, called⟩ := Accelerator.readBuffer_eq p.state p.accelerator buffer range.offset window
    have asked : Moves false p (p.asked (.readBuffer buffer range.offset (ByteSink.len window)) transfer) := by
      rw [ResponseWriter.payload_len opened]
      exact .ask ⟨rfl, ready⟩ ⟨rfl, rfl⟩ (.refl graph.tables)
    simp only [called]
    generalize (transfer.run window).1 = outcome
    cases outcome with
    | ok => exact asked.complete graph _ _ _ _
    | error error => exact (asked.note graph error).complete graph _ _ _ _

theorem preflight_ready {decoded : DecodedRequest}
    (ready : preflightCommandFrame decoder reserve regions request response = (.ok (.ready decoded), sink)) :
    checkChain decoder regions request.len (ByteSink.len response) = .ok () ∧
      decoder.decode reserve request (ByteSink.len response) = .ok decoded ∧ sink = response := by
  unfold preflightCommandFrame at ready
  split at ready
  · cases ready
  rename_i chain
  split at ready
  · rename_i found
    cases ready
    exact ⟨chain, found, rfl⟩
  · rename_i requestId status found
    simp only [Prod.mk.injEq] at ready
    generalize writeEmpty decoder.limits.maxResponseBytes response status requestId = written at ready
    rcases written with ⟨_ | _, _⟩ <;> cases ready.1
  · cases ready
  · cases ready

theorem preflight_rejected {requestId : UInt64} {status : StatusCode} {used : UInt32}
    (rejected : preflightCommandFrame decoder reserve regions request response =
      (.ok (.rejected requestId status used), sink)) :
    decoder.decode reserve request (ByteSink.len response) = .error (.protocol requestId status) ∧
      writeEmpty decoder.limits.maxResponseBytes response status requestId = (.ok used, sink) := by
  unfold preflightCommandFrame at rejected
  split at rejected
  · cases rejected
  split at rejected
  · cases rejected
  · rename_i refusedId cause failed
    simp only [Prod.mk.injEq] at rejected
    generalize answer : writeEmpty decoder.limits.maxResponseBytes response cause refusedId = written
      at rejected
    rcases written with ⟨_ | _, _⟩
    · cases rejected.1
    cases rejected.1
    cases rejected.2
    exact ⟨failed, answer⟩
  · cases rejected
  · cases rejected

/-- The processor as it serves a command: the report of the last reset is gone. -/
abbrev serving (p : CommandProcessor V) : CommandProcessor V := { p with lastReset := none }

/-- The four ways through `process`. Only a frame that decodes, on a running
processor, reaches a handler. -/
theorem process_cases (p : CommandProcessor V) (alloc : Allocator) (regions : List ChainRegion)
    (request : ByteSource) (response : σ) :
    (∃ error sink, preflightCommandFrame p.decoder alloc.decodedBindings regions request response =
      (.error error, sink) ∧
      p.process alloc regions request response = (.error (.preflight error), p, sink)) ∨
    (∃ requestId status used sink, preflightCommandFrame p.decoder alloc.decodedBindings regions request response =
        (.ok (.rejected requestId status used), sink) ∧
      p.process alloc regions request response = (.ok (.response requestId status used), p, sink)) ∨
    (∃ frame sink, preflightCommandFrame p.decoder alloc.decodedBindings regions request response =
        (.ok (.unusable frame), sink) ∧
      p.process alloc regions request response = (.ok (.unusable frame), p, sink)) ∨
    ∃ decoded, checkChain p.decoder regions request.len (ByteSink.len response) = .ok () ∧
      p.decoder.decode alloc.decodedBindings request (ByteSink.len response) = .ok decoded ∧
      (p.health ≠ .running ∧
        p.process alloc regions request response = p.respond response decoded.requestId (.empty .deviceLost false) ∨
      p.health = .running ∧
        p.process alloc regions request response =
          ((p.serving.dispatch alloc decoded.body).1).respond response decoded.requestId
            (p.serving.dispatch alloc decoded.body).2) := by
  unfold process
  rcases preflight : preflightCommandFrame p.decoder alloc.decodedBindings regions request response with
    ⟨outcome, sink⟩
  rcases outcome with error | outcome
  · exact .inl ⟨error, sink, rfl, rfl⟩
  cases outcome with
  | rejected requestId status used => exact .inr (.inl ⟨requestId, status, used, sink, rfl, rfl⟩)
  | unusable frame => exact .inr (.inr (.inl ⟨frame, sink, rfl, rfl⟩))
  | ready decoded =>
    obtain ⟨chain, accepted, rfl⟩ := preflight_ready preflight
    refine .inr (.inr (.inr ⟨decoded, chain, accepted, ?_⟩))
    by_cases running : p.health = .running
    · exact .inr ⟨running, by simp [running, serving]⟩
    · exact .inl ⟨running, by simp [running]⟩

theorem process_moves (graph : p.state.Consistent) (alloc : Allocator) (regions : List ChainRegion)
    (request : ByteSource) (response : σ) : Moves false p (p.process alloc regions request response).2.1 := by
  rcases p.process_cases alloc regions request response with
    ⟨_, _, _, done⟩ | ⟨_, _, _, _, _, done⟩ | ⟨_, _, _, done⟩ | ⟨decoded, _, accepted, ⟨_, done⟩ | ⟨running, done⟩⟩
  · rw [done]
  · rw [done]
  · rw [done]
  · rw [done]
    exact respond_moves graph response decoded.requestId trivial
  · have marked : Moves false p p.serving := Moves.mark graph .refl (fun condemned => condemned) (by simp)
    have handled := dispatch_handled (p := p.serving) graph running alloc (FrameDecoder.decode_valid accepted)
    have moved := marked.trans handled.moves
    rw [done]
    exact moved.trans (respond_moves (Moves.consistent graph moved) response decoded.requestId handled.ready)

end CommandProcessor

end VirtioAccel
