import VirtioAccel.Device.ResponseGuarantees

/-! Health as a one-way gate. -/

namespace VirtioAccel
open Checked DeviceState ResponseWriter
variable {V : Handles} {σ : Type}
variable {ns : ObjectNamespace}
variable {policy : ResourcePolicy}

namespace DeviceState
variable {A : Handles} {s s' : DeviceState A} {kind : ObjectKind} {id : ObjectId} {record : Record A kind}

theorem Settled.of_empty (graph : s.Consistent) (empty : ∀ kind, (s.table kind).len = 0) : s.Settled := by
  intro kind id record present
  rw [(graph.empty_table (empty kind)).2.2 id] at present
  cases present

theorem Settled.gain (settled : s.Settled) (gains : Gains s s' kind id record)
    (live : record.resource.release = .live) : s'.Settled := by
  refine settled.of_frame gains.frame (fun {after} present => ?_)
  cases gains.present.2.symm.trans present
  exact live

theorem new_namespace {limits : DeviceLimits} (created : new ns limits policy = .ok s) :
    s.objectNamespace = ns := by
  simp only [new, bind_eq_ok, pure_eq_ok] at created
  obtain ⟨_, _, _, _, _, _, _, _, _, _, _, _, _, _, rfl⟩ := created
  rfl

end DeviceState

namespace CommandProcessor
variable {p p' p'' : CommandProcessor V}
variable {sink : σ}

/-- Only a reset leaves a record behind in release. -/
theorem Move.settled (settled : p.state.Settled) (move : Move false p p') : p'.state.Settled := by
  cases move with
  | rest _ _ same _ | ask _ _ same _ => exact settled.sameView same
  | gain _ _ _ gains fresh _ => exact settled.gain gains (by rw [fresh]; rfl)
  | refit _ _ _ reslots _ => exact settled.reslot reslots rfl
  | settle _ _ _ _ frees _ | forfeit _ _ _ frees _ _ _ _ _ => exact settled.free frees
  | strand never | renew never => cases never

theorem Moves.settled (settled : p.state.Settled) (moves : Moves false p p') : p'.state.Settled := by
  induction moves with
  | refl => exact settled
  | tail _ move ih => exact move.settled ih

theorem reset_settled (graph : p.state.Consistent) (settled : p.health ≠ .backendDiscardRequired → p.state.Settled)
    (ns : ObjectNamespace) (usable : (p.reset ns).2.health ≠ .backendDiscardRequired) :
    (p.reset ns).2.state.Settled := by
  have here := Moves.consistent graph (reset_moves graph ns)
  rcases p.reset_cases ns with ⟨condemned, done⟩ | ⟨before, ⟨_, done⟩ | ⟨_, done⟩⟩
  · rw [done] at usable
    exact absurd condemned usable
  · rw [done]
    exact settled before
  rw [done] at here usable ⊢
  rcases concludeReset_cases ns (ResetPass.start p.beginReset).sweep with
    ⟨_, ended, empty⟩ | ⟨state, ended, _, _, made⟩ | ended
  · rw [ended] at here ⊢
    exact .of_empty here empty
  · rw [ended] at here ⊢
    exact .of_empty here (new_empty made)
  · rw [ended] at usable
    exact absurd rfl usable

theorem new_state {accelerator : Accelerator V} {config : WireConfig}
    (created : new accelerator config ns policy = .ok p) :
    ∃ limits, DeviceState.new ns limits policy = .ok p.state ∧ p.lastReset = none := by
  simp only [new, bind_eq_ok, mapError_eq_ok, pure_eq_ok] at created
  obtain ⟨_, _, info, _, _, _, limits, _, state, made, rfl⟩ := created
  exact ⟨info.limits, made, rfl⟩

theorem Reachable.settled (reach : Reachable p) (usable : p.health ≠ .backendDiscardRequired) :
    p.state.Settled := by
  induction reach with
  | new _ created =>
    obtain ⟨_, made, _⟩ := new_state created
    exact .of_empty (new_consistent made) (new_empty made)
  | @process q _ _ alloc regions request response before ih =>
    have moves := process_moves before.accounted.graph alloc regions request response
    exact Moves.settled (ih (fun condemned => usable ((Moves.kept moves).discard condemned))) moves
  | reset ns before ih => exact reset_settled before.accounted.graph ih ns usable

theorem Reachable.reports (reach : Reachable p) : p.ReportsDiscard := by
  induction reach with
  | new _ created =>
    obtain ⟨_, _, none⟩ := new_state created
    intro report kept
    rw [none] at kept
    cases kept
  | process alloc regions request response before ih =>
    exact (Moves.kept (process_moves before.accounted.graph alloc regions request response)).reports ih
  | reset ns before ih => exact (Moves.kept (reset_moves before.accounted.graph ns)).reports ih

/-- One call of the transport. -/
inductive Step (p : CommandProcessor V) : CommandProcessor V → Prop
  | process {σ : Type} [ByteSink σ] (alloc : Allocator) (regions : List ChainRegion) (request : ByteSource)
      (response : σ) : Step p (p.process alloc regions request response).2.1
  | reset (ns : ObjectNamespace) : Step p (p.reset ns).2

/-- A processor that does not run answers, at most, and stays as it is. -/
theorem process_halted [ByteSink σ] (halted : p.health ≠ .running) (alloc : Allocator) (regions : List ChainRegion)
    (request : ByteSource) (response : σ) : (p.process alloc regions request response).2.1 = p := by
  rcases p.process_cases alloc regions request response with
    ⟨_, _, _, done⟩ | ⟨_, _, _, _, _, done⟩ | ⟨_, _, _, done⟩ | ⟨decoded, _, _, ⟨_, done⟩ | ⟨running, _⟩⟩
  · rw [done]
  · rw [done]
  · rw [done]
  · rw [done]
    simp only [respond, completeResponse]
    split
    · rfl
    · simp
  · exact absurd running halted

/-- What a condemned processor can become. -/
inductive Condemned (p : CommandProcessor V) : CommandProcessor V → Prop
  | same : Condemned p p
  | reported : Condemned p { p with lastReset := some p.standingReport }

theorem Condemned.health (since : Condemned p p') : p'.health = p.health := by
  cases since with
  | same | reported => rfl

theorem Condemned.standing (since : Condemned p p') : p'.standingReport = p.standingReport := by
  cases since with
  | same | reported => rfl

theorem Condemned.step (condemned : p.health = .backendDiscardRequired) (since : Condemned p p')
    (step : Step p' p'') :
    Condemned p p'' := by
  have stays := since.health.trans condemned
  cases step with
  | process alloc regions request response =>
    rw [process_halted (by rw [stays]; decide)]
    exact since
  | reset ns =>
    rcases p'.reset_cases ns with ⟨_, done⟩ | ⟨usable, _⟩
    · rw [done, since.standing]
      cases since with
      | same | reported => exact .reported
    · exact absurd stays usable

theorem Condemned.run (condemned : p.health = .backendDiscardRequired) (later : Relation.ReflTransGen Step p p') :
    Condemned p p' := by
  induction later with
  | refl => exact .same
  | tail _ step ih => exact ih.step condemned step

/-- A sink that accepts every write within its length. -/
def Accepts [ByteSink σ] (sink : σ) : Prop :=
  ∀ offset data, offset.toNat + data.length ≤ (ByteSink.len sink).toNat →
    (ByteSink.writeAt sink offset data).1 = .ok ()

theorem respond_accepted [ByteSink σ] (accepts : Accepts sink)
    (limit : 16 ≤ p.decoder.limits.maxResponseBytes.toNat)
    (room : 16 ≤ (ByteSink.len sink).toNat) (requestId : UInt64) (status : StatusCode) (mutated : Bool) :
    (p.respond sink requestId (.empty status mutated)).1 = .ok (.response requestId status 16) := by
  have passed : preflight p.decoder.limits.maxResponseBytes (ByteSink.len sink) 0 = .ok 16 :=
    preflight_ok limit room
  have written : (ByteSink.writeAt sink 0 (ResponseHeader.codec.encode (ResponseHeader.new status 0 requestId))).1 =
      .ok () := by
    refine accepts _ _ ?_
    simpa using room
  have answered : (writeEmpty p.decoder.limits.maxResponseBytes sink status requestId).1 = .ok 16 := by
    simp only [writeEmpty, passed, writeHeader, written]
    rfl
  simp only [respond]
  generalize writeEmpty p.decoder.limits.maxResponseBytes sink status requestId = answer at answered
  rcases answer with ⟨_, after⟩
  cases answered
  rfl

theorem process_refuses [ByteSink σ] (halted : p.health ≠ .running) {alloc : Allocator} {regions : List ChainRegion}
    {request : ByteSource} {decoded : DecodedRequest}
    (ready : (preflightCommandFrame p.decoder alloc.decodedBindings regions request sink).1 = .ok (.ready decoded))
    (accepts : Accepts sink) :
    (p.process alloc regions request sink).1 = .ok (.response decoded.requestId .deviceLost 16) := by
  obtain ⟨sink', found⟩ : ∃ sink', preflightCommandFrame p.decoder alloc.decodedBindings regions request sink =
      (.ok (.ready decoded), sink') := ⟨_, Prod.ext ready rfl⟩
  obtain ⟨_, accepted, rfl⟩ := preflight_ready found
  obtain ⟨_, limit, room⟩ := FrameDecoder.decode_carries accepted
  simp only [process, found, if_pos halted]
  exact respond_accepted accepts (by omega) (by omega) decoded.requestId .deviceLost false

/-- A reset that starts over: it has released every object, the backend has
taken every handle back, and the namespace is another one. -/
structure Renewed (p : CommandProcessor V) (ns : ObjectNamespace) : Prop where
  fresh : ns ≠ p.state.objectNamespace
  installed : (p.reset ns).2.state.objectNamespace = ns
  report : ∃ report, (p.reset ns).1 = .ok report ∧ report.disposition = .backendReusable ∧
    ∀ kind, report.released.count kind = p.state.resourceCounts.count kind
  returned : ∀ kind, Exchange.outstanding (p.reset ns).2.accelerator.log kind = []

theorem Accounted.outstanding_empty (accounted : Accounted p) (usable : p.health ≠ .backendDiscardRequired)
    {kind : ObjectKind} (empty : (p.state.table kind).len = 0) :
    Exchange.outstanding p.accelerator.log kind = [] := by
  have counted := accounted.counts kind
  have quarantine : (p.quarantined.count kind).toNat = 0 := by
    rw [(accounted.clean usable).1]
    cases kind <;> rfl
  rw [(accounted.graph.empty_table empty).1, quarantine] at counted
  simpa [Exchange.total, Ledger.total] using counted

theorem reset_renewed (accounted : Accounted p) (halted : p.health ≠ .running)
    (running : (p.reset ns).2.health = .running) : Renewed p ns := by
  have after := accounted.moves (reset_moves accounted.graph ns)
  have usable : (p.reset ns).2.health ≠ .backendDiscardRequired := by
    rw [running]
    decide
  rcases p.reset_cases ns with ⟨_, done⟩ | ⟨_, ⟨_, done⟩ | ⟨fresh, done⟩⟩
  · rw [done] at running
    exact absurd running halted
  · rw [done] at running
    exact absurd running halted
  have follows := swept_follows accounted.graph
  rcases concludeReset_cases ns (ResetPass.start p.beginReset).sweep with
    ⟨_, ended, _⟩ | ⟨state, ended, _, empty, made⟩ | ended
  · rw [done, ended] at running
    exact absurd (follows.health.symm.trans running) (by simp [beginReset])
  · have whole := done.trans ended
    have none : ∀ kind, ((p.reset ns).2.state.table kind).len = 0 := by
      rw [whole]
      exact new_empty made
    refine ⟨fresh, by rw [whole]; exact new_namespace made, ⟨_, by rw [whole], rfl, fun kind => ?_⟩,
      fun kind => after.outstanding_empty usable (none kind)⟩
    have counted := follows.counts kind
    have here := Moves.consistent (p := p.beginReset) accounted.graph follows.moves
    rw [(here.empty_table (empty kind)).1, Nat.add_zero] at counted
    rw [← UInt64.toNat_inj, count_resourceCounts accounted.graph]
    exact counted
  · rw [done, ended] at running
    cases running

/-- Once the backend is condemned nothing reaches it or the object state any
more, and guest and transport are told so; until then nothing is quarantined or
half released; and only a complete reset into another namespace lets a stopped
processor run again. -/
theorem Reachable.health_gate (reach : Reachable p) :
    (p.health = .backendDiscardRequired → ∃ report : ResetReport, report.disposition = .backendDiscardRequired ∧
      ∀ p', Relation.ReflTransGen Step p p' → p'.health = .backendDiscardRequired ∧
        p'.accelerator.log = p.accelerator.log ∧ p'.state = p.state ∧ (∀ ns, (p'.reset ns).1 = .ok report) ∧
        ∀ {σ : Type} [ByteSink σ] (alloc : Allocator) (regions : List ChainRegion) (request : ByteSource) (sink : σ)
          (decoded : DecodedRequest),
          (preflightCommandFrame p'.decoder alloc.decodedBindings regions request sink).1 = .ok (.ready decoded) →
          Accepts sink →
          (p'.process alloc regions request sink).1 = .ok (.response decoded.requestId .deviceLost 16)) ∧
    (p.health ≠ .backendDiscardRequired → p.quarantined = .zero ∧ p.quarantinedBytes = .zero ∧ p.state.Settled) ∧
    ∀ p', Step p p' → p.health ≠ .running → p'.health = .running → ∃ ns, p' = (p.reset ns).2 ∧ Renewed p ns := by
  refine ⟨fun condemned => ⟨p.standingReport, reach.reports.standing, fun p' later => ?_⟩, fun usable => ?_, ?_⟩
  · have since := Condemned.run condemned later
    have stays := since.health.trans condemned
    refine ⟨stays, ?_, ?_, fun ns => ?_, fun alloc regions request sink decoded ready accepts => ?_⟩
    · cases since <;> rfl
    · cases since <;> rfl
    · rcases p'.reset_cases ns with ⟨_, done⟩ | ⟨usable, _⟩
      · rw [done, since.standing]
      · exact absurd stays usable
    · exact process_refuses (by rw [stays]; decide) ready accepts
  · obtain ⟨counts, bytes⟩ := reach.accounted.clean usable
    exact ⟨counts, bytes, reach.settled usable⟩
  · intro p' step halted running
    cases step with
    | process alloc regions request response =>
      rw [process_halted halted] at running
      exact absurd running halted
    | reset ns => exact ⟨ns, rfl, reset_renewed reach.accounted halted running⟩

/-- A backend that is lost when the first context is created. -/
def lostAtOnce : Accelerator (fun _ => Unit) where
  deviceInfo := .ok sampleInfo
  behaviour log call := match call with
    | .createContext _ => (.error .deviceLost : Except BackendError Unit)
    | call => (agreeable sampleInfo).behaviour log call
  log := []

/-- A backend lost at its first call is condemned for good. -/
theorem Reachable.health_gate_lost : ∃ start lost report, fresh lostAtOnce = .ok start ∧
    lost = start.serve .createContext (CreateContextRequest.codec.encode ⟨0, 0⟩) 24 ∧
    lost.health = .backendDiscardRequired ∧ ∀ ns, (lost.reset ns).1 = .ok report := by
  have lost : ∃ start : CommandProcessor (fun _ => Unit), fresh lostAtOnce = .ok start ∧
      (start.serve .createContext (CreateContextRequest.codec.encode ⟨0, 0⟩) 24).health = .backendDiscardRequired :=
    ⟨_, rfl, by decide +kernel⟩
  obtain ⟨start, made, condemned⟩ := lost
  obtain ⟨report, _, since⟩ := (Reachable.health_gate ((Reachable.of_fresh _ rfl made).served .createContext
    (CreateContextRequest.codec.encode ⟨0, 0⟩) 24)).1 condemned
  exact ⟨start, _, report, made, rfl, condemned, (since _ .refl).2.2.2.1⟩

end CommandProcessor

end VirtioAccel
