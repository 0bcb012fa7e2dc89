import VirtioAccel.Device.EngineResetRuns

/-! What holds over whole runs of the engine: provider handles and bytes are
conserved, and every backend call is one its contract allows. -/

namespace VirtioAccel
open List Exchange
variable {V : Handles}

namespace Exchange

/-- How many handles of a kind the backend has returned. -/
def returned (log : List (Exchange V)) (kind : ObjectKind) : Nat := Ledger.grantCount grants log kind

/-- How many releases of a kind the backend has answered with success. -/
def takenBack (log : List (Exchange V)) (kind : ObjectKind) : Nat := Ledger.grantCount settles log kind

/-- The bytes of the handles of a kind that were returned and not taken back. -/
def outstandingBytes (log : List (Exchange V)) (kind : ObjectKind) : Nat :=
  ((outstanding log kind).map (weight log)).sum

end Exchange

namespace CommandProcessor
variable {p : CommandProcessor V}

/-- The processors of all runs: any backend, any frames into any sinks, any resets. -/
inductive Reachable : CommandProcessor V → Prop
  | new {accelerator : Accelerator V} {config : WireConfig} {ns : ObjectNamespace} {policy : ResourcePolicy}
      {p : CommandProcessor V} : accelerator.log = [] → new accelerator config ns policy = .ok p →
      Reachable p
  | process {p : CommandProcessor V} {σ : Type} [ByteSink σ] (alloc : Allocator) (regions : List ChainRegion)
      (request : ByteSource) (response : σ) : Reachable p → Reachable (p.process alloc regions request response).2.1
  | reset {p : CommandProcessor V} (ns : ObjectNamespace) : Reachable p → Reachable (p.reset ns).2

theorem Reachable.accounted (reach : Reachable p) : Accounted p := by
  induction reach with
  | new unused created => exact .of_new unused created
  | process alloc regions request response _ ih =>
    exact ih.moves (process_moves ih.graph alloc regions request response)
  | reset ns _ ih => exact ih.moves (reset_moves ih.graph ns)

theorem Accounted.returned (accounted : Accounted p) (kind : ObjectKind) :
    returned p.accelerator.log kind =
      takenBack p.accelerator.log kind + total (fun _ => 1) p.accelerator.log kind :=
  accounted.sound.balance kind

theorem Accounted.retainedBytes (accounted : Accounted p) (kind : ObjectKind) :
    outstandingBytes p.accelerator.log kind = p.retainedBytes.amount kind := by
  have weighed := accounted.bytes kind
  have small := accounted.graph.retained_lt kind
  have bounded := (accounted.bounded kind).2
  rw [CommandProcessor.retainedBytes, RetainedBytes.amount_saturatingAdd (by omega), ← weighed]
  rfl

/-- Whatever the guest sends and however the backend answers, every handle the
backend returned and has not taken back is in the state or in quarantine, with
its bytes, and a reset reports all of them. -/
theorem Reachable.conservation (reach : Reachable p) (kind : ObjectKind) :
    returned p.accelerator.log kind = takenBack p.accelerator.log kind +
        ((p.state.resourceCounts.count kind).toNat + (p.quarantined.count kind).toNat) ∧
      outstandingBytes p.accelerator.log kind = p.retainedBytes.amount kind ∧
      ∀ (ns : ObjectNamespace) (report : ResetReport), p.health ≠ .backendDiscardRequired →
        (p.reset ns).1 = .ok report →
        returned p.accelerator.log kind = takenBack p.accelerator.log kind +
            ((report.released.count kind).toNat + (report.quarantined.count kind).toNat) ∧
          outstandingBytes p.accelerator.log kind =
            report.releasedBytes.amount kind + report.quarantinedBytes.amount kind := by
  have accounted := reach.accounted
  refine ⟨?_, accounted.retainedBytes kind, fun ns report usable reported => ?_⟩
  · rw [accounted.returned, accounted.counts, DeviceState.count_resourceCounts accounted.graph]
  obtain ⟨counts, bytes⟩ := accounted.reset_report usable reported kind
  rw [accounted.returned, counts]
  exact ⟨rfl, bytes.symm⟩

theorem Move.log_cases {resetting : Bool} {p p' : CommandProcessor V} (move : Move resetting p p') :
    p'.info = p.info ∧ (p'.accelerator.log = p.accelerator.log ∨
      ∃ e, p'.accelerator.log = p.accelerator.log ++ [e] ∧ Permitted resetting p e) := by
  cases move with
  | rest kept log | renew _ kept log => exact ⟨kept.info, .inl log⟩
  | ask calls | gain calls | refit calls | settle calls | forfeit calls | strand _ calls =>
    exact ⟨calls.info, .inr ⟨_, calls.log, calls.toPermitted⟩⟩

/-- The log only grows, and each new call meets its contract in the state in
which it was decided on, after the calls before it. -/
structure Respects (resetting : Bool) (p p' : CommandProcessor V) : Prop where
  grows : p.accelerator.log <+: p'.accelerator.log
  contract : ∀ (n : Nat) (e : Exchange V), p.accelerator.log.length ≤ n → p'.accelerator.log[n]? = some e →
    e.call.Contract resetting p.info.limits (p'.accelerator.log.take n) e.state

theorem Moves.respects {resetting : Bool} {p p' : CommandProcessor V} (moves : Moves resetting p p') :
    p'.info = p.info ∧ Respects resetting p p' := by
  induction moves with
  | refl =>
    refine ⟨rfl, prefix_rfl, fun n e new present => ?_⟩
    rw [getElem?_eq_none new] at present
    cases present
  | @tail middle last _ move ih =>
    obtain ⟨info, grows, contract⟩ := ih
    obtain ⟨same, quiet | ⟨asked, called, permitted⟩⟩ := move.log_cases
    · exact ⟨same.trans info, by rw [quiet]; exact grows, by rw [quiet]; exact contract⟩
    refine ⟨same.trans info, by rw [called]; exact grows.trans (prefix_append _ _), fun n e new present => ?_⟩
    rw [called] at present ⊢
    by_cases old : n < middle.accelerator.log.length
    · rw [getElem?_append_left old] at present
      rw [take_append_of_le_length (Nat.le_of_lt old)]
      exact contract n e new present
    -- The only new entry is the last one, and all the others are its past.
    have last : n = middle.accelerator.log.length := by
      have inside := (List.getElem?_eq_some_iff.mp present).1
      rw [length_append, length_singleton] at inside
      omega
    subst last
    rw [getElem?_concat_length] at present
    cases present
    rw [take_left, permitted.state, ← info]
    exact permitted.contract

/-- Whatever the guest sends, no command and no reset makes a backend call
outside its contract. -/
theorem Reachable.calls_contracted (reach : Reachable p) :
    (∀ {σ : Type} [ByteSink σ] (alloc : Allocator) (regions : List ChainRegion) (request : ByteSource)
      (response : σ),
      Respects false p (p.process alloc regions request response).2.1) ∧
    ∀ ns : ObjectNamespace, Respects true p (p.reset ns).2 := by
  have graph := reach.accounted.graph
  refine ⟨fun alloc regions request response => ?_, fun ns => ?_⟩
  · exact (Moves.respects (process_moves graph alloc regions request response)).2
  · exact (Moves.respects (reset_moves graph ns)).2

/-- A backend that agrees to everything. -/
def agreeable (info : DeviceInfo) : Accelerator (fun _ => Unit) where
  deviceInfo := .ok info
  behaviour _ call := match call with
    | .createContext _ => (Except.ok () : Except BackendError Unit)
    | .allocateBuffer _ desc =>
      (if checked : BufferInfo.check desc desc.bytes desc.alignment BufferProperties.all = .ok () then
        .ok ((), ⟨desc, desc.bytes, desc.alignment, BufferProperties.all, checked⟩)
      else .error .incompatible : Except BackendError (Unit × BufferInfo))
    | .loadProgram _ _ => (Except.ok () : Except BackendError Unit)
    | .createQueue _ _ => (Except.ok () : Except BackendError Unit)
    | .submit _ _ _ _ => (Except.ok () : Except (SubmitFailure Unit) Unit)
    | .pollEvent _ => (Except.ok .complete : Except BackendError EventState)
    | .cancelEvent _ => (Except.ok () : Except BackendError Unit)
    | .writeBuffer _ _ _ => ((Except.ok (), ()) : Except BackendError Unit × Unit)
    | .readBuffer _ _ bytes => Transfer.write 0 (replicate bytes.toNat 0) .finish
    | .release _ _ => (Except.ok () : Except (ReleaseFailure Unit) Unit)
  log := []

def sampleInfo : DeviceInfo where
  identity := ⟨Vector.replicate 16 0, 1, 0, 0⟩
  capabilities := Capabilities.hostVisibleMemory
  limits := DeviceState.smallLimits

def sampleConfig : WireConfig := ⟨1, 0, 1, 16, 4096, 4096⟩

/-- A fresh processor over a backend. -/
def fresh (accelerator : Accelerator (fun _ => Unit)) :
    Except CommandProcessorInitError (CommandProcessor (fun _ => Unit)) :=
  new accelerator sampleConfig ⟨1, by decide⟩ ⟨16, 16, by decide⟩

theorem Reachable.of_fresh (accelerator : Accelerator (fun _ => Unit)) (unused : accelerator.log = [])
    {p : CommandProcessor (fun _ => Unit)} (made : fresh accelerator = .ok p) : Reachable p :=
  .new unused made

def roomy : Allocator := ⟨true, true, true, true⟩

/-- One command as a chain of one readable and one writable segment. -/
def serve (p : CommandProcessor (fun _ => Unit)) (opcode : KnownOpcode) (payload : List UInt8)
    (capacity : Fin 4096) :
    CommandProcessor (fun _ => Unit) :=
  let frame := RequestHeader.codec.encode (RequestHeader.new opcode (UInt32.ofNat payload.length) 1) ++ payload
  (p.process roomy [⟨.deviceReadable, UInt64.ofNat frame.length⟩, ⟨.deviceWritable, UInt64.ofNat capacity⟩]
    (.slice frame) (⟨replicate capacity 0, by simp; omega⟩ : SliceSink)).2.1

theorem Reachable.served {p : CommandProcessor (fun _ => Unit)} (reach : Reachable p) (opcode : KnownOpcode)
    (payload : List UInt8) (capacity : Fin 4096) : Reachable (p.serve opcode payload capacity) :=
  .process _ _ _ _ reach

/-- A context with a buffer of eight bytes. -/
def withBuffer (start : CommandProcessor (fun _ => Unit)) : CommandProcessor (fun _ => Unit) :=
  (start.serve .createContext (CreateContextRequest.codec.encode ⟨0, 0⟩) 24).serve .allocateBuffer
    (AllocateBufferRequest.codec.encode ⟨(ObjectId.new 0 1 0 .context).raw, 8, 1, 1, Vector.replicate 7 0, 3, 0⟩) 24

theorem Reachable.withBuffer {start : CommandProcessor (fun _ => Unit)} (reach : Reachable start) :
    Reachable start.withBuffer :=
  (reach.served _ _ _).served _ _ _

/-- A buffer of eight bytes, accounted for before and after a reset. -/
theorem Reachable.conservation_buffer : ∃ start report, fresh (agreeable sampleInfo) = .ok start ∧
    start.withBuffer.retainedBytes.amount .buffer = 8 ∧
    (start.withBuffer.reset ⟨2, by decide⟩).1 = .ok report ∧
    returned start.withBuffer.accelerator.log .buffer =
      takenBack start.withBuffer.accelerator.log .buffer +
        ((start.withBuffer.state.resourceCounts.count .buffer).toNat +
          (start.withBuffer.quarantined.count .buffer).toNat) ∧
    outstandingBytes start.withBuffer.accelerator.log .buffer =
      report.releasedBytes.amount .buffer + report.quarantinedBytes.amount .buffer := by
  refine ⟨_, ⟨.backendReusable, ⟨1, 1, 0, 0, 0⟩, .zero, ⟨8, 0⟩, .zero⟩, rfl, by decide +kernel, by
    decide +kernel, ?_⟩
  have conserved := Reachable.conservation (Reachable.of_fresh (agreeable sampleInfo) rfl rfl).withBuffer .buffer
  exact ⟨conserved.1, (conserved.2.2 ⟨2, by decide⟩ _ (by decide +kernel) (by decide +kernel)).2⟩

/-- Freeing the buffer is one call to the backend. -/
theorem Reachable.calls_contracted_free : ∃ start freed, fresh (agreeable sampleInfo) = .ok start ∧
    freed = start.withBuffer.serve .freeBuffer (ObjectPayload.codec.encode ⟨(ObjectId.new 0 1 0 .buffer).raw⟩) 16 ∧
    freed.accelerator.log.length = start.withBuffer.accelerator.log.length + 1 ∧
    Respects false start.withBuffer freed := by
  refine ⟨_, _, rfl, rfl, by decide +kernel, ?_⟩
  exact (Reachable.calls_contracted (Reachable.of_fresh (agreeable sampleInfo) rfl rfl).withBuffer).1 _ _ _ _

end CommandProcessor

end VirtioAccel
