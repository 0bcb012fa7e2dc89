import VirtioAccel.Device.StateSteps

namespace VirtioAccel
open Checked ObjectTable DeviceState
variable {A : Handles} {ω ε : Type}

namespace DeviceState
variable {operation : Operation A ω ε} {ns : ObjectNamespace} {policy : ResourcePolicy} {limits : DeviceLimits}
  {kind : ObjectKind} {id : ObjectId} {w : ω}

/-- Every change a public operation can make. -/
inductive Change (s s' : DeviceState A) : Prop
  | view : SameView s s' → Change s s'
  | reslot {kind id record slot} : Reslots s s' kind id record slot → Change s s'
  | open {id context} : Opens s s' id context → Change s s'
  | adopt {kind id record contextId context} : Adopts s s' kind id record contextId context → Change s s'
  | retire {kind id record} : Retires s s' kind id record → Change s s'

variable {s s' : DeviceState A}

section
variable (graph : s.Consistent)
include graph

theorem Consistent.change (change : Change s s') : s'.Consistent := by
  cases change with
  | view same => exact graph.sameView same
  | reslot reslots => exact graph.reslot reslots
  | «open» opens => exact graph.open opens
  | adopt adopts => exact graph.adopt adopts
  | retire retires => exact graph.retire retires

theorem Consistent.unchanged : Change s s := .view (.refl graph.tables)

theorem Effect.change (effect : Effect s w operation s') : Change s s' := by
  cases effect with
  | refused => exact graph.unchanged
  | context _ _ _ opens => exact .open opens
  | buffer _ _ _ adopts | program _ _ _ _ adopts | queue _ _ _ adopts | event _ _ _ _ adopts
  | sequence _ _ _ _ _ adopts => exact .adopt adopts
  | begun _ _ _ reslots | restored _ _ reslots | written _ reslots => exact .reslot reslots
  | committed _ retires => exact .retire retires

theorem step_change (w : ω) (operation : Operation A ω ε) : Change s (step (s, w) operation).1 :=
  (step_effect graph w operation).change graph

end

theorem run_consistent {start : DeviceState A × ω} (graph : start.1.Consistent)
    (operations : List (Operation A ω ε)) : (run start operations).1.Consistent := by
  induction operations generalizing start with
  | nil => exact graph
  | cons operation rest ih => exact ih (graph.change (step_change graph start.2 operation))

theorem Consistent.of_empty (wf : ∀ kind, (s.table kind).WellFormed)
    (empty : ∀ kind id, (s.table kind).lookup id = none) (retained : s.retained = ⟨0, 0⟩) : s.Consistent := by
  have contexts : ∀ id, s.contexts.lookup id = none := empty .context
  have events : ∀ id, s.events.lookup id = none := empty .event
  refine ⟨wf, by simp [contexts], by simp [empty], by simp [empty], by simp [events], by simp [empty], ?_⟩
  intro kind
  rw [retained, total_eq_zero (wf kind) (by simp [empty])]
  cases kind <;> rfl

theorem Consistent.empty_table (graph : s.Consistent) (len : (s.table kind).len = 0) :
    (s.table kind).total (fun _ => 1) = 0 ∧ s.retained.amount kind = 0 ∧ ∀ id, (s.table kind).lookup id = none := by
  have zero : (s.table kind).total (fun _ => 1) = 0 := by
    rw [← len_eq_total (graph.tables kind), len, UInt32.toNat_zero]
  have gone : ∀ id, (s.table kind).lookup id = none := by
    intro id
    cases found : (s.table kind).lookup id with
    | none => rfl
    | some record =>
      have one := weight_le_total (graph.tables kind) (fun _ => 1) found
      omega
  refine ⟨zero, ?_, gone⟩
  rw [graph.retained, total_eq_zero (graph.tables kind)]
  simp [gone]

theorem new_consistent (created : new ns limits policy = .ok s) : s.Consistent := by
  simp only [new, bind_eq_ok, pure_eq_ok] at created
  obtain ⟨_, _, _, _, _, _, buffers, _, programs, _, queues, _, events, _, rfl⟩ := created
  have wf : ∀ (T : Type) (kind : ObjectKind) (slots : UInt32),
      (withNamespace kind slots ns : ObjectTable T).WellFormed :=
    fun T kind slots => withNamespace_wellFormed kind slots ns
  have empty : ∀ (T : Type) (kind : ObjectKind) (slots : UInt32) (id : ObjectId),
      (withNamespace kind slots ns : ObjectTable T).lookup id = none := by
    intro T kind slots id
    cases found : (withNamespace kind slots ns : ObjectTable T).lookup id with
    | none => rfl
    | some value =>
      obtain ⟨index, slot, atSlot, _⟩ := (lookup_eq_some_iff (wf T kind slots)).mp found
      simp [withNamespace] at atSlot
  refine Consistent.of_empty (fun kind => ?_) (fun kind id => ?_) rfl
  · cases kind <;> exact wf _ _ _
  · cases kind <;> exact empty _ _ _ id

theorem new_empty (created : new ns limits policy = .ok s) (kind : ObjectKind) : (s.table kind).len = 0 := by
  simp only [new, bind_eq_ok, pure_eq_ok] at created
  obtain ⟨_, _, _, _, _, _, buffers, _, programs, _, queues, _, events, _, rfl⟩ := created
  cases kind <;> rfl

/-- The ownership graph as the five tables show it. -/
structure OwnershipExact (s : DeviceState A) : Prop where
  children : ∀ id context, s.contexts.lookup id = some context →
    context.children.buffers.toNat = s.buffers.records.countP (fun buffer => buffer.contextId = id) ∧
    context.children.programs.toNat = s.programs.records.countP (fun program => program.contextId = id) ∧
    context.children.queues.toNat = s.queues.records.countP (fun queue => queue.contextId = id) ∧
    context.children.events.toNat = s.events.records.countP (fun event => event.contextId = id)
  queue_in_flight : ∀ id queue, s.queues.lookup id = some queue →
    queue.inFlight.toNat = s.events.records.countP (fun event => event.queueId = id)
  program_in_flight : ∀ id program, s.programs.lookup id = some program →
    program.inFlight.toNat = (s.events.records.map (fun event => event.programIds.count id)).sum
  buffer_in_flight : ∀ id buffer, s.buffers.lookup id = some buffer →
    buffer.inFlight.toNat = (s.events.records.map (fun event => event.bufferIds.count id)).sum
  buffer_context : ∀ id buffer, s.buffers.lookup id = some buffer →
    ∃ context, s.contexts.lookup buffer.contextId = some context ∧ context.resource.release = .live
  program_context : ∀ id program, s.programs.lookup id = some program →
    ∃ context, s.contexts.lookup program.contextId = some context ∧ context.resource.release = .live
  queue_context : ∀ id queue, s.queues.lookup id = some queue →
    ∃ context, s.contexts.lookup queue.contextId = some context ∧ context.resource.release = .live
  event_context : ∀ id event, s.events.lookup id = some event →
    ∃ context, s.contexts.lookup event.contextId = some context ∧ context.resource.release = .live
  event_queue : ∀ id event, s.events.lookup id = some event →
    ∃ queue, s.queues.lookup event.queueId = some queue ∧ queue.contextId = event.contextId ∧
      queue.resource.release = .live
  event_programs : ∀ id event, s.events.lookup id = some event → ∀ programId ∈ event.programIds,
    ∃ program, s.programs.lookup programId = some program ∧ program.contextId = event.contextId ∧
      program.resource.release = .live
  event_buffers : ∀ id event, s.events.lookup id = some event → ∀ bufferId ∈ event.bufferIds,
    ∃ buffer, s.buffers.lookup bufferId = some buffer ∧ buffer.contextId = event.contextId ∧
      buffer.resource.release = .live
  buffer_backing : s.retained.bufferBacking =
    (s.buffers.records.map (fun buffer => buffer.info.allocationBytes.toNat)).sum
  program_resident : s.retained.programResident =
    (s.programs.records.map (fun program => program.residentBytes.toNat)).sum

theorem Consistent.root_live (graph : s.Consistent) (kind : ObjectKind) {contextId : ObjectId}
    {record : Record A kind}
    (present : (s.table kind).lookup id = some record) (owner : record.owner = some contextId) :
    ∃ context, s.contexts.lookup contextId = some context ∧ context.resource.release = .live := by
  obtain ⟨context, root⟩ := graph.owner_resolves kind present owner
  refine ⟨context, root, ?_⟩
  cases state : context.resource.release with
  | live => rfl
  | releasing => exact absurd owner (graph.childless root state kind present)

/-- What the invariant says of the graph is that its counts are exact. -/
theorem Consistent.exact (graph : s.Consistent) : s.OwnershipExact where
  children id context present := by
    have buffers := graph.owned .buffer id context present
    have programs := graph.owned .program id context present
    have queues := graph.owned .queue id context present
    have events := graph.owned .event id context present
    simp only [total, Record.owner, Option.some.injEq,
      SlotSums.sum_map_ite_eq_countP] at buffers programs queues events
    exact ⟨buffers, programs, queues, events⟩
  queue_in_flight id queue present := by
    have counted := graph.flight .queue present
    have once : ∀ event : EventRecord A, (event.references .queue).count id = if event.queueId = id then 1
        else 0 := by
      intro event
      by_cases same : event.queueId = id <;> simp [EventRecord.references, same]
    simp only [once, total, SlotSums.sum_map_ite_eq_countP] at counted
    exact counted
  program_in_flight id program present := graph.flight .program present
  buffer_in_flight id buffer present := graph.flight .buffer present
  buffer_context id buffer present := graph.root_live .buffer present rfl
  program_context id program present := graph.root_live .program present rfl
  queue_context id queue present := graph.root_live .queue present rfl
  event_context id event present := graph.root_live .event present rfl
  event_queue id event present := by
    obtain ⟨queue, stored, owner, live⟩ := graph.submittable present .queue event.queueId
      (by simp [EventRecord.references])
    exact ⟨queue, stored, Option.some.inj owner, live⟩
  event_programs id event present programId member := by
    obtain ⟨program, stored, owner, live⟩ := graph.submittable present .program programId member
    exact ⟨program, stored, Option.some.inj owner, live⟩
  event_buffers id event present bufferId member := by
    obtain ⟨buffer, stored, owner, live⟩ := graph.submittable present .buffer bufferId member
    exact ⟨buffer, stored, Option.some.inj owner, live⟩
  buffer_backing := graph.retained .buffer
  program_resident := graph.retained .program

/-- Whatever is asked of a state, in whatever order and however the provider
answers, its ownership graph stays exact. -/
theorem run_ownershipExact (ns : ObjectNamespace) (limits : DeviceLimits) (policy : ResourcePolicy)
    {start : DeviceState A} (created : new ns limits policy = .ok start) (w : ω)
    (operations : List (Operation A ω ε)) : (run (start, w) operations).1.OwnershipExact :=
  (run_consistent (new_consistent created) operations).exact

theorem eight_nonzero : (8 : UInt64) ≠ 0 := by decide

theorem one_aligned : isPowerOfTwo (1 : UInt64) = true := by decide

/-- One object of each kind, the event binding its buffer twice. -/
def submissionRun : List (Operation (fun _ => Unit) Unit Unit) :=
  let id (kind : ObjectKind) := ObjectId.new 0 1 0 kind
  [.createContext true (fun _ => (.ok (), ())),
    .createBuffer true (id .context) ⟨8, 1, .host, BufferUsage.all, eight_nonzero, one_aligned⟩
      (fun _ desc _ => (if checked : BufferInfo.check desc 8 1 BufferProperties.all = .ok () then
        .ok ((), ⟨desc, 8, 1, BufferProperties.all, checked⟩) else .error (), ())),
    .createProgram true (id .context) 4 4 (fun _ _ => (.ok (), ())),
    .createQueue true (id .context) (fun _ _ => (.ok (), ())),
    .createEvent true (id .queue) (id .program) [id .buffer, id .buffer] (fun _ _ => (.ok (), ()))]

def smallLimits : DeviceLimits := ⟨1, 1, 1, 1, 1, 2, 16, 16⟩

/-- A submission that names one buffer twice counts it twice. -/
theorem run_ownershipExact_submission : ∃ start : DeviceState (fun _ => Unit),
    new ⟨1, by decide⟩ smallLimits ⟨16, 16, by decide⟩ = .ok start ∧
      (run (start, ()) submissionRun).1.buffers.records.map BufferRecord.inFlight = [2] ∧
      (run (start, ()) submissionRun).1.OwnershipExact :=
  ⟨_, rfl, by decide +kernel,
    run_ownershipExact ⟨1, by decide⟩ smallLimits ⟨16, 16, by decide⟩ rfl () submissionRun⟩

/-! Errors -/

/-- A failed restore gives the handle back. -/
theorem restoreRelease_returns (wf : ∀ kind, (s.table kind).WellFormed) {handle : A kind}
    {error : RestoreError (A kind)} (failed : (s.restoreRelease kind id handle).1 = .error error) :
    error.resource = handle := by
  rcases restoreRelease_cases wf kind id handle with ⟨_, _, done, _⟩ | ⟨_, _, done, _⟩
  · rw [done] at failed
    cases failed
    rfl
  · rw [done] at failed
    cases failed

theorem step_failed (graph : s.Consistent) (failed : operation.Fails s w) : (step (s, w) operation).1 = s := by
  have effect := step_effect graph w operation
  generalize (step (s, w) operation).1 = s' at effect
  cases effect with
  | refused => rfl
  | context _ _ done | buffer _ _ done | program _ _ _ done | queue _ _ done | event _ _ done | sequence _ _ _ done
  | begun _ _ done | restored _ done | committed done =>
    obtain ⟨error, failed⟩ := failed
    exact nomatch done.symm.trans failed
  | @written _ _ _ record _ held reslots =>
    obtain ⟨error, failed⟩ := failed
    have found := bufferRecord_eq_ok.mpr reslots.table.lookup_before
    rw [found] at failed
    exact nomatch (ResourceSlot.get_eq_ok.mpr held).symm.trans failed

/-- Whatever a run has done before: an operation that returns an error leaves the
whole state as it was, with the identifiers the next insertions will give, and a
restore that fails gives the very handle back. -/
theorem run_atomic (ns : ObjectNamespace) (limits : DeviceLimits) (policy : ResourcePolicy) {start : DeviceState A}
    (created : new ns limits policy = .ok start) (w : ω) (operations : List (Operation A ω ε)) :
    (∀ operation : Operation A ω ε, operation.Fails (run (start, w) operations).1 (run (start, w) operations).2 →
      (step (run (start, w) operations) operation).1 = (run (start, w) operations).1) ∧
    ∀ kind id (handle : A kind) error,
      ((run (start, w) operations).1.restoreRelease kind id handle).1 = .error error → error.resource = handle := by
  have graph : (run (start, w) operations).1.Consistent := run_consistent (new_consistent created) operations
  exact ⟨fun operation failed => step_failed graph failed,
    fun kind id handle error failed => restoreRelease_returns graph.tables failed⟩

/-- The submission of `submissionRun`, which names its buffer twice, refused by the provider. -/
def refusedSubmission : Operation (fun _ => Unit) Unit Unit :=
  .createEvent true (ObjectId.new 0 1 0 .queue) (ObjectId.new 0 1 0 .program)
    [ObjectId.new 0 1 0 .buffer, ObjectId.new 0 1 0 .buffer] (fun _ _ => (.error (), ()))

/-- A submission that the provider refuses. -/
theorem run_atomic_refused : ∃ start : DeviceState (fun _ => Unit),
    new ⟨1, by decide⟩ smallLimits ⟨16, 16, by decide⟩ = .ok start ∧
      refusedSubmission.Fails
      (run (start, ()) (submissionRun.take 4)).1 (run (start, ()) (submissionRun.take 4)).2 ∧
      (step (run (start, ()) (submissionRun.take 4)) refusedSubmission).1 =
      (run (start, ()) (submissionRun.take 4)).1 := by
  have prepared : ∃ start : DeviceState (fun _ => Unit),
      new ⟨1, by decide⟩ smallLimits ⟨16, 16, by decide⟩ = .ok start ∧
      ((run (start, ()) (submissionRun.take 4)).1.createEventWith true (ObjectId.new 0 1 0 .queue)
        (ObjectId.new 0 1 0 .program) [ObjectId.new 0 1 0 .buffer, ObjectId.new 0 1 0 .buffer]
        (fun _ _ => ((.error () : Except Unit Unit), ())) ()).1.isOk = false :=
    ⟨_, rfl, by decide +kernel⟩
  obtain ⟨start, created, refused⟩ := prepared
  have failed : refusedSubmission.Fails (run (start, ()) (submissionRun.take 4)).1
      (run (start, ()) (submissionRun.take 4)).2 := by
    change ∃ error, (createEventWith _ _ _ _ _ _ ()).1 = .error error
    generalize (createEventWith _ _ _ _ _ _ ()).1 = result at refused ⊢
    cases result with
    | error error => exact ⟨error, rfl⟩
    | ok => cases refused
  exact ⟨start, created, failed,
    (run_atomic ⟨1, by decide⟩ smallLimits ⟨16, 16, by decide⟩ created () (submissionRun.take 4)).1 _ failed⟩

end DeviceState

end VirtioAccel
