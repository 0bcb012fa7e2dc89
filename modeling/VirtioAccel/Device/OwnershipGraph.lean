import VirtioAccel.Library.Counters
import VirtioAccel.Device.StateEvents
import VirtioAccel.Device.ObjectTableTotals

namespace VirtioAccel
variable {A : Handles}
variable {counts : ChildCounts}

namespace Record
variable {kind : ObjectKind}

/-- Rewrite the in-flight count of the kinds that have one. -/
def adjust (f : UInt32 → UInt32) : {kind : ObjectKind} → Record A kind → Record A kind
  | .context, record => record
  | .buffer, record =>
    ({ (record : BufferRecord A) with inFlight := f (BufferRecord.inFlight record) } : BufferRecord A)
  | .program, record =>
    ({ (record : ProgramRecord A) with inFlight := f (ProgramRecord.inFlight record) } : ProgramRecord A)
  | .queue, record =>
    ({ (record : QueueRecord A) with inFlight := f (QueueRecord.inFlight record) } : QueueRecord A)
  | .event, record => record

/-- What a record keeps in flight: events do, the other kinds do not. -/
def references : {kind : ObjectKind} → Record A kind → ObjectKind → List ObjectId
  | .event, record, other => EventRecord.references record other
  | .context, _, _ | .buffer, _, _ | .program, _, _ | .queue, _, _ => []

section
variable (record : Record A kind)
include record

@[simp] theorem resource_setResource (slot : ResourceSlot (A kind)) :
    (record.setResource slot).resource = slot := by cases kind <;> rfl

@[simp] theorem setResource_resource : record.setResource record.resource = record := by
  cases kind <;> rfl

@[simp] theorem setResource_setResource (first second : ResourceSlot (A kind)) :
    (record.setResource first).setResource second = record.setResource second := by cases kind <;> rfl

section
variable (slot : ResourceSlot (A kind))
include slot

@[simp] theorem owner_setResource :
    (record.setResource slot).owner = record.owner := by cases kind <;> rfl

@[simp] theorem inFlight_setResource :
    (record.setResource slot).inFlight = record.inFlight := by cases kind <;> rfl

@[simp] theorem busy_setResource :
    (record.setResource slot).busy = record.busy := by cases kind <;> rfl

@[simp] theorem charge_setResource :
    (record.setResource slot).charge = record.charge := by cases kind <;> rfl

end

@[simp] theorem resource_adjust (f : UInt32 → UInt32) :
    (record.adjust f).resource = record.resource := by cases kind <;> rfl

@[simp] theorem owner_adjust (f : UInt32 → UInt32) : (record.adjust f).owner = record.owner := by cases kind <;> rfl

@[simp] theorem charge_adjust (f : UInt32 → UInt32) : (record.adjust f).charge = record.charge := by
  cases kind <;> rfl

/-- No record refers to records of its own kind. -/
theorem references_self : record.references kind = [] := by cases kind <;> rfl

theorem references_context : record.references .context = [] := by cases kind <;> rfl

theorem references_event : record.references .event = [] := by cases kind <;> rfl

end

theorem references_eq_nil (quiet : kind ≠ .event) (record : Record A kind) (other : ObjectKind) :
    record.references other = [] := by
  cases kind with
  | event => exact absurd rfl quiet
  | context | buffer | program | queue => rfl

theorem busy_iff_inFlight (child : kind ≠ .context) (record : Record A kind) :
    record.busy = true ↔ record.inFlight ≠ 0 := by
  cases kind with
  | context => exact absurd rfl child
  | event | buffer | program | queue => simp [busy, inFlight]

theorem inFlight_iterate_adjust {f : UInt32 → UInt32} (child : kind ≠ .context) (counted : kind ≠ .event) (n : Nat)
    (record : Record A kind) : ((adjust f)^[n] record).inFlight = f^[n] record.inFlight := by
  induction n generalizing record with
  | zero => rfl
  | succ n ih =>
    rw [Function.iterate_succ_apply, ih]
    cases kind with
    | context => exact absurd rfl child
    | event => exact absurd rfl counted
    | buffer | program | queue => rfl

end Record

@[simp] theorem ChildCounts.count_modify_self {kind : ObjectKind} (child : kind ≠ .context) (f : UInt32 → UInt32) :
    (counts.modify kind f).count kind = f (counts.count kind) := by
  cases kind with
  | context => exact absurd rfl child
  | buffer | program | queue | event => rfl

@[simp] theorem ChildCounts.count_modify_ne {kind other : ObjectKind} (differs : other ≠ kind)
    (f : UInt32 → UInt32) : (counts.modify kind f).count other = counts.count other := by
  cases kind <;> cases other <;> first | rfl | exact absurd rfl differs

theorem ChildCounts.isEmpty_iff : counts.isEmpty = true ↔ ∀ kind, counts.count kind = 0 := by
  unfold isEmpty
  constructor
  · intro empty kind
    simp only [Bool.and_eq_true, beq_iff_eq] at empty
    cases kind <;> simp [count, empty]
  · intro zero
    have buffers := zero .buffer
    have programs := zero .program
    have queues := zero .queue
    have events := zero .event
    simp only [count] at buffers programs queues events
    simp [buffers, programs, queues, events]

def RetainedBytes.amount (self : RetainedBytes) : ObjectKind → Nat
  | .buffer => self.bufferBacking
  | .program => self.programResident
  | .context | .queue | .event => 0

namespace DeviceState
variable {s : DeviceState A}

/-- The ownership graph is exact: every child count and every in-flight count
is the number of records that justify it, every stored identifier resolves
within one context, whatever is needed is live, and the retained totals are the
sums of their charges. -/
structure Consistent (s : DeviceState A) : Prop where
  tables : ∀ kind, (s.table kind).WellFormed
  owned : ∀ kind id (context : ContextRecord A), s.contexts.lookup id = some context →
    (context.children.count kind).toNat =
      (s.table kind).total (fun record => if record.owner = some id then 1 else 0)
  owner_resolves : ∀ kind {id} {record : Record A kind} {contextId}, (s.table kind).lookup id = some record →
    record.owner = some contextId → ∃ context, s.contexts.lookup contextId = some context
  flight : ∀ kind {id} {record : Record A kind}, (s.table kind).lookup id = some record →
    record.inFlight.toNat = s.events.total (fun event => (event.references kind).count id)
  reference_resolves : ∀ kind {eventId} {event : EventRecord A} {id}, s.events.lookup eventId = some event →
    id ∈ event.references kind →
    ∃ record, (s.table kind).lookup id = some record ∧ record.owner = some event.contextId
  busy_live : ∀ kind {id} {record : Record A kind}, (s.table kind).lookup id = some record →
    record.busy = true → record.resource.release = .live
  retained : ∀ kind, s.retained.amount kind = (s.table kind).total Record.charge

section
variable (graph : s.Consistent)
include graph

theorem Consistent.events_wellFormed : s.events.WellFormed := graph.tables .event

theorem Consistent.contexts_wellFormed : s.contexts.WellFormed := graph.tables .context

theorem Consistent.references_missing {kind : ObjectKind} {id : ObjectId}
    (missing : (s.table kind).lookup id = none) :
    s.events.total (fun event => (event.references kind).count id) = 0 := by
  refine ObjectTable.total_eq_zero graph.events_wellFormed (fun eventId event found => ?_)
  rw [List.count_eq_zero]
  intro member
  obtain ⟨ghost, there, _⟩ := graph.reference_resolves kind found member
  simp [missing] at there

theorem Consistent.references_context (id : ObjectId) :
    s.events.total (fun event => (event.references .context).count id) = 0 :=
  ObjectTable.total_eq_zero graph.events_wellFormed (fun _ _ _ => rfl)

end

end DeviceState

end VirtioAccel
