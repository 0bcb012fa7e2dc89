import VirtioAccel.Device.BackendLedger
import VirtioAccel.Device.EngineReset
import VirtioAccel.Device.StateRuns

/-! Everything the engine does is a sequence of moves: each makes at most one
backend call, under its contract, and says what becomes of the state. -/

namespace VirtioAccel

namespace DeviceState
variable {A : Handles}

/-- A live object with its handle. -/
structure Holds (s : DeviceState A) (kind : ObjectKind) (id : ObjectId) (record : Record A kind) (handle : A kind) :
    Prop where
  present : (s.table kind).lookup id = some record
  live : record.resource.resource = some handle

/-- No event refers to the object, and nothing belongs to it. -/
structure Unreferenced (s : DeviceState A) (kind : ObjectKind) (id : ObjectId) : Prop where
  events : ∀ event ∈ s.events.records, id ∉ event.references kind
  children : kind = .context → ∀ other, ∀ record ∈ (s.table other).records, Record.owner record ≠ some id

/-- A buffer a transfer may touch in a range of its logical bytes. -/
def Transferable (s : DeviceState A) (buffer : A .buffer) (offset bytes : UInt64) (usage : BufferUsage) : Prop :=
  ∃ (id : ObjectId) (record : BufferRecord A), s.Holds .buffer id record buffer ∧ s.Unreferenced .buffer id ∧
    offset.toNat + bytes.toNat ≤ record.info.desc.bytes.toNat ∧
    Flags32.contains record.info.desc.usage usage = true

/-- A binding a submission of one context may carry. -/
def Bindable (s : DeviceState A) (contextId : ObjectId) (binding : BindingRef (A .buffer)) : Prop :=
  ∃ (id : ObjectId) (record : BufferRecord A), s.Holds .buffer id record binding.buffer ∧
    record.contextId = contextId ∧ binding.range.stop ≤ record.info.desc.bytes ∧
    record.info.desc.allowsAccess binding.access = true

/-- A new object joins, a child also its context. -/
inductive Gains (s s' : DeviceState A) : (kind : ObjectKind) → ObjectId → Record A kind → Prop
  | context {id context} : Opens s s' id context → Gains s s' .context id context
  | child {kind id record contextId context} : Adopts s s' kind id record contextId context →
      Gains s s' kind id record

/-- A whole release: the handle is taken, and then the record goes. -/
def Frees (s s' : DeviceState A) (kind : ObjectKind) (id : ObjectId) (record : Record A kind) : Prop :=
  ∃ middle, Reslots s middle kind id record ResourceSlot.taken ∧
    Retires middle s' kind id (record.setResource ResourceSlot.taken)

variable {s s' : DeviceState A} {kind : ObjectKind} {id : ObjectId} {record : Record A kind}

theorem Consistent.gain (graph : s.Consistent) (change : Gains s s' kind id record) : s'.Consistent := by
  cases change with
  | context opens => exact graph.open opens
  | child adopts => exact graph.adopt adopts

theorem Consistent.free (graph : s.Consistent) (change : Frees s s' kind id record) : s'.Consistent := by
  obtain ⟨_, reslots, retires⟩ := change
  exact (graph.reslot reslots).retire retires

end DeviceState

open DeviceState (SameView Reslots Gains Frees)
variable {V : Handles}

/-- The last thing the backend said about an event is that it is over and the
device is not lost. During a reset a successful cancellation says so too. -/
def Terminal (resetting : Bool) (event : Owned V .event) (past : List (Exchange V)) : Prop :=
  (∃ state found, past.getLast? = some ⟨state, .pollEvent event, .ok found⟩ ∧ found ≠ .pending ∧
    found ≠ .failed .deviceLost) ∨
  resetting = true ∧ ∃ state, past.getLast? = some ⟨state, .cancelEvent event, .ok ()⟩

/-- An event is destroyed only when it is over; the other kinds can go at any time. -/
def Due (resetting : Bool) (past : List (Exchange V)) : (kind : ObjectKind) → Owned V kind → Prop
  | .event, event => Terminal resetting event past
  | .context, _ | .buffer, _ | .program, _ | .queue, _ => True

/-- What a caller of the backend owes it, in the state in which it calls. -/
def Call.Contract (resetting : Bool) (limits : DeviceLimits) (past : List (Exchange V))
    (s : DeviceState (Owned V)) :
    Call V → Prop
  | .createContext _ => True
  | .allocateBuffer context _ | .loadProgram context _ | .createQueue context _ =>
    ∃ id record, s.Holds .context id record context
  | .submit queue program bindings _ =>
    bindings ≠ [] ∧ bindings.length ≤ limits.maxBindingsPerSubmission.toNat ∧
    bindings.Pairwise (fun left right => left.slot < right.slot) ∧
    ∃ contextId, (∃ (id : ObjectId) (record : QueueRecord (Owned V)), s.Holds .queue id record queue ∧
        record.contextId = contextId) ∧
      (∃ (id : ObjectId) (record : ProgramRecord (Owned V)), s.Holds .program id record program ∧
        record.contextId = contextId) ∧
      ∀ binding ∈ bindings, s.Bindable contextId binding
  | .pollEvent event | .cancelEvent event => ∃ id record, s.Holds .event id record event
  | .writeBuffer buffer offset data => s.Transferable buffer offset data.len BufferUsage.transferDestination
  | .readBuffer buffer offset bytes => s.Transferable buffer offset bytes BufferUsage.transferSource
  | .release kind handle =>
    (∃ id record, s.Holds kind id record handle ∧ s.Unreferenced kind id) ∧ Due resetting past kind handle

namespace CommandProcessor

/-- A report is kept only of a reset that condemned the backend. -/
def ReportsDiscard (p : CommandProcessor V) : Prop :=
  ∀ report, p.lastReset = some report → report.disposition = .backendDiscardRequired

/-- What no move changes, and that a condemned backend stays condemned. -/
structure Kept (p p' : CommandProcessor V) : Prop where
  info : p'.info = p.info
  policy : p'.policy = p.policy
  decoder : p'.decoder = p.decoder
  discard : p.health = .backendDiscardRequired → p'.health = .backendDiscardRequired
  reports : p.ReportsDiscard → p'.ReportsDiscard

/-- Nothing is quarantined between the two. -/
structure SameQuarantine (p p' : CommandProcessor V) : Prop where
  counts : p'.quarantined = p.quarantined
  bytes : p'.quarantinedBytes = p.quarantinedBytes

/-- A call made from the processor's own state, under its contract. -/
structure Permitted (resetting : Bool) (p : CommandProcessor V) (e : Exchange V) : Prop where
  state : e.state = p.state
  contract : e.call.Contract resetting p.info.limits p.accelerator.log p.state

/-- One backend call. -/
structure Calls (resetting : Bool) (p p' : CommandProcessor V) (e : Exchange V) : Prop extends
    Kept p p', Permitted resetting p e where
  log : p'.accelerator.log = p.accelerator.log ++ [e]

/-- What one step can do to the device: at most one call of the backend, and what becomes of its handle. -/
inductive Move (resetting : Bool) (p p' : CommandProcessor V) : Prop
  /-- Nothing but the health changes. -/
  | rest : Kept p p' → p'.accelerator.log = p.accelerator.log → SameView p.state p'.state → SameQuarantine p p' →
      Move resetting p p'
  /-- A call that leaves every handle where it is. -/
  | ask {e} : Calls resetting p p' e → e.Neutral → SameView p.state p'.state → SameQuarantine p p' →
      Move resetting p p'
  /-- A call that returns a handle, which a new record keeps. -/
  | gain {e kind id record value} : Calls resetting p p' e → e.grants = some (kind, record.charge) →
      e.settles = none → Gains p.state p'.state kind id record →
      record.resource = ResourceSlot.new (p.accelerator.own value) → SameQuarantine p p' → Move resetting p p'
  /-- A call that changes the value of a handle, or refuses to release it. -/
  | refit {e kind id record handle value} : Calls resetting p p' e → e.Neutral →
      p.state.Holds kind id record handle →
      Reslots p.state p'.state kind id record (ResourceSlot.new { handle with value }) → SameQuarantine p p' →
      Move resetting p p'
  /-- A release that succeeds. -/
  | settle {e kind id record handle} : Calls resetting p p' e → e.grants = none →
      e.settles = some (kind, handle.serial) → p.state.Holds kind id record handle →
      Frees p.state p'.state kind id record → SameQuarantine p p' → Move resetting p p'
  /-- A release of unknown outcome, whose handle is quarantined. -/
  | forfeit {e kind id record handle bytes} : Calls resetting p p' e → e.Neutral →
      p.state.Holds kind id record handle → Frees p.state p'.state kind id record →
      p.health = .running → p'.health = .backendDiscardRequired → bytes.toNat = record.charge →
      p'.quarantined = p.quarantined.bump kind → p'.quarantinedBytes = p.quarantinedBytes.charge kind bytes →
      Move resetting p p'
  /-- A release of unknown outcome during a reset, whose record stays behind. -/
  | strand {e kind id record handle} : resetting = true → Calls resetting p p' e → e.Neutral →
      p.state.Holds kind id record handle → Reslots p.state p'.state kind id record ResourceSlot.taken →
      SameQuarantine p p' → Move resetting p p'
  /-- A finished reset starts over with empty tables. -/
  | renew : resetting = true → Kept p p' → p'.accelerator.log = p.accelerator.log →
      (∀ kind, (p.state.table kind).len = 0) → p'.state.Consistent → (∀ kind, (p'.state.table kind).len = 0) →
      SameQuarantine p p' → Move resetting p p'

abbrev Moves (resetting : Bool) : CommandProcessor V → CommandProcessor V → Prop :=
  Relation.ReflTransGen (Move resetting)

end CommandProcessor

end VirtioAccel
