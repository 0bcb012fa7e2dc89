import VirtioAccel.Device.EngineRuns
import VirtioAccel.Device.StateFrames

/-! Every handle the backend has returned and not taken back is accounted for. -/

namespace VirtioAccel
open DeviceState (SameView Reslots Gains Frees Frame)
variable {V : Handles}
variable {e : Exchange V}

theorem ResourceCounts.count_bump {counts : ResourceCounts} {kind : ObjectKind}
    (room : (counts.count kind).toNat + 1 < 2 ^ 64) (other : ObjectKind) :
    ((counts.bump kind).count other).toNat = (counts.count other).toNat + if other = kind then 1 else 0 := by
  have step : ((counts.count kind) + 1).toNat = (counts.count kind).toNat + 1 := by
    rw [UInt64.toNat_add, show (1 : UInt64).toNat = 1 from rfl, Nat.mod_eq_of_lt room]
  cases kind <;> cases other <;> first | exact step | rfl

theorem RetainedBytes.amount_charge {A : Handles} {retained : RetainedBytes} {kind : ObjectKind} {bytes : UInt64}
    {record : Record A kind} (charged : bytes.toNat = record.charge)
    (room : retained.amount kind + bytes.toNat < 2 ^ 128) (other : ObjectKind) :
    (retained.charge kind bytes).amount other = retained.amount other + if other = kind then record.charge
    else 0 := by
  rw [← charged]
  cases kind with
  | buffer =>
    cases other with
    | buffer => exact Nat.mod_eq_of_lt room
    | context | program | queue | event => rfl
  | program =>
    cases other with
    | program => exact Nat.mod_eq_of_lt room
    | context | buffer | queue | event => rfl
  | context | queue | event =>
    have none : bytes.toNat = 0 := charged
    simp [RetainedBytes.charge, none]

namespace Exchange

abbrev outstanding (log : List (Exchange V)) (kind : ObjectKind) : List Nat :=
  Ledger.outstanding grants settles log kind

/-- A sum over the handles of a kind that are out. -/
abbrev total (f : Nat → Nat) (log : List (Exchange V)) (kind : ObjectKind) : Nat :=
  Ledger.total grants settles f log kind

abbrev weight (log : List (Exchange V)) (serial : Nat) : Nat := Ledger.weight grants log serial

end Exchange

open Exchange (outstanding total weight)

/-- Every live handle afterwards is a live handle from before, of the same
object with the same charge. -/
def DeviceState.Traces (s s' : DeviceState (Owned V)) : Prop :=
  ∀ {kind id after handle}, s'.Holds kind id after handle →
    ∃ before handle', s.Holds kind id before handle' ∧ handle'.serial = handle.serial ∧ before.charge = after.charge

namespace DeviceState
variable {s s' : DeviceState (Owned V)} {kind : ObjectKind} {id : ObjectId} {record : Record (Owned V) kind}

theorem SameView.traces (same : SameView s s') : Traces s s' := by
  intro kind id after handle holds
  exact ⟨after, handle, ⟨(same.lookup kind id).symm.trans holds.present, holds.live⟩, rfl, rfl⟩

theorem Frame.back (frame : Frame s s' kind id) {other : ObjectKind} {target : ObjectId}
    {after : Record (Owned V) other} {handle : Owned V other} (elsewhere : ¬ (other = kind ∧ target = id))
    (holds : s'.Holds other target after handle) :
    ∃ before, s.Holds other target before handle ∧ before.charge = after.charge := by
  obtain ⟨before, found, resource, charge⟩ := frame other elsewhere holds.present
  exact ⟨before, ⟨found, resource ▸ holds.live⟩, charge.symm⟩

theorem Frees.traces (frees : Frees s s' kind id record) : Traces s s' := by
  intro other target after handle holds
  have elsewhere : ¬ (other = kind ∧ target = id) := by
    rintro ⟨rfl, rfl⟩
    exact nomatch frees.gone.symm.trans holds.present
  obtain ⟨before, there, charge⟩ := frees.frame.back elsewhere holds
  exact ⟨before, handle, there, rfl, charge⟩

theorem Reslots.traces {slot : ResourceSlot (Owned V kind)} {handle : Owned V kind}
    (holds : s.Holds kind id record handle) (reslots : Reslots s s' kind id record slot)
    (kept : ∀ handle', slot.resource = some handle' → handle'.serial = handle.serial) : Traces s s' := by
  intro other target after handle' holds'
  by_cases here : other = kind ∧ target = id
  · obtain ⟨rfl, rfl⟩ := here
    have stored := reslots.table.lookup_self
    rw [holds'.present] at stored
    cases stored
    refine ⟨record, handle, holds, (kept handle' ?_).symm, by simp⟩
    simpa using holds'.live
  · obtain ⟨before, there, charge⟩ := reslots.frame.back here holds'
    exact ⟨before, handle', there, rfl, charge⟩

end DeviceState

/-- Two logs that agree about every handle. -/
structure SameBooks (log log' : List (Exchange V)) : Prop where
  sound : Ledger.Sound Exchange.grants Exchange.settles log → Ledger.Sound Exchange.grants Exchange.settles log'
  outstanding : ∀ kind, outstanding log' kind = outstanding log kind
  total : ∀ f kind, total f log' kind = total f log kind
  weight : ∀ {kind n}, n ∈ Exchange.outstanding log kind → weight log' n = weight log n

theorem SameBooks.of_eq {log log' : List (Exchange V)} (same : log' = log) : SameBooks log log' := by
  subst log'
  exact ⟨fun sound => sound, fun _ => rfl, fun _ _ => rfl, fun _ => rfl⟩

theorem SameBooks.neutral {log log' : List (Exchange V)} (grown : log' = log ++ [e]) (neutral : e.Neutral) :
    SameBooks log log' := by
  subst log'
  exact ⟨fun sound => sound.quiet neutral.grants neutral.settles,
    fun _ => Ledger.outstanding_quiet neutral.grants neutral.settles,
    fun f _ => Ledger.total_quiet f neutral.grants neutral.settles,
    fun member => Ledger.weight_append (Ledger.lt_of_mem_outstanding member)⟩

namespace CommandProcessor
variable {p p' : CommandProcessor V} {resetting : Bool}
variable {kind : ObjectKind} {record : Record (Owned V) kind} {id : ObjectId}

/-- The books of the device: of each kind, what the backend returned and has not taken back is what the tables
hold and what is quarantined, in number and in bytes. -/
structure Accounted (p : CommandProcessor V) : Prop where
  graph : p.state.Consistent
  sound : Ledger.Sound Exchange.grants Exchange.settles p.accelerator.log
  counts : ∀ kind, total (fun _ => 1) p.accelerator.log kind =
    (p.state.table kind).total (fun _ => 1) + (p.quarantined.count kind).toNat
  bytes : ∀ kind, total (fun bytes => bytes) p.accelerator.log kind =
    p.state.retained.amount kind + p.quarantinedBytes.amount kind
  held : ∀ {kind id record handle}, p.state.Holds kind id record handle →
    handle.serial ∈ outstanding p.accelerator.log kind ∧ weight p.accelerator.log handle.serial = record.charge
  distinct : ∀ {kind id id' record record' handle handle'}, p.state.Holds kind id record handle →
    p.state.Holds kind id' record' handle' → handle.serial = handle'.serial → id = id'
  clean : p.health ≠ .backendDiscardRequired → p.quarantined = .zero ∧ p.quarantinedBytes = .zero
  bounded : ∀ kind, (p.quarantined.count kind).toNat ≤ 1 ∧ p.quarantinedBytes.amount kind < 2 ^ 64

section
variable (accounted : Accounted p) {handle : Owned V kind}
include accounted

theorem Accounted.distinct_of_traces (traces : DeviceState.Traces p.state p'.state)
    {id' : ObjectId} {record' : Record (Owned V) kind} {handle' : Owned V kind}
    (left : p'.state.Holds kind id record handle) (right : p'.state.Holds kind id' record' handle')
    (same : handle.serial = handle'.serial) : id = id' := by
  obtain ⟨_, _, there, serial, _⟩ := traces left
  obtain ⟨_, _, there', serial', _⟩ := traces right
  exact accounted.distinct there there' (by rw [serial, serial', same])

theorem Accounted.clean_of_kept (kept : Kept p p') (same : SameQuarantine p p')
    (usable : p'.health ≠ .backendDiscardRequired) : p'.quarantined = .zero ∧ p'.quarantinedBytes = .zero := by
  rw [same.counts, same.bytes]
  exact accounted.clean (fun condemned => usable (kept.discard condemned))

theorem Accounted.bounded_of_same (same : SameQuarantine p p') (kind : ObjectKind) :
    (p'.quarantined.count kind).toNat ≤ 1 ∧ p'.quarantinedBytes.amount kind < 2 ^ 64 := by
  rw [same.counts, same.bytes]
  exact accounted.bounded kind

/-- A move that neither returns nor takes back a handle. -/
theorem Accounted.quiet (books : SameBooks p.accelerator.log p'.accelerator.log)
    (graph : p'.state.Consistent) (traces : DeviceState.Traces p.state p'.state)
    (counts : ∀ kind, (p'.state.table kind).total (fun _ => 1) + (p'.quarantined.count kind).toNat =
      (p.state.table kind).total (fun _ => 1) + (p.quarantined.count kind).toNat)
    (bytes : ∀ kind, p'.state.retained.amount kind + p'.quarantinedBytes.amount kind =
      p.state.retained.amount kind + p.quarantinedBytes.amount kind)
    (clean : p'.health ≠ .backendDiscardRequired → p'.quarantined = .zero ∧ p'.quarantinedBytes = .zero)
    (bounded : ∀ kind, (p'.quarantined.count kind).toNat ≤ 1 ∧ p'.quarantinedBytes.amount kind < 2 ^ 64) :
    Accounted p' where
  graph := graph
  sound := books.sound accounted.sound
  counts kind := by rw [books.total, counts, ← accounted.counts]
  bytes kind := by rw [books.total, bytes, ← accounted.bytes]
  held holds := by
    obtain ⟨before, handle', there, serial, charge⟩ := traces holds
    obtain ⟨member, weighed⟩ := accounted.held there
    rw [books.outstanding, ← serial, books.weight member]
    exact ⟨member, weighed.trans charge⟩
  distinct := accounted.distinct_of_traces traces
  clean := clean
  bounded := bounded

/-- A quiet move that keeps the quarantine and every count. -/
theorem Accounted.steady (kept : Kept p p')
    (books : SameBooks p.accelerator.log p'.accelerator.log) (same : SameQuarantine p p')
    (graph : p'.state.Consistent) (traces : DeviceState.Traces p.state p'.state)
    (len : ∀ kind, (p'.state.table kind).total (fun _ => 1) = (p.state.table kind).total (fun _ => 1))
    (retained : p'.state.retained = p.state.retained) : Accounted p' :=
  accounted.quiet books graph traces (fun kind => by rw [len, same.counts])
    (fun kind => by rw [retained, same.bytes])
    (accounted.clean_of_kept kept same) (accounted.bounded_of_same same)

theorem Accounted.view (kept : Kept p p')
    (books : SameBooks p.accelerator.log p'.accelerator.log) (quarantine : SameQuarantine p p')
    (same : SameView p.state p'.state) : Accounted p' :=
  accounted.steady kept books quarantine (accounted.graph.sameView same) same.traces
    (fun kind => ObjectTable.total_eq_of_lookup (accounted.graph.tables kind) (same.tables kind)
      (same.lookup kind) _)
    same.retained

section
variable (calls : Calls resetting p p' e)
include calls

theorem Accounted.reslot (neutral : e.Neutral)
    (quarantine : SameQuarantine p p') {slot : ResourceSlot (Owned V kind)}
    (holds : p.state.Holds kind id record handle) (reslots : Reslots p.state p'.state kind id record slot)
    (kept : ∀ handle', slot.resource = some handle' → handle'.serial = handle.serial) : Accounted p' :=
  accounted.steady calls.toKept (.neutral calls.log neutral) quarantine (accounted.graph.reslot reslots)
    (reslots.traces holds kept) (fun other => reslots.total other (fun _ _ => rfl)) reslots.retained

/-- A handle that is new and kept. -/
theorem Accounted.gain {value : V kind}
    (grants : e.grants = some (kind, record.charge)) (settles : e.settles = none)
    (gains : Gains p.state p'.state kind id record)
    (fresh : record.resource = ResourceSlot.new (p.accelerator.own value)) (same : SameQuarantine p p') :
    Accounted p' := by
  have granted : ∀ f other, total f (p.accelerator.log ++ [e]) other =
      total f p.accelerator.log other + if kind = other then f record.charge else 0 :=
    fun f other => Ledger.total_grant f accounted.sound grants settles
  have listed : ∀ other, outstanding (p.accelerator.log ++ [e]) other = outstanding p.accelerator.log other ++
      if kind = other then [p.accelerator.log.length] else [] :=
    fun other => Ledger.outstanding_grant accounted.sound grants settles
  have cases : ∀ {other target after handle}, p'.state.Holds other target after handle →
      (other = kind ∧ target = id ∧ handle.serial = p.accelerator.log.length ∧ after.charge = record.charge) ∨
      ∃ before, p.state.Holds other target before handle ∧ before.charge = after.charge := by
    intro other target after handle holds
    by_cases here : other = kind ∧ target = id
    · obtain ⟨rfl, rfl⟩ := here
      cases holds.present.symm.trans gains.present.2
      have live := holds.live
      rw [fresh] at live
      cases live
      exact .inl ⟨rfl, rfl, rfl, rfl⟩
    · exact .inr (gains.frame.back here holds)
  refine ⟨accounted.graph.gain gains, ?_, fun other => ?_, fun other => ?_, ?_, ?_,
    accounted.clean_of_kept calls.toKept same, accounted.bounded_of_same same⟩
  · rw [calls.log]
    exact accounted.sound.grant grants settles
  · rw [calls.log, granted, gains.len, same.counts]
    have before := accounted.counts other
    by_cases here : other = kind
    · subst other
      omega
    simp only [if_neg here, if_neg (Ne.symm here)]
    omega
  · rw [calls.log, granted, gains.retained, same.bytes]
    have before := accounted.bytes other
    by_cases here : other = kind
    · subst other
      omega
    simp only [if_neg here, if_neg (Ne.symm here)]
    omega
  · intro other target after handle holds
    rw [calls.log, listed, weight]
    rcases cases holds with ⟨rfl, _, serial, charge⟩ | ⟨before, there, charge⟩
    · rw [serial, Ledger.weight_last grants]
      exact ⟨by simp, charge.symm⟩
    obtain ⟨member, weighed⟩ := accounted.held there
    rw [Ledger.weight_append (Ledger.lt_of_mem_outstanding member)]
    exact ⟨List.mem_append_left _ member, weighed.trans charge⟩
  · intro other target target' after after' handle handle' left right serial
    have old : ∀ {target before handle}, p.state.Holds other target before handle →
        handle.serial ≠ p.accelerator.log.length := fun there =>
      Nat.ne_of_lt (Ledger.lt_of_mem_outstanding (accounted.held there).1)
    rcases cases left with ⟨_, rfl, fresh, _⟩ | ⟨_, there, _⟩ <;>
      rcases cases right with ⟨_, rfl, fresh', _⟩ | ⟨_, there', _⟩
    · rfl
    · exact absurd (serial.symm.trans fresh) (old there')
    · exact absurd (serial.trans fresh') (old there)
    · exact accounted.distinct there there' serial

/-- A handle that the backend took back. -/
theorem Accounted.settle (grants : e.grants = none) (settles : e.settles = some (kind, handle.serial))
    (holds : p.state.Holds kind id record handle) (frees : Frees p.state p'.state kind id record)
    (same : SameQuarantine p p') : Accounted p' := by
  obtain ⟨member, weighed⟩ := accounted.held holds
  have paid : ∀ f other, total f (p.accelerator.log ++ [e]) other + (if kind = other then f record.charge else 0) =
      total f p.accelerator.log other := fun f other => by
    rw [← weighed]
    exact Ledger.total_settle f grants settles member
  refine ⟨accounted.graph.free frees, ?_, fun other => ?_, fun other => ?_, ?_,
    accounted.distinct_of_traces frees.traces, accounted.clean_of_kept calls.toKept same,
    accounted.bounded_of_same same⟩
  · rw [calls.log]
    exact accounted.sound.settle grants settles member
  · have count := paid (fun _ => 1) other
    have len := frees.len other
    have before := accounted.counts other
    rw [calls.log, same.counts]
    by_cases here : other = kind
    · subst other
      omega
    simp only [if_neg here, if_neg (Ne.symm here)] at count len
    omega
  · have count := paid (fun bytes => bytes) other
    have retained := frees.retained other
    have before := accounted.bytes other
    rw [calls.log, same.bytes]
    by_cases here : other = kind
    · subst other
      omega
    simp only [if_neg here, if_neg (Ne.symm here)] at count retained
    omega
  · intro other target after handle' holds'
    have elsewhere : ¬ (other = kind ∧ target = id) := by
      rintro ⟨rfl, rfl⟩
      exact nomatch frees.gone.symm.trans holds'.present
    obtain ⟨before, there, charge⟩ := frees.frame.back elsewhere holds'
    obtain ⟨member', weighed'⟩ := accounted.held there
    rw [calls.log, outstanding, Ledger.outstanding_settle grants settles, weight,
      Ledger.weight_append (Ledger.lt_of_mem_outstanding member')]
    refine ⟨?_, weighed'.trans charge⟩
    split
    · subst other
      refine (List.mem_erase_of_ne (fun serial => elsewhere ⟨rfl, ?_⟩)).mpr member'
      exact accounted.distinct there holds serial
    · exact member'

/-- An indeterminate release trades a record for a quarantined handle. -/
theorem Accounted.forfeit (neutral : e.Neutral)
    (frees : Frees p.state p'.state kind id record) {bytes : UInt64} (running : p.health = .running)
    (condemned : p'.health = .backendDiscardRequired) (charged : bytes.toNat = record.charge)
    (counts : p'.quarantined = p.quarantined.bump kind)
    (quarantinedBytes : p'.quarantinedBytes = p.quarantinedBytes.charge kind bytes) : Accounted p' := by
  obtain ⟨noCounts, noBytes⟩ := accounted.clean (by rw [running]; decide)
  have word := bytes.toNat_lt
  have empty : ∀ kind, ResourceCounts.zero.count kind = 0 := fun kind => by cases kind <;> rfl
  have nothing : ∀ kind, RetainedBytes.zero.amount kind = 0 := fun kind => by cases kind <;> rfl
  have counted : ∀ other, (p'.quarantined.count other).toNat = if other = kind then 1 else 0 := fun other => by
    rw [counts, noCounts, ResourceCounts.count_bump (by rw [empty]; decide), empty, UInt64.toNat_zero, Nat.zero_add]
  have weighed : ∀ other, p'.quarantinedBytes.amount other = if other = kind then record.charge else 0 :=
      fun other => by
    rw [quarantinedBytes, noBytes, RetainedBytes.amount_charge charged (by rw [nothing]; omega), nothing,
      Nat.zero_add]
  refine accounted.quiet (.neutral calls.log neutral) (accounted.graph.free frees) frees.traces (fun other => ?_)
    (fun other => ?_) (fun usable => absurd condemned usable) (fun other => ?_)
  · rw [counted, frees.len, noCounts, empty, UInt64.toNat_zero, Nat.add_zero]
  · rw [weighed, frees.retained, noBytes, nothing, Nat.add_zero]
  rw [counted, weighed]
  split <;> omega

end

theorem Accounted.renew (kept : Kept p p') (log : p'.accelerator.log = p.accelerator.log)
    (before : ∀ kind, (p.state.table kind).len = 0) (graph : p'.state.Consistent)
    (after : ∀ kind, (p'.state.table kind).len = 0) (same : SameQuarantine p p') : Accounted p' := by
  refine accounted.quiet (.of_eq log) graph ?_ (fun kind => ?_) (fun kind => ?_) (accounted.clean_of_kept kept same)
    (accounted.bounded_of_same same)
  · intro kind id record handle holds
    exact absurd ((graph.empty_table (after kind)).2.2 id) (by simp [holds.present])
  · rw [(graph.empty_table (after kind)).1, (accounted.graph.empty_table (before kind)).1, same.counts]
  · rw [(graph.empty_table (after kind)).2.1, (accounted.graph.empty_table (before kind)).2.1, same.bytes]

theorem Accounted.move (move : Move resetting p p') : Accounted p' := by
  cases move with
  | rest kept log same quarantine => exact accounted.view kept (.of_eq log) quarantine same
  | ask calls neutral same quarantine =>
    exact accounted.view calls.toKept (.neutral calls.log neutral) quarantine same
  | gain calls grants settles gains fresh quarantine =>
    exact accounted.gain calls grants settles gains fresh quarantine
  | refit calls neutral holds reslots quarantine =>
    exact accounted.reslot calls neutral quarantine holds reslots (fun _ held => by cases held; rfl)
  | settle calls grants settles holds frees quarantine =>
    exact accounted.settle calls grants settles holds frees quarantine
  | forfeit calls neutral _ frees running condemned charged counts bytes =>
    exact accounted.forfeit calls neutral frees running condemned charged counts bytes
  | strand _ calls neutral holds reslots quarantine =>
    exact accounted.reslot calls neutral quarantine holds reslots (fun _ held => by cases held)
  | renew _ kept log before graph after quarantine => exact accounted.renew kept log before graph after quarantine

theorem Accounted.moves (moves : Moves resetting p p') : Accounted p' := by
  induction moves with
  | refl => exact accounted
  | tail _ move ih => exact ih.move move

end

theorem Accounted.of_new {accelerator : Accelerator V} (unused : accelerator.log = []) {config : WireConfig}
    {ns : ObjectNamespace} {policy : ResourcePolicy}
    (created : new accelerator config ns policy = .ok p) :
    Accounted p := by
  simp only [new, Checked.bind_eq_ok, Checked.mapError_eq_ok, Checked.pure_eq_ok] at created
  obtain ⟨_, _, info, _, _, _, limits, _, state, made, rfl⟩ := created
  have graph := DeviceState.new_consistent made
  have empty := DeviceState.new_empty made
  have zero : ∀ kind, ResourceCounts.zero.count kind = 0 := fun kind => by cases kind <;> rfl
  have nothing : ∀ kind, RetainedBytes.zero.amount kind = 0 := fun kind => by cases kind <;> rfl
  refine ⟨graph, by rw [unused]; exact .nil, fun kind => ?_, fun kind => ?_, fun {kind id record handle} holds =>
    ?_, fun {kind id id' record _ _ _} holds => ?_, fun _ => ⟨rfl, rfl⟩, fun kind => ?_⟩
  · rw [unused, (graph.empty_table (empty kind)).1, zero]
    rfl
  · rw [unused, (graph.empty_table (empty kind)).2.1, nothing]
    rfl
  · exact absurd ((graph.empty_table (empty kind)).2.2 id) (by simp [holds.present])
  · exact absurd ((graph.empty_table (empty kind)).2.2 id) (by simp [holds.present])
  · rw [zero, nothing]
    decide

end CommandProcessor

end VirtioAccel
