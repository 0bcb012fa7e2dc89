import VirtioAccel.Device.OwnershipChanges

namespace VirtioAccel.DeviceState
open List Record
variable {A : Handles} {s s' : DeviceState A} {f : UInt32 → UInt32} {kind : ObjectKind} {id contextId : ObjectId}
variable {old new : Option (Record A kind)} {named : ObjectKind → List ObjectId} {context : ContextRecord A}
variable {record : Record A kind}

section
variable (change : Shifts s s' f kind id old new named contextId context)
variable {other : ObjectKind} {after : ContextRecord A}

include change

theorem Shifts.wellFormed (other : ObjectKind) : (s'.table other).WellFormed := by
  by_cases same : other = kind
  · subst other
    exact change.table.wellFormed
  by_cases root : other = .context
  · subst other
    exact change.contexts.wellFormed
  · exact (change.others other same root).wellFormed

theorem Shifts.context_forth {target : ObjectId}
    {before : ContextRecord A} (present : s.contexts.lookup target = some before) :
    ∃ after, s'.contexts.lookup target = some after := by
  rw [change.contexts.lookup_after]
  split
  · exact ⟨_, rfl⟩
  · exact ⟨before, present⟩

theorem Shifts.context_back {target : ObjectId} (present : s'.contexts.lookup target = some after) :
    ∃ before, s.contexts.lookup target = some before ∧ after.resource = before.resource ∧
      (target = contextId ∧ before = context ∧ after.children = before.children.modify kind f ∨
        target ≠ contextId ∧ after = before) := by
  rw [change.contexts.lookup_after] at present
  split at present
  · rename_i here
    subst target
    cases present
    exact ⟨context, change.contexts.lookup_before, rfl, .inl ⟨rfl, rfl, rfl⟩⟩
  · rename_i elsewhere
    exact ⟨after, present, rfl, .inr ⟨elsewhere, rfl⟩⟩

theorem Shifts.back (differs : other ≠ kind) (child : other ≠ .context) {target : ObjectId} {after : Record A other}
    (present : (s'.table other).lookup target = some after) :
    ∃ before, (s.table other).lookup target = some before ∧
      after = (adjust f)^[(named other).count target] before := by
  rw [(change.others other differs child).lookup] at present
  obtain ⟨before, found, rfl⟩ := Option.map_eq_some_iff.mp present
  exact ⟨before, found, rfl⟩

theorem Shifts.forth (differs : other ≠ kind) (child : other ≠ .context) {target : ObjectId}
    {before : Record A other} (present : (s.table other).lookup target = some before) :
    ∃ after, (s'.table other).lookup target = some after ∧ after.owner = before.owner := by
  refine ⟨_, by rw [(change.others other differs child).lookup, present]; rfl, ?_⟩
  exact Counters.iterate_fixed (fun record => record.owner_adjust f) _ _

theorem Shifts.total_other (graph : s.Consistent) (differs : other ≠ kind) {weight : Record A other → Nat}
    (blind : ∀ record, weight (record.adjust f) = weight record)
    (rootless : other = .context → ∀ record, weight record = 0) :
    (s'.table other).total weight = (s.table other).total weight := by
  by_cases root : other = .context
  · rw [ObjectTable.total_eq_zero (change.wellFormed other) (fun _ record _ => rootless root record),
      ObjectTable.total_eq_zero (graph.tables other) (fun _ record _ => rootless root record)]
  · exact (change.others other differs root).total weight blind

/-- The references held by all events change by those of the record. -/
theorem Shifts.references_total (other : ObjectKind) (target : ObjectId) :
    s'.events.total (fun event => (event.references other).count target) +
        (old.elim [] (·.references other)).count target =
      s.events.total (fun event => (event.references other).count target) +
        (new.elim [] (·.references other)).count target := by
  by_cases event : kind = .event
  · subst kind
    have balance := change.table.total (fun event => (EventRecord.references event other).count target)
    cases old <;> cases new <;> exact balance
  have silent : ∀ record : Option (Record A kind), record.elim [] (·.references other) = [] := fun record => by
    cases record with
    | none => rfl
    | some record => exact record.references_eq_nil event other
  have same := (change.others .event (Ne.symm event) (by simp)).total
    (fun event => (EventRecord.references event other).count target) (fun _ => rfl)
  rw [silent, silent]
  exact congrArg (· + 0) same

section
variable (graph : s.Consistent)
include graph

theorem Shifts.owner_resolves (joined : ∀ record, new = some record → record.owner = some contextId)
    {target : ObjectId} {after : Record A other}
    {root : ObjectId} (present : (s'.table other).lookup target = some after) (owner : after.owner = some root) :
    ∃ context, s'.contexts.lookup root = some context := by
  by_cases same : other = kind
  · subst other
    rw [change.table.lookup_after] at present
    split at present
    · cases (joined after present).symm.trans owner
      exact change.context_forth change.contexts.lookup_before
    obtain ⟨before, found⟩ := graph.owner_resolves kind present owner
    exact change.context_forth found
  · by_cases child : other = .context
    · subst other
      simp [Record.owner] at owner
    obtain ⟨before, found, rfl⟩ := change.back same child present
    have kept := Counters.iterate_fixed (fun record => Record.owner_adjust record f)
      ((named other).count target) before
    obtain ⟨root', there⟩ := graph.owner_resolves other found (kept.symm.trans owner)
    exact change.context_forth there

theorem Shifts.owned (owner : ∀ record, old = some record ∨ new = some record → record.owner = some contextId)
    (balanced : (f (context.children.count kind)).toNat + old.elim 0 (fun _ => 1) =
      (context.children.count kind).toNat + new.elim 0 (fun _ => 1))
    (other : ObjectKind) {target : ObjectId} (present : s'.contexts.lookup target = some after) :
    (after.children.count other).toNat =
      (s'.table other).total (fun record => if record.owner = some target then 1 else 0) := by
  obtain ⟨before, found, _, touched⟩ := change.context_back present
  have counted := graph.owned other target before found
  by_cases same : other = kind
  · subst other
    have balance := change.table.total (fun record => if record.owner = some target then 1 else 0)
    have weighed : ∀ record : Option (Record A kind), (∀ r, record = some r → r.owner = some contextId) →
        record.elim 0 (fun record => if record.owner = some target then 1 else 0) =
          if contextId = target then record.elim 0 (fun _ => 1) else 0 := by
      intro record owned
      cases record with
      | none => simp
      | some record => simp [owned record rfl]
    rw [weighed old fun r is => owner r (.inl is), weighed new fun r is => owner r (.inr is)] at balance
    rcases touched with ⟨rfl, rfl, children⟩ | ⟨elsewhere, rfl⟩
    · rw [if_pos rfl, if_pos rfl] at balance
      rw [children, ChildCounts.count_modify_self change.child]
      omega
    · rw [if_neg (Ne.symm elsewhere), if_neg (Ne.symm elsewhere)] at balance
      omega
  · rw [change.total_other graph same (fun record => by rw [Record.owner_adjust])
      (fun root record => by subst root; simp [Record.owner]), ← counted]
    rcases touched with ⟨_, _, children⟩ | ⟨_, rfl⟩
    · rw [children, ChildCounts.count_modify_ne same]
    · rfl

theorem Shifts.flight (fresh : ∀ record, new = some record → record.inFlight = 0 ∧ (s.table kind).lookup id = none)
    (quiet : named .event = [])
    (balanced : ∀ other {target} {before : Record A other}, other ≠ .context → other ≠ .event →
      (s.table other).lookup target = some before → (f^[(named other).count target] before.inFlight).toNat +
        (old.elim [] (·.references other)).count target =
          before.inFlight.toNat + (new.elim [] (·.references other)).count target)
    (other : ObjectKind) {target : ObjectId} {after : Record A other}
    (present : (s'.table other).lookup target = some after) :
    after.inFlight.toNat = s'.events.total (fun event => (event.references other).count target) := by
  have balance := change.references_total other target
  have silent : ∀ {other}, (∀ record : Record A kind, record.references other = []) →
      ∀ record : Option (Record A kind), record.elim [] (·.references other) = [] := by
    intro other none record
    cases record with
    | none => rfl
    | some record => exact none record
  by_cases same : other = kind
  · subst other
    rw [silent references_self, silent references_self] at balance
    rw [change.table.lookup_after] at present
    split at present
    · subst target
      obtain ⟨idle, missing⟩ := fresh after present
      rw [idle, UInt32.toNat_zero]
      have unnamed := graph.references_missing missing
      omega
    · have counted := graph.flight kind present
      omega
  · by_cases root : other = .context
    · subst other
      rw [silent references_context, silent references_context, graph.references_context] at balance
      exact balance.symm
    obtain ⟨before, found, rfl⟩ := change.back same root present
    have counted := graph.flight other found
    by_cases event : other = .event
    · subst other
      rw [silent references_event, silent references_event] at balance
      rw [quiet]
      exact counted.trans balance.symm
    · have step := balanced other root event found
      rw [inFlight_iterate_adjust root event]
      omega

theorem Shifts.reference_resolves (quiet : named .event = [])
    (joined : ∀ record, new = some record → record.owner = some contextId ∧ ∀ other {target},
      target ∈ record.references other → ∃ found, (s.table other).lookup target = some found ∧
      found.owner = some contextId)
    (kept : ∀ {eventId} {event : EventRecord A}, s.events.lookup eventId = some event → id ∉ event.references kind)
    (other : ObjectKind) {eventId : ObjectId} {event : EventRecord A} {target : ObjectId}
    (present : s'.events.lookup eventId = some event) (member : target ∈ event.references other) :
    ∃ found, (s'.table other).lookup target = some found ∧ found.owner = some event.contextId := by
  have child : other ≠ .context := by
    rintro rfl
    simp [EventRecord.references] at member
  have counted : other ≠ .event := by
    rintro rfl
    simp [EventRecord.references] at member
  -- An event of the earlier state keeps the objects it names.
  have earlier : s.events.lookup eventId = some event →
      ∃ found, (s'.table other).lookup target = some found ∧ found.owner = some event.contextId := by
    intro present
    obtain ⟨before, there, owner⟩ := graph.reference_resolves other present member
    by_cases same : other = kind
    · subst other
      have elsewhere : target ≠ id := by
        rintro rfl
        exact kept present member
      exact ⟨before, (change.table.lookup_other elsewhere).trans there, owner⟩
    · obtain ⟨after, here, kept⟩ := change.forth same child there
      exact ⟨after, here, kept.trans owner⟩
  by_cases isEvent : kind = .event
  · subst kind
    have found := (change.table.lookup_after eventId).symm.trans present
    split at found
    · obtain ⟨owner, names⟩ := joined event found
      obtain ⟨before, there, owner'⟩ := names other member
      obtain ⟨after, here, kept⟩ := change.forth counted child there
      exact ⟨after, here, (kept.trans owner').trans owner.symm⟩
    · exact earlier found
  · have bumped := (change.others .event (Ne.symm isEvent) (by simp)).lookup eventId
    rw [quiet, count_nil, Function.iterate_zero, Option.map_id_fun] at bumped
    exact earlier (bumped.symm.trans present)

theorem Shifts.busy_live (live : ∀ record, new = some record → record.resource.release = .live)
    (contextLive : context.resource.release = .live)
    (needed : ∀ other {target} {before : Record A other}, other ≠ .context →
      (s.table other).lookup target = some before →
      ((adjust f)^[(named other).count target] before).busy = true → before.resource.release = .live)
    (other : ObjectKind) {target : ObjectId} {after : Record A other}
    (present : (s'.table other).lookup target = some after) (busy : after.busy = true) :
    after.resource.release = .live := by
  by_cases same : other = kind
  · subst other
    rw [change.table.lookup_after] at present
    split at present
    · exact live after present
    · exact graph.busy_live kind present busy
  by_cases root : other = .context
  · subst other
    obtain ⟨before, found, resource, touched⟩ := change.context_back present
    rcases touched with ⟨_, rfl, _⟩ | ⟨_, rfl⟩
    · exact (congrArg ResourceSlot.release resource).trans contextLive
    · exact graph.busy_live .context found busy
  · obtain ⟨before, found, rfl⟩ := change.back same root present
    rw [Counters.iterate_fixed (fun record => resource_adjust record f)]
    exact needed other root found busy

theorem Shifts.charged (other : ObjectKind) :
    (s'.table other).total charge + (if other = kind then old.elim 0 charge else 0) =
      s.retained.amount other + if other = kind then new.elim 0 charge else 0 := by
  rw [graph.retained]
  by_cases same : other = kind
  · subst other
    rw [if_pos rfl, if_pos rfl]
    exact change.table.total charge
  · rw [if_neg same, if_neg same]
    refine congrArg (· + 0) (change.total_other graph same (fun record => record.charge_adjust _) ?_)
    rintro rfl record
    rfl

end

end

/-- The graph stays exact when a record comes. -/
theorem Consistent.adopt (graph : s.Consistent) (change : Adopts s s' kind id record contextId context) :
    s'.Consistent := by
  have missing := change.table.lookup_before
  refine ⟨change.wellFormed, fun other target after => change.toShifts.owned graph ?_ ?_ other, ?_,
    change.toShifts.flight graph ?_ record.references_event ?_,
    change.toShifts.reference_resolves graph record.references_event ?_ ?_,
    change.toShifts.busy_live graph ?_ change.contextLive ?_, fun other => ?_⟩
  · rintro _ (⟨⟨⟩⟩ | ⟨⟨⟩⟩)
    exact change.owner
  · have room := change.room
    rw [UInt32.toNat_add, UInt32.toNat_one, Nat.mod_eq_of_lt room]
    rfl
  · intro other target after root
    exact change.owner_resolves graph (fun joined same => (Option.some.inj same) ▸ change.owner)
  · rintro _ ⟨⟩
    exact ⟨change.idle, missing⟩
  · intro other target before root event found
    by_cases quiet : target ∈ record.references other
    · obtain ⟨there, stored, _, _, room⟩ := change.referred other quiet
      cases found.symm.trans stored
      exact Counters.iterate_add_one room
    · rw [Option.elim_some, count_eq_zero.mpr quiet]
      rfl
  · rintro _ ⟨⟩
    refine ⟨change.owner, fun other target member => ?_⟩
    obtain ⟨before, there, owner, _⟩ := change.referred other member
    exact ⟨before, there, owner⟩
  · intro eventId event found member
    obtain ⟨before, there, _⟩ := graph.reference_resolves kind found member
    exact nomatch there.symm.trans missing
  · rintro _ ⟨⟩
    exact change.live
  · intro other target before root found busy
    by_cases quiet : target ∈ record.references other
    · obtain ⟨there, stored, _, live, _⟩ := change.referred other quiet
      cases found.symm.trans stored
      exact live
    · rw [count_eq_zero.mpr quiet] at busy
      exact graph.busy_live other found busy
  · rw [change.retained]
    have charged := change.toShifts.charged graph other
    simp only [Option.elim_none, Option.elim_some, ite_self, Nat.add_zero] at charged
    exact charged.symm

/-- A record that is being released is named by no event. -/
theorem Consistent.unreferenced (graph : s.Consistent) (present : (s.table kind).lookup id = some record)
    (releasing : record.resource.release = .releasing) {eventId : ObjectId} {event : EventRecord A}
    (found : s.events.lookup eventId = some event) :
    id ∉ event.references kind := by
  intro member
  have counted := graph.flight kind present
  have one := ObjectTable.weight_le_total graph.events_wellFormed
    (fun event => (event.references kind).count id) found
  have positive := count_pos_iff.mpr member
  have child : kind ≠ .context := by
    rintro rfl
    simp [EventRecord.references] at member
  have busy : record.busy = true := by
    rw [record.busy_iff_inFlight child]
    intro zero
    rw [zero, UInt32.toNat_zero] at counted
    omega
  cases (graph.busy_live kind present busy).symm.trans releasing

/-- The graph stays exact when a record goes. -/
theorem Consistent.drop (graph : s.Consistent) (change : Drops s s' kind id record contextId context) :
    s'.Consistent := by
  have stored := change.table.lookup_before
  have counted : 1 ≤ (context.children.count kind).toNat := by
    have one := ObjectTable.weight_le_total (graph.tables kind)
      (fun record => if record.owner = some contextId then 1 else 0) stored
    rw [graph.owned kind contextId context change.contexts.lookup_before]
    simpa [change.owner] using one
  -- The record's own references are part of each in-flight count it names.
  have enough : ∀ other {target} {before : Record A other}, (s.table other).lookup target = some before →
      (record.references other).count target ≤ before.inFlight.toNat := by
    intro other target before found
    have balance := change.references_total other target
    simp only [Option.elim_none, Option.elim_some, count_nil, Nat.add_zero] at balance
    rw [graph.flight other found]
    omega
  refine ⟨change.wellFormed, fun other target after => change.toShifts.owned graph ?_ ?_ other, ?_,
    change.toShifts.flight graph nofun record.references_event ?_,
    change.toShifts.reference_resolves graph record.references_event nofun ?_,
    change.toShifts.busy_live graph nofun ?_ ?_, fun other => ?_⟩
  · rintro _ (⟨⟨⟩⟩ | ⟨⟨⟩⟩)
    exact change.owner
  · have step := Counters.iterate_sub_one counted
    rw [Function.iterate_one] at step
    rw [step, Option.elim_some, Option.elim_none]
    omega
  · intro other target after root
    exact change.owner_resolves graph (fun joined same => by simp at same)
  · intro other target before root event found
    have sufficient := enough other found
    rw [Counters.iterate_sub_one sufficient, Option.elim_some, Option.elim_none, count_nil]
    omega
  · exact graph.unreferenced stored change.releasing
  · refine graph.context_live change.contexts.lookup_before ?_
    by_contra empty
    have zero := ChildCounts.isEmpty_iff.mp (by simpa using empty) kind
    rw [zero, UInt32.toNat_zero] at counted
    omega
  · intro other target before root found busy
    refine graph.busy_live other found ((before.busy_iff_inFlight root).mpr (fun zero => ?_))
    have none := enough other found
    rw [zero, UInt32.toNat_zero, Nat.le_zero] at none
    rw [none] at busy
    exact (before.busy_iff_inFlight root).mp busy zero
  · have charged := change.toShifts.charged graph other
    have refund := change.retained other
    simp only [Option.elim_none, Option.elim_some, ite_self, Nat.add_zero] at charged
    omega

end VirtioAccel.DeviceState
