import VirtioAccel.Device.OwnershipGraph

namespace VirtioAccel.DeviceState
variable {A : Handles} {kind : ObjectKind}
variable {slot : ResourceSlot (A kind)} {record : Record A kind} {context : ContextRecord A} {named : ObjectId}

@[simp] theorem table_setTable_self (s : DeviceState A) (t : ObjectTable (Record A kind)) :
    (s.setTable kind t).table kind = t := by cases kind <;> rfl

theorem table_setTable_ne (s : DeviceState A) (t : ObjectTable (Record A kind)) {other : ObjectKind}
    (differs : other ≠ kind) : (s.setTable kind t).table other = s.table other := by
  cases kind <;> cases other <;> first | rfl | exact absurd rfl differs

/-- The configuration no operation changes. -/
structure SameConfig (s s' : DeviceState A) : Prop where
  objectNamespace : s'.objectNamespace = s.objectNamespace
  limits : s'.limits = s.limits
  policy : s'.policy = s.policy

theorem SameConfig.trans {first second third : DeviceState A} (left : SameConfig first second)
    (right : SameConfig second third) : SameConfig first third :=
  ⟨right.objectNamespace.trans left.objectNamespace, right.limits.trans left.limits, right.policy.trans left.policy⟩

theorem sameConfig_setTable (s : DeviceState A) (t : ObjectTable (Record A kind)) :
    SameConfig s (s.setTable kind t) := by cases kind <;> exact ⟨rfl, rfl, rfl⟩

@[simp] theorem retained_setTable (s : DeviceState A) (t : ObjectTable (Record A kind)) :
    (s.setTable kind t).retained = s.retained := by cases kind <;> rfl

theorem table_rooted (s : DeviceState A) (contexts : ObjectTable (ContextRecord A)) (retained : RetainedBytes)
    (child : kind ≠ .context) : ({ s with contexts, retained } : DeviceState A).table kind = s.table kind := by
  cases kind with
  | context => exact absurd rfl child
  | buffer | program | queue | event => rfl

/-- Nothing a caller can look up has changed. -/
structure SameView (s s' : DeviceState A) : Prop where
  config : SameConfig s s'
  tables : ∀ kind, (s'.table kind).WellFormed
  descends : ∀ kind, (s.table kind).Descends (s'.table kind)
  lookup : ∀ kind id, (s'.table kind).lookup id = (s.table kind).lookup id
  retained : s'.retained = s.retained

/-- The handle slot of one record is exchanged; a record that is referred to
or has children keeps a live one. -/
structure Reslots (s s' : DeviceState A) (kind : ObjectKind) (id : ObjectId) (record : Record A kind)
    (slot : ResourceSlot (A kind)) : Prop where
  config : SameConfig s s'
  table : (s.table kind).Writes (s'.table kind) id (some record) (some (record.setResource slot))
  others : ∀ other, other ≠ kind → s'.table other = s.table other
  retained : s'.retained = s.retained
  needed : record.busy = true → slot.release = .live

/-- A new context without children. -/
structure Opens (s s' : DeviceState A) (id : ObjectId) (context : ContextRecord A) : Prop where
  config : SameConfig s s'
  contexts : s.contexts.Writes s'.contexts id none (some context)
  others : ∀ other, other ≠ .context → s'.table other = s.table other
  retained : s'.retained = s.retained
  childless : context.children = ChildCounts.zero
  live : context.resource.release = .live

/-- A record leaves the context table after its release. -/
structure Closes (s s' : DeviceState A) (id : ObjectId) (context : ContextRecord A) : Prop where
  config : SameConfig s s'
  contexts : s.contexts.Writes s'.contexts id (some context) none
  others : ∀ other, other ≠ .context → s'.table other = s.table other
  retained : s'.retained = s.retained
  releasing : context.resource.release = .releasing

/-- A record of one context changes, with that context's count for its kind
and the in-flight counts of what the record refers to. -/
structure Shifts (s s' : DeviceState A) (f : UInt32 → UInt32) (kind : ObjectKind) (id : ObjectId)
    (old new : Option (Record A kind)) (named : ObjectKind → List ObjectId) (contextId : ObjectId)
    (context : ContextRecord A) : Prop where
  config : SameConfig s s'
  child : kind ≠ .context
  contexts : s.contexts.Writes s'.contexts contextId (some context)
    (some { context with children := context.children.modify kind f })
  table : (s.table kind).Writes (s'.table kind) id old new
  others : ∀ other, other ≠ kind → other ≠ .context →
    (s.table other).Bumps (s'.table other) (Record.adjust f) (named other)

/-- A new record joins a live context; an event takes a reference to each
object it names. -/
structure Adopts (s s' : DeviceState A) (kind : ObjectKind) (id : ObjectId) (record : Record A kind)
    (contextId : ObjectId) (context : ContextRecord A) : Prop extends
    Shifts s s' (· + 1) kind id none (some record) record.references contextId context where
  retained : ∀ other, s'.retained.amount other = s.retained.amount other + if other = kind then record.charge else 0
  owner : record.owner = some contextId
  idle : record.inFlight = 0
  live : record.resource.release = .live
  contextLive : context.resource.release = .live
  room : (context.children.count kind).toNat + 1 < 2 ^ 32
  referred : ∀ other {target}, target ∈ record.references other →
    ∃ found, (s.table other).lookup target = some found ∧ found.owner = some contextId ∧
      found.resource.release = .live ∧ found.inFlight.toNat + (record.references other).count target < 2 ^ 32

/-- A released record leaves its context and gives its references back. -/
structure Drops (s s' : DeviceState A) (kind : ObjectKind) (id : ObjectId) (record : Record A kind)
    (contextId : ObjectId) (context : ContextRecord A) : Prop extends
    Shifts s s' (· - 1) kind id (some record) none record.references contextId context where
  retained : ∀ other, s'.retained.amount other + (if other = kind then record.charge else 0) =
    s.retained.amount other
  owner : record.owner = some contextId
  releasing : record.resource.release = .releasing

variable {s s' : DeviceState A} {id contextId : ObjectId}

theorem SameView.refl (wf : ∀ kind, (s.table kind).WellFormed) : SameView s s :=
  ⟨⟨rfl, rfl, rfl⟩, wf, fun _ => .refl _, fun _ _ => rfl, rfl⟩

theorem Consistent.sameView (graph : s.Consistent) (same : SameView s s') : s'.Consistent := by
  have contexts : ∀ id, s'.contexts.lookup id = s.contexts.lookup id := same.lookup .context
  have events : ∀ id, s'.events.lookup id = s.events.lookup id := same.lookup .event
  have totals : ∀ kind (f : Record A kind → Nat), (s'.table kind).total f = (s.table kind).total f :=
    fun kind f => ObjectTable.total_eq_of_lookup (graph.tables kind) (same.tables kind) (same.lookup kind) f
  have eventTotals : ∀ f : EventRecord A → Nat, s'.events.total f = s.events.total f := totals .event
  refine ⟨same.tables, ?_, ?_, ?_, ?_, ?_, ?_⟩
  · intro kind id context present
    rw [totals]
    exact graph.owned kind id context ((contexts id).symm.trans present)
  · intro kind id record contextId present owner
    rw [same.lookup] at present
    obtain ⟨context, found⟩ := graph.owner_resolves kind present owner
    exact ⟨context, (contexts contextId).trans found⟩
  · intro kind id record present
    rw [same.lookup] at present
    rw [eventTotals]
    exact graph.flight kind present
  · intro kind eventId event id present member
    rw [events] at present
    obtain ⟨record, found, owner⟩ := graph.reference_resolves kind present member
    exact ⟨record, (same.lookup kind id).trans found, owner⟩
  · intro kind id record present
    rw [same.lookup] at present
    exact graph.busy_live kind present
  · intro kind
    rw [same.retained, totals]
    exact graph.retained kind

section
variable (change : Reslots s s' kind id record slot)
include change

theorem Reslots.back (other : ObjectKind) {after : Record A other}
    (present : (s'.table other).lookup named = some after) :
    ∃ before slot', (s.table other).lookup named = some before ∧ after = before.setResource slot' ∧
      (slot' = before.resource ∨ (before.busy = true → slot'.release = .live)) := by
  by_cases same : other = kind
  · subst other
    rw [change.table.lookup_after] at present
    split at present
    · subst named
      exact ⟨record, slot, change.table.lookup_before, (Option.some.inj present).symm, .inr change.needed⟩
    · exact ⟨after, after.resource, present, after.setResource_resource.symm, .inl rfl⟩
  · rw [change.others other same] at present
    exact ⟨after, after.resource, present, after.setResource_resource.symm, .inl rfl⟩

theorem Reslots.forth (other : ObjectKind) {before : Record A other}
    (present : (s.table other).lookup named = some before) :
    ∃ slot', (s'.table other).lookup named = some (before.setResource slot') := by
  by_cases same : other = kind
  · subst other
    rw [change.table.lookup_after]
    by_cases here : named = id
    · subst named
      have stored := Option.some.inj (present.symm.trans change.table.lookup_before)
      exact ⟨slot, by rw [if_pos rfl, stored]⟩
    · exact ⟨before.resource, by rw [if_neg here, before.setResource_resource]; exact present⟩
  · rw [change.others other same]
    exact ⟨before.resource, by rw [before.setResource_resource]; exact present⟩

theorem Reslots.total (other : ObjectKind) {f : Record A other → Nat}
    (blind : ∀ before slot', f (before.setResource slot') = f before) :
    (s'.table other).total f = (s.table other).total f := by
  by_cases same : other = kind
  · subst other
    have balance := change.table.total f
    simp only [Option.elim_some, blind] at balance
    omega
  · rw [change.others other same]

end

section
variable (graph : s.Consistent)
include graph

/-- The graph stays exact when a resource is taken or put back. -/
theorem Consistent.reslot (change : Reslots s s' kind id record slot) : s'.Consistent := by
  have eventTotals : ∀ kind id, s'.events.total (fun event => (event.references kind).count id) =
      s.events.total (fun event => (event.references kind).count id) := fun kind id =>
    change.total .event (f := fun event => (EventRecord.references event kind).count id)
      (fun before slot' => by cases kind <;> rfl)
  refine ⟨?_, ?_, ?_, ?_, ?_, ?_, ?_⟩
  · intro other
    by_cases same : other = kind
    · subst other
      exact change.table.wellFormed
    rw [change.others other same]
    exact graph.tables other
  · intro other named context present
    obtain ⟨before, slot', found, rfl, _⟩ := change.back .context present
    rw [change.total other (fun before slot' => by rw [Record.owner_setResource])]
    exact graph.owned other named before found
  · intro other named after contextId present owner
    obtain ⟨before, slot', found, rfl, _⟩ := change.back other present
    rw [Record.owner_setResource] at owner
    obtain ⟨context, there⟩ := graph.owner_resolves other found owner
    obtain ⟨slot', here⟩ := change.forth .context there
    exact ⟨_, here⟩
  · intro other named after present
    obtain ⟨before, slot', found, rfl, _⟩ := change.back other present
    rw [eventTotals, Record.inFlight_setResource]
    exact graph.flight other found
  · intro other eventId event named present member
    obtain ⟨before, slot', found, rfl, _⟩ := change.back .event present
    have named' : named ∈ EventRecord.references before other := by cases other <;> exact member
    obtain ⟨target, there, owner⟩ := graph.reference_resolves other found named'
    obtain ⟨slot'', here⟩ := change.forth other there
    exact ⟨_, here, by rw [Record.owner_setResource]; exact owner⟩
  · intro other named after present busy
    obtain ⟨before, slot', found, rfl, kept⟩ := change.back other present
    rw [Record.busy_setResource] at busy
    rw [Record.resource_setResource]
    rcases kept with rfl | live
    · exact graph.busy_live other found busy
    · exact live busy
  · intro other
    rw [change.retained, change.total other (fun before slot' => by rw [Record.charge_setResource])]
    exact graph.retained other

/-- A change of the context table alone. -/
theorem Consistent.of_contexts (wf : s'.contexts.WellFormed)
    (others : ∀ other, other ≠ .context → s'.table other = s.table other) (retained : s'.retained = s.retained)
    (owned : ∀ other named context, other ≠ .context → s'.contexts.lookup named = some context →
      (context.children.count other).toNat =
        (s.table other).total (fun record => if record.owner = some named then 1 else 0))
    (owners : ∀ other {named} {record : Record A other} {contextId}, (s.table other).lookup named = some record →
      record.owner = some contextId → ∃ context, s'.contexts.lookup contextId = some context)
    (live : ∀ {named context}, s'.contexts.lookup named = some context → context.children.isEmpty = false →
      context.resource.release = .live) : s'.Consistent := by
  have events : s'.events = s.events := others .event (by simp)
  refine ⟨?_, ?_, ?_, ?_, ?_, ?_, ?_⟩
  · intro other
    by_cases same : other = .context
    · subst other
      exact wf
    rw [others other same]
    exact graph.tables other
  · intro other named after present
    by_cases same : other = .context
    · subst other
      exact (ObjectTable.total_eq_zero wf (fun _ _ _ => by simp [Record.owner])).symm
    rw [others other same]
    exact owned other named after same present
  · intro other named record contextId present owner
    by_cases same : other = .context
    · subst other
      simp [Record.owner] at owner
    rw [others other same] at present
    exact owners other present owner
  · intro other named record present
    rw [events]
    by_cases same : other = .context
    · subst other
      exact (ObjectTable.total_eq_zero (graph.tables .event) (fun _ _ _ => rfl)).symm
    rw [others other same] at present
    exact graph.flight other present
  · intro other eventId event named present member
    by_cases same : other = .context
    · subst other
      simp [EventRecord.references] at member
    rw [events] at present
    rw [others other same]
    exact graph.reference_resolves other present member
  · intro other named record present busy
    by_cases same : other = .context
    · subst other
      exact live present (by simpa [Record.busy] using busy)
    rw [others other same] at present
    exact graph.busy_live other present busy
  · intro other
    rw [retained]
    by_cases same : other = .context
    · subst other
      exact (ObjectTable.total_eq_zero wf (fun _ _ _ => rfl)).symm
    rw [others other same]
    exact graph.retained other

theorem Consistent.context_live (present : s.contexts.lookup id = some context)
    (children : context.children.isEmpty = false) :
    context.resource.release = .live :=
  graph.busy_live .context present (by simp [Record.busy, children])

theorem Consistent.open (change : Opens s s' id context) : s'.Consistent := by
  have lookups := change.contexts.lookup_after
  refine graph.of_contexts change.contexts.wellFormed change.others change.retained ?_ ?_ ?_
  · intro other named after child present
    rw [lookups] at present
    split at present
    · rename_i here
      subst named
      cases present
      rw [change.childless, ObjectTable.total_eq_zero (graph.tables other)]
      · cases other <;> rfl
      intro child record found
      rw [if_neg]
      intro owner
      obtain ⟨old, there⟩ := graph.owner_resolves other found owner
      exact nomatch there.symm.trans change.contexts.lookup_before
    · exact graph.owned other named after present
  · intro other named record contextId found owner
    obtain ⟨old, there⟩ := graph.owner_resolves other found owner
    by_cases here : contextId = id
    · subst contextId
      exact nomatch there.symm.trans change.contexts.lookup_before
    · exact ⟨old, by rw [lookups, if_neg here]; exact there⟩
  · intro named after present children
    rw [lookups] at present
    split at present
    · cases present
      exact change.live
    · exact graph.context_live present children

theorem Consistent.childless (present : s.contexts.lookup id = some context)
    (releasing : context.resource.release = .releasing) (kind : ObjectKind) {record : Record A kind}
    (found : (s.table kind).lookup named = some record) :
    record.owner ≠ some id := by
  intro owner
  have idle : context.children.isEmpty = true := by
    by_contra busy
    have live := graph.context_live present (by simpa using busy)
    exact nomatch live.symm.trans releasing
  have counted := graph.owned kind id context present
  have one := ObjectTable.weight_le_total (graph.tables kind)
    (fun record => if record.owner = some id then 1 else 0) found
  rw [ChildCounts.isEmpty_iff.mp idle kind, UInt32.toNat_zero] at counted
  simp only [owner, if_true] at one
  omega

theorem Consistent.close (change : Closes s s' id context) : s'.Consistent := by
  have lookups := change.contexts.lookup_after
  have back : ∀ {named after}, s'.contexts.lookup named = some after → s.contexts.lookup named = some after :=
    fun {named after} present => by
      rw [lookups] at present
      split at present
      · simp at present
      · exact present
  refine graph.of_contexts change.contexts.wellFormed change.others change.retained ?_ ?_ ?_
  · exact fun other named after _ present => graph.owned other named after (back present)
  · intro other named record contextId found owner
    obtain ⟨old, there⟩ := graph.owner_resolves other found owner
    have elsewhere : contextId ≠ id := by
      rintro rfl
      exact graph.childless change.contexts.lookup_before change.releasing other found owner
    exact ⟨old, by rw [lookups, if_neg elsewhere]; exact there⟩
  · exact fun present children => graph.context_live (back present) children

end

end VirtioAccel.DeviceState
