import VirtioAccel.Device.EngineMoves

/-! What each change of the state leaves alone: every other object keeps its
handle and its charge, and the counts and totals change by one object. -/

namespace VirtioAccel.DeviceState
variable {A : Handles} {s middle s' : DeviceState A} {kind : ObjectKind} {id : ObjectId} {record : Record A kind}
variable {slot : ResourceSlot (A kind)} {named : ObjectKind → List ObjectId} {old new : Option (Record A kind)}
  {f : UInt32 → UInt32} {context : ContextRecord A} {contextId : ObjectId}

/-- Every object but one that is there afterwards was there before, with the
same handle and the same charge. -/
def Frame (s s' : DeviceState A) (kind : ObjectKind) (id : ObjectId) : Prop :=
  ∀ other {target} {after : Record A other}, ¬ (other = kind ∧ target = id) →
    (s'.table other).lookup target = some after →
    ∃ before, (s.table other).lookup target = some before ∧ after.resource = before.resource ∧
      after.charge = before.charge

theorem Frame.trans (first : Frame s middle kind id) (second : Frame middle s' kind id) : Frame s s' kind id := by
  intro other target after elsewhere present
  obtain ⟨mid, found, resource, charge⟩ := second other elsewhere present
  obtain ⟨before, stored, resource', charge'⟩ := first other elsewhere found
  exact ⟨before, stored, resource.trans resource', charge.trans charge'⟩

/-- One record of one table is written. -/
theorem Frame.of_writes {old new : Option (Record A kind)}
    (table : (s.table kind).Writes (s'.table kind) id old new)
    (others : ∀ other, other ≠ kind → s'.table other = s.table other) : Frame s s' kind id := by
  intro other target after elsewhere present
  by_cases same : other = kind
  · subst other
    rw [table.lookup_other (fun here => elsewhere ⟨rfl, here⟩)] at present
    exact ⟨after, present, rfl, rfl⟩
  · rw [others other same] at present
    exact ⟨after, present, rfl, rfl⟩

theorem Reslots.frame (change : Reslots s s' kind id record slot) : Frame s s' kind id :=
  .of_writes change.table change.others

theorem Shifts.frame (change : Shifts s s' f kind id old new named contextId context) : Frame s s' kind id := by
  intro other target after elsewhere present
  by_cases same : other = kind
  · subst other
    rw [change.table.lookup_other (fun here => elsewhere ⟨rfl, here⟩)] at present
    exact ⟨after, present, rfl, rfl⟩
  · by_cases root : other = .context
    · subst other
      obtain ⟨before, found, resource, _⟩ := change.context_back present
      exact ⟨before, found, resource, rfl⟩
    · obtain ⟨before, found, rfl⟩ := change.back same root present
      exact ⟨before, found, Counters.iterate_fixed (fun record => record.resource_adjust f) _ _,
        Counters.iterate_fixed (fun record => record.charge_adjust f) _ _⟩

/-- What is measured on the handles alone changes by the one record. -/
theorem Shifts.weighed (change : Shifts s s' f kind id old new named contextId context)
    (weight : ∀ kind, ResourceSlot (A kind) → Nat) (other : ObjectKind) :
    (s'.table other).total (fun record => weight other record.resource) +
        (if other = kind then old.elim 0 (fun record => weight kind record.resource) else 0) =
      (s.table other).total (fun record => weight other record.resource) +
        if other = kind then new.elim 0 (fun record => weight kind record.resource) else 0 := by
  by_cases same : other = kind
  · subst other
    simpa using change.table.total (fun record => weight kind record.resource)
  rw [if_neg same, if_neg same]
  by_cases root : other = .context
  · subst other
    have counted := change.contexts.total (fun context => weight .context context.resource)
    exact congrArg (· + 0) (Nat.add_right_cancel counted)
  · exact congrArg (· + 0) ((change.others other same root).total _ (fun record => by rw [record.resource_adjust]))

theorem Gains.frame (change : Gains s s' kind id record) : Frame s s' kind id := by
  cases change with
  | context opens => exact .of_writes opens.contexts opens.others
  | child adopts => exact adopts.toShifts.frame

theorem Retires.frame (change : Retires s s' kind id record) : Frame s s' kind id := by
  cases change with
  | context closes => exact .of_writes closes.contexts closes.others
  | child drops => exact drops.toShifts.frame

theorem Frees.frame (change : Frees s s' kind id record) : Frame s s' kind id := by
  obtain ⟨_, begun, retires⟩ := change
  exact begun.frame.trans retires.frame

theorem Gains.present (change : Gains s s' kind id record) :
    (s.table kind).lookup id = none ∧ (s'.table kind).lookup id = some record := by
  cases change with
  | context opens => exact ⟨opens.contexts.lookup_before, opens.contexts.lookup_self⟩
  | child adopts => exact ⟨adopts.table.lookup_before, adopts.table.lookup_self⟩

theorem Retires.lookup_before (change : Retires s s' kind id record) : (s.table kind).lookup id = some record := by
  cases change with
  | context closes => exact closes.contexts.lookup_before
  | child drops => exact drops.table.lookup_before

theorem Retires.gone (change : Retires s s' kind id record) : (s'.table kind).lookup id = none := by
  cases change with
  | context closes => exact closes.contexts.lookup_self
  | child drops => exact drops.table.lookup_self

theorem Frees.gone (change : Frees s s' kind id record) : (s'.table kind).lookup id = none := by
  obtain ⟨_, _, retires⟩ := change
  exact retires.gone

theorem Gains.weighed (change : Gains s s' kind id record) (weight : ∀ kind, ResourceSlot (A kind) → Nat)
    (other : ObjectKind) :
    (s'.table other).total (fun record => weight other record.resource) =
      (s.table other).total (fun record => weight other record.resource) +
        if other = kind then weight kind record.resource else 0 := by
  cases change with
  | context opens =>
    by_cases same : other = .context
    · subst other
      rw [if_pos rfl]
      exact opens.contexts.total (fun context => weight .context context.resource)
    · rw [opens.others other same, if_neg same, Nat.add_zero]
  | child adopts => simpa using adopts.toShifts.weighed weight other

theorem Gains.len (change : Gains s s' kind id record) (other : ObjectKind) :
    (s'.table other).total (fun _ => 1) = (s.table other).total (fun _ => 1) + if other = kind then 1 else 0 :=
  change.weighed (fun _ _ => 1) other

theorem Retires.weighed (change : Retires s s' kind id record) (weight : ∀ kind, ResourceSlot (A kind) → Nat)
    (other : ObjectKind) :
    (s'.table other).total (fun record => weight other record.resource) +
        (if other = kind then weight kind record.resource else 0) =
      (s.table other).total (fun record => weight other record.resource) := by
  cases change with
  | context closes =>
    by_cases same : other = .context
    · subst other
      rw [if_pos rfl]
      exact closes.contexts.total (fun context => weight .context context.resource)
    · rw [closes.others other same, if_neg same, Nat.add_zero]
  | child drops => simpa using drops.toShifts.weighed weight other

theorem Retires.len (change : Retires s s' kind id record) (other : ObjectKind) :
    (s'.table other).total (fun _ => 1) + (if other = kind then 1 else 0) = (s.table other).total (fun _ => 1) :=
  change.weighed (fun _ _ => 1) other

theorem Reslots.weighed (change : Reslots s s' kind id record slot) (weight : ∀ kind, ResourceSlot (A kind) → Nat)
    (other : ObjectKind) :
    (s'.table other).total (fun record => weight other record.resource) +
        (if other = kind then weight kind record.resource else 0) =
      (s.table other).total (fun record => weight other record.resource) +
        if other = kind then weight kind slot else 0 := by
  by_cases same : other = kind
  · subst other
    simpa using change.table.total (fun record => weight kind record.resource)
  · rw [change.others other same, if_neg same, if_neg same]

theorem Frees.len (change : Frees s s' kind id record) (other : ObjectKind) :
    (s'.table other).total (fun _ => 1) + (if other = kind then 1 else 0) = (s.table other).total (fun _ => 1) := by
  obtain ⟨_, begun, retires⟩ := change
  rw [retires.len other]
  exact begun.total other (fun _ _ => rfl)

theorem Gains.retained (change : Gains s s' kind id record) (other : ObjectKind) :
    s'.retained.amount other = s.retained.amount other + if other = kind then record.charge else 0 := by
  cases change with
  | context opens => rw [opens.retained]; simp [Record.charge]
  | child adopts => exact adopts.retained other

theorem Frees.retained (change : Frees s s' kind id record) (other : ObjectKind) :
    s'.retained.amount other + (if other = kind then record.charge else 0) = s.retained.amount other := by
  obtain ⟨_, begun, retires⟩ := change
  rw [← begun.retained]
  cases retires with
  | context closes => rw [closes.retained]; simp [Record.charge]
  | child drops => simpa using drops.retained other

/-! No change leaves the epoch. -/

theorem Reslots.descends (change : Reslots s s' kind id record slot) (other : ObjectKind) :
    (s.table other).Descends (s'.table other) := by
  by_cases same : other = kind
  · subst other
    exact change.table.descends
  rw [change.others other same]
  exact .refl _

theorem Shifts.descends (change : Shifts s s' f kind id old new named contextId context) (other : ObjectKind) :
    (s.table other).Descends (s'.table other) := by
  by_cases same : other = kind
  · subst other
    exact change.table.descends
  by_cases root : other = .context
  · subst other
    exact change.contexts.descends
  · exact (change.others other same root).descends

theorem Gains.descends (change : Gains s s' kind id record) (other : ObjectKind) :
    (s.table other).Descends (s'.table other) := by
  cases change with
  | context opens =>
    by_cases same : other = .context
    · subst other
      exact opens.contexts.descends
    rw [opens.others other same]
    exact .refl _
  | child adopts => exact adopts.toShifts.descends other

theorem Retires.descends (change : Retires s s' kind id record) (other : ObjectKind) :
    (s.table other).Descends (s'.table other) := by
  cases change with
  | context closes =>
    by_cases same : other = .context
    · subst other
      exact closes.contexts.descends
    rw [closes.others other same]
    exact .refl _
  | child drops => exact drops.toShifts.descends other

theorem Frees.descends (change : Frees s s' kind id record) (other : ObjectKind) :
    (s.table other).Descends (s'.table other) := by
  obtain ⟨_, begun, retires⟩ := change
  exact (begun.descends other).trans (retires.descends other)

theorem Gains.config (change : Gains s s' kind id record) : SameConfig s s' := by
  cases change with
  | context opens | child opens => exact opens.config

theorem Frees.config (change : Frees s s' kind id record) : SameConfig s s' := by
  obtain ⟨_, begun, retires⟩ := change
  refine begun.config.trans ?_
  cases retires with
  | context closes | child closes => exact closes.config

/-- Two states of one epoch. -/
structure SameEpoch (s s' : DeviceState A) : Prop where
  config : SameConfig s s'
  descends : ∀ kind, (s.table kind).Descends (s'.table kind)

theorem SameEpoch.refl (s : DeviceState A) : SameEpoch s s := ⟨⟨rfl, rfl, rfl⟩, fun _ => .refl _⟩

theorem SameEpoch.trans (first : SameEpoch s middle) (second : SameEpoch middle s') : SameEpoch s s' :=
  ⟨first.config.trans second.config, fun kind => (first.descends kind).trans (second.descends kind)⟩

theorem SameView.sameEpoch (same : SameView s s') : SameEpoch s s' := ⟨same.config, same.descends⟩

theorem Reslots.sameEpoch (change : Reslots s s' kind id record slot) :
    SameEpoch s s' := ⟨change.config, change.descends⟩

theorem Gains.sameEpoch (change : Gains s s' kind id record) : SameEpoch s s' := ⟨change.config, change.descends⟩

theorem Frees.sameEpoch (change : Frees s s' kind id record) : SameEpoch s s' := ⟨change.config, change.descends⟩

/-- A record that refers to nothing and leaves as it came leaves no trace but
its identifier. -/
theorem Gains.withdrawn (graph : s.Consistent) (child : kind ≠ .context) (quiet : kind ≠ .event)
    (gains : Gains s middle kind id record) (frees : Frees middle s' kind id record) : SameView s s' := by
  refine ⟨gains.config.trans frees.config, ((graph.gain gains).free frees).tables,
    fun other => (gains.descends other).trans (frees.descends other), ?_, ?_⟩
  · obtain ⟨begun, reslots, retires⟩ := frees
    cases gains with
    | context => exact absurd rfl child
    | @child _ _ _ contextId context adopts =>
      cases retires with
      | context => exact absurd rfl child
      | @child _ _ _ contextId' context' drops =>
        have owner : contextId' = contextId := by
          have owned := drops.owner
          rw [Record.owner_setResource, adopts.owner] at owned
          exact (Option.some.inj owned).symm
        subst owner
        intro other target
        by_cases same : other = kind
        · subst other
          rw [drops.table.lookup_after]
          split
          · rename_i here
            rw [here, adopts.table.lookup_before]
          rename_i elsewhere
          rw [reslots.table.lookup_other elsewhere, adopts.table.lookup_other elsewhere]
        · by_cases root : other = .context
          · subst other
            have contexts : begun.contexts = middle.contexts := reslots.others .context same
            have joined := adopts.contexts.lookup_after
            have left := drops.contexts.lookup_after target
            have before := drops.contexts.lookup_before
            rw [contexts, joined, if_pos rfl] at before
            cases before
            refine left.trans ?_
            split
            · rename_i here
              subst here
              refine (congrArg some ?_).trans adopts.contexts.lookup_before.symm
              cases kind <;> simp [ChildCounts.modify]
            · rename_i elsewhere
              rw [contexts, joined, if_neg elsewhere]
              rfl
          · have kept := reslots.others other same
            rw [(drops.others other same root).lookup, kept, (adopts.others other same root).lookup,
              Record.references_eq_nil quiet, Record.references_eq_nil quiet]
            simp
  · have total := fun other => (frees.retained other).trans (gains.retained other)
    have buffers := Nat.add_right_cancel (total .buffer)
    have programs := Nat.add_right_cancel (total .program)
    cases kept : s'.retained
    cases had : s.retained
    rw [kept, had] at buffers programs
    exact congrArg₂ RetainedBytes.mk buffers programs

end VirtioAccel.DeviceState
