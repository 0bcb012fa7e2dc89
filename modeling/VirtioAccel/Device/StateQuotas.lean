import Mathlib.Algebra.BigOperators.Ring.List
import VirtioAccel.Device.StateBudgets

/-! The quotas of a device state, and its reference counters. -/

namespace VirtioAccel
open Checked List ObjectTable DeviceState
variable {contextId : ObjectId} {ids : List ObjectId} {ns : ObjectNamespace} {policy : ResourcePolicy}
  {limits : DeviceLimits}

namespace DeviceState
variable {A : Handles} {ω ε : Type} {s s' : DeviceState A} {w : ω} {operation : Operation A ω ε} {kind : ObjectKind}
  {id : ObjectId}
variable {after : ContextRecord A} {target : ObjectId} {record : Record A kind}

/-- How many objects of a kind a context may have. -/
def perContext (limits : DeviceLimits) : ObjectKind → UInt32
  | .context => 0
  | .buffer => limits.maxBuffersPerContext
  | .program => limits.maxProgramsPerContext
  | .queue => limits.maxQueuesPerContext
  | .event => limits.maxEventsPerContext

/-- There are no more contexts, and no context has more objects of a kind, than the limits say. -/
structure WithinQuotas (s : DeviceState A) : Prop where
  contexts : s.contexts.len ≤ s.limits.maxContexts
  children : ∀ id context, s.contexts.lookup id = some context →
    ∀ kind, context.children.count kind ≤ perContext s.limits kind

theorem Effect.contexts_len (effect : Effect s w operation s') (graph : s.Consistent) (graph' : s'.Consistent)
    (quotas : s.WithinQuotas) : s'.contexts.len ≤ s.limits.maxContexts := by
  have before := UInt32.le_iff_toNat_le.mp quotas.contexts
  have counted := len_eq_total graph.contexts_wellFormed
  have counted' := len_eq_total graph'.contexts_wellFormed
  by_cases creates : operation.creates = some .context
  · cases effect with
    | refused => exact quotas.contexts
    | context _ below _ opens =>
      have grown : s'.contexts.total (fun _ => 1) = s.contexts.total (fun _ => 1) + 1 :=
        opens.contexts.total (fun _ => 1)
      have less := UInt32.lt_iff_toNat_lt.mp below
      rw [UInt32.le_iff_toNat_le]
      omega
    | buffer | program | queue | event | sequence | begun | restored | committed | written => cases creates
  · have fewer : (s'.table .context).total (fun _ => 1) ≤ (s.table .context).total (fun _ => 1) := by
      rw [total_eq_sum_ids (graph.tables .context), total_eq_sum_ids (graph'.tables .context)]
      refine weigh_le (graph.tables .context) (graph'.tables .context) (fun id after present => .inr ?_)
      obtain ⟨record, found, _⟩ := effect.found creates present
      exact ⟨record, found, Nat.le_refl _⟩
    have fewer : s'.contexts.total (fun _ => 1) ≤ s.contexts.total (fun _ => 1) := fewer
    rw [UInt32.le_iff_toNat_le]
    omega

theorem Adopts.within {context : ContextRecord A}
    (adopts : Adopts s s' kind id record contextId context) (quotas : s.WithinQuotas)
    (below : context.children.count kind < perContext s.limits kind)
    (present : s'.contexts.lookup target = some after) (other : ObjectKind) :
    after.children.count other ≤ perContext s.limits other := by
  obtain ⟨before, found, _, ⟨rfl, rfl, children⟩ | ⟨_, rfl⟩⟩ := adopts.context_back present
  · rw [children]
    by_cases same : other = kind
    · subst other
      have less := UInt32.lt_iff_toNat_lt.mp below
      have limit := (perContext s.limits kind).toNat_lt
      rw [ChildCounts.count_modify_self adopts.child, UInt32.le_iff_toNat_le, UInt32.toNat_add, UInt32.toNat_one]
      omega
    · rw [ChildCounts.count_modify_ne same]
      exact quotas.children _ _ found other
  · exact quotas.children _ _ found other

theorem Drops.within {context : ContextRecord A}
    (drops : Drops s s' kind id record contextId context) (graph : s.Consistent) (quotas : s.WithinQuotas)
    (present : s'.contexts.lookup target = some after) (other : ObjectKind) :
    after.children.count other ≤ perContext s.limits other := by
  obtain ⟨before, found, _, ⟨rfl, rfl, children⟩ | ⟨_, rfl⟩⟩ := drops.context_back present
  · refine UInt32.le_trans ?_ (quotas.children _ _ found other)
    rw [children]
    by_cases same : other = kind
    · subst other
      -- The count of a context includes the record that leaves.
      have counted := graph.owned kind _ before found
      have one := weight_le_total (graph.tables kind) (fun record => if record.owner = some target then 1 else 0)
        drops.table.lookup_before
      rw [if_pos drops.owner, ← counted] at one
      have enough : (1 : UInt32) ≤ before.children.count kind := UInt32.le_iff_toNat_le.mpr one
      rw [ChildCounts.count_modify_self drops.child, UInt32.le_iff_toNat_le, UInt32.toNat_sub_of_le _ _ enough]
      exact Nat.sub_le _ _
    · rw [ChildCounts.count_modify_ne same]
      exact UInt32.le_refl _
  · exact quotas.children _ _ found other

theorem Reslots.context_children {slot : ResourceSlot (A kind)}
    (reslots : Reslots s s' kind id record slot) (present : s'.contexts.lookup target = some after) :
    ∃ before, s.contexts.lookup target = some before ∧ after.children = before.children := by
  have present : (s'.table .context).lookup target = some after := present
  obtain ⟨before, slot', found, rfl, _⟩ := reslots.back .context present
  exact ⟨before, found, rfl⟩

theorem Effect.children (effect : Effect s w operation s') (graph : s.Consistent) (quotas : s.WithinQuotas)
    (present : s'.contexts.lookup id = some after) (other : ObjectKind) :
    after.children.count other ≤ perContext s.limits other := by
  cases effect with
  | refused => exact quotas.children _ _ present other
  | context _ _ _ opens =>
    rw [opens.contexts.lookup_after] at present
    split at present
    · cases present
      cases other <;> exact UInt32.zero_le
    · exact quotas.children _ _ present other
  | buffer _ below _ adopts | program _ below _ _ adopts | queue _ below _ adopts =>
    exact adopts.within quotas below present other
  | event _ _ _ admitted adopts | sequence _ _ _ _ admitted adopts =>
    exact adopts.within quotas admitted.below present other
  | begun _ _ _ reslots | restored _ _ reslots | written _ reslots =>
    obtain ⟨before, found, same⟩ := reslots.context_children present
    rw [same]
    exact quotas.children _ _ found other
  | committed _ retires =>
    cases retires with
    | context closes =>
      rw [closes.contexts.lookup_after] at present
      split at present
      · cases present
      · exact quotas.children _ _ present other
    | child drops => exact drops.within graph quotas present other

theorem WithinQuotas.step (quotas : s.WithinQuotas) (graph : s.Consistent) (w : ω) (operation : Operation A ω ε) :
    (step (s, w) operation).1.WithinQuotas := by
  have effect := step_effect graph w operation
  have graph' := graph.change (step_change graph w operation)
  generalize (DeviceState.step (s, w) operation).1 = s' at effect graph'
  constructor
  · rw [effect.config.limits]
    exact effect.contexts_len graph graph' quotas
  intro id context present kind
  rw [effect.config.limits]
  exact effect.children graph quotas present kind

theorem run_withinQuotas {start : DeviceState A × ω} (graph : start.1.Consistent) (quotas : start.1.WithinQuotas)
    (operations : List (Operation A ω ε)) : (run start operations).1.WithinQuotas := by
  induction operations generalizing start with
  | nil => exact quotas
  | cons operation rest ih =>
    exact ih (graph.change (step_change graph start.2 operation)) (quotas.step graph start.2 operation)

theorem new_withinQuotas (created : new ns limits policy = .ok s) : s.WithinQuotas := by
  have none : s.contexts.len = 0 := new_empty created .context
  constructor
  · rw [none]
    exact UInt32.zero_le
  intro id context present
  have missing := ((new_consistent created).empty_table (new_empty created .context)).2.2 id
  exact nomatch missing.symm.trans present

/-! The reference counters -/

end DeviceState

/-- One of the increments, made one by one in this order, meets a counter that is
at its maximum. -/
def ObjectTable.Overflows {T : Type} (t : ObjectTable T) (count : T → UInt32) (bump : T → T) (ids : List ObjectId) :
    Prop :=
  ∃ earlier id later record, ids = earlier ++ id :: later ∧ (t.mutateEach bump earlier).2.lookup id = some record ∧
    count record = 4294967295

theorem ObjectTable.overflows_iff {T : Type} {t : ObjectTable T} (wf : t.WellFormed) {count : T → UInt32}
    {bump : T → T}
    (counts : ∀ record, count (bump record) = count record + 1) (resolves : ∀ id ∈ ids, t.lookup id ≠ none) :
    t.Overflows count bump ids ↔
      ∃ id record, id ∈ ids ∧ t.lookup id = some record ∧ 2 ^ 32 ≤ (count record).toNat + ids.count id := by
  have stepped : ∀ n record, (count (bump^[n] record)).toNat = ((count record).toNat + n) % 2 ^ 32 := by
    intro n record
    induction n generalizing record with
    | zero => exact (Nat.mod_eq_of_lt (count record).toNat_lt).symm
    | succ n ih =>
      rw [Function.iterate_succ_apply, ih, counts, UInt32.toNat_add, UInt32.toNat_one]
      omega
  constructor
  · rintro ⟨earlier, id, later, record, rfl, found, full⟩
    obtain ⟨after, done, bumps⟩ := mutateEach_bumps wf bump
      (fun other member => resolves other (mem_append_left _ member))
    rw [done, bumps.lookup] at found
    obtain ⟨before, stored, rfl⟩ := Option.map_eq_some_iff.mp found
    have top := congrArg UInt32.toNat full
    rw [stepped, show (4294967295 : UInt32).toNat = 4294967295 from rfl] at top
    refine ⟨id, before, mem_append_right _ (mem_cons_self ..), stored, ?_⟩
    rw [count_append, count_cons_self]
    omega
  · rintro ⟨id, record, member, stored, large⟩
    -- The increment that finds the counter full is the one after those that fill it.
    have below : 4294967295 - (count record).toNat < ids.count id := by
      have word := (count record).toNat_lt
      omega
    obtain ⟨earlier, later, rfl, times⟩ := Counters.occurrence_split below
    obtain ⟨after, done, bumps⟩ := mutateEach_bumps wf bump
      (fun other inside => resolves other (mem_append_left _ inside))
    refine ⟨earlier, id, later, bump^[earlier.count id] record, rfl, ?_, ?_⟩
    · rw [done, bumps.lookup, stored]
      rfl
    have word := (count record).toNat_lt
    refine UInt32.toNat_inj.mp ?_
    rw [stepped, show (4294967295 : UInt32).toNat = 4294967295 from rfl]
    omega

namespace DeviceState
variable {A : Handles} {ω ε : Type} {s s' : DeviceState A} {w : ω} {operation : Operation A ω ε} {kind : ObjectKind}
  {id : ObjectId}
variable {bufferIds : List ObjectId} {after : EventRecord A} {queueId : ObjectId} {R : Type}
variable {context : ContextRecord A}

/-- One of the increments that an event takes meets a counter at its maximum. -/
def IncrementOverflows (s : DeviceState A) (queueId : ObjectId) (programIds bufferIds : List ObjectId) : Prop :=
  s.queues.Overflows QueueRecord.inFlight (fun record => { record with inFlight := record.inFlight + 1 })
    [queueId] ∨
  s.programs.Overflows ProgramRecord.inFlight (fun record => { record with inFlight := record.inFlight + 1 })
  programIds ∨
  s.buffers.Overflows BufferRecord.inFlight (fun record =>
    { record with inFlight := record.inFlight + 1 }) bufferIds

/-- Every counter has room for all that a submission adds to it. -/
def HasRoom (s : DeviceState A) (names : ObjectKind → List ObjectId) : Prop :=
  ∀ kind {id} {record : Record A kind}, id ∈ names kind → (s.table kind).lookup id = some record →
    record.inFlight.toNat + (names kind).count id < 2 ^ 32

theorem incrementOverflows_iff (wf : ∀ kind, (s.table kind).WellFormed) {programIds : List ObjectId}
    (members : s.Submittable (named queueId programIds bufferIds) contextId) :
    s.IncrementOverflows queueId programIds bufferIds ↔ ¬ s.HasRoom (named queueId programIds bufferIds) := by
  have resolves : ∀ kind id, id ∈ named queueId programIds bufferIds kind → (s.table kind).lookup id ≠ none := by
    intro kind id member missing
    obtain ⟨record, found, _⟩ := members kind id member
    exact nomatch found.symm.trans missing
  refine (or_congr (overflows_iff (wf .queue) (fun _ => rfl) (resolves .queue))
    (or_congr (overflows_iff (wf .program) (fun _ => rfl) (resolves .program))
      (overflows_iff (wf .buffer) (fun _ => rfl) (resolves .buffer)))).trans ?_
  constructor
  · rintro (⟨id, record, member, found, large⟩ | ⟨id, record, member, found, large⟩ | ⟨id, record, member, found,
      large⟩) room
    · exact Nat.not_lt.mpr large (room .queue member found)
    · exact Nat.not_lt.mpr large (room .program member found)
    · exact Nat.not_lt.mpr large (room .buffer member found)
  intro cramped
  by_contra none
  obtain ⟨queue, none⟩ := not_or.mp none
  obtain ⟨program, buffer⟩ := not_or.mp none
  refine cramped (fun kind {id record} member found => ?_)
  cases kind with
  | context | event => cases member
  | queue => exact Nat.not_le.mp (fun large => queue ⟨id, record, member, found, large⟩)
  | program => exact Nat.not_le.mp (fun large => program ⟨id, record, member, found, large⟩)
  | buffer => exact Nat.not_le.mp (fun large => buffer ⟨id, record, member, found, large⟩)

theorem checkProgramIncrements_ok {seen : List ObjectId}
    (each : ∀ id ∈ ids, ∃ program, s.programs.lookup id = some program ∧
      program.inFlight.toNat + ids.count id < 2 ^ 32) :
    s.checkProgramIncrements seen ids = .ok () := by
  induction ids generalizing seen with
  | nil => rfl
  | cons first rest ih =>
    refine bind_eq_ok.mpr ⟨(), ?_, ih (fun id member => ?_)⟩
    · unfold checkProgramIncrement
      split
      · rfl
      obtain ⟨program, found, room⟩ := each first (mem_cons_self ..)
      exact bind_eq_ok.mpr ⟨program, programRecord_eq_ok.mpr found, checkIncrement_eq_ok.mpr room⟩
    · obtain ⟨program, found, room⟩ := each id (mem_cons_of_mem _ member)
      have fewer : rest.count id ≤ (first :: rest).count id := Sublist.count_le id (sublist_cons_self ..)
      exact ⟨program, found, by omega⟩

theorem checkBufferIncrements_ok {fuel : Nat}
    (each : ∀ id ∈ ids, ∃ buffer, s.buffers.lookup id = some buffer ∧
      buffer.inFlight.toNat + ids.count id < 2 ^ 32) :
    s.checkBufferIncrements fuel ids = .ok () := by
  induction fuel generalizing ids with
  | zero => rfl
  | succ fuel ih =>
    cases ids with
    | nil => rfl
    | cons first rest =>
      obtain ⟨buffer, found, room⟩ := each first (mem_cons_self ..)
      have run : (rest.takeWhile (· = first)).length ≤ rest.count first := by
        have all : (rest.takeWhile (· = first)).count first = (rest.takeWhile (· = first)).length :=
          count_eq_length.mpr (fun other inRun => by
            have same := mem_takeWhile_imp inRun
            exact (of_decide_eq_true same).symm)
        rw [← all]
        exact Sublist.count_le first (takeWhile_sublist _)
      rw [count_cons_self] at room
      refine bind_eq_ok.mpr ⟨buffer, bufferRecord_eq_ok.mpr found, bind_eq_ok.mpr
        ⟨(), checkIncrement_eq_ok.mpr (by omega), ih (fun id member => ?_)⟩⟩
      have kept : (rest.dropWhile (· = first)).Sublist (first :: rest) :=
        (dropWhile_sublist _).trans (sublist_cons_self ..)
      obtain ⟨buffer, found, room⟩ := each id (kept.subset member)
      have fewer := kept.count_le id
      exact ⟨buffer, found, by omega⟩

theorem checkReferenceIncrements_iff {programIds : List ObjectId}
    (members : s.Submittable (named queueId programIds bufferIds) contextId)
    (sorted : bufferIds.Pairwise (fun left right => left.raw ≤ right.raw)) :
    s.checkReferenceIncrements queueId programIds bufferIds = .ok () ↔
    s.HasRoom (named queueId programIds bufferIds) := by
  constructor
  · intro checked
    exact fun kind _ _ member found => checkReferenceIncrements_room sorted checked kind member found
  intro room
  have each : ∀ kind id, id ∈ named queueId programIds bufferIds kind → ∃ record,
    (s.table kind).lookup id = some record ∧
      record.inFlight.toNat + (named queueId programIds bufferIds kind).count id < 2 ^ 32 := by
    intro kind id member
    obtain ⟨record, found, _⟩ := members kind id member
    exact ⟨record, found, room kind member found⟩
  obtain ⟨queue, found, below⟩ := each .queue queueId (mem_singleton_self _)
  have once : (named queueId programIds bufferIds .queue).count queueId = 1 := count_singleton_self ..
  rw [once] at below
  refine bind_eq_ok.mpr ⟨queue, queueRecord_eq_ok.mpr found, bind_eq_ok.mpr
    ⟨(), checkIncrement_eq_ok.mpr below, bind_eq_ok.mpr ⟨(), ?_, ?_⟩⟩⟩
  · exact checkProgramIncrements_ok (each .program)
  · exact checkBufferIncrements_ok (each .buffer)

/-! Runs without sequences -/

/-- Every event has one program, and no more buffers than a submission may bind. -/
def Plain (s : DeviceState A) : Prop :=
  ∀ id event, s.events.lookup id = some event →
    event.programIds.length ≤ 1 ∧ event.bufferIds.length ≤ s.limits.maxBindingsPerSubmission.toNat

theorem Shifts.event_back {f : UInt32 → UInt32} {old new : Option (Record A kind)}
    {names : ObjectKind → List ObjectId}
    {place : ObjectId} (change : Shifts s s' f kind place old new names contextId context)
    (other : kind ≠ .event) (present : s'.events.lookup id = some after) : s.events.lookup id = some after := by
  obtain ⟨before, found, rfl⟩ := change.back (Ne.symm other) (by decide)
    (show (s'.table .event).lookup id = some after from present)
  have fixed : Record.adjust f before = before := rfl
  rw [Function.iterate_fixed fixed]
  exact found

/-- Events that the operation does not create were there before. -/
theorem Effect.event_back (effect : Effect s w operation s') (quiet : operation.creates ≠ some .event)
    (present : s'.events.lookup id = some after) :
    ∃ before, s.events.lookup id = some before ∧ after.programIds = before.programIds ∧
    after.bufferIds = before.bufferIds := by
  obtain rfl | ⟨touched, place, _, creates, gains⟩ | ⟨touched, place, record, slot, reslots⟩ |
    ⟨touched, place, _, retires⟩ := effect.moves
  · exact ⟨after, present, rfl, rfl⟩
  · cases gains with
    | context opens =>
      have same : s'.events = s.events := opens.others .event (by decide)
      exact ⟨after, same ▸ present, rfl, rfl⟩
    | child adopts =>
      have other : touched ≠ .event := by
        rintro rfl
        exact quiet creates
      exact ⟨after, adopts.toShifts.event_back other present, rfl, rfl⟩
  · have present : (s'.table .event).lookup id = some after := present
    obtain ⟨before, slot', found, rfl, _⟩ := reslots.back .event present
    exact ⟨before, found, rfl, rfl⟩
  · cases retires with
    | context closes =>
      have same : s'.events = s.events := closes.others .event (by decide)
      exact ⟨after, same ▸ present, rfl, rfl⟩
    | @child _ _ _ _ _ drops =>
      by_cases other : touched = .event
      · subst other
        have stored := drops.table.lookup_after id
        have present : (s'.table .event).lookup id = some after := present
        rw [present] at stored
        split at stored
        · cases stored
        · exact ⟨after, stored.symm, rfl, rfl⟩
      · exact ⟨after, drops.toShifts.event_back other present, rfl, rfl⟩

/-- The operation submits no sequence of programs. -/
def Operation.IsPlain : Operation A ω ε → Prop
  | .createEventSequence .. => False
  | _ => True

theorem length_sortIds (ids : List ObjectId) : (sortIds ids).length = ids.length :=
  (perm_insertionSort _ ids).length_eq

theorem Plain.step (plain : s.Plain) (graph : s.Consistent) (w : ω) {operation : Operation A ω ε}
    (single : operation.IsPlain) : (step (s, w) operation).1.Plain := by
  have effect := step_effect graph w operation
  generalize (DeviceState.step (s, w) operation).1 = s' at effect
  intro id after present
  rw [effect.config.limits]
  by_cases creates : operation.creates = some .event
  swap
  · obtain ⟨before, found, programs, buffers⟩ := effect.event_back creates present
    rw [programs, buffers]
    exact plain id before found
  cases effect with
  | refused => exact plain id after present
  | sequence => exact single.elim
  | @event _ _ _ bufferIds _ _ _ _ place _ _ short _ _ adopts =>
    have stored := adopts.table.lookup_after id
    have present : (s'.table .event).lookup id = some after := present
    rw [present] at stored
    split at stored
    · cases stored
      refine ⟨Nat.le_refl _, ?_⟩
      change (sortIds bufferIds).length ≤ _
      rwa [length_sortIds]
    · exact plain id after stored.symm
  | context | buffer | program | queue | begun | restored | committed | written => cases creates

theorem run_plain {start : DeviceState A × ω} (graph : start.1.Consistent) (plain : start.1.Plain)
    {operations : List (Operation A ω ε)} (single : ∀ operation ∈ operations, operation.IsPlain) :
    (run start operations).1.Plain := by
  induction operations generalizing start with
  | nil => exact plain
  | cons operation rest ih =>
    exact ih (graph.change (step_change graph start.2 operation))
      (plain.step graph start.2 (single _ (mem_cons_self ..)))
      (fun later member => single later (mem_cons_of_mem _ member))

/-- What refers to an object are events of its own context. -/
theorem Consistent.inFlight_le (graph : s.Consistent)
    (root : s.contexts.lookup contextId = some context) {record : Record A kind}
    (present : (s.table kind).lookup id = some record) (owner : record.owner = some contextId) {most : Nat}
    (each : ∀ eventId event, s.events.lookup eventId = some event → (event.references kind).length ≤ most) :
    record.inFlight.toNat ≤ context.children.events.toNat * most := by
  have counted : context.children.events.toNat = (s.table .event).total (fun event =>
      if event.owner = some contextId then 1 else 0) :=
    graph.owned .event contextId context root
  have scaled : (s.table .event).total (fun event => (if event.owner = some contextId then 1 else 0) * most) =
      context.children.events.toNat * most := by
    rw [counted]
    exact sum_map_mul_right ..
  rw [graph.flight kind present, ← scaled]
  have weighed : (s.table .event).total (fun event => (EventRecord.references event kind).count id) ≤
      (s.table .event).total (fun event => (if event.owner = some contextId then 1 else 0) * most) := by
    rw [total_eq_sum_ids (graph.tables .event), total_eq_sum_ids (graph.tables .event)]
    refine weigh_le (graph.tables .event) (graph.tables .event) (fun eventId event found => ?_)
    by_cases member : id ∈ EventRecord.references event kind
    · obtain ⟨record', found', owner'⟩ := graph.reference_resolves kind found member
      cases present.symm.trans found'
      refine .inr ⟨event, found, ?_⟩
      have owned : event.owner = some contextId := owner'.symm.trans owner
      rw [if_pos owned, Nat.one_mul]
      exact Nat.le_trans count_le_length (each eventId event found)
    · exact .inl (count_eq_zero.mpr member)
  exact weighed

/-- The product that `new` checks bounds every counter of a run without sequences. -/
theorem Plain.hasRoom (plain : s.Plain) (graph : s.Consistent)
    (product : s.limits.maxEventsPerContext.toNat * s.limits.maxBindingsPerSubmission.toNat < 2 ^ 32)
    (some_binding : 1 ≤ s.limits.maxBindingsPerSubmission.toNat) {programId : ObjectId}
    (root : s.contexts.lookup contextId = some context)
    (below : context.children.events < s.limits.maxEventsPerContext)
    (short : bufferIds.length ≤ s.limits.maxBindingsPerSubmission.toNat)
    (members : s.Submittable (named queueId [programId] bufferIds) contextId) :
    s.HasRoom (named queueId [programId] bufferIds) := by
  have each : ∀ kind eventId event, s.events.lookup eventId = some event →
      (event.references kind).length ≤ s.limits.maxBindingsPerSubmission.toNat := by
    intro kind eventId event found
    obtain ⟨programs, buffers⟩ := plain eventId event found
    cases kind with
    | context | event => exact Nat.zero_le _
    | queue => exact some_binding
    | program => exact Nat.le_trans programs some_binding
    | buffer => exact buffers
  have names : ∀ kind,
      (named queueId [programId] bufferIds kind).length ≤ s.limits.maxBindingsPerSubmission.toNat := by
    intro kind
    cases kind with
    | context | event => exact Nat.zero_le _
    | queue | program => exact some_binding
    | buffer => exact short
  intro kind id record member found
  obtain ⟨record', found', owner, _⟩ := members kind id member
  cases found.symm.trans found'
  have held := graph.inFlight_le root found owner (each kind)
  have added : (named queueId [programId] bufferIds kind).count id ≤ s.limits.maxBindingsPerSubmission.toNat :=
    Nat.le_trans count_le_length (names kind)
  have quota : (context.children.events.toNat + 1) * s.limits.maxBindingsPerSubmission.toNat ≤
      s.limits.maxEventsPerContext.toNat * s.limits.maxBindingsPerSubmission.toNat :=
    Nat.mul_le_mul_right _ (UInt32.lt_iff_toNat_lt.mp below)
  rw [Nat.add_mul, Nat.one_mul] at quota
  omega

theorem tableError_fails {α : Type} (outcome : Except ObjectTableError α) :
    FailsAs (· ≠ .referenceCountOverflow) (outcome.mapError mapTableError) :=
  .mapError fun error => by cases error <;> exact nofun

theorem resource_get_fails (slot : ResourceSlot R) : FailsAs (· ≠ .referenceCountOverflow) slot.get := by
  unfold ResourceSlot.get
  split
  · exact .ok _
  · exact .error nofun

theorem validateMember_fails (contextId owner : ObjectId) (slot : ResourceSlot R) :
    FailsAs (· ≠ .referenceCountOverflow) (validateMember contextId owner slot) := by
  exact .bind (resource_get_fails slot) fun _ => .refuse (fun same => by cases same)

theorem validateSubmission_fails (s : DeviceState A) (queueId programId : ObjectId) (bufferIds : List ObjectId) :
    FailsAs (· ≠ .referenceCountOverflow) (s.validateSubmission queueId programId bufferIds) :=
  .bind (tableError_fails _) fun _ => .bind (resource_get_fails _) fun _ =>
    .bind (tableError_fails _) fun _ => .bind (validateMember_fails ..) fun _ =>
    .bind (.forM fun _ => .bind (tableError_fails _) fun _ => validateMember_fails ..) fun _ => .ok _

theorem Plain.createEventWith (plain : s.Plain) (graph : s.Consistent)
    (product : s.limits.maxEventsPerContext.toNat * s.limits.maxBindingsPerSubmission.toNat < 2 ^ 32)
    (some_binding : 1 ≤ s.limits.maxBindingsPerSubmission.toNat) (reserve : Bool) (queueId programId : ObjectId)
    (bufferIds : List ObjectId) (create : SubmissionResources A → ω → Except ε (A .event) × ω) (w : ω) :
    (s.createEventWith reserve queueId programId bufferIds create w).1 ≠
    .error (.state .referenceCountOverflow) := by
  unfold DeviceState.createEventWith
  simp only
  split
  · simp
  split
  · simp
  rename_i short
  have admission : FailsAs (· ≠ .referenceCountOverflow)
      (s.admitEvent reserve (s.validateSubmission queueId programId bufferIds) queueId [programId]
          (sortIds bufferIds)) := by
    refine ⟨fun {error} failed => ?_⟩
    rcases bind_eq_error.mp failed with invalid | ⟨contextId, valid, failed⟩
    · exact (validateSubmission_fails s queueId programId bufferIds).sort invalid
    rcases bind_eq_error.mp failed with missing | ⟨context, root, failed⟩
    · exact (tableError_fails _).sort missing
    rcases bind_eq_error.mp failed with refused | ⟨⟨⟩, below, failed⟩
    · obtain ⟨_, rfl⟩ := refuseIf_eq_error.mp refused
      exact nofun
    rcases bind_eq_error.mp failed with full | ⟨⟨⟩, _, failed⟩
    · exact (tableError_fails _).sort full
    have members := Submittable.sorted (validateSubmission_eq_ok.mp valid)
    have room := plain.hasRoom graph product some_binding (contextRecord_eq_ok.mp root)
      (UInt32.not_le.mp (refuseIf_eq_ok.mp below)) (by rw [length_sortIds]; omega) members
    rw [(checkReferenceIncrements_iff members (sortIds_sorted bufferIds)).mpr room] at failed
    cases failed
  have sound : ∀ contextId,
    s.admitEvent reserve (s.validateSubmission queueId programId bufferIds) queueId [programId]
      (sortIds bufferIds) = .ok contextId →
      ∃ context, s.Admitted (named queueId [programId] (sortIds bufferIds)) contextId context reserve :=
    fun _ => admitEvent_ok (fun _ => validateSubmission_eq_ok.mp)
  have resolved : ∀ contextId context taken,
    s.Submittable (named queueId [programId] (sortIds bufferIds)) contextId →
      Refers s taken (· + 1) (named queueId [programId] (sortIds bufferIds)) contextId context →
      ∃ resources, resolveSubmission queueId programId (sortIds bufferIds) taken contextId = .ok resources := by
    intro contextId context taken valid refers
    obtain ⟨resources, found, _⟩ := resolveSubmission_ok valid refers
    exact ⟨resources, found⟩
  rcases createEventFrom_cases graph sound resolved create (submissionRecord queueId programId (sortIds bufferIds))
    (fun _ _ => ⟨rfl, rfl, rfl⟩) w with ⟨error, failed, outcome⟩ | ⟨_, _, _, _, _, _, _, outcome⟩
  · rw [outcome]
    rintro ⟨⟩
    exact admission.sort failed rfl
  · rcases outcome with ⟨_, _, _, _, outcome⟩ | ⟨_, _, _, _, _, outcome⟩ <;> (rw [outcome]; simp)

theorem new_product {start : DeviceState A} (created : new ns limits policy = .ok start) :
    limits.maxEventsPerContext.toNat * limits.maxBindingsPerSubmission.toNat < 2 ^ 32 ∧
      1 ≤ limits.maxBindingsPerSubmission.toNat := by
  simp only [new, bind_eq_ok, refuseIf_eq_ok, not_not] at created
  obtain ⟨_, _, _, ⟨one, _⟩, _, product, _⟩ := created
  exact ⟨product, UInt32.le_iff_toNat_le.mp one⟩

/-- The quotas, counted over the records of the tables. -/
structure QuotasHold (s : DeviceState A) (limits : DeviceLimits) : Prop where
  contexts : s.contexts.records.length ≤ limits.maxContexts.toNat
  children : ∀ id context, s.contexts.lookup id = some context →
    s.buffers.records.countP (fun buffer => buffer.contextId = id) ≤ limits.maxBuffersPerContext.toNat ∧
    s.programs.records.countP (fun program => program.contextId = id) ≤ limits.maxProgramsPerContext.toNat ∧
    s.queues.records.countP (fun queue => queue.contextId = id) ≤ limits.maxQueuesPerContext.toNat ∧
    s.events.records.countP (fun event => event.contextId = id) ≤ limits.maxEventsPerContext.toNat

theorem WithinQuotas.hold (quotas : s.WithinQuotas) (graph : s.Consistent) : s.QuotasHold s.limits where
  contexts := by
    rw [records_length, ← len_eq_total graph.contexts_wellFormed]
    exact UInt32.le_iff_toNat_le.mp quotas.contexts
  children id context present := by
    have within := fun kind => UInt32.le_iff_toNat_le.mp (quotas.children id context present kind)
    obtain ⟨buffers, programs, queues, events⟩ := graph.exact.children id context present
    rw [← buffers, ← programs, ← queues, ← events]
    exact ⟨within .buffer, within .program, within .queue, within .event⟩

/-- In every run the quotas hold. Without sequences no submission meets a full
counter; and with them the check that precedes the increments refuses exactly
those submissions of which one increment would overflow. -/
theorem run_quotasHold (ns : ObjectNamespace) (limits : DeviceLimits) (policy : ResourcePolicy)
    {start : DeviceState A} (created : new ns limits policy = .ok start) (w : ω)
    (operations : List (Operation A ω ε)) :
    let s := (run (start, w) operations).1
    s.QuotasHold limits ∧
    ((∀ operation ∈ operations, operation.IsPlain) →
      ∀ reserve queueId programId bufferIds (create : SubmissionResources A → ω → Except ε (A .event) × ω)
      (now : ω), (s.createEventWith reserve queueId programId bufferIds create now).1 ≠
        .error (.state .referenceCountOverflow)) ∧
    ∀ queueId programIds bufferIds contextId context,
      s.validateSubmissionSequence queueId programIds bufferIds = .ok contextId →
      s.contexts.lookup contextId = some context → context.children.events < s.limits.maxEventsPerContext →
      (s.checkReferenceIncrements queueId programIds (sortIds bufferIds) = .ok () →
        ¬ s.IncrementOverflows queueId programIds (sortIds bufferIds) ∧ context.children.events ≠ 4294967295) ∧
      (s.checkReferenceIncrements queueId programIds (sortIds bufferIds) = .error .referenceCountOverflow →
        s.IncrementOverflows queueId programIds (sortIds bufferIds)) := by
  intro s
  have graph : s.Consistent := run_consistent (new_consistent created) operations
  have config : s.limits = limits :=
    (run_config (start, w) (new_consistent created) operations).limits.trans (new_config created).1
  have quotas : s.WithinQuotas := run_withinQuotas (new_consistent created) (new_withinQuotas created) operations
  refine ⟨config ▸ quotas.hold graph, fun single reserve queueId programId bufferIds create now => ?_, ?_⟩
  · have none : start.Plain := by
      intro id event present
      have missing := ((new_consistent created).empty_table (new_empty created .event)).2.2 id
      exact nomatch missing.symm.trans present
    have plain : s.Plain := run_plain (new_consistent created) none single
    obtain ⟨product, some_binding⟩ := new_product created
    rw [← config] at product some_binding
    exact plain.createEventWith graph product some_binding reserve queueId programId bufferIds create now
  · intro queueId programIds bufferIds contextId context valid root below
    have members := Submittable.sorted (validateSubmissionSequence_eq_ok.mp valid).2
    have checked := checkReferenceIncrements_iff members (sortIds_sorted bufferIds)
    refine ⟨fun passed => ⟨fun overflows => ?_, ?_⟩, fun failed => ?_⟩
    · exact (incrementOverflows_iff graph.tables members).mp overflows (checked.mp passed)
    · rintro full
      rw [full] at below
      exact absurd (UInt32.lt_iff_toNat_lt.mp below) (Nat.not_lt.mpr (Nat.le_of_lt_succ (UInt32.toNat_lt _)))
    · refine (incrementOverflows_iff graph.tables members).mpr (fun room => ?_)
      exact nomatch failed.symm.trans (checked.mpr room)

/-- A submission that names one program twice and one buffer three times. -/
theorem run_quotasHold_repeated : ∃ start : DeviceState (fun _ => Unit),
    new ⟨1, by decide⟩ smallLimits ⟨16, 16, by decide⟩ = .ok start ∧
      let s := (run (start, ()) submissionRun.dropLast).1
      let id (kind : ObjectKind) := ObjectId.new 0 1 0 kind
      s.contexts.records.length ≤ 1 ∧
      (s.createEventWith true (id .queue) (id .program) [id .buffer] (fun _ _ => ((.ok () : Except Unit Unit), ()))
        ()).1 ≠
        .error (.state .referenceCountOverflow) ∧
      ¬ s.IncrementOverflows (id .queue) [id .program, id .program]
      (sortIds [id .buffer, id .buffer, id .buffer]) := by
  let id (kind : ObjectKind) := ObjectId.new 0 1 0 kind
  have prepared : ∃ start : DeviceState (fun _ => Unit),
      new ⟨1, by decide⟩ smallLimits ⟨16, 16, by decide⟩ = .ok start ∧
      let s := (run (start, ()) submissionRun.dropLast).1
      s.validateSubmissionSequence (id .queue) [id .program, id .program] [id .buffer, id .buffer, id .buffer] =
        .ok (id .context) ∧
      (s.contexts.lookup (id .context)).any (fun context =>
        context.children.events < s.limits.maxEventsPerContext) ∧
      s.checkReferenceIncrements (id .queue) [id .program, id .program]
      (sortIds [id .buffer, id .buffer, id .buffer]) = .ok () :=
    ⟨_, rfl, by decide +kernel, by decide +kernel, by decide +kernel⟩
  obtain ⟨start, created, valid, quota, checked⟩ := prepared
  obtain ⟨context, root, below⟩ := (Option.any_eq_true _ _).mp quota
  obtain ⟨quotas, plain, sequences⟩ :=
    run_quotasHold ⟨1, by decide⟩ smallLimits ⟨16, 16, by decide⟩ created () submissionRun.dropLast
  have single : ∀ operation ∈ submissionRun.dropLast, operation.IsPlain := by
    intro operation member
    simp only [submissionRun, dropLast, mem_cons, not_mem_nil, or_false] at member
    rcases member with rfl | rfl | rfl | rfl <;> exact trivial
  exact ⟨start, created, quotas.contexts, plain single _ _ _ _ _ _,
    ((sequences _ _ _ _ _ valid root (of_decide_eq_true below)).1 checked).1⟩

end DeviceState

end VirtioAccel
