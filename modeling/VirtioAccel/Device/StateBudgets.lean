import VirtioAccel.Device.StateFrames

/-! The bytes a device state retains, against its policy. -/

namespace VirtioAccel.DeviceState
open Checked ObjectTable DeviceState
variable {A : Handles} {ω ε : Type} {s s' : DeviceState A} {w : ω} {operation : Operation A ω ε} {kind : ObjectKind}
  {id : ObjectId}
variable {ns : ObjectNamespace} {policy : ResourcePolicy} {limits : DeviceLimits}

/-- The kind of object that an operation may add. -/
def Operation.creates : Operation A ω ε → Option ObjectKind
  | .createContext .. => some .context
  | .createBuffer .. => some .buffer
  | .createProgram .. => some .program
  | .createQueue .. => some .queue
  | .createEvent .. | .createEventSequence .. => some .event
  | .beginRelease .. | .restoreRelease .. | .commitRelease .. | .writeBuffer .. => none

section
variable (effect : Effect s w operation s')
include effect

/-- An effect touches one record, if any. -/
theorem Effect.moves :
    s' = s ∨ (∃ kind id record, operation.creates = some kind ∧ Gains s s' kind id record) ∨
    (∃ kind id record slot, Reslots s s' kind id record slot) ∨ ∃ kind id record, Retires s s' kind id record := by
  cases effect with
  | refused => exact .inl rfl
  | context _ _ _ opens => exact .inr (.inl ⟨_, _, _, rfl, .context opens⟩)
  | buffer _ _ _ adopts | program _ _ _ _ adopts | queue _ _ _ adopts | event _ _ _ _ adopts
  | sequence _ _ _ _ _ adopts =>
    exact .inr (.inl ⟨_, _, _, rfl, .child adopts⟩)
  | begun _ _ _ reslots | restored _ _ reslots | written _ reslots =>
    exact .inr (.inr (.inl ⟨_, _, _, _, reslots⟩))
  | committed _ retires => exact .inr (.inr (.inr ⟨_, _, _, retires⟩))

theorem Effect.config : SameConfig s s' := by
  obtain rfl | ⟨_, _, _, _, gains⟩ | ⟨_, _, _, _, reslots⟩ | ⟨_, _, _, retires⟩ := effect.moves
  · exact ⟨rfl, rfl, rfl⟩
  · exact gains.config
  · exact reslots.config
  · cases retires with
    | context closes | child closes => exact closes.config

/-- Objects of a kind that the operation does not create were there before. -/
theorem Effect.found (quiet : operation.creates ≠ some kind) {after : Record A kind}
    (present : (s'.table kind).lookup id = some after) :
    ∃ before, (s.table kind).lookup id = some before ∧ after.charge = before.charge := by
  obtain rfl | ⟨touched, place, _, creates, gains⟩ | ⟨touched, place, record, slot, reslots⟩ |
    ⟨touched, place, _, retires⟩ := effect.moves
  · exact ⟨after, present, rfl⟩
  · have elsewhere : ¬ (kind = touched ∧ id = place) := fun same =>
      quiet (creates.trans (congrArg some same.1.symm))
    obtain ⟨before, found, _, charge⟩ := gains.frame kind elsewhere present
    exact ⟨before, found, charge⟩
  · by_cases here : kind = touched ∧ id = place
    · obtain ⟨rfl, rfl⟩ := here
      rw [reslots.table.lookup_self] at present
      cases present
      exact ⟨record, reslots.table.lookup_before, record.charge_setResource slot⟩
    · obtain ⟨before, found, _, charge⟩ := reslots.frame kind here present
      exact ⟨before, found, charge⟩
  · by_cases here : kind = touched ∧ id = place
    · obtain ⟨rfl, rfl⟩ := here
      exact nomatch present.symm.trans retires.gone
    obtain ⟨before, found, _, charge⟩ := retires.frame kind here present
    exact ⟨before, found, charge⟩

/-- Only a creation adds to a total. -/
theorem Effect.retained_le (graph : s.Consistent) (graph' : s'.Consistent)
    (quiet : operation.creates ≠ some kind) : s'.retained.amount kind ≤ s.retained.amount kind := by
  rw [graph.retained, graph'.retained, total_eq_sum_ids (graph.tables kind), total_eq_sum_ids (graph'.tables kind)]
  refine weigh_le (graph.tables kind) (graph'.tables kind) (fun id after present => .inr ?_)
  obtain ⟨before, found, charge⟩ := effect.found quiet present
  exact ⟨before, found, Nat.le_of_eq charge⟩

end

/-- What the buffers beside the marked ones were charged. -/
def unmarked (s : DeviceState A) (marked : List ObjectId) : Nat :=
  s.buffers.weigh (fun id record => if id ∈ marked then 0 else record.info.allocationBytes.toNat)

theorem Consistent.unmarked_le (graph : s.Consistent) (marked : List ObjectId) :
    s.unmarked marked ≤ s.retained.bufferBacking := by
  have exact' : s.retained.bufferBacking = (s.table .buffer).total Record.charge := graph.retained .buffer
  rw [exact']
  refine weigh_le_total (graph.tables .buffer) (fun id record => ?_)
  split
  · exact Nat.zero_le _
  · exact Nat.le_refl _

/-- The marked buffers alone take a state beyond its policy. -/
structure Budgeted (s : DeviceState A) (marked : List ObjectId) : Prop where
  buffers : s.unmarked marked ≤ s.policy.maxBufferBackingBytes.toNat
  programs : s.retained.programResident ≤ s.policy.maxProgramResidentBytes.toNat

/-- The buffers among these that the operation leaves, and the one that it creates
and reports as to be cleaned up. -/
def marks (current : DeviceState A × ω) (operation : Operation A ω ε) (marked : List ObjectId) : List ObjectId :=
  let kept := marked.filter (fun id => ((step current operation).1.buffers.lookup id).isSome)
  match operation with
  | .createBuffer reserve contextId desc create =>
    match (current.1.createBufferWith reserve contextId desc create current.2).1 with
    | .ok (.cleanupRequired id _) => id :: kept
    | _ => kept
  | _ => kept

section Marks
variable {marked : List ObjectId}

/-- A mark stays with a buffer that stays. -/
theorem mem_marks {record : BufferRecord A} (present : (step (s, w) operation).1.buffers.lookup id = some record)
    (member : id ∈ marked) : id ∈ marks (s, w) operation marked := by
  have kept : id ∈ marked.filter (fun id => ((step (s, w) operation).1.buffers.lookup id).isSome) :=
    List.mem_filter.mpr ⟨member, by rw [present]; rfl⟩
  unfold marks
  split
  · split
    · exact List.mem_cons_of_mem _ kept
    · exact kept
  · exact kept

section
variable (budget : Budgeted s marked) (graph : s.Consistent)
include budget graph

theorem Budgeted.programs_step (w : ω) (operation : Operation A ω ε) :
    (step (s, w) operation).1.retained.programResident ≤
      (step (s, w) operation).1.policy.maxProgramResidentBytes.toNat := by
  have effect := step_effect graph w operation
  have graph' := graph.change (step_change graph w operation)
  generalize (step (s, w) operation).1 = s' at effect graph'
  rw [effect.config.policy]
  by_cases creates : operation.creates = some .program
  · cases effect with
    | refused => exact budget.programs
    | program _ _ within => exact within
    | context | buffer | queue | event | sequence | begun | restored | committed | written => cases creates
  · have less : s'.retained.programResident ≤ s.retained.programResident := effect.retained_le graph graph' creates
    exact Nat.le_trans less budget.programs

/-- Charges that were there before, or are marked now, take no part in the sum. -/
theorem Budgeted.unmarked_step (w : ω) (operation : Operation A ω ε)
    (each : ∀ id (record : BufferRecord A), (step (s, w) operation).1.buffers.lookup id = some record →
      id ∈ marks (s, w) operation marked ∨ ∃ before : BufferRecord A, s.buffers.lookup id = some before ∧
        record.info.allocationBytes = before.info.allocationBytes) :
    (step (s, w) operation).1.unmarked (marks (s, w) operation marked) ≤ s.policy.maxBufferBackingBytes.toNat := by
  have graph' := graph.change (step_change graph w operation)
  refine Nat.le_trans ?_ budget.buffers
  refine weigh_le (graph.tables .buffer) (graph'.tables .buffer) (fun id record present => ?_)
  obtain mark | ⟨before, found, charge⟩ := each id record present
  · exact .inl (if_pos mark)
  refine .inr ⟨before, found, ?_⟩
  by_cases mark : id ∈ marked
  · rw [if_pos (mem_marks present mark)]
    exact Nat.zero_le _
  rw [if_neg mark, charge]
  split
  · exact Nat.zero_le _
  · exact Nat.le_refl _

theorem Budgeted.buffers_step (w : ω) (operation : Operation A ω ε) :
    (step (s, w) operation).1.unmarked (marks (s, w) operation marked) ≤
      (step (s, w) operation).1.policy.maxBufferBackingBytes.toNat := by
  have effect := step_effect graph w operation
  rw [effect.config.policy]
  by_cases creates : operation.creates = some .buffer
  swap
  · refine budget.unmarked_step graph w operation (fun id record present => .inr ?_)
    obtain ⟨before, found, charge⟩ := effect.found creates (show (table _ .buffer).lookup id = some record from
      present)
    exact ⟨before, found, UInt64.toNat_inj.mp charge⟩
  have graph' := graph.change (step_change graph w operation)
  have sum := graph'.unmarked_le (marks (s, w) operation marked)
  generalize after : (step (s, w) operation).1 = s' at effect sum
  cases effect with
  | refused =>
    have kept := budget.unmarked_step graph w operation (fun id record present =>
      .inr ⟨record, by rwa [after] at present, rfl⟩)
    rwa [after] at kept
  | @buffer _ _ _ _ _ _ _ _ place outcome _ _ _ done adopts judged =>
    obtain ⟨rfl, _, within⟩ | ⟨error, rfl⟩ := judged
    · exact Nat.le_trans sum within
    rw [← after]
    refine budget.unmarked_step graph w _ (fun id record present => ?_)
    by_cases here : id = place
    · subst id
      refine .inl ?_
      unfold marks
      dsimp only
      rw [done]
      exact List.mem_cons_self ..
    · rw [after] at present
      obtain ⟨before, found, _, charge⟩ := adopts.frame .buffer (fun same => here same.2) present
      exact .inr ⟨before, found, UInt64.toNat_inj.mp charge⟩
  | context | program | queue | event | sequence | begun | restored | committed | written => cases creates

theorem Budgeted.step (w : ω) (operation : Operation A ω ε) :
    Budgeted (step (s, w) operation).1 (marks (s, w) operation marked) :=
  ⟨budget.buffers_step graph w operation, budget.programs_step graph w operation⟩

end

end Marks

/-- The buffers whose creation asked for a cleanup and that stayed since. -/
def cleanups (current : DeviceState A × ω) (marked : List ObjectId) : List (Operation A ω ε) → List ObjectId
  | [] => marked
  | operation :: rest => cleanups (step current operation) (marks current operation marked) rest

theorem run_budgeted {start : DeviceState A × ω} {marked : List ObjectId} (graph : start.1.Consistent)
    (budget : Budgeted start.1 marked) (operations : List (Operation A ω ε)) :
    Budgeted (run start operations).1 (cleanups start marked operations) := by
  induction operations generalizing start marked with
  | nil => exact budget
  | cons operation rest ih =>
    exact ih (graph.change (step_change graph start.2 operation)) (budget.step graph start.2 operation)

theorem new_budgeted (created : new ns limits policy = .ok s) : Budgeted s [] := by
  have graph := new_consistent created
  have retained : s.retained = ⟨0, 0⟩ := by
    simp only [new, bind_eq_ok, pure_eq_ok] at created
    obtain ⟨_, _, _, _, _, _, _, _, _, _, _, _, _, _, rfl⟩ := created
    rfl
  constructor
  · refine Nat.le_trans (graph.unmarked_le []) ?_
    rw [retained]
    exact Nat.zero_le _
  · rw [retained]
    exact Nat.zero_le _

/-- The retained totals are sums of what is there, none of the arithmetic on them
loses anything, and only marked buffers take them beyond the policy. -/
structure RetainedExact (s : DeviceState A) (marked : List ObjectId) : Prop where
  buffer_backing : s.retained.bufferBacking =
    (s.buffers.records.map (fun buffer => buffer.info.allocationBytes.toNat)).sum
  program_resident : s.retained.programResident =
    (s.programs.records.map (fun program => program.residentBytes.toNat)).sum
  buffer_adds : ∀ bytes : UInt64, saturatingAdd128 s.retained.bufferBacking bytes.toNat =
    s.retained.bufferBacking + bytes.toNat
  program_adds : ∀ bytes : UInt64, saturatingAdd128 s.retained.programResident bytes.toNat =
    s.retained.programResident + bytes.toNat
  buffer_refunds : ∀ id buffer, s.buffers.lookup id = some buffer →
    (refundBuffer buffer s.retained).bufferBacking + buffer.info.allocationBytes.toNat = s.retained.bufferBacking
  program_refunds : ∀ id program, s.programs.lookup id = some program →
    (refundProgram program s.retained).programResident + program.residentBytes.toNat = s.retained.programResident
  programs_within : s.retained.programResident ≤ s.policy.maxProgramResidentBytes.toNat
  buffers_within : s.policy.maxBufferBackingBytes.toNat < s.retained.bufferBacking →
    ∃ id ∈ marked, ∃ buffer, s.buffers.lookup id = some buffer

theorem Budgeted.exact {marked : List ObjectId} (budget : Budgeted s marked) (graph : s.Consistent) :
    RetainedExact s marked where
  buffer_backing := graph.retained .buffer
  program_resident := graph.retained .program
  buffer_adds bytes := saturatingAdd128_eq (graph.retained_lt .buffer) bytes.toNat_lt
  program_adds bytes := saturatingAdd128_eq (graph.retained_lt .program) bytes.toNat_lt
  buffer_refunds id buffer present := by
    refine wrappingSub128_eq ?_ (graph.retained_lt .buffer)
    have total : s.retained.bufferBacking = (s.table .buffer).total Record.charge := graph.retained .buffer
    rw [total]
    exact weight_le_total (graph.tables .buffer) Record.charge present
  program_refunds id program present := by
    refine wrappingSub128_eq ?_ (graph.retained_lt .program)
    have total : s.retained.programResident = (s.table .program).total Record.charge := graph.retained .program
    rw [total]
    exact weight_le_total (graph.tables .program) Record.charge present
  programs_within := budget.programs
  buffers_within beyond := by
    have total : s.retained.bufferBacking = (s.table .buffer).total Record.charge := graph.retained .buffer
    rw [total] at beyond
    obtain ⟨id, buffer, present, less⟩ := exists_of_weigh_lt (graph.tables .buffer)
      (Nat.lt_of_le_of_lt budget.buffers beyond)
    refine ⟨id, ?_, buffer, present⟩
    by_contra clean
    rw [if_neg clean] at less
    exact Nat.lt_irrefl _ less

/-- An admitted buffer is what was asked for, and within the policy with all it takes. -/
theorem createBufferWith_admitted (graph : s.Consistent) {reserve : Bool} {contextId : ObjectId} {desc : BufferDesc}
    {create : A .context → BufferDesc → ω → Except ε (A .buffer × BufferInfo) × ω}
    (admitted : (s.createBufferWith reserve contextId desc create w).1 = .ok (.admitted id)) :
    ∃ buffer, (s.createBufferWith reserve contextId desc create w).2.1.buffers.lookup id = some buffer ∧
      buffer.info.desc = desc ∧ (s.createBufferWith reserve contextId desc create w).2.1.retained.bufferBacking ≤
        s.policy.maxBufferBackingBytes.toNat := by
  have effect := step_effect graph w (.createBuffer reserve contextId desc create)
  change Effect s w _ (s.createBufferWith reserve contextId desc create w).2.1 at effect
  generalize (s.createBufferWith reserve contextId desc create w).2.1 = s' at effect
  cases effect with
  | refused failed =>
    obtain ⟨error, failed⟩ := failed
    exact nomatch admitted.symm.trans failed
  | @buffer _ _ _ _ _ resource info _ _ _ _ _ _ done adopts judged =>
    cases admitted.symm.trans done
    obtain ⟨same, desc, within⟩ | ⟨_, other⟩ := judged
    · cases same
      have stored := adopts.table.lookup_self
      exact ⟨_, stored, desc, within⟩
    · cases other

theorem run_config (start : DeviceState A × ω) (graph : start.1.Consistent) (operations : List (Operation A ω ε)) :
    SameConfig start.1 (run start operations).1 := by
  induction operations generalizing start with
  | nil => exact ⟨rfl, rfl, rfl⟩
  | cons operation rest ih =>
    have effect := step_effect graph start.2 operation
    exact effect.config.trans (ih (step start operation) (graph.change (step_change graph start.2 operation)))

theorem new_config (created : new ns limits policy = .ok s) : s.limits = limits ∧ s.policy = policy := by
  simp only [new, bind_eq_ok, pure_eq_ok] at created
  obtain ⟨_, _, _, _, _, _, _, _, _, _, _, _, _, _, rfl⟩ := created
  exact ⟨rfl, rfl⟩

/-- In every run the totals are exact and within the policy, but for buffers that
are waiting for their cleanup. -/
theorem run_retainedExact (ns : ObjectNamespace) (limits : DeviceLimits) (policy : ResourcePolicy)
    {start : DeviceState A} (created : new ns limits policy = .ok start) (w : ω)
    (operations : List (Operation A ω ε)) :
    let s := (run (start, w) operations).1
    s.policy = policy ∧ RetainedExact s (cleanups (start, w) [] operations) ∧
    ∀ reserve contextId desc (create : A .context → BufferDesc → ω → Except ε (A .buffer × BufferInfo) × ω)
    (now : ω) id, (s.createBufferWith reserve contextId desc create now).1 = .ok (.admitted id) →
      ∃ buffer, (s.createBufferWith reserve contextId desc create now).2.1.buffers.lookup id = some buffer ∧
        buffer.info.desc = desc ∧
        (s.createBufferWith reserve contextId desc create now).2.1.retained.bufferBacking ≤
          policy.maxBufferBackingBytes.toNat := by
  have graph := new_consistent created
  have after : (run (start, w) operations).1.Consistent := run_consistent graph operations
  have config : (run (start, w) operations).1.policy = policy :=
    (run_config (start, w) graph operations).policy.trans (new_config created).2
  have budget : Budgeted (run (start, w) operations).1 (cleanups (start, w) [] operations) :=
    run_budgeted graph (new_budgeted created) operations
  refine ⟨config, budget.exact after, fun reserve contextId desc create now id admitted => ?_⟩
  rw [← config]
  exact createBufferWith_admitted after admitted

/-- A buffer whose provider takes more than the policy leaves. -/
def overdrawnRun : List (Operation (fun _ => Unit) Unit Unit) :=
  [.createContext true (fun _ => (.ok (), ())),
    .createBuffer true (ObjectId.new 0 1 0 .context) ⟨8, 1, .host, BufferUsage.all, eight_nonzero, one_aligned⟩
      (fun _ desc _ => (if checked : BufferInfo.check desc 64 1 BufferProperties.all = .ok () then
        .ok ((), ⟨desc, 64, 1, BufferProperties.all, checked⟩) else .error (), ()))]

/-- A backing of 64 bytes under a budget of 16 is one that waits for its cleanup. -/
theorem run_retainedExact_overdrawn : ∃ start : DeviceState (fun _ => Unit),
    new ⟨1, by decide⟩ smallLimits ⟨16, 16, by decide⟩ = .ok start ∧
      (run (start, ()) overdrawnRun).1.retained.bufferBacking = 64 ∧
      ∃ id ∈ cleanups (start, ()) [] overdrawnRun, ∃ buffer, (run (start, ()) overdrawnRun).1.buffers.lookup id =
      some buffer := by
  have prepared : ∃ start : DeviceState (fun _ => Unit),
      new ⟨1, by decide⟩ smallLimits ⟨16, 16, by decide⟩ = .ok start ∧
      (run (start, ()) overdrawnRun).1.retained.bufferBacking = 64 := ⟨_, rfl, by decide +kernel⟩
  obtain ⟨start, created, backing⟩ := prepared
  obtain ⟨policy, exact', _⟩ :=
    run_retainedExact ⟨1, by decide⟩ smallLimits ⟨16, 16, by decide⟩ created () overdrawnRun
  refine ⟨start, created, backing, exact'.buffers_within ?_⟩
  rw [policy, backing]
  decide

end VirtioAccel.DeviceState
