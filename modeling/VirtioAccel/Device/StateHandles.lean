import VirtioAccel.Device.StateLogging

/-! Where the handles of a device state are while objects are released. -/

namespace VirtioAccel.DeviceState
open List ResourceSlot DeviceState
variable {A : Handles} {ω ε κ : Type} {s s' : DeviceState A} {kind : ObjectKind} {id : ObjectId}
variable {record : Record A kind} {touched : ObjectKind} {old : Record A touched} {after : Record A kind}
  {handle : A kind} {context : ContextRecord A}

/-! The handles in the tables, counted by any measure of their names -/

def acrossKinds (f : ObjectKind → Nat) : Nat := f .context + f .buffer + f .program + f .queue + f .event

theorem acrossKinds_add (f : ObjectKind → Nat) (kind : ObjectKind) (n : Nat) :
    acrossKinds (fun other => f other + if other = kind then n else 0) = acrossKinds f + n := by
  unfold acrossKinds
  cases kind <;> simp <;> omega

/-- The names of the handles in the live records. -/
def stored (s : DeviceState A) (key : ∀ kind, A kind → κ) : List κ :=
  [ObjectKind.context, .buffer, .program, .queue, .event].flatMap (fun kind =>
    (s.table kind).records.filterMap (fun record => record.resource.resource.map (key kind)))

def slotWeight (key : ∀ kind, A kind → κ) (weight : κ → Nat) (kind : ObjectKind) (slot : ResourceSlot (A kind)) :
    Nat :=
  (slot.resource.map (key kind)).elim 0 weight

theorem sum_stored (s : DeviceState A) (key : ∀ kind, A kind → κ) (weight : κ → Nat) :
    ((s.stored key).map weight).sum = acrossKinds (fun kind =>
      (s.table kind).total (fun record => slotWeight key weight kind record.resource)) := by
  have each : ∀ kind,
    (((s.table kind).records.filterMap (fun record => record.resource.resource.map (key kind))).map
      weight).sum = (s.table kind).total (fun record => slotWeight key weight kind record.resource) :=
    fun kind => (SlotSums.sum_map_elim ..).symm
  simp only [stored, flatMap_cons, flatMap_nil, map_append, sum_append, append_nil, each, acrossKinds]
  omega

theorem Gains.sum_stored (gains : Gains s s' kind id record) (fresh : record.resource = ResourceSlot.new handle)
    (key : ∀ kind, A kind → κ) (weight : κ → Nat) :
    ((s'.stored key).map weight).sum = ((s.stored key).map weight).sum + weight (key kind handle) := by
  have each := gains.weighed (slotWeight key weight)
  rw [fresh] at each
  rw [DeviceState.sum_stored, DeviceState.sum_stored, ← acrossKinds_add _ kind]
  exact congrArg acrossKinds (funext each)

theorem Retires.sum_stored (retires : Retires s s' kind id record) (key : ∀ kind, A kind → κ) (weight : κ → Nat) :
    ((s'.stored key).map weight).sum = ((s.stored key).map weight).sum := by
  have empty : slotWeight key weight kind record.resource = 0 := by
    unfold slotWeight
    rw [resource_of_releasing retires.releasing]
    rfl
  have each := retires.weighed (slotWeight key weight)
  simp only [empty, ite_self, Nat.add_zero] at each
  rw [DeviceState.sum_stored, DeviceState.sum_stored]
  exact congrArg acrossKinds (funext each)

theorem Reslots.sum_stored {slot : ResourceSlot (A kind)} (reslots : Reslots s s' kind id record slot)
    (key : ∀ kind, A kind → κ) (weight : κ → Nat) :
    ((s'.stored key).map weight).sum + slotWeight key weight kind record.resource =
      ((s.stored key).map weight).sum + slotWeight key weight kind slot := by
  have each := reslots.weighed (slotWeight key weight)
  rw [DeviceState.sum_stored, DeviceState.sum_stored, ← acrossKinds_add _ kind, ← acrossKinds_add _ kind]
  exact congrArg acrossKinds (funext each)

/-! The handles that are out -/

/-- A handle that a begin has handed out, with the record it came from. -/
structure Loan (A : Handles) where
  kind : ObjectKind
  id : ObjectId
  handle : A kind

def Loan.place (loan : Loan A) : ObjectKind × ObjectId := (loan.kind, loan.id)

def Loan.name (key : ∀ kind, A kind → κ) (loan : Loan A) : κ := key loan.kind loan.handle

/-- The handles handed out and neither restored nor committed, and those whose
release was committed. -/
structure Loans (A : Handles) where
  out : List (Loan A)
  gone : List (Loan A)

namespace Loans

def settle (loans : Loans A) (kind : ObjectKind) (id : ObjectId) : List (Loan A) :=
  loans.out.eraseP (fun loan => loan.place = (kind, id))

/-- The books after the operation, by what the operation returned. -/
def step (s : DeviceState A) (loans : Loans A) : Operation A ω ε → Loans A
  | .beginRelease kind id =>
    match (s.beginRelease kind id).1 with
    | .ok handle => { loans with out := ⟨kind, id, handle⟩ :: loans.out }
    | .error _ => loans
  | .restoreRelease kind id handle =>
    match (s.restoreRelease kind id handle).1 with
    | .ok () => { loans with out := loans.settle kind id }
    | .error _ => loans
  | .commitRelease kind id =>
    match (s.commitRelease kind id).1 with
    | .ok () => ⟨loans.settle kind id, loans.gone ++ (loans.out.find? (fun loan => loan.place = (kind, id))).toList⟩
    | .error _ => loans
  | _ => loans

/-- The books after a run. -/
def run (current : DeviceState A × ω) (loans : Loans A) : List (Operation A ω ε) → Loans A
  | [] => loans
  | operation :: rest => Loans.run (DeviceState.step current operation) (loans.step current.1 operation) rest

/-- A handle that goes back into a record is the one that is out for that record,
and a write leaves the handle of its buffer the handle it is. -/
def Faithful (key : ∀ kind, A kind → κ) (s : DeviceState A) (loans : Loans A) : Operation A ω ε → Prop
  | .restoreRelease kind id handle => ∀ held, (⟨kind, id, held⟩ : Loan A) ∈ loans.out →
    key kind handle = key kind held
  | .writeBuffer id buffer => ∀ record old, s.buffers.lookup id = some record →
    record.resource.resource = some old →
      key .buffer buffer = key .buffer old
  | _ => True

def FaithfulRun (key : ∀ kind, A kind → κ) (current : DeviceState A × ω) (loans : Loans A) :
    List (Operation A ω ε) → Prop
  | [] => True
  | operation :: rest => loans.Faithful key current.1 operation ∧
      FaithfulRun key (DeviceState.step current operation) (loans.step current.1 operation) rest

theorem out_split {loans : Loans A} {kind : ObjectKind} {id : ObjectId}
    (listed : (kind, id) ∈ loans.out.map Loan.place) :
    ∃ handle, (⟨kind, id, handle⟩ : Loan A) ∈ loans.out ∧
      loans.out.find? (fun loan => loan.place = (kind, id)) = some ⟨kind, id, handle⟩ ∧
      loans.out.Perm (⟨kind, id, handle⟩ :: loans.settle kind id) := by
  obtain ⟨loan, member, place⟩ := mem_map.mp listed
  obtain ⟨first, earlier, later, none, here, split, erased⟩ :=
    exists_of_eraseP member (p := fun loan : Loan A => decide (loan.place = (kind, id))) (decide_eq_true place)
  obtain ⟨kind', id', handle⟩ := first
  cases of_decide_eq_true here
  refine ⟨handle, by simp [split], ?_, ?_⟩
  · rw [find?_eq_some_iff_append]
    refine ⟨here, earlier, later, split, fun other before => ?_⟩
    simpa using none other before
  · rw [settle, erased, split]
    exact perm_middle

end Loans

/-- The operation does not end the release of this record. -/
def Operation.Spares (kind : ObjectKind) (id : ObjectId) : Operation A ω ε → Prop
  | .restoreRelease kind' id' _ => ¬ (kind' = kind ∧ id' = id)
  | .commitRelease kind' id' => ¬ (kind' = kind ∧ id' = id)
  | _ => True

variable {w : ω} {operation : Operation A ω ε} {place : ObjectId}

theorem Adopts.spares {contextId : ObjectId} {new : Record A touched}
    (adopts : Adopts s s' touched place new contextId context) (present : (s.table kind).lookup id = some record)
    (releasing : record.resource.release = .releasing) :
    (s'.table kind).lookup id = some record := by
  by_cases same : kind = touched
  · subst kind
    refine (adopts.table.lookup_other ?_).trans present
    rintro rfl
    exact nomatch present.symm.trans adopts.table.lookup_before
  by_cases root : kind = .context
  · subst kind
    refine (adopts.contexts.lookup_other ?_).trans present
    rintro rfl
    cases present.symm.trans adopts.contexts.lookup_before
    exact nomatch releasing.symm.trans adopts.contextLive
  · have uncounted : (new.references kind).count id = 0 := by
      refine count_eq_zero.mpr (fun member => ?_)
      obtain ⟨found, stored, _, live, _⟩ := adopts.referred kind member
      cases present.symm.trans stored
      exact nomatch releasing.symm.trans live
    rw [(adopts.others kind same root).lookup, uncounted, present]
    rfl

theorem Drops.spares {contextId : ObjectId} (drops : Drops s s' touched place old contextId context)
    (graph : s.Consistent) (present : (s.table kind).lookup id = some record)
    (releasing : record.resource.release = .releasing) (elsewhere : ¬ (touched = kind ∧ place = id)) :
    (s'.table kind).lookup id = some record := by
  by_cases same : kind = touched
  · subst kind
    exact (drops.table.lookup_other (fun here => elsewhere ⟨rfl, here.symm⟩)).trans present
  by_cases root : kind = .context
  · subst kind
    refine (drops.contexts.lookup_other ?_).trans present
    rintro rfl
    exact graph.childless present releasing touched drops.table.lookup_before drops.owner
  · have uncounted : (old.references kind).count id = 0 := by
      refine count_eq_zero.mpr (fun member => ?_)
      by_cases event : touched = .event
      · subst touched
        exact graph.unreferenced present releasing drops.table.lookup_before member
      rw [Record.references_eq_nil event] at member
      cases member
    rw [(drops.others kind same root).lookup, uncounted, present]
    rfl

/-- A write of one table leaves every record but its own. -/
theorem lookup_spared {old new : Option (Record A touched)}
    (others : ∀ other, other ≠ touched → s'.table other = s.table other)
    (table : (s.table touched).Writes (s'.table touched) place old new)
    (present : (s.table kind).lookup id = some record) (elsewhere : ¬ (touched = kind ∧ place = id)) :
    (s'.table kind).lookup id = some record := by
  by_cases same : kind = touched
  · subst kind
    exact (table.lookup_other (fun here => elsewhere ⟨rfl, here.symm⟩)).trans present
  · rw [others kind same]
    exact present

/-- While a record is releasing nothing but the end of its release touches it. -/
theorem Effect.spares (effect : Effect s w operation s') (graph : s.Consistent) (other : operation.Spares kind id)
    (present : (s.table kind).lookup id = some record) (releasing : record.resource.release = .releasing) :
    (s'.table kind).lookup id = some record := by
  have live : ∀ {touched : ObjectKind} {place : ObjectId} {old : Record A touched} {handle : A touched},
      (s.table touched).lookup place = some old → old.resource.resource = some handle →
      ¬ (touched = kind ∧ place = id) := by
    rintro touched place old handle found held ⟨rfl, rfl⟩
    cases present.symm.trans found
    exact nomatch releasing.symm.trans (live_of_resource held)
  cases effect with
  | refused => exact present
  | context _ _ _ opens =>
    refine lookup_spared opens.others opens.contexts present ?_
    rintro ⟨rfl, rfl⟩
    exact nomatch present.symm.trans opens.contexts.lookup_before
  | buffer _ _ _ adopts | program _ _ _ _ adopts | queue _ _ _ adopts | event _ _ _ _ adopts
  | sequence _ _ _ _ _ adopts =>
    exact adopts.spares present releasing
  | begun _ held _ reslots | written held reslots =>
    exact lookup_spared reslots.others reslots.table present (live reslots.table.lookup_before held)
  | restored _ _ reslots => exact lookup_spared reslots.others reslots.table present other
  | committed _ retires =>
    cases retires with
    | context closes => exact lookup_spared closes.others closes.contexts present other
    | child drops => exact drops.spares graph present releasing other

theorem Gains.live (gains : Gains s s' kind id record) : record.resource.release = .live := by
  cases gains with
  | context opens | child opens => exact opens.live

theorem Reslots.restored_live {handle : A touched}
    (reslots : Reslots s s' touched place old (ResourceSlot.new handle))
    (present : (s'.table kind).lookup id = some after) (releasing : after.resource.release = .releasing) :
    ¬ (kind = touched ∧ id = place) := by
  rintro ⟨rfl, rfl⟩
  have stored := reslots.table.lookup_self
  cases present.symm.trans stored
  rw [Record.resource_setResource] at releasing
  cases releasing

theorem Retires.elsewhere (retires : Retires s s' touched place old)
    (present : (s'.table kind).lookup id = some after) : ¬ (kind = touched ∧ id = place) := by
  rintro ⟨rfl, rfl⟩
  exact nomatch present.symm.trans retires.gone

/-- A record that is releasing afterwards was releasing before, or its release has
just begun. -/
theorem Effect.releasing_back (effect : Effect s w operation s') (present : (s'.table kind).lookup id = some after)
    (releasing : after.resource.release = .releasing) :
    operation = .beginRelease kind id ∨
      ∃ before, (s.table kind).lookup id = some before ∧ before.resource.release = .releasing := by
  have framed : ∀ {touched : ObjectKind} {place : ObjectId}, Frame s s' touched place →
      ¬ (kind = touched ∧ id = place) →
      ∃ before, (s.table kind).lookup id = some before ∧ before.resource.release = .releasing := by
    intro touched place frame elsewhere
    obtain ⟨before, found, same, _⟩ := frame kind elsewhere present
    exact ⟨before, found, same ▸ releasing⟩
  have gained : ∀ {touched : ObjectKind} {place : ObjectId} {new : Record A touched}, Gains s s' touched place new →
      ∃ before, (s.table kind).lookup id = some before ∧ before.resource.release = .releasing := by
    intro touched place new gains
    refine framed gains.frame ?_
    rintro ⟨rfl, rfl⟩
    cases present.symm.trans gains.present.2
    exact nomatch releasing.symm.trans gains.live
  cases effect with
  | refused => exact .inr ⟨after, present, releasing⟩
  | context _ _ _ opens => exact .inr (gained (.context opens))
  | buffer _ _ _ adopts | program _ _ _ _ adopts | queue _ _ _ adopts | event _ _ _ _ adopts
  | sequence _ _ _ _ _ adopts =>
    exact .inr (gained (.child adopts))
  | @begun touched place _ _ _ _ _ _ reslots =>
    by_cases here : kind = touched ∧ id = place
    · obtain ⟨rfl, rfl⟩ := here
      exact .inl rfl
    · exact .inr (framed reslots.frame here)
  | restored _ _ reslots | written _ reslots =>
    exact .inr (framed reslots.frame (reslots.restored_live present releasing))
  | committed _ retires => exact .inr (framed retires.frame (retires.elsewhere present))

/-- Every handle that was returned is in one live record, is out with one record
that is releasing, or is gone. -/
structure Linear (key : ∀ kind, A kind → κ) (s : DeviceState A) (made : List κ) (loans : Loans A) : Prop where
  places : (loans.out.map Loan.place).Nodup
  releasing : ∀ kind id, (kind, id) ∈ loans.out.map Loan.place ↔
    ∃ record, (s.table kind).lookup id = some record ∧ record.resource.release = .releasing
  conserved : made.Perm (s.stored key ++ loans.out.map (Loan.name key) ++ loans.gone.map (Loan.name key))

variable {key : ∀ kind, A kind → κ} {made : List κ} {loans : Loans A}

theorem Linear.sum (linear : Linear key s made loans) (weight : κ → Nat) :
    (made.map weight).sum =
    ((s.stored key).map weight).sum + (loans.out.map (fun loan => weight (loan.name key))).sum +
      (loans.gone.map (fun loan => weight (loan.name key))).sum := by
  have sums := (linear.conserved.map weight).sum_eq
  simpa only [map_append, sum_append, map_map, Function.comp_def] using sums

theorem conserved_of_sums (sums : ∀ weight : κ → Nat, (made.map weight).sum = ((s.stored key).map weight).sum +
    (loans.out.map (fun loan => weight (loan.name key))).sum +
    (loans.gone.map (fun loan => weight (loan.name key))).sum) :
    made.Perm (s.stored key ++ loans.out.map (Loan.name key) ++ loans.gone.map (Loan.name key)) := by
  refine SlotSums.perm_of_sums (fun weight => ?_)
  simpa only [map_append, sum_append, map_map, Function.comp_def] using sums weight

/-- The places that are out once a release has ended. -/
theorem Linear.settled (linear : Linear key s made loans) (present : (s.table kind).lookup id = some record)
    (releasing : record.resource.release = .releasing) :
    ∃ handle, (⟨kind, id, handle⟩ : Loan A) ∈ loans.out ∧
      loans.out.find? (fun loan => loan.place = (kind, id)) = some ⟨kind, id, handle⟩ ∧
      ((loans.settle kind id).map Loan.place).Nodup ∧
      (∀ place, place ∈ (loans.settle kind id).map Loan.place ↔ place ∈ loans.out.map Loan.place ∧
        place ≠ (kind, id)) ∧
      ∀ weight : Loan A → Nat,
      (loans.out.map weight).sum = weight ⟨kind, id, handle⟩ + ((loans.settle kind id).map weight).sum := by
  obtain ⟨handle, member, found, split⟩ :=
    Loans.out_split ((linear.releasing kind id).mpr ⟨record, present, releasing⟩)
  have places := split.map Loan.place
  obtain ⟨fresh, rest⟩ := nodup_cons.mp (places.nodup_iff.mp linear.places)
  refine ⟨handle, member, found, rest, fun place => ?_, fun weight => ?_⟩
  · rw [places.mem_iff, map_cons, mem_cons]
    constructor
    · intro inside
      refine ⟨.inr inside, ?_⟩
      rintro rfl
      exact fresh inside
    · rintro ⟨here | inside, other⟩
      · exact absurd here other
      · exact inside
  · exact (split.map weight).sum_eq

theorem Loans.step_failed (failed : operation.Fails s w) : loans.step s operation = loans := by
  cases operation with
  | beginRelease | restoreRelease | commitRelease =>
    obtain ⟨error, failed⟩ := failed
    simp only [Loans.step, failed]
  | createContext | createBuffer | createProgram | createQueue | createEvent | createEventSequence | writeBuffer =>
    rfl

section
variable (linear : Linear key s made loans)
include linear

/-- The places that are releasing, when the operation neither begins nor ends a release. -/
theorem Linear.places_kept (effect : Effect s w operation s') (graph : s.Consistent)
    (spares : ∀ kind id, operation.Spares kind id) (quiet : ∀ kind id, operation ≠ .beginRelease kind id)
    (kind : ObjectKind) (id : ObjectId) : (kind, id) ∈ loans.out.map Loan.place ↔
      ∃ record, (s'.table kind).lookup id = some record ∧ record.resource.release = .releasing := by
  rw [linear.releasing]
  constructor
  · rintro ⟨record, present, releasing⟩
    exact ⟨record, effect.spares graph (spares kind id) present releasing, releasing⟩
  rintro ⟨record, present, releasing⟩
  exact (effect.releasing_back present releasing).resolve_left (quiet kind id)

theorem Linear.gain (effect : Effect s w operation s') (graph : s.Consistent)
    (creates : operation.creates = some kind)
    (gains : Gains s s' kind id record) (fresh : record.resource = ResourceSlot.new handle) :
    Linear key s' (made ++ [key kind handle]) (loans.step s operation) := by
  have idle : loans.step s operation = loans ∧ (∀ kind id, operation.Spares kind id) ∧
      ∀ kind id, operation ≠ .beginRelease kind id := by
    cases operation with
    | beginRelease | restoreRelease | commitRelease | writeBuffer => cases creates
    | createContext | createBuffer | createProgram | createQueue | createEvent | createEventSequence =>
      exact ⟨rfl, fun _ _ => trivial, nofun⟩
  obtain ⟨same, spares, quiet⟩ := idle
  rw [same]
  refine ⟨linear.places, linear.places_kept effect graph spares quiet, conserved_of_sums (fun weight => ?_)⟩
  have before := linear.sum weight
  have joined := gains.sum_stored fresh key weight
  simp only [map_append, map_cons, map_nil, sum_append, sum_cons, sum_nil]
  omega

/-- A handle that is handed out is no longer stored. -/
theorem Linear.begin (effect : Effect s w (.beginRelease kind id : Operation A ω ε) s') (graph : s.Consistent)
    (held : record.resource.resource = some handle) (reslots : Reslots s s' kind id record taken) :
    Linear key s' made ⟨⟨kind, id, handle⟩ :: loans.out, loans.gone⟩ := by
  have live : (kind, id) ∉ loans.out.map Loan.place := by
    rw [linear.releasing]
    rintro ⟨record', present, releasing⟩
    cases present.symm.trans reslots.table.lookup_before
    exact nomatch (live_of_resource held).symm.trans releasing
  refine ⟨nodup_cons.mpr ⟨live, linear.places⟩, fun other target => ?_, conserved_of_sums (fun weight => ?_)⟩
  · rw [map_cons, mem_cons, linear.releasing]
    constructor
    · rintro (here | ⟨record', present, releasing⟩)
      · cases here
        have stored := reslots.table.lookup_self
        exact ⟨_, stored, by rw [Record.resource_setResource]; rfl⟩
      · exact ⟨record', effect.spares graph trivial present releasing, releasing⟩
    · rintro ⟨after, present, releasing⟩
      rcases effect.releasing_back present releasing with here | before
      · cases here
        exact .inl rfl
      · exact .inr before
  · have before := linear.sum weight
    have taken := reslots.sum_stored key weight
    have out : slotWeight key weight kind record.resource = weight (key kind handle) := by
      rw [slotWeight, held]
      rfl
    have empty : slotWeight key weight kind (ResourceSlot.taken : ResourceSlot (A kind)) = 0 := rfl
    have named : Loan.name key ⟨kind, id, handle⟩ = key kind handle := rfl
    simp only [map_cons, sum_cons, named]
    omega

/-- A handle that is put back is no longer out. -/
theorem Linear.restore (effect : Effect s w (.restoreRelease kind id handle : Operation A ω ε) s')
    (graph : s.Consistent)
    (faithful : ∀ held, (⟨kind, id, held⟩ : Loan A) ∈ loans.out → key kind handle = key kind held)
    (releasing : record.resource.release = .releasing)
    (reslots : Reslots s s' kind id record (ResourceSlot.new handle)) :
    Linear key s' made ⟨loans.settle kind id, loans.gone⟩ := by
  obtain ⟨held, member, _, places, listed, weighed⟩ := linear.settled reslots.table.lookup_before releasing
  refine ⟨places, fun other target => ?_, conserved_of_sums (fun weight => ?_)⟩
  · rw [listed, linear.releasing]
    constructor
    · rintro ⟨⟨record', present, releasing'⟩, elsewhere⟩
      have spares : (.restoreRelease kind id handle : Operation A ω ε).Spares other target := by
        rintro ⟨rfl, rfl⟩
        exact elsewhere rfl
      exact ⟨record', effect.spares graph spares present releasing', releasing'⟩
    · rintro ⟨after, present, releasing'⟩
      refine ⟨(effect.releasing_back present releasing').resolve_left nofun, ?_⟩
      intro here
      cases here
      exact reslots.restored_live present releasing' ⟨rfl, rfl⟩
  · have before := linear.sum weight
    have put := reslots.sum_stored key weight
    have empty : slotWeight key weight kind record.resource = 0 := by
      rw [slotWeight, resource_of_releasing releasing]
      rfl
    have full : slotWeight key weight kind (ResourceSlot.new handle) = weight (key kind held) := by
      rw [← faithful held member]
      rfl
    have settled := weighed (fun loan => weight (loan.name key))
    have named : Loan.name key ⟨kind, id, held⟩ = key kind held := rfl
    rw [named] at settled
    dsimp only
    omega

/-- A handle whose release is committed is gone. -/
theorem Linear.commit (effect : Effect s w (.commitRelease kind id : Operation A ω ε) s') (graph : s.Consistent)
    (retires : Retires s s' kind id record) :
    Linear key s' made ⟨loans.settle kind id,
      loans.gone ++ (loans.out.find? (fun loan => loan.place = (kind, id))).toList⟩ := by
  obtain ⟨held, _, found, places, listed, weighed⟩ := linear.settled retires.lookup_before retires.releasing
  rw [found]
  refine ⟨places, fun other target => ?_, conserved_of_sums (fun weight => ?_)⟩
  · rw [listed, linear.releasing]
    constructor
    · rintro ⟨⟨record', present', releasing'⟩, elsewhere⟩
      have spares : (.commitRelease kind id : Operation A ω ε).Spares other target := by
        rintro ⟨rfl, rfl⟩
        exact elsewhere rfl
      exact ⟨record', effect.spares graph spares present' releasing', releasing'⟩
    · rintro ⟨after, present', releasing'⟩
      refine ⟨(effect.releasing_back present' releasing').resolve_left nofun, ?_⟩
      intro here
      cases here
      exact retires.elsewhere present' ⟨rfl, rfl⟩
  · have before := linear.sum weight
    have left := retires.sum_stored key weight
    have settled := weighed (fun loan => weight (loan.name key))
    simp only [Option.toList_some, map_append, map_cons, map_nil, sum_append, sum_cons, sum_nil]
    omega

theorem Linear.quiet (effect : Effect s w operation s') (graph : s.Consistent)
    (creates : operation.creates = none) (faithful : loans.Faithful key s operation) :
    Linear key s' made (loans.step s operation) := by
  have whole := effect
  cases effect with
  | refused failed =>
    rw [Loans.step_failed failed]
    exact linear
  | context | buffer | program | queue | event | sequence => cases creates
  | begun _ held done reslots =>
    have same := linear.begin whole graph held reslots
    simpa only [Loans.step, done] using same
  | restored releasing done reslots =>
    have same := linear.restore whole graph faithful releasing reslots
    simpa only [Loans.step, done] using same
  | committed done retires =>
    have same := linear.commit whole graph retires
    simpa only [Loans.step, done] using same
  | @written id buffer _ record old held reslots =>
    refine ⟨linear.places, linear.places_kept whole graph (fun _ _ => trivial) nofun,
      conserved_of_sums (fun weight => ?_)⟩
    have before := linear.sum weight
    have put := reslots.sum_stored key weight
    have full : slotWeight key weight .buffer (ResourceSlot.new buffer) = weight (key .buffer old) :=
      congrArg weight (faithful record old reslots.table.lookup_before held)
    have had : slotWeight key weight .buffer (Record.resource record) = weight (key .buffer old) := by
      change ((BufferRecord.resource record).resource.map (key .buffer)).elim 0 weight = _
      rw [held]
      rfl
    dsimp only [Loans.step]
    omega

end

theorem Loans.step_logged (key : ∀ kind, A kind → κ) (loans : Loans A) (s : DeviceState A)
    (operation : Operation A ω ε) :
    loans.step s (operation.logged key) = loans.step s operation := by
  cases operation <;> rfl

theorem Loans.faithful_logged (faithful : loans.Faithful key s operation) :
    loans.Faithful key s (operation.logged key) := by
  cases operation <;> exact faithful

theorem Linear.step (linear : Linear key s made loans) (graph : s.Consistent) (w : ω) {operation : Operation A ω ε}
    (faithful : loans.Faithful key s operation) :
    Linear key (step (s, w, made) (operation.logged key)).1
      (step (s, w, made) (operation.logged key)).2.2 (loans.step s operation) := by
  have effect := step_effect graph (w, made) (operation.logged key)
  rw [← loans.step_logged key]
  rcases step_logged_cases key graph w made operation with
    ⟨same, creates | failed⟩ | ⟨kind, id, record, handle, creates, gains, fresh, grown⟩
  · rw [same]
    exact linear.quiet effect graph creates (Loans.faithful_logged faithful)
  · rw [same, step_failed graph failed, Loans.step_failed failed]
    exact linear
  · rw [grown]
    exact linear.gain effect graph creates gains fresh

variable {operations : List (Operation A ω ε)}

theorem run_linear (graph : s.Consistent) (w : ω) (linear : Linear key s made loans)
    (faithful : Loans.FaithfulRun key (s, w) loans operations) :
    Linear key (run (s, w, made) (operations.map (Operation.logged key))).1
      (run (s, w, made) (operations.map (Operation.logged key))).2.2 (Loans.run (s, w) loans operations) := by
  induction operations generalizing s w made loans with
  | nil => exact linear
  | cons operation rest ih =>
    obtain ⟨now, later⟩ := faithful
    have graph' := graph.change (step_change graph w operation)
    have stepped := linear.step graph w now
    obtain ⟨log, same⟩ := step_logged key s w made operation
    rw [same] at stepped
    have rest' := ih graph' (step (s, w) operation).2 stepped later
    change Linear key (run (step (s, w, made) (operation.logged key)) _).1
      (run (step (s, w, made) (operation.logged key)) _).2.2 _
    rw [same]
    exact rest'

/-! The release protocol -/

theorem run_spares (graph : s.Consistent) (w : ω) (spares : ∀ operation ∈ operations, operation.Spares kind id)
    (present : (s.table kind).lookup id = some record) (releasing : record.resource.release = .releasing) :
    ((run (s, w) operations).1.table kind).lookup id = some record := by
  induction operations generalizing s w with
  | nil => exact present
  | cons operation rest ih =>
    have effect := step_effect graph w operation
    have kept := effect.spares graph (spares operation (mem_cons_self ..)) present releasing
    exact ih (graph.change (step_change graph w operation)) _
      (fun later member => spares later (mem_cons_of_mem _ member)) kept

theorem beginRelease_iff (graph : s.Consistent) (kind : ObjectKind) (id : ObjectId) :
    (∃ handle, (s.beginRelease kind id).1 = .ok handle) ↔
      ∃ record, (s.table kind).lookup id = some record ∧ record.resource.release = .live ∧ record.busy = false := by
  rcases beginRelease_cases graph.tables kind id with ⟨error, s', done, _, refused⟩ | ⟨record, handle, s', done,
    idle, held, reslots⟩
  · rw [done]
    refine ⟨nofun, ?_⟩
    rintro ⟨record, present, live, idle⟩
    cases refused with
    | missing missing => exact nomatch present.symm.trans missing
    | busy found busy =>
      cases present.symm.trans found
      exact nomatch idle.symm.trans busy
    | releasing found releasing =>
      cases present.symm.trans found
      exact nomatch live.symm.trans releasing
  · rw [done]
    exact ⟨fun _ => ⟨record, reslots.table.lookup_before, live_of_resource held, idle⟩, fun _ => ⟨handle, rfl⟩⟩

/-- A begin and, whatever happens meanwhile, the restore of its handle: the record is
the one it was. -/
theorem beginRelease_restore (graph : s.Consistent) (w : ω) (begun : (s.beginRelease kind id).1 = .ok handle)
    (spares : ∀ operation ∈ operations, operation.Spares kind id) :
    ((run ((s.beginRelease kind id).2, w) operations).1.restoreRelease kind id handle).1 = .ok () ∧
    (((run ((s.beginRelease kind id).2, w) operations).1.restoreRelease kind id handle).2.table kind).lookup id =
      (s.table kind).lookup id := by
  rcases beginRelease_cases graph.tables kind id with ⟨_, _, done, _⟩ | ⟨record, handle', s', done, _,
    held, reslots⟩
  · rw [done] at begun
    cases begun
  rw [done] at begun ⊢
  cases begun
  have graph' := graph.reslot reslots
  have taken := reslots.table.lookup_self
  have releasing : (record.setResource ResourceSlot.taken).resource.release = .releasing := by
    rw [Record.resource_setResource]
    rfl
  have kept := run_spares graph' w spares taken releasing
  have later : (run (s', w) operations).1.Consistent := run_consistent graph' operations
  rcases restoreRelease_cases later.tables kind id handle with ⟨_, _, _, _, live⟩ | ⟨out, s'', restored, _, back⟩
  · exact nomatch (live _ kept).symm.trans releasing
  rw [restored]
  refine ⟨rfl, ?_⟩
  have put := back.table.lookup_self
  cases kept.symm.trans back.table.lookup_before
  rw [put, reslots.table.lookup_before, Record.setResource_setResource, ← eq_new held, Record.setResource_resource]

/-- What a new record belongs to and refers to was live. -/
theorem Effect.created (effect : Effect s w operation s') (missing : (s.table kind).lookup id = none)
    (present : (s'.table kind).lookup id = some record) :
    (∀ contextId, record.owner = some contextId →
      ∃ context, s.contexts.lookup contextId = some context ∧ context.resource.release = .live) ∧
    ∀ other target, target ∈ record.references other →
      ∃ found, (s.table other).lookup target = some found ∧ found.resource.release = .live := by
  have fresh : ∀ {touched : ObjectKind} {place : ObjectId}, Frame s s' touched place → kind = touched ∧
      id = place := by
    intro touched place frame
    by_contra elsewhere
    obtain ⟨before, found, _⟩ := frame kind elsewhere present
    exact nomatch missing.symm.trans found
  obtain rfl | ⟨touched, place, new, _, gains⟩ | ⟨touched, place, old, slot, reslots⟩ |
    ⟨touched, place, old, retires⟩ := effect.moves
  · exact nomatch missing.symm.trans present
  · obtain ⟨rfl, rfl⟩ := fresh gains.frame
    cases present.symm.trans gains.present.2
    cases gains with
    | context => exact ⟨nofun, fun other target member => nomatch member⟩
    | child adopts =>
      refine ⟨fun contextId owner => ?_, fun other target member => ?_⟩
      · cases adopts.owner.symm.trans owner
        exact ⟨_, adopts.contexts.lookup_before, adopts.contextLive⟩
      obtain ⟨found, stored, _, live, _⟩ := adopts.referred other member
      exact ⟨found, stored, live⟩
  · obtain ⟨rfl, rfl⟩ := fresh reslots.frame
    exact nomatch missing.symm.trans reslots.table.lookup_before
  · obtain ⟨rfl, rfl⟩ := fresh retires.frame
    exact nomatch missing.symm.trans retires.lookup_before

theorem new_linear {ns : ObjectNamespace} {limits : DeviceLimits} {policy : ResourcePolicy}
    (created : new ns limits policy = .ok s) : Linear key s [] ⟨[], []⟩ := by
  have empty := fun kind => (new_consistent created).empty_table (new_empty created kind)
  refine ⟨nodup_nil, fun kind id => ⟨nofun, ?_⟩, conserved_of_sums (fun weight => ?_)⟩
  · rintro ⟨record, present, _⟩
    exact nomatch ((empty kind).2.2 id).symm.trans present
  have each : ∀ kind, (s.table kind).total (fun record => slotWeight key weight kind record.resource) = 0 :=
    fun kind => ObjectTable.total_eq_zero ((new_consistent created).tables kind)
      (fun id record present => nomatch ((empty kind).2.2 id).symm.trans present)
  rw [sum_stored]
  simp only [each]
  rfl

/-- In every run a release can begin just once for a live idle record, new records name only live ones, and a
release taken back is undone. As long as the caller restores to each record the handle that its own begin handed
out, handles are owned linearly through the release protocol. -/
theorem run_handles (key : ∀ kind, A kind → κ) (ns : ObjectNamespace) (limits : DeviceLimits)
    (policy : ResourcePolicy) {start : DeviceState A} (created : new ns limits policy = .ok start) (w : ω)
    (operations : List (Operation A ω ε)) :
    let s := (run (start, w) operations).1
    (Loans.FaithfulRun key (start, w) ⟨[], []⟩ operations →
      Linear key s (run (start, w, []) (operations.map (Operation.logged key))).2.2
        (Loans.run (start, w) ⟨[], []⟩ operations)) ∧
    (∀ kind id, (∃ handle, (s.beginRelease kind id).1 = .ok handle) ↔
      ∃ record, (s.table kind).lookup id = some record ∧ record.resource.release = .live ∧ record.busy = false) ∧
    (∀ (now : ω) (operation : Operation A ω ε) kind id record, (s.table kind).lookup id = none →
      ((step (s, now) operation).1.table kind).lookup id = some record →
      (∀ contextId, record.owner = some contextId →
        ∃ context, s.contexts.lookup contextId = some context ∧ context.resource.release = .live) ∧
      ∀ other target, target ∈ record.references other →
        ∃ found, (s.table other).lookup target = some found ∧ found.resource.release = .live) ∧
    ∀ kind id handle (now : ω) (later : List (Operation A ω ε)), (s.beginRelease kind id).1 = .ok handle →
      (∀ operation ∈ later, operation.Spares kind id) →
      ((run ((s.beginRelease kind id).2, now) later).1.restoreRelease kind id handle).1 = .ok () ∧
      (((run ((s.beginRelease kind id).2, now) later).1.restoreRelease kind id handle).2.table kind).lookup id =
        (s.table kind).lookup id := by
  intro s
  have graph : s.Consistent := run_consistent (new_consistent created) operations
  refine ⟨fun faithful => ?_, beginRelease_iff graph,
    fun now operation kind id record missing present => (step_effect graph now operation).created missing present,
    fun kind id handle now later begun spares => beginRelease_restore graph now begun spares⟩
  have linear := run_linear (new_consistent created) w (new_linear created) faithful
  rw [run_logged] at linear
  exact linear

/-- Two contexts whose releases begin; the first gets the handle of the second back. -/
def crossedRun : List (Operation (fun _ => Nat) Unit Unit) :=
  let id (index : UInt32) := ObjectId.new index 1 0 .context
  [.createContext true (fun _ => (.ok 1, ())), .createContext true (fun _ => (.ok 2, ())),
    .beginRelease .context (id 0), .beginRelease .context (id 1), .restoreRelease .context (id 0) 2]

/-- The handle of the first is then in no record, and no release that has begun and
not ended is the one it was handed out by. -/
theorem crossedRun_loses : ∃ start : DeviceState (fun _ => Nat),
    new ⟨1, by decide⟩ ⟨2, 1, 1, 1, 1, 2, 16, 16⟩ ⟨16, 16, by decide⟩ = .ok start ∧
      1 ∈ (run (start, (), []) (crossedRun.map (Operation.logged (fun _ handle => handle)))).2.2 ∧
      1 ∉ (run (start, ()) crossedRun).1.stored (fun _ handle => handle) ∧
      1 ∉ (Loans.run (start, ()) ⟨[], []⟩ crossedRun).out.map (Loan.name (fun _ handle => handle)) ∧
      1 ∉ (Loans.run (start, ()) ⟨[], []⟩ crossedRun).gone.map (Loan.name (fun _ handle => handle)) :=
  ⟨_, rfl, by decide +kernel, by decide +kernel, by decide +kernel, by decide +kernel⟩

/-- Two contexts; the release of the first is taken back, that of the second committed. -/
def releasedRun : List (Operation (fun _ => Nat) Unit Unit) :=
  let id (index : UInt32) := ObjectId.new index 1 0 .context
  [.createContext true (fun _ => (.ok 1, ())), .createContext true (fun _ => (.ok 2, ())),
    .beginRelease .context (id 0), .restoreRelease .context (id 0) 1, .beginRelease .context (id 1),
    .commitRelease .context (id 1)]

/-- Two handles were made; one is stored and one gone. -/
theorem run_handles_released : ∃ start : DeviceState (fun _ => Nat),
    new ⟨1, by decide⟩ ⟨2, 1, 1, 1, 1, 2, 16, 16⟩ ⟨16, 16, by decide⟩ = .ok start ∧
      Loans.FaithfulRun (fun _ handle => handle) (start, ()) ⟨[], []⟩ releasedRun ∧
      (run (start, (), []) (releasedRun.map (Operation.logged (fun _ handle => handle)))).2.2 = [1, 2] ∧
      [1, 2].Perm ((run (start, ()) releasedRun).1.stored (fun _ handle => handle) ++
        (Loans.run (start, ()) ⟨[], []⟩ releasedRun).out.map (Loan.name (fun _ handle => handle)) ++
        (Loans.run (start, ()) ⟨[], []⟩ releasedRun).gone.map (Loan.name (fun _ handle => handle))) := by
  have prepared : ∃ start : DeviceState (fun _ => Nat),
      new ⟨1, by decide⟩ ⟨2, 1, 1, 1, 1, 2, 16, 16⟩ ⟨16, 16, by decide⟩ = .ok start ∧
      (∀ loan ∈ (Loans.run (start, ()) ⟨[], []⟩ (releasedRun.take 3)).out, loan.name (fun _ handle => handle) = 1) ∧
      (run (start, (), []) (releasedRun.map (Operation.logged (fun _ handle => handle)))).2.2 = [1, 2] :=
    ⟨_, rfl, by decide +kernel, by decide +kernel⟩
  obtain ⟨start, created, out, made⟩ := prepared
  have faithful : Loans.FaithfulRun (fun _ handle => handle) (start, ()) ⟨[], []⟩ releasedRun :=
    ⟨trivial, trivial, trivial, fun held member => (out _ member).symm, trivial, trivial, trivial⟩
  obtain ⟨linear, _⟩ := run_handles (fun _ handle => handle) ⟨1, by decide⟩ ⟨2, 1, 1, 1, 1, 2, 16, 16⟩ ⟨16,
    16, by decide⟩
    created () releasedRun
  exact ⟨start, created, faithful, made, made ▸ (linear faithful).conserved⟩

end VirtioAccel.DeviceState
