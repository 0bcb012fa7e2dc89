import VirtioAccel.Vulkan.Arena
import Mathlib.Data.List.Pairwise

/-! The barriers of a Vulkan program: dispatches between two of them may run in any order. -/

namespace VirtioAccel.Vulkan
open List
variable {κ β : Type}

/-- Where a tensor's bytes live during execution. -/
inductive Location where
  | slot (slot : UInt32)
  | region (index : Nat)

/-- Memory identity for hazard tracking. -/
inductive MemKey where
  | slot (slot : UInt32)
  | arena (offset stop : Nat)

def MemKey.overlaps : MemKey → MemKey → Bool
  | slot a, slot b => a = b
  | arena offset stop, arena offset' stop' => offset < stop' && offset' < stop
  | _, _ => false

/-- The memory of a dispatch and the value it writes. -/
structure Access where
  reads : List MemKey
  writes : MemKey
  value : Nat

/-- A recorded dispatch: its kernel, specialization constants and geometry are one parameter. The access is a
ghost. -/
structure DispatchPlan (κ : Type) where
  kernel : κ
  barrierBefore : Bool
  access : Access

/-- The fields of the lowering that placement and recording read and write. -/
structure Lowering (κ : Type) where
  arena : Arena := {}
  written : List (MemKey × Nat) := []
  read : List MemKey := []
  dispatches : List (DispatchPlan κ) := []

namespace Lowering

/-- A region index that is out of bounds panics. -/
def memKey (self : Lowering κ) : Location → Option MemKey
  | .slot slot => some (.slot slot)
  | .region index => self.arena.regions[index]?.map fun region => .arena region.offset region.stop

def barrierBefore (self : Lowering κ) (access : Access) : Bool :=
  let raw := access.reads.any fun read => self.written.any fun written => written.1.overlaps read
  let war := self.read.any fun read => read.overlaps access.writes
  -- Segments of one concatenation write disjoint parts of one tensor.
  let waw := self.written.any fun written => written.1.overlaps access.writes && written.2 != access.value
  raw || war || waw

def record (self : Lowering κ) (kernel : κ) (access : Access) : Lowering κ :=
  let barrierBefore := self.barrierBefore access
  { self with
    read := (if barrierBefore then [] else self.read) ++ access.reads
    written := (if barrierBefore then [] else self.written) ++ [(access.writes, access.value)]
    dispatches := self.dispatches ++ [{ kernel, barrierBefore, access }] }

def dispatch (self : Lowering κ) (kernel : κ) (reads : List Location) (writes : Location) (value : Nat) :
    Option (Lowering κ) := do
  let reads ← reads.mapM self.memKey
  let writes ← self.memKey writes
  return self.record kernel { reads, writes, value }

inductive Step (κ : Type) where
  | place (step : Arena.Step)
  | dispatch (kernel : κ) (reads : List Location) (writes : Location) (value : Nat)

def step (self : Lowering κ) : Step κ → Option (Lowering κ)
  | .place step => some { self with arena := self.arena.step step }
  | .dispatch kernel reads writes value => self.dispatch kernel reads writes value

def run (steps : List (Step κ)) : Option (Lowering κ) := steps.foldlM step {}

end Lowering

/-- One writes what the other reads, or both write and not parts of one value. -/
def Access.Conflict (a b : Access) : Prop :=
  (∃ read ∈ b.reads, a.writes.overlaps read) ∨ (∃ read ∈ a.reads, read.overlaps b.writes) ∨
    a.writes.overlaps b.writes ∧ a.value ≠ b.value

namespace DispatchPlan
variable {plan : List (DispatchPlan κ)}

/-- The dispatches before the last barrier, batch by batch, and those since. -/
def batches (plan : List (DispatchPlan κ)) : List (List (DispatchPlan κ)) × List (DispatchPlan κ) :=
  plan.foldl (fun (closed, batch) next =>
    if next.barrierBefore then (closed ++ [batch], [next]) else (closed, batch ++ [next])) ([], [])

theorem batches_snoc (plan : List (DispatchPlan κ)) (next : DispatchPlan κ) : batches (plan ++ [next]) =
    if next.barrierBefore then ((batches plan).1 ++ [(batches plan).2], [next])
    else ((batches plan).1, (batches plan).2 ++ [next]) := foldl_append

/-- A barrier stands exactly where a dispatch conflicts with one since the last barrier. -/
inductive Guarded : List (DispatchPlan κ) → Prop
  | nil : Guarded []
  | snoc {plan next} : Guarded plan →
    (next.barrierBefore = true ↔ ∃ earlier ∈ (batches plan).2, earlier.access.Conflict next.access) →
    Guarded (plan ++ [next])

theorem Guarded.split (guarded : Guarded plan) {before after : List (DispatchPlan κ)} {next : DispatchPlan κ}
    (split : plan = before ++ next :: after) :
    next.barrierBefore = true ↔ ∃ earlier ∈ (batches before).2, earlier.access.Conflict next.access := by
  induction guarded generalizing after with
  | nil => simp at split
  | @snoc plan last _ exact ih =>
    rcases eq_nil_or_concat' after with rfl | ⟨after, other, rfl⟩
    · obtain ⟨rfl, same⟩ := append_inj' split rfl
      cases same
      exact exact
    · rw [← cons_append, ← append_assoc] at split
      exact ih (append_inj' split rfl).1

/-- No two dispatches of a batch conflict. -/
theorem Guarded.batches (guarded : Guarded plan) :
    ∀ batch ∈ (batches plan).1 ++ [(batches plan).2], batch.Pairwise fun a b => ¬ a.access.Conflict b.access := by
  induction guarded with
  | nil => simp [DispatchPlan.batches]
  | snoc _ exact earlier =>
    rw [batches_snoc]
    split
    case isTrue => exact forall_mem_append.mpr ⟨earlier, forall_mem_singleton.mpr (pairwise_singleton _ _)⟩
    case isFalse barrier =>
      obtain ⟨closed, batch⟩ := forall_mem_append.mp earlier
      refine forall_mem_append.mpr ⟨closed, forall_mem_singleton.mpr (pairwise_append.mpr
        ⟨forall_mem_singleton.mp batch, pairwise_singleton _ _, fun other here => forall_mem_singleton.mpr ?_⟩)⟩
      exact fun conflict => barrier (exact.mpr ⟨other, here, conflict⟩)

theorem batches_flatten (plan : List (DispatchPlan κ)) :
    ((batches plan).1 ++ [(batches plan).2]).flatten = plan := by
  induction plan using reverseRecOn with
  | nil => rfl
  | append_singleton plan next ih =>
    rw [batches_snoc]
    split <;> simp_all [← append_assoc]

end DispatchPlan

/-! The memory that the dispatches leave -/

/-- A byte of a bound slot or of the arena. -/
inductive Place where
  | slot (slot : UInt32) (byte : Nat)
  | arena (byte : Nat)

def MemKey.covers : MemKey → Place → Bool
  | slot a, .slot b _ => a = b
  | arena offset stop, .arena byte => offset ≤ byte && byte < stop
  | _, _ => false

theorem MemKey.overlaps_of_covers {a b : MemKey} {place : Place} (first : a.covers place = true)
    (second : b.covers place = true) : a.overlaps b = true := by
  cases place <;> cases a <;> cases b <;> simp_all [MemKey.covers, MemKey.overlaps]
  omega

/-- What a kernel does: it changes only bytes it writes, and what it writes depends only on bytes it reads. -/
structure Kernel (access : Access) (effect : (Place → β) → Place → β) (touched : Set Place) : Prop where
  inside : ∀ place ∈ touched, access.writes.covers place = true
  frame : ∀ memory, ∀ place ∉ touched, effect memory place = memory place
  reads : ∀ memory memory',
    (∀ place, (∃ read ∈ access.reads, read.covers place = true) → memory place = memory' place) →
    ∀ place ∈ touched, effect memory place = effect memory' place

theorem MemKey.overlaps_comm (a b : MemKey) : a.overlaps b = b.overlaps a := by
  cases a <;> cases b <;> simp [MemKey.overlaps, eq_comm, Bool.and_comm]

theorem Access.Conflict.symm {a b : Access} (conflict : a.Conflict b) : b.Conflict a := by
  unfold Access.Conflict at *
  grind [MemKey.overlaps_comm]

namespace Kernel
variable {a b : Access} {f g : (Place → β) → Place → β} {s t : Set Place}

/-- A kernel whose reads another one leaves alone gives what it gave before that one. -/
theorem after (first : Kernel a f s) (second : Kernel b g t) (apart : ¬ a.Conflict b)
    (disjoint : ∀ place ∈ s, place ∉ t) (memory : Place → β) {place : Place} (here : place ∈ s) :
    f (g memory) place = g (f memory) place := by
  rw [second.frame (f memory) place (disjoint place here)]
  refine first.reads (g memory) memory (fun other read => ?_) place here
  obtain ⟨key, member, covers⟩ := read
  exact second.frame memory other fun touched =>
    apart (.inr (.inl ⟨key, member, MemKey.overlaps_of_covers covers (second.inside other touched)⟩))

theorem commute (first : Kernel a f s) (second : Kernel b g t) (apart : ¬ a.Conflict b)
    (disjoint : ∀ place ∈ s, place ∉ t) (memory : Place → β) : f (g memory) = g (f memory) := by
  funext place
  by_cases here : place ∈ s
  · exact first.after second apart disjoint memory here
  by_cases there : place ∈ t
  · exact (second.after first (fun conflict => apart conflict.symm)
      (fun other there here => disjoint other here there) memory there).symm
  · rw [first.frame _ place here, second.frame _ place there, second.frame _ place there, first.frame _ place here]

end Kernel

namespace Lowering
open DispatchPlan
variable {self lowering : Lowering κ} {steps : List (Step κ)}

/-- What the hazard tracking remembers is the batch since the last barrier. -/
structure Tracked (lowering : Lowering κ) : Prop where
  written : lowering.written = (batches lowering.dispatches).2.map fun plan =>
    (plan.access.writes, plan.access.value)
  read : lowering.read = (batches lowering.dispatches).2.flatMap fun plan => plan.access.reads
  guarded : Guarded lowering.dispatches

theorem Tracked.barrierBefore_iff (tracked : self.Tracked) (access : Access) : self.barrierBefore access = true ↔
    ∃ earlier ∈ (batches self.dispatches).2, earlier.access.Conflict access := by
  unfold barrierBefore Access.Conflict
  rw [tracked.written, tracked.read]
  simp only [any_map, any_flatMap, Bool.or_eq_true, any_eq_true]
  grind

theorem Tracked.record (tracked : self.Tracked) (kernel : κ) (access : Access) :
    (self.record kernel access).Tracked := by
  refine ⟨?_, ?_, tracked.guarded.snoc (tracked.barrierBefore_iff access)⟩ <;>
    simp only [Lowering.record, batches_snoc, tracked.written, tracked.read]
  all_goals split <;> simp

theorem Tracked.step {next : Step κ} (tracked : self.Tracked) (made : self.step next = some lowering) :
    lowering.Tracked := by
  cases next with
  | place step =>
    cases made
    exact ⟨tracked.written, tracked.read, tracked.guarded⟩
  | dispatch kernel reads writes value =>
    obtain ⟨reads, -, made⟩ := Option.bind_eq_some_iff.mp made
    obtain ⟨writes, -, made⟩ := Option.bind_eq_some_iff.mp made
    cases made
    exact tracked.record kernel _

theorem Tracked.run (made : run steps = some lowering) : lowering.Tracked := by
  unfold Lowering.run at made
  induction steps using reverseRecOn generalizing lowering with
  | nil =>
    cases made
    exact ⟨rfl, rfl, .nil⟩
  | append_singleton earlier next ih =>
    rw [foldlM_append] at made
    obtain ⟨middle, before, last⟩ := Option.bind_eq_some_iff.mp made
    exact (ih before).step (by simpa using last)

/-- A barrier is recorded exactly before a dispatch that conflicts with one since the last barrier. -/
theorem barrier_iff_conflict (made : run steps = some lowering) {before after : List (DispatchPlan κ)}
    {next : DispatchPlan κ} (split : lowering.dispatches = before ++ next :: after) :
    next.barrierBefore = true ↔ ∃ earlier ∈ (batches before).2, earlier.access.Conflict next.access :=
  (Tracked.run made).guarded.split split

def threeDispatches : List (Step Unit) :=
  [.place (.allocate 16 5 0), .dispatch () [.slot 0] (.region 0) 1, .dispatch () [.slot 0] (.slot 1) 2,
    .dispatch () [.region 0] (.slot 2) 3]

theorem run_threeDispatches : ∃ lowering first second third, run threeDispatches = some lowering ∧
    lowering.dispatches = [first, second, third] ∧
    batches [first, second, third] = ([[first, second]], [third]) ∧ third.barrierBefore = true ∧
    first.access.value = 1 ∧ second.access.value = 2 ∧ third.access.value = 3 :=
  ⟨_, _, _, _, rfl, rfl, rfl, rfl, rfl, rfl, rfl⟩

/-- The third dispatch reads what the first one writes, behind a barrier. -/
theorem barrier_iff_conflict_read : ∃ lowering first second third, run threeDispatches = some lowering ∧
    lowering.dispatches = [first, second, third] ∧ third.barrierBefore = true ∧ (third.barrierBefore = true ↔
      ∃ earlier ∈ (batches [first, second]).2, earlier.access.Conflict third.access) := by
  obtain ⟨lowering, first, second, third, made, split, -, barrier, -⟩ := run_threeDispatches
  exact ⟨lowering, first, second, third, made, split, barrier,
    @barrier_iff_conflict _ _ _ made [first, second] [] third split⟩

/-- The memory after the dispatches ran in some order. -/
def execute (effect : DispatchPlan κ → (Place → β) → Place → β) (order : List (DispatchPlan κ))
    (memory : Place → β) :
    Place → β := order.foldl (fun memory plan => effect plan memory) memory

section Orders
variable {effect : DispatchPlan κ → (Place → β) → Place → β} {touched : DispatchPlan κ → Set Place}

/-- The kernels keep to their accesses, and different segments of one value are written in different places. -/
structure Obeyed (effect : DispatchPlan κ → (Place → β) → Place → β) (touched : DispatchPlan κ → Set Place)
    (plans : List (DispatchPlan κ)) : Prop where
  kernels : ∀ plan ∈ plans, Kernel plan.access (effect plan) (touched plan)
  segments : ∀ a ∈ plans, ∀ b ∈ plans, a ≠ b → a.access.value = b.access.value → ∀ place ∈ touched a,
    place ∉ touched b

theorem Obeyed.mono {plans part : List (DispatchPlan κ)} (obeyed : Obeyed effect touched plans)
    (within : part ⊆ plans) : Obeyed effect touched part where
  kernels plan member := obeyed.kernels plan (within member)
  segments a first b second := obeyed.segments a (within first) b (within second)

theorem execute_batch {batch order : List (DispatchPlan κ)} (obeyed : Obeyed effect touched batch)
    (apart : batch.Pairwise fun a b => ¬ a.access.Conflict b.access) (same : batch.Perm order)
    (memory : Place → β) :
    execute effect order memory = execute effect batch memory := by
  have symmetric : Std.Symm fun a b : DispatchPlan κ => ¬ a.access.Conflict b.access :=
    ⟨fun _ _ none conflict => none conflict.symm⟩
  refine (same.foldl_eq' (fun a first b second memory => ?_) memory).symm
  by_cases equal : a = b
  · rw [equal]
  have none := apart.forall first second equal
  have one := obeyed.kernels a first
  have other := obeyed.kernels b second
  refine (one.commute other none ?_ memory).symm
  by_cases value : a.access.value = b.access.value
  · exact obeyed.segments a first b second equal value
  refine fun place here there => none (.inr (.inr ⟨?_, value⟩))
  exact MemKey.overlaps_of_covers (one.inside place here) (other.inside place there)

theorem execute_batches {batches orders : List (List (DispatchPlan κ))}
    (obeyed : Obeyed effect touched batches.flatten)
    (apart : ∀ batch ∈ batches, batch.Pairwise fun a b => ¬ a.access.Conflict b.access)
    (allowed : Forall₂ Perm batches orders) (memory : Place → β) :
    execute effect orders.flatten memory = execute effect batches.flatten memory := by
  induction allowed generalizing memory with
  | nil => rfl
  | @cons batch order rest orders same _ ih =>
    rw [flatten_cons] at obeyed
    have first := execute_batch (obeyed.mono (subset_append_left _ _)) (apart batch mem_cons_self) same memory
    have later := ih (obeyed.mono (subset_append_right _ _)) fun batch member =>
      apart batch (mem_cons_of_mem _ member)
    unfold execute at first later ⊢
    rw [flatten_cons, foldl_append, first, later, flatten_cons, foldl_append]

/-- Whatever order the dispatches between two barriers take, they leave the memory of the recorded order. -/
theorem reordered_execute (made : run steps = some lowering) (obeyed : Obeyed effect touched lowering.dispatches)
    {orders : List (List (DispatchPlan κ))}
    (allowed : Forall₂ Perm ((batches lowering.dispatches).1 ++ [(batches lowering.dispatches).2]) orders)
    (memory : Place → β) :
    execute effect orders.flatten memory = execute effect lowering.dispatches memory := by
  have whole := batches_flatten lowering.dispatches
  rw [← whole] at obeyed
  exact (execute_batches obeyed (Tracked.run made).guarded.batches allowed memory).trans (by rw [whole])

end Orders

/-- A kernel that fills what it writes with its value. -/
def fill (plan : DispatchPlan κ) (memory : Place → Nat) (place : Place) : Nat :=
  if plan.access.writes.covers place then plan.access.value else memory place

theorem fill_kernel (plan : DispatchPlan κ) :
    Kernel plan.access (fill plan) {place | plan.access.writes.covers place = true} where
  inside _ here := here
  frame _ _ outside := if_neg outside
  reads _ _ _ _ here := (if_pos here).trans (if_pos here).symm

/-- The first two dispatches are one batch, and may change places. -/
theorem reordered_execute_swapped : ∃ lowering first second third, run threeDispatches = some lowering ∧
    lowering.dispatches = [first, second, third] ∧
    execute fill [second, first, third] (fun _ => 0) = execute fill lowering.dispatches (fun _ => 0) := by
  obtain ⟨lowering, first, second, third, made, all, batches, -, one, two, three⟩ := run_threeDispatches
  refine ⟨lowering, first, second, third, made, all,
    @reordered_execute Unit Nat lowering threeDispatches fill _ made
    ⟨fun plan _ => fill_kernel plan, ?_⟩ [[second, first], [third]] ?_ fun _ => 0⟩
  · simp [all, one, two, three]
  rw [all, batches]
  exact .cons (.swap ..) (.cons (.refl _) .nil)

end Lowering
end VirtioAccel.Vulkan
