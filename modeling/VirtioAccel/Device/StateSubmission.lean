import VirtioAccel.Device.StateCreation
import Mathlib.Data.List.TakeWhile

namespace VirtioAccel
open Checked List
variable {A : Handles} {ω ε : Type}
variable {R : Type} {slot : ResourceSlot R}

theorem ResourceSlot.exists_resource_iff : (∃ resource, slot.resource = some resource) ↔ slot.release = .live :=
  ⟨fun ⟨_, held⟩ => live_of_resource held, resource_of_live⟩

namespace DeviceState
variable {s : DeviceState A}
variable {contextId : ObjectId} {u : Unit}
variable {bufferIds ids : List ObjectId} {queueId id : ObjectId}

/-- What a submission names, by kind. -/
def named (queueId : ObjectId) (programIds bufferIds : List ObjectId) : ObjectKind → List ObjectId
  | .queue => [queueId]
  | .program => programIds
  | .buffer => bufferIds
  | .context | .event => []

theorem references_eq_named (event : EventRecord A) :
    event.references = named event.queueId event.programIds event.bufferIds := by
  funext other
  cases other <;> rfl

/-- Everything a submission names is live in one context. -/
def Submittable (s : DeviceState A) (names : ObjectKind → List ObjectId) (contextId : ObjectId) : Prop :=
  ∀ other target, target ∈ names other → ∃ found, (s.table other).lookup target = some found ∧
    found.owner = some contextId ∧ found.resource.release = .live

theorem validateMember_eq_ok {owner : ObjectId} :
    validateMember contextId owner slot = .ok u ↔ slot.release = .live ∧ owner = contextId := by
  simp only [validateMember, bind_eq_ok, ResourceSlot.get_eq_ok, refuseIf_eq_ok, not_not,
    exists_and_right, ResourceSlot.exists_resource_iff]

theorem validateSubmission_eq_ok {programId : ObjectId} :
    s.validateSubmission queueId programId bufferIds = .ok contextId ↔
      s.Submittable (named queueId [programId] bufferIds) contextId := by
  simp only [validateSubmission, bind_eq_ok, queueRecord_eq_ok, programRecord_eq_ok, bufferRecord_eq_ok,
    ResourceSlot.get_eq_ok, validateMember_eq_ok, forM_eq_ok, pure_eq_ok]
  constructor
  · rintro ⟨queue, atQueue, handle, held, program, atProgram, ⟨⟩, ⟨programLive, programOwner⟩, ⟨⟩, buffers, same⟩
    subst same
    intro other target member
    cases other with
    | context | event => simp [named] at member
    | queue =>
      cases mem_singleton.mp member
      exact ⟨queue, atQueue, rfl, ResourceSlot.live_of_resource held⟩
    | program =>
      cases mem_singleton.mp member
      exact ⟨program, atProgram, congrArg some programOwner, programLive⟩
    | buffer =>
      obtain ⟨buffer, atBuffer, live, owner⟩ := buffers target member
      exact ⟨buffer, atBuffer, congrArg some owner, live⟩
  · intro valid
    obtain ⟨queue, atQueue, queueOwner, queueLive⟩ := valid .queue queueId (by simp [named])
    obtain ⟨program, atProgram, programOwner, programLive⟩ := valid .program programId (by simp [named])
    obtain ⟨handle, held⟩ := ResourceSlot.resource_of_live queueLive
    have sameOwner := Option.some.inj queueOwner
    refine ⟨queue, atQueue, handle, held, program, atProgram, (),
      ⟨programLive, (Option.some.inj programOwner).trans sameOwner.symm⟩, (), ?_, sameOwner⟩
    intro bufferId member
    obtain ⟨buffer, atBuffer, bufferOwner, bufferLive⟩ := valid .buffer bufferId member
    exact ⟨buffer, atBuffer, bufferLive, (Option.some.inj bufferOwner).trans sameOwner.symm⟩

theorem validateSubmissionSequence_eq_ok {programIds : List ObjectId} :
    s.validateSubmissionSequence queueId programIds bufferIds = .ok contextId ↔
      programIds ≠ [] ∧ s.Submittable (named queueId programIds bufferIds) contextId := by
  cases programIds with
  | nil => simp [validateSubmissionSequence]
  | cons first rest =>
    simp only [validateSubmissionSequence, bind_eq_ok, validateSubmission_eq_ok, programRecord_eq_ok,
      validateMember_eq_ok, forM_eq_ok, pure_eq_ok]
    constructor
    · rintro ⟨root, valid, ⟨⟩, programs, same⟩
      subst same
      refine ⟨by simp, fun other target member => ?_⟩
      cases other with
      | context | event => simp [named] at member
      | queue | buffer => exact valid _ target member
      | program =>
        rcases mem_cons.mp member with rfl | later
        · exact valid .program target (by simp [named])
        obtain ⟨program, atProgram, live, owner⟩ := programs target later
        exact ⟨program, atProgram, congrArg some owner, live⟩
    · rintro ⟨_, valid⟩
      refine ⟨contextId, fun other target member => ?_, (), ?_, rfl⟩
      · cases other with
        | context | event => simp [named] at member
        | queue | buffer => exact valid _ target member
        | program =>
          cases mem_singleton.mp member
          exact valid .program first (by simp [named])
      · intro programId later
        obtain ⟨program, atProgram, owner, live⟩ := valid .program programId (mem_cons_of_mem _ later)
        exact ⟨program, atProgram, live, Option.some.inj owner⟩

theorem checkIncrement_eq_ok {inFlight : UInt32} {count : Nat} :
    checkIncrement inFlight count = .ok u ↔ inFlight.toNat + count < 2 ^ 32 := by
  unfold checkIncrement
  split
  · simp only [reduceCtorEq, false_iff]
    omega
  split
  · simp only [reduceCtorEq, false_iff]
    omega
  simp only [true_iff]
  omega

theorem checkProgramIncrements_room {seen : List ObjectId} (checked : s.checkProgramIncrements seen ids = .ok u)
    (member : id ∈ ids) (fresh : id ∉ seen) :
    ∃ program, s.programs.lookup id = some program ∧ program.inFlight.toNat + ids.count id < 2 ^ 32 := by
  induction ids generalizing seen with
  | nil => simp at member
  | cons first rest ih =>
    simp only [checkProgramIncrements, bind_eq_ok] at checked
    obtain ⟨⟨⟩, here, later⟩ := checked
    by_cases same : id = first
    · subst id
      simp only [checkProgramIncrement, fresh, if_false, bind_eq_ok, programRecord_eq_ok,
        checkIncrement_eq_ok] at here
      exact here
    · have inRest : id ∈ rest := (mem_cons.mp member).resolve_left same
      rw [count_cons_of_ne (Ne.symm same)]
      exact ih later inRest (by simp [same, fresh])

/-- Behind the run of the smallest identifier it does not occur again. -/
theorem ne_of_mem_dropWhile {first : ObjectId} {rest : List ObjectId}
    (sorted : (first :: rest).Pairwise (fun left right => left.raw ≤ right.raw)) :
    ∀ other ∈ rest.dropWhile (fun id => decide (id = first)), other ≠ first := by
  intro other member same
  subst other
  cases behind : rest.dropWhile (fun id => decide (id = first)) with
  | nil => simp [behind] at member
  | cons next tail =>
    have differs : next ≠ first := by
      have stop := head_dropWhile_not (l := rest) (fun id => decide (id = first)) (by simp [behind])
      simpa [behind] using stop
    have least := (pairwise_cons.mp sorted).1
    have inRest : ∀ id ∈ next :: tail, id ∈ rest := fun id inside =>
      (dropWhile_sublist _).subset (behind ▸ inside)
    have sortedTail : (next :: tail).Pairwise (fun left right => left.raw ≤ right.raw) :=
      behind ▸ (pairwise_cons.mp sorted).2.sublist (dropWhile_sublist _)
    rw [behind] at member
    have upper : next.raw ≤ first.raw := by
      rcases mem_cons.mp member with rfl | later
      · exact UInt64.le_refl _
      · exact (pairwise_cons.mp sortedTail).1 first later
    have lower := least next (inRest next (mem_cons_self ..))
    refine differs (ObjectId.ext_toNat ?_)
    exact Nat.le_antisymm (UInt64.le_iff_toNat_le.mp upper) (UInt64.le_iff_toNat_le.mp lower)

theorem checkBufferIncrements_room {fuel : Nat} (enough : ids.length ≤ fuel)
    (sorted : ids.Pairwise (fun left right => left.raw ≤ right.raw))
    (checked : s.checkBufferIncrements fuel ids = .ok u) (member : id ∈ ids) :
    ∃ buffer, s.buffers.lookup id = some buffer ∧ buffer.inFlight.toNat + ids.count id < 2 ^ 32 := by
  induction fuel generalizing ids with
  | zero =>
    rw [Nat.le_zero, length_eq_zero_iff] at enough
    simp [enough] at member
  | succ fuel ih =>
    cases ids with
    | nil => simp at member
    | cons first rest =>
      simp only [checkBufferIncrements, bind_eq_ok, bufferRecord_eq_ok, checkIncrement_eq_ok] at checked
      obtain ⟨buffer, present, ⟨⟩, room, later⟩ := checked
      have sortedRest := (pairwise_cons.mp sorted).2
      -- In a sorted list the run of `first` holds all of its occurrences.
      have split := takeWhile_append_dropWhile (p := fun id => decide (id = first)) (l := rest)
      have run : ∀ other ∈ rest.takeWhile (fun id => decide (id = first)), other = first := fun other inRun =>
        by simpa using mem_takeWhile_imp inRun
      have after : ∀ other ∈ rest.dropWhile (fun id => decide (id = first)), other ≠ first :=
        ne_of_mem_dropWhile sorted
      by_cases same : id = first
      · subst id
        refine ⟨buffer, present, ?_⟩
        have counted : (first :: rest).count first =
            (rest.takeWhile (fun id => decide (id = first))).length + 1 := by
          rw [count_cons_self, ← split, count_append, count_eq_length.mpr (fun other inRun =>
            (run other inRun).symm), count_eq_zero.mpr (fun inRest => after first inRest rfl), Nat.add_zero, split]
        rw [counted]
        exact room
      · have inRest : id ∈ rest := (mem_cons.mp member).resolve_left same
        have inDrop : id ∈ rest.dropWhile (fun id => decide (id = first)) := by
          rw [← split] at inRest
          exact (mem_append.mp inRest).resolve_left (fun inRun => same (run id inRun))
        have shorter : (rest.dropWhile (fun id => decide (id = first))).length ≤ fuel := by
          have bound := (dropWhile_sublist (l := rest) (fun id => decide (id = first))).length_le
          simp only [length_cons] at enough
          omega
        obtain ⟨found, there, below⟩ := ih shorter (sortedRest.sublist (dropWhile_sublist _)) later inDrop
        refine ⟨found, there, ?_⟩
        rw [count_cons_of_ne (Ne.symm same), ← split, count_append,
          count_eq_zero.mpr (fun inRun => same (run id inRun)), Nat.zero_add]
        exact below

end DeviceState

end VirtioAccel
