import VirtioAccel.Transport.SplitRepresentation

/-! What each operation of the split queue does to the chains it stands for. -/

namespace VirtioAccel
open List
variable {D : Type} [ChainShape D]

namespace SplitQueue
variable {q q' : SplitQueue D} {s : RingStorage D} {ideal : Ideal D}
variable {T : Type}

/-- The queue stands for these chains. Without storage there are none. -/
structure Rep (q : SplitQueue D) (ideal : Ideal D) : Prop where
  current : q.currentEpoch = q.state.epoch.value
  stored : ∀ {s}, q.storage = some s → s.Rep q.state.epoch ideal ∧ q.state.size = some s.size
  bare : q.storage = none → ideal = .empty ∧ q.state.size = none
  sized : q.state.ready = true → q.state.size ≠ none

namespace Rep

theorem new {maxSize : QueueSize} {limit : UInt16} (made : new maxSize limit = .ok q) : Rep q .empty := by
  unfold SplitQueue.new at made
  split at made
  · cases made
  cases made
  exact ⟨rfl, nofun, fun _ => ⟨rfl, rfl⟩, nofun⟩

/-- A queue that is ready has storage. -/
theorem ready (holds : Rep q ideal) (ready : q.state.ready = true) :
    ∃ s, q.storage = some s ∧ s.Rep q.state.epoch ideal := by
  cases stored : q.storage with
  | none => exact absurd (holds.bare stored).2 (holds.sized ready)
  | some s => exact ⟨s, rfl, (holds.stored stored).1⟩

theorem store (holds : Rep q ideal) {s s' : RingStorage D} {ideal' : Ideal D} (stored : q.storage = some s)
    (now : s'.Rep q.state.epoch ideal') (size : s'.size = s.size) : Rep { q with storage := some s' } ideal' := by
  refine ⟨holds.current, ?_, nofun, holds.sized⟩
  intro t same
  cases same
  exact ⟨now, by rw [size]; exact (holds.stored stored).2⟩

/-- The notification flags stand for nothing. -/
theorem notify (holds : Rep q ideal) (available used : Bool) :
    Rep { q with availableNotifications := available, usedNotifications := used } ideal :=
  ⟨holds.current, holds.stored, holds.bare, holds.sized⟩

end Rep

theorem restored (stored : q.storage = some s) : { q with storage := some s } = q := by rw [← stored]

theorem withStorage_ready (ready : q.state.ready = true) (stored : q.storage = some s)
    (body : RingStorage D → Except (QueueError SplitQueueError) T × RingStorage D) :
    q.withStorage body = ((body s).1, { q with storage := some (body s).2 }) := by
  rw [withStorage, if_neg (not_not.mpr ready), stored]

theorem withStorage_unready (unready : q.state.ready ≠ true)
    (body : RingStorage D → Except (QueueError SplitQueueError) T × RingStorage D) :
    q.withStorage body = (.error .notReady, q) := by
  rw [withStorage, if_pos unready]

/-- The queue takes chains, this one is well formed or raw, and there are descriptors for it. -/
structure Admits (q : SplitQueue D) (ideal : Ideal D) (chain : DriverChain D) (raw : Bool) : Prop where
  ready : q.state.ready = true
  checked : raw = false → q.checkChain chain = .ok ()
  room : ∀ size, q.state.size = some size → ideal.descriptors + chain.descriptorCount.toNat ≤ size.value.toNat

/-- A publication that fails gives the chain back and leaves the queue as it
was; one that succeeds names the chain afresh. It fails only when the queue
does not admit the chain. -/
inductive Published (q : SplitQueue D) (ideal : Ideal D) (chain : DriverChain D) (raw : Bool) :
    Except (DriverChain D × PublishErrorKind SplitQueueError) PublishedChain × SplitQueue D → Prop where
  | refused {kind} (sound : kind ≠ .transport .corruptState) (why : ¬ Admits q ideal chain raw) :
    Published q ideal chain raw (.error (chain, kind), q)
  | accepted {id q'} (epoch : id.epoch = q.state.epoch) (fresh : id ∉ ideal.held.map Prod.fst)
      (state : q'.state = q.state)
      (now : q'.Rep { ideal with waiting := ideal.waiting ++ [(id, chain.own)] }) :
    Published q ideal chain raw (.ok ⟨id, hint q.availableNotifications⟩, q')

/-- A publication appends to the chains that wait. -/
theorem publishInner_published (holds : Rep q ideal) (chain : DriverChain D) (raw : Bool) :
    Published q ideal chain raw (q.publishInner chain raw) := by
  unfold publishInner
  by_cases ready : q.state.ready = true
  swap
  · rw [if_pos ready]
    exact .refused nofun fun admits => ready admits.ready
  rw [if_neg (not_not.mpr ready)]
  have checked : ∀ kind, (if raw then .ok () else q.checkChain chain) = .error kind →
      kind ≠ .transport .corruptState := by
    intro kind refused same
    subst same
    cases raw with
    | true => cases refused
    | false =>
      simp only [checkChain, Bool.false_eq_true, if_false] at refused
      split at refused
      · cases refused
      · split at refused <;> cases refused
  cases check : (if raw then .ok () else q.checkChain chain) with
  | error kind =>
    refine .refused (checked kind check) fun admits => ?_
    cases raw with
    | true => cases check
    | false => cases (admits.checked rfl).symm.trans check
  | ok _ =>
    obtain ⟨s, stored, rep⟩ := holds.ready ready
    simp only [stored]
    have whole := rep.descriptors
    have sized := (holds.stored stored).2
    by_cases full : s.availableCount = s.size.value
    · rw [if_pos full]
      refine .refused nofun fun admits => ?_
      -- as many chains wait as there are descriptors, so none is left
      have room := admits.room _ sized
      have waiting := ideal.waiting_le_descriptors
      rw [← rep.availableCount, full] at waiting
      have nothing : chain.descriptorCount.toNat = 0 := by omega
      exact ChainShape.nonempty chain.data (UInt16.toNat_inj.mp nothing)
    rw [if_neg full]
    by_cases scarce : s.freeDescriptors < chain.descriptorCount
    · rw [if_pos scarce]
      refine .refused nofun fun admits => ?_
      have room := admits.room _ sized
      have few := UInt16.lt_iff_toNat_lt.mp scarce
      omega
    rw [if_neg scarce]
    obtain ⟨head, s', chain', allocated, allocates⟩ :=
      RingStorage.allocate_spec rep.books.descriptors rep.books.next rep.books.free (UInt16.not_lt.mp scarce)
    have absent : s.record head = none := rep.books.unrecorded (allocates.free head allocates.headed).2
    have unrecorded : s'.record head = none := by
      rw [allocates.rest]
      exact absent
    simp only [allocated, unrecorded, Option.isSome_none, Bool.false_eq_true, if_false]
    have room : ideal.waiting.length < s.size.value.toNat := by
      have bound := rep.lengths_le
      have count := rep.availableCount
      have other : s.availableCount.toNat ≠ s.size.value.toNat := fun same => full (UInt16.toNat_inj.mp same)
      omega
    refine .accepted rfl ?_ rfl (holds.store stored (rep.enqueue allocates room) ?_)
    · intro taken
      obtain ⟨r, found⟩ := rep.recorded taken
      rw [ChainId.slot, UInt16.toUInt16_toUInt64, absent] at found
      cases found
    · change s'.size = s.size
      rw [allocates.rest]

/-- The oldest waiting chain goes to the device, if the queue is ready and there is one. -/
inductive Popped (q : SplitQueue D) (ideal : Ideal D) : Result D (Option (SplitDeviceChain D)) → Prop where
  | unready (unready : q.state.ready ≠ true) : Popped q ideal (.error .notReady, q)
  | drained (nothing : ideal.waiting = []) : Popped q ideal (.ok none, q)
  | took {id data head rest q'} (first : ideal.waiting = (id, data, head) :: rest)
      (epoch : id.epoch = q.state.epoch)
      (state : q'.state = q.state) (now : q'.Rep ⟨rest, ideal.taken ++ [(id, data, head)], ideal.finished⟩) :
    Popped q ideal (.ok (some ⟨id, data, q.maxChainDescriptors⟩), q')

theorem popAvailable_popped (holds : Rep q ideal) : Popped q ideal q.popAvailable := by
  unfold popAvailable
  by_cases ready : q.state.ready = true
  swap
  · rw [withStorage_unready ready]
    exact .unready ready
  obtain ⟨s, stored, rep⟩ := holds.ready ready
  rw [withStorage_ready ready stored]
  obtain ⟨waiting, taken, finished⟩ := ideal
  cases waiting with
  | nil =>
    have count : s.availableCount = 0 := UInt16.toNat_inj.mp rep.availableCount
    simp only [count, if_true, restored stored]
    exact .drained rfl
  | cons x rest =>
    obtain ⟨id, own⟩ := x
    have count : s.availableCount ≠ 0 := by
      intro zero
      have length := rep.availableCount
      rw [zero] at length
      cases length
    obtain ⟨head, r, found, rfl, rfl, state, now⟩ := rep.take
    have epoch : r.id.epoch = q.state.epoch := by rw [rep.books.named found]
    simp only [count, if_false, head, Option.getD_some, found, epoch, state, ne_eq, not_true, or_self]
    exact .took rfl epoch rfl (holds.store stored now rfl)

/-- A token of this epoch is for a chain that was taken, so its completion
finishes that chain or is refused for what it asks: too much for the buffers
of the chain, or anything of a queue that is not ready. -/
inductive Completed (q : SplitQueue D) (ideal : Ideal D) (chain : SplitDeviceChain D) (used : UInt32) :
    Result D NotificationHint → Prop where
  | refused {error} (sound : error ≠ .transport .corruptState) (why : q.state.ready = true →
      chain.id.epoch = q.state.epoch → chain.writableCapacity < used.toUInt64) :
    Completed q ideal chain used (.error error, q)
  | finished {before head after q'} (mine : ideal.taken = before ++ (chain.id, chain.data, head) :: after)
      (epoch : chain.id.epoch = q.state.epoch) (state : q'.state = q.state)
      (now : q'.Rep ⟨ideal.waiting, before ++ after, ideal.finished ++ [((chain.id, chain.data, head), used)]⟩) :
    Completed q ideal chain used (.ok (hint q.usedNotifications), q')

theorem complete_completed (holds : Rep q ideal) (chain : SplitDeviceChain D) (used : UInt32)
    (live : chain.id.epoch = q.state.epoch → ∃ head, (chain.id, chain.data, head) ∈ ideal.taken) :
    Completed q ideal chain used (q.complete chain used) := by
  unfold complete
  by_cases epoch : chain.id.epoch = q.state.epoch
  swap
  · rw [if_pos epoch]
    exact .refused nofun fun _ same => absurd same epoch
  rw [if_neg (not_not.mpr epoch)]
  by_cases ready : q.state.ready = true
  swap
  · rw [if_pos ready]
    exact .refused nofun fun now => absurd now ready
  rw [if_neg (not_not.mpr ready)]
  by_cases long : chain.writableCapacity < used.toUInt64
  · rw [if_pos long]
    exact .refused nofun fun _ _ => long
  rw [if_neg long]
  obtain ⟨s, stored, rep⟩ := holds.ready ready
  obtain ⟨head, member⟩ := live epoch
  obtain ⟨waiting, taken, finished⟩ := ideal
  obtain ⟨before, after, rfl⟩ := append_of_mem member
  obtain ⟨room, r, found, same, _, state, now⟩ := rep.finish used
  have small : chain.id.token.toNat < 2 ^ 16 := by
    rw [← same, rep.books.named found, UInt16.toNat_toUInt64]
    exact chain.id.slot.toNat_lt
  have slot : chain.id.token.toUInt16 = chain.id.slot := rfl
  rw [if_neg (Nat.not_le.mpr small), withStorage_ready ready stored]
  simp only [slot, found, same, state, room, ne_eq, not_true, or_self, if_false]
  exact .finished rfl epoch rfl (holds.store stored now rfl)

/-- The chain that was finished first goes back to the driver, if the queue is ready and there is one. -/
inductive Returned (q : SplitQueue D) (ideal : Ideal D) : Result D (Option (UsedChain (DriverChain D))) → Prop where
  | unready (unready : q.state.ready ≠ true) : Returned q ideal (.error .notReady, q)
  | unfinished (nothing : ideal.finished = []) : Returned q ideal (.ok none, q)
  | returned {id used chain rest q'} (first : ideal.finished = ((id, chain.own), used) :: rest)
      (state : q'.state = q.state) (now : q'.Rep ⟨ideal.waiting, ideal.taken, rest⟩) :
    Returned q ideal (.ok (some ⟨id, used, chain⟩), q')

theorem popUsed_returned (holds : Rep q ideal) : Returned q ideal q.popUsed := by
  unfold popUsed
  by_cases ready : q.state.ready = true
  swap
  · rw [withStorage_unready ready]
    exact .unready ready
  obtain ⟨s, stored, rep⟩ := holds.ready ready
  rw [withStorage_ready ready stored]
  obtain ⟨waiting, taken, finished⟩ := ideal
  cases finished with
  | nil =>
    have count : s.usedCount = 0 := UInt16.toNat_inj.mp rep.usedCount
    simp only [count, if_true, restored stored]
    exact .unfinished rfl
  | cons x rest =>
    obtain ⟨⟨id, own⟩, used⟩ := x
    have count : s.usedCount ≠ 0 := by
      intro zero
      have length := rep.usedCount
      rw [zero] at length
      cases length
    obtain ⟨head, r, found, rfl, rfl, state, now, size⟩ := rep.giveBack
    simp only [count, if_false, head, Option.join_some, found, state, ne_eq, not_true, or_self]
    exact .returned rfl rfl (holds.store stored now size)

/-- An operation that hands no chain over. -/
inductive Kept {T : Type} (q : SplitQueue D) (ideal : Ideal D) : Result D T → Prop where
  | refused {error} (sound : error ≠ .transport .corruptState) : Kept q ideal (.error error, q)
  | kept {value q'} (epoch : q'.state.epoch = q.state.epoch) (now : q'.Rep ideal) : Kept q ideal (.ok value, q')

theorem setReady_kept (holds : Rep q ideal) (ready : Bool) : Kept q ideal (q.setReady ready) := by
  unfold setReady QueueState.new
  split
  · rename_i error refused
    exact .refused nofun
  rename_i state made
  split at made
  · cases made
  split at made
  · cases made
  rename_i sized
  cases made
  refine .kept rfl ⟨holds.current, holds.stored, holds.bare, ?_⟩
  intro now none
  simp_all

/-- No chain is active, so there is none. -/
theorem Rep.idle (holds : Rep q ideal) (idle : q.storage.any (fun storage => storage.activeChains ≠ 0) = false) :
    ideal = .empty := by
  cases stored : q.storage with
  | none => exact (holds.bare stored).1
  | some s =>
    have rep := (holds.stored stored).1
    rw [stored] at idle
    have zero : s.activeChains = 0 := by simpa using idle
    have length := rep.books.listed_length
    rw [← rep.books.active, zero] at length
    have none : ideal.listed = [] := length_eq_zero_iff.mp length
    obtain ⟨waiting, taken, finished⟩ := ideal
    simp only [Ideal.listed, append_eq_nil_iff, map_eq_nil_iff] at none
    obtain ⟨⟨rfl, rfl⟩, rfl⟩ := none
    rfl

theorem configure_kept (holds : Rep q ideal) (reserve : Bool) (size : QueueSize) :
    Kept q ideal (q.configure reserve size) := by
  unfold configure
  by_cases ready : q.state.ready = true
  · rw [if_pos ready]
    exact .refused nofun
  rw [if_neg ready]
  by_cases large : q.state.maxSize.value < size.value
  · rw [if_pos large]
    exact .refused nofun
  rw [if_neg large]
  by_cases limit : size.value < q.maxChainDescriptors
  · rw [if_pos limit]
    exact .refused nofun
  rw [if_neg limit]
  by_cases busy : q.storage.any (fun storage => storage.activeChains ≠ 0) = true
  · rw [if_pos busy]
    exact .refused nofun
  rw [if_neg busy]
  cases reserve with
  | false => exact .refused nofun
  | true =>
    obtain ⟨s, made⟩ : ∃ s : RingStorage D, RingStorage.new true size = .ok s := ⟨_, rfl⟩
    have state : QueueState.new q.state.maxSize (some size) false q.state.epoch =
        .ok ⟨q.state.maxSize, some size, false, q.state.epoch⟩ := by
      simp [QueueState.new, large]
    simp only [made, state]
    have empty := holds.idle (Bool.not_eq_true _ ▸ busy)
    subst empty
    refine .kept rfl ⟨holds.current, ?_, nofun, nofun⟩
    intro t same
    cases same
    exact ⟨.new size _ made, by cases made; rfl⟩

section Notifications
variable (holds : Rep q ideal)
include holds

theorem disableUsedNotifications_kept : Kept q ideal q.disableUsedNotifications := by
  unfold disableUsedNotifications
  split
  · exact .refused nofun
  · exact .kept rfl (holds.notify _ _)

theorem disableAvailableNotifications_kept : Kept q ideal q.disableAvailableNotifications := by
  unfold disableAvailableNotifications
  split
  · exact .refused nofun
  · exact .kept rfl (holds.notify _ _)

theorem enableUsedNotifications_kept : Kept q ideal q.enableUsedNotifications := by
  unfold enableUsedNotifications
  by_cases ready : q.state.ready = true
  swap
  · rw [if_pos ready]
    exact .refused nofun
  obtain ⟨s, stored, _⟩ := holds.ready ready
  rw [if_neg (not_not.mpr ready), withStorage_ready (q := { q with usedNotifications := true }) ready stored]
  refine .kept rfl ?_
  rw [← stored]
  exact holds.notify q.availableNotifications true

theorem enableAvailableNotifications_kept : Kept q ideal q.enableAvailableNotifications := by
  unfold enableAvailableNotifications
  by_cases ready : q.state.ready = true
  swap
  · rw [if_pos ready]
    exact .refused nofun
  obtain ⟨s, stored, _⟩ := holds.ready ready
  rw [if_neg (not_not.mpr ready), withStorage_ready (q := { q with availableNotifications := true }) ready stored]
  refine .kept rfl ?_
  rw [← stored]
  exact holds.notify true q.usedNotifications

end Notifications

/-- A reset to a later epoch empties the queue at once; one to another epoch is refused. -/
inductive Reset (q : SplitQueue D) (ideal : Ideal D) (next : QueueEpoch) : Result D (Option (RingStorage D)) →
    Prop where
  | refused (past : next.value ≤ q.state.epoch.value) :
    Reset q ideal next (.error (.invalidConfiguration .nonIncreasingEpoch), q)
  | emptied {storage q'} (later : q.state.epoch.value < next.value) (epoch : q'.state.epoch = next)
      (now : q'.Rep .empty)
      (all : ((storage.elim [] reclaimed).map (fun reclaimed => (reclaimed.id, reclaimed.chain.own))).Perm
        ideal.held) :
    Reset q ideal next (.ok storage, q')

theorem advanceEpoch_reset (holds : Rep q ideal) (next : QueueEpoch) :
    Reset q ideal next (q.advanceEpoch next) := by
  unfold advanceEpoch
  by_cases past : next.value ≤ q.state.epoch.value
  · rw [if_pos past]
    exact .refused past
  rw [if_neg past]
  refine .emptied (UInt64.not_le.mp past) rfl ⟨rfl, nofun, fun _ => ⟨rfl, rfl⟩, nofun⟩ ?_
  cases stored : q.storage with
  | none =>
    rw [(holds.bare stored).1]
    exact .refl _
  | some s =>
    have listed := (holds.stored stored).1.books.listed.map Prod.fst
    rw [Ideal.listed_map_fst, map_map] at listed
    rw [Option.elim_some, reclaimed, map_map]
    exact listed

end SplitQueue

end VirtioAccel
