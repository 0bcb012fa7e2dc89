import VirtioAccel.Transport.SplitQueueGuarantees

/-! No wakeup is lost: a side that was told its ring is idle is notified of what comes after. -/

namespace VirtioAccel
open List
variable {D : Type} [ChainShape D]

namespace SplitQueue

/-- The ring that the device listens to, and the one that the driver listens to. -/
inductive Listening where
  | available | used

namespace Listening
variable {queue : SplitQueue D} {session : Session D} {id : ChainId} {op : Op D}

/-- The other side is to notify of what it puts into the ring. -/
def armed : Listening → SplitQueue D → Bool
  | available, queue => queue.availableNotifications
  | used, queue => queue.usedNotifications

def count : Listening → RingStorage D → UInt16
  | available, storage => storage.availableCount
  | used, storage => storage.usedCount

def pending (ring : Listening) (queue : SplitQueue D) : Prop := ∃ storage, queue.storage = some storage ∧
    ring.count storage ≠ 0

/-- Notifications were enabled, and the ring was empty. -/
def Idle : Listening → Op D × Reply D → Prop
  | available, entry => entry = (.enableAvailableNotifications, .rechecked (.ok .idle))
  | used, entry => entry = (.enableUsedNotifications, .rechecked (.ok .idle))

def Silenced : Listening → Op D × Reply D → Prop
  | available, entry => entry = (.disableAvailableNotifications, .done (.ok ()))
  | used, entry => entry = (.disableUsedNotifications, .done (.ok ()))

def Notified : Listening → Op D × Reply D → Prop
  | available, (_, .published (.ok published)) => published.notification = .notify
  | used, (_, .completed _ (.ok hint)) => hint = .notify
  | _, _ => False

/-- What the ideal queue holds in the ring. -/
def Waits : Listening → Ideal D → Prop
  | available, ideal => ideal.waiting ≠ []
  | used, ideal => ideal.finished ≠ []

theorem pending_iff {ideal : Ideal D} (holds : queue.Rep ideal) (ring : Listening) :
    ring.pending queue ↔ ring.Waits ideal := by
  cases stored : queue.storage with
  | none =>
    rw [(holds.bare stored).1]
    simp only [pending, stored]
    cases ring <;> simp [Waits, Handover.empty]
  | some storage =>
    have rep := (holds.stored stored).1
    have counts : ∀ {count : UInt16} {α : Type} {entries : List α}, count.toNat = entries.length →
        (count ≠ 0 ↔ entries ≠ []) :=
      fun same => by rw [ne_eq, ← UInt16.toNat_inj, same, UInt16.toNat_zero, length_eq_zero_iff]
    simp only [pending, stored, Option.some.injEq, exists_eq_left']
    cases ring with
    | available => exact counts rep.availableCount
    | used => exact counts rep.usedCount

theorem withStorage_armed {T : Type} (ring : Listening) (queue : SplitQueue D)
    (body : RingStorage D → Except (QueueError SplitQueueError) T × RingStorage D) :
    ring.armed (queue.withStorage body).2 = ring.armed queue := by
  unfold withStorage
  split
  · rfl
  split <;> cases ring <;> rfl

theorem publishInner_armed (ring : Listening) (queue : SplitQueue D) (chain : DriverChain D) (raw : Bool) :
    ring.armed (queue.publishInner chain raw).2 = ring.armed queue := by
  unfold publishInner
  iterate 5
    split
    · rfl
  split
  · cases ring <;> rfl
  split <;> cases ring <;> rfl

theorem complete_armed (ring : Listening) (queue : SplitQueue D) (chain : SplitDeviceChain D) (used : UInt32) :
    ring.armed (queue.complete chain used).2 = ring.armed queue := by
  unfold complete
  iterate 4
    split
    · rfl
  exact withStorage_armed ..

theorem advanceEpoch_armed (ring : Listening) (queue : SplitQueue D) (next : QueueEpoch)
    (armed : ring.armed queue = true) :
    ring.armed (queue.advanceEpoch next).2 = true := by
  unfold advanceEpoch
  split
  · exact armed
  · cases ring <;> rfl

/-- Only its own listener takes a bell down. -/
theorem step_armed (ring : Listening) (session : Session D) (op : Op D)
    (kept : ¬ ring.Silenced (op, (session.step op).1)) (armed : ring.armed session.queue = true) :
    ring.armed (session.step op).2.queue = true := by
  cases op with
  | configure reserve size =>
    change ring.armed (session.queue.configure reserve size).2 = true
    unfold configure
    iterate 5
      split
      · exact armed
    split <;> cases ring <;> exact armed
  | setReady ready =>
    change ring.armed (session.queue.setReady ready).2 = true
    unfold setReady
    split <;> cases ring <;> exact armed
  | publish chain | injectAvailable chain => exact (publishInner_armed ..).trans armed
  | popAvailable | popUsed => exact (withStorage_armed ..).trans armed
  | complete token used =>
    change ring.armed (session.complete token used).2.queue = true
    unfold Session.complete
    split
    · exact armed
    · exact (complete_armed ..).trans armed
  | disableUsedNotifications =>
    change ¬ ring.Silenced (_, .done session.queue.disableUsedNotifications.1) at kept
    change ring.armed session.queue.disableUsedNotifications.2 = true
    unfold disableUsedNotifications at kept ⊢
    split at kept
    · rename_i unready
      rw [if_pos unready]
      exact armed
    · cases ring with
      | available => split <;> exact armed
      | used => exact absurd rfl kept
  | disableAvailableNotifications =>
    change ¬ ring.Silenced (_, .done session.queue.disableAvailableNotifications.1) at kept
    change ring.armed session.queue.disableAvailableNotifications.2 = true
    unfold disableAvailableNotifications at kept ⊢
    split at kept
    · rename_i unready
      rw [if_pos unready]
      exact armed
    · cases ring with
      | available => exact absurd rfl kept
      | used => split <;> exact armed
  | enableUsedNotifications =>
    change ring.armed session.queue.enableUsedNotifications.2 = true
    unfold enableUsedNotifications
    split
    · exact armed
    rw [withStorage_armed]
    cases ring with
    | available => exact armed
    | used => rfl
  | enableAvailableNotifications =>
    change ring.armed session.queue.enableAvailableNotifications.2 = true
    unfold enableAvailableNotifications
    split
    · exact armed
    rw [withStorage_armed]
    cases ring with
    | available => rfl
    | used => exact armed
  | driverReset next | deviceReset next => exact advanceEpoch_armed ring session.queue next armed

theorem publishInner_hint {chain : DriverChain D} {raw : Bool} {published : PublishedChain}
    (done : (queue.publishInner chain raw).1 = .ok published) :
    published.notification = hint queue.availableNotifications := by
  unfold publishInner at done
  repeat' split at done
  all_goals cases done
  rfl

theorem complete_hint {chain : SplitDeviceChain D} {used : UInt32} {answer : NotificationHint}
    (done : (queue.complete chain used).1 = .ok answer) : answer = hint queue.usedNotifications := by
  unfold complete withStorage at done
  dsimp only at done
  repeat' split at done
  all_goals cases done
  rfl

theorem seen_submitted {reply : Reply D} {own : D × UInt16} (happened : seen (op, reply) = .submitted id own) :
    ∃ published, reply = .published (.ok published) := by
  unfold seen at happened
  split at happened
  case h_1 | h_2 => exact ⟨_, (Prod.mk.inj ‹_›).2⟩
  all_goals cases happened

theorem seen_finished {reply : Reply D} {used : UInt32} (happened : seen (op, reply) = .finished id used) :
    ∃ hint, reply = .completed id (.ok hint) := by
  unfold seen at happened
  split at happened
  case h_5 =>
    cases happened
    exact ⟨_, (Prod.mk.inj ‹_›).2⟩
  all_goals cases happened

theorem step_published {published : PublishedChain} (done : (session.step op).1 = .published (.ok published)) :
    published.notification = hint session.queue.availableNotifications := by
  cases op with
  | publish chain | injectAvailable chain => exact publishInner_hint (Reply.published.inj done)
  | complete token used =>
    change (session.complete token used).1 = _ at done
    unfold Session.complete at done
    split at done <;> cases done
  | _ => cases done

theorem step_completed {answer : NotificationHint} (done : (session.step op).1 = .completed id (.ok answer)) :
    answer = hint session.queue.usedNotifications := by
  cases op with
  | complete token used =>
    change (session.complete token used).1 = _ at done
    unfold Session.complete at done
    split at done
    · cases done
    · exact complete_hint (Reply.completed.inj done).2
  | _ => cases done

/-- What comes into the ring of an armed bell is notified. -/
theorem step_notified (ring : Listening) {ideal : Ideal D} (sound : session.Sound ideal) (op : Op D)
    (armed : ring.armed session.queue = true) (pending : ring.pending (session.step op).2.queue) :
    ring.pending session.queue ∨ ring.Notified (op, (session.step op).1) := by
  obtain ⟨_, ideal', next, sound'⟩ := sound.step op
  rw [pending_iff sound'.rep] at pending
  rw [pending_iff sound.rep]
  generalize happened : seen (op, (session.step op).1) = event at next
  cases next with
  | submitted fresh =>
    cases ring with
    | used => exact .inl pending
    | available =>
      obtain ⟨published, reply⟩ := seen_submitted happened
      refine .inr ?_
      rw [reply]
      exact (step_published reply).trans (congrArg hint armed)
  | finished =>
    cases ring with
    | available => exact .inl pending
    | used =>
      obtain ⟨answer, reply⟩ := seen_finished happened
      refine .inr ?_
      rw [reply]
      exact (step_completed reply).trans (congrArg hint armed)
  | took => exact .inl (by cases ring with
    | available => exact cons_ne_nil _ _
    | used => exact pending)
  | returned => exact .inl (by cases ring with
    | available => exact pending
    | used => exact cons_ne_nil _ _)
  | reclaimed _ | dropped => cases ring <;> exact absurd rfl pending
  | _ => exact .inl pending

theorem recheck_idle (ring : Listening)
    (idle : (queue.withStorage fun storage => (.ok (recheck (ring.count storage)), storage)).1 = .ok .idle) :
    ¬ ring.pending (queue.withStorage fun storage => (.ok (recheck (ring.count storage)), storage)).2 := by
  unfold withStorage recheck at *
  split at idle
  · cases idle
  split at idle
  · cases idle
  rw [if_neg ‹_›]
  rintro ⟨_, same, some⟩
  cases same
  dsimp only at idle
  rw [if_neg some] at idle
  cases idle

/-- An enabled ring that was found idle is armed, and empty. -/
theorem idle_step (ring : Listening) (op : Op D) (idle : ring.Idle (op, (session.step op).1)) :
    ring.armed (session.step op).2.queue = true ∧ ¬ ring.pending (session.step op).2.queue := by
  cases ring with
  | available =>
    obtain ⟨rfl, idle⟩ := Prod.mk.inj idle
    change Reply.rechecked session.queue.enableAvailableNotifications.1 = _ at idle
    change armed available session.queue.enableAvailableNotifications.2 = true ∧
      ¬ pending available session.queue.enableAvailableNotifications.2
    unfold enableAvailableNotifications at idle ⊢
    split at idle
    · cases idle
    rw [if_neg ‹_›]
    exact ⟨withStorage_armed .., recheck_idle available (Reply.rechecked.inj idle)⟩
  | used =>
    obtain ⟨rfl, idle⟩ := Prod.mk.inj idle
    change Reply.rechecked session.queue.enableUsedNotifications.1 = _ at idle
    change armed used session.queue.enableUsedNotifications.2 = true ∧
      ¬ pending used session.queue.enableUsedNotifications.2
    unfold enableUsedNotifications at idle ⊢
    split at idle
    · cases idle
    rw [if_neg ‹_›]
    exact ⟨withStorage_armed .., recheck_idle used (Reply.rechecked.inj idle)⟩

end Listening

/-- What is in a ring now, after its listener enabled notifications, found it idle and has not disabled them
since, was notified. -/
theorem Runs.no_lost_wakeup {trace : List (Op D × Reply D)} {session : Session D} (runs : Runs trace session)
    (ring : Listening) {before after : List (Op D × Reply D)} {entry : Op D × Reply D}
    (split : trace = before ++ entry :: after) (idle : ring.Idle entry)
    (kept : ∀ later ∈ after, ¬ ring.Silenced later)
    (pending : ring.pending session.queue) : ∃ later ∈ after, ring.Notified later := by
  suffices invariant : ring.armed session.queue = true ∧ (ring.pending session.queue → ∃ later ∈ after,
    ring.Notified later) from
    invariant.2 pending
  clear pending
  induction runs generalizing after with
  | new made => simp at split
  | @step trace session runs op ih =>
    obtain ⟨ideal, _, sound, _⟩ := runs.sound
    rcases eq_nil_or_concat after with rfl | ⟨earlier, last, rfl⟩
    · obtain ⟨rfl, same⟩ := append_inj' split rfl
      cases same
      obtain ⟨armed, empty⟩ := ring.idle_step op idle
      exact ⟨armed, fun pending => absurd pending empty⟩
    rw [concat_eq_append, ← cons_append, ← append_assoc] at split
    rw [concat_eq_append] at kept ⊢
    obtain ⟨rfl, same⟩ := append_inj' split rfl
    cases same
    obtain ⟨armed, notified⟩ := ih rfl fun later member => kept later (mem_append_left _ member)
    refine ⟨ring.step_armed session op (kept _ (by simp)) armed, fun pending => ?_⟩
    rcases ring.step_notified sound op armed pending with old | new
    · obtain ⟨later, member, rung⟩ := notified old
      exact ⟨later, mem_append_left _ member, rung⟩
    · exact ⟨_, mem_append_right _ (mem_singleton.mpr rfl), new⟩

/-- The device finds its ring idle, and a chain is published. -/
def wakeupOps : List (Op ChainData) :=
  [.configure true sampleSize, .setReady true, .enableAvailableNotifications, .publish sampleChain]

/-- The chain that is published after an idle recheck notifies the device. -/
theorem Runs.no_lost_wakeup_published :
    ∃ later ∈ (Session.run ⟨sampleQueue, []⟩ wakeupOps).1.drop 3, Listening.available.Notified later := by
  have split : (Session.run ⟨sampleQueue, []⟩ wakeupOps).1 =
      (Session.run ⟨sampleQueue, []⟩ wakeupOps).1.take 2 ++
        (.enableAvailableNotifications, .rechecked (.ok .idle)) ::
        (Session.run ⟨sampleQueue, []⟩ wakeupOps).1.drop 3 := rfl
  refine Runs.no_lost_wakeup (Runs.of_sample wakeupOps) .available split rfl (fun later member silenced =>
    ?_) ⟨_, rfl, ?_⟩
  · have ops : ((Session.run ⟨sampleQueue, []⟩ wakeupOps).1.drop 3).map Prod.fst = [.publish sampleChain] := rfl
    have op := mem_map_of_mem (f := Prod.fst) member
    rw [ops, mem_singleton, silenced] at op
    cases op
  · decide +kernel

end SplitQueue
end VirtioAccel
