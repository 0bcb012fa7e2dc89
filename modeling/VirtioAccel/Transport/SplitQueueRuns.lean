import VirtioAccel.Transport.SplitQueueSteps
import VirtioAccel.Transport.Chain

/-! Whole runs of a split queue, with the driver on one side and a device that
holds the tokens of the chains it took on the other. -/

namespace VirtioAccel
open List
variable {D : Type} [ChainShape D]

namespace SplitQueue

/-- The queue, and the tokens that the device has not used up. -/
structure Session (D : Type) [ChainShape D] where
  queue : SplitQueue D
  tokens : List (SplitDeviceChain D)

/-- What the driver and the device do with the queue. -/
inductive Op (D : Type) [ChainShape D] where
  | configure (reserve : Bool) (size : QueueSize)
  | setReady (ready : Bool)
  | publish (chain : DriverChain D)
  | injectAvailable (chain : DriverChain D)
  | popAvailable
  | complete (token : Nat) (used : UInt32)
  | popUsed
  | disableUsedNotifications
  | enableUsedNotifications
  | disableAvailableNotifications
  | enableAvailableNotifications
  | driverReset (next : QueueEpoch)
  | deviceReset (next : QueueEpoch)

/-- What they are answered. -/
inductive Reply (D : Type) [ChainShape D] where
  | done (result : Except (QueueError SplitQueueError) Unit)
  | published (result : Except (DriverChain D × PublishErrorKind SplitQueueError) PublishedChain)
  | popped (result : Except (QueueError SplitQueueError) (Option (SplitDeviceChain D)))
  | completed (id : ChainId) (result : Except (QueueError SplitQueueError) NotificationHint)
  | used (result : Except (QueueError SplitQueueError) (Option (UsedChain (DriverChain D))))
  | rechecked (result : Except (QueueError SplitQueueError) NotificationRecheck)
  | reclaimed (result : Except (QueueError SplitQueueError) (List (ReclaimedChain (DriverChain D))))
  | reset (result : Except (QueueError SplitQueueError) Unit)
  | noToken

/-- The reply that a queue gives when it finds its own tables wrong. -/
def Reply.Corrupt : Reply D → Prop
  | .published (.error (_, kind)) => kind = .transport .corruptState
  | .done (.error error) | .popped (.error error) | .completed _ (.error error) | .used (.error error)
  | .rechecked (.error error) | .reclaimed (.error error) | .reset (.error error) =>
    error = .transport .corruptState
  | _ => False

namespace Session

/-- An operation of the queue that hands the device no token. -/
def reply {T : Type} (self : Session D) (wrap : Except (QueueError SplitQueueError) T → Reply D)
    (result : Result D T) :
    Reply D × Session D :=
  (wrap result.1, { self with queue := result.2 })

/-- The token is used up by the call, also when the call fails. -/
def complete (self : Session D) (token : Nat) (used : UInt32) : Reply D × Session D :=
  match self.tokens[token]? with
  | none => (.noToken, self)
  | some chain =>
    let result := self.queue.complete chain used
    (.completed chain.id result.1, ⟨result.2, self.tokens.eraseIdx token⟩)

def popAvailable (self : Session D) : Reply D × Session D :=
  let result := self.queue.popAvailable
  (.popped result.1, ⟨result.2, match result.1 with
    | .ok (some chain) => self.tokens ++ [chain]
    | _ => self.tokens⟩)

def step (self : Session D) : Op D → Reply D × Session D
  | .configure reserve size => self.reply .done (self.queue.configure reserve size)
  | .setReady ready => self.reply .done (self.queue.setReady ready)
  | .publish chain =>
    (.published (self.queue.publish chain).1, { self with queue := (self.queue.publish chain).2 })
  | .injectAvailable chain =>
    (.published (self.queue.injectAvailable chain).1, { self with queue := (self.queue.injectAvailable chain).2 })
  | .popAvailable => self.popAvailable
  | .complete token used => self.complete token used
  | .popUsed => self.reply .used self.queue.popUsed
  | .disableUsedNotifications => self.reply .done self.queue.disableUsedNotifications
  | .enableUsedNotifications => self.reply .rechecked self.queue.enableUsedNotifications
  | .disableAvailableNotifications => self.reply .done self.queue.disableAvailableNotifications
  | .enableAvailableNotifications => self.reply .rechecked self.queue.enableAvailableNotifications
  | .driverReset next => self.reply .reclaimed (self.queue.driverReset next)
  | .deviceReset next => self.reply .reset (self.queue.deviceReset next)

/-- One operation after the other. -/
def run (self : Session D) : List (Op D) → List (Op D × Reply D) × Session D
  | [] => ([], self)
  | op :: rest =>
    let next := self.step op
    let later := next.2.run rest
    ((op, next.1) :: later.1, later.2)

end Session

/-- What the two sides see of an operation. -/
def seen : Op D × Reply D → Handover.Event ChainId (D × UInt16) D UInt32
  | (.publish chain, .published (.ok published)) => .submitted published.id chain.own
  | (.injectAvailable chain, .published (.ok published)) => .submitted published.id chain.own
  | (_, .popped (.ok none)) => .drained
  | (_, .popped (.ok (some chain))) => .took chain.id chain.data
  | (.complete _ used, .completed id (.ok _)) => .finished id used
  | (_, .used (.ok none)) => .unfinished
  | (_, .used (.ok (some used))) => .returned used.id used.chain.own used.used
  | (_, .reclaimed (.ok chains)) => .reclaimed (chains.map (fun reclaimed => (reclaimed.id, reclaimed.chain.own)))
  | (_, .reset (.ok ())) => .dropped
  | _ => .quiet

/-- Every run of a new queue, with its operations and their replies. -/
inductive Runs : List (Op D × Reply D) → Session D → Prop where
  | new {maxSize limit queue} (made : new maxSize limit = .ok queue) : Runs [] ⟨queue, []⟩
  | step {trace session} (runs : Runs trace session) (op : Op D) :
    Runs (trace ++ [(op, (session.step op).1)]) (session.step op).2

namespace Session
variable {session : Session D} {ideal : Ideal D}

def current (session : Session D) : List (SplitDeviceChain D) :=
  session.tokens.filter (fun token => token.id.epoch = session.queue.state.epoch)

/-- The tokens of this epoch are for different chains of those the device took. -/
structure Sound (session : Session D) (ideal : Ideal D) : Prop where
  rep : session.queue.Rep ideal
  past : ∀ token ∈ session.tokens, token.id.epoch.value ≤ session.queue.state.epoch.value
  live : (session.current.map (fun token => (token.id, token.data))).Subperm (ideal.taken.map (fun x =>
    (x.1, x.2.1)))

namespace Sound
variable {queue : SplitQueue D}

theorem new {maxSize : QueueSize} {limit : UInt16} (made : new maxSize limit = .ok queue) :
    Sound ⟨queue, []⟩ .empty :=
  ⟨.new made, nofun, nil_subperm⟩

section
variable (sound : Sound session ideal)
include sound

/-- A queue that keeps its epoch and the taken chains keeps the tokens sound. -/
theorem keep {ideal' : Ideal D} (now : queue.Rep ideal')
    (epoch : queue.state.epoch = session.queue.state.epoch) (taken : ideal'.taken = ideal.taken) :
    Sound { session with queue } ideal' := by
  refine ⟨now, ?_, ?_⟩
  · intro token member
    rw [epoch]
    exact sound.past token member
  · have live := sound.live
    rw [current] at live ⊢
    simp only [epoch, taken]
    exact live

/-- After a reset every token is of an earlier epoch. -/
theorem outdate (now : queue.Rep .empty)
    (later : session.queue.state.epoch.value < queue.state.epoch.value) : Sound { session with queue } .empty := by
  have older (token) (member : token ∈ session.tokens) : token.id.epoch.value < queue.state.epoch.value :=
    UInt64.lt_of_le_of_lt (sound.past token member) later
  refine ⟨now, fun token member => UInt64.le_of_lt (older token member), ?_⟩
  have none : session.tokens.filter (fun token => token.id.epoch = queue.state.epoch) = [] := by
    rw [filter_eq_nil_iff]
    intro token member same
    have less := older token member
    rw [of_decide_eq_true same] at less
    exact UInt64.lt_irrefl _ less
  rw [current]
  simp only [none]
  exact nil_subperm

/-- A token of this epoch is for a chain that was taken. -/
theorem taken {token : SplitDeviceChain D} (member : token ∈ session.tokens)
    (epoch : token.id.epoch = session.queue.state.epoch) : ∃ head, (token.id, token.data, head) ∈ ideal.taken := by
  have among := sound.live.subset (mem_map_of_mem (mem_filter.mpr ⟨member, decide_eq_true epoch⟩))
  obtain ⟨⟨id, data, head⟩, taken, same⟩ := mem_map.mp among
  obtain ⟨rfl, rfl⟩ := Prod.mk.inj same
  exact ⟨head, taken⟩

end

end Sound

/-- A step of the session is a step of the ideal queue, and its reply is not that of a corrupt one. -/
structure Matches (ideal : Ideal D) (op : Op D) (after : Reply D × Session D) : Prop where
  clean : ¬ after.1.Corrupt
  sound : ∃ ideal', Handover.Step Prod.fst ideal (seen (op, after.1)) ideal' ∧ Sound after.2 ideal'

section
variable (sound : Sound session ideal)
include sound

variable {op : Op D}

theorem Sound.kept {T : Type} {wrap : Except (QueueError SplitQueueError) T → Reply D} {result : Result D T}
    (kept : Kept session.queue ideal result)
    (clean : ∀ error, error ≠ .transport .corruptState → ¬ (wrap (.error error)).Corrupt)
    (fine : ∀ value, ¬ (wrap (.ok value)).Corrupt) (quiet : ∀ result, seen (op, wrap result) = .quiet) :
    Matches ideal op (session.reply wrap result) := by
  cases kept with
  | refused harmless => exact ⟨clean _ harmless, ideal, by rw [reply, quiet]; exact .quiet, sound⟩
  | kept epoch now => exact ⟨fine _, ideal, by rw [reply, quiet]; exact .quiet, sound.keep now epoch rfl⟩

theorem Sound.published {chain : DriverChain D} {raw : Bool}
    {result : Except (DriverChain D × PublishErrorKind SplitQueueError) PublishedChain × SplitQueue D}
    (published : Published session.queue ideal chain raw result)
    (accepted : ∀ published, seen (op, .published (.ok published)) = .submitted published.id chain.own)
    (refused : ∀ error, seen (op, .published (.error error)) = .quiet) :
    Matches ideal op (.published result.1, { session with queue := result.2 }) := by
  cases published with
  | refused harmless => exact ⟨harmless, ideal, by rw [refused]; exact .quiet, sound⟩
  | accepted epoch fresh state now =>
    refine ⟨id, _, ?_, sound.keep now (by rw [state]) rfl⟩
    rw [accepted]
    exact .submitted fresh

theorem Sound.popAvailable : Matches ideal .popAvailable session.popAvailable := by
  have popped := popAvailable_popped sound.rep
  unfold Session.popAvailable
  generalize session.queue.popAvailable = result at popped
  cases popped with
  | unready => exact ⟨nofun, ideal, .quiet, sound⟩
  | drained nothing =>
    obtain ⟨waiting, taken, finished⟩ := ideal
    cases nothing
    exact ⟨id, _, .drained, sound⟩
  | @took token data head rest queue first epoch state now =>
    obtain ⟨waiting, taken, finished⟩ := ideal
    cases first
    refine ⟨id, _, .took, now, ?_, ?_⟩
    · intro other member
      rw [state]
      rcases mem_append.mp member with old | new
      · exact sound.past other old
      cases mem_singleton.mp new
      rw [epoch]
      exact UInt64.le_refl _
    · have live := sound.live
      rw [current] at live ⊢
      simp only [state, filter_append, map_append]
      refine live.append (Perm.subperm (.of_eq ?_))
      simp [epoch]

theorem Sound.complete (index : Nat) (used : UInt32) :
    Matches ideal (.complete index used) (session.complete index used) := by
  unfold Session.complete
  cases found : session.tokens[index]? with
  | none => exact ⟨id, ideal, .quiet, sound⟩
  | some chain =>
    obtain ⟨inside, atIndex⟩ := List.getElem?_eq_some_iff.mp found
    have split : session.tokens.Perm (chain :: session.tokens.eraseIdx index) := by
      rw [← atIndex]
      exact (getElem_cons_eraseIdx_perm inside).symm
    have past (token) (member : token ∈ session.tokens.eraseIdx index) :
        token.id.epoch.value ≤ session.queue.state.epoch.value := sound.past token (mem_of_mem_eraseIdx member)
    have live := (split.filter (fun token => token.id.epoch = session.queue.state.epoch)).map
      (fun token => (token.id, token.data)) |>.symm.subperm.trans sound.live
    have completed := complete_completed sound.rep chain used (sound.taken (mem_of_getElem? found))
    dsimp only
    generalize session.queue.complete chain used = result at completed
    cases completed with
    | refused harmless =>
      refine ⟨harmless, ideal, .quiet, sound.rep, past, ?_⟩
      refine Subperm.trans (Sublist.subperm ?_) live
      exact ((sublist_cons_self chain _).filter _).map _
    | @finished before head after queue mine epoch state now =>
      obtain ⟨waiting, taken, finished⟩ := ideal
      obtain rfl : taken = _ := mine
      refine ⟨id, _, .finished, now, ?_, ?_⟩
      · rw [state]
        exact past
      rw [filter_cons_of_pos (by simpa using epoch), map_cons, map_append, map_cons,
        perm_middle.subperm_left, subperm_cons, ← map_append] at live
      rw [current]
      simp only [state]
      exact live

theorem Sound.popUsed : Matches ideal .popUsed (session.reply .used session.queue.popUsed) := by
  have returned := popUsed_returned sound.rep
  generalize session.queue.popUsed = result at returned
  cases returned with
  | unready => exact ⟨nofun, ideal, .quiet, sound⟩
  | unfinished nothing =>
    obtain ⟨waiting, taken, finished⟩ := ideal
    cases nothing
    exact ⟨id, _, .unfinished, sound⟩
  | returned first state now =>
    obtain ⟨waiting, taken, finished⟩ := ideal
    cases first
    exact ⟨id, _, .returned, sound.keep now (by rw [state]) rfl⟩

/-- Every operation keeps the queue in step with the ideal one. -/
theorem Sound.step (op : Op D) : Matches ideal op (session.step op) := by
  have rep := sound.rep
  cases op with
  | configure reserve size =>
    exact sound.kept (configure_kept rep reserve size) (fun _ => id) (fun _ => id) (by rintro (_ | _) <;> rfl)
  | setReady ready =>
    exact sound.kept (setReady_kept rep ready) (fun _ => id) (fun _ => id) (by rintro (_ | _) <;> rfl)
  | publish chain => exact sound.published (publishInner_published rep chain false) (fun _ => rfl) (fun _ => rfl)
  | injectAvailable chain =>
    exact sound.published (publishInner_published rep chain true) (fun _ => rfl) (fun _ => rfl)
  | popAvailable => exact sound.popAvailable
  | complete token used => exact sound.complete token used
  | popUsed => exact sound.popUsed
  | disableUsedNotifications =>
    exact sound.kept (disableUsedNotifications_kept rep) (fun _ => id) (fun _ => id) (by rintro (_ | _) <;> rfl)
  | enableUsedNotifications =>
    exact sound.kept (enableUsedNotifications_kept rep) (fun _ => id) (fun _ => id) (by rintro (_ | _) <;> rfl)
  | disableAvailableNotifications =>
    exact sound.kept (disableAvailableNotifications_kept rep) (fun _ => id) (fun _ => id)
      (by rintro (_ | _) <;> rfl)
  | enableAvailableNotifications =>
    exact sound.kept (enableAvailableNotifications_kept rep) (fun _ => id) (fun _ => id) (by rintro (_ | _) <;> rfl)
  | driverReset next =>
    have reset := advanceEpoch_reset rep next
    change Matches ideal _ (session.reply .reclaimed (session.queue.driverReset next))
    unfold driverReset
    generalize session.queue.advanceEpoch next = result at reset
    cases reset with
    | refused => exact ⟨nofun, ideal, .quiet, sound⟩
    | emptied later epoch now all =>
      exact ⟨id, .empty, .reclaimed all, sound.outdate now (by rw [epoch]; exact later)⟩
  | deviceReset next =>
    have reset := advanceEpoch_reset rep next
    change Matches ideal _ (session.reply .reset (session.queue.deviceReset next))
    unfold deviceReset
    generalize session.queue.advanceEpoch next = result at reset
    cases reset with
    | refused => exact ⟨nofun, ideal, .quiet, sound⟩
    | emptied later epoch now all => exact ⟨id, .empty, .dropped, sound.outdate now (by rw [epoch]; exact later)⟩

end

end Session

variable {trace : List (Op D × Reply D)} {session : Session D}

theorem Runs.run (runs : Runs trace session) (ops : List (Op D)) :
    Runs (trace ++ (session.run ops).1) (session.run ops).2 := by
  induction ops generalizing trace session with
  | nil =>
    rw [Session.run, append_nil]
    exact runs
  | cons op rest ih =>
    have later := ih (runs.step op)
    rw [append_assoc] at later
    exact later

theorem Runs.sound (runs : Runs trace session) :
    ∃ ideal, Handover.Run Prod.fst (trace.map seen) ideal ∧ session.Sound ideal ∧ ∀ entry ∈ trace,
    ¬ entry.2.Corrupt := by
  induction runs with
  | new made => exact ⟨.empty, .start, .new made, fun _ absurd => (not_mem_nil absurd).elim⟩
  | step runs op ih =>
    obtain ⟨ideal, run, sound, clean⟩ := ih
    obtain ⟨fine, ideal', next, sound'⟩ := sound.step op
    refine ⟨ideal', ?_, sound', ?_⟩
    · rw [map_append]
      exact run.step next
    intro entry member
    rcases mem_append.mp member with old | new
    · exact clean entry old
    cases mem_singleton.mp new
    exact fine

end SplitQueue

end VirtioAccel
