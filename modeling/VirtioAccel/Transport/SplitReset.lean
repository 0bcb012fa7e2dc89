import VirtioAccel.Transport.SplitQueueGuarantees
import VirtioAccel.Transport.SplitSharing

/-! A queue, the bytes that its chains share with the driver, and device chains that outlive a reset. -/

namespace VirtioAccel

/-- What the driver's chain and the device's token both hold: a reference to the descriptors, and their analysis. -/
structure SharedChain where
  ref : Nat
  count : UInt16
  analysis : ChainAnalysis
  nonempty : count ≠ 0

instance : ChainShape SharedChain where
  descriptorCount := SharedChain.count
  validation chain := chain.analysis.validation
  nonempty := SharedChain.nonempty

inductive ChainError where
  | malformed (error : MalformedChain)
  | resetRace (chain current : QueueEpoch)
  deriving DecidableEq

namespace SplitDeviceChain

/-- The token, over what its reference stands for. -/
def deref (self : SplitDeviceChain SharedChain) (memory : Nat → ChainData) : SplitDeviceChain ChainData :=
  ⟨self.id, memory self.data.ref, self.maxDescriptors⟩

/-- The regions that `io` shows; `none` is a panic on an epoch of zero. -/
def io (self : SplitDeviceChain SharedChain) (currentEpoch : UInt64) :
    Option (Except ChainError (List ChainRegion)) :=
  (QueueEpoch.new currentEpoch).map fun current =>
    if current ≠ self.id.epoch then .error (.resetRace self.id.epoch current)
    else match self.data.analysis.validation with
      | .error error => .error (.malformed error)
      | .ok layout =>
        if self.maxDescriptors < layout.descriptorCount then .error (.malformed .descriptorCount)
        else .ok self.data.analysis.regions

end SplitDeviceChain

namespace SplitQueue

section Epochs
variable {D : Type} [ChainShape D]
variable {ideal : Ideal D}

theorem Kept.same_epoch {T : Type} {queue : SplitQueue D} {result : Result D T} (kept : Kept queue ideal result) :
    result.2.state.epoch = queue.state.epoch := by
  cases kept with
  | refused => rfl
  | kept epoch => exact epoch

/-- Epochs only grow. -/
theorem Session.Sound.epoch_le {session : Session D} (sound : session.Sound ideal) (op : Op D) :
    session.queue.state.epoch.value ≤ (session.step op).2.queue.state.epoch.value := by
  have rep := sound.rep
  have same {queue : SplitQueue D} (epoch : queue.state.epoch = session.queue.state.epoch) :
      session.queue.state.epoch.value ≤ queue.state.epoch.value := by
    rw [epoch]
    exact UInt64.le_refl _
  have published (chain : DriverChain D) (raw : Bool) :
      (session.queue.publishInner chain raw).2.state.epoch = session.queue.state.epoch := by
    have outcome := publishInner_published rep chain raw
    generalize session.queue.publishInner chain raw = result at outcome
    cases outcome with
    | refused => rfl
    | accepted _ _ state => rw [state]
  have reset (next : QueueEpoch) :
      session.queue.state.epoch.value ≤ (session.queue.advanceEpoch next).2.state.epoch.value := by
    have outcome := advanceEpoch_reset rep next
    generalize session.queue.advanceEpoch next = result at outcome
    cases outcome with
    | refused => exact UInt64.le_refl _
    | emptied later epoch =>
      rw [epoch]
      exact UInt64.le_of_lt later
  cases op with
  | configure reserve size => exact same (configure_kept rep reserve size).same_epoch
  | setReady ready => exact same (setReady_kept rep ready).same_epoch
  | publish chain => exact same (published chain false)
  | injectAvailable chain => exact same (published chain true)
  | popAvailable => exact same (congrArg _ (popAvailable_state session.queue))
  | complete token used => exact same (congrArg _ (session.complete_state token used))
  | popUsed => exact same (congrArg _ (session.queue.withStorage_state _))
  | disableUsedNotifications => exact same (disableUsedNotifications_kept rep).same_epoch
  | disableAvailableNotifications => exact same (disableAvailableNotifications_kept rep).same_epoch
  | enableUsedNotifications => exact same (enableUsedNotifications_kept rep).same_epoch
  | enableAvailableNotifications => exact same (enableAvailableNotifications_kept rep).same_epoch
  | driverReset next | deviceReset next => exact reset next

end Epochs

/-- The queue with the device's tokens, and the bytes of every chain. -/
structure Machine where
  session : Session SharedChain
  memory : Nat → ChainData

namespace Machine

def epoch (self : Machine) : QueueEpoch := self.session.queue.state.epoch

/-- An operation of the queue, whatever the driver does to bytes, or a use of one of the device's tokens; the
ports that `io` hands out are part of the token. -/
inductive Op where
  | queue (op : SplitQueue.Op SharedChain)
  | driver (memory : Nat → ChainData)
  | read (token : Nat) (offset : UInt64) (bytes : Nat)
  | write (token : Nat) (offset : UInt64) (source : List UInt8)
  | io (token : Nat)

inductive Reply where
  | queue (reply : SplitQueue.Reply SharedChain)
  | driver
  | read (result : Except ByteAccessError (List UInt8))
  | written (result : Except ByteAccessError Unit)
  | io (result : Option (Except ChainError (List ChainRegion)))
  | noToken

/-- A use of a token that the device has. -/
def withToken (self : Machine) (token : Nat) (use : SplitDeviceChain SharedChain → Reply × Machine) :
    Reply × Machine :=
  match self.session.tokens[token]? with
  | none => (.noToken, self)
  | some chain => use chain

def step (self : Machine) : Op → Reply × Machine
  | .queue op => (.queue (self.session.step op).1, { self with session := (self.session.step op).2 })
  | .driver memory => (.driver, { self with memory })
  | .read token offset bytes => self.withToken token fun chain =>
    (.read ((chain.deref self.memory).readAt self.session.queue.currentEpoch offset bytes), self)
  | .write token offset source => self.withToken token fun chain =>
    let written := (chain.deref self.memory).writeAt self.session.queue.currentEpoch offset source
    (.written written.1, { self with memory := Function.update self.memory chain.data.ref written.2 })
  | .io token => self.withToken token fun chain => (.io (chain.io self.session.queue.currentEpoch), self)

def run (self : Machine) (ops : List Op) : Machine := ops.foldl (fun machine op => (machine.step op).2) self

/-- The states that a machine comes to. -/
inductive Reachable : Machine → Prop where
  | new {maxSize limit queue} (made : new maxSize limit = .ok queue) (memory : Nat → ChainData) :
    Reachable ⟨⟨queue, []⟩, memory⟩
  | step {machine} (reach : Reachable machine) (op : Op) : Reachable (machine.step op).2

variable {machine : Machine}

theorem withToken_session {token : Nat} {use : SplitDeviceChain SharedChain → Reply × Machine}
    (same : ∀ chain, (use chain).2.session = machine.session) : (machine.withToken token use).2.session =
    machine.session := by
  unfold withToken
  split
  · rfl
  · exact same _

/-- Only operations of the queue change what is not bytes. -/
theorem step_session (machine : Machine) (op : Op) :
    (∃ inner, op = .queue inner) ∨ (machine.step op).2.session = machine.session := by
  cases op with
  | queue inner => exact .inl ⟨inner, rfl⟩
  | driver memory => exact .inr rfl
  | read token offset bytes | write token offset source | io token =>
    exact .inr (withToken_session fun _ => rfl)

theorem Reachable.runs (reach : Reachable machine) : ∃ trace, Runs trace machine.session := by
  induction reach with
  | new made memory => exact ⟨_, .new made⟩
  | step reach op ih =>
    obtain ⟨trace, runs⟩ := ih
    rcases step_session _ op with ⟨inner, rfl⟩ | same
    · exact ⟨_, runs.step inner⟩
    rw [same]
    exact ⟨trace, runs⟩

theorem Reachable.run_epoch (reach : Reachable machine) (ops : List Op) :
    machine.epoch.value ≤ (machine.run ops).epoch.value := by
  induction ops generalizing machine with
  | nil => exact UInt64.le_refl _
  | cons op rest ih =>
    refine UInt64.le_trans ?_ (ih (reach.step op))
    rcases step_session machine op with ⟨inner, rfl⟩ | same
    · obtain ⟨_, runs⟩ := reach.runs
      obtain ⟨_, _, sound, _⟩ := runs.sound
      exact sound.epoch_le inner
    · rw [epoch, epoch, same]
      exact UInt64.le_refl _

/-- The token does nothing but fail. Its completion uses it up. -/
structure Silent (machine : Machine) (index : Nat) (token : SplitDeviceChain SharedChain) : Prop where
  read : ∀ offset bytes, machine.step (.read index offset bytes) = (.read (.error .reset), machine)
  write : ∀ offset source, machine.step (.write index offset source) = (.written (.error .reset), machine)
  io : machine.step (.io index) = (.io (some (.error (.resetRace token.id.epoch machine.epoch))), machine)
  complete : ∀ used, machine.step (.queue (.complete index used)) =
    (.queue (.completed token.id (.error (.resetRace token.id.epoch machine.epoch))),
      { machine with session.tokens := machine.session.tokens.eraseIdx index })

theorem Reachable.silent (reach : Reachable machine) {index : Nat} {token : SplitDeviceChain SharedChain}
    (held : machine.session.tokens[index]? = some token) (other : token.id.epoch ≠ machine.epoch) :
    Silent machine index token := by
  obtain ⟨_, runs⟩ := reach.runs
  obtain ⟨_, _, sound, _⟩ := runs.sound
  have current : machine.session.queue.currentEpoch = machine.epoch.value := sound.rep.current
  have apart : machine.session.queue.currentEpoch ≠ token.id.epoch.value := by
    rw [current]
    exact fun same => other (QueueEpoch.ext same.symm)
  have cell : QueueEpoch.new machine.session.queue.currentEpoch = some machine.epoch := by
    rw [current, QueueEpoch.new, dif_pos machine.epoch.nonzero]
  refine ⟨fun offset bytes => ?_, fun offset source => ?_, ?_, fun used => ?_⟩
  · have refused : (token.deref machine.memory).readAt machine.session.queue.currentEpoch offset bytes =
      .error .reset :=
      if_pos apart
    simp only [Machine.step, withToken, held, refused]
  · have refused : (token.deref machine.memory).writeAt machine.session.queue.currentEpoch offset source =
        (.error .reset, machine.memory token.data.ref) := if_pos apart
    simp only [Machine.step, withToken, held, refused, Function.update_eq_self]
  · simp only [Machine.step, withToken, held, SplitDeviceChain.io, cell, Option.map_some]
    rw [if_pos other.symm]
  · have refused : machine.session.queue.complete token used =
        (.error (.resetRace token.id.epoch machine.epoch), machine.session.queue) := if_pos other
    simp only [Machine.step, Session.step, Session.complete, held, refused]

/-- Tokens of another epoch are silent in every reachable state, and those that are held at a reset are of an
earlier epoch ever after. -/
theorem Reachable.reset_silences (reach : Reachable machine) :
    (∀ index token, machine.session.tokens[index]? = some token → token.id.epoch ≠ machine.epoch →
      Silent machine index token) ∧
    ∀ token ∈ machine.session.tokens, ∀ reset,
      (∃ next chains, reset = .driverReset next ∧ (machine.session.step reset).1 = .reclaimed (.ok chains)) ∨
        (∃ next, reset = .deviceReset next ∧ (machine.session.step reset).1 = .reset (.ok ())) →
      ∀ ops, token.id.epoch.value < ((machine.step (.queue reset)).2.run ops).epoch.value := by
  refine ⟨fun index token held other => reach.silent held other, fun token held reset done ops => ?_⟩
  obtain ⟨_, runs⟩ := reach.runs
  obtain ⟨_, _, sound, _⟩ := runs.sound
  refine UInt64.lt_of_lt_of_le (UInt64.lt_of_le_of_lt (sound.past token held) ?_)
    ((reach.step (.queue reset)).run_epoch ops)
  rcases done with ⟨next, chains, rfl, done⟩ | ⟨next, rfl, done⟩
  all_goals
    have outcome := advanceEpoch_reset sound.rep next
    simp only [Session.step, driverReset, deviceReset] at done
    change _ < (machine.session.queue.advanceEpoch next).2.state.epoch.value
    generalize machine.session.queue.advanceEpoch next = result at outcome done
    cases outcome with
    | refused => cases done
    | emptied later epoch =>
      rw [epoch]
      exact later

theorem Reachable.run (reach : Reachable machine) (ops : List Op) : Reachable (machine.run ops) := by
  induction ops generalizing machine with
  | nil => exact reach
  | cons op rest ih => exact ih (reach.step op)

/-- The chain of one buffer for each direction, behind a reference. -/
def sharedChain : DriverChain SharedChain := ⟨⟨0, 2, sampleChain.data.analysis, by decide⟩, [0, 0], 0, rfl⟩

/-- The chain is taken by the device, and published again after a reset under the same head. -/
def republished : List Op :=
  [.configure true sampleSize, .setReady true, .publish sharedChain, .popAvailable, .driverReset secondEpoch,
    .configure true sampleSize, .setReady true, .publish sharedChain, .popAvailable].map .queue

def sampleMachine : Machine :=
  ⟨⟨(new sampleSize 2).toOption.get (by decide +kernel), []⟩, fun _ => sampleChain.data⟩

/-- The token of before the reset is silent, though the new one has its number. -/
theorem Reachable.reset_silences_republished :
    ∃ first second, (sampleMachine.run republished).session.tokens = [first, second] ∧
    first.id.token = second.id.token ∧
      Silent (sampleMachine.run republished) 0 first := by
  obtain ⟨first, second, tokens, token, other⟩ : ∃ first second,
      (sampleMachine.run republished).session.tokens = [first, second] ∧ first.id.token = second.id.token ∧
        first.id.epoch ≠ (sampleMachine.run republished).epoch :=
    ⟨_, _, rfl, by decide +kernel, by decide +kernel⟩
  have reach : Reachable sampleMachine := @Reachable.new sampleSize 2 _ rfl _
  refine ⟨first, second, tokens, token, (reach.run republished).reset_silences.1 0 first ?_ other⟩
  rw [tokens]
  rfl

end Machine
end SplitQueue
end VirtioAccel
