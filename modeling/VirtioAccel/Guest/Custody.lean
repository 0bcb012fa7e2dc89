import VirtioAccel.Guest.ClientSteps
import VirtioAccel.Guest.RoundTrip
import Mathlib.Tactic.Abel

/-! Who has a chain: the caller, the client or the queue, in every run and over any queue. -/

namespace VirtioAccel.Guest
open List GuestClient

/-- A queue, with a record of the chains it was given and of those it gave back. -/
structure Audited (Q χ : Type) where
  queue : Q
  given : List χ
  back : List χ

section Audited
variable {Q χ θ : Type} [CompletionQueue Q χ θ]

instance : CompletionQueue (Audited Q χ) χ θ where
  epoch audited := DriverQueue.epoch audited.queue
  publish audited chain :=
    match DriverQueue.publish audited.queue chain with
    | (.error (refused, kind), queue) =>
      (.error (refused, kind), ⟨queue, audited.given ++ [chain], audited.back ++ [refused]⟩)
    | (.ok id, queue) => (.ok id, ⟨queue, audited.given ++ [chain], audited.back⟩)
  state audited := CompletionQueue.state audited.queue
  popUsed audited :=
    match CompletionQueue.popUsed audited.queue with
    | (.ok (some used), queue) => (.ok (some used), ⟨queue, audited.given, audited.back ++ [used.chain]⟩)
    | (result, queue) => (result, ⟨queue, audited.given, audited.back⟩)
  reset audited nextEpoch :=
    match CompletionQueue.reset audited.queue nextEpoch with
    | (.ok reclaimed, queue) =>
      (.ok reclaimed, ⟨queue, audited.given, audited.back ++ reclaimed.map ReclaimedChain.chain⟩)
    | (result, queue) => (result, ⟨queue, audited.given, audited.back⟩)
  epoch_state audited := CompletionQueue.epoch_state audited.queue

variable {audited queue : Audited Q χ}

/-- The record says what each call handed over. -/
theorem Audited.publish_eq {chain : χ} {result : Except (χ × PublishErrorKind θ) ChainId}
    (publish : DriverQueue.publish audited chain = (result, queue)) :
    queue.given = audited.given ++ [chain] ∧
    queue.back = audited.back ++ match result with
      | .error (refused, _) => [refused]
      | .ok _ => [] := by
  change (match DriverQueue.publish audited.queue chain with
    | (.error (refused, kind), inner) =>
      (.error (refused, kind), ⟨inner, audited.given ++ [chain], audited.back ++ [refused]⟩)
    | (.ok id, inner) => (.ok id, ⟨inner, audited.given ++ [chain], audited.back⟩)) = (result, queue) at publish
  split at publish
  · cases publish
    exact ⟨rfl, rfl⟩
  cases publish
  exact ⟨rfl, (append_nil _).symm⟩

theorem Audited.popUsed_eq {result : Except (QueueError θ) (Option (UsedChain χ))}
    (pop : CompletionQueue.popUsed audited = (result, queue)) :
    queue.given = audited.given ∧
    queue.back = audited.back ++ match result with
      | .ok (some used) => [used.chain]
      | _ => [] := by
  change (match CompletionQueue.popUsed audited.queue with
    | (.ok (some used), inner) => (.ok (some used), ⟨inner, audited.given, audited.back ++ [used.chain]⟩)
    | (result, inner) => (result, ⟨inner, audited.given, audited.back⟩)) = (result, queue) at pop
  split at pop
  · cases pop
    exact ⟨rfl, rfl⟩
  rename_i unused _
  cases pop
  refine ⟨rfl, ?_⟩
  split
  · exact (unused _ rfl).elim
  · exact (append_nil _).symm

theorem Audited.reset_eq {nextEpoch : QueueEpoch} {result : Except (QueueError θ) (List (ReclaimedChain χ))}
    (reset : CompletionQueue.reset audited nextEpoch = (result, queue)) :
    queue.given = audited.given ∧
    queue.back = audited.back ++ match result with
      | .ok reclaimed => reclaimed.map ReclaimedChain.chain
      | .error _ => [] := by
  change (match CompletionQueue.reset audited.queue nextEpoch with
    | (.ok reclaimed, inner) =>
      (.ok reclaimed, ⟨inner, audited.given, audited.back ++ reclaimed.map ReclaimedChain.chain⟩)
    | (result, inner) => (result, ⟨inner, audited.given, audited.back⟩)) = (result, queue) at reset
  split at reset
  · cases reset
    exact ⟨rfl, rfl⟩
  rename_i unused _
  cases reset
  refine ⟨rfl, ?_⟩
  split
  · exact (unused _ rfl).elim
  · exact (append_nil _).symm

end Audited

/-- The chain that a slot holds for the caller. -/
def Slot.chain {χ : Type} : Slot χ → Option χ
  | completed _ used | recovered used => some used.chain
  | vacant | inFlight _ _ => none

namespace GuestClient
variable {Q χ : Type}

/-- The chains the client holds itself. -/
def held (self : GuestClient Q χ) : List χ :=
  (self.slots.map Slot.chain).reduceOption ++ self.unexpected.toList.map UsedChain.chain

end GuestClient

/-- The client, and what the caller passed in and got back. -/
structure Desk (Q χ : Type) where
  client : GuestClient (Audited Q χ) χ
  passed : List χ
  returned : List χ

/-- What the owner of a client calls. -/
inductive Call (Q χ : Type) where
  | start (chain : χ) (start : Start)
  | pump
  | poll (pending : Pending)
  | reset (nextEpoch : QueueEpoch)
  | popRecoveredCompletion
  | takeUnexpectedCompletion
  /-- Anything that happens to the queue between two calls. -/
  | outside (change : Q → Q)

namespace Desk
variable {Q χ ε θ : Type} [DriverChainBuffer χ ε] [CompletionQueue Q χ θ]

def step (desk : Desk Q χ) : Call Q χ → Desk Q χ
  | .start chain start =>
    match desk.client.start chain start with
    | (.error failure, client) => ⟨client, desk.passed ++ [chain], desk.returned ++ [failure.chain]⟩
    | (.ok _, client) => ⟨client, desk.passed ++ [chain], desk.returned⟩
  | .pump => { desk with client := desk.client.pump.2 }
  | .poll pending =>
    match desk.client.poll pending with
    | (.ready completion, client) => ⟨client, desk.passed, desk.returned ++ [completion.chain]⟩
    | (_, client) => { desk with client }
  | .reset nextEpoch =>
    match desk.client.reset nextEpoch with
    | (.ok reclaimed, client) => ⟨client, desk.passed, desk.returned ++ reclaimed.map ReclaimedChain.chain⟩
    | (.error _, client) => { desk with client }
  | .popRecoveredCompletion =>
    let popped := desk.client.popRecoveredCompletion
    ⟨popped.2, desk.passed, desk.returned ++ popped.1.toList.map UsedChain.chain⟩
  | .takeUnexpectedCompletion =>
    let taken := desk.client.takeUnexpectedCompletion
    ⟨taken.2, desk.passed, desk.returned ++ taken.1.toList.map UsedChain.chain⟩
  | .outside change =>
    { desk with client :=
      { desk.client with queue := { desk.client.queue with queue := change desk.client.queue.queue } } }

def run (desk : Desk Q χ) (calls : List (Call Q χ)) : Desk Q χ := calls.foldl step desk

/-- The chains passed in and handed back by the queue are those given to the
queue, held by the client, returned to the caller, or lost. -/
def Balanced {κ : Type} (key : χ → κ) (desk : Desk Q χ) (lost : List χ) : Prop :=
  ((desk.passed ++ desk.client.queue.back).map key).Perm
    ((desk.client.queue.given ++ desk.client.held ++ desk.returned ++ lost).map key)

/-- The next used chain answers no request, and an earlier one of that kind was not taken. -/
structure Crowded (client : GuestClient (Audited Q χ) χ) : Prop where
  running : client.health = .running
  earlier : client.unexpected ≠ none
  unknown : ∃ used queue, CompletionQueue.popUsed client.queue = (.ok (some used), queue) ∧
    ∀ requestId, .inFlight requestId used.id ∉ client.slots

/-- The call pumps while the client is crowded. -/
def Displaces (client : GuestClient (Audited Q χ) χ) : Call Q χ → Prop
  | .pump => Crowded client
  | .poll pending => client.Pumps pending ∧ Crowded client
  | _ => False

section Balance
variable {κ : Type} {key : χ → κ} {desk desk' : Desk Q χ} {lost : List χ}

omit [DriverChainBuffer χ ε] [CompletionQueue Q χ θ] in
/-- One step's moves keep the balance when they are even among themselves. -/
theorem Balanced.move (balanced : Balanced key desk lost) (passed back given returned out into more rest : List χ)
    (ledger : desk'.passed = desk.passed ++ passed ∧ desk'.returned = desk.returned ++ returned)
    (record : desk'.client.queue.given = desk.client.queue.given ++ given ∧
      desk'.client.queue.back = desk.client.queue.back ++ back)
    (before : desk.client.held.Perm (out ++ rest)) (after : desk'.client.held.Perm (into ++ rest))
    (even : ((passed ++ back ++ out).map key).Perm ((given ++ into ++ returned ++ more).map key)) :
    Balanced key desk' (lost ++ more) := by
  have before := before.map key
  have after := after.map key
  unfold Balanced at balanced ⊢
  rw [ledger.1, ledger.2, record.1, record.2]
  rw [← Multiset.coe_eq_coe] at balanced before after even ⊢
  simp only [map_append, ← Multiset.coe_add] at balanced before after even ⊢
  rw [after]
  rw [before] at balanced
  calc (_ : Multiset κ) = (↑(desk.passed.map key) + ↑(desk.client.queue.back.map key)) +
        (↑(passed.map key) + ↑(back.map key)) := by abel
    _ = (↑(passed.map key) + ↑(back.map key) + ↑(out.map key)) +
        (↑(desk.client.queue.given.map key) + ↑(rest.map key) + ↑(desk.returned.map key) + ↑(lost.map key)) := by
      rw [balanced]
      abel
    _ = _ := by
      rw [even]
      abel

omit [DriverChainBuffer χ ε] [CompletionQueue Q χ θ] in
/-- A slot exchanges its chain. -/
theorem held_set {Q : Type} {client : GuestClient Q χ} {index : Nat} {old : Slot χ}
    (atOld : client.slots[index]? = some old) (new : Slot χ) : ∃ rest, client.held.Perm (old.chain.toList ++ rest) ∧
      (held { client with slots := client.slots.set index new }).Perm (new.chain.toList ++ rest) := by
  have found : (client.slots.map Slot.chain)[index]? = some old.chain := by
    rw [getElem?_map, atOld, Option.map_some]
  obtain ⟨rest, before, after⟩ := SlotSums.perm_reduceOption_set found new.chain
  refine ⟨rest ++ client.unexpected.toList.map UsedChain.chain, ?_, ?_⟩
  · rw [← append_assoc]
    exact before.append_right _
  rw [← append_assoc, held, map_set]
  exact after.append_right _

/-- Writing into a chain does not make another chain of it. -/
theorem Written.key_eq
    (stable : ∀ (chain : χ) offset data, key (DriverChainBuffer.writeDeviceReadable chain offset data).2 =
      key chain)
    {chain chain' : χ} (written : Written chain chain') : key chain' = key chain := by
  induction written with
  | refl => rfl
  | write _ offset data ih => rw [stable, ih]

omit [DriverChainBuffer χ ε] in
/-- A pump loses a chain exactly when the client is crowded. -/
theorem pumped_balanced (balanced : Balanced key desk lost)
    {result : Except (QueueError θ) PumpResult} {client : GuestClient (Audited Q χ) χ}
    (pumped : desk.client.Pumped (result, client)) :
    ∃ more, Balanced key { desk with client } (lost ++ more) ∧ (more = [] ↔ ¬ Crowded desk.client) := by
  have same {T : Type} (l : List T) : l = l ++ [] := (append_nil l).symm
  cases pumped with
  | halted lost =>
    refine ⟨[], ?_, iff_of_true rfl (fun crowded => nomatch lost.symm.trans crowded.running)⟩
    rw [append_nil]
    exact balanced
  | failed running pop | idle running pop =>
    obtain ⟨given, back⟩ := Audited.popUsed_eq pop
    refine ⟨[], balanced.move [] [] [] [] [] [] [] _ ⟨same _, same _⟩ ⟨given.trans (same _), back⟩ (.refl _)
      (.refl _) (.refl _), iff_of_true rfl ?_⟩
    intro crowded
    obtain ⟨used, queue', popped, _⟩ := crowded.unknown
    cases pop.symm.trans popped
  | @completed used queue index requestId running pop awaiting =>
    obtain ⟨given, back⟩ := Audited.popUsed_eq pop
    obtain ⟨rest, before, after⟩ := held_set awaiting (.completed requestId used)
    refine ⟨[], balanced.move [] [used.chain] [] [] [] [used.chain] [] _ ⟨same _, same _⟩ ⟨given.trans (same _),
      back⟩ before after
      (.refl _), iff_of_true rfl ?_⟩
    intro crowded
    obtain ⟨used', queue', popped, unknown⟩ := crowded.unknown
    cases pop.symm.trans popped
    exact unknown requestId (mem_of_getElem? awaiting)
  | @unexpected used queue running pop unknown =>
    obtain ⟨given, back⟩ := Audited.popUsed_eq pop
    cases earlier : desk.client.unexpected with
    | none =>
      refine ⟨[], balanced.move [] [used.chain] [] [] [] [used.chain] []
        (desk.client.slots.map Slot.chain).reduceOption
        ⟨same _, same _⟩ ⟨given.trans (same _), back⟩ ?_ ?_ (.refl _),
        iff_of_true rfl (fun crowded => crowded.earlier earlier)⟩
      · rw [held, earlier]
        simp
      rw [held]
      exact perm_append_comm
    | some old =>
      refine ⟨[old.chain], balanced.move [] [used.chain] [] [] [old.chain] [used.chain] [old.chain]
        (desk.client.slots.map Slot.chain).reduceOption ⟨same _, same _⟩ ⟨given.trans (same _),
          back⟩ ?_ ?_ (.refl _),
        iff_of_false nofun (not_not.mpr ⟨running, by rw [earlier]; nofun, used, queue, pop, unknown⟩)⟩
      · rw [held, earlier]
        exact perm_append_comm
      rw [held]
      exact perm_append_comm

omit [DriverChainBuffer χ ε] in
/-- A settled request gives its chain to the caller. -/
theorem settled_balanced (balanced : Balanced key desk lost) {pending : Pending} {used : UsedChain χ}
    (found : desk.client.slots[pending.slot]? = some (.completed pending.requestId used))
    (health : ClientHealth) (deviceInfo : Option DeviceInfo) :
    Balanced key ⟨{ desk.client with slots := desk.client.slots.set pending.slot .vacant, health, deviceInfo },
      desk.passed,
      desk.returned ++ [used.chain]⟩ lost := by
  obtain ⟨rest, before, after⟩ := held_set found .vacant
  rw [← append_nil lost]
  exact balanced.move [] [] [] [used.chain] [used.chain] [] [] rest ⟨(append_nil _).symm, rfl⟩
    ⟨(append_nil _).symm, (append_nil _).symm⟩ before after (.refl _)

variable (stable : ∀ (chain : χ) offset data, key (DriverChainBuffer.writeDeviceReadable chain offset data).2 =
  key chain)
include stable

/-- A start takes the chain of its caller, or returns it. -/
theorem start_balanced (balanced : Balanced key desk lost) (chain : χ) (start : Start) :
    Balanced key (desk.step (.start chain start)) (lost ++ []) := by
  have started := start_started desk.client chain start
  have same {T : Type} (l : List T) : l = l ++ [] := (append_nil l).symm
  unfold step
  dsimp only
  generalize desk.client.start chain start = result at started
  cases started with
  | refused written early =>
    refine balanced.move [chain] [] [] [_] [] [] [] _ ⟨rfl, rfl⟩ ⟨same _, same _⟩ (.refl _) (.refl _) ?_
    simp [Written.key_eq stable written]
  | exhausted none =>
    exact balanced.move [chain] [] [] [chain] [] [] [] _ ⟨rfl, rfl⟩ ⟨same _, same _⟩ (.refl _) (.refl _) (.refl _)
  | @unpublished chain' refused operation kind queue next written publish running =>
    refine balanced.move [chain] [refused] [chain'] [refused] [] [] [] _ ⟨rfl, rfl⟩ (Audited.publish_eq publish)
      (.refl _)
      (.refl _) ?_
    simp [Written.key_eq stable written]
  | @published chain' id queue slot requestId operation reserved next written publish running vacant found =>
    obtain ⟨rest, before, after⟩ := held_set vacant (.inFlight requestId id)
    refine balanced.move [chain] [] [chain'] [] [] []
      [] rest ⟨rfl, same _⟩ (Audited.publish_eq publish) before after ?_
    simp [Written.key_eq stable written]

omit stable in
/-- A poll loses a chain only when it pops one that answers no request, behind another such. -/
theorem poll_balanced (balanced : Balanced key desk lost) (pending : Pending) :
    ∃ more, Balanced key (desk.step (.poll pending)) (lost ++ more) ∧
      (more = [] ↔ ¬ (desk.client.Pumps pending ∧ Crowded desk.client)) := by
  have polled := poll_polled desk.client pending
  unfold step
  dsimp only
  generalize desk.client.poll pending = result at polled
  have settle {client : GuestClient (Audited Q χ) χ} {used : UsedChain χ} {lost : List χ}
      (balanced : Balanced key { desk with client } lost)
      (found : client.slots[pending.slot]? = some (.completed pending.requestId used)) :
      Balanced key
        ⟨(decodeCompletion { client with slots := client.slots.set pending.slot .vacant } pending used).2,
        desk.passed, desk.returned ++ [(decodeCompletion
          { client with slots := client.slots.set pending.slot .vacant } pending used).1.chain]⟩ lost := by
    obtain ⟨chain, health, deviceInfo, after⟩ := decodeCompletion_spec
      { client with slots := client.slots.set pending.slot .vacant } pending used
    rw [chain, after]
    exact settled_balanced balanced found health deviceInfo
  cases polled with
  | @kept reply waits settled =>
    refine ⟨[], ?_, iff_of_true rfl (fun both => settled both.1)⟩
    rw [append_nil]
    cases reply with
    | ready completion => exact absurd rfl (waits completion)
    | _ => exact balanced
  | @pumped reply result client pumps waits pumped =>
    obtain ⟨more, moved, crowded⟩ := pumped_balanced balanced pumped
    refine ⟨more, ?_, crowded.trans (not_congr ⟨fun crowded => ⟨pumps, crowded⟩, And.right⟩)⟩
    cases reply with
    | ready completion => exact absurd rfl (waits completion)
    | _ => exact moved
  | @ready used settled current found =>
    refine ⟨[], ?_, iff_of_true rfl (fun both => settled both.1)⟩
    rw [append_nil]
    exact settle balanced found
  | @pumpedReady result client used pumps pumped found =>
    obtain ⟨more, moved, crowded⟩ := pumped_balanced balanced pumped
    exact ⟨more, settle moved found, crowded.trans (not_congr ⟨fun crowded => ⟨pumps, crowded⟩, And.right⟩)⟩

omit stable [DriverChainBuffer χ ε] in
theorem takeRecovered_held {slots slots' : List (Slot χ)} {used : UsedChain χ}
    (taken : takeRecovered slots = some (used, slots')) :
    ((slots.map Slot.chain).reduceOption).Perm (used.chain :: (slots'.map Slot.chain).reduceOption) := by
  obtain ⟨index, atIndex, rfl⟩ := takeRecovered_eq_some taken
  obtain ⟨rest, before, after⟩ := SlotSums.perm_reduceOption_set
    (by rw [getElem?_map, atIndex]; rfl : (slots.map Slot.chain)[index]? = some (some used.chain)) none
  rw [map_set]
  exact before.trans (after.symm.cons used.chain)

/-- What a call loses: one chain when it displaces another, and else nothing. -/
theorem step_balanced (balanced : Balanced key desk lost) (call : Call Q χ) :
    ∃ more, Balanced key (desk.step call) (lost ++ more) ∧ (more = [] ↔ ¬ Displaces desk.client call) := by
  have same {T : Type} (l : List T) : l = l ++ [] := (append_nil l).symm
  cases call with
  | start chain start => exact ⟨[], start_balanced stable balanced chain start, iff_of_true rfl id⟩
  | pump => exact pumped_balanced balanced (pump_pumped desk.client)
  | poll pending => exact poll_balanced balanced pending
  | reset nextEpoch =>
    refine ⟨[], ?_, iff_of_true rfl id⟩
    have recovered : (desk.client.slots.map Slot.recover).map Slot.chain = desk.client.slots.map Slot.chain := by
      rw [map_map]
      exact map_congr_left (fun slot _ => by cases slot <;> rfl)
    unfold step reset
    dsimp only
    split
    · rename_i reclaimed client after
      split at after
      · cases after
      rename_i queue reset
      cases after
      obtain ⟨given, back⟩ := Audited.reset_eq reset
      refine balanced.move [] _ [] _ [] [] [] desk.client.held ⟨same _, rfl⟩ ⟨given.trans (same _),
        back⟩ (.refl _) ?_ ?_
      · rw [held, recovered]
        exact .refl _
      · simp
    · rename_i error client after
      split at after
      · rename_i queue reset
        cases after
        obtain ⟨given, back⟩ := Audited.reset_eq reset
        exact balanced.move [] [] [] [] [] [] [] _ ⟨same _, same _⟩ ⟨given.trans (same _), back⟩ (.refl _)
          (.refl _) (.refl _)
      · cases after
  | popRecoveredCompletion =>
    refine ⟨[], ?_, iff_of_true rfl id⟩
    unfold step popRecoveredCompletion
    dsimp only
    split
    · exact balanced.move [] [] [] [] [] [] [] _ ⟨same _, rfl⟩ ⟨same _, same _⟩ (.refl _) (.refl _) (.refl _)
    rename_i used slots taken
    have held := (takeRecovered_held taken).append_right (desk.client.unexpected.toList.map UsedChain.chain)
    exact balanced.move [] [] [] [used.chain] [used.chain] [] [] _ ⟨same _, rfl⟩ ⟨same _, same _⟩ held (.refl _)
      (.refl _)
  | takeUnexpectedCompletion =>
    refine ⟨[], ?_, iff_of_true rfl id⟩
    refine balanced.move [] [] [] (desk.client.unexpected.toList.map UsedChain.chain)
      (desk.client.unexpected.toList.map UsedChain.chain) [] [] (desk.client.slots.map Slot.chain).reduceOption
      ⟨same _, rfl⟩ ⟨same _, same _⟩ perm_append_comm ?_ (by simp)
    exact .of_eq (append_nil _)
  | outside change =>
    refine ⟨[], ?_, iff_of_true rfl id⟩
    rw [append_nil]
    exact balanced

omit stable in
/-- Nothing is lost so far. -/
theorem Balanced.unique (balanced : Balanced key desk []) (other : Balanced key desk lost) : lost = [] := by
  have length := other.length_eq.symm.trans balanced.length_eq
  simp only [length_map, length_append, length_nil] at length
  exact length_eq_zero_iff.mp (by omega)

end Balance

/-- A client before its first call. -/
def opened (client : GuestClient (Audited Q χ) χ) : Desk Q χ := ⟨client, [], []⟩

/-- Over any queue and in any run, no chain is dropped or doubled at any moment
exactly when no call pops a chain that answers no request while an earlier
such chain is still there. -/
theorem conserved_iff {κ : Type} {key : χ → κ}
    (stable : ∀ (chain : χ) offset data, key (DriverChainBuffer.writeDeviceReadable chain offset data).2 =
      key chain)
    {reserve : Bool} {queue : Q} {config : GuestConfig} {client : GuestClient (Audited Q χ) χ}
    (made : new reserve ⟨queue, [], []⟩ config = .ok client) (calls : List (Call Q χ)) :
    (∀ n, Balanced key ((opened client).run (calls.take n)) []) ↔
      ∀ n call, calls[n]? = some call → ¬ Displaces ((opened client).run (calls.take n)).client call := by
  have advance {n : Nat} {call : Call Q χ} (atN : calls[n]? = some call) :
      (opened client).run (calls.take (n + 1)) = ((opened client).run (calls.take n)).step call := by
    rw [take_add_one, atN, run, foldl_append]
    rfl
  constructor
  · intro balanced n call atN
    obtain ⟨more, moved, crowded⟩ := step_balanced stable (balanced n) call
    rw [← advance atN] at moved
    exact crowded.mp ((balanced (n + 1)).unique moved)
  intro spaced n
  induction n with
  | zero =>
    obtain ⟨_, rfl⟩ := new_eq_ok made
    have none : held (Q := Audited Q χ) (χ := χ)
        ⟨⟨queue, [], []⟩, config, none, replicate config.maxInflight.toNat .vacant, 1, .running, none⟩ = [] := by
      simp only [held, map_replicate, Slot.chain, reduceOption_replicate_none]
      rfl
    rw [Balanced, take_zero, run, foldl_nil, opened, none]
    exact .refl _
  | succ n ih =>
    cases atN : calls[n]? with
    | none =>
      rw [take_add_one, atN, Option.toList_none, append_nil]
      exact ih
    | some call =>
      obtain ⟨more, moved, crowded⟩ := step_balanced stable ih call
      rw [crowded.mpr (spaced n call atN), ← advance atN] at moved
      exact moved

theorem page_power : ∃ k, k < 16 ∧ (4096 : UInt16).toNat = 2 ^ k := ⟨12, by decide, rfl⟩

/-- A queue of chains that nobody sent. -/
structure Strays where
  epoch : QueueEpoch
  used : List (UsedChain SliceChain)

instance : CompletionQueue Strays SliceChain Empty where
  epoch queue := queue.epoch
  publish queue chain := (.error (chain, .queueFull), queue)
  state queue := ⟨⟨4096, page_power⟩, some ⟨4096, page_power⟩, true, queue.epoch⟩
  popUsed queue := (.ok queue.used.head?, { queue with used := queue.used.tail })
  reset queue nextEpoch := (.ok [], { queue with epoch := nextEpoch })
  epoch_state _ := rfl

def strayChain : UsedChain SliceChain := ⟨⟨.initial, 0⟩, 0, sampleChain⟩

def strays : Strays := ⟨.initial, [strayChain, strayChain]⟩

def strayClient : GuestClient (Audited Strays SliceChain) SliceChain :=
  ⟨⟨strays, [], []⟩, sampleClient.config, none, [.vacant], 1, .running, none⟩

theorem strayClient_made : new true ⟨strays, [], []⟩ sampleClient.config = .ok strayClient := rfl

/-- The first stray is taken before the second one comes. -/
theorem conserved_iff_taken : new true ⟨strays, [], []⟩ sampleClient.config = .ok strayClient ∧
    ∀ n, Balanced (fun chain : SliceChain => chain.response.bytes) ((opened strayClient).run
      ([.pump, .takeUnexpectedCompletion, .reset ⟨2, by decide⟩, .pump].take n)) [] := by
  refine ⟨strayClient_made, (conserved_iff (fun _ _ _ => rfl) strayClient_made _).mpr ?_⟩
  intro n call atN displaces
  match n, atN with
  | 0, atN | 3, atN =>
    cases atN
    exact displaces.earlier rfl
  | 1, atN | 2, atN =>
    cases atN
    exact displaces

/-- The second stray displaces the first one, which nobody has any more. -/
theorem conserved_fails : new true ⟨strays, [], []⟩ sampleClient.config = .ok strayClient ∧
    ¬ Balanced (fun chain : SliceChain => chain.response.bytes)
      ((opened strayClient).run [.pump, .reset ⟨2, by decide⟩, .pump]) [] :=
  ⟨strayClient_made, fun balanced => absurd balanced.length_eq (by decide +kernel)⟩

end Desk

end VirtioAccel.Guest
