import VirtioAccel.Guest.Ledger
import VirtioAccel.Guest.RoundTrip
import VirtioAccel.Transport.SplitSharing

/-! A client over a split queue, with a device at its other end and callers
that hold the tokens of their requests. -/

namespace VirtioAccel
open List SplitQueue
variable {D κ : Type} [ChainShape D]

instance : CompletionQueue (SplitQueue D) (DriverChain D) SplitQueueError where
  epoch queue := queue.state.epoch
  publish queue chain := ((queue.publish chain).1.map PublishedChain.id, (queue.publish chain).2)
  state queue := queue.state
  popUsed queue := queue.popUsed
  reset queue nextEpoch := queue.driverReset nextEpoch
  epoch_state _ := rfl

instance : QueueControl (SplitQueue D) SplitQueueError where
  configure queue reserve size := queue.configure reserve size
  setReady queue ready := queue.setReady ready

/-- The chains that were published and not popped. -/
def SplitQueue.chainIds (self : SplitQueue D) : List ChainId :=
  self.storage.elim [] (fun storage => storage.records.reduceOption.map ChainRecord.id)

/-- The chains of the ideal queue under names that writing keeps. -/
def Ideal.keyed (key : D → κ) (ideal : Ideal D) : List (ChainId × κ) := ideal.held.map (fun x => (x.1, key x.2.1))

omit [ChainShape D] in
theorem Ideal.keyed_fst (key : D → κ) (ideal : Ideal D) :
    (ideal.keyed key).map Prod.fst = ideal.held.map Prod.fst := by
  rw [Ideal.keyed, map_map]
  rfl

variable {q : SplitQueue D}

theorem SplitQueue.Rep.chainIds {ideal : Ideal D} (holds : q.Rep ideal) :
    q.chainIds.Perm (ideal.held.map Prod.fst) := by
  unfold SplitQueue.chainIds
  cases stored : q.storage with
  | none =>
    rw [(holds.bare stored).1]
    exact .refl _
  | some s =>
    have listed := (holds.stored stored).1.books.listed.map (fun x => x.1.1)
    rw [map_map] at listed
    rw [← Ideal.listed_map_fst, map_map]
    exact listed

/-- Publication as the client sees it. -/
theorem SplitQueue.Rep.publish {ideal : Ideal D} (holds : q.Rep ideal) (chain : DriverChain D) :
    (∃ kind, DriverQueue.publish q chain = (.error (chain, kind), q)) ∨
    ∃ id q', DriverQueue.publish q chain = (.ok id, q') ∧ id.epoch = q.state.epoch ∧ id ∉ ideal.held.map Prod.fst ∧
      q'.state = q.state ∧ q'.Rep { ideal with waiting := ideal.waiting ++ [(id, chain.own)] } := by
  have published := publishInner_published holds chain false
  change (∃ kind, ((q.publishInner chain false).1.map PublishedChain.id, (q.publishInner chain false).2) = _) ∨
    ∃ id q', ((q.publishInner chain false).1.map PublishedChain.id, (q.publishInner chain false).2) = _ ∧ _
  generalize q.publishInner chain false = result at published ⊢
  cases published with
  | refused => exact .inl ⟨_, rfl⟩
  | accepted epoch fresh state now => exact .inr ⟨_, _, rfl, epoch, fresh, state, now⟩

namespace Guest
variable {ε : Type} [DriverChainBuffer (DriverChain D) ε]

/-- The client, the tokens of the device and those of the callers. The ghosts
count the started requests and list the ones that were answered. -/
structure Traffic (D : Type) [ChainShape D] where
  client : GuestClient (SplitQueue D) (DriverChain D)
  tokens : List (SplitDeviceChain D)
  tickets : List (Ticket (DriverChain D))
  starts : Nat
  answered : List Nat

/-- A call of the client or of the device. -/
inductive Act (D : Type) [ChainShape D] where
  | start (chain : DriverChain D) (start : Start)
  | pump
  | poll (ticket : Nat)
  | reset (nextEpoch : QueueEpoch)
  | reconfigureQueue (reserve : Bool) (size : QueueSize)
  | popRecoveredCompletion
  | takeUnexpectedCompletion
  | popAvailable
  | write (token : Nat) (data : D)
  | complete (token : Nat) (used : UInt32)

namespace Traffic
variable {ticket : Ticket (DriverChain D)} {index : Nat}

def session (self : Traffic D) : Session D := ⟨self.client.queue, self.tokens⟩

/-- The device's steps change the queue and its own tokens. -/
def served (self : Traffic D) (session : Session D) : Traffic D :=
  { self with client := { self.client with queue := session.queue }, tokens := session.tokens }

def started (self : Traffic D) : GuestClient.StartResult (SplitQueue D) (DriverChain D) SplitQueueError ε →
    Traffic D
  | (.error _, client) => { self with client }
  | (.ok published, client) =>
    { self with
      client
      tickets := self.tickets ++ [⟨self.starts, published.pending, published.chain⟩]
      starts := self.starts + 1 }

/-- A poll that ends its request uses up the ticket. -/
def polled (self : Traffic D) (index : Nat) (ticket : Ticket (DriverChain D)) :
    RequestPoll (DriverChain D) SplitQueueError ε ticket.pending.operation ×
      GuestClient (SplitQueue D) (DriverChain D) → Traffic D
  | (.ready _, client) =>
    { self with client, tickets := self.tickets.eraseIdx index, answered := self.answered ++ [ticket.serial] }
  | (.stale, client) => { self with client, tickets := self.tickets.eraseIdx index }
  | (_, client) => { self with client }

def step (self : Traffic D) : Act D → Traffic D
  | .start chain start => self.started (self.client.start chain start)
  | .pump => { self with client := self.client.pump.2 }
  | .poll index =>
    match self.tickets[index]? with
    | none => self
    | some ticket => self.polled index ticket (self.client.poll ticket.pending)
  | .reset nextEpoch => { self with client := (self.client.reset nextEpoch).2 }
  | .reconfigureQueue reserve size => { self with client := (self.client.reconfigureQueue reserve size).2 }
  | .popRecoveredCompletion => { self with client := self.client.popRecoveredCompletion.2 }
  | .takeUnexpectedCompletion => { self with client := self.client.takeUnexpectedCompletion.2 }
  | .popAvailable => self.served self.session.popAvailable.2
  | .write token data => self.served (self.session.write token data)
  | .complete token used => self.served (self.session.complete token used).2

/-- A write may change the bytes of a chain, but makes no other chain of it. -/
def Allowed (key : D → κ) (self : Traffic D) : Act D → Prop
  | .write index data => ∀ token, self.tokens[index]? = some token →
      ChainShape.descriptorCount data = ChainShape.descriptorCount token.data ∧ key data = key token.data
  | _ => True

/-- Every run of a new client over a new queue, with the counter of identifiers anywhere. -/
inductive Runs (key : D → κ) : Traffic D → Prop where
  | new {maxSize limit size config} {made configured queue : SplitQueue D} {client}
      (new : new maxSize limit = .ok made) (configure : made.configure true size = (.ok (), configured))
      (ready : configured.setReady true = (.ok (), queue)) (opened : GuestClient.new true queue config = .ok client)
      (nextRequestId : UInt64) : Runs key ⟨{ client with nextRequestId }, [], [], 0, []⟩
  | step {traffic} (runs : Runs key traffic) (act : Act D) (allowed : traffic.Allowed key act) :
    Runs key (traffic.step act)

/-- What holds in every run. -/
structure Tracked (key : D → κ) (traffic : Traffic D) (ideal : Ideal D) : Prop where
  sound : traffic.session.Sound ideal
  ledger : Ledger (fun chain => key chain.data) traffic.client.slots traffic.client.queue.state.epoch
    traffic.tickets
    (ideal.keyed key)
  small : traffic.client.slots.length < 2 ^ 16
  serials : (traffic.answered ++ traffic.tickets.map Ticket.serial).Nodup
  counted : ∀ n ∈ traffic.answered ++ traffic.tickets.map Ticket.serial, n < traffic.starts

variable {key : D → κ} {traffic : Traffic D} {ideal : Ideal D}

section
variable (tracked : Tracked key traffic ideal)
include tracked

/-- The parts of the client that nothing here depends on. -/
theorem Tracked.client {client : GuestClient (SplitQueue D) (DriverChain D)}
    (queue : client.queue = traffic.client.queue) (slots : client.slots = traffic.client.slots) :
    Tracked key { traffic with client } ideal := by
  refine ⟨?_, ?_, ?_, tracked.serials, tracked.counted⟩
  · rw [session, queue]
    exact tracked.sound
  · rw [queue, slots]
    exact tracked.ledger
  · rw [slots]
    exact tracked.small

theorem Tracked.rep : traffic.client.queue.Rep ideal := tracked.sound.rep

/-- A start adds one ticket and one chain. -/
theorem Tracked.started (chain : DriverChain D) (start : Start) :
    ∃ ideal', Tracked key (traffic.started (traffic.client.start chain start)) ideal' := by
  have started := GuestClient.start_started traffic.client chain start
  generalize traffic.client.start chain start = result at started
  cases started with
  | refused | exhausted => exact ⟨ideal, tracked.client rfl rfl⟩
  | @unpublished chain' _ _ _ _ _ _ publish _ =>
    rcases tracked.rep.publish chain' with ⟨_, refused⟩ | ⟨_, _, accepted, _⟩
    · cases refused.symm.trans publish
      exact ⟨ideal, tracked.client rfl rfl⟩
    · cases accepted.symm.trans publish
  | @published chain' id queue slot requestId operation reserved next _ publish _ vacant found =>
    rcases tracked.rep.publish chain' with ⟨_, refused⟩ | ⟨_, _, accepted, epoch, fresh, state, now⟩
    · cases refused.symm.trans publish
    cases accepted.symm.trans publish
    have ledger := tracked.ledger.publish traffic.starts operation chain' vacant
      (GuestClient.searchRequestId_unused found) (GuestClient.searchRequestId_ne_zero found)
      (by rw [Ideal.keyed_fst]; exact fresh)
    have serials {ticket : Ticket (DriverChain D)} (last : ticket.serial = traffic.starts) :
        traffic.answered ++ (traffic.tickets ++ [ticket]).map Ticket.serial =
          (traffic.answered ++ traffic.tickets.map Ticket.serial) ++ [traffic.starts] := by simp [last]
    refine ⟨_, tracked.sound.keep now (congrArg QueueState.epoch state) rfl, ?_, ?_, ?_, ?_⟩
    · dsimp only [Traffic.started]
      rw [state, epoch]
      refine ledger.perm ?_
      simp only [Ideal.keyed, Handover.held, map_append, map_cons, append_assoc, cons_append, nil_append]
      exact perm_middle
    · dsimp only [Traffic.started]
      rw [length_set]
      exact tracked.small
    · dsimp only [Traffic.started]
      rw [serials rfl, nodup_append']
      refine ⟨tracked.serials, nodup_singleton _, ?_⟩
      intro n old new
      have below := tracked.counted n old
      rw [mem_singleton.mp new] at below
      omega
    · dsimp only [Traffic.started]
      rw [serials rfl]
      intro n member
      rcases mem_append.mp member with old | new
      · have below := tracked.counted n old
        omega
      rw [mem_singleton.mp new]
      omega

/-- A pump finds the slot of whatever chain it pops. -/
theorem Tracked.pumped {result : Except (QueueError SplitQueueError) PumpResult}
    {client : GuestClient (SplitQueue D) (DriverChain D)}
    (pumped : GuestClient.Pumped traffic.client (result, client)) :
    result ≠ .ok .unexpectedCompletion ∧ client.queue.state = traffic.client.queue.state ∧
      ∃ ideal', Tracked key { traffic with client } ideal' := by
  have returned := popUsed_returned tracked.rep
  have unchanged {queue : SplitQueue D} (same : queue = traffic.client.queue) :
      queue.state = traffic.client.queue.state ∧
        ∃ ideal', Tracked key { traffic with client := { traffic.client with queue } } ideal' := by
    subst same
    exact ⟨rfl, ideal, tracked⟩
  cases pumped with
  | halted => exact ⟨by simp, rfl, ideal, tracked⟩
  | @failed _ queue _ pop | @idle queue _ pop =>
    refine ⟨by simp, unchanged ?_⟩
    change traffic.client.queue.popUsed = _ at pop
    rw [pop] at returned
    cases returned
    rfl
  | @unexpected used queue _ pop unknown =>
    change traffic.client.queue.popUsed = _ at pop
    rw [pop] at returned
    cases returned with
    | @returned id _ chain rest _ first state now =>
      have there : id ∈ (ideal.keyed key).map Prod.fst := by
        rw [Ideal.keyed_fst, Handover.held, first]
        simp
      obtain ⟨requestId, member⟩ := tracked.ledger.known there
      exact absurd member (unknown requestId)
  | @completed used queue index requestId _ pop awaiting =>
    change traffic.client.queue.popUsed = _ at pop
    rw [pop] at returned
    cases returned with
    | @returned id used chain rest _ first state now =>
      obtain ⟨waiting, taken, finished⟩ := ideal
      obtain rfl : finished = _ := first
      have first : ((id, key chain.data) :: Ideal.keyed key ⟨waiting, taken, rest⟩).Perm
          (Ideal.keyed key ⟨waiting, taken, ((id, chain.own), used) :: rest⟩) := by
        simp only [Ideal.keyed, Handover.held, map_append, map_cons]
        exact perm_middle.symm
      refine ⟨by simp, state, _, tracked.sound.keep now (congrArg QueueState.epoch state) rfl, ?_, ?_,
        tracked.serials, tracked.counted⟩
      · rw [state]
        exact (tracked.ledger.perm first).complete awaiting rfl
      dsimp only
      rw [length_set]
      exact tracked.small

end

omit [DriverChainBuffer (DriverChain D) ε] in
/-- A poll that does not end in a completion uses up its ticket at most. -/
theorem Tracked.waits {client : GuestClient (SplitQueue D) (DriverChain D)}
    (tracked : Tracked key { traffic with client } ideal) (index : Nat) (ticket : Ticket (DriverChain D))
    {reply : RequestPoll (DriverChain D) SplitQueueError ε ticket.pending.operation}
    (waits : ∀ completion, reply ≠ .ready completion) :
    Tracked key (traffic.polled index ticket (reply, client)) ideal := by
  have fewer : (traffic.answered ++ (traffic.tickets.eraseIdx index).map Ticket.serial).Sublist
      (traffic.answered ++ traffic.tickets.map Ticket.serial) :=
    .append_left ((eraseIdx_sublist traffic.tickets index).map _) _
  cases reply with
  | ready completion => exact absurd rfl (waits completion)
  | stale =>
    exact ⟨tracked.sound, tracked.ledger.drop index, tracked.small, fewer.nodup tracked.serials,
      fun n member => tracked.counted n (fewer.subset member)⟩
  | _ => exact tracked

/-- A completed request is answered with its own chain, and its ticket is used up. -/
theorem Tracked.answers {client : GuestClient (SplitQueue D) (DriverChain D)}
    (tracked : Tracked key { traffic with client } ideal) (atIndex : traffic.tickets[index]? = some ticket)
    (current : ticket.pending.epoch = client.queue.state.epoch) {used : UsedChain (DriverChain D)}
    (found : client.slots[ticket.pending.slot]? = some (.completed ticket.pending.requestId used)) :
    let decoded :=
    { client with slots := client.slots.set ticket.pending.slot .vacant }.decodeCompletion ticket.pending used
    key decoded.1.chain.data = key ticket.chain.data ∧
      Tracked key (traffic.polled index ticket (.ready decoded.1, decoded.2)) ideal := by
  obtain ⟨inside, same⟩ := List.getElem?_eq_some_iff.mp atIndex
  obtain ⟨mine, ledger⟩ := tracked.ledger.answer atIndex current found
  obtain ⟨chain, health, deviceInfo, after⟩ :=
    GuestClient.decodeCompletion_spec
      { client with slots := client.slots.set ticket.pending.slot .vacant } ticket.pending used
  have moved : ((traffic.answered ++ [ticket.serial]) ++ (traffic.tickets.eraseIdx index).map Ticket.serial).Perm
      (traffic.answered ++ traffic.tickets.map Ticket.serial) := by
    rw [append_assoc]
    refine .append_left _ ?_
    rw [← same]
    exact (getElem_cons_eraseIdx_perm inside).map Ticket.serial
  refine ⟨by rw [chain]; exact mine, ?_⟩
  rw [after]
  refine ⟨tracked.sound, ledger, ?_, moved.nodup_iff.mpr tracked.serials,
    fun n member => tracked.counted n (moved.mem_iff.mp member)⟩
  dsimp only [polled]
  rw [length_set]
  exact tracked.small

section
variable (tracked : Tracked key traffic ideal)
include tracked

theorem Tracked.polled (atIndex : traffic.tickets[index]? = some ticket) :
    (∀ completion client, traffic.client.poll ticket.pending = (.ready completion, client) →
      key completion.chain.data = key ticket.chain.data) ∧
    ∃ ideal', Tracked key (traffic.polled index ticket (traffic.client.poll ticket.pending)) ideal' := by
  have polled := GuestClient.poll_polled traffic.client ticket.pending
  generalize traffic.client.poll ticket.pending = result at polled
  cases polled with
  | kept waits =>
    refine ⟨fun completion _ same => absurd (Prod.mk.inj same).1 (waits completion), ideal, ?_⟩
    exact Tracked.waits tracked index ticket waits
  | pumped _ waits pumped =>
    obtain ⟨_, _, ideal', tracked'⟩ := tracked.pumped pumped
    refine ⟨fun completion _ same => absurd (Prod.mk.inj same).1 (waits completion), ideal', ?_⟩
    exact tracked'.waits index ticket waits
  | ready _ current found =>
    obtain ⟨mine, tracked'⟩ := Tracked.answers tracked atIndex current found
    refine ⟨fun completion _ same => ?_, ideal, tracked'⟩
    cases same
    exact mine
  | pumpedReady pumps pumped found =>
    obtain ⟨_, state, ideal', tracked'⟩ := tracked.pumped pumped
    have current := pumps.current.trans (congrArg QueueState.epoch state).symm
    obtain ⟨mine, tracked''⟩ := tracked'.answers atIndex current found
    refine ⟨fun completion _ same => ?_, ideal', tracked''⟩
    cases same
    exact mine

theorem Tracked.reset (nextEpoch : QueueEpoch) :
    ∃ ideal', Tracked key { traffic with client := (traffic.client.reset nextEpoch).2 } ideal' := by
  have reset := advanceEpoch_reset tracked.rep nextEpoch
  unfold GuestClient.reset
  rw [show CompletionQueue.reset traffic.client.queue nextEpoch = traffic.client.queue.driverReset nextEpoch from
    rfl, driverReset]
  generalize traffic.client.queue.advanceEpoch nextEpoch = result at reset
  cases reset with
  | refused => exact ⟨ideal, tracked⟩
  | @emptied storage queue later epoch now all =>
    subst epoch
    refine ⟨.empty, tracked.sound.outdate now later, tracked.ledger.recover later, ?_, tracked.serials,
      tracked.counted⟩
    · dsimp only [Except.map]
      rw [length_map]
      exact tracked.small

/-- A queue that stands for the same chains in the same epoch. -/
theorem Tracked.requeue {queue : SplitQueue D} (now : queue.Rep ideal)
    (epoch : queue.state.epoch = traffic.client.queue.state.epoch) :
    Tracked key { traffic with client := { traffic.client with queue } } ideal :=
  ⟨tracked.sound.keep now epoch rfl, by dsimp only; rw [epoch]; exact tracked.ledger, tracked.small,
    tracked.serials, tracked.counted⟩

theorem Tracked.reconfigured (reserve : Bool) (size : QueueSize) :
    Tracked key { traffic with client := (traffic.client.reconfigureQueue reserve size).2 } ideal := by
  have configured := configure_kept tracked.rep reserve size
  unfold GuestClient.reconfigureQueue
  split
  · exact tracked
  rw [show QueueControl.configure traffic.client.queue reserve size =
    traffic.client.queue.configure reserve size from rfl]
  generalize traffic.client.queue.configure reserve size = result at configured
  cases configured with
  | refused => exact tracked
  | @kept _ queue epoch now =>
    have set := setReady_kept now true
    change Tracked key { traffic with client := { traffic.client with queue := (queue.setReady true).2 } } ideal
    generalize queue.setReady true = result at set
    cases set with
    | refused => exact tracked.requeue now epoch
    | kept again after => exact tracked.requeue after (again.trans epoch)

theorem Tracked.recovered : Tracked key
    { traffic with client := traffic.client.popRecoveredCompletion.2 } ideal := by
  unfold GuestClient.popRecoveredCompletion
  split
  · exact tracked
  rename_i used slots taken
  obtain ⟨index, atIndex, rfl⟩ := GuestClient.takeRecovered_eq_some taken
  refine ⟨tracked.sound, tracked.ledger.release atIndex, ?_, tracked.serials, tracked.counted⟩
  rw [length_set]
  exact tracked.small

/-- A step of the device leaves the client with the chains it waits for. -/
theorem Tracked.served {session : Session D} {ideal' : Ideal D}
    (sound : session.Sound ideal') (epoch : session.queue.state.epoch = traffic.client.queue.state.epoch)
    (same : (ideal'.keyed key).Perm (ideal.keyed key)) : Tracked key (traffic.served session) ideal' :=
  ⟨sound, by dsimp only [Traffic.served]; rw [epoch]; exact tracked.ledger.perm same, tracked.small,
    tracked.serials, tracked.counted⟩

/-- The steps of the device move chains on, and neither in nor out. -/
theorem Tracked.moved {op : Op D}
    {after : Reply D × Session D} (step : Session.Matches ideal op after)
    (epoch : after.2.queue.state.epoch = traffic.client.queue.state.epoch)
    (inside : (seen (op, after.1)).inside = true) : ∃ ideal', Tracked key (traffic.served after.2) ideal' := by
  obtain ⟨ideal', next, sound⟩ := step.sound
  exact ⟨ideal', tracked.served sound epoch ((next.held_perm inside).map _)⟩

/-- The tickets stay matched by every act. -/
theorem Tracked.step (act : Act D) (allowed : traffic.Allowed key act) :
    ∃ ideal', Tracked key (traffic.step act) ideal' := by
  cases act with
  | start chain start => exact tracked.started chain start
  | pump => exact (tracked.pumped (GuestClient.pump_pumped traffic.client)).2.2
  | poll index =>
    unfold Traffic.step
    dsimp only
    split
    · exact ⟨ideal, tracked⟩
    rename_i ticket atIndex
    exact (tracked.polled atIndex).2
  | reset nextEpoch => exact tracked.reset nextEpoch
  | reconfigureQueue reserve size => exact ⟨ideal, tracked.reconfigured reserve size⟩
  | popRecoveredCompletion => exact ⟨ideal, tracked.recovered⟩
  | takeUnexpectedCompletion => exact ⟨ideal, tracked.client rfl rfl⟩
  | popAvailable =>
    refine tracked.moved tracked.sound.popAvailable (congrArg QueueState.epoch (popAvailable_state _)) ?_
    unfold Session.popAvailable
    dsimp only
    generalize traffic.session.queue.popAvailable.1 = reply
    rcases reply with error | _ | token <;> rfl
  | write index data =>
    obtain ⟨ideal', sound, same⟩ := tracked.sound.write allowed
    exact ⟨ideal', tracked.served sound (congrArg QueueState.epoch (traffic.session.write_state index data))
      (.of_eq same)⟩
  | complete index used =>
    refine tracked.moved (tracked.sound.complete index used) (congrArg QueueState.epoch ?_) ?_
    · exact Session.complete_state traffic.session index used
    unfold Session.complete
    split
    · rfl
    rename_i token _
    dsimp only
    generalize (traffic.session.queue.complete token used).1 = reply
    cases reply <;> rfl

end

theorem Runs.tracked (runs : Runs key traffic) : ∃ ideal, Tracked key traffic ideal := by
  induction runs with
  | @new maxSize limit size config made configured queue client new configure ready opened nextRequestId =>
    obtain ⟨_, rfl⟩ := GuestClient.new_eq_ok opened
    have first := configure_kept (Rep.new new) true size
    rw [configure] at first
    cases first with
    | kept _ now =>
      have second := setReady_kept now true
      rw [ready] at second
      cases second with
      | kept _ now =>
        refine ⟨.empty, ⟨now, nofun, nil_subperm⟩, .nothing _, ?_, nodup_nil, nofun⟩
        rw [length_replicate]
        exact config.maxInflight.toNat_lt
  | step _ act allowed ih =>
    obtain ⟨ideal, tracked⟩ := ih
    exact tracked.step act allowed

/-- In every run each request has a slot and an identifier of its own, the
slots wait for the chains that the queue has, and each caller gets the chain
that was published for the request, once. -/
theorem Runs.requests_tracked (runs : Runs key traffic) :
    traffic.client.pump.1 ≠ .ok .unexpectedCompletion ∧
    (Slot.chainIds traffic.client.slots).Perm traffic.client.queue.chainIds ∧
    (Slot.requestIds traffic.client.slots).Nodup ∧ 0 ∉ Slot.requestIds traffic.client.slots ∧
    (∀ nextRequestId chain start failure client,
      { traffic.client with nextRequestId }.start chain start = (.error failure, client) →
      failure.kind ≠ .requestIdExhausted) ∧
    (∀ ticket ∈ traffic.tickets, ∀ completion client,
      traffic.client.poll ticket.pending = (.ready completion, client) →
      key completion.chain.data = key ticket.chain.data) ∧
    traffic.answered.Nodup ∧
    ∀ pending, pending.epoch ≠ traffic.client.queue.state.epoch →
      traffic.client.poll pending = (.stale, traffic.client) := by
  obtain ⟨ideal, tracked⟩ := runs.tracked
  have ledger := tracked.ledger
  refine ⟨?_, ?_, ledger.distinct, ledger.nonzero, ?_, ?_, tracked.serials.of_append_left, ?_⟩
  · exact (tracked.pumped (GuestClient.pump_pumped traffic.client)).1
  · have chains := ledger.inFlight
    rw [Ideal.keyed_fst] at chains
    exact chains.trans tracked.rep.chainIds.symm
  · intro nextRequestId chain start failure client failed exhausted
    have started := GuestClient.start_started { traffic.client with nextRequestId } chain start
    rw [failed] at started
    cases started with
    | refused _ early =>
      cases exhausted
      exact early
    | exhausted none =>
      have small : traffic.client.slots.length < 2 ^ 64 - 1 := tracked.small.trans (by decide)
      exact GuestClient.searchRequestId_total small nextRequestId none
    | unpublished => cases exhausted
  · intro ticket member completion client ready
    obtain ⟨index, atIndex⟩ := mem_iff_getElem?.mp member
    exact (tracked.polled atIndex).1 completion client ready
  · intro pending outdated
    exact if_pos outdated

/-- A write of the device through one of its tokens. -/
def deviceWrite (self : Traffic ChainData) (index : Nat) (offset : UInt64) (source : List UInt8) :
    Option (Act ChainData) :=
  self.tokens[index]?.map (fun token => .write index (token.writeAt self.client.queue.currentEpoch offset source).2)

/-- Writing bytes makes no other chain of a chain, under any name that copying keeps. -/
theorem allowed_deviceWrite {key : ChainData → κ} {traffic : Traffic ChainData} {offset : UInt64}
    {source : List UInt8} {act : Act ChainData}
    (stable : ∀ data offset source, key (ChainData.copyToDescriptors data true offset source).2 = key data)
    (writes : traffic.deviceWrite index offset source = some act) : traffic.Allowed key act := by
  obtain ⟨token, found, rfl⟩ := Option.map_eq_some_iff.mp writes
  intro other same
  cases found.symm.trans same
  unfold SplitDeviceChain.writeAt
  split
  · exact ⟨rfl, rfl⟩
  split
  · exact ⟨rfl, rfl⟩
  · exact ⟨(ChainData.copyToDescriptors_reshapes _ true offset source).count, stable _ offset source⟩

/-- A queue and a client of 16 descriptors and one request, whose counter is about to wrap. -/
def smallSize : QueueSize := ⟨16, 4, by decide, rfl⟩

def smallChain : DriverChain ChainData :=
  (DriverChain.direct true [.readable (replicate 16 0) GuestClient.sixteen_small,
    .writable (replicate 92 0) (by decide)]).toOption.get
    (by decide +kernel)

def smallMade : SplitQueue ChainData := (new smallSize 16).toOption.get (by decide +kernel)

def smallQueue : SplitQueue ChainData := ((smallMade.configure true smallSize).2.setReady true).2

def smallClient : GuestClient (SplitQueue ChainData) (DriverChain ChainData) :=
  ⟨smallQueue, GuestClient.sampleClient.config, none, [.vacant], 1, .running, none⟩

def smallTraffic : Traffic ChainData := ⟨{ smallClient with nextRequestId := 18446744073709551615 }, [], [], 0, []⟩

theorem smallTraffic_runs (key : ChainData → κ) : Runs key smallTraffic := by
  have made : new smallSize 16 = .ok smallMade := rfl
  have configure : smallMade.configure true smallSize = (.ok (), (smallMade.configure true smallSize).2) := rfl
  have ready : (smallMade.configure true smallSize).2.setReady true = (.ok (), smallQueue) := rfl
  have opened : GuestClient.new true smallQueue GuestClient.sampleClient.config = .ok smallClient := rfl
  exact .new made configure ready opened 18446744073709551615

def smallResponse : List UInt8 :=
  ResponseHeader.codec.encode (ResponseHeader.new .ok 76 18446744073709551615) ++
    WireDeviceInfo.codec.encode (wireDeviceInfo CommandProcessor.sampleInfo)

def smallTaken : Traffic ChainData := (smallTraffic.step (.start smallChain .getDeviceInfo)).step .popAvailable

def smallWrite : Act ChainData := (smallTaken.deviceWrite 0 0 smallResponse).get (by decide +kernel)

set_option maxRecDepth 8192 in
/-- The last request identifier there is, started, served and polled. -/
theorem Runs.requests_tracked_answered : ∃ (traffic : Traffic ChainData) (ticket : Ticket (DriverChain ChainData))
    (output : _) (chain : _) (client : _), traffic.tickets = [ticket] ∧
    ticket.pending.requestId = 18446744073709551615 ∧
    traffic.client.poll ticket.pending = (.ready (.success output chain), client) ∧
    chain.data.analysis = ticket.chain.data.analysis ∧ traffic.client.pump.1 ≠ .ok .unexpectedCompletion := by
  have taken : Runs ChainData.analysis smallTaken :=
    ((smallTraffic_runs _).step (.start smallChain .getDeviceInfo) trivial).step .popAvailable trivial
  have writes : smallTaken.deviceWrite 0 0 smallResponse = some smallWrite := (Option.some_get _).symm
  have written := taken.step smallWrite (allowed_deviceWrite
    (fun data offset source => (ChainData.copyToDescriptors_reshapes data true offset source).analysis) writes)
  have completed := written.step (.complete 0 92) trivial
  obtain ⟨ticket, held, named⟩ : ∃ ticket, ((smallTaken.step smallWrite).step (.complete 0 92)).tickets = [ticket] ∧
      ticket.pending.requestId = 18446744073709551615 := ⟨_, rfl, rfl⟩
  obtain ⟨output, chain, client, ready⟩ : ∃ output chain client,
      ((smallTaken.step smallWrite).step (.complete 0 92)).client.poll ticket.pending =
        (.ready (.success output chain), client) := by
    cases held
    exact ⟨_, _, _, rfl⟩
  obtain ⟨fine, _, _, _, _, mine, _⟩ := Runs.requests_tracked completed
  exact ⟨_, ticket, output, chain, client, held, named, ready,
    mine ticket (by rw [held]; exact mem_singleton_self _) _ client ready, fine⟩

end Traffic

end Guest

end VirtioAccel
