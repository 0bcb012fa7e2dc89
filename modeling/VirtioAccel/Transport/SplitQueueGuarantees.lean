import VirtioAccel.Transport.SplitQueueRuns

/-! What the driver and the device may rely on about a split queue. -/

namespace VirtioAccel
open List
variable {D : Type} [ChainShape D]

/-- The tables, the rings and the counters of a storage agree. -/
structure RingStorage.Consistent (s : RingStorage D) (epoch : QueueEpoch)
    (tokens : List (SplitDeviceChain D)) : Prop where
  owned : ∀ slot, slot.toNat < s.size.value.toNat →
    s.owner slot = none ∧ (∀ head record, s.record head = some record → slot ∉ record.chain.slots) ∨
    ∃ head record i, s.owner slot = some ⟨head, i⟩ ∧ s.record head = some record ∧ slot ∈ record.chain.slots ∧
      ∀ other record', s.record other = some record' → slot ∈ record'.chain.slots → other = head
  distinct : ∀ head record, s.record head = some record →
    record.chain.slots.Nodup ∧ ∀ slot ∈ record.chain.slots, slot.toNat < s.size.value.toNat
  whole : s.freeDescriptors.toNat +
    (s.records.reduceOption.map (fun record => record.chain.descriptorCount.toNat)).sum = s.size.value.toNat
  active : s.activeChains.toNat = s.records.countP Option.isSome
  available : s.availableCount.toNat = s.records.reduceOption.countP (fun record => record.state = .available) ∧
    s.availableCount = s.availableIndex - s.consumedAvailable
  used : s.usedCount.toNat = s.records.reduceOption.countP (fun record => record.state = .used) ∧
    s.usedCount = s.usedIndex - s.consumedUsed
  tokens : ((tokens.filter (fun token => token.id.epoch = epoch)).map (fun token => token.id)).Nodup ∧
    ∀ token ∈ tokens, token.id.epoch = epoch → ∃ record, s.record token.id.slot = some record ∧
    record.id = token.id ∧
      record.state = .inFlight ∧ record.chain.data = token.data

namespace RingStorage
variable {s : RingStorage D} {epoch : QueueEpoch} {listed : List ((ChainId × D × UInt16) × ChainState)}
  {ideal : Ideal D}

section
variable (books : Books s epoch listed)
include books

theorem Books.slot_cases (slot : UInt16) :
    s.owner slot = none ∧ (∀ head record, s.record head = some record → slot ∉ record.chain.slots) ∨
    ∃ head record i, s.owner slot = some ⟨head, i⟩ ∧ s.record head = some record ∧ slot ∈ record.chain.slots ∧
      ∀ other record', s.record other = some record' → slot ∈ record'.chain.slots → other = head := by
  have owner {head : UInt16} {record : ChainRecord D} (found : s.record head = some record)
      (member : slot ∈ record.chain.slots) : ∃ i, s.owner slot = some ⟨head, i⟩ := by
    obtain ⟨i, atSlot⟩ := mem_iff_getElem?.mp member
    exact ⟨_, books.owned found atSlot⟩
  cases entry : s.owner slot with
  | none =>
    refine .inl ⟨rfl, fun head record found member => ?_⟩
    obtain ⟨i, owned⟩ := owner found member
    rw [entry] at owned
    cases owned
  | some mine =>
    obtain ⟨record, found, atSlot⟩ := books.recorded entry
    refine .inr ⟨mine.head, record, mine.localIndex, rfl, found, mem_of_getElem? atSlot, ?_⟩
    intro other record' found' member
    obtain ⟨i, owned⟩ := owner found' member
    rw [entry] at owned
    cases owned
    rfl

theorem Books.slot_inside {head slot : UInt16} {record : ChainRecord D}
    (found : s.record head = some record) (member : slot ∈ record.chain.slots) :
    slot.toNat < s.size.value.toNat := by
  obtain ⟨i, atSlot⟩ := mem_iff_getElem?.mp member
  obtain ⟨inside, _⟩ := List.getElem?_eq_some_iff.mp (entryAt_some (books.owned found atSlot))
  rw [← books.descriptors]
  exact inside

/-- The records in a state are the chains listed in it. -/
theorem Books.countP_state (state : ChainState) :
    s.records.reduceOption.countP (fun record => record.state = state) = listed.countP (fun x => x.2 = state) := by
  rw [← books.listed.countP_eq, countP_map]
  rfl

end

theorem count_eq_sub {index consumed count : UInt16} {n : Nat} (ahead : index = consumed + UInt16.ofNat n)
    (counted : count.toNat = n) : count = index - consumed := by
  rw [ahead, UInt16.add_comm, UInt16.add_sub_cancel, ← counted, UInt16.ofNat_toNat]

/-- Storage that represents an ideal queue is consistent. -/
theorem Rep.consistent (rep : Rep s epoch ideal) {tokens : List (SplitDeviceChain D)}
    (live : ((tokens.filter (fun token => token.id.epoch = epoch)).map (fun token =>
      (token.id, token.data))).Subperm
      (ideal.taken.map (fun x => (x.1, x.2.1)))) : Consistent s epoch tokens where
  owned slot _ := rep.books.slot_cases slot
  distinct head record found := ⟨rep.books.nodup found, fun slot member => rep.books.slot_inside found member⟩
  whole := by
    have whole := rep.books.whole
    have same : (fun record : ChainRecord D => record.chain.descriptorCount.toNat) =
        fun record => record.chain.slots.length := funext (fun record => record.chain.sized.symm)
    rw [rep.books.free, same, whole]
  active := by
    rw [rep.books.active, reduceOption_length_eq, countP_eq_length_filter]
  available := by
    refine ⟨?_, count_eq_sub rep.availableIndex rep.availableCount⟩
    rw [rep.availableCount, rep.books.countP_state]
    simp [Ideal.listed, countP_map, Function.comp_def]
  used := by
    refine ⟨?_, count_eq_sub rep.usedIndex rep.usedCount⟩
    rw [rep.usedCount, rep.books.countP_state]
    simp [Ideal.listed, countP_map, Function.comp_def]
  tokens := by
    constructor
    · have nodup := rep.books.ids_nodup
      simp only [Ideal.listed, map_append, map_map, Function.comp_def] at nodup
      have taken : (ideal.taken.map (fun x => x.1)).Nodup := nodup.of_append_left.of_append_right
      obtain ⟨part, same, within⟩ := live
      have among := (within.map Prod.fst).nodup (by rwa [map_map])
      have ids := (same.map Prod.fst).nodup_iff.mp among
      rwa [map_map] at ids
    · intro token member same
      have taken := live.subset (mem_map_of_mem (mem_filter.mpr ⟨member, decide_eq_true same⟩))
      obtain ⟨⟨id, data, head⟩, among, equal⟩ := mem_map.mp taken
      obtain ⟨rfl, rfl⟩ := Prod.mk.inj equal
      have entry : ((token.id, token.data, head), ChainState.inFlight) ∈ ideal.listed := by
        simp [Ideal.listed, among]
      obtain ⟨record, found, id, own, state⟩ := rep.books.lookup entry
      exact ⟨record, found, id, state, congrArg Prod.fst own⟩

end RingStorage

namespace SplitQueue
variable {trace : List (Op D × Reply D)} {session : Session D}

/-- In every run the storage is consistent, so no operation ever finds it corrupt. -/
theorem Runs.storage_consistent (runs : Runs trace session) :
    (∀ s, session.queue.storage = some s → s.Consistent session.queue.state.epoch session.tokens) ∧
    ∀ entry ∈ trace, ¬ entry.2.Corrupt := by
  obtain ⟨ideal, _, sound, clean⟩ := runs.sound
  refine ⟨fun s stored => ?_, clean⟩
  exact (sound.rep.stored stored).1.consistent sound.live

theorem pair_small : [(1 : UInt8), 2].length < 2 ^ 64 := by decide

/-- A chain of one buffer for each direction. -/
def sampleChain : DriverChain ChainData :=
  ((DriverChain.direct true [.readable [1, 2] pair_small, .writable [0, 0, 0] (by decide)]).toOption).get
    (by decide +kernel)

def sampleSize : QueueSize := ⟨4, 2, by decide, rfl⟩

def sampleQueue : SplitQueue ChainData := (new sampleSize 2).toOption.get (by decide +kernel)

theorem sampleQueue_made : new sampleSize 2 = .ok sampleQueue := rfl

theorem Runs.of_sample (ops : List (Op ChainData)) :
    Runs (Session.run ⟨sampleQueue, []⟩ ops).1 (Session.run ⟨sampleQueue, []⟩ ops).2 :=
  (Runs.new sampleQueue_made).run ops

/-- Two chains are published and taken, and the second one is completed. -/
def sampleOps : List (Op ChainData) :=
  [.configure true sampleSize, .setReady true, .publish sampleChain, .publish sampleChain, .popAvailable,
    .popAvailable, .complete 1 3]

/-- One chain is on the used ring while the device holds another token. -/
theorem Runs.storage_consistent_taken : ∃ (trace : List (Op ChainData × Reply ChainData))
    (session : Session ChainData) (s : _),
    session.tokens.length = 1 ∧ session.queue.storage = some s ∧ s.usedCount = 1 ∧
    s.Consistent session.queue.state.epoch session.tokens ∧ ∀ entry ∈ trace, ¬ entry.2.Corrupt := by
  obtain ⟨s, stored, used⟩ : ∃ s, (Session.run ⟨sampleQueue, []⟩ sampleOps).2.queue.storage = some s ∧
      s.usedCount = 1 :=
    ⟨_, rfl, by decide +kernel⟩
  obtain ⟨consistent, clean⟩ := Runs.storage_consistent (Runs.of_sample sampleOps)
  exact ⟨_, _, s, by decide +kernel, stored, used, consistent s stored, clean⟩

/-- What the queue answers next, by the chains it holds. A queue that is ready
has an answer for each of its operations, and a reset to a later epoch needs
nothing else. -/
structure Session.Serves (session : Session D) (ideal : Ideal D) : Prop where
  publishes : ∀ chain raw, Admits session.queue ideal chain raw →
    ∃ published, (session.queue.publishInner chain raw).1 = .ok published
  takes : session.queue.state.ready = true → session.queue.popAvailable.1 =
    .ok (ideal.waiting.head?.map fun x => ⟨x.1, x.2.1, session.queue.maxChainDescriptors⟩)
  completes : session.queue.state.ready = true → ∀ token ∈ session.tokens,
    token.id.epoch = session.queue.state.epoch → ∀ used : UInt32, used.toUInt64 ≤ token.writableCapacity →
    (session.queue.complete token used).1 = .ok (hint session.queue.usedNotifications)
  returns : session.queue.state.ready = true → ∃ answer, session.queue.popUsed.1 = .ok answer ∧
    answer.map (fun used => ((used.id, used.chain.own), used.used)) = ideal.finished.head?
  resets : ∀ next, session.queue.state.epoch.value < next.value →
    (∃ chains, (session.queue.driverReset next).1 = .ok chains) ∧ (session.queue.deviceReset next).1 = .ok ()

theorem Session.Sound.serves {ideal : Ideal D} (sound : session.Sound ideal) : session.Serves ideal where
  publishes chain raw admits := by
    have published := publishInner_published sound.rep chain raw
    generalize session.queue.publishInner chain raw = result at published ⊢
    cases published with
    | refused _ why => exact absurd admits why
    | accepted => exact ⟨_, rfl⟩
  takes ready := by
    have popped := popAvailable_popped sound.rep
    generalize session.queue.popAvailable = result at popped ⊢
    cases popped with
    | unready unready => exact absurd ready unready
    | drained same | took same => rw [same]; rfl
  completes ready token member epoch used fits := by
    have completed := complete_completed sound.rep token used fun epoch => sound.taken member epoch
    generalize session.queue.complete token used = result at completed ⊢
    cases completed with
    | refused _ why => exact absurd (why ready epoch) (UInt64.not_lt.mpr fits)
    | finished => rfl
  returns ready := by
    have returned := popUsed_returned sound.rep
    generalize session.queue.popUsed = result at returned ⊢
    cases returned with
    | unready unready => exact absurd ready unready
    | unfinished nothing => exact ⟨none, rfl, by rw [nothing]; rfl⟩
    | returned first => exact ⟨_, rfl, by rw [first]; rfl⟩
  resets next later := by
    have reset := advanceEpoch_reset sound.rep next
    unfold driverReset deviceReset
    generalize session.queue.advanceEpoch next = result at reset ⊢
    cases reset with
    | refused past => exact absurd later (UInt64.not_lt.mpr past)
    | emptied => exact ⟨⟨_, rfl⟩, rfl⟩

/-- Seen from outside, a run of the split queue is a run of an ideal one, and
its next answers are what the ideal queue holds. A publication that fails
changes nothing, and a reset gives back what was published and not returned. -/
theorem Runs.refines_handover (runs : Runs trace session) :
    (∃ ideal, Handover.Run Prod.fst (trace.map seen) ideal ∧
      Handover.Account Prod.fst (Handover.Event.recent (trace.map seen)) ideal ∧ session.Serves ideal) ∧
    (∀ chain raw back kind queue, session.queue.publishInner chain raw = (.error (back, kind), queue) →
      back = chain ∧ queue = session.queue) ∧
    ∀ next chains queue, session.queue.driverReset next = (.ok chains, queue) →
      (chains.map (fun reclaimed => (reclaimed.id, reclaimed.chain.own)) ++
        ((Handover.Event.recent (trace.map seen)).filterMap Handover.Event.asReturned).map Prod.fst).Perm
        ((Handover.Event.recent (trace.map seen)).filterMap Handover.Event.asSubmitted) := by
  obtain ⟨ideal, run, sound, _⟩ := runs.sound
  refine ⟨⟨ideal, run, run.account, sound.serves⟩, ?_, ?_⟩
  · intro chain raw back kind queue failed
    have published := publishInner_published sound.rep chain raw
    rw [failed] at published
    cases published
    exact ⟨rfl, rfl⟩
  intro next chains queue reset
  have emptied := advanceEpoch_reset sound.rep next
  unfold driverReset at reset
  generalize session.queue.advanceEpoch next = result at reset emptied
  cases emptied with
  | refused => cases (Prod.mk.inj reset).1
  | emptied later epoch now all =>
    cases reset
    exact (all.append_right _).trans run.account.conserved.symm

def secondEpoch : QueueEpoch := ⟨2, by decide⟩

/-- The chain that was completed comes back first, with what was written to it, and the reset gives back the
other. -/
theorem Runs.refines_handover_returned : ∃ (trace : List (Op ChainData × Reply ChainData))
    (session : Session ChainData)
    (chains : List (ReclaimedChain (DriverChain ChainData))) (queue : SplitQueue ChainData),
    trace.getLast?.map seen = some (.returned ⟨.initial, 2⟩ sampleChain.own 3) ∧
    session.queue.driverReset secondEpoch = (.ok chains, queue) ∧
    chains.map (fun reclaimed => (reclaimed.id, reclaimed.chain.own)) = [(⟨.initial, 0⟩, sampleChain.own)] ∧
    (∃ ideal, Handover.Run Prod.fst (trace.map seen) ideal ∧
      Handover.Account Prod.fst (Handover.Event.recent (trace.map seen)) ideal ∧ session.Serves ideal) ∧
    (chains.map (fun reclaimed => (reclaimed.id, reclaimed.chain.own)) ++
      ((Handover.Event.recent (trace.map seen)).filterMap Handover.Event.asReturned).map Prod.fst).Perm
      ((Handover.Event.recent (trace.map seen)).filterMap Handover.Event.asSubmitted) := by
  obtain ⟨refines, _, reset⟩ := Runs.refines_handover (Runs.of_sample (sampleOps ++ [.popUsed]))
  exact ⟨_, _, _, _, rfl, rfl, rfl, refines, reset secondEpoch _ _ rfl⟩

end SplitQueue

end VirtioAccel
