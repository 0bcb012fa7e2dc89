import VirtioAccel.Guest.ClientSteps

/-! The slots of a client as a ledger: which chain each request waits for, and
which caller holds its token. -/

namespace VirtioAccel.Guest
open List

namespace Slot
variable {χ : Type}
variable {candidate : UInt64}

/-- The chain that a slot waits for. -/
def chainId : Slot χ → Option ChainId
  | inFlight _ id => some id
  | _ => none

/-- The identifier that the request of a slot goes by. -/
def requestId : Slot χ → Option UInt64
  | inFlight requestId _ | completed requestId _ => some requestId
  | _ => none

def chainIds (slots : List (Slot χ)) : List ChainId := (slots.map chainId).reduceOption

def requestIds (slots : List (Slot χ)) : List UInt64 := (slots.map requestId).reduceOption

theorem uses_iff {slot : Slot χ} : slot.uses candidate = true ↔ slot.requestId = some candidate := by
  cases slot <;> simp [uses, requestId]

theorem any_uses_iff {slots : List (Slot χ)} :
    slots.any (uses candidate) = true ↔ candidate ∈ requestIds slots := by
  rw [requestIds, reduceOption_mem_iff, any_eq_true, mem_map]
  simp only [uses_iff]

theorem requestIds_length_le (slots : List (Slot χ)) : (requestIds slots).length ≤ slots.length :=
  (reduceOption_length_le _).trans_eq (length_map _)

end Slot

namespace GuestClient
variable {χ : Type} {slots : List (Slot χ)}
variable {next : UInt64}

theorem searchRequestId_unused {attempts : Nat} {requestId : UInt64}
    (found : (searchRequestId slots attempts next).1 = some requestId) : requestId ∉ Slot.requestIds slots := by
  induction attempts generalizing next with
  | zero => cases found
  | succ attempts ih =>
    unfold searchRequestId at found
    dsimp only at found
    split at found
    · exact ih found
    rename_i unused
    cases found
    exact fun used => unused (Slot.any_uses_iff.mpr used)

/-- The candidates in their order. Zero is passed over when the counter wraps. -/
def candidate (next : UInt64) (n : Nat) : UInt64 := UInt64.ofNat (((max next 1).toNat - 1 + n) % (2 ^ 64 - 1) + 1)

theorem toNat_max_one (next : UInt64) : (max next 1).toNat = max next.toNat 1 := by
  have larger : max next 1 = if next ≤ 1 then 1 else next := rfl
  rw [larger]
  split
  · rename_i small
    rw [UInt64.le_iff_toNat_le, UInt64.toNat_one] at small
    rw [UInt64.toNat_one]
    omega
  · rename_i large
    rw [UInt64.le_iff_toNat_le] at large
    omega

theorem candidate_zero (next : UInt64) : candidate next 0 = max next 1 := by
  have bound := (max next 1).toNat_lt
  have positive := toNat_max_one next
  rw [← UInt64.toNat_inj, candidate, UInt64.toNat_ofNat']
  omega

theorem candidate_succ (next : UInt64) (n : Nat) :
    candidate next (n + 1) = candidate (max (max next 1 + 1) 1) n := by
  have bound := (max next 1).toNat_lt
  have positive := toNat_max_one next
  have following := toNat_max_one (max next 1 + 1)
  rw [UInt64.toNat_add, UInt64.toNat_one] at following
  have again := toNat_max_one (max (max next 1 + 1) 1)
  rw [candidate]
  congr 2
  omega

theorem candidate_inj {i j : Nat} (belowI : i < 2 ^ 64 - 1) (belowJ : j < 2 ^ 64 - 1)
    (same : candidate next i = candidate next j) : i = j := by
  have equal := congrArg UInt64.toNat same
  rw [candidate, candidate, UInt64.toNat_ofNat', UInt64.toNat_ofNat'] at equal
  omega

theorem searchRequestId_eq_none {attempts : Nat} (none : (searchRequestId slots attempts next).1 = none) :
    ∀ n < attempts, candidate next n ∈ Slot.requestIds slots := by
  induction attempts generalizing next with
  | zero => exact fun n below => absurd below (Nat.not_lt_zero n)
  | succ attempts ih =>
    unfold searchRequestId at none
    dsimp only at none
    split at none
    · rename_i used
      intro n below
      cases n with
      | zero =>
        rw [candidate_zero]
        exact Slot.any_uses_iff.mp used
      | succ n =>
        rw [candidate_succ]
        exact ih none n (by omega)
    · cases none

/-- With fewer slots than identifiers, one of one more candidates than slots is free. -/
theorem searchRequestId_total (small : slots.length < 2 ^ 64 - 1) (next : UInt64) :
    (searchRequestId slots (slots.length + 1) next).1 ≠ none := by
  intro none
  have used := searchRequestId_eq_none none
  have distinct : ((range (slots.length + 1)).map (candidate next)).Nodup := by
    refine Nodup.map_on (fun i belowI j belowJ same => ?_) nodup_range
    rw [mem_range] at belowI belowJ
    exact candidate_inj (by omega) (by omega) same
  have among : (range (slots.length + 1)).map (candidate next) ⊆ Slot.requestIds slots := by
    intro id member
    obtain ⟨n, below, rfl⟩ := mem_map.mp member
    exact used n (mem_range.mp below)
  have length := (subperm_of_subset distinct among).length_le
  have bound := Slot.requestIds_length_le slots
  rw [length_map, length_range] at length
  omega

end GuestClient

/-- A token that its caller has not used up, with the chain as it was published. -/
structure Ticket (χ : Type) where
  serial : Nat
  pending : Pending
  chain : χ

section Ledger
variable {χ κ : Type} {key : χ → κ} {slots : List (Slot χ)} {epoch : QueueEpoch} {tickets : List (Ticket χ)}
  {held : List (ChainId × κ)}
variable {held' : List (ChainId × κ)} {index : Nat}

/-- The slot of a ticket has its request, and the chain is on its way or there. -/
inductive Awaited (key : χ → κ) (slots : List (Slot χ)) (held : List (ChainId × κ)) (ticket : Ticket χ) : Prop where
  | inFlight {id} (atSlot : slots[ticket.pending.slot]? = some (.inFlight ticket.pending.requestId id))
      (mine : (id, key ticket.chain) ∈ held)
  | completed {used} (atSlot : slots[ticket.pending.slot]? = some (.completed ticket.pending.requestId used))
      (mine : key used.chain = key ticket.chain)

/-- The slots, the tokens of the callers and the chains that the queue has agree. -/
structure Ledger (key : χ → κ) (slots : List (Slot χ)) (epoch : QueueEpoch) (tickets : List (Ticket χ))
    (held : List (ChainId × κ)) : Prop where
  inFlight : (Slot.chainIds slots).Perm (held.map Prod.fst)
  chains : (held.map Prod.fst).Nodup
  distinct : (Slot.requestIds slots).Nodup
  nonzero : 0 ∉ Slot.requestIds slots
  past : ∀ ticket ∈ tickets, ticket.pending.epoch.value ≤ epoch.value
  apart : ((tickets.filter (fun ticket => ticket.pending.epoch = epoch)).map (fun ticket =>
    ticket.pending.slot)).Nodup
  awaited : ∀ ticket ∈ tickets, ticket.pending.epoch = epoch → Awaited key slots held ticket

variable {ticket : Ticket χ}

theorem Awaited.elsewhere (awaited : Awaited key slots held ticket) (other : index ≠ ticket.pending.slot)
    (slot : Slot χ)
    (kept : ∀ id requestId, slots[ticket.pending.slot]? = some (.inFlight requestId id) →
      (id, key ticket.chain) ∈ held → (id, key ticket.chain) ∈ held') :
    Awaited key (slots.set index slot) held' ticket := by
  cases awaited with
  | inFlight atSlot mine => exact .inFlight (by rw [getElem?_set_ne other]; exact atSlot) (kept _ _ atSlot mine)
  | completed atSlot mine => exact .completed (by rw [getElem?_set_ne other]; exact atSlot) mine

namespace Ledger
variable {used : UsedChain χ} {id : ChainId}

theorem nothing (n : Nat) : Ledger key (replicate n .vacant) epoch [] [] := by
  have chains : Slot.chainIds (replicate n (.vacant : Slot χ)) = [] := by
    simp only [Slot.chainIds, map_replicate, Slot.chainId, reduceOption_replicate_none]
  have requests : Slot.requestIds (replicate n (.vacant : Slot χ)) = [] := by
    simp only [Slot.requestIds, map_replicate, Slot.requestId, reduceOption_replicate_none]
  refine ⟨.of_eq chains, nodup_nil, ?_, ?_, nofun, nodup_nil, nofun⟩
  · rw [requests]
    exact nodup_nil
  rw [requests]
  exact not_mem_nil

section
variable (ledger : Ledger key slots epoch tickets held)
include ledger

theorem perm (same : held'.Perm held) : Ledger key slots epoch tickets held' := by
  have names := same.map Prod.fst
  refine ⟨ledger.inFlight.trans names.symm, names.nodup_iff.mpr ledger.chains, ledger.distinct, ledger.nonzero,
    ledger.past, ledger.apart, fun ticket member current => ?_⟩
  cases ledger.awaited ticket member current with
  | inFlight atSlot mine => exact .inFlight atSlot (same.mem_iff.mpr mine)
  | completed atSlot mine => exact .completed atSlot mine

/-- A chain that the queue has is one that a slot waits for. -/
theorem known (member : id ∈ held.map Prod.fst) : ∃ requestId, .inFlight requestId id ∈ slots := by
  obtain ⟨slot, there, named⟩ := mem_map.mp (reduceOption_mem_iff.mp (ledger.inFlight.mem_iff.mpr member))
  cases slot with
  | inFlight requestId chain =>
    cases named
    exact ⟨requestId, there⟩
  | _ => cases named

/-- A request takes a vacant slot. -/
theorem publish (serial : Nat) (operation : Operation) (chain : χ)
    {slot : Nat} {requestId : UInt64} (vacant : slots[slot]? = some .vacant)
    (unused : requestId ∉ Slot.requestIds slots) (nonzero : requestId ≠ 0) (fresh : id ∉ held.map Prod.fst) :
    Ledger key (slots.set slot (.inFlight requestId id)) epoch
      (tickets ++ [⟨serial, ⟨slot, requestId, epoch, operation⟩, chain⟩]) ((id, key chain) :: held) := by
  have inside := (List.getElem?_eq_some_iff.mp vacant).1
  obtain ⟨chains, beforeChains, afterChains⟩ := SlotSums.perm_reduceOption_set
    (by rw [getElem?_map, vacant]; rfl : (slots.map Slot.chainId)[slot]? = some none) (some id)
  obtain ⟨requests, beforeRequests, afterRequests⟩ := SlotSums.perm_reduceOption_set
    (by rw [getElem?_map, vacant]; rfl : (slots.map Slot.requestId)[slot]? = some none) (some requestId)
  have chainIds : (Slot.chainIds (slots.set slot (.inFlight requestId id))).Perm (id :: Slot.chainIds slots) := by
    rw [Slot.chainIds, map_set]
    exact afterChains.trans (beforeChains.symm.cons id)
  have requestIds : (Slot.requestIds (slots.set slot (.inFlight requestId id))).Perm
      (requestId :: Slot.requestIds slots) := by
    rw [Slot.requestIds, map_set]
    exact afterRequests.trans (beforeRequests.symm.cons requestId)
  -- A ticket of this epoch has a slot that is not vacant.
  have occupied (ticket) (member : ticket ∈ tickets) (current : ticket.pending.epoch = epoch) :
      slot ≠ ticket.pending.slot := by
    intro same
    rw [same] at vacant
    cases ledger.awaited ticket member current with
    | inFlight atSlot | completed atSlot => cases vacant.symm.trans atSlot
  refine ⟨chainIds.trans (ledger.inFlight.cons id), nodup_cons.mpr ⟨fresh, ledger.chains⟩, ?_, ?_, ?_, ?_, ?_⟩
  · exact requestIds.nodup_iff.mpr (nodup_cons.mpr ⟨unused, ledger.distinct⟩)
  · intro zero
    rcases mem_cons.mp (requestIds.mem_iff.mp zero) with same | old
    · exact nonzero same.symm
    · exact ledger.nonzero old
  · intro ticket member
    rcases mem_append.mp member with old | new
    · exact ledger.past ticket old
    cases mem_singleton.mp new
    exact UInt64.le_refl _
  · rw [filter_append, map_append, nodup_append']
    refine ⟨ledger.apart, by simp, ?_⟩
    intro place old new
    obtain ⟨ticket, among, rfl⟩ := mem_map.mp old
    obtain ⟨member, current⟩ := mem_filter.mp among
    have taken : ticket.pending.slot = slot := by simpa using new
    exact occupied ticket member (of_decide_eq_true current) taken.symm
  · intro ticket member current
    rcases mem_append.mp member with old | new
    · exact (ledger.awaited ticket old current).elsewhere (occupied ticket old current) _
        (fun _ _ _ mine => mem_cons_of_mem _ mine)
    cases mem_singleton.mp new
    exact .inFlight (by rw [getElem?_set_self inside]) mem_cons_self

end

/-- The queue gives a chain back to the slot that waits for it. -/
theorem complete {name : κ} (ledger : Ledger key slots epoch tickets ((id, name) :: held)) {requestId : UInt64}
    (awaiting : slots[index]? = some (.inFlight requestId id)) (mine : key used.chain = name) :
    Ledger key (slots.set index (.completed requestId used)) epoch tickets held := by
  obtain ⟨inside, atIndex⟩ := List.getElem?_eq_some_iff.mp awaiting
  obtain ⟨chains, before, after⟩ := SlotSums.perm_reduceOption_set
    (by rw [getElem?_map, awaiting]; rfl : (slots.map Slot.chainId)[index]? = some (some id)) none
  have requestIds : Slot.requestIds (slots.set index (.completed requestId used)) = Slot.requestIds slots := by
    rw [Slot.requestIds, map_set, show Slot.requestId (.completed requestId used) = Slot.requestId slots[index] by
      rw [atIndex]; rfl, ← getElem_map Slot.requestId (h := by rwa [length_map]), set_getElem_self]
    rfl
  have ids : (Slot.chainIds slots).Nodup := ledger.inFlight.nodup_iff.mpr ledger.chains
  obtain ⟨absent, distinct⟩ := nodup_cons.mp ledger.chains
  refine ⟨?_, distinct, by rw [requestIds]; exact ledger.distinct, by rw [requestIds]; exact ledger.nonzero,
    ledger.past, ledger.apart, ?_⟩
  · rw [Slot.chainIds, map_set]
    exact after.trans (Perm.cons_inv (before.symm.trans ledger.inFlight))
  intro ticket member current
  have awaited := ledger.awaited ticket member current
  by_cases here : index = ticket.pending.slot
  · cases awaited with
    | inFlight atSlot mineToo =>
      rw [← here, awaiting] at atSlot
      cases atSlot
      refine .completed (by rw [← here, getElem?_set_self inside]) (mine.trans ?_)
      rcases mem_cons.mp mineToo with same | other
      · exact (Prod.mk.inj same).2.symm
      · exact absurd (mem_map_of_mem other) absent
    | completed atSlot =>
      rw [← here, awaiting] at atSlot
      cases atSlot
  · refine awaited.elsewhere here _ (fun other request atSlot mineToo => ?_)
    rcases mem_cons.mp mineToo with same | other
    · cases same
      exact absurd (SlotSums.place_unique ids awaiting atSlot rfl rfl) here
    · exact other

section
variable (ledger : Ledger key slots epoch tickets held)
include ledger

/-- A ticket is used up. -/
theorem drop (index : Nat) : Ledger key slots epoch (tickets.eraseIdx index) held :=
  ⟨ledger.inFlight, ledger.chains, ledger.distinct, ledger.nonzero,
    fun ticket member => ledger.past ticket (mem_of_mem_eraseIdx member),
    (((eraseIdx_sublist tickets index).filter _).map _).nodup ledger.apart,
    fun ticket member => ledger.awaited ticket (mem_of_mem_eraseIdx member)⟩

/-- A slot that waits for nothing is emptied, and no ticket is for it. -/
theorem vacate {slot : Slot χ} (atIndex : slots[index]? = some slot) (settled : slot.chainId = none)
    (free : ∀ ticket ∈ tickets, ticket.pending.epoch = epoch → index ≠ ticket.pending.slot) :
    Ledger key (slots.set index .vacant) epoch tickets held := by
  obtain ⟨chains, beforeChains, afterChains⟩ := SlotSums.perm_reduceOption_set
    (by rw [getElem?_map, atIndex, ← settled]; rfl : (slots.map Slot.chainId)[index]? = some none) none
  obtain ⟨requests, beforeRequests, afterRequests⟩ := SlotSums.perm_reduceOption_set
    (by rw [getElem?_map, atIndex]; rfl : (slots.map Slot.requestId)[index]? = some slot.requestId) none
  have fewer : (Slot.requestIds (slots.set index .vacant)).Subperm (Slot.requestIds slots) := by
    rw [Slot.requestIds, map_set]
    refine afterRequests.subperm.trans (Subperm.trans ?_ beforeRequests.symm.subperm)
    exact (sublist_append_right _ _).subperm
  refine ⟨?_, ledger.chains, ?_, fun zero => ledger.nonzero (fewer.subset zero), ledger.past, ledger.apart, ?_⟩
  · rw [Slot.chainIds, map_set]
    exact (afterChains.trans beforeChains.symm).trans ledger.inFlight
  · obtain ⟨part, same, within⟩ := fewer
    exact same.nodup_iff.mp (within.nodup ledger.distinct)
  · intro ticket member current
    exact (ledger.awaited ticket member current).elsewhere (free ticket member current) _ (fun _ _ _ mine => mine)

/-- The completion of a request goes to the holder of its ticket, and is of the chain that was published for it. -/
theorem answer (atIndex : tickets[index]? = some ticket) (current : ticket.pending.epoch = epoch)
    (found : slots[ticket.pending.slot]? = some (.completed ticket.pending.requestId used)) :
    key used.chain = key ticket.chain ∧
      Ledger key (slots.set ticket.pending.slot .vacant) epoch (tickets.eraseIdx index) held := by
  obtain ⟨inside, same⟩ := List.getElem?_eq_some_iff.mp atIndex
  constructor
  · cases ledger.awaited ticket (mem_of_getElem? atIndex) current with
    | inFlight atSlot => cases found.symm.trans atSlot
    | completed atSlot mine =>
      cases found.symm.trans atSlot
      exact mine
  refine (ledger.drop index).vacate found rfl (fun other member now shared => ?_)
  have split : tickets.Perm (ticket :: tickets.eraseIdx index) := by
    rw [← same]
    exact (getElem_cons_eraseIdx_perm inside).symm
  have apart := ((split.filter _).map _).nodup_iff.mp ledger.apart
  rw [filter_cons_of_pos (by simpa using current), map_cons, nodup_cons] at apart
  refine apart.1 ?_
  rw [shared]
  exact mem_map_of_mem (mem_filter.mpr ⟨member, decide_eq_true now⟩)

/-- A reset leaves no request and no ticket of its epoch. -/
theorem recover {next : QueueEpoch} (later : epoch.value < next.value) :
    Ledger key (slots.map Slot.recover) next tickets [] := by
  have chains : Slot.chainIds (slots.map Slot.recover) = [] := by
    rw [Slot.chainIds, map_map, eq_nil_iff_forall_not_mem]
    intro id member
    obtain ⟨slot, _, named⟩ := mem_map.mp (reduceOption_mem_iff.mp member)
    cases slot <;> cases named
  have requests : Slot.requestIds (slots.map Slot.recover) = [] := by
    rw [Slot.requestIds, map_map, eq_nil_iff_forall_not_mem]
    intro id member
    obtain ⟨slot, _, named⟩ := mem_map.mp (reduceOption_mem_iff.mp member)
    cases slot <;> cases named
  have older (ticket) (member : ticket ∈ tickets) : ticket.pending.epoch.value < next.value :=
    UInt64.lt_of_le_of_lt (ledger.past ticket member) later
  have outdated (ticket) (member : ticket ∈ tickets) (current : ticket.pending.epoch = next) : False := by
    have less := older ticket member
    rw [current] at less
    exact UInt64.lt_irrefl _ less
  refine ⟨.of_eq chains, nodup_nil, ?_, ?_, fun ticket member => UInt64.le_of_lt (older ticket member), ?_,
    fun ticket member current => (outdated ticket member current).elim⟩
  · rw [requests]
    exact nodup_nil
  · rw [requests]
    exact not_mem_nil
  · rw [filter_eq_nil_iff.mpr (fun ticket member current => outdated ticket member (of_decide_eq_true current))]
    exact nodup_nil

/-- A chain recovered from an earlier epoch leaves its slot. -/
theorem release (atIndex : slots[index]? = some (.recovered used)) :
    Ledger key (slots.set index .vacant) epoch tickets held := by
  refine ledger.vacate atIndex rfl (fun ticket member current same => ?_)
  rw [same] at atIndex
  cases ledger.awaited ticket member current with
  | inFlight atSlot | completed atSlot => cases atIndex.symm.trans atSlot

end

end Ledger

end Ledger

end VirtioAccel.Guest
