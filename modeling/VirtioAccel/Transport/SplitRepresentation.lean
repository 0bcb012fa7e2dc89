import VirtioAccel.Library.Ring
import VirtioAccel.Library.Handover
import VirtioAccel.Transport.SplitAllocation

/-! What the tables and the rings of a split queue stand for: chains handed
over to the device, each in one of three stages. -/

namespace VirtioAccel
open List
variable {D : Type} [ChainShape D]

/-- What of a chain is the caller's. Its slots are for the queue to fill. -/
def DriverChain.own (self : DriverChain D) : D × UInt16 := (self.data, self.head)

abbrev Ideal (D : Type) := Handover ChainId (D × UInt16) UInt32

/-- Every chain of the ideal queue, with the state that its record has. -/
def Ideal.listed (ideal : Ideal D) : List ((ChainId × D × UInt16) × ChainState) :=
  ideal.waiting.map (fun x => (x, .available)) ++ ideal.taken.map (fun x => (x, .inFlight)) ++
    ideal.finished.map (fun x => (x.1, .used))

omit [ChainShape D] in
theorem Ideal.listed_map_fst (ideal : Ideal D) : ideal.listed.map Prod.fst = ideal.held := by
  simp [Ideal.listed, Handover.held, Function.comp_def]

/-- How many descriptors the chains of the ideal queue take up. -/
def Ideal.descriptors (ideal : Ideal D) : Nat :=
  (ideal.held.map fun x => (ChainShape.descriptorCount x.2.1).toNat).sum

/-- Every chain takes up a descriptor, also those that wait. -/
theorem Ideal.waiting_le_descriptors (ideal : Ideal D) : ideal.waiting.length ≤ ideal.descriptors := by
  have each (x : ChainId × D × UInt16) : 1 ≤ (ChainShape.descriptorCount x.2.1).toNat :=
    Nat.pos_of_ne_zero fun zero => ChainShape.nonempty x.2.1 (UInt16.toNat_inj.mp zero)
  have counted := length_le_sum_of_one_le _ (forall_mem_map.mpr fun x (_ : x ∈ ideal.waiting) => each x)
  rw [length_map] at counted
  rw [Ideal.descriptors, Handover.held, append_assoc, map_append, sum_append]
  omega

section Listed
variable (waiting taken before after : List (ChainId × D × UInt16))
  (finished returned rest : List ((ChainId × D × UInt16) × UInt32)) (x : ChainId × D × UInt16)

omit [ChainShape D] in
theorem Ideal.listed_waiting : (Ideal.listed ⟨before ++ x :: after, taken, finished⟩).Perm
    ((x, .available) :: Ideal.listed ⟨before ++ after, taken, finished⟩) := by
  simp only [Ideal.listed, map_append, map_cons, append_assoc, cons_append]
  exact perm_middle

omit [ChainShape D] in
theorem Ideal.listed_taken : (Ideal.listed ⟨waiting, before ++ x :: after, finished⟩).Perm
    ((x, .inFlight) :: Ideal.listed ⟨waiting, before ++ after, finished⟩) := by
  simp only [Ideal.listed, map_append, map_cons, append_assoc, cons_append]
  rw [← append_assoc, ← append_assoc]
  exact perm_middle

omit [ChainShape D] in
theorem Ideal.listed_finished (used : UInt32) : (Ideal.listed ⟨waiting, taken, returned ++ (x, used) :: rest⟩).Perm
    ((x, .used) :: Ideal.listed ⟨waiting, taken, returned ++ rest⟩) := by
  simp only [Ideal.listed, map_append, map_cons]
  rw [← append_assoc, ← append_assoc]
  exact perm_middle

end Listed

def ChainRecord.listed (record : ChainRecord D) : (ChainId × D × UInt16) × ChainState :=
  ((record.id, record.chain.own), record.state)

/-- The slot that a token of the split queue stands for. -/
def ChainId.slot (id : ChainId) : UInt16 := id.token.toUInt16

namespace RingStorage
variable {s s' : RingStorage D} {epoch : QueueEpoch} {head : UInt16} {r r' : ChainRecord D}

/-- The descriptor table and the table of records agree, with each other and with their counters. -/
structure Books (s : RingStorage D) (epoch : QueueEpoch) (listed : List ((ChainId × D × UInt16) × ChainState)) :
    Prop where
  descriptors : s.descriptors.length = s.size.value.toNat
  records : s.records.length = s.size.value.toNat
  next : s.nextDescriptor.toNat < s.size.value.toNat
  named : ∀ {head record}, s.record head = some record → record.id = ⟨epoch, head.toUInt64⟩
  headed : ∀ {head record}, s.record head = some record → head ∈ record.chain.slots
  owned : ∀ {head record i slot}, s.record head = some record → record.chain.slots[i]? = some slot →
    s.owner slot = some ⟨head, UInt16.ofNat i⟩
  recorded : ∀ {slot owner}, s.owner slot = some owner →
    ∃ record, s.record owner.head = some record ∧ record.chain.slots[owner.localIndex.toNat]? = some slot
  free : s.freeDescriptors.toNat = s.unowned
  whole : s.unowned + (s.records.reduceOption.map (fun record => record.chain.slots.length)).sum =
    s.size.value.toNat
  active : s.activeChains.toNat = s.records.reduceOption.length
  listed : (s.records.reduceOption.map ChainRecord.listed).Perm listed

theorem record_inside (found : s.record head = some r) : head.toNat < s.records.length :=
  (List.getElem?_eq_some_iff.mp (entryAt_some found)).1

theorem record_setRecord (inside : head.toNat < s.records.length) (record : Option (ChainRecord D))
    (other : UInt16) : (s.setRecord head record).record other = if other = head then record else s.record other :=
  entryAt_set inside record

namespace Books
variable {listed others : List ((ChainId × D × UInt16) × ChainState)}

section
variable (books : Books s epoch listed)
include books

theorem record_ofNat {n : Nat} (found : s.records[n]? = some (some r)) : s.record (UInt16.ofNat n) = some r := by
  obtain ⟨inside, _⟩ := List.getElem?_eq_some_iff.mp found
  have bound := s.size.le_max
  have records := books.records
  rw [record, entryAt, UInt16.toNat_ofNat', Nat.mod_eq_of_lt (by omega), found]
  rfl

theorem exists_record (member : r ∈ s.records.reduceOption) : ∃ head, s.record head = some r := by
  obtain ⟨n, found⟩ := mem_iff_getElem?.mp (reduceOption_mem_iff.mp member)
  exact ⟨UInt16.ofNat n, books.record_ofNat found⟩

theorem slot_named (found : s.record head = some r) : r.id.slot = head := by
  rw [books.named found, ChainId.slot, UInt16.toUInt16_toUInt64]

/-- What is listed is recorded, under the slot of its identity. -/
theorem lookup {id : ChainId} {own : D × UInt16} {state : ChainState} (member : ((id, own), state) ∈ listed) :
    ∃ r, s.record id.slot = some r ∧ r.id = id ∧ r.chain.own = own ∧ r.state = state := by
  obtain ⟨r, recorded, same⟩ := mem_map.mp (books.listed.mem_iff.mpr member)
  obtain ⟨head, found⟩ := books.exists_record recorded
  cases same
  exact ⟨r, by rw [books.slot_named found, found], rfl, rfl, rfl⟩

/-- Identities are slots of this epoch, and no two records share a slot. -/
theorem ids_nodup : (listed.map (fun x => x.1.1)).Nodup := by
  refine (books.listed.map (fun x => x.1.1)).nodup_iff.mp ?_
  rw [map_map]
  refine SlotSums.nodup_reduceOption_map (fun i j x y atI atJ same => ?_)
  have place {n : Nat} {record : ChainRecord D} (found : s.records[n]? = some (some record)) :
      record.id.slot.toNat = n := by
    obtain ⟨inside, _⟩ := List.getElem?_eq_some_iff.mp found
    have bound := s.size.le_max
    have records := books.records
    rw [books.slot_named (books.record_ofNat found), UInt16.toNat_ofNat', Nat.mod_eq_of_lt (by omega)]
  rw [← place atI, ← place atJ]
  exact congrArg (fun id => (ChainId.slot id).toNat) same

theorem nodup (found : s.record head = some r) : r.chain.slots.Nodup := by
  rw [nodup_iff_getElem?_ne_getElem?]
  intro i j below inside same
  obtain ⟨slot, atJ⟩ : ∃ slot, r.chain.slots[j]? = some slot := ⟨_, getElem?_eq_getElem inside⟩
  have small := r.chain.sized
  have bound := (ChainShape.descriptorCount r.chain.data).toNat_lt
  have owner := (books.owned found atJ).symm.trans (books.owned found (same.trans atJ))
  have index := congrArg (fun owner => owner.elim 0 (fun o => o.localIndex.toNat)) owner
  simp only [Option.elim_some, UInt16.toNat_ofNat'] at index
  omega

/-- A slot without an owner heads no chain. -/
theorem unrecorded (free : s.owner head = none) : s.record head = none := by
  cases found : s.record head with
  | none => rfl
  | some r =>
    obtain ⟨i, atHead⟩ := mem_iff_getElem?.mp (books.headed found)
    rw [books.owned found atHead] at free
    cases free

theorem listed_length : listed.length = s.records.reduceOption.length := by
  rw [← books.listed.length_eq, length_map]

/-- Every chain has a descriptor, so there are no more of them than descriptors. -/
theorem length_le : listed.length ≤ s.size.value.toNat := by
  have least (records : List (ChainRecord D)) :
      records.length ≤ (records.map (fun record => record.chain.slots.length)).sum := by
    induction records with
    | nil => rfl
    | cons r rest ih =>
      have some := length_pos_iff.mpr r.chain.slots_ne_nil
      simp only [length_cons, map_cons, sum_cons]
      omega
  have enough := least s.records.reduceOption
  have whole := books.whole
  rw [books.listed_length]
  omega

end

/-- The record of a chain is exchanged for one of the same chain. -/
theorem restate (books : Books s epoch (r.listed :: others)) (r' : ChainRecord D) (found : s.record head = some r)
    (id : r'.id = r.id)
    (slots : r'.chain.slots = r.chain.slots) : Books (s.setRecord head (some r')) epoch (r'.listed :: others) := by
  have inside := record_inside found
  have lookup := record_setRecord inside (some r')
  obtain ⟨rest, before, after⟩ := SlotSums.perm_reduceOption_set (entryAt_some found) (some r')
  have change : (s.setRecord head (some r')).records.reduceOption.Perm (r' :: rest) := after
  -- A record of the new table is one of the old table, or the new one in its place.
  have old {target : UInt16} {record : ChainRecord D}
    (new : (s.setRecord head (some r')).record target = some record) :
      ∃ past, s.record target = some past ∧ record.id = past.id ∧ record.chain.slots = past.chain.slots := by
    rw [lookup] at new
    split at new
    · rename_i same
      cases new
      exact ⟨r, by rw [same, found], id, slots⟩
    · exact ⟨record, new, rfl, rfl⟩
  refine { descriptors := books.descriptors, records := ?_, next := books.next, named := ?_, headed := ?_,
           owned := ?_, recorded := ?_, free := books.free, whole := ?_, active := ?_, listed := ?_ }
  · exact (length_set ..).trans books.records
  · intro target record new
    obtain ⟨past, atPast, same, _⟩ := old new
    exact same.trans (books.named atPast)
  · intro target record new
    obtain ⟨past, atPast, _, same⟩ := old new
    rw [same]
    exact books.headed atPast
  · intro target record i slot new atSlot
    obtain ⟨past, atPast, _, same⟩ := old new
    rw [same] at atSlot
    exact books.owned atPast atSlot
  · intro slot owner ownedBy
    obtain ⟨past, atPast, atSlot⟩ := books.recorded ownedBy
    rw [lookup]
    split
    · rename_i same
      rw [same, found] at atPast
      cases atPast
      exact ⟨r', rfl, by rw [slots]; exact atSlot⟩
    · exact ⟨past, atPast, atSlot⟩
  · have whole := books.whole
    rw [(before.map _).sum_eq] at whole
    rw [(change.map _).sum_eq, map_cons, slots]
    exact whole
  · have length := before.length_eq
    rw [change.length_eq]
    exact books.active.trans length
  · have listed := (before.map ChainRecord.listed).symm.trans books.listed
    exact (change.map _).trans ((Perm.cons_inv listed).cons _)

variable {chain chain' : DriverChain D}

/-- A new chain is recorded under the slots it was given. -/
theorem add (books : Books s epoch listed) (allocates : Allocates s s' chain chain' head) (state : ChainState) :
    Books { s'.setRecord head (some ⟨⟨epoch, head.toUInt64⟩, state, chain'⟩) with
        activeChains := s'.activeChains + 1 }
      epoch (((⟨epoch, head.toUInt64⟩, chain.own), state) :: listed) := by
  obtain ⟨d, n, f, rfl⟩ : ∃ d n f, s' = { s with descriptors := d, nextDescriptor := n, freeDescriptors := f } :=
    ⟨_, _, _, allocates.rest⟩
  generalize new : (⟨⟨epoch, head.toUInt64⟩, state, chain'⟩ : ChainRecord D) = r
  obtain ⟨within, unowned⟩ := allocates.free head allocates.headed
  have absent := books.unrecorded unowned
  have inside : head.toNat < s.records.length := by rw [books.records]; exact within
  have lookup := record_setRecord inside (some r)
  obtain ⟨rest, before, after⟩ := SlotSums.perm_reduceOption_set (entryAt_none inside absent) (some r)
  have change : (s.setRecord head (some r)).records.reduceOption.Perm (r :: s.records.reduceOption) :=
    after.trans (before.symm.cons r)
  have size := s.size.le_max
  have length := books.length_le
  rw [books.listed_length] at length
  have slots : r.chain.slots = chain'.slots := by rw [← new]
  have either {target : UInt16} {record : ChainRecord D}
    (found : (s.setRecord head (some r)).record target = some record) :
      target = head ∧ record = r ∨ target ≠ head ∧ s.record target = some record := by
    rw [lookup] at found
    split at found
    · exact .inl ⟨‹_›, (Option.some.inj found).symm⟩
    · exact .inr ⟨‹_›, found⟩
  -- A recorded chain has none of the slots that were free.
  have apart {target slot : UInt16} {record : ChainRecord D} {i : Nat} (found : s.record target = some record)
      (atSlot : record.chain.slots[i]? = some slot) : slot ∉ chain'.slots := by
    intro member
    have free := (allocates.free slot member).2
    rw [books.owned found atSlot] at free
    cases free
  refine { descriptors := allocates.length.trans books.descriptors, records := ?_, next := allocates.next,
           named := ?_, headed := ?_, owned := ?_, recorded := ?_, free := ?_, whole := ?_, active := ?_,
           listed := ?_ }
  · exact (length_set ..).trans books.records
  · intro target record found
    rcases either found with ⟨rfl, rfl⟩ | ⟨_, found⟩
    · rw [← new]
    · exact books.named found
  · intro target record found
    rcases either found with ⟨rfl, rfl⟩ | ⟨_, found⟩
    · rw [slots]
      exact allocates.headed
    · exact books.headed found
  · intro target record i slot found atSlot
    rcases either found with ⟨rfl, rfl⟩ | ⟨_, found⟩
    · rw [slots] at atSlot
      exact allocates.owned i slot atSlot
    · exact (allocates.kept slot (apart found atSlot)).trans (books.owned found atSlot)
  · intro slot owner ownedBy
    change ∃ record, (s.setRecord head (some r)).record owner.head = some record ∧ _
    rw [lookup]
    by_cases member : slot ∈ chain'.slots
    · obtain ⟨i, atSlot⟩ := mem_iff_getElem?.mp member
      obtain ⟨below, _⟩ := List.getElem?_eq_some_iff.mp atSlot
      have small := chain'.sized
      have bound := (ChainShape.descriptorCount chain'.data).toNat_lt
      cases (allocates.owned i slot atSlot).symm.trans ownedBy
      refine ⟨r, if_pos rfl, ?_⟩
      rw [slots, UInt16.toNat_ofNat', Nat.mod_eq_of_lt (by omega), atSlot]
    · obtain ⟨record, found, atSlot⟩ := books.recorded ((allocates.kept slot member).symm.trans ownedBy)
      refine ⟨record, ?_, atSlot⟩
      rw [if_neg (by intro same; rw [same, absent] at found; cases found), found]
  · have count := allocates.count
    have freeCount := allocates.freeCount
    have free := books.free
    dsimp only at freeCount
    change f.toNat = RingStorage.unowned { s with descriptors := d, nextDescriptor := n, freeDescriptors := f }
    omega
  · have count := allocates.count
    have whole := books.whole
    change RingStorage.unowned { s with descriptors := d, nextDescriptor := n, freeDescriptors := f } +
      ((s.setRecord head (some r)).records.reduceOption.map (fun record => record.chain.slots.length)).sum =
        s.size.value.toNat
    rw [(change.map _).sum_eq, map_cons, sum_cons, slots]
    omega
  · have active := books.active
    change (s.activeChains + 1).toNat = (s.setRecord head (some r)).records.reduceOption.length
    rw [change.length_eq, length_cons, UInt16.toNat_add, active, UInt16.toNat_one, Nat.mod_eq_of_lt (by omega)]
  · have mine : r.listed = ((⟨epoch, head.toUInt64⟩, chain.own), state) := by
      rw [← new, ChainRecord.listed, DriverChain.own, allocates.data, allocates.localHead]
      rfl
    rw [← mine]
    exact (change.map _).trans (books.listed.cons _)

/-- A recorded chain leaves, and its slots are free again. -/
theorem remove (books : Books s epoch (r.listed :: others)) (found : s.record head = some r)
    {used : List (Option UsedElement)}
    (releases : Releases { s.setRecord head none with used := used } s' r.chain.slots) :
    Books { s' with activeChains := s'.activeChains - 1 } epoch others := by
  obtain ⟨d, f, rfl⟩ : ∃ d f,
      s' = { s.setRecord head none with used := used, descriptors := d, freeDescriptors := f } :=
    ⟨_, _, releases.rest⟩
  have inside := record_inside found
  have lookup := record_setRecord inside none
  obtain ⟨rest, before, change⟩ := SlotSums.perm_reduceOption_set (entryAt_some found) none
  have before : s.records.reduceOption.Perm (r :: rest) := before
  have change : (s.setRecord head none).records.reduceOption.Perm rest := change
  -- The chains that stay have none of the slots that were released.
  have apart {target slot : UInt16} {record : ChainRecord D} {i : Nat} (other : target ≠ head)
      (found' : s.record target = some record) (atSlot : record.chain.slots[i]? = some slot) :
          slot ∉ r.chain.slots := by
    intro member
    obtain ⟨j, atJ⟩ := mem_iff_getElem?.mp member
    have both := (books.owned found' atSlot).symm.trans (books.owned found atJ)
    exact other (DescriptorOwner.mk.inj (Option.some.inj both)).1
  have still {target : UInt16} {record : ChainRecord D}
    (there : (s.setRecord head none).record target = some record) :
      target ≠ head ∧ s.record target = some record := by
    rw [lookup] at there
    split at there
    · cases there
    · exact ⟨‹_›, there⟩
  refine { descriptors := releases.length.trans books.descriptors, records := ?_, next := books.next,
           named := fun there => books.named (still there).2, headed := fun there => books.headed (still there).2,
           owned := ?_, recorded := ?_, free := ?_, whole := ?_, active := ?_, listed := ?_ }
  · exact (length_set ..).trans books.records
  · intro target record i slot there atSlot
    obtain ⟨other, found'⟩ := still there
    exact (releases.kept slot (apart other found' atSlot)).trans (books.owned found' atSlot)
  · intro slot owner ownedBy
    by_cases member : slot ∈ r.chain.slots
    · cases (releases.freed slot member).symm.trans ownedBy
    obtain ⟨record, there, atSlot⟩ := books.recorded ((releases.kept slot member).symm.trans ownedBy)
    refine ⟨record, ?_, atSlot⟩
    change (s.setRecord head none).record owner.head = some record
    rw [lookup, if_neg, there]
    intro same
    rw [same, found] at there
    cases there
    exact member (mem_of_getElem? atSlot)
  · have free := books.free
    have count : unowned _ = s.unowned + r.chain.slots.length := releases.count
    have freeCount : f = s.freeDescriptors + UInt16.ofNat r.chain.slots.length := releases.freeCount
    have bound : s.unowned + r.chain.slots.length ≤ s.size.value.toNat := by
      have whole := books.whole
      rw [(before.map _).sum_eq, map_cons, sum_cons] at whole
      omega
    have size := s.size.le_max
    have small : r.chain.slots.length < 2 ^ 16 := by omega
    rw [freeCount, UInt16.toNat_add, UInt16.toNat_ofNat_of_lt' small, Nat.mod_eq_of_lt (by omega), free, ← count]
    rfl
  · have whole := books.whole
    have count : unowned _ = s.unowned + r.chain.slots.length := releases.count
    rw [(before.map _).sum_eq, map_cons, sum_cons] at whole
    change unowned { s with descriptors := d } +
      ((s.setRecord head none).records.reduceOption.map (fun record => record.chain.slots.length)).sum =
        s.size.value.toNat
    rw [(change.map _).sum_eq, show unowned { s with descriptors := d } = _ from count]
    omega
  · have active := books.active
    rw [before.length_eq, length_cons] at active
    change (s.activeChains - 1).toNat = (s.setRecord head none).records.reduceOption.length
    rw [change.length_eq,
      UInt16.toNat_sub_of_le _ _ (UInt16.le_iff_toNat_le.mpr (by rw [active, UInt16.toNat_one]; omega)), active]
    rfl
  · exact (change.map _).trans (Perm.cons_inv ((before.map _).symm.trans books.listed))

/-- The books do not depend on the rings, nor on the order of the list. -/
theorem of_rings (books : Books s epoch listed) (perm : listed.Perm others) (same : s' = { s with
      available := s'.available, availableIndex := s'.availableIndex, consumedAvailable := s'.consumedAvailable
      availableCount := s'.availableCount, used := s'.used, usedIndex := s'.usedIndex
      consumedUsed := s'.consumedUsed, usedCount := s'.usedCount }) : Books s' epoch others := by
  rw [same]
  exact {
    descriptors := books.descriptors, records := books.records, next := books.next, named := books.named
    headed := books.headed, owned := books.owned, recorded := books.recorded, free := books.free
    whole := books.whole, active := books.active, listed := books.listed.trans perm }

end Books

theorem toNat_ringSlot (s : RingStorage D) (index : UInt16) : s.ringSlot index = index.toNat % s.size.value.toNat :=
  s.size.mask index

/-- The storage stands for these chains: the waiting ones fill the available
ring, and the finished ones the used ring. -/
structure Rep (s : RingStorage D) (epoch : QueueEpoch) (ideal : Ideal D) : Prop where
  books : Books s epoch ideal.listed
  available : s.available.length = s.size.value.toNat
  availableRing : Ring.Holds s.available s.consumedAvailable (ideal.waiting.map (fun x => x.1.slot))
  availableIndex : s.availableIndex = s.consumedAvailable + UInt16.ofNat ideal.waiting.length
  availableCount : s.availableCount.toNat = ideal.waiting.length
  used : s.used.length = s.size.value.toNat
  usedRing : Ring.Holds s.used s.consumedUsed (ideal.finished.map (fun x => some ⟨x.1.1.slot, x.1.1, x.2⟩))
  usedIndex : s.usedIndex = s.consumedUsed + UInt16.ofNat ideal.finished.length
  usedCount : s.usedCount.toNat = ideal.finished.length

namespace Rep
variable {ideal : Ideal D}

/-- A chain that the queue holds has its record. -/
theorem recorded (holds : Rep s epoch ideal) {id : ChainId} (member : id ∈ ideal.held.map Prod.fst) :
    ∃ r, s.record id.slot = some r := by
  rw [← Ideal.listed_map_fst, map_map] at member
  obtain ⟨⟨⟨_, own⟩, state⟩, listed, rfl⟩ := mem_map.mp member
  obtain ⟨r, found, _⟩ := holds.books.lookup listed
  exact ⟨r, found⟩

theorem new (size : QueueSize) (epoch : QueueEpoch) {s : RingStorage D} (made : new true size = .ok s) :
    Rep s epoch .empty := by
  cases made
  have vacant {α : Type} (slot : UInt16) : entryAt (replicate size.value.toNat (none : Option α)) slot =
      none := by
    unfold entryAt
    rw [getElem?_replicate]
    split <;> rfl
  have unowned : (replicate size.value.toNat (none : Option DescriptorOwner)).countP Option.isNone =
      size.value.toNat := by simp [countP_replicate]
  refine {
    books := {
      descriptors := length_replicate, records := length_replicate, next := size.pos, named := ?_, headed := ?_,
      owned := ?_, recorded := ?_, free := unowned.symm, whole := ?_, active := ?_, listed := ?_ }
    available := length_replicate, availableRing := .nil _ _, availableIndex := rfl, availableCount := rfl
    used := length_replicate, usedRing := .nil _ _, usedIndex := rfl, usedCount := rfl }
  · intro head record found
    cases (vacant head).symm.trans found
  · intro head record found
    cases (vacant head).symm.trans found
  · intro head record i slot found
    cases (vacant head).symm.trans found
  · intro slot owner found
    cases (vacant slot).symm.trans found
  · simp only [reduceOption_replicate_none]
    exact unowned
  · simp only [reduceOption_replicate_none]
    rfl
  · simp only [reduceOption_replicate_none]
    rfl

theorem lengths_le (holds : Rep s epoch ideal) :
    ideal.waiting.length + ideal.taken.length + ideal.finished.length ≤ s.size.value.toNat := by
  have bound := holds.books.length_le
  simpa [Ideal.listed, Nat.add_assoc] using bound

/-- A descriptor is free or taken up by a chain that the queue holds. -/
theorem descriptors (holds : Rep s epoch ideal) :
    s.freeDescriptors.toNat + ideal.descriptors = s.size.value.toNat := by
  have listed := (holds.books.listed.map Prod.fst).map fun x => (ChainShape.descriptorCount x.2.1).toNat
  rw [Ideal.listed_map_fst, map_map, map_map] at listed
  have sizes : (fun record : ChainRecord D => record.chain.slots.length) = _ :=
    funext fun record => record.chain.sized
  rw [Ideal.descriptors, ← listed.sum_eq, holds.books.free, ← holds.books.whole, sizes]
  rfl

/-- A chain that got its slots waits behind the others. -/
theorem enqueue (holds : Rep s epoch ideal) (allocates : Allocates s s' chain chain' head)
    (room : ideal.waiting.length < s.size.value.toNat) :
    Rep (SplitQueue.enqueue s' head ⟨epoch, head.toUInt64⟩ chain') epoch
      { ideal with waiting := ideal.waiting ++ [(⟨epoch, head.toUInt64⟩, chain.own)] } := by
  have added := holds.books.add allocates .available
  obtain ⟨d, n, f, rfl⟩ : ∃ d n f, s' = { s with descriptors := d, nextDescriptor := n, freeDescriptors := f } :=
    ⟨_, _, _, allocates.rest⟩
  have size := s.size.le_max
  have length : (ideal.waiting.map (fun x => x.1.slot)).length = ideal.waiting.length := length_map _
  have pushed := holds.availableRing.push (by rw [holds.available]; exact s.size.dvd_wrap)
    (by rw [length, holds.available]; exact room) head
  rw [length, ← holds.availableIndex, holds.available, ← s.toNat_ringSlot] at pushed
  refine {
    books := added.of_rings ?_ rfl
    available := (length_set ..).trans holds.available, availableRing := ?_, availableIndex := ?_
    availableCount := ?_, used := holds.used, usedRing := holds.usedRing, usedIndex := holds.usedIndex
    usedCount := holds.usedCount }
  · have placed := Ideal.listed_waiting ideal.taken ideal.waiting [] ideal.finished (⟨epoch, head.toUInt64⟩,
      chain.own)
    rw [append_nil] at placed
    exact placed.symm
  · rw [map_append, map_cons, ChainId.slot, UInt16.toUInt16_toUInt64]
    exact pushed
  · change s.availableIndex + 1 = _
    rw [holds.availableIndex, length_append, UInt16.ofNat_add, UInt16.add_assoc]
    rfl
  · change (s.availableCount + 1).toNat = _
    rw [UInt16.toNat_add, holds.availableCount, UInt16.toNat_one, Nat.mod_eq_of_lt (by omega), length_append,
      length_singleton]

section Moves
variable {id : ChainId} {own : D × UInt16} {waiting taken before after : List (ChainId × D × UInt16)}
  {finished rest : List ((ChainId × D × UInt16) × UInt32)} {used : UInt32}

/-- The oldest waiting chain is taken. -/
theorem take (holds : Rep s epoch ⟨(id, own) :: waiting, taken, finished⟩) :
    s.available[s.ringSlot s.consumedAvailable]? = some id.slot ∧
    ∃ r, s.record id.slot = some r ∧ r.id = id ∧ r.chain.own = own ∧ r.state = .available ∧
      Rep { s.setRecord id.slot (some { r with state := .inFlight }) with
          consumedAvailable := s.consumedAvailable + 1, availableCount := s.availableCount - 1 } epoch
        ⟨waiting, taken ++ [(id, own)], finished⟩ := by
  have head := holds.availableRing.head
  rw [holds.available, ← s.toNat_ringSlot] at head
  obtain ⟨r, found, rfl, rfl, state⟩ := holds.books.lookup (mem_append_left _ (mem_append_left _ mem_cons_self))
  refine ⟨head, r, found, rfl, rfl, state, ?_⟩
  have listed : r.listed = ((r.id, r.chain.own), .available) := by rw [ChainRecord.listed, state]
  have first : Books s epoch (r.listed :: Ideal.listed ⟨waiting, taken, finished⟩) :=
    holds.books.of_rings (.of_eq (by rw [listed]; rfl)) rfl
  have moved := first.restate { r with state := .inFlight } found rfl rfl
  have count : s.availableCount.toNat = waiting.length + 1 := holds.availableCount
  refine {
    books := moved.of_rings ?_ rfl
    available := holds.available, availableRing := ?_, availableIndex := ?_
    availableCount := ?_, used := holds.used, usedRing := holds.usedRing, usedIndex := holds.usedIndex
    usedCount := holds.usedCount }
  · have placed := Ideal.listed_taken waiting taken [] finished (r.id, r.chain.own)
    rw [append_nil] at placed
    exact placed.symm
  · exact holds.availableRing.advance (by rw [holds.available]; exact s.size.dvd_wrap)
  · change s.availableIndex = s.consumedAvailable + 1 + UInt16.ofNat waiting.length
    rw [holds.availableIndex, length_cons, Nat.add_comm, UInt16.ofNat_add, UInt16.add_assoc]
    rfl
  · rw [UInt16.toNat_sub_of_le _ _ (UInt16.le_iff_toNat_le.mpr (by rw [UInt16.toNat_one]; omega)), count,
      UInt16.toNat_one]
    rfl

/-- A taken chain is finished, whatever its turn was. -/
theorem finish (holds : Rep s epoch ⟨waiting, before ++ (id, own) :: after, finished⟩) (used : UInt32) :
    s.usedCount ≠ s.size.value ∧
    ∃ r, s.record id.slot = some r ∧ r.id = id ∧ r.chain.own = own ∧ r.state = .inFlight ∧
      Rep (SplitQueue.finish s id.slot r used) epoch ⟨waiting, before ++ after, finished ++
        [((id, own), used)]⟩ := by
  have bound := holds.lengths_le
  have size := s.size.le_max
  have count : s.usedCount.toNat = finished.length := holds.usedCount
  simp only [length_append, length_cons] at bound
  have full : s.usedCount ≠ s.size.value := by
    intro same
    rw [same] at count
    omega
  have member : ((id, own), ChainState.inFlight) ∈ Ideal.listed ⟨waiting, before ++ (id, own) :: after,
      finished⟩ := by
    simp [Ideal.listed]
  obtain ⟨r, found, rfl, rfl, state⟩ := holds.books.lookup member
  refine ⟨full, r, found, rfl, rfl, state, ?_⟩
  have length : (finished.map (fun x => some (⟨x.1.1.slot, x.1.1, x.2⟩ : UsedElement))).length = finished.length :=
    length_map _
  have index : s.usedIndex = s.consumedUsed + UInt16.ofNat finished.length := holds.usedIndex
  have pushed := holds.usedRing.push (by rw [holds.used]; exact s.size.dvd_wrap)
    (by rw [length, holds.used]; omega) (some ⟨r.id.slot, r.id, used⟩)
  rw [length, ← index, holds.used, ← s.toNat_ringSlot] at pushed
  have listed : r.listed = ((r.id, r.chain.own), .inFlight) := by rw [ChainRecord.listed, state]
  have first : Books s epoch (r.listed :: Ideal.listed ⟨waiting, before ++ after, finished⟩) := by
    rw [listed]
    exact holds.books.of_rings (Ideal.listed_taken waiting before after finished _) rfl
  have moved := first.restate { r with state := .used } found rfl rfl
  refine {
    books := moved.of_rings ?_ rfl
    available := holds.available, availableRing := holds.availableRing, availableIndex := holds.availableIndex
    availableCount := holds.availableCount, used := (length_set ..).trans holds.used, usedRing := ?_
    usedIndex := ?_, usedCount := ?_ }
  · have placed := Ideal.listed_finished waiting (before ++ after) finished [] (r.id, r.chain.own) used
    rw [append_nil] at placed
    exact placed.symm
  · rw [map_append]
    exact pushed
  · change s.usedIndex + 1 = _
    rw [index, length_append, UInt16.ofNat_add, UInt16.add_assoc]
    rfl
  · change (s.usedCount + 1).toNat = _
    rw [UInt16.toNat_add, count, UInt16.toNat_one, Nat.mod_eq_of_lt (by omega), length_append, length_singleton]

/-- The chain that was finished first comes back, and leaves its slots. -/
theorem giveBack (holds : Rep s epoch ⟨waiting, taken, ((id, own), used) :: rest⟩) :
    s.used[s.ringSlot s.consumedUsed]? = some (some ⟨id.slot, id, used⟩) ∧
    ∃ r, s.record id.slot = some r ∧ r.id = id ∧ r.chain.own = own ∧ r.state = .used ∧
      let s' := releaseDescriptors
        { s.setRecord id.slot none with used := s.used.set (s.ringSlot s.consumedUsed) none } r.chain
      Rep { s' with
          consumedUsed := s'.consumedUsed + 1
          usedCount := s'.usedCount - 1
          activeChains := s'.activeChains - 1 } epoch ⟨waiting, taken, rest⟩ ∧ s'.size = s.size := by
  have head := holds.usedRing.head
  rw [holds.used, ← s.toNat_ringSlot] at head
  have member : ((id, own), ChainState.used) ∈ Ideal.listed ⟨waiting, taken, ((id, own), used) :: rest⟩ := by
    simp [Ideal.listed]
  obtain ⟨r, found, rfl, rfl, state⟩ := holds.books.lookup member
  refine ⟨head, r, found, rfl, rfl, state, ?_⟩
  have listed : r.listed = ((r.id, r.chain.own), .used) := by rw [ChainRecord.listed, state]
  have first : Books s epoch (r.listed :: Ideal.listed ⟨waiting, taken, rest⟩) := by
    rw [listed]
    exact holds.books.of_rings (Ideal.listed_finished waiting taken [] rest _ used) rfl
  have releases : Releases
      { s.setRecord r.id.slot none with used := s.used.set (s.ringSlot s.consumedUsed) none }
      (releaseDescriptors
        { s.setRecord r.id.slot none with used := s.used.set (s.ringSlot s.consumedUsed) none } r.chain)
      r.chain.slots := by
    refine release_spec (first.nodup found) (fun slot member => ?_)
    obtain ⟨i, atSlot⟩ := mem_iff_getElem?.mp member
    change (s.owner slot).isSome
    rw [first.owned found atSlot]
    rfl
  have removed := first.remove found releases
  obtain ⟨d, f, same⟩ : ∃ d f, releaseDescriptors
      { s.setRecord r.id.slot none with used := s.used.set (s.ringSlot s.consumedUsed) none } r.chain =
        { s.setRecord r.id.slot none with
          used := s.used.set (s.ringSlot s.consumedUsed) none, descriptors := d, freeDescriptors := f } :=
    ⟨_, _, releases.rest⟩
  rw [same] at removed ⊢
  refine ⟨?_, rfl⟩
  have count : s.usedCount.toNat = rest.length + 1 := holds.usedCount
  have popped := holds.usedRing.pop (by rw [holds.used]; exact s.size.dvd_wrap) none
  rw [holds.used, ← s.toNat_ringSlot] at popped
  refine {
    books := removed.of_rings (.refl _) rfl
    available := holds.available, availableRing := holds.availableRing, availableIndex := holds.availableIndex
    availableCount := holds.availableCount, used := (length_set ..).trans holds.used, usedRing := popped
    usedIndex := ?_, usedCount := ?_ }
  · change s.usedIndex = s.consumedUsed + 1 + UInt16.ofNat rest.length
    rw [holds.usedIndex, length_cons, Nat.add_comm, UInt16.ofNat_add, UInt16.add_assoc]
    rfl
  · change (s.usedCount - 1).toNat = rest.length
    rw [UInt16.toNat_sub_of_le _ _ (UInt16.le_iff_toNat_le.mpr (by rw [count, UInt16.toNat_one]; omega)), count,
      UInt16.toNat_one]
    rfl

end Moves

end Rep

end RingStorage

end VirtioAccel
