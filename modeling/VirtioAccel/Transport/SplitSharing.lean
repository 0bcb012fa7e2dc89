import VirtioAccel.Transport.SplitQueueRuns

/-! The bytes of a chain are the device's to write while it holds the token, and
the driver's record of the chain sees them. -/

namespace VirtioAccel
open List
variable {D : Type} [ChainShape D]
variable {data : D}
variable {finished : List ((ChainId × D × UInt16) × UInt32)} {waiting before after : List (ChainId × D × UInt16)}
  {id : ChainId} {head : UInt16} {data' : D}

/-- The record of a chain, over what its buffers have become. -/
def RingStorage.share (self : RingStorage D) (id : ChainId) (data : D) : RingStorage D :=
  match self.record id.slot with
  | none => self
  | some record =>
    if same : ChainShape.descriptorCount data = ChainShape.descriptorCount record.chain.data then
      self.setRecord id.slot (some { record with chain := record.chain.withData data same })
    else self

def SplitQueue.share (self : SplitQueue D) (id : ChainId) (data : D) : SplitQueue D :=
  { self with storage := self.storage.map (fun storage => storage.share id data) }

/-- A chain that was taken keeps its identity, its place and its number of descriptors. -/
theorem RingStorage.Rep.share {s : RingStorage D} {epoch : QueueEpoch}
    (holds : Rep s epoch ⟨waiting, before ++ (id, data, head) :: after, finished⟩)
    (count : ChainShape.descriptorCount data' = ChainShape.descriptorCount data) :
    Rep (s.share id data') epoch ⟨waiting, before ++ (id, data', head) :: after, finished⟩ ∧
      (s.share id data').size = s.size := by
  have member : ((id, data, head), ChainState.inFlight) ∈
      Ideal.listed ⟨waiting, before ++ (id, data, head) :: after, finished⟩ := by simp [Ideal.listed]
  obtain ⟨r, found, rfl, own, state⟩ := holds.books.lookup member
  obtain ⟨rfl, rfl⟩ := Prod.mk.inj own
  have listed : r.listed = ((r.id, r.chain.data, r.chain.head), .inFlight) := by rw [ChainRecord.listed, state]; rfl
  have first : Books s epoch (r.listed :: Ideal.listed ⟨waiting, before ++ after, finished⟩) := by
    rw [listed]
    exact holds.books.of_rings (Ideal.listed_taken waiting before after finished _) rfl
  have shared : s.share r.id data' =
      s.setRecord r.id.slot (some { r with chain := r.chain.withData data' count }) := by
    unfold RingStorage.share
    simp only [found, count, dif_pos]
  have moved := first.restate { r with chain := r.chain.withData data' count } found rfl rfl
  rw [shared]
  refine ⟨?_, rfl⟩
  refine {
    books := moved.of_rings ?_ rfl
    available := holds.available, availableRing := holds.availableRing, availableIndex := holds.availableIndex
    availableCount := holds.availableCount, used := holds.used, usedRing := holds.usedRing
    usedIndex := holds.usedIndex, usedCount := holds.usedCount }
  have placed := Ideal.listed_taken waiting before after finished (r.id, data', r.chain.head)
  rw [state]
  exact placed.symm

theorem SplitQueue.Rep.share {q : SplitQueue D}
    (holds : Rep q ⟨waiting, before ++ (id, data, head) :: after, finished⟩)
    (count : ChainShape.descriptorCount data' = ChainShape.descriptorCount data) :
    Rep (q.share id data') ⟨waiting, before ++ (id, data', head) :: after, finished⟩ := by
  cases stored : q.storage with
  | none =>
    have nothing := congrArg Handover.taken (holds.bare stored).1
    simp [Handover.empty] at nothing
  | some s =>
    obtain ⟨now, size⟩ := (holds.stored stored).1.share count
    rw [SplitQueue.share, stored]
    exact holds.store stored now size

theorem SplitQueue.withStorage_state {T : Type} (q : SplitQueue D)
    (body : RingStorage D → Except (QueueError SplitQueueError) T × RingStorage D) :
    (q.withStorage body).2.state = q.state := by
  unfold withStorage
  split
  · rfl
  · split <;> rfl

theorem SplitQueue.popAvailable_state (q : SplitQueue D) : q.popAvailable.2.state = q.state := q.withStorage_state _

theorem SplitQueue.complete_state (q : SplitQueue D) (token : SplitDeviceChain D) (used : UInt32) :
    (q.complete token used).2.state = q.state := by
  unfold complete
  iterate 4
    split
    · rfl
  · exact q.withStorage_state _

namespace SplitQueue.Session
variable {session : Session D} {ideal : Ideal D}

/-- The device writes through a token of this epoch. -/
def write (self : Session D) (index : Nat) (data : D) : Session D :=
  match self.tokens[index]? with
  | none => self
  | some token =>
    if token.id.epoch = self.queue.state.epoch then
      ⟨self.queue.share token.id data, self.tokens.set index { token with data }⟩
    else self

theorem write_state (session : Session D) (index : Nat) (data : D) :
    (session.write index data).queue.state = session.queue.state := by
  unfold write
  split
  · rfl
  split
  · rfl
  · rfl

theorem complete_state (session : Session D) (index : Nat) (used : UInt32) :
    (session.complete index used).2.queue.state = session.queue.state := by
  unfold complete
  split
  · rfl
  · exact SplitQueue.complete_state ..

/-- What a write leaves as it was, under any name for chains that writing keeps. -/
theorem Sound.write {κ : Type} {key : D → κ} (sound : Sound session ideal) {index : Nat}
    (same : ∀ token, session.tokens[index]? = some token →
      ChainShape.descriptorCount data = ChainShape.descriptorCount token.data ∧ key data = key token.data) :
    ∃ ideal', Sound (session.write index data) ideal' ∧
      ideal'.held.map (fun x => (x.1, key x.2.1)) = ideal.held.map (fun x => (x.1, key x.2.1)) := by
  unfold Session.write
  split
  · exact ⟨ideal, sound, rfl⟩
  rename_i token found
  split
  swap
  · exact ⟨ideal, sound, rfl⟩
  rename_i epoch
  obtain ⟨count, named⟩ := same token found
  obtain ⟨inside, atIndex⟩ := List.getElem?_eq_some_iff.mp found
  have before : session.tokens.Perm (token :: session.tokens.eraseIdx index) := by
    rw [← atIndex]
    exact (getElem_cons_eraseIdx_perm inside).symm
  have after := set_perm_cons_eraseIdx inside { token with data }
  have live := ((before.filter _).map _).symm.subperm.trans sound.live
  rw [filter_cons_of_pos (by simpa using epoch), map_cons] at live
  obtain ⟨waiting, taken, finished⟩ := ideal
  obtain ⟨⟨id, data₀, head⟩, member, entry⟩ := mem_map.mp (live.subset mem_cons_self)
  obtain ⟨rfl, rfl⟩ := Prod.mk.inj entry
  obtain ⟨earlier, later, rfl⟩ := append_of_mem member
  refine ⟨⟨waiting, earlier ++ (token.id, data, head) :: later, finished⟩, ⟨sound.rep.share count, ?_, ?_⟩, ?_⟩
  · intro other among
    rcases mem_cons.mp (after.mem_iff.mp among) with rfl | old
    · exact sound.past token (mem_of_getElem? found)
    · exact sound.past other (mem_of_mem_eraseIdx old)
  · -- The token and the chain it is for change together; the rest is as before.
    refine ((after.filter _).map _).subperm.trans ?_
    change ((filter (fun token : SplitDeviceChain D => token.id.epoch = session.queue.state.epoch) _).map
      _).Subperm _
    rw [filter_cons_of_pos (by simpa using epoch), map_cons, map_append, map_cons,
      perm_middle.subperm_left, subperm_cons]
    rw [map_append, map_cons, perm_middle.subperm_left, subperm_cons] at live
    exact live
  · simp [Handover.held, named]

end SplitQueue.Session

end VirtioAccel
