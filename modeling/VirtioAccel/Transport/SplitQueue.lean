import VirtioAccel.Transport.Queue

/-! The in-memory split virtqueue: a descriptor table, an available ring and a
used ring over one table of owned chains. -/

namespace VirtioAccel
open Checked (refuseIf)

/-- The shared part of a chain: its descriptors and what their analysis said. -/
class ChainShape (D : Type) where
  descriptorCount : D → UInt16
  validation : D → Except MalformedChain ChainLayout
  nonempty : ∀ data, descriptorCount data ≠ 0

/-- A chain of the driver. Its slots are the queue's: where its descriptors stand in the table. -/
structure DriverChain (D : Type) [ChainShape D] where
  data : D
  slots : List UInt16
  head : UInt16
  sized : slots.length = (ChainShape.descriptorCount data).toNat

namespace DriverChain
variable {D : Type} [ChainShape D]

def descriptorCount (self : DriverChain D) : UInt16 := ChainShape.descriptorCount self.data

def validation (self : DriverChain D) : Except MalformedChain ChainLayout := ChainShape.validation self.data

def setSlot (self : DriverChain D) (index : Nat) (slot : UInt16) : DriverChain D where
  data := self.data
  slots := self.slots.set index slot
  head := self.head
  sized := by rw [List.length_set, self.sized]

theorem slots_ne_nil (self : DriverChain D) : self.slots ≠ [] := by
  intro empty
  have none := self.sized
  rw [empty] at none
  exact ChainShape.nonempty self.data (UInt16.toNat_inj.mp none.symm)

/-- The slot of the local head, or the first one when a raw chain names none. -/
def queueHeadSlot (self : DriverChain D) : UInt16 :=
  (self.slots[self.head.toNat]?).getD (self.slots.head self.slots_ne_nil)

end DriverChain

inductive SplitQueueInitError where
  | descriptorLimit
  deriving DecidableEq

inductive SplitQueueError where
  | allocationFailed | busy | chainLimitExceedsQueue
  | malformedDriverChain (error : MalformedChain)
  | invalidTestState | corruptState
  deriving DecidableEq

/-- The chain that a descriptor belongs to. -/
structure DescriptorOwner where
  head : UInt16
  localIndex : UInt16
  deriving DecidableEq

/-- Where a chain is between its publication and its return. -/
inductive ChainState where
  | available | inFlight | used
  deriving DecidableEq

/-- A chain that the queue holds. -/
structure ChainRecord (D : Type) [ChainShape D] where
  id : ChainId
  state : ChainState
  chain : DriverChain D

/-- An entry of the used ring. -/
structure UsedElement where
  head : UInt16
  id : ChainId
  used : UInt32
  deriving DecidableEq

/-- The descriptor table, the two rings and the chains on them. -/
structure RingStorage (D : Type) [ChainShape D] where
  size : QueueSize
  descriptors : List (Option DescriptorOwner)
  records : List (Option (ChainRecord D))
  available : List UInt16
  used : List (Option UsedElement)
  availableIndex : UInt16
  consumedAvailable : UInt16
  usedIndex : UInt16
  consumedUsed : UInt16
  availableCount : UInt16
  usedCount : UInt16
  activeChains : UInt16
  freeDescriptors : UInt16
  nextDescriptor : UInt16

/-- The entry of a table of optional entries; one past its end is none. -/
def entryAt {α : Type} (table : List (Option α)) (slot : UInt16) : Option α := (table[slot.toNat]?).join

namespace RingStorage
variable {D : Type} [ChainShape D] (self : RingStorage D)

/-- `reserve` is the allocator's answer for the four tables. -/
def new (reserve : Bool) (size : QueueSize) : Except SplitQueueError (RingStorage D) := do
  refuseIf (reserve = false) .allocationFailed
  return {
    size
    descriptors := List.replicate size.value.toNat none
    records := List.replicate size.value.toNat none
    available := List.replicate size.value.toNat 0
    used := List.replicate size.value.toNat none
    availableIndex := 0
    consumedAvailable := 0
    usedIndex := 0
    consumedUsed := 0
    availableCount := 0
    usedCount := 0
    activeChains := 0
    freeDescriptors := size.value
    nextDescriptor := 0 }

def record (head : UInt16) : Option (ChainRecord D) := entryAt self.records head

def setRecord (head : UInt16) (record : Option (ChainRecord D)) : RingStorage D :=
  { self with records := self.records.set head.toNat record }

def owner (slot : UInt16) : Option DescriptorOwner := entryAt self.descriptors slot

def setOwner (slot : UInt16) (owner : Option DescriptorOwner) : RingStorage D :=
  { self with descriptors := self.descriptors.set slot.toNat owner }

def ringSlot (index : UInt16) : Nat := (index &&& (self.size.value - 1)).toNat

def wrappingDescriptorAdd (index amount : UInt16) : UInt16 :=
  (index + amount) &&& (self.size.value - 1)

/-- The scan for a free descriptor; it gives up once it has seen every slot. -/
def findFree (self : RingStorage D) : Nat → UInt16 → Option UInt16
  | 0, _ => none
  | left + 1, cursor =>
    if (self.owner cursor).isSome then findFree self left (self.wrappingDescriptorAdd cursor 1) else some cursor

def rollbackAllocation (chain : DriverChain D) (allocated : Nat) : RingStorage D :=
  (chain.slots.take allocated).foldl (fun storage slot => storage.setOwner slot none) self

/-- The loop that takes one descriptor after the other; `left` are still to come. -/
def takeDescriptors (self : RingStorage D) (chain : DriverChain D) (cursor : UInt16) :
    (left allocated : Nat) → Except SplitQueueError UInt16 × RingStorage D × DriverChain D
  | 0, _ => (.ok cursor, self, chain)
  | left + 1, allocated =>
    match self.findFree self.size.value.toNat cursor with
    | none => (.error .corruptState, self.rollbackAllocation chain allocated, chain)
    | some slot =>
      takeDescriptors (self.setOwner slot (some ⟨0, UInt16.ofNat allocated⟩)) (chain.setSlot allocated slot)
        (self.wrappingDescriptorAdd slot 1) left (allocated + 1)

/-- The loop that names the head to every descriptor of the chain. -/
def nameHead (self : RingStorage D) (head : UInt16) : List UInt16 → Except SplitQueueError Unit × RingStorage D
  | [] => (.ok (), self)
  | slot :: rest =>
    match self.owner slot with
    | none => (.error .corruptState, self)
    | some owner => nameHead (self.setOwner slot (some { owner with head })) head rest

def allocateDescriptors (chain : DriverChain D) : Except SplitQueueError UInt16 × RingStorage D × DriverChain D :=
  let count := chain.descriptorCount
  if self.freeDescriptors < count then (.error .corruptState, self, chain)
  else match self.takeDescriptors chain self.nextDescriptor count.toNat 0 with
    | (.error error, storage, chain) => (.error error, storage, chain)
    | (.ok cursor, storage, chain) =>
      let head := chain.queueHeadSlot
      match storage.nameHead head chain.slots with
      | (.error error, storage) => (.error error, storage, chain)
      | (.ok (), storage) =>
        (.ok head, { storage with
          nextDescriptor := cursor
          freeDescriptors := storage.freeDescriptors - count }, chain)

def releaseDescriptor (slot : UInt16) : RingStorage D :=
  match self.owner slot with
  | none => self
  | some _ => { self.setOwner slot none with freeDescriptors := self.freeDescriptors + 1 }

def releaseDescriptors (chain : DriverChain D) : RingStorage D :=
  chain.slots.foldl releaseDescriptor self

end RingStorage

/-- The device's token for a chain it took: used up by its completion. -/
structure SplitDeviceChain (D : Type) where
  id : ChainId
  data : D
  maxDescriptors : UInt16

def SplitDeviceChain.writableCapacity {D : Type} [ChainShape D] (self : SplitDeviceChain D) : UInt64 :=
  match ChainShape.validation self.data with
  | .ok layout => layout.writableBytes
  | .error _ => 0

/-- The queue; it has storage once it is configured. -/
structure SplitQueue (D : Type) [ChainShape D] where
  state : QueueState
  maxChainDescriptors : UInt16
  currentEpoch : UInt64
  storage : Option (RingStorage D)
  availableNotifications : Bool
  usedNotifications : Bool

namespace SplitQueue
variable {D : Type} [ChainShape D] (self : SplitQueue D)

abbrev Result (D : Type) [ChainShape D] (T : Type) := Except (QueueError SplitQueueError) T × SplitQueue D

def new (maxSize : QueueSize) (maxChainDescriptors : UInt16) : Except SplitQueueInitError (SplitQueue D) :=
  if maxChainDescriptors < 2 ∨ maxSize.value < maxChainDescriptors then .error .descriptorLimit
  else .ok {
    state := .unconfigured maxSize .initial
    maxChainDescriptors
    currentEpoch := QueueEpoch.initial.value
    storage := none
    availableNotifications := true
    usedNotifications := true }

def hint (notifications : Bool) : NotificationHint := if notifications then .notify else .suppressed

/-- The chain is in the table under its head, and at the end of the available ring. -/
def enqueue (storage : RingStorage D) (head : UInt16) (id : ChainId) (chain : DriverChain D) : RingStorage D :=
  let storage := storage.setRecord head (some ⟨id, .available, chain⟩)
  { storage with
    available := storage.available.set (storage.ringSlot storage.availableIndex) head
    availableIndex := storage.availableIndex + 1
    availableCount := storage.availableCount + 1
    activeChains := storage.activeChains + 1 }

/-- What `publish` checks of a chain that is not injected raw. -/
def checkChain (chain : DriverChain D) : Except (PublishErrorKind SplitQueueError) Unit :=
  match chain.validation with
  | .error error => .error (.transport (.malformedDriverChain error))
  | .ok _ => if self.maxChainDescriptors < chain.descriptorCount then .error .insufficientDescriptors else .ok ()

def publishInner (chain : DriverChain D) (injectMalformed : Bool) :
    Except (DriverChain D × PublishErrorKind SplitQueueError) PublishedChain × SplitQueue D :=
  if ¬ self.state.ready then (.error (chain, .notReady), self)
  else match (if injectMalformed then .ok () else self.checkChain chain) with
    | .error kind => (.error (chain, kind), self)
    | .ok () =>
      match self.storage with
      | none => (.error (chain, .transport .corruptState), self)
      | some storage =>
        if storage.availableCount = storage.size.value then (.error (chain, .queueFull), self)
        else if storage.freeDescriptors < chain.descriptorCount then
          (.error (chain, .insufficientDescriptors), self)
        else match storage.allocateDescriptors chain with
          | (.error error, storage, chain) =>
            (.error (chain, .transport error), { self with storage := some storage })
          | (.ok head, storage, chain) =>
            if (storage.record head).isSome then
              (.error (chain, .transport .corruptState),
                { self with storage := some (storage.releaseDescriptors chain) })
            else
              let id : ChainId := ⟨self.state.epoch, head.toUInt64⟩
              (.ok ⟨id, hint self.availableNotifications⟩,
                { self with storage := some (enqueue storage head id chain) })

def publish (chain : DriverChain D) := self.publishInner chain false
def injectAvailable (chain : DriverChain D) := self.publishInner chain true

def advanceEpoch (nextEpoch : QueueEpoch) : Result D (Option (RingStorage D)) :=
  if nextEpoch.value ≤ self.state.epoch.value then (.error (.invalidConfiguration .nonIncreasingEpoch), self)
  else (.ok self.storage, { self with
    state := .unconfigured self.state.maxSize nextEpoch
    currentEpoch := nextEpoch.value
    storage := none
    availableNotifications := true
    usedNotifications := true })

def configure (reserve : Bool) (size : QueueSize) : Result D Unit :=
  if self.state.ready then (.error (.transport .busy), self)
  else if self.state.maxSize.value < size.value then (.error (.invalidConfiguration .sizeExceedsMaximum), self)
  else if size.value < self.maxChainDescriptors then (.error (.transport .chainLimitExceedsQueue), self)
  else if self.storage.any (fun storage => storage.activeChains ≠ 0) then (.error (.transport .busy), self)
  else match RingStorage.new reserve size with
    | .error error => (.error (.transport error), self)
    | .ok storage =>
      match QueueState.new self.state.maxSize (some size) false self.state.epoch with
      | .error error => (.error (.invalidConfiguration error), self)
      | .ok state => (.ok (), { self with state, storage := some storage })

def setReady (ready : Bool) : Result D Unit :=
  match QueueState.new self.state.maxSize self.state.size ready self.state.epoch with
  | .error error => (.error (.invalidConfiguration error), self)
  | .ok state => (.ok (), { self with state })

/-- An operation that needs a ready queue and its storage. -/
def withStorage {T : Type} (self : SplitQueue D)
    (body : RingStorage D → Except (QueueError SplitQueueError) T × RingStorage D) : Result D T :=
  if ¬ self.state.ready then (.error .notReady, self)
  else match self.storage with
    | none => (.error .notReady, self)
    | some storage => ((body storage).1, { self with storage := some (body storage).2 })

def popUsed : Result D (Option (UsedChain (DriverChain D))) :=
  self.withStorage fun storage =>
    if storage.usedCount = 0 then (.ok none, storage)
    else
      let ringSlot := storage.ringSlot storage.consumedUsed
      match (storage.used[ringSlot]?).join with
      | none => (.error (.transport .corruptState), storage)
      | some used =>
        -- Taken out of the ring and of the table, and put back on the failures.
        match storage.record used.head with
        | none => (.error (.transport .corruptState), storage)
        | some record =>
          if record.id ≠ used.id ∨ record.state ≠ .used then (.error (.transport .corruptState), storage)
          else
            let storage := { storage.setRecord used.head none with used := storage.used.set ringSlot none }
            let storage := storage.releaseDescriptors record.chain
            (.ok (some ⟨record.id, used.used, record.chain⟩), { storage with
                consumedUsed := storage.consumedUsed + 1
                usedCount := storage.usedCount - 1
                activeChains := storage.activeChains - 1 })

def popAvailable : Result D (Option (SplitDeviceChain D)) :=
  self.withStorage fun storage =>
    if storage.availableCount = 0 then (.ok none, storage)
    else
      let head := (storage.available[storage.ringSlot storage.consumedAvailable]?).getD 0
      match storage.record head with
      | none => (.error (.transport .corruptState), storage)
      | some record =>
        if record.id.epoch ≠ self.state.epoch ∨ record.state ≠ .available then
          (.error (.transport .corruptState), storage)
        else
          let storage := storage.setRecord head (some { record with state := .inFlight })
          (.ok (some ⟨record.id, record.chain.data, self.maxChainDescriptors⟩), { storage with
              consumedAvailable := storage.consumedAvailable + 1
              availableCount := storage.availableCount - 1 })

/-- The used ring gets the completed chain, whose record stays until the driver takes it. -/
def finish (storage : RingStorage D) (head : UInt16) (record : ChainRecord D) (used : UInt32) : RingStorage D :=
  let storage := storage.setRecord head (some { record with state := .used })
  { storage with
    used := storage.used.set (storage.ringSlot storage.usedIndex) (some ⟨head, record.id, used⟩)
    usedIndex := storage.usedIndex + 1
    usedCount := storage.usedCount + 1 }

/-- The token is used up, whatever comes of it. -/
def complete (chain : SplitDeviceChain D) (used : UInt32) : Result D NotificationHint :=
  if chain.id.epoch ≠ self.state.epoch then (.error (.resetRace chain.id.epoch self.state.epoch), self)
  else if ¬ self.state.ready then (.error .notReady, self)
  else if chain.writableCapacity < used.toUInt64 then
    (.error (.usedLengthExceeded used chain.writableCapacity), self)
  else if 2 ^ 16 ≤ chain.id.token.toNat then (.error (.transport .corruptState), self)
  else self.withStorage fun storage =>
    let head := chain.id.token.toUInt16
    match storage.record head with
    | none => (.error (.transport .corruptState), storage)
    | some record =>
      if record.id ≠ chain.id ∨ record.state ≠ .inFlight then (.error (.transport .corruptState), storage)
      else if storage.usedCount = storage.size.value then (.error (.transport .corruptState), storage)
      else (.ok (hint self.usedNotifications), finish storage head record used)

def disableUsedNotifications : Result D Unit :=
  if ¬ self.state.ready then (.error .notReady, self) else (.ok (), { self with usedNotifications := false })

def disableAvailableNotifications : Result D Unit :=
  if ¬ self.state.ready then (.error .notReady, self) else (.ok (), { self with availableNotifications := false })

def recheck (count : UInt16) : NotificationRecheck := if count = 0 then .idle else .workPending

def enableUsedNotifications : Result D NotificationRecheck :=
  if ¬ self.state.ready then (.error .notReady, self)
  else { self with usedNotifications := true }.withStorage fun storage => (.ok (recheck storage.usedCount), storage)

def enableAvailableNotifications : Result D NotificationRecheck :=
  if ¬ self.state.ready then (.error .notReady, self)
  else { self with availableNotifications := true }.withStorage fun storage =>
    (.ok (recheck storage.availableCount), storage)

/-- The chains still recorded, in the order of the table. -/
def reclaimed (storage : RingStorage D) : List (ReclaimedChain (DriverChain D)) :=
  storage.records.reduceOption.map (fun record => ⟨record.id, record.chain⟩)

def driverReset (nextEpoch : QueueEpoch) : Result D (List (ReclaimedChain (DriverChain D))) :=
  let advanced := self.advanceEpoch nextEpoch
  (advanced.1.map (fun storage => storage.elim [] reclaimed), advanced.2)

def deviceReset (nextEpoch : QueueEpoch) : Result D Unit :=
  let advanced := self.advanceEpoch nextEpoch
  (advanced.1.map (fun _ => ()), advanced.2)

end SplitQueue

end VirtioAccel
