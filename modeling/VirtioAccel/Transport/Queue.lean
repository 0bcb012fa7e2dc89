import VirtioAccel.Transport.Driver
import VirtioAccel.Transport.Regions

/-! Queue lifecycle: sizes, epochs, the state snapshot and the failures of a queue. -/

namespace VirtioAccel

/-- A nonzero power of two; the largest one of 16 bits is the largest split queue. -/
structure QueueSize where
  value : UInt16
  power : ∃ k, k < 16 ∧ value.toNat = 2 ^ k
  deriving DecidableEq

namespace QueueSize

def new (value : UInt16) : Option QueueSize :=
  if power : ∃ k, k < 16 ∧ value.toNat = 2 ^ k then some ⟨value, power⟩ else none

variable (size : QueueSize)

theorem pos : 0 < size.value.toNat := by
  obtain ⟨k, _, value⟩ := size.power
  rw [value]
  exact Nat.two_pow_pos k

theorem le_max : size.value.toNat ≤ 32768 := by
  obtain ⟨k, small, value⟩ := size.power
  rw [value]
  exact Nat.pow_le_pow_right (n := 2) (by decide) (show k ≤ 15 by omega)

theorem dvd_wrap : size.value.toNat ∣ 2 ^ 16 := by
  obtain ⟨k, small, value⟩ := size.power
  rw [value]
  exact Nat.pow_dvd_pow 2 (by omega)

/-- Masking an index with one less than the size is its remainder. -/
theorem mask (index : UInt16) : (index &&& (size.value - 1)).toNat = index.toNat % size.value.toNat := by
  obtain ⟨k, small, value⟩ := size.power
  have one : (1 : UInt16) ≤ size.value := by
    exact size.pos
  rw [UInt16.toNat_and, UInt16.toNat_sub_of_le _ _ one, value]
  exact Nat.and_two_pow_sub_one_eq_mod index.toNat k

end QueueSize

namespace QueueEpoch

def initial : QueueEpoch := ⟨1, one_nonzero⟩

def new (value : UInt64) : Option QueueEpoch :=
  if nonzero : value ≠ 0 then some ⟨value, nonzero⟩ else none

end QueueEpoch

inductive QueueConfigError where
  | sizeExceedsMaximum | readyWithoutSize | nonIncreasingEpoch
  deriving DecidableEq

/-- Why a queue refuses an operation. -/
inductive QueueError (ε : Type) where
  | notReady
  | invalidConfiguration (error : QueueConfigError)
  | resetRace (operation current : QueueEpoch)
  | usedLengthExceeded (used : UInt32) (capacity : UInt64)
  | transport (error : ε)
  deriving DecidableEq

/-- What the driver has set of a queue. -/
structure QueueState where
  maxSize : QueueSize
  size : Option QueueSize
  ready : Bool
  epoch : QueueEpoch

namespace QueueState

def unconfigured (maxSize : QueueSize) (epoch : QueueEpoch) : QueueState := ⟨maxSize, none, false, epoch⟩

def new (maxSize : QueueSize) (size : Option QueueSize) (ready : Bool) (epoch : QueueEpoch) :
    Except QueueConfigError QueueState :=
  if size.any (fun size => maxSize.value < size.value) then .error .sizeExceedsMaximum
  else if ready && size.isNone then .error .readyWithoutSize
  else .ok ⟨maxSize, size, ready, epoch⟩

end QueueState

/-- What is wrong with a chain. -/
inductive MalformedChain where
  | descriptorLoop | descriptorIndex | descriptorFlags | descriptorCount | zeroLength | direction | lengthOverflow
  | portLengthMismatch | indirectUnsupported | indirectMalformed | address
  deriving DecidableEq

inductive NotificationHint where
  | suppressed | notify
  deriving DecidableEq

/-- Whether something came while notifications were turned on. -/
inductive NotificationRecheck where
  | idle | workPending
  deriving DecidableEq

structure PublishedChain where
  id : ChainId
  notification : NotificationHint
  deriving DecidableEq

structure ReclaimedChain (χ : Type) where
  id : ChainId
  chain : χ

end VirtioAccel
