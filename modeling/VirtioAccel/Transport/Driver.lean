import VirtioAccel.Library.Overwrite
import Mathlib.Data.UInt

/-! The driver's side of the transport: the chains it fills and the queue it
publishes them to. -/

namespace VirtioAccel

/-- The life of a queue from one reset to the next. -/
@[ext]
structure QueueEpoch where
  value : UInt64
  nonzero : value ≠ 0

instance : DecidableEq QueueEpoch := fun a b => decidable_of_iff (a.value = b.value) QueueEpoch.ext_iff.symm

theorem QueueEpoch.one_nonzero : (1 : UInt64) ≠ 0 := by decide

/-- A chain, within one epoch. -/
structure ChainId where
  epoch : QueueEpoch
  token : UInt64
  deriving DecidableEq

inductive ByteAccessError where
  | outOfBounds | busy | reset | access
  deriving DecidableEq

/-- Stable bytes of the caller. A read may fail, and is exact when it does not. -/
structure ReadableBytes where
  bytes : List UInt8
  small : bytes.length < 2 ^ 64
  readAt : UInt64 → Nat → Except ByteAccessError (List UInt8)
  reads : ∀ {offset n found}, readAt offset n = .ok found → offset.toNat + n ≤ bytes.length →
    found = (bytes.drop offset.toNat).take n
  asContiguous : Option (List UInt8)
  whole : ∀ {found}, asContiguous = some found → found = bytes

namespace ReadableBytes

def len (self : ReadableBytes) : UInt64 := UInt64.ofNat self.bytes.length

theorem toNat_len (self : ReadableBytes) : self.len.toNat = self.bytes.length := by
  rw [len, UInt64.toNat_ofNat_of_lt' self.small]

/-- A byte slice of the caller. -/
def slice (bytes : List UInt8) (small : bytes.length < 2 ^ 64) : ReadableBytes where
  bytes := bytes
  small := small
  readAt offset n :=
    if bytes.length < offset.toNat + n then .error .outOfBounds else .ok ((bytes.drop offset.toNat).take n)
  reads {offset n found} read within := by
    rw [if_neg (Nat.not_lt.mpr within)] at read
    exact (Except.ok.inj read).symm
  asContiguous := some bytes
  whole {found} same := (Option.some.inj same).symm

end ReadableBytes

/-- Driver-owned byte access to one unpublished or reclaimed chain. -/
class DriverChainBuffer (χ : Type) (ε : outParam Type) where
  deviceReadableLen : χ → UInt64
  deviceWritableLen : χ → UInt64
  writeDeviceReadable : χ → UInt64 → List UInt8 → Except ε Unit × χ
  readDeviceWritable : χ → UInt64 → Nat → Except ε (List UInt8)

/-- A chain over definite bytes: a write that succeeds has written its whole
range, and the bytes the device wrote can be read back. -/
class DriverChainBytes (χ : Type) (ε : outParam Type) extends DriverChainBuffer χ ε where
  readable : χ → List UInt8
  writable : χ → List UInt8
  readable_length : ∀ chain, (readable chain).length = (deviceReadableLen chain).toNat
  writable_length : ∀ chain, (writable chain).length = (deviceWritableLen chain).toNat
  written : ∀ {chain chain' offset data}, writeDeviceReadable chain offset data = (.ok (), chain') →
    offset.toNat + data.length ≤ (readable chain).length ∧
      readable chain' = (readable chain).overwrite offset.toNat data ∧ writable chain' = writable chain
  reads : ∀ chain offset n, offset.toNat + n ≤ (writable chain).length →
    readDeviceWritable chain offset n = .ok (((writable chain).drop offset.toNat).take n)

/-- A chain that the used ring gives back. -/
structure UsedChain (χ : Type) where
  id : ChainId
  used : UInt32
  chain : χ

/-- Why a chain is not published. -/
inductive PublishErrorKind (θ : Type) where
  | notReady | queueFull | insufficientDescriptors
  | resetRace (operation current : QueueEpoch)
  | transport (error : θ)

/-- Publication hands the chain over, or gives it back unpublished. -/
class DriverQueue (Q : Type) (χ θ : outParam Type) where
  epoch : Q → QueueEpoch
  publish : Q → χ → Except (χ × PublishErrorKind θ) ChainId × Q

end VirtioAccel
