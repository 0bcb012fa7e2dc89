import VirtioAccel.Library.Overwrite
import VirtioAccel.Core.Types

/-! Bounded byte ports. -/

namespace VirtioAccel
open List

/-- A readable port; a successful read fills its whole target. -/
structure ByteSource where
  len : UInt64
  readAt : UInt64 → Nat → Except BackendError (List UInt8)
  fills : ∀ {offset n bytes}, readAt offset n = .ok bytes → bytes.length = n

/-- A writable port: its state, and what a write answers and leaves behind. -/
class ByteSink (σ : Type) where
  len : σ → UInt64
  writeAt : σ → UInt64 → List UInt8 → Except BackendError Unit × σ

/-- A port over definite bytes that a write changes within its own range only. -/
class FramedSink (σ : Type) extends ByteSink σ where
  bytes : σ → List UInt8
  bytes_length : ∀ s, (bytes s).length = (len s).toNat
  len_writeAt : ∀ s offset data, len (writeAt s offset data).2 = len s
  outside : ∀ s offset data (i : Nat), i < offset.toNat ∨ offset.toNat + data.length ≤ i →
    (bytes (writeAt s offset data).2)[i]? = (bytes s)[i]?

/-- A port that may refuse a write, and has made those it does not refuse. -/
class HonestSink (σ : Type) extends FramedSink σ where
  written : ∀ s offset data, offset.toNat + data.length ≤ (len s).toNat → (writeAt s offset data).1 = .ok () →
    bytes (writeAt s offset data).2 = (bytes s).overwrite offset.toNat data

/-- A port whose in-range writes succeed. -/
class ReliableSink (σ : Type) extends FramedSink σ where
  writes : ∀ s offset data, offset.toNat + data.length ≤ (len s).toNat →
    (writeAt s offset data).1 = .ok () ∧ bytes (writeAt s offset data).2 = (bytes s).overwrite offset.toNat data

instance {σ : Type} [ReliableSink σ] : HonestSink σ where
  written s offset data within _ := (ReliableSink.writes s offset data within).2

/-- `checked_range`: the range ends within the port. -/
def checkedRange (offset : UInt64) (bytes : Nat) (len : UInt64) : Except BackendError Unit :=
  if len.toNat < offset.toNat + bytes then .error .outOfBounds else .ok ()

namespace ByteSource
variable {bytes : List UInt8} {len : UInt64}

/-- The port holds exactly these bytes. -/
structure Serves (source : ByteSource) (bytes : List UInt8) : Prop where
  length : source.len.toNat = bytes.length
  reads : ∀ (offset : UInt64) (n : Nat), offset.toNat + n ≤ bytes.length →
    source.readAt offset n = .ok ((bytes.drop offset.toNat).take n)

/-- `ReadableRegion`, a bounded view of another source. -/
def region (source : ByteSource) (start len : UInt64) : ByteSource where
  len := len
  readAt offset n :=
    match checkedRange offset n len with
    | .error error => .error error
    | .ok () =>
      if 2 ^ 64 ≤ start.toNat + offset.toNat then .error .outOfBounds else source.readAt (start + offset) n
  fills {offset n bytes} read := by
    split at read
    · cases read
    split at read
    · cases read
    · exact source.fills read

def readableRegion (source : ByteSource) (start len : UInt64) : Except BackendError ByteSource :=
  (checkedRange start len.toNat source.len).map (fun _ => source.region start len)

theorem checkedRange_eq_ok {offset : UInt64} {bytes : Nat} :
    checkedRange offset bytes len = .ok () ↔ offset.toNat + bytes ≤ len.toNat := by
  unfold checkedRange
  split
  · simp
    omega
  simp
  omega

theorem Serves.region {source : ByteSource} (serves : source.Serves bytes) {start : UInt64}
    (fits : start.toNat + len.toNat ≤ bytes.length) :
    source.readableRegion start len = .ok (source.region start len) ∧
      (source.region start len).Serves ((bytes.drop start.toNat).take len.toNat) := by
  have bound := source.len.toNat_lt
  rw [serves.length] at bound
  refine ⟨?_, ?_, ?_⟩
  · rw [readableRegion, checkedRange_eq_ok.mpr (by rw [serves.length]; exact fits)]
    rfl
  · simp [ByteSource.region]
    omega
  intro offset n within
  simp only [length_take] at within
  have small : start.toNat + offset.toNat < 2 ^ 64 := by omega
  have sum : (start + offset).toNat = start.toNat + offset.toNat := by
    rw [UInt64.toNat_add, Nat.mod_eq_of_lt small]
  simp only [ByteSource.region, checkedRange_eq_ok.mpr (show offset.toNat + n ≤ len.toNat by omega)]
  rw [if_neg (by omega), serves.reads (start + offset) n (by omega), sum, drop_take, drop_drop,
    take_take, Nat.min_eq_left (by omega)]

/-- A byte slice. -/
def slice (bytes : List UInt8) : ByteSource where
  len := UInt64.ofNat bytes.length
  readAt offset n :=
    if bytes.length < offset.toNat + n then .error .outOfBounds else .ok ((bytes.drop offset.toNat).take n)
  fills {offset n read} done := by
    split at done
    · cases done
    cases done
    simp only [length_take, length_drop]
    omega

theorem slice_serves (small : bytes.length < 2 ^ 64) : (slice bytes).Serves bytes := by
  refine ⟨?_, fun offset n within => ?_⟩
  · rw [slice, UInt64.toNat_ofNat_of_lt' small]
  · simp only [slice, if_neg (Nat.not_lt.mpr within)]

end ByteSource

/-- A mutable byte slice; an allocation is smaller than the address space. -/
structure SliceSink where
  bytes : List UInt8
  small : bytes.length < 2 ^ 64

instance : ReliableSink SliceSink where
  len sink := UInt64.ofNat sink.bytes.length
  writeAt sink offset data :=
    if within : offset.toNat + data.length ≤ sink.bytes.length then
      (.ok (), ⟨sink.bytes.overwrite offset.toNat data, (length_overwrite within).trans_lt sink.small⟩)
    else (.error .outOfBounds, sink)
  bytes := SliceSink.bytes
  bytes_length sink := by rw [UInt64.toNat_ofNat_of_lt' sink.small]
  len_writeAt sink offset data := by
    split
    · rename_i within
      simp only [length_overwrite within]
    · rfl
  outside sink offset data i away := by
    split
    · rename_i within
      exact getElem?_overwrite_outside within away
    · rfl
  writes sink offset data within := by
    rw [UInt64.toNat_ofNat_of_lt' sink.small] at within
    rw [dif_pos within]
    exact ⟨rfl, rfl⟩

end VirtioAccel
