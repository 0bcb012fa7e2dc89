import VirtioAccel.Core.Ports
import Mathlib.Algebra.Order.Group.Nat

/-! Byte ports over the segments of a descriptor chain. -/

namespace VirtioAccel
open List
variable {segments : List (List UInt8)} {skip : Nat}
variable {data : List UInt8} {total : UInt64} {wanted : Nat}

inductive SegmentedRegionError where
  | empty | zeroLength | lengthOverflow
  deriving DecidableEq

/-- The loop of `checked_segment_len`. -/
def addSegmentLen (total : UInt64) (segment : List UInt8) : Except SegmentedRegionError UInt64 :=
  if segment.length = 0 then .error .zeroLength
  else if 2 ^ 64 ≤ total.toNat + segment.length then .error .lengthOverflow
  else .ok (total + UInt64.ofNat segment.length)

def checkedSegmentLen (segments : List (List UInt8)) : Except SegmentedRegionError UInt64 :=
  match segments.foldlM addSegmentLen 0 with
  | .error error => .error error
  | .ok total => if segments.length = 0 then .error .empty else .ok total

theorem foldlM_addSegmentLen {start : UInt64} (summed : segments.foldlM addSegmentLen start = .ok total) :
    total.toNat = start.toNat + segments.flatten.length := by
  induction segments generalizing start with
  | nil =>
    cases summed
    rfl
  | cons segment rest ih =>
    rw [foldlM_cons] at summed
    unfold addSegmentLen at summed
    split at summed
    · cases summed
    split at summed
    · cases summed
    rename_i room
    have step : (start + UInt64.ofNat segment.length).toNat = start.toNat + segment.length := by
      rw [UInt64.toNat_add, UInt64.toNat_ofNat_of_lt' (show segment.length < 2 ^ 64 by omega),
        Nat.mod_eq_of_lt (by omega)]
    rw [ih summed, step, flatten_cons, length_append, Nat.add_assoc]

theorem checkedSegmentLen_exact (summed : checkedSegmentLen segments = .ok total) :
    total.toNat = segments.flatten.length := by
  unfold checkedSegmentLen at summed
  split at summed
  · cases summed
  rename_i found
  split at summed
  · cases summed
  cases summed
  rw [foldlM_addSegmentLen found, UInt64.toNat_zero, Nat.zero_add]

/-- The copy loop of a read: `skip` bytes are passed over, then `wanted` bytes are taken. -/
def readSegments : List (List UInt8) → Nat → Nat → Except BackendError (List UInt8)
  | [], _, _ => .error .outOfBounds
  | segment :: rest, skip, wanted =>
    if segment.length ≤ skip then readSegments rest (skip - segment.length) wanted
    else
      let count := min (segment.length - skip) wanted
      let copied := (segment.drop skip).take count
      if count = wanted then .ok copied
      else (readSegments rest 0 (wanted - count)).map (fun more => copied ++ more)

theorem readSegments_length {bytes : List UInt8} (read : readSegments segments skip wanted = .ok bytes) :
    bytes.length = wanted := by
  induction segments generalizing skip wanted bytes with
  | nil => cases read
  | cons segment rest ih =>
    unfold readSegments at read
    split at read
    · exact ih read
    simp only at read
    split at read
    · cases read
      simp only [length_take, length_drop]
      omega
    cases more : readSegments rest 0 (wanted - min (segment.length - skip) wanted) with
    | error error =>
      rw [more] at read
      cases read
    | ok tail =>
      rw [more] at read
      cases read
      rw [length_append, ih more, length_take, length_drop]
      omega

/-- Within its bounds the loop reads the segments as one string. -/
theorem readSegments_flatten (some : wanted ≠ 0) (within : skip + wanted ≤ segments.flatten.length) :
    readSegments segments skip wanted = .ok ((segments.flatten.drop skip).take wanted) := by
  induction segments generalizing skip wanted with
  | nil =>
    rw [flatten_nil, length_nil] at within
    omega
  | cons segment rest ih =>
    rw [flatten_cons, length_append] at within
    unfold readSegments
    rw [flatten_cons, drop_append]
    by_cases past : segment.length ≤ skip
    · rw [if_pos past, ih some (by omega), drop_of_length_le past, nil_append]
    have none : skip - segment.length = 0 := by omega
    rw [if_neg past, none, drop_zero, take_append, length_drop]
    simp only
    by_cases whole : wanted ≤ segment.length - skip
    · rw [Nat.min_eq_right whole, if_pos rfl, Nat.sub_eq_zero_of_le whole, take_zero, append_nil]
    rw [Nat.min_eq_left (by omega), if_neg (by omega), ih (by omega) (by omega), drop_zero,
      take_of_length_le (l := segment.drop skip) (by simp only [length_drop]; omega),
      take_of_length_le (l := segment.drop skip) (by simp only [length_drop]; omega)]
    rfl

/-- Bytes in parts, read as one region. -/
structure SegmentedSource where
  segments : List (List UInt8)
  len : UInt64
  len_exact : len.toNat = segments.flatten.length

namespace SegmentedSource

def new (segments : List (List UInt8)) : Except SegmentedRegionError SegmentedSource :=
  match summed : checkedSegmentLen segments with
  | .error error => .error error
  | .ok len => .ok ⟨segments, len, checkedSegmentLen_exact summed⟩

def toByteSource (self : SegmentedSource) : ByteSource where
  len := self.len
  readAt offset n :=
    match checkedRange offset n self.len with
    | .error error => .error error
    | .ok () => if n = 0 then .ok [] else readSegments self.segments offset.toNat n
  fills {offset n bytes} read := by
    split at read
    · cases read
    split at read
    · rename_i none
      cases read
      exact none.symm
    · exact readSegments_length read

/-- A chain is read as if its segments were one string. -/
theorem serves (self : SegmentedSource) : self.toByteSource.Serves self.segments.flatten := by
  refine ⟨self.len_exact, fun offset n within => ?_⟩
  simp only [toByteSource, ByteSource.checkedRange_eq_ok.mpr (show offset.toNat + n ≤ self.len.toNat by
    rw [self.len_exact]; exact within)]
  by_cases none : n = 0
  · rw [if_pos none, none, take_zero]
  · rw [if_neg none, readSegments_flatten none within]

end SegmentedSource

/-- The copy loop of a write. -/
def writeSegments : List (List UInt8) → Nat → List UInt8 → Except BackendError Unit × List (List UInt8)
  | [], _, _ => (.error .outOfBounds, [])
  | segment :: rest, skip, data =>
    if segment.length ≤ skip then
      let written := writeSegments rest (skip - segment.length) data
      (written.1, segment :: written.2)
    else
      let count := min (segment.length - skip) data.length
      let changed := segment.overwrite skip (data.take count)
      if count = data.length then (.ok (), changed :: rest)
      else
        let written := writeSegments rest 0 (data.drop count)
        (written.1, changed :: written.2)

/-- Within its bounds the loop writes the segments as one string. -/
theorem writeSegments_flatten (some : data ≠ []) (within : skip + data.length ≤ segments.flatten.length) :
    (writeSegments segments skip data).1 = .ok () ∧
      (writeSegments segments skip data).2.flatten = segments.flatten.overwrite skip data := by
  have positive := length_pos_iff.mpr some
  induction segments generalizing skip data with
  | nil =>
    rw [flatten_nil, length_nil] at within
    omega
  | cons segment rest ih =>
    rw [flatten_cons, length_append] at within
    unfold writeSegments
    rw [flatten_cons]
    by_cases past : segment.length ≤ skip
    · obtain ⟨done, bytes⟩ := @ih (skip - segment.length) data some (by omega) positive
      rw [if_pos past, overwrite_append_right past]
      exact ⟨done, by rw [flatten_cons, bytes]⟩
    rw [if_neg past]
    by_cases whole : data.length ≤ segment.length - skip
    · rw [Nat.min_eq_right whole, if_pos rfl, take_length, overwrite_append_left (by omega)]
      exact ⟨rfl, rfl⟩
    have left : (data.drop (segment.length - skip)).length = data.length - (segment.length - skip) := length_drop
    obtain ⟨done, bytes⟩ := @ih 0 (data.drop (segment.length - skip)) (length_pos_iff.mp (by omega))
      (by omega) (by omega)
    rw [Nat.min_eq_left (by omega), if_neg (by omega), overwrite_append_across (by omega) (by omega)]
    exact ⟨done, by rw [flatten_cons, bytes]⟩

/-- Bytes in parts, written as one region. -/
structure SegmentedSink where
  segments : List (List UInt8)
  len : UInt64
  len_exact : len.toNat = segments.flatten.length

namespace SegmentedSink

def new (segments : List (List UInt8)) : Except SegmentedRegionError SegmentedSink :=
  match summed : checkedSegmentLen segments with
  | .error error => .error error
  | .ok len => .ok ⟨segments, len, checkedSegmentLen_exact summed⟩

theorem writeSegments_exact (self : SegmentedSink) (some : data ≠ [])
    (within : skip + data.length ≤ self.len.toNat) :
    self.len.toNat = (writeSegments self.segments skip data).2.flatten.length := by
  rw [self.len_exact] at within
  rw [(writeSegments_flatten some within).2, length_overwrite within, self.len_exact]

end SegmentedSink

/-- A chain is written as if its segments were one string. -/
instance : ReliableSink SegmentedSink where
  len := SegmentedSink.len
  writeAt sink offset data :=
    if within : offset.toNat + data.length ≤ sink.len.toNat then
      if some : data = [] then (.ok (), sink)
      else
        ((writeSegments sink.segments offset.toNat data).1,
          ⟨(writeSegments sink.segments offset.toNat data).2, sink.len, sink.writeSegments_exact some within⟩)
    else (.error .outOfBounds, sink)
  bytes sink := sink.segments.flatten
  bytes_length sink := sink.len_exact.symm
  len_writeAt sink offset data := by
    split
    · split <;> rfl
    · rfl
  outside sink offset data i away := by
    split
    · rename_i within
      split
      · rfl
      rename_i some
      rw [sink.len_exact] at within
      rw [(writeSegments_flatten some within).2]
      exact getElem?_overwrite_outside within away
    · rfl
  writes sink offset data within := by
    rw [dif_pos within]
    split
    · rename_i none
      refine ⟨rfl, ?_⟩
      rw [none, overwrite, append_nil, length_nil, Nat.add_zero, take_append_drop]
    · rename_i some
      rw [sink.len_exact] at within
      exact writeSegments_flatten some within

end VirtioAccel
