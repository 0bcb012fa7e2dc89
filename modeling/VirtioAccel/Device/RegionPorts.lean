import VirtioAccel.Device.Segments
import VirtioAccel.Library.Checked

/-! Regions of byte ports, nested to any depth, and the contiguous views of them. -/

namespace VirtioAccel
open List
variable {σ : Type}

/-- The bytes of a range, as a port over definite bytes reads them. -/
def rangeOf (bytes : List UInt8) (start len : Nat) : Except BackendError (List UInt8) :=
  if start + len ≤ bytes.length then .ok ((bytes.drop start).take len) else .error .outOfBounds

theorem rangeOf_eq_ok {bytes part : List UInt8} {start len : Nat} :
    rangeOf bytes start len = .ok part ↔ start + len ≤ bytes.length ∧ (bytes.drop start).take len = part := by
  unfold rangeOf
  split
  · rename_i within
    simp [within]
  rename_i past
  simp [past]

theorem rangeOf_length {bytes part : List UInt8} {start len : Nat} (found : rangeOf bytes start len = .ok part) :
    part.length = len := by
  obtain ⟨within, rfl⟩ := rangeOf_eq_ok.mp found
  rw [length_take, length_drop]
  omega

/-- A range of a range. -/
theorem rangeOf_rangeOf {bytes part : List UInt8} {start len offset n : Nat}
    (found : rangeOf bytes start len = .ok part)
    (within : offset + n ≤ len) : rangeOf part offset n = rangeOf bytes (start + offset) n := by
  have length := rangeOf_length found
  obtain ⟨inside, rfl⟩ := rangeOf_eq_ok.mp found
  rw [rangeOf, rangeOf, if_pos (by omega), if_pos (by omega), drop_take, drop_drop, take_take,
    Nat.min_eq_left (by omega)]

/-- Ranges taken one inside the other. -/
def subrange (bytes : List UInt8) (ranges : List (UInt64 × UInt64)) : Except BackendError (List UInt8) :=
  ranges.foldlM (fun bytes range => rangeOf bytes range.1.toNat range.2.toNat) bytes

/-- Where the innermost of them starts. -/
def origin (ranges : List (UInt64 × UInt64)) : Nat := (ranges.map fun range => range.1.toNat).sum

/-- A readable port with its view as one slice, where it has one. -/
structure SourcePort extends ByteSource where
  asContiguous : Option (List UInt8)

/-- The port is the byte string, by every access it has. -/
structure SourcePort.Flat (port : SourcePort) (bytes : List UInt8) : Prop where
  length : port.len.toNat = bytes.length
  reads : ∀ offset n, port.readAt offset n = rangeOf bytes offset.toNat n
  view : ∀ whole, port.asContiguous = some whole → whole = bytes

namespace SourcePort
variable {port port' : SourcePort} {bytes : List UInt8}

/-- `ReadableRegion`. -/
def region (port : SourcePort) (start len : UInt64) : SourcePort where
  toByteSource := port.toByteSource.region start len
  asContiguous :=
    if 2 ^ 64 ≤ start.toNat + len.toNat then none
    else port.asContiguous.bind fun whole => (rangeOf whole start.toNat len.toNat).toOption

def readableRegion (port : SourcePort) (start len : UInt64) : Except BackendError SourcePort :=
  (checkedRange start len.toNat port.len).map (fun _ => port.region start len)

/-- Regions of regions, the outermost first. -/
def nested (port : SourcePort) (ranges : List (UInt64 × UInt64)) : Except BackendError SourcePort :=
  ranges.foldlM (fun port range => port.readableRegion range.1 range.2) port

section
variable (flat : port.Flat bytes)
include flat

theorem Flat.region {start len : UInt64} {part : List UInt8}
    (found : rangeOf bytes start.toNat len.toNat = .ok part) : (port.region start len).Flat part := by
  have small := port.len.toNat_lt
  rw [flat.length] at small
  have length := rangeOf_length found
  have inside := (rangeOf_eq_ok.mp found).1
  refine ⟨length.symm, fun offset n => ?_, fun whole seen => ?_⟩
  · simp only [SourcePort.region, ByteSource.region]
    by_cases within : offset.toNat + n ≤ len.toNat
    · have sum : (start + offset).toNat = start.toNat + offset.toNat := by
        rw [UInt64.toNat_add, Nat.mod_eq_of_lt (by omega)]
      rw [ByteSource.checkedRange_eq_ok.mpr within]
      rw [if_neg (by omega), flat.reads, sum, rangeOf_rangeOf found within]
    · have refused : checkedRange offset n len = .error .outOfBounds := if_pos (by omega)
      rw [refused]
      exact (if_neg (by omega)).symm
  · simp only [SourcePort.region] at seen
    rw [if_neg (by omega)] at seen
    obtain ⟨outer, view, part'⟩ := Option.bind_eq_some_iff.mp seen
    cases flat.view outer view
    rw [found] at part'
    exact (Option.some.inj part').symm

theorem Flat.readableRegion (start len : UInt64) :
    port.readableRegion start len =
      (rangeOf bytes start.toNat len.toNat).map (fun _ => port.region start len) := by
  rw [SourcePort.readableRegion, checkedRange, rangeOf, flat.length]
  by_cases within : start.toNat + len.toNat ≤ bytes.length
  · rw [if_neg (by omega), if_pos within]
    rfl
  rw [if_pos (by omega), if_neg within]
  rfl

/-- However deep the regions go, the innermost one is the subrange. -/
theorem Flat.nested (ranges : List (UInt64 × UInt64)) :
    match subrange bytes ranges with
    | .error error => port.nested ranges = .error error
    | .ok part => ∃ inner, port.nested ranges = .ok inner ∧ inner.Flat part := by
  induction ranges generalizing port bytes with
  | nil => exact ⟨port, rfl, flat⟩
  | cons range rest ih =>
    obtain ⟨start, len⟩ := range
    rw [subrange, nested, foldlM_cons, foldlM_cons, flat.readableRegion]
    cases found : rangeOf bytes start.toNat len.toNat with
    | error error => exact rfl
    | ok part => exact ih (flat.region found)

/-- Ports that are the same string differ in their views alone. -/
theorem Flat.unique (flat' : port'.Flat bytes) : port.toByteSource = port'.toByteSource := by
  have len : port.len = port'.len := UInt64.toNat_inj.mp (flat.length.trans flat'.length.symm)
  have reads : port.readAt = port'.readAt := by
    funext offset n
    rw [flat.reads, flat'.reads]
  obtain ⟨⟨_, _, _⟩, _⟩ := port
  obtain ⟨⟨_, _, _⟩, _⟩ := port'
  cases len
  cases reads
  rfl

end

end SourcePort

namespace SegmentedSource

/-- `as_contiguous` of a single segment. -/
def port (self : SegmentedSource) : SourcePort where
  toByteSource := self.toByteSource
  asContiguous := match self.segments with
    | [segment] => some segment
    | _ => none

theorem port_flat (self : SegmentedSource) : self.port.Flat self.segments.flatten := by
  refine ⟨self.len_exact, fun offset n => ?_, fun whole seen => ?_⟩
  · rw [rangeOf]
    split
    · rename_i within
      exact self.serves.reads offset n within
    have refused : checkedRange offset n self.len = .error .outOfBounds := by
      rw [checkedRange, if_pos (by rw [self.len_exact]; omega)]
    simp only [port, toByteSource, refused]
  · simp only [port] at seen
    split at seen
    · rename_i segment single
      cases seen
      rw [single, flatten_singleton]
    · cases seen

end SegmentedSource

/-- A mutable slice of a port: its bytes, and the port after they have become others of the same number. -/
structure MutView (σ : Type) where
  bytes : List UInt8
  put : List UInt8 → σ

/-- A port over definite bytes that refuses what is out of its range, and may show itself as one slice. -/
class FlatSink (σ : Type) extends ReliableSink σ where
  refuses : ∀ s offset data, (len s).toNat < offset.toNat + data.length →
    writeAt s offset data = (.error .outOfBounds, s)
  asContiguousMut : σ → Option (MutView σ)
  view : ∀ s slice, asContiguousMut s = some slice →
    slice.bytes = bytes s ∧ ∀ changed, changed.length = slice.bytes.length → bytes (slice.put changed) = changed

theorem FlatSink.put_len [FlatSink σ] {sink : σ} {slice : MutView σ}
    (seen : FlatSink.asContiguousMut sink = some slice)
    {changed : List UInt8} (same : changed.length = slice.bytes.length) :
    ByteSink.len (slice.put changed) = ByteSink.len sink := by
  obtain ⟨bytes, put⟩ := FlatSink.view sink slice seen
  have after := FramedSink.bytes_length (slice.put changed)
  rw [put changed same, same, bytes, FramedSink.bytes_length] at after
  exact (UInt64.toNat_inj.mp after).symm

instance : FlatSink SegmentedSink where
  refuses sink offset data past := dif_neg (Nat.not_le.mpr past)
  asContiguousMut sink := match single : sink.segments with
    | [segment] => some ⟨segment, fun changed =>
      if same : changed.length = segment.length then ⟨[changed], sink.len, by
        rw [sink.len_exact, single, flatten_singleton, flatten_singleton, same]⟩
      else sink⟩
    | _ => none
  view sink slice seen := by
    split at seen
    · rename_i segment single
      cases seen
      refine ⟨?_, fun changed same => ?_⟩
      · change segment = sink.segments.flatten
        rw [single, flatten_singleton]
      dsimp only
      rw [dif_pos same]
      exact flatten_singleton
    · cases seen

/-- A port and the `WritableRegion`s made of it, one of the other. -/
inductive SinkPort (σ : Type) where
  | direct (sink : σ)
  | region (inner : SinkPort σ) (start len : UInt64)

namespace SinkPort

section Access
variable [ByteSink σ]

def len : SinkPort σ → UInt64
  | direct sink => ByteSink.len sink
  | region _ _ len => len

def writeAt : SinkPort σ → UInt64 → List UInt8 → Except BackendError Unit × SinkPort σ
  | direct sink, offset, data =>
    ((ByteSink.writeAt sink offset data).1, direct (ByteSink.writeAt sink offset data).2)
  | region inner start len, offset, data =>
    match checkedRange offset data.length len with
    | .error error => (.error error, region inner start len)
    | .ok () =>
      if 2 ^ 64 ≤ start.toNat + offset.toNat then (.error .outOfBounds, region inner start len)
      else ((inner.writeAt (start + offset) data).1, region (inner.writeAt (start + offset) data).2 start len)

def writableRegion (port : SinkPort σ) (start len : UInt64) : Except BackendError (SinkPort σ) :=
  (checkedRange start len.toNat port.len).map (fun _ => region port start len)

/-- Regions of regions, the outermost first. -/
def nested (port : SinkPort σ) (ranges : List (UInt64 × UInt64)) : Except BackendError (SinkPort σ) :=
  ranges.foldlM (fun port range => port.writableRegion range.1 range.2) port

/-- Every region was made inside the port it is a region of. -/
def Fits : SinkPort σ → Prop
  | direct _ => True
  | region inner start len => inner.Fits ∧ start.toNat + len.toNat ≤ inner.len.toNat

instance fitsDecidable : (port : SinkPort σ) → Decidable port.Fits
  | direct _ => isTrue trivial
  | region inner start len => @instDecidableAnd _ (start.toNat + len.toNat ≤ inner.len.toNat)
    (fitsDecidable inner) _

end Access

/-- The port that the regions are made of. -/
def base : SinkPort σ → σ
  | direct sink => sink
  | region inner _ _ => inner.base

/-- Where the innermost region starts in it. -/
def start : SinkPort σ → Nat
  | direct _ => 0
  | region inner start _ => inner.start + start.toNat

section Flat
variable [FlatSink σ] {port after : SinkPort σ}

def bytes : SinkPort σ → List UInt8
  | direct sink => FramedSink.bytes sink
  | region inner start len => (inner.bytes.drop start.toNat).take len.toNat

def asContiguousMut : SinkPort σ → Option (MutView (SinkPort σ))
  | direct sink => (FlatSink.asContiguousMut sink).map fun slice =>
    ⟨slice.bytes, fun changed => direct (slice.put changed)⟩
  | region inner start len =>
    if 2 ^ 64 ≤ start.toNat + len.toNat then none
    else inner.asContiguousMut.bind fun slice =>
    (rangeOf slice.bytes start.toNat len.toNat).toOption.map fun part =>
      ⟨part, fun changed => region (slice.put (slice.bytes.overwrite start.toNat changed)) start len⟩

theorem Fits.bytes_length (fits : port.Fits) : port.bytes.length = port.len.toNat := by
  induction port with
  | direct sink => exact FramedSink.bytes_length sink
  | region inner start len ih =>
    have inside := fits.2
    rw [bytes, length_take, length_drop, ih fits.1]
    change _ = len.toNat
    omega

/-- The innermost region is a window of the port that all of them are made of. -/
theorem Fits.window (fits : port.Fits) :
    port.start + port.len.toNat ≤ (FramedSink.bytes port.base).length ∧
      port.bytes = ((FramedSink.bytes port.base).drop port.start).take port.len.toNat := by
  induction port with
  | direct sink =>
    rw [start, base, len, ← FramedSink.bytes_length, Nat.zero_add, drop_zero, take_length]
    exact ⟨Nat.le_refl _, rfl⟩
  | region inner first size ih =>
    obtain ⟨inside, window⟩ := ih fits.1
    have bound := fits.2
    rw [start, base, bytes, len, window, drop_take, drop_drop, take_take, Nat.min_eq_left (by omega)]
    exact ⟨by omega, rfl⟩

/-- The port after `data` has come to stand at an offset of it. -/
structure Wrote (port after : SinkPort σ) (offset : Nat) (data : List UInt8) : Prop where
  fits : after.Fits
  len : after.len = port.len
  bytes : after.bytes = port.bytes.overwrite offset data
  base : FramedSink.bytes after.base = (FramedSink.bytes port.base).overwrite (port.start + offset) data

/-- What is written into a region is written into the port around it. -/
theorem Wrote.region {start len : UInt64} {offset : Nat} {data : List UInt8}
    (fits : (region port start len).Fits) (within : offset + data.length ≤ len.toNat)
    (wrote : port.Wrote after (start.toNat + offset) data) :
    (region port start len).Wrote (.region after start len) offset data := by
  have length := fits.1.bytes_length
  refine ⟨⟨wrote.fits, ?_⟩, rfl, ?_, ?_⟩
  · rw [wrote.len]
    exact fits.2
  · rw [SinkPort.bytes, wrote.bytes]
    exact (overwrite_window (by rw [length]; exact fits.2) within).1
  · rw [SinkPort.start, Nat.add_assoc]
    exact wrote.base

theorem Fits.writes (fits : port.Fits) {offset : UInt64} {data : List UInt8}
    (within : offset.toNat + data.length ≤ port.len.toNat) :
    (port.writeAt offset data).1 = .ok () ∧ port.Wrote (port.writeAt offset data).2 offset.toNat data := by
  induction port generalizing offset with
  | direct sink =>
    obtain ⟨done, bytes⟩ := ReliableSink.writes sink offset data within
    refine ⟨done, trivial, FramedSink.len_writeAt sink offset data, bytes, ?_⟩
    rw [start, Nat.zero_add]
    exact bytes
  | region inner start len ih =>
    have inside := fits.2
    have small := inner.len.toNat_lt
    rw [SinkPort.len] at within
    have sum : (start + offset).toNat = start.toNat + offset.toNat := by
      rw [UInt64.toNat_add, Nat.mod_eq_of_lt (by omega)]
    obtain ⟨done, wrote⟩ := @ih fits.1 (start + offset) (by omega)
    rw [sum] at wrote
    rw [writeAt, ByteSource.checkedRange_eq_ok.mpr within]
    rw [if_neg (by omega)]
    exact ⟨done, wrote.region fits within⟩

theorem refuses {offset : UInt64} {data : List UInt8} (past : port.len.toNat < offset.toNat + data.length) :
    port.writeAt offset data = (.error .outOfBounds, port) := by
  cases port with
  | direct sink => rw [writeAt, FlatSink.refuses sink offset data past]
  | region inner start len =>
    rw [SinkPort.len] at past
    rw [writeAt, checkedRange, if_pos past]

/-- What is put into the slice is written over the whole port. -/
theorem Fits.view (fits : port.Fits) {slice : MutView (SinkPort σ)} (seen : port.asContiguousMut = some slice) :
    slice.bytes = port.bytes ∧ ∀ changed, changed.length = slice.bytes.length →
    port.Wrote (slice.put changed) 0 changed := by
  induction port generalizing slice with
  | direct sink =>
    obtain ⟨inner, view, rfl⟩ := Option.map_eq_some_iff.mp seen
    obtain ⟨bytes, put⟩ := FlatSink.view sink inner view
    refine ⟨bytes, fun changed same => ?_⟩
    have whole : (FramedSink.bytes sink).overwrite 0 changed = changed := by
      rw [overwrite_zero, drop_of_length_le (by rw [same, bytes]), append_nil]
    refine ⟨trivial, FlatSink.put_len view same, ?_, ?_⟩
    · exact (put changed same).trans whole.symm
    · exact (put changed same).trans whole.symm
  | region inner start len ih =>
    have length := fits.1.bytes_length
    have inside := fits.2
    rw [asContiguousMut] at seen
    split at seen
    · cases seen
    obtain ⟨outer, view, mapped⟩ := Option.bind_eq_some_iff.mp seen
    obtain ⟨bytes, put⟩ := ih fits.1 view
    rw [bytes, rangeOf, if_pos (by omega)] at mapped
    obtain ⟨part, found, rfl⟩ := Option.map_eq_some_iff.mp mapped
    cases found
    refine ⟨rfl, fun changed same => ?_⟩
    have size : changed.length = len.toNat := by
      rw [same, length_take, length_drop]
      omega
    have whole : (inner.bytes.overwrite start.toNat changed).length = inner.bytes.length :=
      length_overwrite (by omega)
    have wrote := put (inner.bytes.overwrite start.toNat changed) (by rw [bytes, whole])
    obtain ⟨within, window⟩ := fits.1.window
    have put' : inner.Wrote (outer.put (inner.bytes.overwrite start.toNat changed)) (start.toNat + 0) changed := by
      refine ⟨wrote.fits, wrote.len, ?_, ?_⟩
      · rw [wrote.bytes, overwrite_zero, whole, drop_length, append_nil, Nat.add_zero]
      rw [wrote.base, window]
      exact (overwrite_window within (by omega)).2
    exact put'.region fits (by omega)

/-- The port is a window of a byte string, by every access it has. -/
structure Flat (port : SinkPort σ) (whole : List UInt8) (start : Nat) (part : List UInt8) : Prop where
  base : FramedSink.bytes port.base = whole
  start : port.start = start
  bytes : port.bytes = part
  length : port.len.toNat = part.length
  writes : ∀ offset data, offset.toNat + data.length ≤ part.length →
    (port.writeAt offset data).1 = .ok () ∧ port.Wrote (port.writeAt offset data).2 offset.toNat data
  refuses : ∀ offset data, part.length < offset.toNat + data.length →
    port.writeAt offset data = (.error .outOfBounds, port)
  view : ∀ slice, port.asContiguousMut = some slice →
    slice.bytes = part ∧ ∀ changed, changed.length = part.length → port.Wrote (slice.put changed) 0 changed

theorem Fits.flat (fits : port.Fits) {whole part : List UInt8} {start : Nat}
    (base : FramedSink.bytes port.base = whole) (first : port.start = start) (bytes : port.bytes = part) :
    port.Flat whole start part := by
  have length : port.len.toNat = part.length := by rw [← fits.bytes_length, bytes]
  refine ⟨base, first, bytes, length, fun offset data within => fits.writes (by omega),
    fun offset data past => refuses (by omega), fun slice seen => ?_⟩
  obtain ⟨same, put⟩ := fits.view seen
  rw [bytes] at same
  exact ⟨same, fun changed size => put changed (by rw [same, size])⟩

/-- Regions of ports that fit, fit; and those that do not are refused. -/
theorem Fits.nested (fits : port.Fits) (ranges : List (UInt64 × UInt64)) :
    match subrange port.bytes ranges with
    | .error error => port.nested ranges = .error error
    | .ok part => ∃ inner, port.nested ranges = .ok inner ∧ inner.Fits ∧ inner.bytes = part ∧
    inner.base = port.base ∧
        inner.start = port.start + origin ranges := by
  induction ranges generalizing port with
  | nil => exact ⟨port, rfl, fits, rfl, rfl, rfl⟩
  | cons range rest ih =>
    obtain ⟨first, size⟩ := range
    have length := fits.bytes_length
    rw [subrange, nested, foldlM_cons, foldlM_cons]
    by_cases within : first.toNat + size.toNat ≤ port.len.toNat
    · have made : port.writableRegion first size = .ok (region port first size) := by
        rw [writableRegion, ByteSource.checkedRange_eq_ok.mpr within]
        rfl
      have found : rangeOf port.bytes first.toNat size.toNat = .ok (region port first size).bytes :=
        if_pos (by rw [length]; exact within)
      have later := @ih (.region port first size) ⟨fits, within⟩
      rw [made, found]
      rw [origin, map_cons, sum_cons, ← Nat.add_assoc]
      exact later
    · have refused : port.writableRegion first size = .error .outOfBounds := by
        rw [writableRegion, checkedRange, if_pos (by omega)]
        rfl
      rw [refused, rangeOf, if_neg (by rw [length]; exact within)]
      exact rfl

/-- Nested regions are a port like the one they are made of. -/
instance : FlatSink { port : SinkPort σ // port.Fits } where
  len port := port.1.len
  writeAt port offset data :=
    if within : offset.toNat + data.length ≤ port.1.len.toNat then
      ((port.1.writeAt offset data).1, ⟨(port.1.writeAt offset data).2, (port.2.writes within).2.fits⟩)
    else ((port.1.writeAt offset data).1, port)
  bytes port := port.1.bytes
  bytes_length port := port.2.bytes_length
  len_writeAt port offset data := by
    split
    · rename_i within
      exact (port.2.writes within).2.len
    · rfl
  outside port offset data i away := by
    split
    · rename_i within
      rw [(port.2.writes within).2.bytes]
      exact getElem?_overwrite_outside (by rw [port.2.bytes_length]; exact within) away
    · rfl
  writes port offset data within := by
    rw [dif_pos within]
    exact ⟨(port.2.writes within).1, (port.2.writes within).2.bytes⟩
  refuses port offset data past := by
    rw [dif_neg (Nat.not_le.mpr past), refuses past]
  asContiguousMut port := port.1.asContiguousMut.map fun slice =>
    ⟨slice.bytes, fun changed => if fits : (slice.put changed).Fits then ⟨slice.put changed, fits⟩ else port⟩
  view port slice seen := by
    obtain ⟨inner, view, rfl⟩ := Option.map_eq_some_iff.mp seen
    obtain ⟨bytes, put⟩ := port.2.view view
    refine ⟨bytes, fun changed same => ?_⟩
    have wrote := put changed same
    dsimp only
    rw [dif_pos wrote.fits]
    rw [wrote.bytes, overwrite_zero, drop_of_length_le (by rw [same, bytes]), append_nil]

end Flat
end SinkPort

end VirtioAccel
