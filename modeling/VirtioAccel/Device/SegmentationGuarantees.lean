import VirtioAccel.Device.Framing
import VirtioAccel.Device.RegionPorts

/-! Frames are read and responses written alike however their bytes are cut up. -/

namespace VirtioAccel
open Checked List ResponseWriter
variable {σ τ : Type}
variable {segments : List (List UInt8)}

/-- A list of segments makes a port exactly when none is empty and the total is a machine word. -/
theorem foldlM_addSegmentLen_ok {start : UInt64} :
    (∃ total, segments.foldlM addSegmentLen start = .ok total) ↔
      (∀ segment ∈ segments, segment ≠ []) ∧ start.toNat + segments.flatten.length < 2 ^ 64 := by
  induction segments generalizing start with
  | nil => simpa using start.toNat_lt
  | cons segment rest ih =>
    rw [foldlM_cons, addSegmentLen, flatten_cons, length_append, forall_mem_cons]
    split
    · rename_i none
      simp [length_eq_zero_iff.mp none]
    rename_i nonempty
    have some : segment ≠ [] := fun none => nonempty (by rw [none]; rfl)
    split
    · constructor
      · rintro ⟨_, done⟩
        cases done
      rintro ⟨_, small⟩
      omega
    · rename_i room
      have step : (start + UInt64.ofNat segment.length).toNat = start.toNat + segment.length := by
        rw [UInt64.toNat_add, UInt64.toNat_ofNat_of_lt' (show segment.length < 2 ^ 64 by omega),
          Nat.mod_eq_of_lt (by omega)]
      change (∃ total, rest.foldlM addSegmentLen (start + UInt64.ofNat segment.length) = .ok total) ↔ _
      rw [ih, step, Nat.add_assoc]
      exact ⟨fun ⟨all, small⟩ => ⟨⟨some, all⟩, small⟩, fun ⟨⟨_, all⟩, small⟩ => ⟨all, small⟩⟩

theorem checkedSegmentLen_ok :
    (∃ total, checkedSegmentLen segments = .ok total) ↔
      segments ≠ [] ∧ (∀ segment ∈ segments, segment ≠ []) ∧ segments.flatten.length < 2 ^ 64 := by
  have sums := @foldlM_addSegmentLen_ok segments 0
  rw [UInt64.toNat_zero, Nat.zero_add] at sums
  rw [← sums, checkedSegmentLen]
  cases segments.foldlM addSegmentLen 0 with
  | error error => simp
  | ok total => by_cases none : segments = [] <;> simp [none]

theorem SegmentedSource.new_ok :
    ((∃ source, SegmentedSource.new segments = .ok source) ↔
      segments ≠ [] ∧ (∀ segment ∈ segments, segment ≠ []) ∧ segments.flatten.length < 2 ^ 64) ∧
    ∀ source, SegmentedSource.new segments = .ok source → source.segments = segments := by
  rw [← checkedSegmentLen_ok, new]
  split
  · rename_i failed
    simp [failed]
  rename_i summed
  simp only [summed, Except.ok.injEq, exists_eq', true_and]
  rintro _ rfl
  rfl

theorem SegmentedSink.new_ok :
    ((∃ sink, SegmentedSink.new segments = .ok sink) ↔
      segments ≠ [] ∧ (∀ segment ∈ segments, segment ≠ []) ∧ segments.flatten.length < 2 ^ 64) ∧
    ∀ sink, SegmentedSink.new segments = .ok sink → sink.segments = segments := by
  rw [← checkedSegmentLen_ok, new]
  split
  · rename_i failed
    simp [failed]
  rename_i summed
  simp only [summed, Except.ok.injEq, exists_eq', true_and]
  rintro _ rfl
  rfl

namespace ResponseWriter

def scratchBytes : Nat := 4096

/-- The copy through the scratch buffer, from an offset to the end. -/
def copyChunks [ByteSink σ] (payload : ByteSource) (offset : Nat) (destination : ResponsePayload σ) :
    Except ResponseWriteError Unit × ResponsePayload σ :=
  if offset < payload.len.toNat then
    match payload.readAt (UInt64.ofNat offset) (min (payload.len.toNat - offset) scratchBytes) with
    | .error _ => (.error .sourceAccess, destination)
    | .ok chunk =>
      match ByteSink.writeAt destination (UInt64.ofNat offset) chunk with
      | (.error _, destination) => (.error .sinkAccess, destination)
      | (.ok (), destination) =>
        copyChunks payload (offset + min (payload.len.toNat - offset) scratchBytes) destination
  else (.ok (), destination)
termination_by payload.len.toNat - offset
decreasing_by
  simp only [scratchBytes]
  omega

/-- A payload that is one slice is written at once, any other in chunks. -/
def copyPayload [ByteSink σ] (payload : SourcePort) (destination : ResponsePayload σ) :
    Except ResponseWriteError Unit × ResponsePayload σ :=
  match payload.asContiguous with
  | some contiguous =>
    let written := ByteSink.writeAt destination 0 contiguous
    (written.1.mapError (fun _ => .sinkAccess), written.2)
  | none => copyChunks payload.toByteSource 0 destination

def writeResponse [ByteSink σ] (maxResponseBytes : UInt32) (sink : σ) (status : StatusCode) (requestId : UInt64)
    (payload : SourcePort) : Except ResponseWriteError UInt32 × σ :=
  match ResponseWriter.payload maxResponseBytes sink payload.len with
  | .error error => (.error error, sink)
  | .ok destination =>
    match copyPayload payload destination with
    | (.error error, destination) => (.error error, destination.sink)
    | (.ok (), destination) => destination.commit status requestId

section Copies
variable [ReliableSink σ] {first window : ResponsePayload σ} {payload : SourcePort} {bytes : List UInt8}

/-- The window of a response into which the first bytes of the payload have been copied. -/
structure Filled (first window : ResponsePayload σ) (copied : List UInt8) : Prop where
  payloadBytes : window.payloadBytes = first.payloadBytes
  used : window.used = first.used
  len : ByteSink.len window.sink = ByteSink.len first.sink
  bytes : FramedSink.bytes window.sink = (FramedSink.bytes first.sink).overwrite 16 copied

/-- One write takes the copy further. -/
theorem Filled.write {copied chunk : List UInt8} {offset : UInt64} (filled : Filled first window copied)
    (room : 16 + first.payloadBytes.toNat ≤ (ByteSink.len first.sink).toNat)
    (reached : offset.toNat = copied.length) (within : copied.length + chunk.length ≤ first.payloadBytes.toNat) :
    (ByteSink.writeAt window offset chunk).1 = .ok () ∧
      Filled first (ByteSink.writeAt window offset chunk).2 (copied ++ chunk) := by
  have small := (ByteSink.len first.sink).toNat_lt
  have sum : (responseHeaderBytes + offset).toNat = 16 + copied.length := by
    rw [UInt64.toNat_add, show responseHeaderBytes.toNat = 16 from rfl, reached, Nat.mod_eq_of_lt (by omega)]
  have length := FramedSink.bytes_length first.sink
  obtain ⟨done, bytes⟩ := ReliableSink.writes window.sink (responseHeaderBytes + offset) chunk (by
    rw [sum, filled.len]
    omega)
  rw [ResponsePayload.writeAt_within window (by rw [filled.payloadBytes, reached]; exact within)]
  refine ⟨done, filled.payloadBytes, filled.used, (FramedSink.len_writeAt ..).trans filled.len, ?_⟩
  rw [bytes, sum, filled.bytes, overwrite_overwrite (by omega)]

theorem copyChunks_filled (flat : payload.Flat bytes) (offset : Nat) (reached : offset ≤ bytes.length)
    (filled : Filled first window (bytes.take offset))
    (room : 16 + first.payloadBytes.toNat ≤ (ByteSink.len first.sink).toNat)
    (size : first.payloadBytes.toNat = bytes.length) :
    (copyChunks payload.toByteSource offset window).1 = .ok () ∧
      Filled first (copyChunks payload.toByteSource offset window).2 bytes := by
  have length := flat.length
  have small := payload.len.toNat_lt
  induction left : bytes.length - offset using Nat.strong_induction_on generalizing offset window with
  | _ left ih =>
    unfold copyChunks
    by_cases more : offset < payload.len.toNat
    · have place : (UInt64.ofNat offset).toNat = offset := by
        rw [UInt64.toNat_ofNat', Nat.mod_eq_of_lt (by omega)]
      have positive : 0 < min (payload.len.toNat - offset) scratchBytes := by
        simp only [scratchBytes]
        omega
      generalize chosen : min (payload.len.toNat - offset) scratchBytes = count at positive
      have fits : offset + count ≤ bytes.length := by omega
      have read : payload.readAt (UInt64.ofNat offset) count = .ok ((bytes.drop offset).take count) := by
        rw [flat.reads, place, rangeOf, if_pos fits]
      have taken : (bytes.take offset).length = offset := by
        rw [length_take]
        omega
      have chunk : ((bytes.drop offset).take count).length = count := by
        rw [length_take, length_drop]
        omega
      obtain ⟨done, next⟩ := @Filled.write _ _ _ _ _ ((bytes.drop offset).take count)
        (UInt64.ofNat offset) filled room
        (by rw [place, taken]) (by omega)
      rw [if_pos more, read]
      dsimp only
      generalize ByteSink.writeAt window (UInt64.ofNat offset)
        ((bytes.drop offset).take count) = written at done next
      obtain ⟨_, window'⟩ := written
      cases done
      rw [← take_add] at next
      exact ih (bytes.length - (offset + count)) (by omega) (offset + count) fits next rfl
    · rw [if_neg more]
      rw [take_of_length_le (by omega)] at filled
      exact ⟨rfl, filled⟩

/-- Both ways of copying leave the same bytes. -/
theorem copyPayload_filled (flat : payload.Flat bytes)
    (room : 16 + first.payloadBytes.toNat ≤ (ByteSink.len first.sink).toNat)
    (size : first.payloadBytes.toNat = bytes.length) :
    (copyPayload payload first).1 = .ok () ∧ Filled first (copyPayload payload first).2 bytes := by
  have fresh : Filled first first [] := ⟨rfl, rfl, rfl, (overwrite_nil ..).symm⟩
  unfold copyPayload
  split
  · rename_i contiguous seen
    cases flat.view contiguous seen
    obtain ⟨done, filled⟩ := @Filled.write _ _ _ _ _ bytes 0 fresh room rfl (by
      rw [length_nil]
      omega)
    dsimp only
    rw [done]
    exact ⟨rfl, filled⟩
  · exact copyChunks_filled flat 0 (Nat.zero_le _) fresh room size

end Copies

/-- What a response leaves of the bytes of its port. -/
def framed (status : StatusCode) (requestId : UInt64) (payload before : List UInt8) : List UInt8 :=
  (before.overwrite 16 payload).overwrite 0
    (ResponseHeader.codec.encode (ResponseHeader.new status (UInt32.ofNat payload.length) requestId))

/-- The answer and the bytes it leaves depend on the bytes of the payload and of the port alone. -/
theorem writeResponse_flat [ReliableSink σ] (maxResponseBytes : UInt32) (sink : σ) (status : StatusCode)
    (requestId : UInt64) {payload : SourcePort} {bytes : List UInt8} (flat : payload.Flat bytes) :
    (writeResponse maxResponseBytes sink status requestId payload).1 =
        preflight maxResponseBytes (ByteSink.len sink) (UInt64.ofNat bytes.length) ∧
      FramedSink.bytes (writeResponse maxResponseBytes sink status requestId payload).2 =
        match preflight maxResponseBytes (ByteSink.len sink) (UInt64.ofNat bytes.length) with
        | .error _ => FramedSink.bytes sink
        | .ok _ => framed status requestId bytes (FramedSink.bytes sink) := by
  have length : payload.len = UInt64.ofNat bytes.length := by rw [← flat.length, UInt64.ofNat_toNat]
  cases passed : preflight maxResponseBytes (ByteSink.len sink) (UInt64.ofNat bytes.length) with
  | error error =>
    rw [writeResponse, ResponseWriter.payload, length, passed]
    exact ⟨rfl, rfl⟩
  | ok used =>
    obtain ⟨total, narrow, room⟩ := preflight_eq_ok passed
    have wide := used.toNat_lt
    rw [← length, flat.length] at total
    have size : (payload.len.toUInt32).toNat = bytes.length := by
      rw [UInt64.toNat_toUInt32, flat.length, Nat.mod_eq_of_lt (by omega)]
    have opened : ResponseWriter.payload maxResponseBytes sink payload.len = .ok ⟨sink, payload.len.toUInt32,
        used⟩ := by
      rw [ResponseWriter.payload, length, passed]
      dsimp only
      rw [if_neg (by rw [← length, flat.length]; omega)]
    obtain ⟨done, filled⟩ := @copyPayload_filled _ _ ⟨sink, payload.len.toUInt32, used⟩ _ _ flat (by
      dsimp only
      omega) size
    rw [writeResponse, opened]
    dsimp only
    generalize copyPayload payload ⟨sink, payload.len.toUInt32, used⟩ = copied at done filled
    obtain ⟨_, window⟩ := copied
    cases done
    have header := ResponseHeader.codec.encode_length (ResponseHeader.new status window.payloadBytes requestId)
    obtain ⟨committed, after⟩ := ReliableSink.writes window.sink 0
      (ResponseHeader.codec.encode (ResponseHeader.new status window.payloadBytes requestId)) (by
        rw [filled.len]
        change 0 + 16 ≤ (ByteSink.len sink).toNat
        omega)
    have number : window.payloadBytes = UInt32.ofNat bytes.length := by
      rw [← size, UInt32.ofNat_toNat]
      exact filled.payloadBytes
    dsimp only [ResponsePayload.commit, writeHeader]
    rw [committed, after, filled.bytes, filled.used, number]
    exact ⟨rfl, rfl⟩

end ResponseWriter

/-- The part of the frame that a decoded command goes on to read. -/
def DecodedRequestBody.tail : DecodedRequestBody → Option ByteSource
  | writeBuffer _ _ data => some data
  | loadProgram _ _ _ payload _ => some payload
  | _ => none

theorem ByteSource.readableRegion_eq_ok {source part : ByteSource} {start len : UInt64}
    (opened : source.readableRegion start len = .ok part) :
    part = source.region start len ∧ start.toNat + len.toNat ≤ source.len.toNat := by
  unfold readableRegion at opened
  cases checked : checkedRange start len.toNat source.len with
  | error error =>
    rw [checked] at opened
    cases opened
  | ok =>
    rw [checked] at opened
    cases opened
    exact ⟨rfl, checkedRange_eq_ok.mp checked⟩

theorem FrameDecoder.decode_tail {decoder : FrameDecoder} {reserve : Bool} {request tail : ByteSource}
    {capacity : UInt64} {decoded : DecodedRequest}
    (accepted : decoder.decode reserve request capacity = .ok decoded) (found : decoded.body.tail = some tail) :
    ∃ start len, tail = request.region start len ∧ start.toNat + len.toNat ≤ request.len.toNat := by
  simp only [decode, bind_eq_ok, mapError_eq_ok, pure_eq_ok] at accepted
  obtain ⟨⟨_, opcode⟩, _, body, parsed, _, _, _, _, rfl⟩ := accepted
  have same := decodeBody_opcode parsed
  dsimp only at found parsed same
  subst opcode
  cases body with
  | writeBuffer bufferId range data =>
    simp only [DecodedRequestBody.opcode, decodeBody, decodeWriteBuffer, bind_eq_ok, mapError_eq_ok,
      pure_eq_ok] at parsed
    obtain ⟨_, _, part, opened, built⟩ := parsed
    cases built
    cases found
    exact ⟨_, _, ByteSource.readableRegion_eq_ok opened⟩
  | loadProgram contextId format target payload residentBytes =>
    simp only [DecodedRequestBody.opcode, decodeBody, decodeLoadProgram, bind_eq_ok, mapError_eq_ok,
      pure_eq_ok] at parsed
    obtain ⟨_, _, _, _, _, _, _, _, _, _, _, _, _, _, _, _, _, _, part, opened, built⟩ := parsed
    cases built
    cases found
    exact ⟨_, _, ByteSource.readableRegion_eq_ok opened⟩
  | _ => cases found

/-- However bytes are cut into segments, and however regions of them are nested, ports over them are that string;
and frames are decoded and responses written alike. -/
theorem segmentation_transparent :
    (∀ segments : List (List UInt8), ((∃ source, SegmentedSource.new segments = .ok source) ↔
        segments ≠ [] ∧ (∀ segment ∈ segments, segment ≠ []) ∧ segments.flatten.length < 2 ^ 64) ∧
      ∀ source, SegmentedSource.new segments = .ok source → ∀ ranges,
        match subrange segments.flatten ranges with
        | .error error => source.port.nested ranges = .error error
        | .ok part => ∃ port, source.port.nested ranges = .ok port ∧ port.Flat part) ∧
    (∀ segments : List (List UInt8), ((∃ sink, SegmentedSink.new segments = .ok sink) ↔
        segments ≠ [] ∧ (∀ segment ∈ segments, segment ≠ []) ∧ segments.flatten.length < 2 ^ 64) ∧
      ∀ sink, SegmentedSink.new segments = .ok sink → ∀ ranges,
        match subrange segments.flatten ranges with
        | .error error => (SinkPort.direct sink).nested ranges = .error error
        | .ok part => ∃ port, (SinkPort.direct sink).nested ranges = .ok port ∧
            port.Flat segments.flatten (origin ranges) part) ∧
    (∀ (decoder : FrameDecoder) (reserve : Bool) (capacity : UInt64) (port port' : SourcePort) (bytes : List UInt8),
      port.Flat bytes → port'.Flat bytes →
        decoder.decode reserve port.toByteSource capacity = decoder.decode reserve port'.toByteSource capacity ∧
        ∀ decoded tail, decoder.decode reserve port.toByteSource capacity = .ok decoded →
        decoded.body.tail = some tail →
          ∃ start len part, tail = (port.region start len).toByteSource ∧
            rangeOf bytes start.toNat len.toNat = .ok part ∧ (port.region start len).Flat part) ∧
    ∀ (σ τ : Type) [FlatSink σ] [FlatSink τ] (maxResponseBytes : UInt32) (sink : σ) (sink' : τ)
    (status : StatusCode) (requestId : UInt64) (payload payload' : SourcePort) (bytes : List UInt8),
      payload.Flat bytes → payload'.Flat bytes → FramedSink.bytes sink = FramedSink.bytes sink' →
        (writeResponse maxResponseBytes sink status requestId payload).1 =
            (writeResponse maxResponseBytes sink' status requestId payload').1 ∧
          FramedSink.bytes (writeResponse maxResponseBytes sink status requestId payload).2 =
            FramedSink.bytes (writeResponse maxResponseBytes sink' status requestId payload').2 := by
  refine ⟨fun segments => ⟨SegmentedSource.new_ok.1, fun source made ranges => ?_⟩,
    fun segments => ⟨SegmentedSink.new_ok.1, fun sink made ranges => ?_⟩,
    fun decoder reserve capacity port port' bytes flat flat' => ⟨by rw [flat.unique flat'], ?_⟩, ?_⟩
  · have flat := source.port_flat
    rw [SegmentedSource.new_ok.2 source made] at flat
    exact flat.nested ranges
  · have whole : (SinkPort.direct sink).bytes = segments.flatten :=
      congrArg flatten (SegmentedSink.new_ok.2 sink made)
    have nested := @SinkPort.Fits.nested _ _ (.direct sink) trivial ranges
    rw [whole] at nested
    cases found : subrange segments.flatten ranges with
    | error error =>
      rw [found] at nested
      exact nested
    | ok part =>
      rw [found] at nested
      obtain ⟨port, made', fits, bytes, base, start⟩ := nested
      refine ⟨port, made', fits.flat ?_ ?_ bytes⟩
      · rw [base]
        exact whole
      · rw [start, SinkPort.start, Nat.zero_add]
  · intro decoded tail accepted found
    obtain ⟨start, len, rfl, within⟩ := FrameDecoder.decode_tail accepted found
    have inside : rangeOf bytes start.toNat len.toNat = .ok ((bytes.drop start.toNat).take len.toNat) :=
      if_pos (by rw [← flat.length]; exact within)
    exact ⟨start, len, _, rfl, inside, flat.region inside⟩
  · intro σ τ _ _ maxResponseBytes sink sink' status requestId payload payload' bytes flat flat' same
    obtain ⟨answer, after⟩ := writeResponse_flat maxResponseBytes sink status requestId flat
    obtain ⟨answer', after'⟩ := writeResponse_flat maxResponseBytes sink' status requestId flat'
    have len : ByteSink.len sink = ByteSink.len sink' := by
      rw [← UInt64.toNat_inj, ← FramedSink.bytes_length, same, FramedSink.bytes_length]
    rw [answer, answer', after, after', len, same]
    exact ⟨rfl, rfl⟩

end VirtioAccel
