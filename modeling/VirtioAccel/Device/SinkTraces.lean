import VirtioAccel.Device.Engine

/-! Which ranges of a response sink a command writes. The record is a ghost:
forgetting it gives the run on the bare sink. -/

namespace VirtioAccel
variable {V : Handles} {σ τ : Type}
variable {i : Nat}
variable {first second : List (Nat × Nat)}

/-- A sink with a record of its successful writes, as offsets and lengths. -/
structure Traced (σ : Type) where
  sink : σ
  writes : List (Nat × Nat)

def Traced.start (sink : σ) : Traced σ := ⟨sink, []⟩

instance [ByteSink σ] : ByteSink (Traced σ) where
  len traced := ByteSink.len traced.sink
  writeAt traced offset data :=
    let written := ByteSink.writeAt traced.sink offset data
    (written.1, ⟨written.2, match written.1 with
      | .ok () => traced.writes ++ [(offset.toNat, data.length)]
      | .error _ => traced.writes⟩)

instance [ReliableSink σ] : ReliableSink (Traced σ) where
  bytes traced := FramedSink.bytes traced.sink
  bytes_length traced := FramedSink.bytes_length traced.sink
  len_writeAt traced offset data := FramedSink.len_writeAt traced.sink offset data
  outside traced offset data i away := FramedSink.outside traced.sink offset data i away
  writes traced offset data within := ReliableSink.writes traced.sink offset data within

/-- Some write covers the byte. -/
def Covers (writes : List (Nat × Nat)) (i : Nat) : Prop := ∃ write ∈ writes, write.1 ≤ i ∧ i < write.1 + write.2

theorem Covers.append_left (covered : Covers first i) : Covers (first ++ second) i := by
  obtain ⟨write, member, inside⟩ := covered
  exact ⟨write, List.mem_append_left _ member, inside⟩

theorem Covers.append_right (covered : Covers second i) : Covers (first ++ second) i := by
  obtain ⟨write, member, inside⟩ := covered
  exact ⟨write, List.mem_append_right _ member, inside⟩

/-- A header written last covers its own bytes. -/
theorem Covers.header {writes : List (Nat × Nat)} (early : i < 16) : Covers (writes ++ [(0, 16)]) i :=
  .append_right ⟨(0, 16), by simp, by simpa using early⟩

namespace ResponsePayload
variable [ByteSink σ] {offset : UInt64} {data : List UInt8}

theorem writeAt_within (window : ResponsePayload σ)
    (within : offset.toNat + data.length ≤ window.payloadBytes.toNat) :
    ByteSink.writeAt window offset data =
      ((ByteSink.writeAt window.sink (responseHeaderBytes + offset) data).1,
        { window with sink := (ByteSink.writeAt window.sink (responseHeaderBytes + offset) data).2 }) :=
  if_neg (Nat.not_lt.mpr within)

theorem writeAt_past (window : ResponsePayload σ)
    (past : ¬ offset.toNat + data.length ≤ window.payloadBytes.toNat) :
    ByteSink.writeAt window offset data = (.error .outOfBounds, window) :=
  if_pos (Nat.not_le.mp past)

end ResponsePayload

/-- A map that the port cannot see through. -/
structure ByteSink.Hom [ByteSink τ] [ByteSink σ] (f : τ → σ) : Prop where
  len : ∀ sink, ByteSink.len (f sink) = ByteSink.len sink
  writeAt : ∀ sink offset data, ByteSink.writeAt (f sink) offset data =
    ((ByteSink.writeAt sink offset data).1, f (ByteSink.writeAt sink offset data).2)

theorem Traced.forgets [ByteSink σ] : ByteSink.Hom (Traced.sink : Traced σ → σ) := ⟨fun _ => rfl, fun _ _ _ => rfl⟩

namespace ByteSink.Hom
variable [ByteSink τ] [ByteSink σ] {f : τ → σ}

/-- The image of a payload window. -/
def window (f : τ → σ) (opened : ResponsePayload τ) : ResponsePayload σ :=
  ⟨f opened.sink, opened.payloadBytes, opened.used⟩

variable {sink : τ} {status : StatusCode} {requestId : UInt64} {maxResponseBytes : UInt32} {mutated : Bool}
variable {buffer : Owned V .buffer} {range : BufferRange} {regions : List ChainRegion} {request : ByteSource}

section
variable (hom : Hom f)
include hom

theorem payload_window : Hom (window f) := by
  refine ⟨fun _ => rfl, fun opened offset data => ?_⟩
  by_cases within : offset.toNat + data.length ≤ opened.payloadBytes.toNat
  · rw [ResponsePayload.writeAt_within (window f opened) within, ResponsePayload.writeAt_within opened within,
      window, hom.writeAt]
    rfl
  · rw [ResponsePayload.writeAt_past (window f opened) within, ResponsePayload.writeAt_past opened within]

theorem run (transfer : Transfer) (sink : τ) : transfer.run (f sink) = Prod.map id f (transfer.run sink) := by
  induction transfer generalizing sink with
  | finish result => rfl
  | write offset data next ih =>
    simp only [Transfer.run, hom.writeAt]
    exact ih _ _

theorem readBuffer {state : DeviceState (Owned V)} {offset : UInt64} {accelerator : Accelerator V} :
    accelerator.readBuffer state buffer offset (f sink) =
      Prod.map id (Prod.map f id) (accelerator.readBuffer state buffer offset sink) := by
  simp only [Accelerator.readBuffer, hom.run]
  rw [hom.len]
  rfl

theorem writeHeader {payloadBytes : UInt32} : ResponseWriter.writeHeader (f sink) status requestId payloadBytes =
    Prod.map id f (ResponseWriter.writeHeader sink status requestId payloadBytes) := by
  simp only [ResponseWriter.writeHeader, hom.writeAt]
  rfl

theorem writeEmpty : ResponseWriter.writeEmpty maxResponseBytes (f sink) status requestId =
    Prod.map id f (ResponseWriter.writeEmpty maxResponseBytes sink status requestId) := by
  simp only [ResponseWriter.writeEmpty, hom.len, hom.writeHeader]
  split <;> rfl

theorem payload {payloadBytes : UInt64} : ResponseWriter.payload maxResponseBytes (f sink) payloadBytes =
    (ResponseWriter.payload maxResponseBytes sink payloadBytes).map (window f) := by
  simp only [ResponseWriter.payload, hom.len]
  split
  · rfl
  · split <;> rfl

theorem commit {opened : ResponsePayload τ} :
    (window f opened).commit status requestId = Prod.map id f (opened.commit status requestId) := by
  simp only [ResponsePayload.commit, window, hom.writeHeader]
  rfl

theorem writeBytes {bytes : List UInt8} :
    CommandProcessor.writeBytes maxResponseBytes (f sink) status requestId bytes =
      Prod.map id f (CommandProcessor.writeBytes maxResponseBytes sink status requestId bytes) := by
  unfold CommandProcessor.writeBytes
  split
  · rfl
  rw [hom.payload]
  cases ResponseWriter.payload maxResponseBytes sink (UInt64.ofNat bytes.length) with
  | error error => rfl
  | ok opened =>
    simp only [Except.map, hom.payload_window.writeAt]
    rcases ByteSink.writeAt opened 0 bytes with ⟨_ | _, after⟩
    · rfl
    · exact hom.commit

end

variable (p : CommandProcessor V)

omit [ByteSink τ] [ByteSink σ] in
theorem completeResponse (f : τ → σ) {written : Except ResponseWriteError UInt32 × τ} :
    p.completeResponse (Prod.map id f written) status requestId mutated =
      Prod.map id (Prod.map id f) (p.completeResponse written status requestId mutated) := by
  rcases written with ⟨_ | _, _⟩ <;> rfl

theorem transferResponse (hom : Hom f) : p.transferResponse (f sink) requestId buffer range =
    Prod.map id (Prod.map id f) (p.transferResponse sink requestId buffer range) := by
  unfold CommandProcessor.transferResponse
  rw [hom.payload]
  cases ResponseWriter.payload p.decoder.limits.maxResponseBytes sink range.bytes with
  | error error => rfl
  | ok opened =>
    simp only [Except.map, hom.payload_window.readBuffer]
    rcases p.accelerator.readBuffer p.state buffer range.offset opened with ⟨_ | _, after, accelerator⟩
    · simp only [Prod.map, id, window, hom.writeEmpty]
      exact completeResponse _ f
    simp only [Prod.map, id, hom.commit]
    exact completeResponse _ f

theorem respond (hom : Hom f) {response : Response V} : p.respond (f sink) requestId response =
    Prod.map id (Prod.map id f) (p.respond sink requestId response) := by
  cases response with
  | empty status mutated =>
    simp only [CommandProcessor.respond, hom.writeEmpty]
    exact completeResponse p f
  | bytes status payload mutated =>
    simp only [CommandProcessor.respond, hom.writeBytes]
    exact completeResponse p f
  | transfer buffer range => exact hom.transferResponse p

theorem preflight (hom : Hom f) {decoder : FrameDecoder} {reserve : Bool} (sink : τ) :
    preflightCommandFrame decoder reserve regions request (f sink) =
      Prod.map id f (preflightCommandFrame decoder reserve regions request sink) := by
  simp only [preflightCommandFrame, hom.len, hom.writeEmpty]
  split
  · rfl
  · split <;> rfl

/-- The processor does not see what the map forgets. -/
theorem process (hom : Hom f) {alloc : Allocator} : p.process alloc regions request (f sink) =
    Prod.map id (Prod.map id f) (p.process alloc regions request sink) := by
  simp only [CommandProcessor.process, hom.preflight]
  rcases preflightCommandFrame p.decoder alloc.decodedBindings regions request sink with ⟨_ | outcome, after⟩
  · rfl
  cases outcome with
  | rejected requestId status used | unusable frame => rfl
  | ready decoded =>
    simp only [Prod.map, id]
    split
    · exact hom.respond p
    · exact hom.respond _

end ByteSink.Hom

end VirtioAccel
