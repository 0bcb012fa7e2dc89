import VirtioAccel.Guest.Client
import VirtioAccel.Device.DecoderFacts

/-! What a start method leaves in the chain it publishes. -/

namespace VirtioAccel.Guest
open List FrameWriter
open DriverChainBytes (readable writable)
variable {data : List UInt8} {T : Type}

section Writers
variable {χ ε : Type} [DriverChainBytes χ ε]
variable {source : ReadableBytes} {offset : UInt64} {start : Nat} {destination : UInt64}

/-- A writer that succeeds has written these bytes from this offset on. -/
structure FrameWriter.Fills (write : FrameWriter χ ε) (start : Nat) (data : List UInt8) : Prop where
  wrote : ∀ {chain chain' : χ}, start ≤ (readable chain).length → write chain = (.ok (), chain') →
    start + data.length ≤ (readable chain).length ∧ readable chain' = (readable chain).overwrite start data ∧
      writable chain' = writable chain

namespace FrameWriter

omit [DriverChainBytes χ ε] in
theorem andThen_eq_ok {first second : FrameWriter χ ε} {chain chain' : χ}
    (done : first.andThen second chain = (.ok (), chain')) :
    ∃ middle, first chain = (.ok (), middle) ∧ second middle = (.ok (), chain') := by
  unfold andThen at done
  split at done
  · cases done
  rename_i middle wrote
  exact ⟨middle, wrote, done⟩

theorem fills_done (start : Nat) : Fills (done : FrameWriter χ ε) start [] := by
  refine ⟨fun {chain chain'} inside wrote => ?_⟩
  cases wrote
  exact ⟨inside, (overwrite_nil _ _).symm, rfl⟩

theorem Fills.andThen {first second : FrameWriter χ ε} {more : List UInt8} (fills : Fills first start data)
    (fillsMore : Fills second (start + data.length) more) :
    Fills (first.andThen second) start (data ++ more) := by
  refine ⟨fun {chain chain'} inside wrote => ?_⟩
  obtain ⟨middle, before, after⟩ := andThen_eq_ok wrote
  obtain ⟨room, bytes, kept⟩ := fills.wrote inside before
  have same : (readable middle).length = (readable chain).length := by rw [bytes, length_overwrite room]
  obtain ⟨roomMore, bytesMore, keptMore⟩ := fillsMore.wrote (same ▸ room) after
  refine ⟨?_, ?_, keptMore.trans kept⟩
  · rw [length_append]
    omega
  · rw [bytesMore, bytes, overwrite_overwrite room]

end FrameWriter

theorem fills_writeBytes (place : offset.toNat = start) (data : List UInt8) :
    Fills (writeBytes offset data : FrameWriter χ ε) start data := by
  refine ⟨fun {chain chain'} _ wrote => ?_⟩
  have accepted : DriverChainBuffer.writeDeviceReadable chain offset data = (.ok (), chain') := by
    unfold writeBytes at wrote
    generalize DriverChainBuffer.writeDeviceReadable chain offset data = answer at wrote ⊢
    rcases answer with ⟨_ | _, _⟩
    · cases wrote
    cases wrote
    rfl
  obtain ⟨room, bytes, kept⟩ := DriverChainBytes.written accepted
  rw [place] at room bytes
  exact ⟨room, bytes, kept⟩

theorem fills_writeWire (place : offset.toNat = start) (codec : Codec T) (value : T) :
    Fills (writeWire offset codec value : FrameWriter χ ε) start (codec.encode value) :=
  fills_writeBytes place _

/-- The loop copies what is left of the source, chunk by chunk. -/
theorem fills_copyChunks (small : destination.toNat + source.bytes.length < 2 ^ 64) {left copied : Nat}
    (whole : copied + left = source.bytes.length) :
    Fills (copyChunks destination source left copied : FrameWriter χ ε) (destination.toNat + copied)
      (source.bytes.drop copied) := by
  induction left using Nat.strongRecOn generalizing copied with
  | ind left ih =>
    cases left with
    | zero =>
      rw [copyChunks, drop_of_length_le (by omega)]
      exact fills_done _
    | succ left =>
      refine ⟨fun {chain chain'} inside wrote => ?_⟩
      rw [copyChunks] at wrote
      generalize size : min (left + 1) copyScratchBytes = count at wrote
      have some : 1 ≤ count := by
        rw [← size, copyScratchBytes]
        omega
      have most : count ≤ left + 1 := size ▸ Nat.min_le_left _ _
      have at_ : (UInt64.ofNat copied).toNat = copied := by
        rw [UInt64.toNat_ofNat', Nat.mod_eq_of_lt (by have := source.small; omega)]
      dsimp only at wrote
      split at wrote
      · cases wrote
      rename_i bytes read
      have chunk := source.reads read (by omega)
      rw [at_] at chunk
      have length : bytes.length = count := by
        rw [chunk, length_take, length_drop]
        omega
      have place : (destination + UInt64.ofNat copied).toNat = destination.toNat + copied := by
        rw [UInt64.toNat_add, at_, Nat.mod_eq_of_lt (by omega)]
      have rest : Fills (copyChunks destination source (left + 1 - count) (copied + count) : FrameWriter χ ε)
          (destination.toNat + copied + bytes.length) (source.bytes.drop (copied + count)) := by
        rw [length, Nat.add_assoc]
        exact ih (left + 1 - count) (by omega) (by omega)
      have joined := ((fills_writeBytes place bytes).andThen rest).wrote inside wrote
      rw [chunk, ← drop_drop, take_append_drop] at joined
      exact joined

theorem fills_copySource (small : destination.toNat + source.bytes.length < 2 ^ 64) :
    Fills (copySource destination source : FrameWriter χ ε) destination.toNat source.bytes := by
  unfold copySource
  split
  · rename_i bytes found
    rw [source.whole found]
    exact fills_writeBytes rfl _
  · exact fills_copyChunks small (Nat.zero_add _)

theorem fills_writeBindings {bindings : List Binding} (place : offset.toNat = start)
    (small : start + bindings.length * 32 < 2 ^ 64) :
    Fills (writeBindings bindings offset : FrameWriter χ ε) start
      ((bindings.map Binding.toWire).flatMap WireBinding.codec.encode) := by
  induction bindings generalizing offset start with
  | nil => exact fills_done _
  | cons binding rest ih =>
    rw [length_cons] at small
    have next : (offset + UInt64.ofNat WireBinding.codec.size).toNat =
        start + (WireBinding.codec.encode binding.toWire).length := by
      rw [WireBinding.codec.encode_length, WireBinding.codec_size, UInt64.toNat_add, place,
        show (UInt64.ofNat 32).toNat = 32 from rfl, Nat.mod_eq_of_lt (by omega)]
    rw [map_cons, flatMap_cons]
    refine (fills_writeWire place _ _).andThen (ih next ?_)
    rw [WireBinding.codec.encode_length, WireBinding.codec_size]
    omega

end Writers

namespace GuestClient
variable {Q χ ε θ : Type} [DriverChainBytes χ ε] [DriverQueue Q χ θ]

theorem searchRequestId_ne_zero {slots : List (Slot χ)} {attempts : Nat} {next requestId : UInt64}
    (found : (searchRequestId slots attempts next).1 = some requestId) : requestId ≠ 0 := by
  induction attempts generalizing next with
  | zero => cases found
  | succ attempts ih =>
    unfold searchRequestId at found
    dsimp only at found
    split at found
    · exact ih found
    cases found
    intro zero
    have larger : max next 1 = if next ≤ 1 then 1 else next := rfl
    rw [larger] at zero
    split at zero
    · exact absurd zero (by decide)
    rename_i above
    exact above (zero ▸ by decide)

/-- A start that succeeded: the checks its frame passed, and the chain it published. -/
structure Starts (client : GuestClient Q χ) (chain : χ) (operation : Operation)
    (payloadBytes responseBytes : UInt64) (data : List UInt8) (published : Published χ) : Prop where
  typed : published.pending.operation = operation
  reserved : published.reserved = responseBytes
  named : published.pending.requestId ≠ 0
  known : operation.requiresDiscovery = true → ∃ info, client.deviceInfo = some info
  frame : (readable chain).length = 16 + payloadBytes.toNat
  small : payloadBytes.toNat < 2 ^ 32
  request : 16 + payloadBytes.toNat ≤ client.config.wire.maxRequestBytes.toNat
  response : responseBytes.toNat ≤ client.config.wire.maxResponseBytes.toNat
  capacity : responseBytes.toNat ≤ (writable chain).length
  within : data.length ≤ payloadBytes.toNat
  bytes : readable published.chain =
    RequestHeader.codec.encode
      (RequestHeader.new operation.opcode payloadBytes.toUInt32 published.pending.requestId) ++
      (data ++ (readable chain).drop (16 + data.length))
  kept : writable published.chain = writable chain

variable {client client' : GuestClient Q χ} {chain : χ} {operation : Operation}
  {payloadBytes responseBytes : UInt64}
  {published : Published χ}

variable {write : FrameWriter χ ε}

/-- A start that succeeded passed its checks, and wrote its header and payload. -/
theorem startFrame_eq_ok
    (started : client.startFrame chain operation payloadBytes responseBytes write = (.ok published, client')) :
    (∃ slot, (client.checkFrame chain operation payloadBytes responseBytes : Except (StartErrorKind θ ε) Nat) =
      .ok slot) ∧
      andThen (writeWire 0 RequestHeader.codec
        (RequestHeader.new operation.opcode payloadBytes.toUInt32 published.pending.requestId)) write chain =
        (.ok (), published.chain) ∧
      published.pending.operation = operation ∧ published.pending.requestId ≠ 0 ∧
      published.reserved = responseBytes := by
  unfold startFrame at started
  split at started
  · cases started
  rename_i slot checked
  split at started
  · cases started
  rename_i requestId client'' allocated
  dsimp only at started
  split at started
  · cases started
  rename_i chain' wrote
  split at started
  · cases started
  cases started
  exact ⟨⟨slot, checked⟩, wrote, rfl, searchRequestId_ne_zero (congrArg Prod.fst allocated), rfl⟩

omit [DriverQueue Q χ θ] in
/-- The frame fills the readable part of its chain. -/
theorem checkFrame_eq_ok {slot : Nat}
    (checked : (client.checkFrame chain operation payloadBytes responseBytes : Except (StartErrorKind θ ε) Nat) =
      .ok slot) :
    (operation.requiresDiscovery = true → ∃ info, client.deviceInfo = some info) ∧
      (readable chain).length = 16 + payloadBytes.toNat ∧ payloadBytes.toNat < 2 ^ 32 ∧
      16 + payloadBytes.toNat ≤ client.config.wire.maxRequestBytes.toNat ∧
      responseBytes.toNat ≤ client.config.wire.maxResponseBytes.toNat ∧
      responseBytes.toNat ≤ (writable chain).length := by
  simp only [checkFrame, Checked.bind_eq_ok, Checked.refuseIf_eq_ok, Checked.pure_eq_ok] at checked
  obtain ⟨_, _, _, discovered, _, _, _, whole, _, request, _, response, _, small, _⟩ := checked
  have readableLen := DriverChainBytes.readable_length chain
  have writableLen := DriverChainBytes.writable_length chain
  have sum : (requestHeaderBytes + payloadBytes).toNat = 16 + payloadBytes.toNat := by
    rw [UInt64.toNat_add, requestHeaderBytes_toNat, Nat.mod_eq_of_lt]
    rw [requestHeaderBytes_toNat] at whole
    omega
  simp only [not_or, not_not, UInt64.not_lt, UInt64.le_iff_toNat_le, UInt32.toNat_toUInt64, sum] at request response
  refine ⟨fun needs => ?_, by rw [readableLen, ← request.2, sum], by omega, request.1, response.1, by omega⟩
  cases found : client.deviceInfo with
  | none => exact absurd ⟨needs, by rw [found, Option.isNone_none]⟩ discovered
  | some info => exact ⟨info, rfl⟩

/-- The payload is written only when its size has been checked. -/
theorem startFrame_starts (fills : payloadBytes.toNat < 2 ^ 32 → Fills write 16 data)
    (started : client.startFrame chain operation payloadBytes responseBytes write = (.ok published, client')) :
    Starts client chain operation payloadBytes responseBytes data published := by
  obtain ⟨⟨slot, checked⟩, wrote, typed, named, reserved⟩ := startFrame_eq_ok started
  obtain ⟨known, frame, small, request, response, capacity⟩ := checkFrame_eq_ok checked
  obtain ⟨room, bytes, kept⟩ := (fills_writeWire (rfl : (0 : UInt64).toNat = 0) RequestHeader.codec _).andThen
    (by rw [RequestHeader.codec.encode_length]; exact fills small) |>.wrote (Nat.zero_le _) wrote
  have header : RequestHeader.codec.size = 16 := rfl
  rw [UInt64.toNat_zero, overwrite_zero, length_append, RequestHeader.codec.encode_length, append_assoc] at bytes
  rw [length_append, RequestHeader.codec.encode_length] at room
  exact ⟨typed, reserved, named, known, frame, small, request, response, capacity, by omega, bytes, kept⟩

/-- A payload that starts with a fixed part is at least as long as that part. -/
theorem startFrame_fixed {first second : FrameWriter χ ε} (fills : Fills first 16 data)
    (started : client.startFrame chain operation payloadBytes responseBytes (andThen first second) =
      (.ok published, client')) :
    data.length ≤ payloadBytes.toNat := by
  obtain ⟨⟨slot, checked⟩, wrote, _⟩ := startFrame_eq_ok started
  obtain ⟨_, frame, _⟩ := checkFrame_eq_ok checked
  have header : RequestHeader.codec.size = 16 := rfl
  obtain ⟨middle, headed, rest⟩ := andThen_eq_ok wrote
  obtain ⟨last, fixed, _⟩ := andThen_eq_ok rest
  obtain ⟨whole, bytes, _⟩ := (fills_writeWire (rfl : (0 : UInt64).toNat = 0) RequestHeader.codec _).wrote
    (Nat.zero_le _) headed
  have length := congrArg length bytes
  rw [length_overwrite whole] at length
  rw [RequestHeader.codec.encode_length] at whole
  obtain ⟨room, _⟩ := fills.wrote (by omega) fixed
  omega

theorem startWire_starts {codec : Codec T} {value : T}
    (started : client.startWire chain operation codec value responseBytes = (.ok published, client')) :
    Starts client chain operation (UInt64.ofNat codec.size) responseBytes (codec.encode value) published :=
  startFrame_starts (fun _ => fills_writeWire rfl codec value) started

theorem startObject_starts {handle : Handle}
    (started : client.startObject chain operation handle responseBytes = (.ok published, client')) :
    Starts client chain operation 8 responseBytes (ObjectPayload.codec.encode ⟨handle.id.raw⟩) published := by
  unfold startObject at started
  split at started
  · cases started
  · exact startWire_starts started

end GuestClient

end VirtioAccel.Guest
