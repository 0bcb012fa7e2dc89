import VirtioAccel.Device.DecoderFacts

/-! Which frames are answered without reaching a handler, and how. -/

namespace VirtioAccel
open Checked List
variable {payloadBytes : UInt32}

/-- The frame has a readable header with this request ID. -/
def ByteSource.Carries (request : ByteSource) (requestId : UInt64) : Prop :=
  ∃ header, readWire request 0 RequestHeader.codec = .ok header ∧ header.requestId = requestId

/-- A body that is refused is refused with a failure. -/
def Failing (error : BodyDecodeError) : Prop := error ≠ .protocol .ok

namespace Failing

theorem invalid : Failing .invalid := by simp [Failing]; decide
theorem resourceLimit : Failing .resourceLimit := by simp [Failing]; decide
theorem unsupported : Failing .unsupported := by simp [Failing]; decide
theorem outOfMemory : Failing (.protocol .outOfMemory) := by simp [Failing]; decide
theorem internalError : Failing (.protocol .internalError) := by simp [Failing]; decide
theorem access : Failing .access := by simp [Failing]

end Failing

theorem readWire_fails {T : Type} {source : ByteSource} {offset : UInt64} {codec : Codec T} :
    FailsAs Failing (readWire source offset codec) := by
  unfold readWire
  split
  · exact .error .internalError
  split
  · exact .error .access
  · exact .ok _

theorem objectId_fails (raw : UInt64) : FailsAs Failing (objectId raw) := by
  unfold objectId
  cases ObjectId.fromRaw raw with
  | none => exact .error .invalid
  | some id => exact .ok id

theorem artifactFormat_fails (raw : UInt32) :
    FailsAs Failing ((ArtifactFormat.new raw).elim (.error BodyDecodeError.invalid) .ok) := by
  cases ArtifactFormat.new raw with
  | none => exact .error .invalid
  | some format => exact .ok format

theorem decodeObject_fails {request : ByteSource} : FailsAs Failing (decodeObject request payloadBytes) :=
  .check .invalid <| .bind readWire_fails fun _ => objectId_fails _

theorem decodeTransfer_fails {request : ByteSource} {hasData : Bool} :
    FailsAs Failing (decodeTransfer request payloadBytes hasData) := by
  refine .check .invalid <| .bind readWire_fails fun _ => .check .invalid <| .check .resourceLimit <| ?_
  exact .check .invalid <| .bind (objectId_fails _) fun _ => .bind (.mapError fun _ => .invalid) fun _ => .ok _

theorem decodeBinding_fails {request : ByteSource} {offset : UInt64} :
    FailsAs Failing (decodeBinding request offset) := by
  refine .bind readWire_fails fun _ => .check .invalid <| .check .invalid <| ?_
  refine .bind (.mapError fun _ => .invalid) fun _ => .bind (.mapError fun _ => .invalid) fun _ => ?_
  exact .bind (objectId_fails _) fun _ => .ok _

namespace FrameDecoder
variable {decoder : FrameDecoder} {capacity : UInt64} {status : StatusCode} {requestId : UInt64} {reserve : Bool}
variable {opcode : KnownOpcode}

variable {request : ByteSource}

theorem decodeHeader_carries {header : RequestHeader}
    (accepted : decoder.decodeHeader request capacity = .ok (header, opcode)) :
    request.Carries header.requestId ∧ 16 ≤ capacity.toNat := by
  simp only [decodeHeader, bind_eq_ok, refuseIf_eq_ok, mapError_eq_ok, pure_eq_ok, UInt64.not_lt] at accepted
  obtain ⟨_, room, _, _, found, read, _, _, _, _, _, _, _, _, _, _, same⟩ := accepted
  cases same
  exact ⟨⟨header, read, rfl⟩, room⟩

theorem decodeHeader_rejects
    (failed : decoder.decodeHeader request capacity = .error (.protocol requestId status)) :
    request.Carries requestId ∧ 16 ≤ capacity.toNat ∧ status ≠ .ok := by
  simp only [decodeHeader, bind_eq_error, refuseIf_eq_error, refuseIf_eq_ok,
    mapError_eq_error, mapError_eq_ok, pure_ne_error, UInt64.not_lt, reduceCtorEq, and_false,
    exists_false, false_or, or_false] at failed
  obtain ⟨_, room, _, _, header, read, failed⟩ := failed
  have carries : request.Carries header.requestId := ⟨header, read, rfl⟩
  have capacity : 16 ≤ capacity.toNat := room
  rcases failed with
    ⟨_, rfl, rfl⟩ | ⟨_, _, ⟨_, rfl, rfl⟩ | ⟨_, _, ⟨_, rfl, rfl⟩ | ⟨_, _, ⟨_, rfl, rfl⟩ | ⟨_, _, wrong⟩⟩⟩⟩
  · exact ⟨carries, capacity, by decide⟩
  · exact ⟨carries, capacity, by decide⟩
  · exact ⟨carries, capacity, by decide⟩
  · exact ⟨carries, capacity, by decide⟩
  · cases known : header.knownOpcode with
    | some opcode => simp [known] at wrong
    | none =>
      rw [known] at wrong
      cases wrong
      exact ⟨carries, capacity, by decide⟩

/-- Every failure of a body decode is a failure to the guest too. -/
theorem decodeBody_fails : FailsAs Failing (decoder.decodeBody reserve request payloadBytes opcode) := by
  cases opcode with
  | getDeviceInfo => exact .check .invalid (.ok _)
  | createContext =>
    refine .check .invalid <| .bind readWire_fails fun _ => ?_
    exact .check .unsupported <| .check .invalid <| .ok _
  | allocateBuffer =>
    refine .check .invalid <| .bind readWire_fails fun _ => .bind (objectId_fails _) fun _ => ?_
    refine .check .invalid <| .bind (.mapError fun _ => .invalid) fun _ => .check .unsupported <| ?_
    refine .check .invalid <| .bind (.mapError fun _ => .invalid) fun _ => .check .resourceLimit <| ?_
    exact .check .unsupported <| .ok _
  | writeBuffer => exact .bind decodeTransfer_fails fun _ => .bind (.mapError fun _ => .access) fun _ => .ok _
  | readBuffer => exact .bind decodeTransfer_fails fun _ => .check .resourceLimit <| .ok _
  | loadProgram =>
    refine .check .invalid <| .bind readWire_fails fun _ => .check .unsupported <| ?_
    refine .bind (objectId_fails _) fun _ => .bind (artifactFormat_fails _) fun _ => .check .invalid <| ?_
    refine .check .resourceLimit <| .check .invalid <| ?_
    exact .check .resourceLimit <| .bind (.mapError fun _ => .access) fun _ => .ok _
  | createQueue =>
    refine .check .invalid <| .bind readWire_fails fun _ => .check .unsupported <| ?_
    exact .check .invalid <| .bind (objectId_fails _) fun _ => .ok _
  | submit =>
    refine .check .invalid <| .bind readWire_fails fun _ => .check .unsupported <| ?_
    refine .check .invalid <| .check .resourceLimit <| .check .invalid <| ?_
    refine .check .outOfMemory <| .bind (.mapM fun _ => decodeBinding_fails) fun _ => ?_
    exact .check .invalid <| .bind (objectId_fails _) fun _ => .bind (objectId_fails _) fun _ => .ok _
  | destroyContext | freeBuffer | unloadProgram | destroyQueue | pollEvent | cancelEvent | destroyEvent =>
    exact .bind decodeObject_fails fun _ => .ok _

/-- A frame that is answered without reaching a handler carries its request
ID and is answered with a failure. -/
theorem decode_rejects (failed : decoder.decode reserve request capacity = .error (.protocol requestId status)) :
    request.Carries requestId ∧ 16 ≤ capacity.toNat ∧ status ≠ .ok := by
  simp only [decode, bind_eq_error, mapError_eq_error, refuseIf_eq_error, pure_ne_error, reduceCtorEq, and_false,
    exists_false, or_false] at failed
  rcases failed with early | ⟨⟨header, opcode⟩, parsed, ⟨error, wrong, same⟩ | ⟨_, _, _, rfl, rfl⟩⟩
  · exact decodeHeader_rejects early
  · obtain ⟨carries, room⟩ := decodeHeader_carries parsed
    cases error with
    | access => cases same
    | protocol cause =>
      cases same
      exact ⟨carries, room, fun fine => decodeBody_fails.sort wrong (by rw [fine])⟩
  · obtain ⟨carries, room⟩ := decodeHeader_carries parsed
    exact ⟨carries, room, by decide⟩

/-- A frame that decodes carries its request ID, and both limits leave room
for its largest response. -/
theorem decode_carries {decoded : DecodedRequest}
    (accepted : decoder.decode reserve request capacity = .ok decoded) :
    request.Carries decoded.requestId ∧
      16 + decoded.body.successPayload ≤ decoder.limits.maxResponseBytes.toNat ∧
      16 + decoded.body.successPayload ≤ capacity.toNat := by
  simp only [decode, bind_eq_ok, pure_eq_ok, refuseIf_eq_ok, Nat.not_lt] at accepted
  obtain ⟨⟨header, opcode⟩, parsed, body, _, _, limit, _, room, rfl⟩ := accepted
  exact ⟨(decodeHeader_carries parsed).1, limit, room⟩

/-- A body that is refused with a status gives the guest that status. -/
theorem decode_refused {payload : List UInt8}
    (serves : request.Serves
      (RequestHeader.codec.encode (RequestHeader.new opcode payloadBytes requestId) ++ payload))
    (sized : payload.length = payloadBytes.toNat) (named : requestId ≠ 0)
    (within : 16 + payload.length ≤ decoder.limits.maxRequestBytes.toNat) (room : 16 ≤ capacity.toNat)
    (refused : decoder.decodeBody reserve request payloadBytes opcode = .error (.protocol status)) :
    decoder.decode reserve request capacity = .error (.protocol requestId status) := by
  refine bind_eq_error.mpr (.inr ⟨_, decodeHeader_serves serves sized named within room, ?_⟩)
  exact bind_eq_error.mpr (.inl (mapError_eq_error.mpr ⟨_, refused, rfl⟩))

end FrameDecoder

/-! Commands with data behind their fixed prefix -/

/-- A frame whose data follows a fixed prefix: the size of the prefix, the length
it declares for the data, and the length of the data. -/
inductive DeclaresTail (requestId : UInt64) : List UInt8 → (fixed declared actual : Nat) → Prop where
  | write {payloadBytes : UInt32} {value : TransferBufferRequest} {data : List UInt8}
      (sized : 24 + data.length = payloadBytes.toNat) (buffer : value.bufferId ≠ 0) (some : value.bytes ≠ 0)
      (ends : value.offset.toNat + value.bytes.toNat < 2 ^ 64) :
    DeclaresTail requestId (RequestHeader.codec.encode (RequestHeader.new .writeBuffer payloadBytes requestId) ++
      (TransferBufferRequest.codec.encode value ++ data)) 24 value.bytes.toNat data.length
  | load {payloadBytes : UInt32} {value : LoadProgramRequest} {data : List UInt8}
      (sized : 80 + data.length = payloadBytes.toNat) (flags : value.flags = 0) (context : value.contextId ≠ 0)
      (format : value.format ≠ 0) (some : value.payloadBytes ≠ 0) (resident : value.residentBytes ≠ 0) :
    DeclaresTail requestId (RequestHeader.codec.encode (RequestHeader.new .loadProgram payloadBytes requestId) ++
      (LoadProgramRequest.codec.encode value ++ data)) 80 value.payloadBytes.toNat data.length

namespace DeclaresTail
variable {decoder : FrameDecoder} {reserve : Bool} {request : ByteSource} {capacity requestId : UInt64}
  {frame : List UInt8} {fixed declared actual : Nat}
variable {data : List UInt8}

/-- The status for a wrong length: prefix and declared length are added up before
the sum is compared, and a sum that overflows is refused on its own. -/
def status (fixed declared : Nat) : StatusCode :=
  if 2 ^ 64 ≤ fixed + declared then .resourceLimit else .invalidArgument

theorem decodeTransfer_mismatch {value : TransferBufferRequest}
    (framed : Framed request (TransferBufferRequest.codec.encode value ++ data))
    (sized : 24 + data.length = payloadBytes.toNat) (some : value.bytes ≠ 0)
    (ends : value.offset.toNat + value.bytes.toNat < 2 ^ 64) (differs : value.bytes.toNat ≠ data.length) :
    decodeTransfer request payloadBytes true = .error (.protocol (status 24 value.bytes.toNat)) := by
  have read := framed.read (by decide)
  refine bind_eq_error.mpr (.inr ⟨(), ?_, bind_eq_error.mpr (.inr ⟨value, read, ?_⟩)⟩)
  · rw [refuseIf_eq_ok, TransferBufferRequest.codec_size]
    omega
  refine bind_eq_error.mpr (.inr ⟨(), ?_, ?_⟩)
  · rw [refuseIf_eq_ok]
    exact not_or.mpr ⟨some, Nat.not_le.mpr ends⟩
  rw [TransferBufferRequest.codec_size]
  by_cases large : 2 ^ 64 ≤ 24 + value.bytes.toNat
  · rw [status, if_pos large]
    exact bind_eq_error.mpr (.inl (refuseIf_eq_error.mpr ⟨⟨rfl, large⟩, rfl⟩))
  rw [status, if_neg large]
  refine bind_eq_error.mpr (.inr ⟨(), refuseIf_eq_ok.mpr (fun both => large both.2), ?_⟩)
  refine bind_eq_error.mpr (.inl (refuseIf_eq_error.mpr ⟨?_, rfl⟩))
  rw [if_pos rfl]
  omega

theorem decodeLoadProgram_mismatch {value : LoadProgramRequest}
    (framed : Framed request (LoadProgramRequest.codec.encode value ++ data))
    (sized : 80 + data.length = payloadBytes.toNat) (flags : value.flags = 0) (context : value.contextId ≠ 0)
    (format : value.format ≠ 0) (some : value.payloadBytes ≠ 0) (resident : value.residentBytes ≠ 0)
    (differs : value.payloadBytes.toNat ≠ data.length) :
    decoder.decodeLoadProgram request payloadBytes = .error (.protocol (status 80 value.payloadBytes.toNat)) := by
  have read := framed.read (by decide)
  refine bind_eq_error.mpr (.inr ⟨(), ?_, bind_eq_error.mpr (.inr ⟨value, read, ?_⟩)⟩)
  · rw [refuseIf_eq_ok, LoadProgramRequest.codec_size]
    omega
  refine bind_eq_error.mpr (.inr ⟨(), refuseIf_eq_ok.mpr (not_not.mpr flags), ?_⟩)
  refine bind_eq_error.mpr (.inr ⟨⟨value.contextId, context⟩, objectId_eq_ok.mpr rfl, ?_⟩)
  refine bind_eq_error.mpr (.inr ⟨⟨value.format, format⟩, by rw [ArtifactFormat.new, dif_pos format]; rfl, ?_⟩)
  refine bind_eq_error.mpr (.inr ⟨(), refuseIf_eq_ok.mpr (not_or.mpr ⟨some, resident⟩), ?_⟩)
  rw [LoadProgramRequest.codec_size]
  by_cases large : 2 ^ 64 ≤ 80 + value.payloadBytes.toNat
  · rw [status, if_pos large]
    exact bind_eq_error.mpr (.inl (refuseIf_eq_error.mpr ⟨large, rfl⟩))
  rw [status, if_neg large]
  refine bind_eq_error.mpr (.inr ⟨(), refuseIf_eq_ok.mpr large, ?_⟩)
  exact bind_eq_error.mpr (.inl (refuseIf_eq_error.mpr ⟨by omega, rfl⟩))

theorem decode_status (tail : DeclaresTail requestId frame fixed declared actual) (serves : request.Serves frame)
    (named : requestId ≠ 0) (within : frame.length ≤ decoder.limits.maxRequestBytes.toNat)
    (room : 16 ≤ capacity.toNat) (differs : declared ≠ actual) :
    decoder.decode reserve request capacity = .error (.protocol requestId (status fixed declared)) := by
  cases tail with
  | write sized buffer some ends =>
    rw [length_append] at within
    refine FrameDecoder.decode_refused serves ?_ named within room ?_
    · rw [length_append]
      exact sized
    have framed : Framed request _ := ⟨_, RequestHeader.codec.encode_length _, serves⟩
    exact bind_eq_error.mpr (.inl (decodeTransfer_mismatch framed sized some ends differs))
  | load sized flags context format some resident =>
    rw [length_append] at within
    refine FrameDecoder.decode_refused serves ?_ named within room ?_
    · rw [length_append, LoadProgramRequest.codec.encode_length]
      exact sized
    have framed : Framed request _ := ⟨_, RequestHeader.codec.encode_length _, serves⟩
    exact decodeLoadProgram_mismatch framed sized flags context format some resident differs

/-- A wrong length is an invalid argument, unless it is so large that prefix and
length overflow together, or there is no room to say so. -/
theorem mismatch_iff (tail : DeclaresTail requestId frame fixed declared actual) (serves : request.Serves frame)
    (named : requestId ≠ 0) (within : frame.length ≤ decoder.limits.maxRequestBytes.toNat)
    (differs : declared ≠ actual) :
    decoder.decode reserve request capacity = .error (.protocol requestId .invalidArgument) ↔
      16 ≤ capacity.toNat ∧ fixed + declared < 2 ^ 64 := by
  constructor
  · intro failed
    obtain ⟨_, room, _⟩ := FrameDecoder.decode_rejects failed
    refine ⟨room, Nat.not_le.mp fun large => ?_⟩
    rw [tail.decode_status serves named within room differs, status, if_pos large] at failed
    cases failed
  · rintro ⟨room, small⟩
    rw [tail.decode_status serves named within room differs, status, if_neg (Nat.not_le.mpr small)]

/-- A write without data that declares this many bytes. -/
def emptyWrite (bytes : UInt64) : List UInt8 :=
  RequestHeader.codec.encode (RequestHeader.new .writeBuffer 24 1) ++
    (TransferBufferRequest.codec.encode ⟨1, 0, bytes⟩ ++ [])

theorem emptyWrite_declares {bytes : UInt64} (some : bytes ≠ 0) :
    DeclaresTail 1 (emptyWrite bytes) 24 bytes.toNat 0 := by
  have buffer : (1 : UInt64) ≠ 0 := by decide
  refine .write rfl buffer some ?_
  rw [UInt64.toNat_zero, Nat.zero_add]
  exact bytes.toNat_lt

theorem emptyWrite_served (bytes : UInt64) : (ByteSource.slice (emptyWrite bytes)).Serves (emptyWrite bytes) := by
  refine ByteSource.slice_serves ?_
  rw [emptyWrite, length_append, length_append, TransferBufferRequest.codec.encode_length]
  decide

def smallDecoder : FrameDecoder := ⟨⟨4, 4096, 4096, 4, 4096, 4096, 0⟩⟩

/-- Five bytes declared and none sent: an invalid argument. -/
theorem mismatch_iff_five : smallDecoder.decode true
    (.slice (emptyWrite 5)) 16 = .error (.protocol 1 .invalidArgument) :=
  (mismatch_iff (emptyWrite_declares (by decide)) (emptyWrite_served 5) (by decide) (by decide) (by decide)).mpr
    ⟨by decide, by decide⟩

/-- The largest length is answered as an excess of a limit. -/
theorem mismatch_fails : DeclaresTail 1 (emptyWrite 18446744073709551615) 24 18446744073709551615 0 ∧
    (emptyWrite 18446744073709551615).length ≤ smallDecoder.limits.maxRequestBytes.toNat ∧
    smallDecoder.decode true (.slice (emptyWrite 18446744073709551615)) 16 = .error (.protocol 1 .resourceLimit) ∧
    smallDecoder.decode true
      (.slice (emptyWrite 18446744073709551615)) 16 ≠ .error (.protocol 1 .invalidArgument) := by
  have declares : DeclaresTail 1 (emptyWrite 18446744073709551615) 24 18446744073709551615 0 :=
    emptyWrite_declares (by decide)
  have refused : smallDecoder.decode true (.slice (emptyWrite 18446744073709551615)) 16 =
      .error (.protocol 1 (status 24 18446744073709551615)) :=
    declares.decode_status (emptyWrite_served _) (by decide) (by decide) (by decide) (by decide)
  rw [status, if_pos (by decide)] at refused
  refine ⟨declares, by decide, refused, fun same => ?_⟩
  cases refused.symm.trans same

end DeclaresTail

end VirtioAccel
