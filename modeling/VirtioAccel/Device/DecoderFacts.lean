import VirtioAccel.Device.Decoder
import VirtioAccel.Proto.WireLayout

/-! What a successful decode has established. -/

namespace VirtioAccel
open Checked List
variable {opcode : KnownOpcode} {decoded : DecodedRequest} {id : ObjectId} {domain : MemoryDomain}
  {range : BufferRange}
  {offset bytes : UInt64} {byte : UInt8}

/-- What decoding guarantees about a body beyond its types. -/
def DecodedRequestBody.Valid : DecodedRequestBody → Prop
  | .writeBuffer _ range data => data.len = range.bytes
  | .submit _ _ bindings _ => bindings.Pairwise (fun left right => left.slot < right.slot)
  | _ => True

variable {bindings : List DecodedBinding}

theorem sortBindings_ascending
    (distinct : (sortBindings bindings).IsChain (fun left right => left.slot ≠ right.slot)) :
    (sortBindings bindings).Pairwise (fun left right => left.slot < right.slot) := by
  have total : Std.Total (fun left right : DecodedBinding => left.slot ≤ right.slot) :=
    ⟨fun a b => UInt32.le_total a.slot b.slot⟩
  have trans : IsTrans DecodedBinding (fun left right => left.slot ≤ right.slot) := ⟨fun _ _ _ => UInt32.le_trans⟩
  have ordered : (sortBindings bindings).Pairwise (fun left right => left.slot ≤ right.slot) :=
    pairwise_insertionSort _ bindings
  generalize sortBindings bindings = sorted at distinct ordered
  induction sorted with
  | nil => exact .nil
  | cons first rest ih =>
    obtain ⟨head, tail⟩ := pairwise_cons.mp ordered
    refine pairwise_cons.mpr ⟨fun other member => ?_, ih distinct.of_cons tail⟩
    -- The neighbour differs from `first` and lies below everything after it.
    cases rest with
    | nil => simp at member
    | cons next others =>
      have apart := (isChain_cons_cons.mp distinct).1
      have below := head next (mem_cons_self ..)
      have step : first.slot < next.slot := UInt32.lt_of_le_of_ne below apart
      rcases mem_cons.mp member with rfl | later
      · exact step
      · exact UInt32.lt_of_lt_of_le step ((pairwise_cons.mp tail).1 other later)

/-- Neighbours in the sorted list differ just when no slot occurs twice. -/
theorem sortBindings_isChain :
    (sortBindings bindings).IsChain (fun left right => left.slot ≠ right.slot) ↔
    (bindings.map DecodedBinding.slot).Nodup := by
  have perm := (perm_insertionSort (fun left right : DecodedBinding => left.slot ≤ right.slot) bindings).map
    DecodedBinding.slot
  constructor
  · intro chain
    refine perm.nodup_iff.mp (pairwise_map.mpr ((sortBindings_ascending chain).imp (fun below same => ?_)))
    rw [same] at below
    exact UInt32.lt_irrefl _ below
  · intro distinct
    exact (pairwise_map.mp (perm.nodup_iff.mpr distinct)).isChain

namespace FrameDecoder
variable {request : ByteSource} {decoder : FrameDecoder} {payloadBytes : UInt32} {reserve : Bool}

variable {body : DecodedRequestBody}

theorem decodeWriteBuffer_valid (accepted : decodeWriteBuffer request payloadBytes = .ok body) : body.Valid := by
  simp only [decodeWriteBuffer, bind_eq_ok, mapError_eq_ok, pure_eq_ok] at accepted
  obtain ⟨⟨bufferId, range⟩, _, data, opened, rfl⟩ := accepted
  unfold ByteSource.readableRegion at opened
  generalize checkedRange _ _ _ = checked at opened
  cases checked with
  | error => cases opened
  | ok => cases opened; rfl

theorem decodeSubmit_valid (accepted : decoder.decodeSubmit reserve request payloadBytes = .ok body) :
    body.Valid := by
  simp only [decodeSubmit, bind_eq_ok, refuseIf_eq_ok, pure_eq_ok, not_not] at accepted
  obtain ⟨_, _, _, _, _, _, _, _, _, _, _, _, _, _, bindings, _, _, distinct, _, _, _, _, rfl⟩ := accepted
  exact sortBindings_ascending distinct

theorem decodeBody_opcode (accepted : decoder.decodeBody reserve request payloadBytes opcode = .ok body) :
    body.opcode = opcode := by
  cases opcode <;>
    simp only [decodeBody, decodeCreateContext, decodeAllocateBuffer, decodeWriteBuffer, decodeLoadProgram,
      decodeCreateQueue, decodeSubmit, bind_eq_ok, pure_eq_ok] at accepted
  all_goals
    -- Every chain of checks ends in the one constructor of its command.
    repeat first
      | subst accepted; rfl
      | obtain ⟨_, _, accepted⟩ := accepted

theorem decodeBody_valid (accepted : decoder.decodeBody reserve request payloadBytes opcode = .ok body) :
    body.Valid := by
  have same := decodeBody_opcode accepted
  subst opcode
  cases body with
  | writeBuffer => exact decodeWriteBuffer_valid accepted
  | submit => exact decodeSubmit_valid accepted
  | _ => trivial

theorem decode_valid {capacity : UInt64} (accepted : decoder.decode reserve request capacity = .ok decoded) :
    decoded.body.Valid := by
  simp only [decode, bind_eq_ok, mapError_eq_ok, pure_eq_ok] at accepted
  obtain ⟨_, _, body, parsed, _, _, _, _, rfl⟩ := accepted
  exact decodeBody_valid parsed

end FrameDecoder

/-! What the decoder makes of the payload of a command: each command has one encoding. -/

theorem requestHeaderBytes_toNat : requestHeaderBytes.toNat = 16 := rfl
theorem responseHeaderBytes_toNat : responseHeaderBytes.toNat = 16 := rfl

/-- A value that stands somewhere in the request is read. -/
theorem readWire_serves {T : Type} {request : ByteSource} {bytes : List UInt8} {codec : Codec T}
    (serves : request.Serves bytes) (within : offset.toNat + codec.size ≤ bytes.length)
    (small : codec.size ≤ maxFixedPrefixBytes) :
    readWire request offset codec = .ok (codec.field bytes offset.toNat) := by
  unfold readWire
  rw [if_neg (Nat.not_lt.mpr small), serves.reads offset codec.size within]
  rfl

theorem readWire_head {T : Type} {request : ByteSource} {tail : List UInt8} {codec : Codec T} {value : T}
    (serves : request.Serves (codec.encode value ++ tail)) (small : codec.size ≤ maxFixedPrefixBytes) :
    readWire request 0 codec = .ok value := by
  have within : (0 : UInt64).toNat + codec.size ≤ (codec.encode value ++ tail).length := by
    rw [UInt64.toNat_zero, length_append, codec.encode_length]
    omega
  rw [readWire_serves serves within small, UInt64.toNat_zero, codec.field_encode_append]

theorem objectId_eq_ok {raw : UInt64} : objectId raw = .ok id ↔ id.raw = raw := by
  constructor
  · intro found
    unfold objectId ObjectId.fromRaw at found
    split at found
    · cases found
      rfl
    · cases found
  · rintro rfl
    simp [objectId, ObjectId.fromRaw, id.nonzero]

theorem decodeRange_eq_ok : decodeRange offset bytes = .ok range ↔ range.offset = offset ∧ range.bytes = bytes := by
  constructor
  · intro found
    unfold decodeRange BufferRange.new at found
    split at found
    · split at found
      · cases found
        exact ⟨rfl, rfl⟩
      · cases found
    · cases found
  · rintro ⟨rfl, rfl⟩
    rw [decodeRange, BufferRange.new, dif_pos range.bytes_nonzero, dif_pos range.end_fits]
    rfl

theorem BufferRange.not_refused (range : BufferRange) :
    ¬ (range.bytes = 0 ∨ 2 ^ 64 ≤ range.offset.toNat + range.bytes.toNat) :=
  not_or.mpr ⟨range.bytes_nonzero, Nat.not_le.mpr range.end_fits⟩

theorem MemoryDomain.tryFrom_eq_ok : MemoryDomain.tryFrom byte = .ok domain ↔ byte = domain.toU8 := by
  constructor
  · intro found
    unfold MemoryDomain.tryFrom at found
    split at found <;> cases found <;> rfl
  · rintro rfl
    cases domain <;> rfl

theorem AccessMode.tryFrom_eq_ok {access : AccessMode} :
    AccessMode.tryFrom byte = .ok access ↔ byte = access.toU8 := by
  constructor
  · intro found
    unfold AccessMode.tryFrom at found
    split at found <;> cases found <;> rfl
  · rintro rfl
    cases access <;> rfl

theorem artifactFormat_eq_ok {raw : UInt32} {format : ArtifactFormat} :
    (ArtifactFormat.new raw).elim (.error .invalid) .ok = (.ok format : Except BodyDecodeError ArtifactFormat) ↔
      format.value = raw := by
  unfold ArtifactFormat.new
  constructor
  · intro found
    split at found
    · cases found
      rfl
    · cases found
  · rintro rfl
    rw [dif_pos format.nonzero]
    rfl

theorem BufferDesc.new_eq_ok {alignment : UInt64} {usage : BufferUsage} {desc : BufferDesc} :
    BufferDesc.new bytes alignment domain usage = .ok desc ↔ desc.bytes = bytes ∧ desc.alignment = alignment ∧
      desc.domain = domain ∧ desc.usage = usage ∧ usage ≠ 0 ∧ Flags32.contains BufferUsage.all usage = true := by
  unfold BufferDesc.new
  constructor
  · intro made
    split at made
    · split at made
      · split at made
        · cases made
        rename_i allowed
        cases made
        exact ⟨rfl, rfl, rfl, rfl, fun none => allowed (.inl none),
          not_not.mp (fun unknown => allowed (.inr unknown))⟩
      · cases made
    · cases made
  · rintro ⟨rfl, rfl, rfl, rfl, some, known⟩
    rw [dif_pos desc.bytes_nonzero, dif_pos desc.alignment_power, if_neg]
    rintro (none | unknown)
    · exact some none
    · exact unknown known

/-- The one wire form of a binding. -/
def DecodedBinding.wire (self : DecodedBinding) : WireBinding :=
  ⟨self.bufferId.raw, self.range.offset, self.range.bytes, self.slot, self.access.toU8, Vector.replicate 3 0⟩

/-- A header, and the payload of a command behind it. -/
structure Framed (request : ByteSource) (payload : List UInt8) : Prop where
  serves : ∃ header : List UInt8, header.length = 16 ∧ request.Serves (header ++ payload)

namespace Framed
variable {request : ByteSource} {payload tail : List UInt8} {payloadBytes : UInt32} {decoder : FrameDecoder}
  {reserve : Bool}
  {body : DecodedRequestBody} {T β : Type} {codec : Codec T} {value : T}
variable {check : T → Except BodyDecodeError β} {place : UInt64} {b : β}

theorem readWire_field (framed : Framed request payload) (offset : Nat) (there : place.toNat = 16 + offset)
    (within : offset + codec.size ≤ payload.length) (small : codec.size ≤ maxFixedPrefixBytes) :
    readWire request place codec = .ok (codec.field payload offset) := by
  obtain ⟨header, size, serves⟩ := framed.serves
  have rest := Codec.field_drop (header ++ payload) offset codec 16
  rw [drop_left' size] at rest
  rw [readWire_serves serves (by rw [length_append]; omega) small, rest, there]

theorem readPayload_field (framed : Framed request payload) (within : codec.size ≤ payload.length)
    (small : codec.size ≤ maxFixedPrefixBytes) : readPayload request codec = .ok (codec.field payload 0) :=
  framed.readWire_field 0 rfl (by rw [Nat.zero_add]; exact within) small

theorem read (framed : Framed request (codec.encode value ++ tail)) (small : codec.size ≤ maxFixedPrefixBytes) :
    readPayload request codec = .ok value := by
  rw [framed.readPayload_field (by rw [length_append, codec.encode_length]; omega) small, codec.field_encode_append]

/-- The tail behind a fixed part, as the region the decoder cuts out. -/
theorem region (framed : Framed request (codec.encode value ++ tail)) {len : UInt64}
    (whole : tail.length = len.toNat) (small : codec.size ≤ maxFixedPrefixBytes) :
    ∃ data, request.readableRegion (requestHeaderBytes + UInt64.ofNat codec.size) len = .ok data ∧
    data.Serves tail := by
  obtain ⟨header, size, serves⟩ := framed.serves
  have fixed : codec.size ≤ 80 := small
  have place : (requestHeaderBytes + UInt64.ofNat codec.size).toNat = (header ++ codec.encode value).length := by
    rw [UInt64.toNat_add, UInt64.toNat_ofNat', requestHeaderBytes_toNat, length_append, size, codec.encode_length]
    omega
  rw [← append_assoc] at serves
  have inside : (requestHeaderBytes + UInt64.ofNat codec.size).toNat + len.toNat ≤
      ((header ++ codec.encode value) ++ tail).length := by
    rw [place, ← whole, ← length_append]
  obtain ⟨opened, served⟩ := serves.region inside
  rw [place, drop_left, ← whole, take_length] at served
  exact ⟨_, opened, served⟩

/-- A payload of a fixed size is the encoding of what is read from it. -/
theorem exact_eq_ok (framed : Framed request payload) (sized : payloadBytes.toNat = payload.length)
    (canonical : codec.Canonical) (small : codec.size ≤ maxFixedPrefixBytes) :
    (expectPayloadBytes payloadBytes codec.size >>= fun _ => readPayload request codec >>= check) = .ok b ↔
      ∃ value, payload = codec.encode value ∧ check value = .ok b := by
  simp only [expectPayloadBytes, bind_eq_ok, refuseIf_eq_ok, not_not, sized, ← canonical.field_iff]
  constructor
  · rintro ⟨_, length, value, read, checked⟩
    cases (framed.readPayload_field (by omega) small).symm.trans read
    exact ⟨_, ⟨length, rfl⟩, checked⟩
  · rintro ⟨_, ⟨length, rfl⟩, checked⟩
    exact ⟨(), length, _, framed.readPayload_field (by omega) small, checked⟩

/-- The same for a fixed part with something behind it. -/
theorem prefix_eq_ok (framed : Framed request payload) (sized : payloadBytes.toNat = payload.length)
    (canonical : codec.Canonical) (small : codec.size ≤ maxFixedPrefixBytes) :
    (refuseIf (payloadBytes.toNat < codec.size) .invalid >>= fun _ => readPayload request codec >>= check) = .ok b ↔
      ∃ value tail, payload = codec.encode value ++ tail ∧ check value = .ok b := by
  simp only [bind_eq_ok, refuseIf_eq_ok, Nat.not_lt, sized, ← canonical.append_iff]
  constructor
  · rintro ⟨_, enough, value, read, checked⟩
    cases (framed.readPayload_field (by omega) small).symm.trans read
    exact ⟨_, _, ⟨enough, rfl, rfl⟩, checked⟩
  · rintro ⟨_, _, ⟨enough, rfl, _⟩, checked⟩
    exact ⟨(), enough, _, framed.readPayload_field (by omega) small, checked⟩

section Commands
variable (framed : Framed request payload) (sized : payloadBytes.toNat = payload.length)
include framed sized

theorem object_eq_ok :
    decodeObject request payloadBytes = .ok id ↔ payload = ObjectPayload.codec.encode ⟨id.raw⟩ := by
  refine (framed.exact_eq_ok sized ObjectPayload.canonical (by decide)).trans ?_
  simp only [objectId_eq_ok]
  constructor
  · rintro ⟨⟨_⟩, rfl, rfl⟩
    rfl
  rintro rfl
  exact ⟨_, rfl, rfl⟩

theorem createContext_eq_ok : FrameDecoder.decodeCreateContext request payloadBytes = .ok body ↔
    payload = CreateContextRequest.codec.encode ⟨0, 0⟩ ∧ .createContext ⟨0⟩ = body := by
  refine (framed.exact_eq_ok sized CreateContextRequest.canonical (by decide)).trans ?_
  simp only [bind_eq_ok, refuseIf_eq_ok, not_not, pure_eq_ok]
  constructor
  · rintro ⟨⟨_, _⟩, rfl, _, rfl, _, rfl, rfl⟩
    exact ⟨rfl, rfl⟩
  rintro ⟨rfl, rfl⟩
  exact ⟨_, rfl, (), rfl, (), rfl, rfl⟩

theorem createQueue_eq_ok : FrameDecoder.decodeCreateQueue request payloadBytes = .ok body ↔
    ∃ id : ObjectId, payload = CreateQueueRequest.codec.encode ⟨id.raw, 0, 0⟩ ∧ .createQueue id ⟨0⟩ = body := by
  refine (framed.exact_eq_ok sized CreateQueueRequest.canonical (by decide)).trans ?_
  simp only [bind_eq_ok, refuseIf_eq_ok, not_not, pure_eq_ok, objectId_eq_ok]
  constructor
  · rintro ⟨⟨_, _, _⟩, rfl, _, rfl, _, rfl, id, rfl, rfl⟩
    exact ⟨id, rfl, rfl⟩
  rintro ⟨id, rfl, rfl⟩
  exact ⟨_, rfl, (), rfl, (), rfl, id, rfl, rfl⟩

theorem allocateBuffer_eq_ok : decoder.decodeAllocateBuffer request payloadBytes = .ok body ↔
    ∃ (id : ObjectId) (desc : BufferDesc),
    payload = AllocateBufferRequest.codec.encode ⟨id.raw, desc.bytes, desc.alignment,
        desc.domain.toU8, Vector.replicate 7 0, desc.usage, 0⟩ ∧
      (desc.usage ≠ 0 ∧ Flags32.contains BufferUsage.all desc.usage = true) ∧
      desc.bytes ≤ decoder.limits.maxBufferBytes ∧
      decoder.limits.capabilities.supportsMemoryDomain desc.domain = true ∧ .allocateBuffer id desc = body := by
  refine (framed.exact_eq_ok sized AllocateBufferRequest.canonical (by decide)).trans ?_
  simp only [bind_eq_ok, refuseIf_eq_ok, mapError_eq_ok, not_not, not_or, pure_eq_ok,
    objectId_eq_ok, MemoryDomain.tryFrom_eq_ok, BufferDesc.new_eq_ok, UInt64.not_lt]
  constructor
  · rintro ⟨⟨_, _, _, _, _, _, _⟩, rfl, id, rfl, _, ⟨rfl, rfl⟩, _, rfl, _, known, _, some, desc,
      ⟨rfl, rfl, rfl, rfl, _⟩, _, small, _, supported, rfl⟩
    exact ⟨id, desc, rfl, ⟨some, known⟩, small, supported, rfl⟩
  · rintro ⟨id, desc, rfl, ⟨some, known⟩, small, supported, rfl⟩
    exact ⟨_, rfl, id, rfl, (), ⟨rfl, rfl⟩, _, rfl, (), known, (), some, desc, ⟨rfl, rfl, rfl, rfl, some, known⟩,
      (), small, (), supported, rfl⟩

/-- A transfer prefix, alone or with its data behind it. -/
theorem transfer_eq_ok {hasData : Bool} :
    decodeTransfer request payloadBytes hasData = .ok (id, range) ↔ ∃ tail,
      payload = TransferBufferRequest.codec.encode ⟨id.raw, range.offset, range.bytes⟩ ++ tail ∧
      tail.length = if hasData then range.bytes.toNat else 0 := by
  have bound := payloadBytes.toNat_lt
  refine (framed.prefix_eq_ok sized TransferBufferRequest.canonical (by decide)).trans ?_
  simp only [bind_eq_ok, refuseIf_eq_ok, not_not, sized, objectId_eq_ok, decodeRange_eq_ok]
  constructor
  · rintro ⟨⟨_, _, _⟩, tail, rfl, _, _, _, _, _, length, _, rfl, _, ⟨rfl, rfl⟩, same⟩
    cases same
    rw [length_append] at length
    exact ⟨tail, rfl, (Nat.add_left_cancel length).symm⟩
  · rintro ⟨tail, rfl, length⟩
    rw [length_append, TransferBufferRequest.codec.encode_length] at sized ⊢
    refine ⟨_, tail, rfl, (), range.not_refused, (), ?_, (), by rw [length], id, rfl, range, ⟨rfl, rfl⟩, rfl⟩
    rintro ⟨data, past⟩
    rw [if_pos data] at length
    dsimp only at past
    omega

theorem writeBuffer_eq_ok : FrameDecoder.decodeWriteBuffer request payloadBytes = .ok body ↔
    ∃ (id : ObjectId) (range : BufferRange) (tail : List UInt8) (data : ByteSource),
      payload = TransferBufferRequest.codec.encode ⟨id.raw, range.offset, range.bytes⟩ ++ tail ∧
      tail.length = range.bytes.toNat ∧ request.readableRegion (requestHeaderBytes +
        UInt64.ofNat TransferBufferRequest.codec.size) range.bytes = .ok data ∧ data.Serves tail ∧
      .writeBuffer id range data = body := by
  simp only [FrameDecoder.decodeWriteBuffer, bind_eq_ok, mapError_eq_ok, pure_eq_ok]
  constructor
  · rintro ⟨⟨id, range⟩, transfer, data, opened, rfl⟩
    obtain ⟨tail, rfl, length⟩ := (framed.transfer_eq_ok sized).mp transfer
    obtain ⟨_, again, served⟩ := framed.region length (by decide)
    cases opened.symm.trans again
    exact ⟨id, range, tail, data, rfl, length, opened, served, rfl⟩
  · rintro ⟨id, range, tail, data, rfl, length, opened, _, rfl⟩
    exact ⟨(id, range), (framed.transfer_eq_ok sized).mpr ⟨tail, rfl, length⟩, data, opened, rfl⟩

theorem loadProgram_eq_ok : decoder.decodeLoadProgram request payloadBytes = .ok body ↔
    ∃ (id : ObjectId) (format : ArtifactFormat) (target : TargetIdentity) (artifactBytes residentBytes : UInt64)
      (tail : List UInt8) (data : ByteSource),
      payload = LoadProgramRequest.codec.encode ⟨id.raw, format.value, 0, target,
        artifactBytes, residentBytes⟩ ++ tail ∧ tail.length = artifactBytes.toNat ∧
          (artifactBytes ≠ 0 ∧ residentBytes ≠ 0) ∧
      artifactBytes ≤ decoder.limits.maxArtifactBytes ∧ request.readableRegion (requestHeaderBytes +
        UInt64.ofNat LoadProgramRequest.codec.size) artifactBytes = .ok data ∧ data.Serves tail ∧
      .loadProgram id format target data residentBytes = body := by
  have bound := payloadBytes.toNat_lt
  refine (framed.prefix_eq_ok sized LoadProgramRequest.canonical (by decide)).trans ?_
  simp only [bind_eq_ok, refuseIf_eq_ok, mapError_eq_ok, not_not, not_or, sized, pure_eq_ok,
    objectId_eq_ok, artifactFormat_eq_ok, UInt64.not_lt]
  constructor
  · rintro ⟨⟨_, _, _, target, artifactBytes, residentBytes⟩, tail, rfl, _, rfl, id, rfl, format, rfl, _, some, _,
      _, _, length, _, small, data, opened, rfl⟩
    rw [length_append, LoadProgramRequest.codec.encode_length] at length
    have whole : tail.length = artifactBytes.toNat := (Nat.add_left_cancel length).symm
    obtain ⟨_, again, served⟩ := framed.region whole (by decide)
    cases opened.symm.trans again
    exact ⟨id, format, target, artifactBytes, residentBytes, tail, data, rfl, whole, some, small, opened,
      served, rfl⟩
  · rintro ⟨id, format, target, artifactBytes, residentBytes, tail, data, rfl, whole, some, small, opened, _, rfl⟩
    rw [length_append, LoadProgramRequest.codec.encode_length] at sized ⊢
    exact ⟨_, tail, rfl, (), rfl, id, rfl, format, rfl, (), some, (), by dsimp only; omega, (), by rw [whole], (),
      small, data, opened, rfl⟩

end Commands

/-- A binding is read from its own bytes, and from no others. -/
theorem binding_eq_ok (framed : Framed request payload) {offset : Nat} (there : place.toNat = 16 + offset)
    (within : offset + 32 ≤ payload.length) {decoded : DecodedBinding} :
    decodeBinding request place = .ok decoded ↔ WireBinding.codec.field payload offset = decoded.wire := by
  have read : readWire request place WireBinding.codec = _ := framed.readWire_field offset there within (by decide)
  simp only [decodeBinding, read, bind_eq_ok, Except.ok.injEq, exists_eq_left', refuseIf_eq_ok,
    mapError_eq_ok, pure_eq_ok, not_not, decodeRange_eq_ok, AccessMode.tryFrom_eq_ok, objectId_eq_ok]
  generalize WireBinding.codec.field payload offset = wire
  constructor
  · rintro ⟨_, padding, _, _, range, ⟨offset, bytes⟩, access, mode, id, raw, rfl⟩
    rw [DecodedBinding.wire, raw, offset, bytes, ← mode, ← padding]
  rintro rfl
  exact ⟨(), rfl, (), decoded.range.not_refused, decoded.range, ⟨rfl, rfl⟩, decoded.access, rfl,
    decoded.bufferId, rfl, rfl⟩

/-- The array of bindings behind the fixed part of a submission. -/
theorem bindings_eq_ok {fixed : SubmitRequest} (framed : Framed request (SubmitRequest.codec.encode fixed ++ tail))
    {count : Nat} (few : count ≤ 4096) (length : tail.length = count * 32) :
    (List.range count).mapM (fun index => decodeBinding request (requestHeaderBytes +
      UInt64.ofNat SubmitRequest.codec.size + UInt64.ofNat (index * WireBinding.codec.size))) = .ok bindings ↔
    bindings.length = count ∧ tail = (bindings.map DecodedBinding.wire).flatMap WireBinding.codec.encode := by
  have size : (SubmitRequest.codec.encode fixed).length = 32 := SubmitRequest.codec.encode_length fixed
  have each (index : Nat) (below : index < count) (decoded : DecodedBinding) :
      decodeBinding request (requestHeaderBytes + UInt64.ofNat SubmitRequest.codec.size +
        UInt64.ofNat (index * WireBinding.codec.size)) = .ok decoded ↔
      WireBinding.codec.field tail (index * 32) = decoded.wire := by
    have place : (requestHeaderBytes + UInt64.ofNat SubmitRequest.codec.size +
        UInt64.ofNat (index * WireBinding.codec.size)).toNat = 16 + (32 + index * 32) := by
      rw [UInt64.toNat_add, UInt64.toNat_ofNat', WireBinding.codec_size,
        show (requestHeaderBytes + UInt64.ofNat SubmitRequest.codec.size).toNat = 48 from rfl]
      omega
    rw [framed.binding_eq_ok place (by rw [length_append]; omega), ← Codec.field_drop, drop_left' size]
  have sameLength : (range count).length = bindings.length ↔ bindings.length = count := by
    rw [length_range, eq_comm]
  rw [mapM_eq_ok, forall₂_iff_get, sameLength]
  refine and_congr_right (fun counted => ?_)
  rw [← WireBinding.canonical.flatMap_iff (by rw [length_map, counted]; exact length)]
  constructor
  · intro entries i inside
    rw [length_map] at inside
    have entry := entries i (by omega) inside
    rw [get_eq_getElem, get_eq_getElem, getElem_range] at entry
    rw [getElem_map]
    exact (each i (by omega) _).mp entry
  · intro fields i below inside
    have entry := fields i (by rw [length_map]; exact inside)
    rw [getElem_map] at entry
    rw [get_eq_getElem, get_eq_getElem, getElem_range]
    exact (each i (by omega) _).mpr entry

/-- A submission is taken for what it says. -/
theorem submit_eq_ok (framed : Framed request payload) (sized : payloadBytes.toNat = payload.length) :
    decoder.decodeSubmit reserve request payloadBytes = .ok body ↔
      ∃ (queueId programId : ObjectId) (bindings : List DecodedBinding) (timeoutNs : UInt64),
        payload = SubmitRequest.codec.encode ⟨queueId.raw, programId.raw, UInt32.ofNat bindings.length, 0,
          timeoutNs⟩ ++
          (bindings.map DecodedBinding.wire).flatMap WireBinding.codec.encode ∧ bindings ≠ [] ∧
        (bindings.length ≤ decoder.limits.maxBindings.toNat ∧ bindings.length ≤ hardMaxBindings.toNat) ∧
        (bindings.map DecodedBinding.slot).Nodup ∧ reserve = true ∧
        .submit queueId programId (sortBindings bindings) (Timeout.fromWireNs timeoutNs) = body := by
  have most : hardMaxBindings.toNat = 4096 := rfl
  refine (framed.prefix_eq_ok sized SubmitRequest.canonical (by decide)).trans ?_
  simp only [bind_eq_ok, refuseIf_eq_ok, pure_eq_ok, not_not, not_or, Bool.not_eq_false, sized,
    objectId_eq_ok, UInt32.lt_iff_toNat_lt, Nat.not_lt, sortBindings_isChain]
  constructor
  · rintro ⟨⟨_, _, count, _, timeoutNs⟩, tail, rfl, _, rfl, _, some, _, few, _, length, _, room, bindings, decoded,
      _, distinct, queueId, rfl, programId, rfl, rfl⟩
    rw [length_append, SubmitRequest.codec.encode_length] at length
    obtain ⟨counted, rfl⟩ := (framed.bindings_eq_ok (most ▸ few.2) (Nat.add_left_cancel length).symm).mp decoded
    rw [← counted] at few
    refine ⟨queueId, programId, bindings, timeoutNs, ?_, ?_, few, distinct, room, rfl⟩
    · rw [counted, UInt32.ofNat_toNat]
    rintro rfl
    exact some (UInt32.toNat_inj.mp counted.symm)
  · rintro ⟨queueId, programId, bindings, timeoutNs, rfl, some, few, distinct, room, rfl⟩
    have count : (UInt32.ofNat bindings.length).toNat = bindings.length := by
      rw [UInt32.toNat_ofNat', Nat.mod_eq_of_lt (by omega)]
    have size : ((bindings.map DecodedBinding.wire).flatMap WireBinding.codec.encode).length =
        bindings.length * 32 := by
      rw [WireBinding.codec.flatMap_length, length_map, WireBinding.codec_size]
    refine ⟨_, _, rfl, (), rfl, (), ?_, (), by rw [count]; exact few, (), ?_, (), room, bindings, ?_, (), distinct,
      queueId, rfl, programId, rfl, rfl⟩
    · intro none
      rw [show UInt32.ofNat bindings.length = 0 from none] at count
      exact some (length_eq_zero_iff.mp count.symm)
    · rw [length_append, SubmitRequest.codec.encode_length, size, count, WireBinding.codec_size]
    · rw [count]
      exact (framed.bindings_eq_ok (most ▸ few.2) size).mpr ⟨rfl, rfl⟩

/-- A submission that is accepted is taken for what it says. -/
theorem submit_taken {queueId programId : ObjectId} {timeoutNs : UInt64} (some : bindings ≠ [])
    (distinct : (bindings.map DecodedBinding.slot).Nodup) (few : bindings.length < 2 ^ 32)
    (framed : Framed request
      (SubmitRequest.codec.encode ⟨queueId.raw, programId.raw, UInt32.ofNat bindings.length, 0, timeoutNs⟩ ++
        (bindings.map DecodedBinding.wire).flatMap WireBinding.codec.encode))
    (sized : payloadBytes.toNat =
      (SubmitRequest.codec.encode ⟨queueId.raw, programId.raw, UInt32.ofNat bindings.length, 0, timeoutNs⟩ ++
        (bindings.map DecodedBinding.wire).flatMap WireBinding.codec.encode).length)
    (found : decoder.decodeSubmit reserve request payloadBytes = .ok body) :
    body = .submit queueId programId (sortBindings bindings) (Timeout.fromWireNs timeoutNs) := by
  have count : (UInt32.ofNat bindings.length).toNat = bindings.length := by
    rw [UInt32.toNat_ofNat_of_lt' few]
  have checked := found
  simp only [FrameDecoder.decodeSubmit, bind_eq_ok, refuseIf_eq_ok] at checked
  obtain ⟨_, _, value, read, _, _, _, _, _, admitted, _, _, _, reserved, _⟩ := checked
  cases (framed.read (by decide)).symm.trans read
  simp only [not_or, UInt32.lt_iff_toNat_lt, count, Nat.not_lt] at admitted
  rw [Bool.not_eq_false] at reserved
  have taken := (framed.submit_eq_ok sized).mpr
    ⟨queueId, programId, bindings, timeoutNs, rfl, some, admitted, distinct, reserved, rfl⟩
  exact Except.ok.inj (found.symm.trans taken)

end Framed

namespace FrameDecoder
variable {decoder : FrameDecoder} {request : ByteSource} {capacity : UInt64}
variable {payload : List UInt8} {requestId : UInt64} {payloadBytes : UInt32}

/-- A frame that is accepted had its body decoded under its own opcode. -/
theorem decode_body {reserve : Bool}
    (head : readWire request 0 RequestHeader.codec = .ok (RequestHeader.new opcode payloadBytes requestId))
    (accepted : decoder.decode reserve request capacity = .ok decoded) :
    decoder.decodeBody reserve request payloadBytes opcode = .ok decoded.body := by
  simp only [decode, bind_eq_ok, mapError_eq_ok, pure_eq_ok] at accepted
  obtain ⟨⟨header, found⟩, parsed, body, decodes, _, _, _, _, rfl⟩ := accepted
  simp only [decodeHeader, bind_eq_ok, mapError_eq_ok, pure_eq_ok] at parsed
  obtain ⟨_, _, _, _, header', read, _, _, _, _, _, _, _, _, opcode', known, same⟩ := parsed
  cases same
  cases head.symm.trans read
  simp only [RequestHeader.knownOpcode, RequestHeader.new, KnownOpcode.tryFrom_toU16, Option.elim_some] at known
  cases known
  exact decodes

section
variable (serves : request.Serves
  (RequestHeader.codec.encode (RequestHeader.new opcode payloadBytes requestId) ++ payload))
    (sized : payload.length = payloadBytes.toNat) (named : requestId ≠ 0)
include serves sized named

theorem decodeHeader_serves (within : 16 + payload.length ≤ decoder.limits.maxRequestBytes.toNat)
    (room : 16 ≤ capacity.toNat) :
    decoder.decodeHeader request capacity = .ok (RequestHeader.new opcode payloadBytes requestId, opcode) := by
  have total : request.len.toNat = 16 + payloadBytes.toNat := by
    rw [serves.length, length_append, RequestHeader.codec.encode_length, sized, RequestHeader.codec_size]
  have head : readWire request 0 RequestHeader.codec = .ok (RequestHeader.new opcode payloadBytes requestId) :=
    readWire_head serves (by decide)
  simp only [decodeHeader, bind_eq_ok, mapError_eq_ok, refuseIf_eq_ok, pure_eq_ok]
  refine ⟨(), ?_, (), ?_, _, head, (), ?_, (), ?_, (), named, (), by simp [RequestHeader.new], opcode, ?_, rfl⟩
  · rw [UInt64.lt_iff_toNat_lt, responseHeaderBytes_toNat]
    omega
  · rw [UInt64.lt_iff_toNat_lt, requestHeaderBytes_toNat]
    omega
  · omega
  · rw [total]
    exact fun differs => differs rfl
  · simp [RequestHeader.knownOpcode, RequestHeader.new, KnownOpcode.tryFrom_toU16]

/-- A frame whose body decodes and whose response fits is accepted. -/
theorem decode_serves {reserve : Bool} {body : DecodedRequestBody}
    (within : 16 + payload.length ≤ decoder.limits.maxRequestBytes.toNat)
    (parsed : decoder.decodeBody reserve request payloadBytes opcode = .ok body)
    (fits : body.requiredResponseBytes ≤ decoder.limits.maxResponseBytes.toNat)
    (room : body.requiredResponseBytes ≤ capacity.toNat) :
    decoder.decode reserve request capacity =
      .ok { requestId, requiredResponseBytes := UInt32.ofNat body.requiredResponseBytes, body } := by
  have header : 16 ≤ body.requiredResponseBytes := Nat.le_add_right 16 _
  simp only [decode, bind_eq_ok, mapError_eq_ok, refuseIf_eq_ok, pure_eq_ok]
  exact ⟨_, decodeHeader_serves serves sized named within (by omega), body, parsed, (), by omega, (), by omega, rfl⟩

end

end FrameDecoder

end VirtioAccel
