import VirtioAccel.Conformance.CleanRoomEncoding
import VirtioAccel.Device.DecoderFacts

/-! Two decoders for one format: the device's and the clean-room one take the
same frames, for the same requests. -/

namespace VirtioAccel
open Checked List
variable {body : DecodedRequestBody}

/-! What the two decoders have in common -/

/-- The fields of a binding, as they stand on the wire. -/
def DecodedBinding.plain (self : DecodedBinding) : CleanRoom.Binding :=
  ⟨self.bufferId.raw, self.range.offset, self.range.bytes, self.slot, self.access.toU8⟩

/-- The two bodies are of one command, with the same values in their fields. -/
inductive SameBody : DecodedRequestBody → CleanRoom.RequestBody → Prop where
  | getDeviceInfo : SameBody .getDeviceInfo .getDeviceInfo
  | createContext : SameBody (.createContext ⟨0⟩) .createContext
  | destroyContext {id} : SameBody (.destroyContext id) (.destroyContext id.raw)
  | allocateBuffer {id desc} : SameBody (.allocateBuffer id desc)
      (.allocateBuffer ⟨id.raw, desc.bytes, desc.alignment, desc.domain.toU8, desc.usage⟩)
  | freeBuffer {id} : SameBody (.freeBuffer id) (.freeBuffer id.raw)
  | writeBuffer {id range source data} (served : source.Serves data) :
    SameBody (.writeBuffer id range source) (.writeBuffer ⟨id.raw, range.offset, range.bytes⟩ data)
  | readBuffer {id range} : SameBody (.readBuffer id range) (.readBuffer ⟨id.raw, range.offset, range.bytes⟩)
  | loadProgram {id format target source residentBytes artifact} (served : source.Serves artifact) :
    SameBody (.loadProgram id format target source residentBytes)
      (.loadProgram ⟨id.raw, format.value, target, residentBytes, artifact⟩)
  | unloadProgram {id} : SameBody (.unloadProgram id) (.unloadProgram id.raw)
  | createQueue {id} : SameBody (.createQueue id ⟨0⟩) (.createQueue id.raw)
  | destroyQueue {id} : SameBody (.destroyQueue id) (.destroyQueue id.raw)
  | submit {queueId programId bindings timeout encoded values} (listed : encoded.list = .ok values)
      (same : (bindings.map DecodedBinding.plain).Perm values)
      (sorted : bindings.Pairwise (fun left right => left.slot < right.slot)) :
    SameBody (.submit queueId programId bindings timeout)
      (.submit ⟨queueId.raw, programId.raw, timeout.toWireNs, encoded⟩)
  | pollEvent {id} : SameBody (.pollEvent id) (.pollEvent id.raw)
  | cancelEvent {id} : SameBody (.cancelEvent id) (.cancelEvent id.raw)
  | destroyEvent {id} : SameBody (.destroyEvent id) (.destroyEvent id.raw)

variable {clean : CleanRoom.RequestBody}

theorem SameBody.opcode (same : SameBody body clean) : body.opcode.toU16 = clean.opcode.toU16 := by
  cases same <;> rfl

/-- A read whose data fits behind the header of the largest response. -/
def CleanRoom.RequestBody.ResponseFits (self : RequestBody) : Prop :=
  ∀ transfer, self = .readBuffer transfer → 16 + transfer.bytes.toNat ≤ 16777216

/-- The clean-room's opcode under the name the device has for it. -/
def CleanRoom.Opcode.known : Opcode → KnownOpcode
  | getDeviceInfo => .getDeviceInfo
  | createContext => .createContext
  | destroyContext => .destroyContext
  | allocateBuffer => .allocateBuffer
  | freeBuffer => .freeBuffer
  | writeBuffer => .writeBuffer
  | readBuffer => .readBuffer
  | loadProgram => .loadProgram
  | unloadProgram => .unloadProgram
  | createQueue => .createQueue
  | destroyQueue => .destroyQueue
  | submit => .submit
  | pollEvent => .pollEvent
  | cancelEvent => .cancelEvent
  | destroyEvent => .destroyEvent

section Bodies
variable {request : ByteSource} {payload : List UInt8} {payloadBytes : UInt32} {decoder : FrameDecoder}
variable {byte : UInt8}

/-- The limits of a decoder that refuses nothing that the format allows. -/
structure FrameDecoder.Widest (decoder : FrameDecoder) : Prop where
  maxRequestBytes : decoder.limits.maxRequestBytes = hardMaxRequestBytes
  maxResponseBytes : decoder.limits.maxResponseBytes = hardMaxResponseBytes
  maxBindings : decoder.limits.maxBindings = hardMaxBindings
  maxBufferBytes : decoder.limits.maxBufferBytes = 18446744073709551615
  maxArtifactBytes : decoder.limits.maxArtifactBytes = 18446744073709551615
  domains : ∀ domain, decoder.limits.capabilities.supportsMemoryDomain domain = true

theorem UInt64.le_max (value : UInt64) : value ≤ 18446744073709551615 := by
  exact Nat.le_pred_of_lt value.toNat_lt

theorem one_to_three : 1 ≤ byte ∧ byte ≤ 3 ↔ byte = 1 ∨ byte = 2 ∨ byte = 3 := by
  simp only [UInt8.le_iff_toNat_le, ← UInt8.toNat_inj, UInt8.reduceToNat]
  omega

theorem MemoryDomain.exists_toU8 : (∃ domain : MemoryDomain, byte = domain.toU8) ↔ 1 ≤ byte ∧ byte ≤ 3 := by
  rw [one_to_three]
  constructor
  · rintro ⟨domain, rfl⟩
    cases domain <;> decide
  rintro (rfl | rfl | rfl)
  · exact ⟨.host, rfl⟩
  · exact ⟨.device, rfl⟩
  · exact ⟨.shared, rfl⟩

theorem AccessMode.exists_toU8 : (∃ access : AccessMode, byte = access.toU8) ↔ 1 ≤ byte ∧ byte ≤ 3 := by
  rw [one_to_three]
  constructor
  · rintro ⟨access, rfl⟩
    cases access <;> decide
  rintro (rfl | rfl | rfl)
  · exact ⟨.read, rfl⟩
  · exact ⟨.write, rfl⟩
  · exact ⟨.readWrite, rfl⟩

theorem usage_known {usage : UInt32} :
    Flags32.contains BufferUsage.all usage = true ↔ usage &&& ~~~CleanRoom.knownBufferUsageBits = 0 := by
  have bits : CleanRoom.knownBufferUsageBits = BufferUsage.all := rfl
  rw [Flags32.contains, beq_iff_eq, bits]
  constructor
  · intro same
    rw [← same, UInt32.and_comm BufferUsage.all, UInt32.and_assoc, UInt32.and_not_self, UInt32.and_zero]
  intro zero
  refine UInt32.toBitVec_inj.mp (BitVec.eq_of_getLsbD_eq (fun i inside => ?_))
  have bit := congrArg (fun word : UInt32 => word.toBitVec.getLsbD i) zero
  simp only [UInt32.toBitVec_and, UInt32.toBitVec_not, BitVec.getLsbD_and, BitVec.getLsbD_not] at bit ⊢
  cases set : usage.toBitVec.getLsbD i with
  | false => rw [Bool.and_false]
  | true =>
    rw [set, decide_eq_true inside] at bit
    simpa using bit

/-- An allocation that the clean-room decoder lets through, with the types of the device. -/
theorem CleanRoom.AllocateBuffer.Valid.typed {request : AllocateBuffer} (valid : request.Valid) :
    ∃ (id : ObjectId) (desc : BufferDesc),
      request = ⟨id.raw, desc.bytes, desc.alignment, desc.domain.toU8, desc.usage⟩ ∧ desc.usage ≠ 0 ∧
        Flags32.contains BufferUsage.all desc.usage = true := by
  obtain ⟨contextId, bytes, alignment, memoryDomain, usage⟩ := request
  obtain ⟨domain, rfl⟩ := MemoryDomain.exists_toU8.mpr valid.memoryDomain
  exact ⟨⟨_, valid.contextId⟩, ⟨bytes, alignment, domain, usage, valid.bytes, valid.alignment⟩, rfl, valid.usage,
    usage_known.mpr valid.known⟩

theorem CleanRoom.AllocateBuffer.Valid.of_typed {id : ObjectId} {desc : BufferDesc} (some : desc.usage ≠ 0)
    (known : Flags32.contains BufferUsage.all desc.usage = true) :
    AllocateBuffer.Valid ⟨id.raw, desc.bytes, desc.alignment, desc.domain.toU8, desc.usage⟩ :=
  ⟨id.nonzero, desc.bytes_nonzero, desc.alignment_power, MemoryDomain.exists_toU8.mp ⟨_, rfl⟩, some,
    usage_known.mp known⟩

/-- A transfer that the clean-room decoder lets through, with the types of the device. -/
theorem CleanRoom.TransferBuffer.Valid.typed {transfer : TransferBuffer} (valid : transfer.Valid) :
    ∃ (id : ObjectId) (range : BufferRange), transfer = ⟨id.raw, range.offset, range.bytes⟩ :=
  ⟨⟨_, valid.bufferId⟩, ⟨_, _, valid.bytes, valid.ends⟩, rfl⟩

theorem CleanRoom.TransferBuffer.Valid.of_typed (id : ObjectId) (range : BufferRange) :
    TransferBuffer.Valid ⟨id.raw, range.offset, range.bytes⟩ := ⟨id.nonzero, range.bytes_nonzero, range.end_fits⟩

/-- A binding that the clean-room decoder lets through, with the types of the device. -/
theorem CleanRoom.Binding.Valid.typed {binding : Binding} (valid : binding.Valid) :
    ∃ decoded : DecodedBinding, binding = decoded.plain := by
  obtain ⟨bufferId, offset, bytes, slot, access⟩ := binding
  obtain ⟨mode, rfl⟩ := AccessMode.exists_toU8.mpr valid.access
  exact ⟨⟨⟨_, valid.bufferId⟩, ⟨offset, bytes, valid.bytes, valid.ends⟩, slot, mode⟩, rfl⟩

theorem CleanRoom.Binding.Valid.of_typed (decoded : DecodedBinding) : decoded.plain.Valid :=
  ⟨decoded.bufferId.nonzero, decoded.range.bytes_nonzero, AccessMode.exists_toU8.mp ⟨_, rfl⟩,
    decoded.range.end_fits⟩

theorem Timeout.toWireNs_fromWireNs (value : UInt64) : (Timeout.fromWireNs value).toWireNs = value := by
  unfold Timeout.fromWireNs
  split
  · rfl
  rename_i zero
  exact (not_not.mp zero).symm

theorem SameBody.submit_wire {queueId programId : ObjectId} {bindings : List DecodedBinding} {timeoutNs : UInt64}
    {encoded : CleanRoom.Bindings} (listed : encoded.list = .ok (bindings.map DecodedBinding.plain))
    (distinct : (bindings.map DecodedBinding.slot).Nodup) :
    SameBody (.submit queueId programId (sortBindings bindings) (Timeout.fromWireNs timeoutNs))
      (.submit ⟨queueId.raw, programId.raw, timeoutNs, encoded⟩) := by
  have sorted := sortBindings_ascending (sortBindings_isChain.mpr distinct)
  have same : SameBody (.submit queueId programId (sortBindings bindings) (Timeout.fromWireNs timeoutNs))
      (.submit ⟨queueId.raw, programId.raw, (Timeout.fromWireNs timeoutNs).toWireNs, encoded⟩) :=
    .submit listed ((perm_insertionSort _ bindings).map _) sorted
  rwa [Timeout.toWireNs_fromWireNs] at same

/-- The device takes no body that the clean-room decoder refuses. -/
theorem Framed.decodeBody_taken (framed : Framed request payload) (sized : payloadBytes.toNat = payload.length)
    {opcode : KnownOpcode} (taken : decoder.decodeBody true request payloadBytes opcode = .ok body) :
    ∃ clean len, SameBody body clean ∧ clean.payload = payload ∧ CleanRoom.requestPayloadLen clean = .ok len ∧
    clean.Raw := by
  cases opcode with
  | getDeviceInfo =>
    simp only [FrameDecoder.decodeBody, expectPayloadBytes, bind_eq_ok, refuseIf_eq_ok, not_not, sized,
      pure_eq_ok] at taken
    obtain ⟨_, empty, rfl⟩ := taken
    exact ⟨_, _, .getDeviceInfo, (length_eq_zero_iff.mp empty).symm, rfl, trivial⟩
  | createContext =>
    obtain ⟨rfl, rfl⟩ := (framed.createContext_eq_ok sized).mp taken
    exact ⟨_, _, .createContext, rfl, rfl, trivial⟩
  | createQueue =>
    obtain ⟨id, rfl, rfl⟩ := (framed.createQueue_eq_ok sized).mp taken
    exact ⟨_, _, .createQueue, rfl, bind_eq_ok.mpr ⟨8, if_neg id.nonzero, rfl⟩, trivial⟩
  | allocateBuffer =>
    obtain ⟨id, desc, rfl, ⟨some, known⟩, _, _, rfl⟩ := (framed.allocateBuffer_eq_ok sized).mp taken
    exact ⟨_, _, .allocateBuffer, rfl,
      bind_eq_ok.mpr ⟨(), CleanRoom.validateAllocate_eq_ok.mpr (.of_typed some known), rfl⟩, trivial⟩
  | writeBuffer =>
    obtain ⟨id, range, tail, data, rfl, length, _, served, rfl⟩ := (framed.writeBuffer_eq_ok sized).mp taken
    exact ⟨_, _, .writeBuffer served, rfl,
      bind_eq_ok.mpr ⟨(), CleanRoom.validateTransfer_eq_ok.mpr (.of_typed id range),
      bind_eq_ok.mpr ⟨(), refuseIf_eq_ok.mpr (not_not.mpr length.symm), rfl⟩⟩, trivial⟩
  | readBuffer =>
    simp only [FrameDecoder.decodeBody, bind_eq_ok, pure_eq_ok] at taken
    obtain ⟨⟨id, range⟩, transfer, _, _, rfl⟩ := taken
    obtain ⟨tail, rfl, length⟩ := (framed.transfer_eq_ok sized).mp transfer
    obtain rfl := length_eq_zero_iff.mp length
    exact ⟨_, _, .readBuffer, (append_nil _).symm,
      bind_eq_ok.mpr ⟨(), CleanRoom.validateTransfer_eq_ok.mpr (.of_typed id range), rfl⟩, trivial⟩
  | loadProgram =>
    obtain ⟨id, format, target, artifactBytes, residentBytes, tail, data, rfl, length, ⟨some, resident⟩, _, _,
        served, rfl⟩ :=
      (framed.loadProgram_eq_ok sized).mp taken
    refine ⟨_, _, .loadProgram served, ?_, bind_eq_ok.mpr ⟨(), refuseIf_eq_ok.mpr ?_, rfl⟩, trivial⟩
    · rw [CleanRoom.RequestBody.payload, length, UInt64.ofNat_toNat]
    rintro (none | none | none | none)
    · exact id.nonzero none
    · exact format.nonzero none
    · rw [show tail = [] from none] at length
      exact some (UInt64.toNat_inj.mp length.symm)
    · exact resident none
  | submit =>
    obtain ⟨queueId, programId, bindings, timeoutNs, rfl, some, ⟨_, few⟩, distinct, _, rfl⟩ :=
      (framed.submit_eq_ok sized).mp taken
    obtain ⟨listed, checked⟩ := CleanRoom.validateBindings_pack (bindings.map DecodedBinding.plain)
      (by simpa using some) (by rw [length_map]; exact few)
      (forall_mem_map.mpr (fun binding _ => .of_typed binding)) (by rw [map_map]; exact distinct)
    refine ⟨_, _, .submit_wire listed distinct, ?_, bind_eq_ok.mpr ⟨(), refuseIf_eq_ok.mpr ?_, checked⟩, _, _, rfl⟩
    · rw [CleanRoom.RequestBody.payload, listed]
      dsimp only
      rw [map_map, length_map]
      rfl
    · rintro (none | none)
      · exact queueId.nonzero none
      · exact programId.nonzero none
  | destroyContext | freeBuffer | unloadProgram | destroyQueue | pollEvent | cancelEvent | destroyEvent =>
    obtain ⟨id, object, made⟩ := bind_eq_ok.mp taken
    cases made
    obtain rfl := (framed.object_eq_ok sized).mp object
    exact ⟨_, 8, by constructor, by rfl, by exact if_neg id.nonzero, by trivial⟩

/-- It takes all the others whose response can be written. -/
theorem Framed.decodeBody_takes (framed : Framed request clean.payload)
    (sized : payloadBytes.toNat = clean.payload.length) (widest : decoder.Widest) {len : Nat}
    (computed : CleanRoom.requestPayloadLen clean = .ok len) (fits : clean.ResponseFits) :
    ∃ body, decoder.decodeBody true request payloadBytes clean.opcode.known = .ok body ∧ SameBody body clean := by
  have small := payloadBytes.toNat_lt
  cases clean with
  | getDeviceInfo =>
    refine ⟨_, bind_eq_ok.mpr ⟨(), refuseIf_eq_ok.mpr (not_not.mpr ?_), rfl⟩, .getDeviceInfo⟩
    exact sized
  | createContext => exact ⟨_, (framed.createContext_eq_ok sized).mpr ⟨rfl, rfl⟩, .createContext⟩
  | createQueue contextId =>
    obtain ⟨_, object, _⟩ := bind_eq_ok.mp computed
    obtain ⟨some, _⟩ := CleanRoom.objectLen_eq_ok.mp object
    exact ⟨_, (framed.createQueue_eq_ok sized).mpr ⟨⟨contextId, some⟩, rfl, rfl⟩, .createQueue⟩
  | allocateBuffer request =>
    obtain ⟨_, checked, _⟩ := bind_eq_ok.mp computed
    obtain ⟨id, desc, rfl, some, known⟩ := (CleanRoom.validateAllocate_eq_ok.mp checked).typed
    exact ⟨_, (framed.allocateBuffer_eq_ok sized).mpr ⟨id, desc, rfl, ⟨some, known⟩,
      widest.maxBufferBytes ▸ UInt64.le_max _, widest.domains _, rfl⟩, .allocateBuffer⟩
  | writeBuffer transfer data =>
    obtain ⟨_, checked, computed⟩ := bind_eq_ok.mp computed
    obtain ⟨_, length, _⟩ := bind_eq_ok.mp computed
    obtain ⟨id, range, rfl⟩ := (CleanRoom.validateTransfer_eq_ok.mp checked).typed
    have length : data.length = range.bytes.toNat := (not_not.mp (refuseIf_eq_ok.mp length)).symm
    obtain ⟨source, opened, served⟩ := framed.region length (by decide)
    exact ⟨_, (framed.writeBuffer_eq_ok sized).mpr ⟨id, range, data, source, rfl, length, opened, served, rfl⟩,
      .writeBuffer served⟩
  | readBuffer transfer =>
    obtain ⟨_, checked, _⟩ := bind_eq_ok.mp computed
    obtain ⟨id, range, rfl⟩ := (CleanRoom.validateTransfer_eq_ok.mp checked).typed
    have room : 16 + range.bytes.toNat ≤ 16777216 := fits _ rfl
    refine ⟨.readBuffer id range, bind_eq_ok.mpr ⟨(id, range), ?_, bind_eq_ok.mpr ⟨(), refuseIf_eq_ok.mpr ?_, rfl⟩⟩,
      .readBuffer⟩
    · exact (framed.transfer_eq_ok sized).mpr ⟨[], (append_nil _).symm, rfl⟩
    -- The device counts the header of the response in.
    · change ¬ 2 ^ 64 ≤ 16 + range.bytes.toNat
      omega
  | loadProgram program =>
    obtain ⟨contextId, format, target, residentBytes, artifact⟩ := program
    obtain ⟨_, checked, _⟩ := bind_eq_ok.mp computed
    simp only [refuseIf_eq_ok, not_or] at checked
    obtain ⟨named, kind, some, resident⟩ := checked
    rw [CleanRoom.RequestBody.payload, length_append] at sized
    have whole : (UInt64.ofNat artifact.length).toNat = artifact.length := by
      rw [UInt64.toNat_ofNat', Nat.mod_eq_of_lt (by dsimp only at sized; omega)]
    obtain ⟨source, opened, served⟩ := framed.region whole.symm (by decide)
    refine ⟨_, (framed.loadProgram_eq_ok (sized.trans (length_append).symm)).mpr ⟨⟨contextId, named⟩,
      ⟨format, kind⟩, target, _,
      residentBytes, artifact, source, rfl, whole.symm, ⟨?_, resident⟩, widest.maxArtifactBytes ▸ UInt64.le_max _,
      opened, served, rfl⟩, .loadProgram served⟩
    intro none
    rw [none, UInt64.toNat_zero] at whole
    exact some (length_eq_zero_iff.mp whole.symm)
  | submit request =>
    obtain ⟨queueId, programId, timeoutNs, encoded⟩ := request
    simp only [CleanRoom.requestPayloadLen, bind_eq_ok, refuseIf_eq_ok, not_or,
      CleanRoom.validateBindings_eq_ok] at computed
    obtain ⟨_, ⟨queue, program⟩, _, values, listed, some, few, valid, distinct, _⟩ := computed
    have typed : values ∈ Set.range (map DecodedBinding.plain) := by
      rw [Set.range_list_map]
      exact fun binding member => (valid binding member).typed.imp (fun _ same => same.symm)
    obtain ⟨bindings, rfl⟩ := typed
    rw [map_map] at distinct
    rw [length_map] at few
    refine ⟨_, (framed.submit_eq_ok sized).mpr ⟨⟨queueId, queue⟩, ⟨programId, program⟩, bindings, timeoutNs, ?_, by
      simpa using some,
      ⟨by rw [widest.maxBindings]; exact few, few⟩, distinct, rfl, rfl⟩, .submit_wire listed distinct⟩
    rw [CleanRoom.RequestBody.payload, listed]
    dsimp only
    rw [map_map, length_map]
    rfl
  | destroyContext raw | freeBuffer raw | unloadProgram raw | destroyQueue raw | pollEvent raw | cancelEvent raw
  | destroyEvent raw =>
    obtain ⟨some, _⟩ := CleanRoom.objectLen_eq_ok.mp computed
    exact ⟨_, bind_eq_ok.mpr ⟨⟨raw, some⟩, (framed.object_eq_ok sized).mpr rfl, rfl⟩, by constructor⟩

end Bodies

/-! The header, and whole frames -/

theorem CleanRoom.Opcode.toU16_known (opcode : Opcode) : opcode.known.toU16 = opcode.toU16 := by
  cases opcode <;> rfl

/-- The response of one command fits the largest frame in both readings. -/
theorem SameBody.responseFits (same : SameBody body clean) :
    body.requiredResponseBytes ≤ 16777216 ↔ clean.ResponseFits := by
  cases same with
  | @readBuffer id range =>
    constructor
    · rintro fits _ ⟨⟩
      exact fits
    intro fits
    exact fits _ rfl
  | _ => exact ⟨fun _ _ => nofun, fun _ => Nat.le_of_ble_eq_true rfl⟩

section Frames
variable {decoder : FrameDecoder} {request : ByteSource} {bytes : List UInt8} {decoded : DecodedRequest}

/-- A frame that is accepted has its header in front of the payload of its command. -/
theorem FrameDecoder.decode_frame {capacity : UInt64} (served : request.Serves bytes)
    (accepted : decoder.decode true request capacity = .ok decoded) :
    ∃ opcode payload, bytes = RequestHeader.codec.encode
      (.new opcode (UInt32.ofNat payload.length) decoded.requestId) ++ payload ∧
      decoded.requestId ≠ 0 ∧ payload.length < 2 ^ 32 ∧
      decoder.decodeBody true request (UInt32.ofNat payload.length) opcode = .ok decoded.body ∧
      decoded.body.requiredResponseBytes ≤ decoder.limits.maxResponseBytes.toNat := by
  simp only [decode, decodeHeader, bind_eq_ok, refuseIf_eq_ok, mapError_eq_ok, pure_eq_ok, not_not,
    UInt64.lt_iff_toNat_lt,
    requestHeaderBytes_toNat, RequestHeader.codec_size, Nat.not_lt, served.length] at accepted
  obtain ⟨_, ⟨_, _, _, enough, header, read, _, _, _, total, _, named, _, flags, opcode, known, rfl⟩, body, decodes,
    _, fits, _, _, rfl⟩ := accepted
  have head : readWire request 0 RequestHeader.codec = .ok (RequestHeader.codec.field bytes 0) :=
    readWire_serves served (by rw [RequestHeader.codec_size, UInt64.toNat_zero]; omega) (by decide)
  cases head.symm.trans read
  have rest : (RequestHeader.codec.field bytes 0).payloadBytes.toNat = (bytes.drop 16).length := by
    rw [length_drop]
    omega
  have same : (RequestHeader.codec.field bytes 0).opcode = opcode.toU16 := by
    unfold RequestHeader.knownOpcode KnownOpcode.tryFrom at known
    split at known <;> cases known <;> assumption
  refine ⟨opcode, bytes.drop 16, RequestHeader.canonical.append_iff.mp ⟨enough, ?_, rfl⟩, named, ?_, ?_, fits⟩
  · rw [RequestHeader.new, ← rest, UInt32.ofNat_toNat, ← same, ← flags]
  · rw [← rest]
    exact UInt32.toNat_lt _
  · rw [← rest, UInt32.ofNat_toNat]
    exact decodes

/-- A frame the device takes, as the clean-room decoder sees it. -/
theorem FrameDecoder.Widest.decode_taken (widest : decoder.Widest) (served : request.Serves bytes)
    (within : bytes.length ≤ 16777216) (accepted : decoder.decode true request 16777216 = .ok decoded) :
    ∃ clean, CleanRoom.decodeRequest bytes = .ok clean ∧ clean.requestId = decoded.requestId ∧
      SameBody decoded.body clean.body ∧ clean.body.ResponseFits := by
  obtain ⟨opcode, payload, rfl, named, small, decodes, fits⟩ := decode_frame served accepted
  have framed : Framed request payload := ⟨_, RequestHeader.codec.encode_length _, served⟩
  obtain ⟨clean, len, same, rfl, computed, raw⟩ := framed.decodeBody_taken
    (by rw [UInt32.toNat_ofNat_of_lt' small]) decodes
  rw [widest.maxResponseBytes] at fits
  refine ⟨⟨decoded.requestId, clean⟩, CleanRoom.decodeRequest_eq_ok.mpr ⟨named, within, ?_, raw, ?_⟩, rfl, same,
    same.responseFits.mp fits⟩
  · rw [CleanRoom.requestPayloadLen_payload computed]
    exact computed
  rw [CleanRoom.Request.frame, ← same.opcode, decodeBody_opcode decodes]
  rfl

theorem FrameDecoder.Widest.decode_takes (widest : decoder.Widest) (served : request.Serves bytes)
    {clean : CleanRoom.Request} (decodes : CleanRoom.decodeRequest bytes = .ok clean)
    (fits : clean.body.ResponseFits) :
    ∃ decoded, decoder.decode true request 16777216 = .ok decoded := by
  obtain ⟨named, few, computed, _, rfl⟩ := CleanRoom.decodeRequest_eq_ok.mp decodes
  rw [clean.frame_length] at few
  have sized : (UInt32.ofNat clean.body.payload.length).toNat = clean.body.payload.length := by
    rw [UInt32.toNat_ofNat', Nat.mod_eq_of_lt (by omega)]
  have framed : Framed request clean.body.payload := ⟨_, RequestHeader.codec.encode_length _, served⟩
  obtain ⟨body, accepted, same⟩ := framed.decodeBody_takes sized widest computed fits
  have answers := same.responseFits.mpr fits
  rw [CleanRoom.Request.frame, ← clean.body.opcode.toU16_known] at served
  exact ⟨_, decode_serves served sized.symm named (by rw [widest.maxRequestBytes]; exact few) accepted
    (by rw [widest.maxResponseBytes]; exact answers) answers⟩

/-- The device's decoder, with nothing of its own that would refuse a frame,
takes the frames of the clean-room decoder, with the same values. -/
theorem FrameDecoder.decode_agrees (widest : decoder.Widest) (served : request.Serves bytes)
    (within : bytes.length ≤ hardMaxRequestBytes.toNat) :
    ((∃ decoded, decoder.decode true request 16777216 = .ok decoded) ↔
      ∃ clean, CleanRoom.decodeRequest bytes = .ok clean ∧ ∀ transfer, clean.body = .readBuffer transfer →
        16 + transfer.bytes.toNat ≤ 16777216) ∧
    ∀ decoded clean, decoder.decode true request 16777216 = .ok decoded →
    CleanRoom.decodeRequest bytes = .ok clean →
      decoded.requestId = clean.requestId ∧ decoded.body.opcode.toU16 = clean.body.opcode.toU16 ∧
      SameBody decoded.body clean.body := by
  refine ⟨⟨?_, ?_⟩, ?_⟩
  · rintro ⟨decoded, accepted⟩
    obtain ⟨clean, decodes, _, _, fits⟩ := widest.decode_taken served within accepted
    exact ⟨clean, decodes, fits⟩
  · rintro ⟨clean, decodes, fits⟩
    exact widest.decode_takes served decodes fits
  · intro decoded clean accepted decodes
    obtain ⟨found, decodes', named, same, _⟩ := widest.decode_taken served within accepted
    cases decodes.symm.trans decodes'
    exact ⟨named.symm, same.opcode, same⟩

/-- The decoder of a device with the largest limits and all memory domains. -/
def FrameDecoder.widest : FrameDecoder where
  limits := {
    maxChainDescriptors := hardMaxChainDescriptors
    maxRequestBytes := hardMaxRequestBytes
    maxResponseBytes := hardMaxResponseBytes
    maxBindings := hardMaxBindings
    maxBufferBytes := 18446744073709551615
    maxArtifactBytes := 18446744073709551615
    capabilities := Capabilities.memoryDomains }

/-- READ_BUFFER, with four bytes of buffer one. -/
def readFrame : List UInt8 :=
  [3, 2, 0, 0, 24, 0, 0, 0, 9, 0, 0, 0, 0, 0, 0, 0, 1, 0, 0, 0, 0, 0, 0, 0, 0, 0, 0, 0, 0, 0, 0, 0, 4, 0, 0, 0,
    0, 0, 0, 0]

/-- Both read a READ_BUFFER of four bytes, and alike. -/
theorem FrameDecoder.decode_agrees_read :
    ∃ decoded, FrameDecoder.widest.decode true (ByteSource.slice readFrame) 16777216 = .ok decoded ∧
      decoded.requestId = 9 ∧ SameBody decoded.body (.readBuffer ⟨1, 0, 4⟩) := by
  have widest : FrameDecoder.widest.Widest := ⟨rfl, rfl, rfl, rfl, rfl, fun domain => by cases domain <;> rfl⟩
  have clean : CleanRoom.decodeRequest readFrame = .ok ⟨9, .readBuffer ⟨1, 0, 4⟩⟩ := by decide
  have agrees := decode_agrees widest (ByteSource.slice_serves (show readFrame.length < 2 ^ 64 by decide))
    (by decide)
  obtain ⟨decoded, accepted⟩ := agrees.1.mpr ⟨_, clean, fun transfer same => by cases same; decide⟩
  obtain ⟨named, _, same⟩ := agrees.2 decoded _ accepted clean
  exact ⟨decoded, accepted, named, same⟩

end Frames

end VirtioAccel
