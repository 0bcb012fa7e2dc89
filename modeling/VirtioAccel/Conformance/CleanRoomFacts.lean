import VirtioAccel.Conformance.CleanRoom
import VirtioAccel.Proto.WireLayout

/-! What the clean-room decoder takes: every body has one payload. -/

namespace VirtioAccel.CleanRoom
open Checked Codec
variable {len : Nat} {count : UInt32} {opcode : Opcode}

def Binding.wire (self : Binding) : WireBinding :=
  ⟨self.bufferId, self.offset, self.bytes, self.slot, self.access, Vector.replicate 3 0⟩

/-- The bindings one by one, as a caller gets them. -/
def Bindings.list (self : Bindings) : Except Error (List Binding) := do
  let count ← self.count
  (List.range count.toNat).mapM (fun index => self.get (UInt32.ofNat index))

/-- Bindings, encoded one after the other. -/
def Bindings.pack (values : List Binding) : Bindings :=
  .encoded ((values.map Binding.wire).flatMap WireBinding.codec.encode) (UInt32.ofNat values.length)

/-- The payload of a command, as the wire structures have it. -/
def RequestBody.payload : RequestBody → List UInt8
  | getDeviceInfo => []
  | createContext => CreateContextRequest.codec.encode ⟨0, 0⟩
  | allocateBuffer request =>
    AllocateBufferRequest.codec.encode ⟨request.contextId, request.bytes, request.alignment,
      request.memoryDomain, Vector.replicate 7 0, request.usage, 0⟩
  | writeBuffer transfer data =>
    TransferBufferRequest.codec.encode ⟨transfer.bufferId, transfer.offset, transfer.bytes⟩ ++ data
  | readBuffer transfer => TransferBufferRequest.codec.encode ⟨transfer.bufferId, transfer.offset, transfer.bytes⟩
  | loadProgram request => LoadProgramRequest.codec.encode ⟨request.contextId, request.format, 0, request.target,
      UInt64.ofNat request.artifact.length, request.residentBytes⟩ ++ request.artifact
  | createQueue contextId => CreateQueueRequest.codec.encode ⟨contextId, 0, 0⟩
  | submit request =>
    match request.bindings.list with
    | .ok values => SubmitRequest.codec.encode ⟨request.queueId, request.programId, UInt32.ofNat values.length, 0,
        request.timeoutNs⟩ ++ (values.map Binding.wire).flatMap WireBinding.codec.encode
    | .error _ => []
  | destroyContext object | freeBuffer object | unloadProgram object | destroyQueue object | pollEvent object
  | cancelEvent object | destroyEvent object => ObjectPayload.codec.encode ⟨object⟩

variable {bytes payload : List UInt8}
variable {body : RequestBody} {u : Unit} {offset : Nat}

theorem read_eq_ok {T : Type} {codec : Codec T} {value : T} :
    read codec bytes offset = .ok value ↔ offset + codec.size ≤ bytes.length ∧
    codec.field bytes offset = value := by
  unfold read
  split
  · simp
    omega
  simp
  omega

@[simp] theorem readU16_eq_ok {value : UInt16} :
    readU16 bytes offset = .ok value ↔ offset + 2 ≤ bytes.length ∧ u16.field bytes offset = value := read_eq_ok

@[simp] theorem readU32_eq_ok {value : UInt32} :
    readU32 bytes offset = .ok value ↔ offset + 4 ≤ bytes.length ∧ u32.field bytes offset = value := read_eq_ok

@[simp] theorem readU64_eq_ok {value : UInt64} :
    readU64 bytes offset = .ok value ↔ offset + 8 ≤ bytes.length ∧ u64.field bytes offset = value := read_eq_ok

@[simp] theorem requireExact_eq_ok {expected : Nat} :
    requireExact bytes expected = .ok u ↔ bytes.length = expected := by
  rw [requireExact, refuseIf_eq_ok, not_not]

theorem decodeCreateContext_eq_ok :
    decodeRequestBody .createContext payload = .ok body ↔
      RequestBody.createContext.payload = payload ∧ .createContext = body := by
  rw [eq_comm (b := payload), RequestBody.payload, ← CreateContextRequest.canonical.field_iff,
    CreateContextRequest.field_eq, CreateContextRequest.mk.injEq]
  simp only [decodeRequestBody, bind_eq_ok, pure_eq_ok, refuseIf_eq_ok, not_not, requireExact_eq_ok, readU32_eq_ok,
    CreateContextRequest.codec_size]
  constructor
  · rintro ⟨_, length, _, ⟨_, rfl⟩, _, flags, _, ⟨_, rfl⟩, _, reserved, rfl⟩
    exact ⟨⟨length, flags, reserved⟩, rfl⟩
  rintro ⟨⟨length, flags, reserved⟩, rfl⟩
  exact ⟨(), length, _, ⟨by omega, rfl⟩, (), flags, _, ⟨by omega, rfl⟩, (), reserved, rfl⟩

theorem byteAt_eq {index : Nat} (inside : index < bytes.length) : byteAt bytes index = u8.field bytes index := by
  have there := List.getElem?_eq_getElem inside
  rw [byteAt, there, u8_field there]
  rfl

/-- Padding that is zero, as a scan and as an array. -/
theorem anyNonzero_eq_false {start n : Nat} (within : start + n ≤ bytes.length) :
    anyNonzero bytes start (start + n) = false ↔ (u8.array n).field bytes start = Vector.replicate n 0 := by
  have place (i : Nat) (bound : i < n) : u8.field bytes (start + i * 1) =
      ((bytes.drop start).take n)[i]?.getD 0 := by
    have inside : start + i < bytes.length := by omega
    rw [Nat.mul_one, u8_field (List.getElem?_eq_getElem inside), List.getElem?_take_of_lt bound, List.getElem?_drop,
      List.getElem?_eq_getElem inside]
    rfl
  have length : ((bytes.drop start).take n).length = n := by
    rw [List.length_take, List.length_drop]
    omega
  rw [anyNonzero, Nat.add_sub_cancel_left, field_array, List.any_eq_false]
  constructor
  · intro zero
    refine Vector.ext (fun i bound => ?_)
    rw [Vector.getElem_ofFn, Vector.getElem_replicate]
    have member := zero _ (List.getElem_mem (show i < ((bytes.drop start).take n).length by omega))
    rw [u8_size, place i bound, List.getElem?_eq_getElem (by omega), Option.getD_some]
    simpa using member
  · intro same byte member
    obtain ⟨i, inside, rfl⟩ := List.mem_iff_getElem.mp member
    have entry := congrArg (fun v : Vector UInt8 n => v[i]?) same
    have bound : i < n := by omega
    simp only [Vector.getElem?_ofFn, bound, dif_pos, Vector.getElem?_replicate, if_true, Option.some.injEq,
      u8_size] at entry
    rw [place i bound, List.getElem?_eq_getElem inside, Option.getD_some] at entry
    simpa using entry

theorem objectLen_eq_ok {object : UInt64} : objectLen object = .ok len ↔ object ≠ 0 ∧ len = 8 := by
  unfold objectLen
  split
  · simp_all
  · simp_all [eq_comm]

/-- What `validate_binding` lets through. -/
structure Binding.Valid (binding : Binding) : Prop where
  bufferId : binding.bufferId ≠ 0
  bytes : binding.bytes ≠ 0
  access : 1 ≤ binding.access ∧ binding.access ≤ 3
  ends : binding.offset.toNat + binding.bytes.toNat < 2 ^ 64

variable {binding : Binding}

theorem validateBinding_eq_ok : validateBinding binding = .ok u ↔ binding.Valid := by
  simp only [validateBinding, bind_eq_ok, refuseIf_eq_ok, not_or, not_not, Nat.not_le]
  constructor
  · rintro ⟨_, ⟨bufferId, bytes, access⟩, ends⟩
    exact ⟨bufferId, bytes, access, ends⟩
  rintro ⟨bufferId, bytes, access, ends⟩
  exact ⟨(), ⟨bufferId, bytes, access⟩, ends⟩

theorem decodeBinding_eq_ok :
    decodeBinding bytes offset = .ok binding ↔
      offset + 32 ≤ bytes.length ∧ WireBinding.codec.field bytes offset = binding.wire := by
  have length (within : offset + 32 ≤ bytes.length) : ((bytes.drop offset).take 32).length = 32 := by
    rw [List.length_take, List.length_drop]
    omega
  have inside : WireBinding.codec.field bytes offset = WireBinding.codec.field ((bytes.drop offset).take 32) 0 := by
    rw [WireBinding.codec.field_take _ _ (by decide), WireBinding.codec.field_drop, Nat.add_zero]
  rw [inside, WireBinding.field_eq, Binding.wire, WireBinding.mk.injEq]
  simp only [decodeBinding, bind_eq_ok, pure_eq_ok, refuseIf_eq_ok, readU32_eq_ok, readU64_eq_ok, Nat.not_lt,
    Bool.not_eq_true]
  generalize (bytes.drop offset).take 32 = entry at length ⊢
  constructor
  · rintro ⟨_, within, _, zeros, _, ⟨_, rfl⟩, _, ⟨_, rfl⟩, _, ⟨_, rfl⟩, _, ⟨_, rfl⟩, rfl⟩
    have enough := length within
    exact ⟨within, rfl, rfl, rfl, rfl, (byteAt_eq (by omega)).symm, (anyNonzero_eq_false (by omega)).mp zeros⟩
  · rintro ⟨within, bufferId, start, size, slot, access, padding⟩
    have enough := length within
    refine ⟨(), within, (), (anyNonzero_eq_false (by omega)).mpr padding, _, ⟨by omega, bufferId⟩, _,
      ⟨by omega, start⟩, _, ⟨by omega, size⟩, _, ⟨by omega, slot⟩, ?_⟩
    rw [byteAt_eq (by omega), access]

variable {bindings : Bindings}

variable {values : List Binding}

theorem mapM_get {count : Nat}
    (listed : (List.range count).mapM (fun index => bindings.get (UInt32.ofNat index)) = .ok values) :
    values.length = count ∧ ∀ (i : Nat) (inside : i < values.length),
    bindings.get (UInt32.ofNat i) = .ok values[i] := by
  have entries := mapM_eq_ok.mp listed
  have length : values.length = count := by rw [← entries.length_eq, List.length_range]
  refine ⟨length, fun i inside => ?_⟩
  have entry := entries.get (i := i) (by rw [List.length_range]; omega) inside
  rwa [List.get_eq_getElem, List.get_eq_getElem, List.getElem_range] at entry

theorem Bindings.list_eq_ok (listed : bindings.list = .ok values) :
    bindings.count = .ok (UInt32.ofNat values.length) ∧ values.length < 2 ^ 32 ∧
      ∀ (i : Nat) (inside : i < values.length), bindings.get (UInt32.ofNat i) = .ok values[i] := by
  obtain ⟨count, counted, entries⟩ := bind_eq_ok.mp listed
  obtain ⟨length, each⟩ := mapM_get entries
  refine ⟨?_, ?_, each⟩
  · rw [counted, length, UInt32.ofNat_toNat]
  rw [length]
  exact count.toNat_lt

/-- The pairwise search for a slot that is used twice, as a property of the list. -/
theorem validateBindings_eq_ok : validateBindings bindings = .ok len ↔
    bindings.fills = true ∧ ∃ values, bindings.list = .ok values ∧ values ≠ [] ∧ values.length ≤ 4096 ∧
      (∀ binding ∈ values, binding.Valid) ∧ (values.map Binding.slot).Nodup ∧ 32 + values.length * 32 = len := by
  have most : hardMaxBindings.toNat = 4096 := rfl
  simp only [validateBindings, Bindings.validateAt, Bindings.list, bind_eq_ok, refuseIf_eq_ok,
    pure_eq_ok, forM_eq_ok, validateBinding_eq_ok, not_not, List.mem_range, UInt32.lt_iff_toNat_lt, Nat.not_lt]
  constructor
  · rintro ⟨count, counted, _, some, _, few, _, fills, _, each, rfl⟩
    have found : ∀ index ∈ List.range count.toNat, ∃ binding, bindings.get (UInt32.ofNat index) = .ok binding ∧
        binding.Valid ∧ ∀ previous < index, ∃ earlier, bindings.get (UInt32.ofNat previous) = .ok earlier ∧
          earlier.slot ≠ binding.slot := by
      intro index member
      obtain ⟨binding, here, _, valid, apart⟩ := each index (List.mem_range.mp member)
      exact ⟨binding, here, valid, apart⟩
    obtain ⟨values, listed, _⟩ := mapM_total (P := fun _ _ => True)
      (fun index member => (found index member).imp (fun _ facts => ⟨facts.1, trivial⟩))
    obtain ⟨length, entry⟩ := mapM_get listed
    refine ⟨fills, values, ⟨count, counted, listed⟩, ?_, by omega, ?_, ?_, by rw [length]⟩
    · rintro rfl
      exact some (UInt32.toNat_inj.mp length.symm)
    · intro binding member
      obtain ⟨i, inside, rfl⟩ := List.getElem_of_mem member
      obtain ⟨_, here, valid, _⟩ := found i (List.mem_range.mpr (by omega))
      cases (entry i inside).symm.trans here
      exact valid
    · rw [List.Nodup, List.pairwise_map, List.pairwise_iff_getElem]
      intro i j first second below
      obtain ⟨_, here, _, apart⟩ := found j (List.mem_range.mpr (by omega))
      cases (entry j second).symm.trans here
      obtain ⟨_, there, differs⟩ := apart i below
      cases (entry i first).symm.trans there
      exact differs
  · rintro ⟨fills, values, ⟨count, counted, listed⟩, some, few, valid, distinct, rfl⟩
    obtain ⟨length, entry⟩ := mapM_get listed
    refine ⟨count, counted, (), ?_, (), by omega, (), fills, (), fun index below => ?_, by rw [length]⟩
    · rintro rfl
      exact some (List.length_eq_zero_iff.mp length)
    have inside : index < values.length := by omega
    refine ⟨_, entry index inside, (), valid _ (List.getElem_mem inside), fun previous before => ?_⟩
    refine ⟨_, entry previous (by omega), ?_⟩
    have apart := List.pairwise_iff_getElem.mp (List.pairwise_map.mp distinct)
    exact apart previous index (by omega) inside before

/-- Bindings that fill their slice are its encoding. -/
theorem Bindings.list_bytes (fills : bytes.length = count.toNat * 32)
    (listed : (Bindings.encoded bytes count).list = .ok values) :
    bytes = (values.map Binding.wire).flatMap WireBinding.codec.encode ∧ UInt32.ofNat values.length = count := by
  obtain ⟨counted, small, each⟩ := list_eq_ok listed
  have same : count = UInt32.ofNat values.length := Except.ok.inj counted
  have length : count.toNat = values.length := by rw [same, UInt32.toNat_ofNat_of_lt' small]
  refine ⟨(WireBinding.canonical.flatMap_iff ?_).mp (fun i inside => ?_), same.symm⟩
  · rw [List.length_map, WireBinding.codec_size, fills, length]
  rw [List.length_map] at inside
  obtain ⟨_, _, decodes⟩ := bind_eq_ok.mp (each i inside)
  rw [UInt32.toNat_ofNat', Nat.mod_eq_of_lt (by omega)] at decodes
  rw [List.getElem_map]
  exact (decodeBinding_eq_ok.mp decodes).2

theorem Bindings.list_pack (small : values.length < 2 ^ 32) : (Bindings.pack values).list = .ok values := by
  have count : (UInt32.ofNat values.length).toNat = values.length := by rw [UInt32.toNat_ofNat_of_lt' small]
  have fields := (WireBinding.canonical.flatMap_iff (by rw [flatMap_length])).mpr
    (rfl : (values.map Binding.wire).flatMap WireBinding.codec.encode = _)
  refine bind_eq_ok.mpr ⟨_, rfl, ?_⟩
  rw [mapM_eq_ok, count, List.forall₂_iff_get]
  refine ⟨List.length_range, fun i inside within => ?_⟩
  rw [List.length_range] at inside
  have same : (UInt32.ofNat i).toNat = i := by rw [UInt32.toNat_ofNat', Nat.mod_eq_of_lt (by omega)]
  have field := fields i (by rw [List.length_map]; exact inside)
  rw [List.getElem_map, WireBinding.codec_size] at field
  rw [List.get_eq_getElem, List.get_eq_getElem, List.getElem_range]
  refine bind_eq_ok.mpr ⟨(), refuseIf_eq_ok.mpr ?_, decodeBinding_eq_ok.mpr ⟨?_, by rw [same]; exact field⟩⟩
  · rw [UInt32.le_iff_toNat_le, same, count]
    omega
  rw [same, flatMap_length, List.length_map, WireBinding.codec_size]
  omega

theorem validateBindings_pack (values : List Binding) (some : values ≠ []) (few : values.length ≤ 4096)
    (valid : ∀ binding ∈ values, binding.Valid) (distinct : (values.map Binding.slot).Nodup) :
    (Bindings.pack values).list = .ok values ∧ validateBindings (.pack values) = .ok (32 + values.length * 32) := by
  have listed := Bindings.list_pack (show values.length < 2 ^ 32 by omega)
  refine ⟨listed, validateBindings_eq_ok.mpr ⟨?_, values, listed, some, few, valid, distinct, rfl⟩⟩
  rw [Bindings.pack, Bindings.fills, decide_eq_true_iff, flatMap_length, List.length_map, UInt32.toNat_ofNat',
    Nat.mod_eq_of_lt (by omega), WireBinding.codec_size]

/-! What each command is decoded from -/

theorem decodeObject_eq_ok {raw : UInt64} :
    decodeObject payload = .ok raw ↔ raw ≠ 0 ∧ payload = ObjectPayload.codec.encode ⟨raw⟩ := by
  rw [← ObjectPayload.canonical.field_iff, ObjectPayload.field_eq, ObjectPayload.mk.injEq]
  simp only [decodeObject, bind_eq_ok, pure_eq_ok, requireExact_eq_ok, readU64_eq_ok, objectLen_eq_ok]
  constructor
  · rintro ⟨_, length, _, ⟨_, rfl⟩, _, ⟨some, _⟩, rfl⟩
    exact ⟨some, length, rfl⟩
  rintro ⟨some, length, rfl⟩
  exact ⟨(), length, _, ⟨length.ge, rfl⟩, 8, ⟨some, rfl⟩, rfl⟩

variable {transfer : TransferBuffer}

theorem decodeTransfer_eq_ok :
    decodeTransfer payload = .ok transfer ↔ 24 ≤ payload.length ∧
      TransferBufferRequest.codec.field payload 0 = ⟨transfer.bufferId, transfer.offset, transfer.bytes⟩ := by
  rw [TransferBufferRequest.field_eq, TransferBufferRequest.mk.injEq]
  simp only [decodeTransfer, bind_eq_ok, pure_eq_ok, readU64_eq_ok]
  constructor
  · rintro ⟨_, ⟨_, rfl⟩, _, ⟨_, rfl⟩, _, ⟨within, rfl⟩, rfl⟩
    exact ⟨within, rfl, rfl, rfl⟩
  rintro ⟨within, bufferId, offset, bytes⟩
  exact ⟨_, ⟨by omega, bufferId⟩, _, ⟨by omega, offset⟩, _, ⟨within, bytes⟩, rfl⟩

theorem decodeCreateQueue_eq_ok :
    decodeRequestBody .createQueue payload = .ok body ↔
      ∃ contextId, (RequestBody.createQueue contextId).payload = payload ∧ .createQueue contextId = body := by
  simp only [eq_comm (b := payload), RequestBody.payload, ← CreateQueueRequest.canonical.field_iff,
    CreateQueueRequest.field_eq, CreateQueueRequest.mk.injEq]
  simp only [decodeRequestBody, bind_eq_ok, pure_eq_ok, refuseIf_eq_ok, not_not, requireExact_eq_ok, readU32_eq_ok,
    readU64_eq_ok, CreateQueueRequest.codec_size]
  constructor
  · rintro ⟨_, length, _, ⟨_, rfl⟩, _, flags, _, ⟨_, rfl⟩, _, reserved, _, ⟨_, rfl⟩, rfl⟩
    exact ⟨_, ⟨length, rfl, flags, reserved⟩, rfl⟩
  rintro ⟨_, ⟨length, rfl, flags, reserved⟩, rfl⟩
  exact ⟨(), length, _, ⟨by omega, rfl⟩, (), flags, _, ⟨by omega, rfl⟩, (), reserved, _, ⟨by omega, rfl⟩, rfl⟩

theorem decodeAllocate_eq_ok :
    decodeAllocate payload = .ok body ↔
      ∃ request, (RequestBody.allocateBuffer request).payload = payload ∧ .allocateBuffer request = body := by
  simp only [eq_comm (b := payload), RequestBody.payload, ← AllocateBufferRequest.canonical.field_iff,
    AllocateBufferRequest.field_eq, AllocateBufferRequest.mk.injEq]
  simp only [decodeAllocate, bind_eq_ok, pure_eq_ok, refuseIf_eq_ok, requireExact_eq_ok, readU32_eq_ok,
    readU64_eq_ok, not_or, not_not, Bool.not_eq_true, AllocateBufferRequest.codec_size]
  constructor
  · rintro ⟨_, length, _, ⟨_, rfl⟩, _, ⟨padding, reserved⟩, _, ⟨_, rfl⟩, _, ⟨_, rfl⟩, _, ⟨_, rfl⟩, _, ⟨_, rfl⟩, rfl⟩
    exact ⟨_, ⟨length, rfl, rfl, rfl, (byteAt_eq (by omega)).symm, (anyNonzero_eq_false (by omega)).mp padding,
      rfl, reserved⟩, rfl⟩
  · rintro ⟨request, ⟨length, contextId, bytes, alignment, domain, padding, usage, reserved⟩, rfl⟩
    refine ⟨(), length, _, ⟨by omega, reserved⟩, (), ⟨(anyNonzero_eq_false (by omega)).mpr padding, rfl⟩, _,
      ⟨by omega, contextId⟩, _, ⟨by omega, bytes⟩, _, ⟨by omega, alignment⟩, _, ⟨by omega, usage⟩, ?_⟩
    rw [byteAt_eq (by omega), domain]

theorem decodeWriteBuffer_eq_ok :
    decodeRequestBody .writeBuffer payload = .ok body ↔
      ∃ transfer data, (RequestBody.writeBuffer transfer data).payload = payload ∧
      .writeBuffer transfer data = body := by
  simp only [eq_comm (b := payload), RequestBody.payload, ← TransferBufferRequest.canonical.append_iff,
    decodeRequestBody,
    bind_eq_ok, pure_eq_ok, refuseIf_eq_ok, decodeTransfer_eq_ok, Nat.not_lt, TransferBufferRequest.codec_size]
  constructor
  · rintro ⟨_, within, transfer, ⟨_, fields⟩, rfl⟩
    exact ⟨transfer, _, ⟨within, fields, rfl⟩, rfl⟩
  rintro ⟨transfer, _, ⟨within, fields, rfl⟩, rfl⟩
  exact ⟨(), within, transfer, ⟨within, fields⟩, rfl⟩

theorem decodeReadBuffer_eq_ok :
    decodeRequestBody .readBuffer payload = .ok body ↔
      ∃ transfer, (RequestBody.readBuffer transfer).payload = payload ∧ .readBuffer transfer = body := by
  simp only [eq_comm (b := payload), RequestBody.payload, ← TransferBufferRequest.canonical.field_iff,
    decodeRequestBody, bind_eq_ok, pure_eq_ok, requireExact_eq_ok, decodeTransfer_eq_ok]
  constructor
  · rintro ⟨_, length, transfer, ⟨_, fields⟩, rfl⟩
    exact ⟨transfer, ⟨length, fields⟩, rfl⟩
  rintro ⟨transfer, ⟨length, fields⟩, rfl⟩
  exact ⟨(), length, transfer, ⟨length.ge, fields⟩, rfl⟩

theorem target_eq_ok {target : Vector UInt32 12} (within : 80 ≤ payload.length) :
    Vector.ofFnM (fun index : Fin 12 => readU32 payload (16 + index * 4)) = .ok target ↔
      (u32.array 12).field payload 16 = target := by
  have each : (fun index : Fin 12 => readU32 payload (16 + index * 4)) =
      fun index : Fin 12 => pure (u32.field payload (16 + index * 4)) := by
    funext index
    exact readU32_eq_ok.mpr ⟨by omega, rfl⟩
  rw [each, Vector.ofFnM_pure, field_array]
  exact pure_eq_ok

theorem decodeLoadProgram_eq_ok (small : payload.length < 2 ^ 64) :
    decodeLoadProgram payload = .ok body ↔
      ∃ request, (RequestBody.loadProgram request).payload = payload ∧ .loadProgram request = body := by
  simp only [eq_comm (b := payload), RequestBody.payload, ← LoadProgramRequest.canonical.append_iff,
    LoadProgramRequest.field_eq, LoadProgramRequest.mk.injEq, LoadProgramRequest.codec_size]
  simp only [decodeLoadProgram, bind_eq_ok, pure_eq_ok, refuseIf_eq_ok, not_not, Nat.not_lt, readU32_eq_ok,
    readU64_eq_ok]
  constructor
  · rintro ⟨_, within, _, ⟨_, rfl⟩, _, flags, target, words, _, ⟨_, rfl⟩, _, declared, _, ⟨_, rfl⟩, _, ⟨_, rfl⟩,
      _, ⟨_, rfl⟩, rfl⟩
    refine ⟨_, ⟨within, ⟨rfl, rfl, flags, (target_eq_ok within).mp words, ?_, rfl⟩, rfl⟩, rfl⟩
    rw [← declared, UInt64.ofNat_toNat]
  · rintro ⟨⟨_, _, _, _, _⟩, ⟨within, ⟨rfl, rfl, flags, rfl, declared, rfl⟩, rfl⟩, rfl⟩
    refine ⟨(), within, _, ⟨by omega, flags⟩, (), rfl, _, (target_eq_ok within).mpr rfl, _,
      ⟨by omega, declared⟩, (), ?_, _, ⟨by omega, rfl⟩, _, ⟨by omega, rfl⟩, _, ⟨by omega, rfl⟩, rfl⟩
    rw [UInt64.toNat_ofNat', Nat.mod_eq_of_lt (by rw [List.length_drop]; omega)]

/-- The fixed part of a submission. -/
theorem decodeSubmit_eq_ok :
    decodeSubmit payload = .ok body ↔ ∃ queueId programId timeoutNs bytes count,
      payload = SubmitRequest.codec.encode ⟨queueId, programId, count, 0, timeoutNs⟩ ++ bytes ∧
      count ≠ 0 ∧ count ≤ hardMaxBindings ∧ .submit ⟨queueId, programId, timeoutNs, .encoded bytes count⟩ =
      body := by
  simp only [← SubmitRequest.canonical.append_iff, SubmitRequest.field_eq, SubmitRequest.mk.injEq,
    SubmitRequest.codec_size]
  simp only [decodeSubmit, bind_eq_ok, pure_eq_ok, refuseIf_eq_ok, not_not, Nat.not_lt, UInt32.not_lt,
    readU32_eq_ok, readU64_eq_ok]
  constructor
  · rintro ⟨_, within, _, ⟨_, rfl⟩, _, some, _, few, _, ⟨_, rfl⟩, _, flags, _, ⟨_, rfl⟩, _, ⟨_, rfl⟩, _,
      ⟨_, rfl⟩, rfl⟩
    exact ⟨_, _, _, _, _, ⟨within, ⟨rfl, rfl, rfl, flags, rfl⟩, rfl⟩, some, few, rfl⟩
  rintro ⟨_, _, _, _, _, ⟨within, ⟨rfl, rfl, rfl, flags, rfl⟩, rfl⟩, some, few, rfl⟩
  exact ⟨(), within, _, ⟨by omega, rfl⟩, (), some, (), few, _, ⟨by omega, flags⟩, (), rfl, _, ⟨by omega, rfl⟩, _,
    ⟨by omega, rfl⟩, _, ⟨by omega, rfl⟩, rfl⟩

/-- A submission is decoded with its bindings as they stand in the frame. -/
def RequestBody.Raw : RequestBody → Prop
  | submit request => ∃ bytes count, request.bindings = .encoded bytes count
  | _ => True

/-- A submission whose bindings are valid, and fill the frame. -/
theorem submit_payload {queueId programId timeoutNs : UInt64}
    (computed : requestPayloadLen (.submit ⟨queueId, programId, timeoutNs, .encoded bytes count⟩) = .ok len) :
    (RequestBody.submit ⟨queueId, programId, timeoutNs, .encoded bytes count⟩).payload =
      SubmitRequest.codec.encode ⟨queueId, programId, count, 0, timeoutNs⟩ ++ bytes ∧ count ≠ 0 ∧
      count ≤ hardMaxBindings := by
  simp only [requestPayloadLen, bind_eq_ok, validateBindings_eq_ok] at computed
  obtain ⟨_, _, fills, values, listed, some, few, _⟩ := computed
  obtain ⟨same, rfl⟩ := Bindings.list_bytes (of_decide_eq_true fills) listed
  have counted : (UInt32.ofNat values.length).toNat = values.length := by
    rw [UInt32.toNat_ofNat', Nat.mod_eq_of_lt (by omega)]
  refine ⟨?_, fun none => ?_, UInt32.le_iff_toNat_le.mpr (by rw [counted]; exact few)⟩
  · rw [RequestBody.payload, listed]
    dsimp only
    rw [← same]
  · rw [none] at counted
    exact some (List.length_eq_zero_iff.mp counted.symm)

/-- What is decoded says what the payload says. -/
theorem decodeRequestBody_payload (decodes : decodeRequestBody opcode payload = .ok body)
    (computed : requestPayloadLen body = .ok payload.length) (small : payload.length < 2 ^ 64) :
    body.opcode = opcode ∧ body.payload = payload ∧ body.Raw := by
  cases opcode with
  | getDeviceInfo =>
    simp only [decodeRequestBody, bind_eq_ok, pure_eq_ok, requireExact_eq_ok] at decodes
    obtain ⟨_, empty, rfl⟩ := decodes
    exact ⟨rfl, (List.length_eq_zero_iff.mp empty).symm, trivial⟩
  | createContext =>
    obtain ⟨same, rfl⟩ := decodeCreateContext_eq_ok.mp decodes
    exact ⟨rfl, same, trivial⟩
  | allocateBuffer =>
    obtain ⟨_, same, rfl⟩ := decodeAllocate_eq_ok.mp decodes
    exact ⟨rfl, same, trivial⟩
  | writeBuffer =>
    obtain ⟨_, _, same, rfl⟩ := decodeWriteBuffer_eq_ok.mp decodes
    exact ⟨rfl, same, trivial⟩
  | readBuffer =>
    obtain ⟨_, same, rfl⟩ := decodeReadBuffer_eq_ok.mp decodes
    exact ⟨rfl, same, trivial⟩
  | loadProgram =>
    obtain ⟨_, same, rfl⟩ := (decodeLoadProgram_eq_ok small).mp decodes
    exact ⟨rfl, same, trivial⟩
  | createQueue =>
    obtain ⟨_, same, rfl⟩ := decodeCreateQueue_eq_ok.mp decodes
    exact ⟨rfl, same, trivial⟩
  | submit =>
    obtain ⟨_, _, _, _, _, same, _, _, rfl⟩ := decodeSubmit_eq_ok.mp decodes
    exact ⟨rfl, (submit_payload computed).1.trans same.symm, _, _, rfl⟩
  | destroyContext | freeBuffer | unloadProgram | destroyQueue | pollEvent | cancelEvent | destroyEvent =>
    obtain ⟨_, object, made⟩ := bind_eq_ok.mp decodes
    cases made
    exact ⟨rfl, (decodeObject_eq_ok.mp object).2.symm, trivial⟩

/-- A payload is decoded to the body that it is the payload of. -/
theorem RequestBody.payload_decodes (computed : requestPayloadLen body = .ok len) (raw : body.Raw)
    (small : body.payload.length < 2 ^ 64) : decodeRequestBody body.opcode body.payload = .ok body := by
  cases body with
  | getDeviceInfo => rfl
  | createContext => exact decodeCreateContext_eq_ok.mpr ⟨rfl, rfl⟩
  | allocateBuffer request => exact decodeAllocate_eq_ok.mpr ⟨request, rfl, rfl⟩
  | writeBuffer transfer data => exact decodeWriteBuffer_eq_ok.mpr ⟨transfer, data, rfl, rfl⟩
  | readBuffer transfer => exact decodeReadBuffer_eq_ok.mpr ⟨transfer, rfl, rfl⟩
  | loadProgram request => exact (decodeLoadProgram_eq_ok small).mpr ⟨request, rfl, rfl⟩
  | createQueue contextId => exact decodeCreateQueue_eq_ok.mpr ⟨contextId, rfl, rfl⟩
  | submit request =>
    obtain ⟨queueId, programId, timeoutNs, _⟩ := request
    obtain ⟨bytes, count, rfl⟩ := raw
    obtain ⟨same, some, few⟩ := submit_payload computed
    exact decodeSubmit_eq_ok.mpr ⟨queueId, programId, timeoutNs, bytes, count, same, some, few, rfl⟩
  | destroyContext object | freeBuffer object | unloadProgram object | destroyQueue object | pollEvent object
  | cancelEvent object | destroyEvent object =>
    exact bind_eq_ok.mpr ⟨object, decodeObject_eq_ok.mpr ⟨(objectLen_eq_ok.mp computed).1, rfl⟩, rfl⟩

/-- What `validate_allocate` lets through. -/
structure AllocateBuffer.Valid (request : AllocateBuffer) : Prop where
  contextId : request.contextId ≠ 0
  bytes : request.bytes ≠ 0
  alignment : isPowerOfTwo request.alignment = true
  memoryDomain : 1 ≤ request.memoryDomain ∧ request.memoryDomain ≤ 3
  usage : request.usage ≠ 0
  known : request.usage &&& ~~~knownBufferUsageBits = 0

theorem validateAllocate_eq_ok {request : AllocateBuffer} : validateAllocate request = .ok u ↔ request.Valid := by
  simp only [validateAllocate, bind_eq_ok, refuseIf_eq_ok, not_or, not_not]
  constructor
  · rintro ⟨_, ⟨contextId, bytes, _, alignment, domain, usage⟩, known⟩
    exact ⟨contextId, bytes, alignment, domain, usage, known⟩
  rintro ⟨contextId, bytes, alignment, domain, usage, known⟩
  refine ⟨(), ⟨contextId, bytes, ?_, alignment, domain, usage⟩, known⟩
  intro zero
  rw [zero] at alignment
  exact absurd alignment (by decide)

/-- What `validate_transfer` lets through. -/
structure TransferBuffer.Valid (transfer : TransferBuffer) : Prop where
  bufferId : transfer.bufferId ≠ 0
  bytes : transfer.bytes ≠ 0
  ends : transfer.offset.toNat + transfer.bytes.toNat < 2 ^ 64

theorem validateTransfer_eq_ok : validateTransfer transfer = .ok u ↔ transfer.Valid := by
  simp only [validateTransfer, bind_eq_ok, refuseIf_eq_ok, not_or, Nat.not_le]
  constructor
  · rintro ⟨_, ⟨bufferId, bytes⟩, ends⟩
    exact ⟨bufferId, bytes, ends⟩
  rintro ⟨bufferId, bytes, ends⟩
  exact ⟨(), ⟨bufferId, bytes⟩, ends⟩

theorem Opcode.tryFrom_eq_ok {raw : UInt16} : Opcode.tryFrom raw = .ok opcode ↔ raw = opcode.toU16 := by
  constructor
  · intro found
    unfold Opcode.tryFrom at found
    split at found <;> cases found <;> rfl
  · rintro rfl
    cases opcode <;> rfl

/-- The one frame of a request. -/
def Request.frame (self : Request) : List UInt8 :=
  RequestHeader.codec.encode ⟨self.body.opcode.toU16, 0, UInt32.ofNat self.body.payload.length, self.requestId⟩ ++
    self.body.payload

theorem Request.frame_length (request : Request) : request.frame.length = 16 + request.body.payload.length := by
  rw [frame, List.length_append, RequestHeader.codec.encode_length, RequestHeader.codec_size]

/-- What is decoded from a frame is what it is the frame of. -/
theorem decodeRequest_eq_ok {clean : Request} : decodeRequest bytes = .ok clean ↔
    clean.requestId ≠ 0 ∧ bytes.length ≤ 16777216 ∧ requestPayloadLen clean.body = .ok clean.body.payload.length ∧
      clean.body.Raw ∧ bytes = clean.frame := by
  have most : hardMaxRequestBytes = 16777216 := rfl
  simp only [decodeRequest, bind_eq_ok, refuseIf_eq_ok, pure_eq_ok, not_not, readU16_eq_ok, readU32_eq_ok,
    readU64_eq_ok, most, Nat.not_lt, Opcode.tryFrom_eq_ok]
  simp only [requestHeaderBytes]
  constructor
  · rintro ⟨_, enough, _, ⟨_, rfl⟩, opcode, known, _, ⟨_, rfl⟩, _, flags, _, ⟨_, rfl⟩, _, total, _, few, _,
      ⟨_, rfl⟩, _, named, body, decoded, _, length, _, same, rfl⟩
    have rest : (bytes.drop 16).length = (u32.field bytes 4).toNat := by
      rw [List.length_drop]
      omega
    rw [same, ← rest] at length
    obtain ⟨rfl, payload, raw⟩ := decodeRequestBody_payload decoded length (by omega)
    refine ⟨named, by omega, by rw [payload]; exact length, raw, RequestHeader.canonical.append_iff.mp ⟨enough, ?_,
      payload.symm⟩⟩
    rw [RequestHeader.field_eq, flags, ← known, payload, rest, UInt32.ofNat_toNat]
  · rintro ⟨named, few, length, raw, same⟩
    have size := clean.frame_length
    obtain ⟨enough, header, rest⟩ := RequestHeader.canonical.append_iff.mpr same
    rw [RequestHeader.field_eq, RequestHeader.mk.injEq] at header
    obtain ⟨opcode, flags, payloadBytes, requestId⟩ := header
    rw [← same] at size
    rw [RequestHeader.codec_size] at enough rest
    have counted : (UInt32.ofNat clean.body.payload.length).toNat = clean.body.payload.length := by
      rw [UInt32.toNat_ofNat', Nat.mod_eq_of_lt (by omega)]
    refine ⟨(), enough, _, ⟨by omega, opcode⟩, _, rfl, _, ⟨by omega, flags⟩, (), rfl, _, ⟨by omega, payloadBytes⟩,
      (), by omega, (), by omega, _, ⟨by omega, requestId⟩, (), named, _, ?_, _, length, (), counted.symm, rfl⟩
    rw [rest]
    exact clean.body.payload_decodes length raw (by omega)

end VirtioAccel.CleanRoom
