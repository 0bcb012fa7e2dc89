import VirtioAccel.Guest.Frames
import VirtioAccel.Device.DecoderFailures

/-! The requests a client publishes, and what any device that accepts one takes it for. -/

namespace VirtioAccel.Guest
open Checked List FrameWriter
open DriverChainBytes (readable writable)

/-- A typed operation with what its start method takes. -/
inductive Start where
  | getDeviceInfo
  | createContext
  | destroyContext (context : Context)
  | allocateBuffer (context : Context) (desc : BufferDesc)
  | freeBuffer (buffer : Buffer)
  | writeBuffer (buffer : Buffer) (offset : UInt64) (source : ReadableBytes)
  | writeBufferPrepared (buffer : Buffer) (range : BufferRange)
  | readBuffer (buffer : Buffer) (range : BufferRange)
  | loadProgram (context : Context) (desc : ProgramDesc) (artifact : ReadableBytes)
  | loadProgramPrepared (context : Context) (desc : ProgramDesc) (artifactBytes : UInt64)
  | unloadProgram (program : Program)
  | createExecutionQueue (context : Context)
  | destroyExecutionQueue (queue : ExecutionQueue)
  | submit (queue : ExecutionQueue) (retained : queue.context.isSome = true) (program : Program)
      (bindings : List Binding) (timeoutNs : UInt64)
  | pollEvent (event : Event)
  | cancelEvent (event : Event)
  | destroyEvent (event : Event)

/-- The operation whose response is awaited. -/
def Start.operation : Start → Operation
  | .getDeviceInfo => .getDeviceInfo
  | .createContext => .createContext
  | .destroyContext context => .destroyContext context
  | .allocateBuffer context desc => .allocateBuffer context.handle.id desc
  | .freeBuffer buffer => .freeBuffer buffer
  | .writeBuffer _ _ _ | .writeBufferPrepared _ _ => .writeBuffer
  | .readBuffer _ range => .readBuffer range.bytes
  | .loadProgram context desc _ | .loadProgramPrepared context desc _ => .loadProgram context.handle.id desc
  | .unloadProgram program => .unloadProgram program
  | .createExecutionQueue context => .createExecutionQueue context.handle.id
  | .destroyExecutionQueue queue => .destroyExecutionQueue queue
  | .submit queue retained _ _ _ => .submit (queue.context.get retained)
  | .pollEvent _ => .pollEvent
  | .cancelEvent _ => .cancelEvent
  | .destroyEvent event => .destroyEvent event

/-- The payload bytes of a successful response. -/
def Operation.successBytes : Operation → Nat
  | .getDeviceInfo => WireDeviceInfo.codec.size
  | .createContext | .allocateBuffer _ _ | .loadProgram _ _ | .createExecutionQueue _ => ObjectPayload.codec.size
  | .readBuffer bytes => bytes.toNat
  | .submit _ => SubmitResponse.codec.size
  | .pollEvent => WireEventState.codec.size
  | .destroyContext _ | .freeBuffer _ | .writeBuffer | .unloadProgram _ | .destroyExecutionQueue _ | .cancelEvent
  | .destroyEvent _ => 0

def Binding.decoded (self : Binding) : DecodedBinding :=
  ⟨self.buffer.handle.id, self.range, self.slot, self.access⟩

/-- The one object a request is about, and the command it becomes. -/
def Start.object : Start → Option (Handle × (ObjectId → DecodedRequestBody))
  | .destroyContext context => some (context.handle, .destroyContext)
  | .freeBuffer buffer => some (buffer.handle, .freeBuffer)
  | .unloadProgram program => some (program.handle, .unloadProgram)
  | .destroyExecutionQueue queue => some (queue.handle, .destroyQueue)
  | .pollEvent event => some (event.handle, .pollEvent)
  | .cancelEvent event => some (event.handle, .cancelEvent)
  | .destroyEvent event => some (event.handle, .destroyEvent)
  | _ => none

/-- The payload of a request for a transfer or about one object. -/
def Start.Begins (data : List UInt8) : Start → Prop
  | .readBuffer buffer range => data = TransferBufferRequest.codec.encode (GuestClient.transferPrefix buffer range)
  | start => ∀ handle make, start.object = some (handle, make) → data = ObjectPayload.codec.encode ⟨handle.id.raw⟩

/-- What any device that accepts the request takes it for. -/
structure Start.Taken (start : Start) (body : DecodedRequestBody) : Prop where
  opcode : body.opcode = start.operation.opcode
  payload : body.successPayload = start.operation.successBytes
  object : ∀ handle make, start.object = some (handle, make) → body = make handle.id
  submission : ∀ queue retained program bindings timeoutNs,
    start = .submit queue retained program bindings timeoutNs →
    body = .submit queue.handle.id program.handle.id (sortBindings (bindings.map Binding.decoded))
      (Timeout.fromWireNs timeoutNs)

namespace GuestClient
variable {decoded : DecodedRequest} {responseBytes : UInt64} {decoder : FrameDecoder} {queue : ExecutionQueue}
  {copied data : List UInt8} {payloadBytes capacity : UInt64} {desc : ProgramDesc} {program : Program}
  {context : ObjectId} {retained : queue.context.isSome = true} {reserve : Bool} {T : Type} {codec : Codec T}
  {buffer : Buffer} {timeoutNs : UInt64} {value : T}

section Start
variable {Q χ ε θ : Type} [DriverChainBuffer χ ε] [DriverQueue Q χ θ]

def start (self : GuestClient Q χ) (chain : χ) : Start → StartResult Q χ θ ε
  | .getDeviceInfo => self.getDeviceInfo chain
  | .createContext => self.createContext chain
  | .destroyContext context => self.destroyContext chain context
  | .allocateBuffer context desc => self.allocateBuffer chain context desc
  | .freeBuffer buffer => self.freeBuffer chain buffer
  | .writeBuffer buffer offset source => self.writeBuffer chain buffer offset source
  | .writeBufferPrepared buffer range => self.writeBufferPrepared chain buffer range
  | .readBuffer buffer range => self.readBuffer chain buffer range
  | .loadProgram context desc artifact => self.loadProgram chain context desc artifact
  | .loadProgramPrepared context desc artifactBytes => self.loadProgramPrepared chain context desc artifactBytes
  | .unloadProgram program => self.unloadProgram chain program
  | .createExecutionQueue context => self.createExecutionQueue chain context
  | .destroyExecutionQueue queue => self.destroyExecutionQueue chain queue
  | .submit queue retained program bindings timeoutNs => self.submit chain queue retained program bindings timeoutNs
  | .pollEvent event => self.pollEvent chain event
  | .cancelEvent event => self.cancelEvent chain event
  | .destroyEvent event => self.destroyEvent chain event

end Start

variable {Q χ ε θ : Type} [DriverChainBytes χ ε] [DriverQueue Q χ θ]
variable {copy : FrameWriter χ ε}

variable {client client' : GuestClient Q χ} {chain : χ} {published : Published χ} {request : ByteSource}

theorem toNat_size_add {size : Nat} {bytes : UInt64} (room : size + bytes.toNat < 2 ^ 64) :
    (UInt64.ofNat size + bytes).toNat = size + bytes.toNat := by
  rw [UInt64.toNat_add, UInt64.toNat_ofNat_of_lt' (show size < 2 ^ 64 by omega), Nat.mod_eq_of_lt room]

variable {operation : Operation} {bindings : List Binding}

theorem startTail_starts (fills : payloadBytes.toNat < 2 ^ 32 → Fills copy (16 + codec.size) copied) (started :
      client.startFrame chain operation payloadBytes responseBytes
      (andThen (writeWire requestHeaderBytes codec value) copy) = (.ok published, client')) :
    Starts client chain operation payloadBytes responseBytes (codec.encode value ++ copied) published := by
  refine startFrame_starts (fun small => (fills_writeWire rfl codec value).andThen ?_) started
  rw [codec.encode_length]
  exact fills small

theorem checkBindings_slots {epoch : QueueEpoch} {earlier rest : List Binding}
    (checked : (checkBindings epoch context false earlier rest : Except (StartErrorKind θ ε) Unit) = .ok ())
    (distinct : (earlier.map Binding.slot).Nodup) : ((earlier ++ rest).map Binding.slot).Nodup := by
  induction rest generalizing earlier with
  | nil =>
    rw [append_nil]
    exact distinct
  | cons binding rest ih =>
    simp only [checkBindings, bind_eq_ok, refuseIf_eq_ok, not_or] at checked
    obtain ⟨_, _, _, ⟨_, _, _, fresh⟩, further⟩ := checked
    have new : binding.slot ∉ earlier.map Binding.slot := by simpa using fresh
    have extended : ((earlier ++ [binding]).map Binding.slot).Nodup := by
      rw [map_append, nodup_append]
      refine ⟨distinct, by simp, fun slot member other same => ?_⟩
      rw [map_singleton, mem_singleton] at same
      exact fun equal => new (same ▸ equal ▸ member)
    have all := ih further extended
    rwa [append_assoc, singleton_append] at all

omit [DriverChainBytes χ ε] in
theorem checkSubmit_eq_ok
    (checked : (client.checkSubmit context queue program bindings : Except (StartErrorKind θ ε) Unit) = .ok ()) :
    bindings ≠ [] ∧ (bindings.map Binding.slot).Nodup ∧
      ∃ known, client.deviceInfo = some known ∧ bindings.length ≤ known.maxBindingsPerSubmission.toNat := by
  simp only [checkSubmit, bind_eq_ok, refuseIf_eq_ok, not_or] at checked
  obtain ⟨_, _, _, ⟨_, some⟩, known, found, _, small, _, admitted, slots⟩ := checked
  refine ⟨by simpa using some, ?_, known, ?_, ?_⟩
  · by_cases canonical : bindings.IsChain (fun left right => left.slot < right.slot)
    · exact slots_nodup canonical
    rw [decide_eq_false canonical] at slots
    exact checkBindings_slots slots nodup_nil
  · cases info : client.deviceInfo with
    | none =>
      rw [info] at found
      cases found
    | some other =>
      rw [info] at found
      cases found
      rfl
  · have count : (UInt32.ofNat bindings.length).toNat = bindings.length := by
      rw [UInt32.toNat_ofNat_of_lt' (Nat.not_le.mp small)]
    rw [UInt32.not_lt, UInt32.le_iff_toNat_le, count] at admitted
    exact admitted

/-- Both buffer writes, with what their source copies behind the fixed part. -/
theorem startWrite_starts {range : BufferRange}
    (started : client.startWrite chain buffer range copy = (.ok published, client'))
    (fills : range.bytes.toNat < 2 ^ 32 → Fills copy 40 copied) :
    TransferBufferRequest.codec.size + range.bytes.toNat < 2 ^ 64 ∧
      Starts client chain .writeBuffer
      (UInt64.ofNat TransferBufferRequest.codec.size + range.bytes) responseHeaderBytes
        (TransferBufferRequest.codec.encode (transferPrefix buffer range) ++ copied) published := by
  unfold startWrite at started
  split at started
  · cases started
  split at started
  · cases started
  rename_i room
  refine ⟨Nat.not_le.mp room, startTail_starts (fun small => fills ?_) started⟩
  rw [toNat_size_add (Nat.not_le.mp room)] at small
  omega

theorem writeBuffer_starts {offset : UInt64} {source : ReadableBytes}
    (started : client.writeBuffer chain buffer offset source = (.ok published, client')) :
    ∃ range : BufferRange, range.offset = offset ∧ range.bytes = source.len ∧
      TransferBufferRequest.codec.size + range.bytes.toNat < 2 ^ 64 ∧
      Starts client chain .writeBuffer
      (UInt64.ofNat TransferBufferRequest.codec.size + range.bytes) responseHeaderBytes
        (TransferBufferRequest.codec.encode (transferPrefix buffer range) ++ source.bytes) published := by
  unfold writeBuffer at started
  split at started
  · cases started
  split at started
  · cases started
  rename_i range built
  have same : range.offset = offset ∧ range.bytes = source.len := by
    unfold BufferRange.new at built
    split at built
    · split at built
      · cases built
        exact ⟨rfl, rfl⟩
      · cases built
    · cases built
  have length : range.bytes.toNat = source.bytes.length := by rw [same.2, source.toNat_len]
  have starts := startWrite_starts started
    (fun small => fills_copySource (show 40 + source.bytes.length < 2 ^ 64 by omega))
  exact ⟨range, same.1, same.2, starts⟩

/-- Both program loads. A sum that wraps leaves no room for the fixed part, so
none that wraps is published. -/
theorem startLoad_starts {context : Context} {artifactBytes : UInt64}
    (started : client.startLoad chain context desc artifactBytes copy = (.ok published, client'))
    (fills : artifactBytes.toNat < 2 ^ 32 → Fills copy 96 copied) :
    LoadProgramRequest.codec.size + artifactBytes.toNat < 2 ^ 64 ∧ artifactBytes ≠ 0 ∧
      (∃ known, client.deviceInfo = some known ∧ artifactBytes ≤ known.maxArtifactBytes) ∧
      Starts client chain (.loadProgram context.handle.id desc)
        (UInt64.ofNat LoadProgramRequest.codec.size + artifactBytes) objectResponse
        (LoadProgramRequest.codec.encode ⟨context.handle.id.raw, desc.format.value, 0, desc.target, artifactBytes,
          desc.residentBytes⟩ ++ copied) published := by
  unfold startLoad at started
  split at started
  · cases started
  split at started
  · cases started
  rename_i known found
  split at started
  · cases started
  rename_i some
  split at started
  · cases started
  rename_i admitted
  have fixed := startFrame_fixed (fills_writeWire rfl LoadProgramRequest.codec _) started
  rw [LoadProgramRequest.codec.encode_length] at fixed
  have size := LoadProgramRequest.codec_size
  have room : LoadProgramRequest.codec.size + artifactBytes.toNat < 2 ^ 64 := by
    have bound := artifactBytes.toNat_lt
    rw [UInt64.toNat_add, UInt64.toNat_ofNat'] at fixed
    omega
  refine ⟨room, some, ⟨known, found, UInt64.not_lt.mp admitted⟩, startTail_starts (fun small => fills ?_) started⟩
  rw [toNat_size_add room] at small
  omega

theorem loadProgram_starts {context : Context} {artifact : ReadableBytes}
    (started : client.loadProgram chain context desc artifact = (.ok published, client')) :
    LoadProgramRequest.codec.size + artifact.len.toNat < 2 ^ 64 ∧ artifact.len ≠ 0 ∧
      (∃ known, client.deviceInfo = some known ∧ artifact.len ≤ known.maxArtifactBytes) ∧
      Starts client chain (.loadProgram context.handle.id desc)
        (UInt64.ofNat LoadProgramRequest.codec.size + artifact.len) objectResponse
        (LoadProgramRequest.codec.encode ⟨context.handle.id.raw, desc.format.value, 0, desc.target, artifact.len,
          desc.residentBytes⟩ ++ artifact.bytes) published := by
  have length := artifact.toNat_len
  exact startLoad_starts started (fun small => fills_copySource (show 96 + artifact.bytes.length < 2 ^ 64 by omega))

theorem submit_starts
    (started : client.submit chain queue retained program bindings timeoutNs = (.ok published, client')) :
    (bindings ≠ [] ∧ (bindings.map Binding.slot).Nodup ∧
      ∃ known, client.deviceInfo = some known ∧ bindings.length ≤ known.maxBindingsPerSubmission.toNat) ∧
    (UInt64.ofNat WireBinding.codec.size * (UInt32.ofNat bindings.length).toUInt64).toNat = bindings.length * 32 ∧
    SubmitRequest.codec.size + bindings.length * 32 < 2 ^ 64 ∧
    Starts client chain (.submit (queue.context.get retained))
      (UInt64.ofNat SubmitRequest.codec.size + UInt64.ofNat WireBinding.codec.size *
        (UInt32.ofNat bindings.length).toUInt64)
      submitResponse
      (SubmitRequest.codec.encode ⟨queue.handle.id.raw, program.handle.id.raw, UInt32.ofNat bindings.length, 0,
        timeoutNs⟩ ++
        (bindings.map Binding.toWire).flatMap WireBinding.codec.encode) published := by
  unfold submit at started
  dsimp only at started
  split at started
  · cases started
  rename_i checked
  have found := checkSubmit_eq_ok checked
  have ⟨_, _, known, _, admitted⟩ := found
  have bound := known.maxBindingsPerSubmission.toNat_lt
  have size := SubmitRequest.codec_size
  have count : (UInt32.ofNat bindings.length).toUInt64.toNat = bindings.length := by
    rw [UInt32.toNat_toUInt64, UInt32.toNat_ofNat', Nat.mod_eq_of_lt (by omega)]
  have tail : (UInt64.ofNat WireBinding.codec.size * (UInt32.ofNat bindings.length).toUInt64).toNat =
      bindings.length * 32 := by
    rw [UInt64.toNat_mul, count, WireBinding.codec_size, show (UInt64.ofNat 32).toNat = 32 from rfl,
      Nat.mod_eq_of_lt (by omega), Nat.mul_comm]
  have fills : Fills (writeBindings bindings (requestHeaderBytes + UInt64.ofNat SubmitRequest.codec.size) :
      FrameWriter χ ε) (16 + SubmitRequest.codec.size) _ :=
    fills_writeBindings rfl (by omega)
  exact ⟨found, tail, by omega, startTail_starts (fun _ => fills) started⟩

/-- Every start method leaves room for its own response, and no more. -/
theorem start_starts {start : Start} (started : client.start chain start = (.ok published, client')) :
    ∃ payloadBytes responseBytes data,
      Starts client chain start.operation payloadBytes responseBytes data published ∧
      responseBytes.toNat = 16 + start.operation.successBytes ∧ Start.Begins data start := by
  cases start with
  | getDeviceInfo => exact ⟨_, _, _, startFrame_starts (fun _ => fills_done 16) started, rfl, by rintro _ _ ⟨⟩⟩
  | createContext => exact ⟨_, _, _, startWire_starts started, rfl, by rintro _ _ ⟨⟩⟩
  | allocateBuffer context desc =>
    replace started : client.allocateBuffer chain context desc = (.ok published, client') := started
    unfold allocateBuffer at started
    iterate 3
      split at started
      · cases started
    · exact ⟨_, _, _, startWire_starts started, rfl, by rintro _ _ ⟨⟩⟩
  | readBuffer buffer range =>
    replace started : client.readBuffer chain buffer range = (.ok published, client') := started
    unfold readBuffer at started
    iterate 3
      split at started
      · cases started
    rename_i room
    rw [responseHeaderBytes_toNat] at room
    refine ⟨_, _, _, startWire_starts started, ?_, rfl⟩
    rw [UInt64.toNat_add, responseHeaderBytes_toNat, Nat.mod_eq_of_lt (by omega)]
    rfl
  | createExecutionQueue context =>
    replace started : client.createExecutionQueue chain context = (.ok published, client') := started
    unfold createExecutionQueue at started
    split at started
    · cases started
    · exact ⟨_, _, _, startWire_starts started, rfl, by rintro _ _ ⟨⟩⟩
  | writeBuffer buffer offset source =>
    obtain ⟨range, _, _, _, starts⟩ := writeBuffer_starts started
    exact ⟨_, _, _, starts, rfl, by rintro _ _ ⟨⟩⟩
  | writeBufferPrepared buffer range =>
    replace started : client.writeBufferPrepared chain buffer range = (.ok published, client') := started
    unfold writeBufferPrepared at started
    split at started
    · cases started
    · exact ⟨_, _, _, (startWrite_starts started (fun _ => fills_done 40)).2, rfl, by rintro _ _ ⟨⟩⟩
  | loadProgram context desc artifact =>
    obtain ⟨_, _, _, starts⟩ := loadProgram_starts started
    exact ⟨_, _, _, starts, rfl, by rintro _ _ ⟨⟩⟩
  | loadProgramPrepared context desc artifactBytes =>
    obtain ⟨_, _, _, starts⟩ := startLoad_starts started (fun _ => fills_done 96)
    exact ⟨_, _, _, starts, rfl, by rintro _ _ ⟨⟩⟩
  | submit queue retained program bindings timeoutNs =>
    obtain ⟨_, _, _, starts⟩ := submit_starts started
    exact ⟨_, _, _, starts, rfl, by rintro _ _ ⟨⟩⟩
  | destroyContext | freeBuffer | unloadProgram | destroyExecutionQueue | pollEvent | cancelEvent | destroyEvent =>
    exact ⟨_, _, _, startObject_starts started, rfl, by rintro _ _ ⟨⟩; rfl⟩

section
variable (starts : Starts client chain operation payloadBytes responseBytes data published)
  (serves : request.Serves (readable published.chain))
include starts serves

/-- Whoever reads the header of a published request finds its own there. -/
theorem Starts.header :
    readWire request 0 RequestHeader.codec =
      .ok (RequestHeader.new operation.opcode payloadBytes.toUInt32 published.pending.requestId) := by
  rw [starts.bytes] at serves
  exact readWire_head serves (by decide)

theorem Starts.carries {requestId : UInt64} (carries : request.Carries requestId) :
    requestId = published.pending.requestId := by
  obtain ⟨header, read, rfl⟩ := carries
  cases (starts.header serves).symm.trans read
  rfl

theorem Starts.framed : Framed request (data ++ (readable chain).drop (16 + data.length)) :=
  ⟨_, RequestHeader.codec.encode_length _, starts.bytes ▸ serves⟩

end

/-- A frame without a tail. -/
theorem Starts.framed_exact (codec : Codec T)
    (starts : Starts client chain operation (UInt64.ofNat codec.size) responseBytes (codec.encode value) published)
    (small : codec.size < 2 ^ 64) (serves : request.Serves (readable published.chain)) :
    Framed request (codec.encode value) ∧ (UInt64.ofNat codec.size).toUInt32.toNat =
    (codec.encode value).length := by
  have framed := starts.framed serves
  have frame := starts.frame
  have less := starts.small
  rw [UInt64.toNat_ofNat_of_lt' small] at frame less
  rw [drop_of_length_le (by rw [codec.encode_length]; omega), append_nil] at framed
  rw [UInt64.toNat_toUInt32, UInt64.toNat_ofNat_of_lt' small, Nat.mod_eq_of_lt less, codec.encode_length]
  exact ⟨framed, rfl⟩

/-- A frame with a tail: what the writer copied, and behind it what the caller had prepared. -/
theorem Starts.framed_tail {bytes : UInt64} (room : codec.size + bytes.toNat < 2 ^ 64)
    (starts : Starts client chain operation
      (UInt64.ofNat codec.size + bytes) responseBytes (codec.encode value ++ copied) published)
    (serves : request.Serves (readable published.chain)) :
    Framed request (codec.encode value ++ (copied ++ (readable chain).drop (16 + codec.size + copied.length))) ∧
      (copied ++ (readable chain).drop (16 + codec.size + copied.length)).length = bytes.toNat ∧
      (UInt64.ofNat codec.size + bytes).toUInt32.toNat =
        (codec.encode value ++ (copied ++ (readable chain).drop (16 + codec.size + copied.length))).length := by
  have length := codec.encode_length value
  have payload := toNat_size_add room
  have frame := starts.frame
  have within := starts.within
  have small := starts.small
  rw [payload] at frame within small
  rw [length_append] at within
  have framed := starts.framed serves
  rw [length_append, length, append_assoc, ← Nat.add_assoc] at framed
  have whole : (copied ++ (readable chain).drop (16 + codec.size + copied.length)).length = bytes.toNat := by
    rw [length_append, length_drop]
    omega
  refine ⟨framed, whole, ?_⟩
  rw [UInt64.toNat_toUInt32, payload, Nat.mod_eq_of_lt small, length_append, whole, length]

/-- The bindings of a submission fill its frame, so nothing of the caller's is
left behind them. -/
theorem Starts.framed_submit {fixed : SubmitRequest}
    (tail : (UInt64.ofNat WireBinding.codec.size * (UInt32.ofNat bindings.length).toUInt64).toNat =
      bindings.length * 32)
    (room : SubmitRequest.codec.size + bindings.length * 32 < 2 ^ 64)
    (starts : Starts client chain operation
      (UInt64.ofNat SubmitRequest.codec.size + UInt64.ofNat WireBinding.codec.size *
        (UInt32.ofNat bindings.length).toUInt64) responseBytes (SubmitRequest.codec.encode fixed ++
        (bindings.map Binding.toWire).flatMap WireBinding.codec.encode) published)
    (serves : request.Serves (readable published.chain)) :
    Framed request (SubmitRequest.codec.encode fixed ++
        ((bindings.map Binding.decoded).map DecodedBinding.wire).flatMap WireBinding.codec.encode) ∧
      (UInt64.ofNat SubmitRequest.codec.size +
        UInt64.ofNat WireBinding.codec.size * (UInt32.ofNat bindings.length).toUInt64).toUInt32.toNat =
        (SubmitRequest.codec.encode fixed ++
          ((bindings.map Binding.decoded).map DecodedBinding.wire).flatMap WireBinding.codec.encode).length := by
  have wires : bindings.map Binding.toWire = (bindings.map Binding.decoded).map DecodedBinding.wire := by
    rw [map_map]
    rfl
  obtain ⟨framed, whole, sized⟩ := starts.framed_tail (by rw [tail]; exact room) serves
  have empty : (readable chain).drop (16 + SubmitRequest.codec.size +
      ((bindings.map Binding.toWire).flatMap WireBinding.codec.encode).length) = [] := by
    rw [length_append, tail, WireBinding.codec.flatMap_length, length_map, WireBinding.codec_size] at whole
    rw [WireBinding.codec.flatMap_length, length_map, WireBinding.codec_size]
    exact eq_nil_of_length_eq_zero (by omega)
  rw [empty, append_nil, wires] at framed sized
  exact ⟨framed, sized⟩

/-- A device that accepts a published frame has decoded its body. -/
theorem Starts.accepted (starts : Starts client chain operation payloadBytes responseBytes data published)
    (serves : request.Serves (readable published.chain))
    (accepted : decoder.decode reserve request capacity = .ok decoded) :
    decoder.decodeBody reserve request payloadBytes.toUInt32 operation.opcode = .ok decoded.body :=
  FrameDecoder.decode_body (starts.header serves) accepted

theorem submit_taken
    (started : client.submit chain queue retained program bindings timeoutNs = (.ok published, client'))
    (serves : request.Serves (readable published.chain))
    (accepted : decoder.decode reserve request capacity = .ok decoded) :
    decoded.body = .submit queue.handle.id program.handle.id (sortBindings (bindings.map Binding.decoded))
      (Timeout.fromWireNs timeoutNs) := by
  obtain ⟨⟨some, distinct, known, _, most⟩, tail, room, starts⟩ := submit_starts started
  obtain ⟨framed, sized⟩ := starts.framed_submit tail room serves
  have bound := known.maxBindingsPerSubmission.toNat_lt
  have few : (bindings.map Binding.decoded).length < 2 ^ 32 := by
    rw [length_map]
    omega
  have found : decoder.decodeSubmit reserve request _ = .ok decoded.body := starts.accepted serves accepted
  rw [← length_map Binding.decoded] at framed sized found
  exact Framed.submit_taken (by simpa using some) (by rw [map_map]; exact distinct) few framed sized found

/-- A request about one object is taken for its command on that object. -/
theorem startObject_taken {handle : Handle} (make : ObjectId → DecodedRequestBody)
    (started : client.startObject chain operation handle responseBytes = (.ok published, client'))
    (serves : request.Serves (readable published.chain))
    (accepted : decoder.decode reserve request capacity = .ok decoded)
    (form : decoder.decodeBody reserve request 8 operation.opcode = decodeObject request 8 >>= fun id =>
      pure (make id)) :
    decoded.body = make handle.id := by
  have starts := startObject_starts started
  have found := form.symm.trans (starts.accepted serves accepted)
  obtain ⟨framed, sized⟩ := starts.framed_exact ObjectPayload.codec (by decide) serves
  have object : decodeObject request 8 = .ok handle.id := (framed.object_eq_ok sized).mpr rfl
  rw [object] at found
  exact (Except.ok.inj found).symm

/-- The decoder takes from the frame of a start what it asked for. -/
theorem start_taken {start : Start} (started : client.start chain start = (.ok published, client'))
    (serves : request.Serves (readable published.chain))
    (accepted : decoder.decode reserve request capacity = .ok decoded) :
    Start.Taken start decoded.body := by
  obtain ⟨payloadBytes, responseBytes, data, starts, _, begins⟩ := start_starts started
  have framed := starts.framed serves
  have found := starts.accepted serves accepted
  have same := FrameDecoder.decodeBody_opcode found
  refine ⟨same, ?_, ?_, ?_⟩
  · generalize decoded.body = body at found same
    cases start with
    | readBuffer buffer range =>
      cases begins
      simp only [Start.operation, Operation.opcode, FrameDecoder.decodeBody, decodeTransfer, bind_eq_ok,
        pure_eq_ok, decodeRange] at found
      obtain ⟨_, ⟨_, _, value, read, _, _, _, _, _, _, id, _, range', built, rfl⟩, _, _, rfl⟩ := found
      cases (framed.read (by decide)).symm.trans read
      unfold VirtioAccel.BufferRange.new at built
      split at built
      · split at built
        · cases built
          rfl
        · cases built
      · cases built
    | _ =>
      cases body with
      | readBuffer id range => cases same
      | _ => first | rfl | cases same
  · intro handle make named
    cases start with
    | destroyContext | freeBuffer | unloadProgram | destroyExecutionQueue | pollEvent | cancelEvent
    | destroyEvent =>
      cases named
      exact startObject_taken _ started serves accepted rfl
    | _ => cases named
  · rintro queue retained program bindings timeoutNs rfl
    exact submit_taken started serves accepted

end GuestClient

end VirtioAccel.Guest
