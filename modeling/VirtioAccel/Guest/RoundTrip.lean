import VirtioAccel.Guest.Requests
import VirtioAccel.Guest.Discovery

/-! Every request the guest publishes is the request the device decodes. -/

namespace VirtioAccel.Guest
open Checked List
open DriverChainBytes (readable writable)

section Describes
variable {χ ε : Type} [DriverChainBytes χ ε]

/-- The decoded body says what was asked for. The prepared payloads are what
the caller had put into the chain behind the fixed part. -/
def Start.Describes (chain : χ) : Start → DecodedRequestBody → Prop
  | .getDeviceInfo, .getDeviceInfo => True
  | .createContext, .createContext desc => desc = ⟨0⟩
  | .destroyContext context, .destroyContext id => id = context.handle.id
  | .allocateBuffer context asked, .allocateBuffer id desc => id = context.handle.id ∧ desc = asked.toBufferDesc
  | .freeBuffer buffer, .freeBuffer id => id = buffer.handle.id
  | .writeBuffer buffer offset source, .writeBuffer id range data =>
    id = buffer.handle.id ∧ range.offset = offset ∧ range.bytes = source.len ∧ data.Serves source.bytes
  | .writeBufferPrepared buffer asked, .writeBuffer id range data =>
    id = buffer.handle.id ∧ range = asked ∧ data.Serves ((readable chain).drop 40)
  | .readBuffer buffer asked, .readBuffer id range => id = buffer.handle.id ∧ range = asked
  | .loadProgram context desc artifact, .loadProgram id format target payload residentBytes =>
    id = context.handle.id ∧ format = desc.format ∧ target = desc.target ∧ residentBytes = desc.residentBytes ∧
      payload.Serves artifact.bytes
  | .loadProgramPrepared context desc _, .loadProgram id format target payload residentBytes =>
    id = context.handle.id ∧ format = desc.format ∧ target = desc.target ∧ residentBytes = desc.residentBytes ∧
      payload.Serves ((readable chain).drop 96)
  | .unloadProgram program, .unloadProgram id => id = program.handle.id
  | .createExecutionQueue context, .createQueue id desc => id = context.handle.id ∧ desc = ⟨0⟩
  | .destroyExecutionQueue queue, .destroyQueue id => id = queue.handle.id
  | .submit queue _ program bindings timeoutNs, .submit queueId programId decoded timeout =>
    queueId = queue.handle.id ∧ programId = program.handle.id ∧
      decoded = sortBindings (bindings.map Binding.decoded) ∧ timeout = Timeout.fromWireNs timeoutNs
  | .pollEvent event, .pollEvent id => id = event.handle.id
  | .cancelEvent event, .cancelEvent id => id = event.handle.id
  | .destroyEvent event, .destroyEvent id => id = event.handle.id
  | _, _ => False

/-- The decoded request is the published one, down to the response size the client reserved. -/
structure Delivered (start : Start) (chain : χ) (published : Published χ) (decoded : DecodedRequest) : Prop where
  requestId : decoded.requestId = published.pending.requestId
  opcode : decoded.body.opcode = published.pending.operation.opcode
  body : start.Describes chain decoded.body
  response : decoded.requiredResponseBytes.toUInt64 = published.reserved

end Describes

namespace GuestClient
variable {Q χ ε θ : Type} [DriverChainBytes χ ε] [DriverQueue Q χ θ]
variable {copied : List UInt8} {context : Context} {buffer : Buffer}
variable {range : BufferRange} {desc : ProgramDesc} {operation : Operation} {responseBytes : UInt64}

/-- The device's decoder has the client's configuration, and what the client
knows of the device is what the device says of itself. -/
structure Agrees (client : GuestClient Q χ) (info : VirtioAccel.DeviceInfo) (limits : DecoderLimits) : Prop where
  made : DecoderLimits.new client.config.wire info = .ok limits
  discovered : ∀ known, client.deviceInfo = some known →
    DeviceInfo.fromWire (wireDeviceInfo info) client.config.wire.maxRequestBytes = .ok known

variable {client client' : GuestClient Q χ} {info : VirtioAccel.DeviceInfo} {limits : DecoderLimits} {chain : χ}
  {published : Published χ} {request : ByteSource}

/-- What the device's decoder and the client's information have in common. -/
theorem Agrees.limits_eq (agrees : Agrees client info limits) :
    limits.maxRequestBytes = client.config.wire.maxRequestBytes ∧
      limits.maxResponseBytes = client.config.wire.maxResponseBytes ∧
      limits.maxBindings ≤ hardMaxBindings ∧
      ∀ known, client.deviceInfo = some known → limits.maxBindings = known.maxBindingsPerSubmission ∧
        limits.maxBufferBytes = known.maxBufferBytes ∧ limits.maxArtifactBytes = known.maxArtifactBytes ∧
        limits.capabilities = known.capabilities ∧
        96 + known.maxArtifactBytes.toNat ≤ client.config.wire.maxRequestBytes.toNat := by
  have made := agrees.made
  simp only [DecoderLimits.new, bind_eq_ok, refuseIf_eq_ok, pure_eq_ok, not_not] at made
  obtain ⟨_, _, _, bindings, _, _, _, _, rfl⟩ := made
  refine ⟨rfl, rfl, bindings.2, fun known found => ?_⟩
  obtain ⟨rfl, fits⟩ := DeviceInfo.fromWire_eq_ok (agrees.discovered known found)
  exact ⟨rfl, rfl, rfl, rfl, fits⟩

variable {start : Start}

/-- The device takes the published frame for what was asked for. -/
def Delivers (start : Start) (chain : χ) (published : Published χ) (limits : DecoderLimits) (request : ByteSource) :
    Prop :=
  ∃ decoded, (FrameDecoder.mk limits).decode true request (DriverChainBuffer.deviceWritableLen published.chain) =
    .ok decoded ∧ Delivered start chain published decoded

/-- A published frame whose body decodes to what was asked for is delivered. -/
theorem Starts.delivers {payloadBytes : UInt64} {data : List UInt8} (agrees : Agrees client info limits)
    (starts : Starts client chain operation payloadBytes responseBytes data published)
    (serves : request.Serves (readable published.chain)) {body : DecodedRequestBody}
    (parsed : (FrameDecoder.mk limits).decodeBody true request payloadBytes.toUInt32 operation.opcode = .ok body)
    (describes : start.Describes chain body) (required : body.requiredResponseBytes = responseBytes.toNat) :
    Delivers start chain published limits request := by
  obtain ⟨requestLimit, responseLimit, _, _⟩ := agrees.limits_eq
  have bytes := starts.bytes
  have frame := starts.frame
  have within := starts.within
  have response := starts.response
  have bound := client.config.wire.maxResponseBytes.toNat_lt
  have room : responseBytes.toNat ≤ (DriverChainBuffer.deviceWritableLen published.chain).toNat := by
    rw [← DriverChainBytes.writable_length, starts.kept]
    exact starts.capacity
  have length : (data ++ (readable chain).drop (16 + data.length)).length = payloadBytes.toUInt32.toNat := by
    rw [length_append, length_drop, UInt64.toNat_toUInt32, Nat.mod_eq_of_lt starts.small]
    omega
  have fits : 16 + (data ++ (readable chain).drop (16 + data.length)).length ≤ limits.maxRequestBytes.toNat := by
    rw [length, UInt64.toNat_toUInt32, Nat.mod_eq_of_lt starts.small, requestLimit]
    exact starts.request
  refine ⟨_, FrameDecoder.decode_serves (bytes ▸ serves) length starts.named fits parsed ?_ (required ▸ room), rfl,
    ?_, describes, ?_⟩
  · rw [required, responseLimit]
    exact response
  · rw [starts.typed]
    exact FrameDecoder.decodeBody_opcode parsed
  · rw [starts.reserved]
    apply UInt64.toNat_inj.mp
    rw [UInt32.toNat_toUInt64, required, UInt32.toNat_ofNat', Nat.mod_eq_of_lt (by omega)]

/-- The commands whose payload is one identifier. -/
theorem startObject_delivers (make : ObjectId → DecodedRequestBody) {handle : Handle}
    (agrees : Agrees client info limits)
    (started : client.startObject chain operation handle responseBytes = (.ok published, client'))
    (serves : request.Serves (readable published.chain))
    (form : (FrameDecoder.mk limits).decodeBody true request 8 operation.opcode =
      decodeObject request 8 >>= fun id => pure (make id))
    (describes : start.Describes chain (make handle.id))
    (required : (make handle.id).requiredResponseBytes = responseBytes.toNat) :
    Delivers start chain published limits request := by
  have starts := startObject_starts started
  obtain ⟨framed, sized⟩ := starts.framed_exact ObjectPayload.codec (by decide) serves
  have object : decodeObject request 8 = .ok handle.id := (framed.object_eq_ok sized).mpr rfl
  refine starts.delivers agrees serves (form.trans ?_) describes required
  rw [object]
  rfl

section
variable (agrees : Agrees client info limits)
include agrees

theorem allocateBuffer_delivers {desc : BufferDesc}
    (started : client.allocateBuffer chain context desc = (.ok published, client'))
    (serves : request.Serves (readable published.chain)) :
    Delivers (.allocateBuffer context desc) chain published limits request := by
  unfold allocateBuffer at started
  split at started
  · cases started
  split at started
  · cases started
  rename_i known found
  split at started
  · cases started
  rename_i admitted
  simp only [not_or, not_not, UInt64.not_lt] at admitted
  obtain ⟨_, _, _, shared⟩ := agrees.limits_eq
  obtain ⟨_, bytes, _, capabilities, _⟩ := shared known found
  have starts := startWire_starts started
  obtain ⟨framed, sized⟩ := starts.framed_exact AllocateBufferRequest.codec (by decide) serves
  have parsed := (framed.allocateBuffer_eq_ok sized).mpr ⟨context.handle.id, desc.toBufferDesc, rfl,
    ⟨desc.usage_some, desc.usage_known⟩, bytes ▸ admitted.1,
    capabilities ▸ DeviceInfo.supportsDomain_core admitted.2, rfl⟩
  exact starts.delivers agrees serves parsed ⟨rfl, rfl⟩ rfl

/-- Both buffer writes. What the source copies and the caller prepared is the payload. -/
theorem Starts.delivers_write (room : TransferBufferRequest.codec.size + range.bytes.toNat < 2 ^ 64)
    (starts : Starts client chain .writeBuffer
      (UInt64.ofNat TransferBufferRequest.codec.size + range.bytes) responseHeaderBytes
      (TransferBufferRequest.codec.encode (transferPrefix buffer range) ++ copied) published)
    (serves : request.Serves (readable published.chain))
    (describes : ∀ data : ByteSource, data.Serves (copied ++ (readable chain).drop (40 + copied.length)) →
      (copied ++ (readable chain).drop (40 + copied.length)).length = range.bytes.toNat →
      start.Describes chain (.writeBuffer buffer.handle.id range data)) :
    Delivers start chain published limits request := by
  obtain ⟨framed, whole, sized⟩ := starts.framed_tail room serves
  obtain ⟨data, opened, served⟩ := framed.region whole (by decide)
  have parsed := (framed.writeBuffer_eq_ok sized).mpr ⟨buffer.handle.id, range, _, data, rfl, whole, opened,
    served, rfl⟩
  exact starts.delivers agrees serves parsed (describes data served whole) rfl

/-- Both program loads. -/
theorem Starts.delivers_load {artifactBytes : UInt64}
    (room : LoadProgramRequest.codec.size + artifactBytes.toNat < 2 ^ 64) (nonzero : artifactBytes ≠ 0)
    (admitted : ∃ known, client.deviceInfo = some known ∧ artifactBytes ≤ known.maxArtifactBytes)
    (starts : Starts client chain (.loadProgram context.handle.id desc)
      (UInt64.ofNat LoadProgramRequest.codec.size + artifactBytes) objectResponse
      (LoadProgramRequest.codec.encode ⟨context.handle.id.raw, desc.format.value, 0, desc.target, artifactBytes,
        desc.residentBytes⟩ ++ copied) published)
    (serves : request.Serves (readable published.chain))
    (describes : ∀ data : ByteSource, data.Serves (copied ++ (readable chain).drop (96 + copied.length)) →
      (copied ++ (readable chain).drop (96 + copied.length)).length = artifactBytes.toNat →
      start.Describes chain (.loadProgram context.handle.id desc.format desc.target data desc.residentBytes)) :
    Delivers start chain published limits request := by
  obtain ⟨known, found, most⟩ := admitted
  obtain ⟨_, _, _, shared⟩ := agrees.limits_eq
  obtain ⟨_, _, artifact, _⟩ := shared known found
  obtain ⟨framed, whole, sized⟩ := starts.framed_tail room serves
  obtain ⟨data, opened, served⟩ := framed.region whole (by decide)
  have parsed : (FrameDecoder.mk limits).decodeLoadProgram request _ = _ := (framed.loadProgram_eq_ok sized).mpr
    ⟨context.handle.id, desc.format, desc.target, artifactBytes, desc.residentBytes, _, data, rfl, whole,
      ⟨nonzero, desc.resident_nonzero⟩, artifact ▸ most, opened, served, rfl⟩
  exact starts.delivers agrees serves parsed (describes data served whole) rfl

end

/-- A copied payload that has the declared length leaves nothing of the chain behind it. -/
theorem copied_whole {rest : List UInt8} {bytes : UInt64} (whole : (copied ++ rest).length = bytes.toNat)
    (same : bytes.toNat = copied.length) : copied ++ rest = copied := by
  rw [length_append] at whole
  rw [eq_nil_of_length_eq_zero (show rest.length = 0 by omega), append_nil]

section
variable (agrees : Agrees client info limits)
include agrees

theorem writeBuffer_delivers {offset : UInt64} {source : ReadableBytes}
    (started : client.writeBuffer chain buffer offset source = (.ok published, client'))
    (serves : request.Serves (readable published.chain)) :
    Delivers (.writeBuffer buffer offset source) chain published limits request := by
  obtain ⟨range, placed, sized, room, starts⟩ := writeBuffer_starts started
  refine starts.delivers_write agrees room serves (fun data served whole => ?_)
  rw [copied_whole whole (by rw [sized, source.toNat_len])] at served
  exact ⟨rfl, placed, sized, served⟩

theorem loadProgram_delivers {artifact : ReadableBytes}
    (started : client.loadProgram chain context desc artifact = (.ok published, client'))
    (serves : request.Serves (readable published.chain)) :
    Delivers (.loadProgram context desc artifact) chain published limits request := by
  obtain ⟨room, some, admitted, starts⟩ := loadProgram_starts started
  refine starts.delivers_load agrees room some admitted serves (fun data served whole => ?_)
  rw [copied_whole whole artifact.toNat_len] at served
  exact ⟨rfl, rfl, rfl, rfl, served⟩

theorem submit_delivers {queue : ExecutionQueue} {retained : queue.context.isSome = true} {program : Program}
    {bindings : List Binding} {timeoutNs : UInt64}
    (started : client.submit chain queue retained program bindings timeoutNs = (.ok published, client'))
    (serves : request.Serves (readable published.chain)) :
    Delivers (.submit queue retained program bindings timeoutNs) chain published limits request := by
  obtain ⟨⟨some, distinct, known, found, admitted⟩, tail, room, starts⟩ := submit_starts started
  obtain ⟨_, _, hard, shared⟩ := agrees.limits_eq
  have limit : limits.maxBindings = known.maxBindingsPerSubmission := (shared known found).1
  have few : bindings.length ≤ 4096 := by
    have most : limits.maxBindings.toNat ≤ 4096 := UInt32.le_iff_toNat_le.mp hard
    rw [limit] at most
    exact admitted.trans most
  obtain ⟨framed, sized⟩ := starts.framed_submit tail room serves
  have parsed : (FrameDecoder.mk limits).decodeSubmit true request _ = _ := (framed.submit_eq_ok sized).mpr
    ⟨queue.handle.id, program.handle.id, bindings.map Binding.decoded, timeoutNs, by rw [length_map], by
      simpa using some, ⟨by rw [length_map, limit]; exact admitted, by rw [length_map]; exact few⟩,
      by rw [map_map]; exact distinct, rfl, rfl⟩
  exact starts.delivers agrees serves parsed ⟨rfl, rfl, rfl, rfl⟩ rfl

theorem readBuffer_delivers (started : client.readBuffer chain buffer range = (.ok published, client'))
    (serves : request.Serves (readable published.chain)) :
    Delivers (.readBuffer buffer range) chain published limits request := by
  unfold readBuffer at started
  iterate 3
    split at started
    · cases started
  rename_i room
  have starts := startWire_starts started
  have sum : (responseHeaderBytes + range.bytes).toNat = 16 + range.bytes.toNat := by
    rw [responseHeaderBytes_toNat] at room
    rw [UInt64.toNat_add, responseHeaderBytes_toNat, Nat.mod_eq_of_lt (by omega)]
  obtain ⟨framed, sized⟩ := starts.framed_exact TransferBufferRequest.codec (by decide) serves
  have transfer : decodeTransfer request 24 false = .ok (buffer.handle.id, range) :=
    (framed.transfer_eq_ok sized).mpr ⟨[], (append_nil _).symm, rfl⟩
  have parsed : (FrameDecoder.mk limits).decodeBody true request 24 .readBuffer =
      .ok (.readBuffer buffer.handle.id range) := by
    simp only [FrameDecoder.decodeBody, bind_eq_ok, refuseIf_eq_ok]
    exact ⟨_, transfer, (), room, rfl⟩
  exact starts.delivers agrees serves parsed ⟨rfl, rfl⟩ sum.symm

end

/-- For every typed operation the client publishes, whatever the segmentation
of its chain, the device decodes exactly what was asked for. -/
theorem request_round_trip (agrees : Agrees client info limits) (start : Start)
    (started : client.start chain start = (.ok published, client')) (request : ByteSource)
    (serves : request.Serves (readable published.chain)) :
    ∃ decoded, (FrameDecoder.mk limits).decode true request (DriverChainBuffer.deviceWritableLen published.chain) =
      .ok decoded ∧ Delivered start chain published decoded := by
  cases start with
  | getDeviceInfo =>
    have starts := startFrame_starts (fun _ => FrameWriter.fills_done 16) started
    exact starts.delivers agrees serves rfl trivial rfl
  | createContext =>
    have starts := startWire_starts started
    obtain ⟨framed, sized⟩ := starts.framed_exact CreateContextRequest.codec (by decide) serves
    exact starts.delivers agrees serves ((framed.createContext_eq_ok sized).mpr ⟨rfl, rfl⟩) rfl rfl
  | allocateBuffer context desc => exact allocateBuffer_delivers agrees started serves
  | readBuffer buffer range => exact readBuffer_delivers agrees started serves
  | submit queue retained program bindings timeoutNs => exact submit_delivers agrees started serves
  | createExecutionQueue context =>
    replace started : client.createExecutionQueue chain context = (.ok published, client') := started
    unfold createExecutionQueue at started
    split at started
    · cases started
    have starts := startWire_starts started
    obtain ⟨framed, sized⟩ := starts.framed_exact CreateQueueRequest.codec (by decide) serves
    exact starts.delivers agrees serves ((framed.createQueue_eq_ok sized).mpr ⟨_, rfl, rfl⟩) ⟨rfl, rfl⟩ rfl
  | writeBuffer buffer offset source => exact writeBuffer_delivers agrees started serves
  | writeBufferPrepared buffer range =>
    replace started : client.writeBufferPrepared chain buffer range = (.ok published, client') := started
    unfold writeBufferPrepared at started
    split at started
    · cases started
    obtain ⟨room, starts⟩ := startWrite_starts started (fun _ => FrameWriter.fills_done 40)
    refine starts.delivers_write agrees room serves (fun data served _ => ?_)
    exact ⟨rfl, rfl, by simpa using served⟩
  | loadProgram context desc artifact => exact loadProgram_delivers agrees started serves
  | loadProgramPrepared context desc artifactBytes =>
    obtain ⟨room, some, admitted, starts⟩ := startLoad_starts started (fun _ => FrameWriter.fills_done 96)
    refine starts.delivers_load agrees room some admitted serves (fun data served _ => ?_)
    exact ⟨rfl, rfl, rfl, rfl, by simpa using served⟩
  | destroyContext context | freeBuffer context | unloadProgram context | pollEvent event | cancelEvent event
  | destroyEvent event =>
    exact startObject_delivers _ agrees started serves rfl rfl rfl
  | destroyExecutionQueue queue => exact startObject_delivers .destroyQueue agrees started serves rfl rfl rfl

/-- A chain of one readable and one writable slice. -/
structure SliceChain where
  request : SliceSink
  response : SliceSink

instance : DriverChainBytes SliceChain BackendError where
  deviceReadableLen chain := ByteSink.len chain.request
  deviceWritableLen chain := ByteSink.len chain.response
  writeDeviceReadable chain offset data :=
    let written := ByteSink.writeAt chain.request offset data
    (written.1, { chain with request := written.2 })
  readDeviceWritable chain offset n := (ByteSource.slice chain.response.bytes).readAt offset n
  readable chain := chain.request.bytes
  writable chain := chain.response.bytes
  readable_length chain := FramedSink.bytes_length chain.request
  writable_length chain := FramedSink.bytes_length chain.response
  written {chain chain' offset data} wrote := by
    by_cases within : offset.toNat + data.length ≤ chain.request.bytes.length
    · have fits : offset.toNat + data.length ≤ (ByteSink.len chain.request).toNat := by
        rw [← FramedSink.bytes_length]
        exact within
      have done := ReliableSink.writes chain.request offset data fits
      obtain ⟨_, rfl⟩ := Prod.mk.inj wrote
      exact ⟨within, done.2, rfl⟩
    · exact absurd (congrArg Prod.fst wrote) (by simp [ByteSink.writeAt, within])
  reads chain offset n within := (ByteSource.slice_serves chain.response.small).reads offset n within

/-- A queue that takes every chain. -/
structure Outbox where
  sent : List SliceChain

instance : DriverQueue Outbox SliceChain Empty where
  epoch _ := ⟨1, QueueEpoch.one_nonzero⟩
  publish queue chain := (.ok ⟨⟨1, QueueEpoch.one_nonzero⟩, UInt64.ofNat queue.sent.length⟩,
    ⟨queue.sent ++ [chain]⟩)

theorem one_inflight : (1 : UInt16) ≠ 0 := by decide

def sampleClient : GuestClient Outbox SliceChain where
  queue := ⟨[]⟩
  config := ⟨CommandProcessor.sampleConfig, 1, by decide, one_inflight⟩
  deviceInfo := (DeviceInfo.fromWire (wireDeviceInfo CommandProcessor.sampleInfo) 4096).toOption
  slots := [.vacant]
  nextRequestId := 1
  health := .running
  unexpected := none

theorem sampleClient_agrees : ∃ limits, Agrees sampleClient CommandProcessor.sampleInfo limits := by
  refine ⟨_, rfl, fun known found => ?_⟩
  have same : (DeviceInfo.fromWire (wireDeviceInfo CommandProcessor.sampleInfo) 4096).toOption = some known := found
  cases accepted : DeviceInfo.fromWire (wireDeviceInfo CommandProcessor.sampleInfo) 4096 with
  | error error =>
    rw [accepted] at same
    cases same
  | ok info =>
    rw [accepted] at same
    cases same
    exact accepted

def sampleBuffer : Buffer where
  handle := ⟨ObjectId.new 0 1 0 .buffer, ⟨1, QueueEpoch.one_nonzero⟩⟩
  context := ObjectId.new 0 1 0 .context
  desc := ⟨⟨8, 1, .host, 3, DeviceState.eight_nonzero, DeviceState.one_aligned⟩, by decide, by decide⟩

theorem sixteen_small : (replicate 16 (0 : UInt8)).length < 2 ^ 64 := by decide

def sampleChain : SliceChain := ⟨⟨replicate 43 0, by decide⟩, ⟨replicate 16 0, sixteen_small⟩⟩

/-- Three bytes for the middle of a buffer. -/
def sampleWrite : Start := .writeBuffer sampleBuffer 2 (.slice [7, 8, 9] (by decide))

/-- A WRITE_BUFFER arrives as it was started. -/
theorem request_round_trip_write : ∃ limits published client' decoded,
    sampleClient.start sampleChain sampleWrite = (.ok published, client') ∧
      (FrameDecoder.mk limits).decode true (.slice (readable published.chain))
        (DriverChainBuffer.deviceWritableLen published.chain) = .ok decoded ∧
      Delivered sampleWrite sampleChain published decoded := by
  obtain ⟨limits, agrees⟩ := sampleClient_agrees
  have started : ∃ published client', sampleClient.start sampleChain sampleWrite = (.ok published, client') ∧
      (readable published.chain).length < 2 ^ 64 := ⟨_, _, rfl, by decide⟩
  obtain ⟨published, client', started, small⟩ := started
  obtain ⟨decoded, done, delivered⟩ := request_round_trip agrees sampleWrite started (.slice _)
    (ByteSource.slice_serves small)
  exact ⟨limits, published, client', decoded, started, done, delivered⟩

end GuestClient

end VirtioAccel.Guest
