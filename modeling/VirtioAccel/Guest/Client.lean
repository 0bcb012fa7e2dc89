import VirtioAccel.Guest.Operation
import VirtioAccel.Device.Decoder

/-! The guest client: how each typed operation becomes a published frame, and
how a completed chain becomes a typed result. -/

namespace VirtioAccel.Guest
open DriverQueue
open Checked (refuseIf)

inductive ClientHealth where
  | running | needsReset
  deriving DecidableEq

/-- Why a request is not started. -/
inductive StartErrorKind (θ ε : Type) where
  | needsReset | discoveryRequired | inflightLimit | requestIdExhausted | staleHandle | invalidArgument
  | deviceLimit
  | requestCapacity (required available : UInt64)
  | responseCapacity (required available : UInt64)
  | sourceAccess (error : ByteAccessError)
  | chainAccess (error : ε)
  | publish (error : PublishErrorKind θ)

/-- A start that fails returns the chain and the operation. -/
structure StartError (χ θ ε : Type) where
  chain : χ
  operation : Operation
  kind : StartErrorKind θ ε

/-- The ticket of a request, to be polled for its response. -/
structure Pending where
  slot : Nat
  requestId : UInt64
  epoch : QueueEpoch
  operation : Operation

/-- A place for one request in flight. -/
inductive Slot (χ : Type) where
  | vacant
  | inFlight (requestId : UInt64) (chainId : ChainId)
  | completed (requestId : UInt64) (used : UsedChain χ)
  | recovered (used : UsedChain χ)

namespace Slot

def isVacant {χ : Type} : Slot χ → Bool
  | vacant => true
  | _ => false

def uses {χ : Type} (candidate : UInt64) : Slot χ → Bool
  | inFlight requestId _ | completed requestId _ => requestId == candidate
  | _ => false

end Slot

inductive FrameWriteError (ε : Type) where
  | chain (error : ε)
  | source (error : ByteAccessError)

/-- The client: a queue, and a slot for each request in flight. -/
structure GuestClient (Q χ : Type) where
  queue : Q
  config : GuestConfig
  deviceInfo : Option DeviceInfo
  slots : List (Slot χ)
  nextRequestId : UInt64
  health : ClientHealth
  unexpected : Option (UsedChain χ)

/-- A started operation. The two ghosts are the chain as the queue received it
and the response size the client insisted on. -/
structure Published (χ : Type) where
  pending : Pending
  chain : χ
  reserved : UInt64

section Frames
variable {χ ε : Type} [DriverChainBuffer χ ε]

/-- What writes into a chain: it may fail, and leaves the chain it has changed. -/
abbrev FrameWriter (χ ε : Type) := χ → Except (FrameWriteError ε) Unit × χ

def FrameWriter.andThen (first second : FrameWriter χ ε) : FrameWriter χ ε := fun chain =>
  match first chain with
  | (.error error, chain) => (.error error, chain)
  | (.ok (), chain) => second chain

def FrameWriter.done : FrameWriter χ ε := fun chain => (.ok (), chain)

def writeBytes (offset : UInt64) (data : List UInt8) : FrameWriter χ ε := fun chain =>
  let written := DriverChainBuffer.writeDeviceReadable chain offset data
  (written.1.mapError .chain, written.2)

def writeWire {T : Type} (offset : UInt64) (codec : Codec T) (value : T) : FrameWriter χ ε :=
  writeBytes offset (codec.encode value)

def copyScratchBytes : Nat := 256

/-- The copy loop: `copied` bytes are done and `left` remain. -/
def copyChunks (destinationOffset : UInt64) (source : ReadableBytes) : Nat → Nat → FrameWriter χ ε
  | 0, _ => FrameWriter.done
  | left + 1, copied => fun chain =>
    let count := min (left + 1) copyScratchBytes
    match source.readAt (UInt64.ofNat copied) count with
    | .error error => (.error (.source error), chain)
    | .ok bytes => FrameWriter.andThen (writeBytes (destinationOffset + UInt64.ofNat copied) bytes)
        (copyChunks destinationOffset source (left + 1 - count) (copied + count)) chain
  termination_by left => left
  decreasing_by
    simp only [copyScratchBytes]
    omega

def copySource (destinationOffset : UInt64) (source : ReadableBytes) : FrameWriter χ ε :=
  match source.asContiguous with
  | some bytes => writeBytes destinationOffset bytes
  | none => copyChunks destinationOffset source source.bytes.length 0

def Binding.toWire (self : Binding) : WireBinding where
  bufferId := self.buffer.handle.id.raw
  offset := self.range.offset
  bytes := self.range.bytes
  slot := self.slot
  access := self.access.toU8
  reserved := Vector.replicate 3 0

def writeBindings : List Binding → UInt64 → FrameWriter χ ε
  | [], _ => FrameWriter.done
  | binding :: rest, offset => FrameWriter.andThen (writeWire offset WireBinding.codec binding.toWire)
      (writeBindings rest (offset + UInt64.ofNat WireBinding.codec.size))

end Frames

def usageAllows (usage : BufferUsage) : AccessMode → Bool
  | .read => Flags32.intersects usage (BufferUsage.programInput ||| BufferUsage.mutableState)
  | .write => Flags32.intersects usage (BufferUsage.programOutput ||| BufferUsage.mutableState)
  | .readWrite => Flags32.contains usage BufferUsage.mutableState

namespace GuestClient
variable {Q χ ε θ : Type} [DriverChainBuffer χ ε] [DriverQueue Q χ θ]

abbrev StartResult (Q χ θ ε : Type) := Except (StartError χ θ ε) (Published χ) × GuestClient Q χ
variable (self : GuestClient Q χ) (chain : χ)

def startFailure (operation : Operation) (kind : StartErrorKind θ ε) : StartResult Q χ θ ε :=
  (.error { chain, operation, kind }, self)

/-- The loop of `allocate_request_id`: the identifier and the next candidate. -/
def searchRequestId (slots : List (Slot χ)) : Nat → UInt64 → Option UInt64 × UInt64
  | 0, next => (none, next)
  | attempts + 1, next =>
    let candidate := max next 1
    let following := max (candidate + 1) 1
    if slots.any (Slot.uses candidate) then searchRequestId slots attempts following
    else (some candidate, following)

def allocateRequestId (self : GuestClient Q χ) : Option UInt64 × GuestClient Q χ :=
  let found := searchRequestId self.slots (self.slots.length + 1) self.nextRequestId
  (found.1, { self with nextRequestId := found.2 })

/-- Everything `start_frame` checks before it takes an identifier; the result is the slot. -/
def checkFrame (operation : Operation) (payloadBytes responseBytes : UInt64) : Except (StartErrorKind θ ε) Nat := do
  refuseIf (self.health = .needsReset) .needsReset
  refuseIf (operation.requiresDiscovery = true ∧ self.deviceInfo.isNone = true) .discoveryRequired
  let slot ← (self.slots.findIdx? Slot.isVacant).elim (.error .inflightLimit) .ok
  let readableBytes := DriverChainBuffer.deviceReadableLen chain
  let writableBytes := DriverChainBuffer.deviceWritableLen chain
  refuseIf (2 ^ 64 ≤ requestHeaderBytes.toNat + payloadBytes.toNat)
    (.requestCapacity (UInt64.ofNat (2 ^ 64 - 1)) readableBytes)
  let frameBytes := requestHeaderBytes + payloadBytes
  refuseIf (self.config.wire.maxRequestBytes.toUInt64 < frameBytes ∨ frameBytes ≠ readableBytes)
    (.requestCapacity frameBytes readableBytes)
  refuseIf (self.config.wire.maxResponseBytes.toUInt64 < responseBytes ∨ writableBytes < responseBytes)
    (.responseCapacity responseBytes writableBytes)
  refuseIf (2 ^ 32 ≤ payloadBytes.toNat) (.requestCapacity frameBytes readableBytes)
  return slot

def FrameWriteError.toStart : FrameWriteError ε → StartErrorKind θ ε
  | .chain error => .chainAccess error
  | .source error => .sourceAccess error

def startFrame (operation : Operation) (payloadBytes responseBytes : UInt64)
    (writePayload : FrameWriter χ ε) : StartResult Q χ θ ε :=
  match self.checkFrame chain operation payloadBytes responseBytes with
  | .error kind => self.startFailure chain operation kind
  | .ok slot =>
    match self.allocateRequestId with
    | (none, self) => self.startFailure chain operation .requestIdExhausted
    | (some requestId, self) =>
      let header := RequestHeader.new operation.opcode payloadBytes.toUInt32 requestId
      match FrameWriter.andThen (writeWire 0 RequestHeader.codec header) writePayload chain with
      | (.error error, chain) => self.startFailure chain operation (FrameWriteError.toStart error)
      | (.ok (), chain) =>
        match publish self.queue chain with
        | (.error (chain, kind), queue) => { self with queue }.startFailure chain operation (.publish kind)
        | (.ok id, queue) =>
          (.ok { pending := { slot, requestId, epoch := id.epoch, operation }, chain, reserved := responseBytes },
            { self with queue, slots := self.slots.set slot (.inFlight requestId id) })

def startWire {T : Type} (self : GuestClient Q χ) (chain : χ) (operation : Operation) (codec : Codec T) (value : T)
    (responseBytes : UInt64) : StartResult Q χ θ ε :=
  self.startFrame chain operation (UInt64.ofNat codec.size) responseBytes (writeWire requestHeaderBytes codec value)

/-- The response sizes the start methods ask for. -/
def objectResponse : UInt64 := responseHeaderBytes + UInt64.ofNat ObjectPayload.codec.size
def submitResponse : UInt64 := responseHeaderBytes + UInt64.ofNat SubmitResponse.codec.size
def eventStateResponse : UInt64 := responseHeaderBytes + UInt64.ofNat WireEventState.codec.size
def deviceInfoResponse : UInt64 := responseHeaderBytes + UInt64.ofNat WireDeviceInfo.codec.size

def getDeviceInfo : StartResult Q χ θ ε :=
  self.startFrame chain .getDeviceInfo 0 deviceInfoResponse FrameWriter.done

def createContext : StartResult Q χ θ ε :=
  self.startWire chain .createContext CreateContextRequest.codec ⟨0, 0⟩ objectResponse

/-- The start methods whose payload is one object of the current epoch. -/
def startObject (operation : Operation) (handle : Handle) (responseBytes : UInt64) : StartResult Q χ θ ε :=
  if handle.epoch ≠ epoch self.queue then self.startFailure chain operation .staleHandle
  else self.startWire chain operation ObjectPayload.codec ⟨handle.id.raw⟩ responseBytes

def destroyContext (context : Context) : StartResult Q χ θ ε :=
  self.startObject chain (.destroyContext context) context.handle responseHeaderBytes

def freeBuffer (buffer : Buffer) : StartResult Q χ θ ε :=
  self.startObject chain (.freeBuffer buffer) buffer.handle responseHeaderBytes

def unloadProgram (program : Program) : StartResult Q χ θ ε :=
  self.startObject chain (.unloadProgram program) program.handle responseHeaderBytes

def destroyExecutionQueue (queue : ExecutionQueue) : StartResult Q χ θ ε :=
  self.startObject chain (.destroyExecutionQueue queue) queue.handle responseHeaderBytes

def pollEvent (event : Event) : StartResult Q χ θ ε :=
  self.startObject chain .pollEvent event.handle eventStateResponse

def cancelEvent (event : Event) : StartResult Q χ θ ε :=
  self.startObject chain .cancelEvent event.handle responseHeaderBytes

def destroyEvent (event : Event) : StartResult Q χ θ ε :=
  self.startObject chain (.destroyEvent event) event.handle responseHeaderBytes

def allocateBuffer (context : Context) (desc : BufferDesc) : StartResult Q χ θ ε :=
  let operation := .allocateBuffer context.handle.id desc
  if context.handle.epoch ≠ epoch self.queue then self.startFailure chain operation .staleHandle
  else match self.deviceInfo with
    | none => self.startFailure chain operation .discoveryRequired
    | some info =>
      if info.maxBufferBytes < desc.bytes ∨ ¬ info.supportsDomain desc.domain then
        self.startFailure chain operation .deviceLimit
      else
        self.startWire chain operation AllocateBufferRequest.codec
          { contextId := context.handle.id.raw
            bytes := desc.bytes
            alignment := desc.alignment
            memoryDomain := desc.domain.toU8
            reserved0 := Vector.replicate 7 0
            usage := desc.usage
            reserved1 := 0 }
          objectResponse

def transferPrefix (buffer : Buffer) (range : BufferRange) : TransferBufferRequest :=
  ⟨buffer.handle.id.raw, range.offset, range.bytes⟩

/-- A range check of the transfers, on the usage the transfer needs. -/
def transferable (buffer : Buffer) (range : BufferRange) (usage : BufferUsage) : Bool :=
  BufferRange.fits range buffer.desc.bytes && Flags32.contains buffer.desc.usage usage

/-- Both buffer writes end here, with their range built and the source to copy, if any. -/
def startWrite (buffer : Buffer) (range : BufferRange) (copy : FrameWriter χ ε) : StartResult Q χ θ ε :=
  if ¬ transferable buffer range BufferUsage.transferDestination then
    self.startFailure chain .writeBuffer .invalidArgument
  else if 2 ^ 64 ≤ TransferBufferRequest.codec.size + range.bytes.toNat then
    self.startFailure chain .writeBuffer .deviceLimit
  else
    self.startFrame chain .writeBuffer (UInt64.ofNat TransferBufferRequest.codec.size + range.bytes)
      responseHeaderBytes
      (FrameWriter.andThen (writeWire requestHeaderBytes TransferBufferRequest.codec (transferPrefix buffer range))
        copy)

def writeBuffer (buffer : Buffer) (offset : UInt64) (source : ReadableBytes) : StartResult Q χ θ ε :=
  if buffer.handle.epoch ≠ epoch self.queue then self.startFailure chain .writeBuffer .staleHandle
  else match BufferRange.new offset source.len with
    | .error _ => self.startFailure chain .writeBuffer .invalidArgument
    | .ok range => self.startWrite chain buffer range
        (copySource (requestHeaderBytes + UInt64.ofNat TransferBufferRequest.codec.size) source)

def writeBufferPrepared (buffer : Buffer) (range : BufferRange) : StartResult Q χ θ ε :=
  if buffer.handle.epoch ≠ epoch self.queue then self.startFailure chain .writeBuffer .staleHandle
  else self.startWrite chain buffer range FrameWriter.done

def readBuffer (buffer : Buffer) (range : BufferRange) : StartResult Q χ θ ε :=
  let operation := .readBuffer range.bytes
  if buffer.handle.epoch ≠ epoch self.queue then self.startFailure chain operation .staleHandle
  else if ¬ transferable buffer range BufferUsage.transferSource then
    self.startFailure chain operation .invalidArgument
  else if 2 ^ 64 ≤ responseHeaderBytes.toNat + range.bytes.toNat then self.startFailure chain operation .deviceLimit
  else self.startWire chain operation TransferBufferRequest.codec (transferPrefix buffer range)
    (responseHeaderBytes + range.bytes)

/-- Both program loads, with the size of the artifact and the source to copy, if any. -/
def startLoad (context : Context) (desc : ProgramDesc) (artifactBytes : UInt64)
    (copy : FrameWriter χ ε) : StartResult Q χ θ ε :=
  let operation := .loadProgram context.handle.id desc
  if context.handle.epoch ≠ epoch self.queue then self.startFailure chain operation .staleHandle
  else match self.deviceInfo with
    | none => self.startFailure chain operation .discoveryRequired
    | some info =>
      if artifactBytes = 0 then self.startFailure chain operation .invalidArgument
      else if info.maxArtifactBytes < artifactBytes then self.startFailure chain operation .deviceLimit
      else
        let request : LoadProgramRequest :=
          { contextId := context.handle.id.raw
            format := desc.format.value
            flags := 0
            target := desc.target
            payloadBytes := artifactBytes
            residentBytes := desc.residentBytes }
        self.startFrame chain operation (UInt64.ofNat LoadProgramRequest.codec.size + artifactBytes) objectResponse
          (FrameWriter.andThen (writeWire requestHeaderBytes LoadProgramRequest.codec request) copy)

def loadProgram (context : Context) (desc : ProgramDesc) (artifact : ReadableBytes) : StartResult Q χ θ ε :=
  self.startLoad chain context desc artifact.len
    (copySource (requestHeaderBytes + UInt64.ofNat LoadProgramRequest.codec.size) artifact)

def loadProgramPrepared (context : Context) (desc : ProgramDesc) (artifactBytes : UInt64) : StartResult Q χ θ ε :=
  self.startLoad chain context desc artifactBytes FrameWriter.done

def createExecutionQueue (context : Context) : StartResult Q χ θ ε :=
  let operation := .createExecutionQueue context.handle.id
  if context.handle.epoch ≠ epoch self.queue then self.startFailure chain operation .staleHandle
  else self.startWire chain operation CreateQueueRequest.codec ⟨context.handle.id.raw, 0, 0⟩ objectResponse

/-- The scan over the bindings. Slots in increasing order are distinct, so the
look back at the earlier ones is made for other orders only. -/
def checkBindings (epoch : QueueEpoch) (context : ObjectId) (canonical : Bool) (earlier : List Binding) :
    List Binding → Except (StartErrorKind θ ε) Unit
  | [] => .ok ()
  | binding :: rest => do
    refuseIf (binding.buffer.handle.epoch ≠ epoch) .staleHandle
    refuseIf (binding.buffer.context ≠ context ∨ ¬ BufferRange.fits binding.range binding.buffer.desc.bytes ∨
      ¬ usageAllows binding.buffer.desc.usage binding.access ∨
      (canonical = false ∧ earlier.any (fun prior => prior.slot == binding.slot) = true)) .invalidArgument
    checkBindings epoch context canonical (earlier ++ [binding]) rest

/-- The checks of `submit`, in their order. -/
def checkSubmit (self : GuestClient Q χ) (context : ObjectId) (queue : ExecutionQueue) (program : Program)
    (bindings : List Binding) : Except (StartErrorKind θ ε) Unit := do
  let epoch := epoch self.queue
  refuseIf (queue.handle.epoch ≠ epoch ∨ program.handle.epoch ≠ epoch) .staleHandle
  refuseIf (program.context ≠ some context ∨ bindings.isEmpty = true) .invalidArgument
  let info ← self.deviceInfo.elim (.error .discoveryRequired) .ok
  refuseIf (2 ^ 32 ≤ bindings.length) .deviceLimit
  refuseIf (info.maxBindingsPerSubmission < UInt32.ofNat bindings.length) .deviceLimit
  checkBindings epoch context (bindings.IsChain (fun left right => left.slot < right.slot)) [] bindings

/-- Every execution queue retains its context; the source unwraps it. -/
def submit (queue : ExecutionQueue) (retained : queue.context.isSome = true)
    (program : Program) (bindings : List Binding) (timeoutNs : UInt64) : StartResult Q χ θ ε :=
  let context := queue.context.get retained
  let operation := .submit context
  match self.checkSubmit context queue program bindings with
  | .error kind => self.startFailure chain operation kind
  | .ok () =>
    let request : SubmitRequest :=
      { queueId := queue.handle.id.raw
        programId := program.handle.id.raw
        bindingCount := UInt32.ofNat bindings.length
        flags := 0
        timeoutNs }
    self.startFrame chain operation (UInt64.ofNat SubmitRequest.codec.size +
        UInt64.ofNat WireBinding.codec.size * (UInt32.ofNat bindings.length).toUInt64)
      submitResponse
      (FrameWriter.andThen (writeWire requestHeaderBytes SubmitRequest.codec request)
        (writeBindings bindings (requestHeaderBytes + UInt64.ofNat SubmitRequest.codec.size)))

/-! What a completed chain means. -/

def validateResponse (self : GuestClient Q χ) (pending : Pending) (chain : χ) (used : UInt32) :
    Except (ResponseError ε) (OperationResult pending.operation.Output) := do
  refuseIf (used.toUInt64 < responseHeaderBytes) (.usedLength used)
  refuseIf (self.config.wire.maxResponseBytes < used) .responseLimit
  let bytes ← (DriverChainBuffer.readDeviceWritable chain 0 ResponseHeader.codec.size).mapError .headerAccess
  let header := ResponseHeader.codec.decode bytes
  refuseIf (header.requestId ≠ pending.requestId) (.requestId pending.requestId header.requestId)
  refuseIf (header.flags ≠ 0) (.flags header.flags)
  refuseIf (responseHeaderBytes + header.payloadBytes.toUInt64 ≠ used.toUInt64) (.usedLength used)
  pending.operation.decode chain ⟨header.status⟩ header.payloadBytes pending.epoch self.config

end GuestClient

end VirtioAccel.Guest
