import VirtioAccel.Device.Backend
import VirtioAccel.Device.Frame

/-! Transport-neutral command processing. -/

namespace VirtioAccel
open Checked (refuseIf)

/-- Whether the device serves, waits for a reset, or needs another backend. -/
inductive DeviceHealth where
  | running | needsReset | backendDiscardRequired
  deriving DecidableEq

inductive ResetDisposition where
  | backendReusable | backendDiscardRequired
  deriving DecidableEq

/-- What a reset released, and what it had to leave behind. -/
structure ResetReport where
  disposition : ResetDisposition
  released : ResourceCounts
  quarantined : ResourceCounts
  releasedBytes : RetainedBytes
  quarantinedBytes : RetainedBytes
  deriving DecidableEq

inductive CommandProcessorInitError where
  | backend (error : BackendError)
  | deviceInfo (error : DeviceInfoError)
  | decoder (error : DecoderLimitsError)
  | state (error : DeviceStateConfigError)
  deriving DecidableEq

/-- Why a frame is given up: its response cannot be written. -/
inductive CommandProcessError where
  | preflight (error : ResponseWriteError)
  | responseWrite (error : ResponseWriteError)
  deriving DecidableEq

/-- A frame is answered, or cannot be. -/
inductive CommandOutcome where
  | response (requestId : UInt64) (status : StatusCode) (used : UInt32)
  | unusable (frame : UnusableFrame)
  deriving DecidableEq

inductive SubmitCreateError where
  | state (error : DeviceStateError)
  | outOfMemory
  | rejected (error : BackendError)
  | validation (status : StatusCode)

def statusFromBackendError : BackendError → StatusCode
  | .unsupported => .unsupported
  | .incompatible => .incompatible
  | .invalidArgument => .invalidArgument
  | .outOfBounds => .outOfBounds
  | .busy => .busy
  | .outOfMemory => .outOfMemory
  | .resourceLimit => .resourceLimit
  | .deadlineExpired => .deadlineExpired
  | .deviceLost => .deviceLost
  | .permissionDenied => .permissionDenied
  | .external _ _ => .internalError

def statusFromDeviceStateError : DeviceStateError → StatusCode
  | .invalidArgument | .invalidObject => .invalidArgument
  | .staleObject | .contextMismatch => .staleObject
  | .busy | .releasing => .busy
  | .resourceLimit | .referenceCountOverflow => .resourceLimit
  | .outOfMemory => .outOfMemory
  | .invalidTransition => .internalError

namespace ResourceCounts

def zero : ResourceCounts := ⟨0, 0, 0, 0, 0⟩

def count (self : ResourceCounts) : ObjectKind → UInt64
  | .context => self.contexts
  | .buffer => self.buffers
  | .program => self.programs
  | .queue => self.queues
  | .event => self.events

/-- One more of a kind. -/
def bump (self : ResourceCounts) : ObjectKind → ResourceCounts
  | .context => { self with contexts := self.contexts + 1 }
  | .buffer => { self with buffers := self.buffers + 1 }
  | .program => { self with programs := self.programs + 1 }
  | .queue => { self with queues := self.queues + 1 }
  | .event => { self with events := self.events + 1 }

def isEmpty (self : ResourceCounts) : Bool :=
  self.contexts == 0 && self.buffers == 0 && self.programs == 0 && self.queues == 0 && self.events == 0

def saturatingAdd64 (left right : UInt64) : UInt64 := UInt64.ofNat (min (left.toNat + right.toNat) (2 ^ 64 - 1))

def saturatingAdd (self other : ResourceCounts) : ResourceCounts where
  contexts := saturatingAdd64 self.contexts other.contexts
  buffers := saturatingAdd64 self.buffers other.buffers
  programs := saturatingAdd64 self.programs other.programs
  queues := saturatingAdd64 self.queues other.queues
  events := saturatingAdd64 self.events other.events

end ResourceCounts

namespace RetainedBytes

def zero : RetainedBytes := ⟨0, 0⟩

/-- The 128-bit additions the source makes for buffers and programs. -/
def charge (self : RetainedBytes) (kind : ObjectKind) (bytes : UInt64) : RetainedBytes :=
  match kind with
  | .buffer => { self with bufferBacking := (self.bufferBacking + bytes.toNat) % 2 ^ 128 }
  | .program => { self with programResident := (self.programResident + bytes.toNat) % 2 ^ 128 }
  | .context | .queue | .event => self

def isEmpty (self : RetainedBytes) : Bool := self.bufferBacking == 0 && self.programResident == 0

def saturatingAdd (self other : RetainedBytes) : RetainedBytes where
  bufferBacking := saturatingAdd128 self.bufferBacking other.bufferBacking
  programResident := saturatingAdd128 self.programResident other.programResident

end RetainedBytes

/-- The allocator's answers to the fallible reservations of one command. -/
structure Allocator where
  decodedBindings : Bool
  bufferIds : Bool
  nativeBindings : Bool
  table : Bool

/-- The device: its objects, its backend and the account of what the backend kept. -/
structure CommandProcessor (V : Handles) where
  state : DeviceState (Owned V)
  accelerator : Accelerator V
  info : DeviceInfo
  policy : ResourcePolicy
  decoder : FrameDecoder
  health : DeviceHealth
  quarantined : ResourceCounts
  quarantinedBytes : RetainedBytes
  lastReset : Option ResetReport

/-- The response call a handler of the source ends with. `transfer` is the
rest of `read_buffer` once its buffer is checked. -/
inductive Response (V : Handles) where
  | empty (status : StatusCode) (mutated : Bool)
  | bytes (status : StatusCode) (payload : List UInt8) (mutated : Bool)
  | transfer (buffer : Owned V .buffer) (range : BufferRange)

def wireDeviceInfo (info : DeviceInfo) : WireDeviceInfo where
  uuid := info.identity.uuid
  acceleratorClass := info.identity.acceleratorClass
  reserved := 0
  vendorId := info.identity.vendorId
  deviceId := info.identity.deviceId
  capabilities := info.capabilities
  maxContexts := info.limits.maxContexts
  maxBuffersPerContext := info.limits.maxBuffersPerContext
  maxProgramsPerContext := info.limits.maxProgramsPerContext
  maxQueuesPerContext := info.limits.maxQueuesPerContext
  maxEventsPerContext := info.limits.maxEventsPerContext
  maxBindingsPerSubmission := info.limits.maxBindingsPerSubmission
  maxBufferBytes := info.limits.maxBufferBytes
  maxArtifactBytes := info.limits.maxArtifactBytes

def wireEventState : EventState → WireEventState
  | .pending => ⟨KnownEventState.pending.toU16, StatusCode.ok.value, 0⟩
  | .complete => ⟨KnownEventState.complete.toU16, StatusCode.ok.value, 0⟩
  | .failed error => ⟨KnownEventState.failed.toU16, (statusFromBackendError error).value, 0⟩
  | .cancelled => ⟨KnownEventState.cancelled.toU16, StatusCode.ok.value, 0⟩

def validateTransfer {A : Handles} (record : BufferRecord A) (range : BufferRange) (requiredUsage : BufferUsage) :
    Except StatusCode Unit := do
  refuseIf (record.inFlight ≠ 0) .busy
  refuseIf (record.info.desc.bytes < range.stop) .outOfBounds
  refuseIf (¬ Flags32.contains record.info.desc.usage requiredUsage) .permissionDenied

namespace CommandProcessor
variable {V : Handles}
variable (p : CommandProcessor V)

def new (accelerator : Accelerator V) (config : WireConfig) (ns : ObjectNamespace) (policy : ResourcePolicy) :
    Except CommandProcessorInitError (CommandProcessor V) := do
  config.validate.mapError (fun error => .decoder (.config error))
  let info ← accelerator.deviceInfo.mapError .backend
  info.validate.mapError .deviceInfo
  let limits ← (DecoderLimits.new config info).mapError .decoder
  let state ← (DeviceState.new ns info.limits policy).mapError .state
  return {
    state, accelerator, info, policy, decoder := ⟨limits⟩, health := .running
    quarantined := .zero, quarantinedBytes := .zero, lastReset := none }

def retainedBytes : RetainedBytes := p.state.retained.saturatingAdd p.quarantinedBytes

/-! What handlers do to the processor as they choose their response. -/

def requireBackendDiscard : CommandProcessor V :=
  { p with health := .backendDiscardRequired, lastReset := none }

/-- `backend_status` without the status. -/
def noteBackendError (error : BackendError) : CommandProcessor V :=
  if error = .deviceLost then p.requireBackendDiscard else p

def respondBackendError (error : BackendError) (mutated : Bool) : CommandProcessor V × Response V :=
  (p.noteBackendError error, .empty (statusFromBackendError error) mutated)

def respondStateError (error : DeviceStateError) : CommandProcessor V × Response V :=
  (p, .empty (statusFromDeviceStateError error) false)

def respondCreateError : CreateError BackendError → CommandProcessor V × Response V
  | .state error => p.respondStateError error
  | .provider error => p.respondBackendError error false

def discardResponse : CommandProcessor V × Response V :=
  (p.requireBackendDiscard, .empty .deviceLost true)

def respondObject (id : ObjectId) : CommandProcessor V × Response V :=
  (p, .bytes .ok (ObjectPayload.codec.encode ⟨id.raw⟩) true)

def respondEventId (status : StatusCode) (id : ObjectId) : CommandProcessor V × Response V :=
  (p, .bytes status (SubmitResponse.codec.encode ⟨id.raw⟩) true)

/-! Release. The five commands and the five reset loops share the attempt and
differ in what they do with its outcome. -/

/-- How a release ends: refused by the state, done, or rejected by the backend. -/
inductive ReleaseAttempt where
  | refused (error : DeviceStateError)
  | released (committed : Bool)
  | rejected (error : BackendError) (restored : Bool)
  | indeterminate

def attemptRelease (kind : ObjectKind) (id : ObjectId) : ReleaseAttempt × CommandProcessor V :=
  match p.state.beginRelease kind id with
  | (.error error, state) => (.refused error, { p with state })
  | (.ok handle, state) =>
    match p.accelerator.release p.state kind handle with
    | (.ok (), accelerator) =>
      match state.commitRelease kind id with
      | (.ok (), state) => (.released true, { p with state, accelerator })
      | (.error _, state) => (.released false, { p with state, accelerator })
    | (.error (.rejected error resource), accelerator) =>
      match state.restoreRelease kind id resource with
      | (.ok (), state) => (.rejected error true, { p with state, accelerator })
      | (.error _, state) => (.rejected error false, { p with state, accelerator })
    | (.error (.indeterminate _), accelerator) => (.indeterminate, { p with state, accelerator })

/-- The bytes `free_buffer` and `unload_program` read off the record first. -/
def recordedBytes (kind : ObjectKind) (id : ObjectId) : Except DeviceStateError UInt64 :=
  match kind with
  | .buffer => (p.state.bufferRecord id).map (fun record => record.info.allocationBytes)
  | .program => (p.state.programRecord id).map ProgramRecord.residentBytes
  | .context | .queue | .event => .ok 0

/-- The command path commits an indeterminate release and counts its handle as quarantined. -/
def quarantine (kind : ObjectKind) (id : ObjectId) (bytes : UInt64) : CommandProcessor V :=
  match p.state.commitRelease kind id with
  | (.ok (), state) =>
    { p with
      state
      quarantined := p.quarantined.bump kind
      quarantinedBytes := p.quarantinedBytes.charge kind bytes }
  | (.error _, state) => { p with state }

def respondRelease (kind : ObjectKind) (id : ObjectId) (bytes : UInt64) :
    ReleaseAttempt × CommandProcessor V → CommandProcessor V × Response V
  | (.refused error, p) => p.respondStateError error
  | (.released true, p) => (p, .empty .ok true)
  | (.released false, p) => p.discardResponse
  | (.rejected error true, p) => p.respondBackendError error false
  | (.rejected _ false, p) => p.discardResponse
  | (.indeterminate, p) => (p.quarantine kind id bytes).discardResponse

def releaseObject (kind : ObjectKind) (id : ObjectId) : CommandProcessor V × Response V :=
  match p.recordedBytes kind id with
  | .error error => p.respondStateError error
  | .ok bytes => respondRelease kind id bytes (p.attemptRelease kind id)

def destroyContext := p.releaseObject .context
def freeBuffer := p.releaseObject .buffer
def unloadProgram := p.releaseObject .program
def destroyQueue := p.releaseObject .queue

/-- An allocation whose metadata the state refused was never published, so any
release that does not succeed condemns the backend. -/
def releaseUnpublishedBuffer (id : ObjectId) (admissionError : BackendError) : CommandProcessor V × Response V :=
  match p.recordedBytes .buffer id with
  | .error _ => p.discardResponse
  | .ok bytes =>
    match p.attemptRelease .buffer id with
    | (.released true, p) => p.respondBackendError admissionError false
    | (.refused _, p) | (.released false, p) | (.rejected _ _, p) => p.discardResponse
    | (.indeterminate, p) => (p.quarantine .buffer id bytes).discardResponse

/-! Creation. -/

def createContext (reserve : Bool) (desc : ContextDesc) : CommandProcessor V × Response V :=
  match p.info.validateContextDesc desc with
  | .error error => p.respondBackendError error false
  | .ok () =>
    match p.state.createContextWith reserve (Accelerator.createContext p.state desc) p.accelerator with
    | (.ok id, state, accelerator) => { p with state, accelerator }.respondObject id
    | (.error error, state, accelerator) => { p with state, accelerator }.respondCreateError error

def allocateBuffer (reserve : Bool) (contextId : ObjectId) (desc : BufferDesc) : CommandProcessor V × Response V :=
  match p.info.validateBufferDesc desc with
  | .error error => p.respondBackendError error false
  | .ok () =>
    match p.state.createBufferWith reserve contextId desc (Accelerator.allocateBuffer p.state) p.accelerator with
    | (.ok (.admitted id), state, accelerator) => { p with state, accelerator }.respondObject id
    | (.ok (.cleanupRequired id error), state, accelerator) =>
      { p with state, accelerator }.releaseUnpublishedBuffer id error
    | (.error error, state, accelerator) => { p with state, accelerator }.respondCreateError error

def loadProgram (reserve : Bool) (contextId : ObjectId) (artifact : ArtifactRef) : CommandProcessor V ×
    Response V :=
  match p.state.createProgramWith reserve contextId artifact.payload.len artifact.residentBytes
    (Accelerator.loadProgram p.state artifact) p.accelerator with
  | (.ok id, state, accelerator) => { p with state, accelerator }.respondObject id
  | (.error error, state, accelerator) => { p with state, accelerator }.respondCreateError error

def createQueue (reserve : Bool) (contextId : ObjectId) (desc : QueueDesc) : CommandProcessor V × Response V :=
  match p.info.validateQueueDesc desc with
  | .error error => p.respondBackendError error false
  | .ok () =>
    match p.state.createQueueWith reserve contextId (Accelerator.createQueue p.state desc) p.accelerator with
    | (.ok id, state, accelerator) => { p with state, accelerator }.respondObject id
    | (.error error, state, accelerator) => { p with state, accelerator }.respondCreateError error

/-! Submission. -/

def nativeBinding (resources : SubmissionResources (Owned V)) (binding : DecodedBinding) :
    Except SubmitCreateError (BindingRef (Owned V .buffer)) := do
  let (buffer, info) ← (resources.bufferWithInfoById binding.bufferId).mapError .state
  refuseIf (info.desc.bytes < binding.range.stop) (.validation .outOfBounds)
  refuseIf (¬ info.desc.allowsAccess binding.access) (.validation .permissionDenied)
  return { slot := binding.slot, buffer, range := binding.range, access := binding.access }

def prepareSubmission (reserve : Bool) (maxBindings : UInt32) (bindings : List DecodedBinding)
    (resources : SubmissionResources (Owned V)) :
    Except SubmitCreateError (List (BindingRef (Owned V .buffer))) := do
  refuseIf (reserve = false) .outOfMemory
  let nativeBindings ← bindings.mapM (nativeBinding resources)
  (validateBindings nativeBindings maxBindings).mapError (fun error => .validation (statusFromBackendError error))
  return nativeBindings

/-- What the provider closure of `submit` works on: the backend and the two
locals it captures. -/
structure Admission (V : Handles) where
  accelerator : Accelerator V
  status : StatusCode
  requiresDiscard : Bool

def admitSubmission (state : DeviceState (Owned V)) (reserve : Bool) (maxBindings : UInt32)
    (bindings : List DecodedBinding) (timeout : Timeout) (resources : SubmissionResources (Owned V))
    (admission : Admission V) : Except SubmitCreateError (Owned V .event) × Admission V :=
  match prepareSubmission reserve maxBindings bindings resources with
  | .error error => (.error error, admission)
  | .ok nativeBindings =>
    match admission.accelerator.submit state resources.queue resources.program nativeBindings timeout with
    | (.ok event, accelerator) => (.ok event, { admission with accelerator })
    | (.error (.rejected error), accelerator) => (.error (.rejected error), { admission with accelerator })
    | (.error (.indeterminate error event), accelerator) =>
      (.ok event, ⟨accelerator, statusFromBackendError error, error = .deviceLost⟩)

def respondSubmit (admission : Admission V) :
    Except (CreateError SubmitCreateError) ObjectId → CommandProcessor V × Response V
  | .ok eventId =>
    (if admission.requiresDiscard then p.requireBackendDiscard else p).respondEventId admission.status eventId
  | .error (.state error) => p.respondStateError error
  | .error (.provider (.rejected error)) => p.respondBackendError error false
  | .error (.provider .outOfMemory) => (p, .empty .outOfMemory false)
  | .error (.provider (.validation status)) => (p, .empty status false)
  | .error (.provider (.state _)) => p.discardResponse

def submit (alloc : Allocator) (queueId programId : ObjectId)
    (bindings : List DecodedBinding) (timeout : Timeout) : CommandProcessor V × Response V :=
  if alloc.bufferIds = false then (p, .empty .outOfMemory false)
  else
    match p.state.createEventWith alloc.table queueId programId (bindings.map DecodedBinding.bufferId)
      (admitSubmission p.state alloc.nativeBindings p.info.limits.maxBindingsPerSubmission bindings timeout)
      ⟨p.accelerator, .ok, false⟩ with
    | (result, state, admission) =>
      respondSubmit { p with state, accelerator := admission.accelerator } admission result

/-! Events. -/

def liveEvent (id : ObjectId) : Except DeviceStateError (Owned V .event) := do
  let record ← p.state.eventRecord id
  record.resource.get

def pollEvent (id : ObjectId) : CommandProcessor V × Response V :=
  match p.liveEvent id with
  | .error error => p.respondStateError error
  | .ok event =>
    match p.accelerator.pollEvent p.state event with
    | (.ok state, accelerator) =>
      let p := { p with accelerator }
      (if state = .failed .deviceLost then p.requireBackendDiscard else p,
        .bytes .ok (WireEventState.codec.encode (wireEventState state)) false)
    | (.error error, accelerator) => { p with accelerator }.respondBackendError error false

def cancelEvent (id : ObjectId) : CommandProcessor V × Response V :=
  match p.info.validateEventCancellation with
  | .error _ => (p, .empty .unsupported false)
  | .ok () =>
    match p.liveEvent id with
    | .error error => p.respondStateError error
    | .ok event =>
      match p.accelerator.cancelEvent p.state event with
      | (.ok (), accelerator) => ({ p with accelerator }, .empty .ok true)
      | (.error error, accelerator) => { p with accelerator }.respondBackendError error false

def destroyEvent (id : ObjectId) : CommandProcessor V × Response V :=
  match p.liveEvent id with
  | .error error => p.respondStateError error
  | .ok event =>
    match p.accelerator.pollEvent p.state event with
    | (.error error, accelerator) => { p with accelerator }.respondBackendError error false
    | (.ok .pending, accelerator) => ({ p with accelerator }, .empty .busy false)
    | (.ok (.failed .deviceLost), accelerator) =>
      ({ p with accelerator }.requireBackendDiscard, .empty .deviceLost false)
    | (.ok _, accelerator) => { p with accelerator }.releaseObject .event id

/-! Transfers. -/

def writeBuffer (id : ObjectId) (range : BufferRange) (data : ByteSource) : CommandProcessor V × Response V :=
  match p.state.bufferRecord id with
  | .error error => p.respondStateError error
  | .ok record =>
    match validateTransfer record range BufferUsage.transferDestination with
    | .error status => (p, .empty status false)
    | .ok () =>
      match record.resource.get with
      | .error error => p.respondStateError error
      | .ok buffer =>
        match p.accelerator.writeBuffer p.state buffer range.offset data with
        | (.ok (), buffer, accelerator) =>
          ({ p with state := p.state.setBufferResource id buffer, accelerator }, .empty .ok true)
        | (.error error, buffer, accelerator) =>
          { p with state := p.state.setBufferResource id buffer, accelerator }.respondBackendError error true

def readBuffer (id : ObjectId) (range : BufferRange) : CommandProcessor V × Response V :=
  match p.state.bufferRecord id with
  | .error error => p.respondStateError error
  | .ok record =>
    match validateTransfer record range BufferUsage.transferSource with
    | .error status => (p, .empty status false)
    | .ok () =>
      match record.resource.get with
      | .error error => p.respondStateError error
      | .ok buffer => (p, .transfer buffer range)

def dispatch (alloc : Allocator) : DecodedRequestBody → CommandProcessor V × Response V
  | .getDeviceInfo => (p, .bytes .ok (WireDeviceInfo.codec.encode (wireDeviceInfo p.info)) false)
  | .createContext desc => p.createContext alloc.table desc
  | .destroyContext contextId => p.destroyContext contextId
  | .allocateBuffer contextId desc => p.allocateBuffer alloc.table contextId desc
  | .freeBuffer bufferId => p.freeBuffer bufferId
  | .writeBuffer bufferId range data => p.writeBuffer bufferId range data
  | .readBuffer bufferId range => p.readBuffer bufferId range
  | .loadProgram contextId format target payload residentBytes =>
    p.loadProgram alloc.table contextId ⟨format, target, payload, residentBytes⟩
  | .unloadProgram programId => p.unloadProgram programId
  | .createQueue contextId desc => p.createQueue alloc.table contextId desc
  | .destroyQueue queueId => p.destroyQueue queueId
  | .submit queueId programId bindings timeout => p.submit alloc queueId programId bindings timeout
  | .pollEvent eventId => p.pollEvent eventId
  | .cancelEvent eventId => p.cancelEvent eventId
  | .destroyEvent eventId => p.destroyEvent eventId

/-! Responses. -/

variable {σ : Type} [ByteSink σ]

/-- A response that cannot be written after a mutation leaves the guest's view
behind the device's. -/
def completeResponse (p : CommandProcessor V) (written : Except ResponseWriteError UInt32 × σ) (status : StatusCode)
    (requestId : UInt64) (mutated : Bool) :
    Except CommandProcessError CommandOutcome × CommandProcessor V × σ :=
  match written with
  | (.ok used, sink) => (.ok (.response requestId status used), p, sink)
  | (.error error, sink) =>
    (.error (.responseWrite error),
      if mutated ∧ p.health = .running then { p with health := .needsReset, lastReset := none } else p, sink)

/-- The writer's part of `respond_bytes`. -/
def writeBytes (maxResponseBytes : UInt32) (sink : σ) (status : StatusCode) (requestId : UInt64)
    (payload : List UInt8) : Except ResponseWriteError UInt32 × σ :=
  if 2 ^ 64 ≤ payload.length then (.error .frameTooLarge, sink)
  else match ResponseWriter.payload maxResponseBytes sink (UInt64.ofNat payload.length) with
    | .error error => (.error error, sink)
    | .ok destination =>
      match ByteSink.writeAt destination 0 payload with
      | (.error _, destination) => (.error .sinkAccess, destination.sink)
      | (.ok (), destination) => destination.commit status requestId

/-- The rest of `read_buffer`: the backend reads straight into the payload
window, and only then is a header written. -/
def transferResponse (p : CommandProcessor V) (sink : σ) (requestId : UInt64) (buffer : Owned V .buffer)
    (range : BufferRange) : Except CommandProcessError CommandOutcome × CommandProcessor V × σ :=
  match ResponseWriter.payload p.decoder.limits.maxResponseBytes sink range.bytes with
  | .error error => (.error (.responseWrite error), p, sink)
  | .ok destination =>
    match p.accelerator.readBuffer p.state buffer range.offset destination with
    | (.ok (), destination, accelerator) =>
      { p with accelerator }.completeResponse (destination.commit .ok requestId) .ok requestId false
    | (.error error, destination, accelerator) =>
      let p := { p with accelerator }.noteBackendError error
      let status := statusFromBackendError error
      p.completeResponse
        (ResponseWriter.writeEmpty p.decoder.limits.maxResponseBytes destination.sink status requestId)
        status requestId false

def respond (p : CommandProcessor V) (sink : σ) (requestId : UInt64) :
    Response V → Except CommandProcessError CommandOutcome × CommandProcessor V × σ
  | .empty status mutated =>
    p.completeResponse (ResponseWriter.writeEmpty p.decoder.limits.maxResponseBytes sink status requestId)
      status requestId mutated
  | .bytes status payload mutated =>
    p.completeResponse (writeBytes p.decoder.limits.maxResponseBytes sink status requestId payload)
      status requestId mutated
  | .transfer buffer range => p.transferResponse sink requestId buffer range

def process (p : CommandProcessor V) (alloc : Allocator) (regions : List ChainRegion) (request : ByteSource)
    (response : σ) : Except CommandProcessError CommandOutcome × CommandProcessor V × σ :=
  match preflightCommandFrame p.decoder alloc.decodedBindings regions request response with
  | (.error error, sink) => (.error (.preflight error), p, sink)
  | (.ok (.rejected requestId status used), sink) => (.ok (.response requestId status used), p, sink)
  | (.ok (.unusable frame), sink) => (.ok (.unusable frame), p, sink)
  | (.ok (.ready decoded), sink) =>
    if p.health ≠ .running then p.respond sink decoded.requestId (.empty .deviceLost false)
    else
      let (p, response) := { p with lastReset := none }.dispatch alloc decoded.body
      p.respond sink decoded.requestId response

end CommandProcessor

end VirtioAccel
