import VirtioAccel.Library.Checked
import VirtioAccel.Library.Codec
import VirtioAccel.Library.Overwrite

/-! The clean-room codec of the conformance suite. It states the byte contract
once more, with reads and writes at fixed offsets, and shares no wire type with
the device and the guest. A `usize` holds every length here. -/

namespace VirtioAccel.CleanRoom
open Checked (refuseIf)

def requestHeaderBytes : Nat := 16
def responseHeaderBytes : Nat := 16
def hardMaxRequestBytes : Nat := 16 * 1024 * 1024
def hardMaxResponseBytes : Nat := 16 * 1024 * 1024
def hardMaxBindings : UInt32 := 4096
def knownBufferUsageBits : UInt32 := 0x1f

/-- Why the reference codec refuses its input. -/
inductive Error where
  | size | outputTooSmall | unsupported | invalidArgument | resourceLimit | recoveryRequired
  deriving DecidableEq

/-- The three little-endian reads, which fail outside the slice. -/
def read {T : Type} (codec : Codec T) (bytes : List UInt8) (offset : Nat) : Except Error T :=
  if bytes.length < offset + codec.size then .error .size else .ok (codec.field bytes offset)

def readU16 : List UInt8 → Nat → Except Error UInt16 := read Codec.u16
def readU32 : List UInt8 → Nat → Except Error UInt32 := read Codec.u32
def readU64 : List UInt8 → Nat → Except Error UInt64 := read Codec.u64

/-- `bytes[index]`, behind a check of the length. -/
def byteAt (bytes : List UInt8) (index : Nat) : UInt8 := bytes[index]?.getD 0

/-- `bytes[start..end]` has a byte that is not zero. -/
def anyNonzero (bytes : List UInt8) (start end_ : Nat) : Bool :=
  ((bytes.drop start).take (end_ - start)).any (fun byte => byte ≠ 0)

def requireExact (bytes : List UInt8) (expected : Nat) : Except Error Unit :=
  refuseIf (bytes.length ≠ expected) .invalidArgument

def requireOutput (output : List UInt8) (required : Nat) : Except Error Unit :=
  refuseIf (output.length < required) .outputTooSmall

/-- An encoder takes its output slice and leaves it changed; what a failed one has written is of no interest. -/
def writeSlice (output : List UInt8) (offset : Nat) (value : List UInt8) : Except Error (List UInt8) :=
  if output.length < offset + value.length then .error .outputTooSmall else .ok (output.overwrite offset value)

def writeU16 (output : List UInt8) (offset : Nat) (value : UInt16) : Except Error (List UInt8) :=
  writeSlice output offset (Codec.u16.encode value)

def writeU32 (output : List UInt8) (offset : Nat) (value : UInt32) : Except Error (List UInt8) :=
  writeSlice output offset (Codec.u32.encode value)

def writeU64 (output : List UInt8) (offset : Nat) (value : UInt64) : Except Error (List UInt8) :=
  writeSlice output offset (Codec.u64.encode value)

/-- `output.fill(0)`. -/
def fillZero (output : List UInt8) : List UInt8 := List.replicate output.length 0

/-- Run an encoder on `&mut output[start..end]`. -/
def within (output : List UInt8) (start end_ : Nat) (encode : List UInt8 → Except Error (List UInt8)) :
    Except Error (List UInt8) := do
  let inner ← encode ((output.drop start).take (end_ - start))
  return output.take start ++ inner ++ output.drop end_

inductive Opcode where
  | getDeviceInfo | createContext | destroyContext | allocateBuffer | freeBuffer | writeBuffer
  | readBuffer | loadProgram | unloadProgram | createQueue | destroyQueue | submit | pollEvent
  | cancelEvent | destroyEvent
  deriving DecidableEq

namespace Opcode

def toU16 : Opcode → UInt16
  | getDeviceInfo => 0x0001
  | createContext => 0x0100
  | destroyContext => 0x0101
  | allocateBuffer => 0x0200
  | freeBuffer => 0x0201
  | writeBuffer => 0x0202
  | readBuffer => 0x0203
  | loadProgram => 0x0300
  | unloadProgram => 0x0301
  | createQueue => 0x0400
  | destroyQueue => 0x0401
  | submit => 0x0500
  | pollEvent => 0x0501
  | cancelEvent => 0x0502
  | destroyEvent => 0x0503

def tryFrom : UInt16 → Except Error Opcode
  | 0x0001 => .ok getDeviceInfo
  | 0x0100 => .ok createContext
  | 0x0101 => .ok destroyContext
  | 0x0200 => .ok allocateBuffer
  | 0x0201 => .ok freeBuffer
  | 0x0202 => .ok writeBuffer
  | 0x0203 => .ok readBuffer
  | 0x0300 => .ok loadProgram
  | 0x0301 => .ok unloadProgram
  | 0x0400 => .ok createQueue
  | 0x0401 => .ok destroyQueue
  | 0x0500 => .ok submit
  | 0x0501 => .ok pollEvent
  | 0x0502 => .ok cancelEvent
  | 0x0503 => .ok destroyEvent
  | _ => .error .unsupported

end Opcode

/-! Requests -/

structure AllocateBuffer where
  contextId : UInt64
  bytes : UInt64
  alignment : UInt64
  memoryDomain : UInt8
  usage : UInt32
  deriving DecidableEq

structure TransferBuffer where
  bufferId : UInt64
  offset : UInt64
  bytes : UInt64
  deriving DecidableEq

structure LoadProgram where
  contextId : UInt64
  format : UInt32
  target : Vector UInt32 12
  residentBytes : UInt64
  artifact : List UInt8
  deriving DecidableEq

structure Binding where
  bufferId : UInt64
  offset : UInt64
  bytes : UInt64
  slot : UInt32
  access : UInt8
  deriving DecidableEq

def objectLen (object : UInt64) : Except Error Nat := if object = 0 then .error .invalidArgument else .ok 8

def decodeObject (payload : List UInt8) : Except Error UInt64 := do
  requireExact payload 8
  let object ← readU64 payload 0
  let _ ← objectLen object
  return object

def decodeTransfer (bytes : List UInt8) : Except Error TransferBuffer := do
  return { bufferId := ← readU64 bytes 0, offset := ← readU64 bytes 8, bytes := ← readU64 bytes 16 }

def validateTransfer (transfer : TransferBuffer) : Except Error Unit := do
  refuseIf (transfer.bufferId = 0 ∨ transfer.bytes = 0) .invalidArgument
  refuseIf (2 ^ 64 ≤ transfer.offset.toNat + transfer.bytes.toNat) .invalidArgument

/-- `u64::is_power_of_two`. -/
def isPowerOfTwo (value : UInt64) : Bool := value != 0 && value &&& (value - 1) == 0

def validateAllocate (request : AllocateBuffer) : Except Error Unit := do
  refuseIf (request.contextId = 0 ∨ request.bytes = 0 ∨ request.alignment = 0 ∨ ¬ isPowerOfTwo request.alignment ∨
    ¬ (1 ≤ request.memoryDomain ∧ request.memoryDomain ≤ 3) ∨ request.usage = 0) .invalidArgument
  refuseIf (request.usage &&& ~~~knownBufferUsageBits ≠ 0) .unsupported

def decodeBinding (bytes : List UInt8) (offset : Nat) : Except Error Binding := do
  refuseIf (bytes.length < offset + 32) .invalidArgument
  let binding := (bytes.drop offset).take 32
  refuseIf (anyNonzero binding 29 32 = true) .invalidArgument
  return {
    bufferId := ← readU64 binding 0
    offset := ← readU64 binding 8
    bytes := ← readU64 binding 16
    slot := ← readU32 binding 24
    access := byteAt binding 28 }

def validateBinding (binding : Binding) : Except Error Unit := do
  refuseIf (binding.bufferId = 0 ∨ binding.bytes = 0 ∨ ¬ (1 ≤ binding.access ∧ binding.access ≤ 3)) .invalidArgument
  refuseIf (2 ^ 64 ≤ binding.offset.toNat + binding.bytes.toNat) .invalidArgument

/-- The bindings of a submission: still encoded, or as values. -/
inductive Bindings where
  | encoded (bytes : List UInt8) (count : UInt32)
  | values (list : List Binding)
  deriving DecidableEq

namespace Bindings

def count : Bindings → Except Error UInt32
  | encoded _ count => .ok count
  | values list => do
    refuseIf (2 ^ 32 ≤ list.length) .resourceLimit
    return UInt32.ofNat list.length

def get (self : Bindings) (index : UInt32) : Except Error Binding :=
  match self with
  | encoded bytes count => do
    refuseIf (count ≤ index) .invalidArgument
    decodeBinding bytes (index.toNat * 32)
  | values list => (list[index.toNat]?).elim (.error .invalidArgument) .ok

/-- One round of the loop over the bindings: the entry, and the entries before it. -/
def validateAt (self : Bindings) (index : Nat) : Except Error Unit := do
  let binding ← self.get (UInt32.ofNat index)
  validateBinding binding
  (List.range index).forM (fun previous => do
    let earlier ← self.get (UInt32.ofNat previous)
    refuseIf (earlier.slot = binding.slot) .invalidArgument)

/-- Encoded bindings fill their slice. -/
def fills : Bindings → Bool
  | encoded bytes count => bytes.length = count.toNat * 32
  | values _ => true

end Bindings

def validateBindings (bindings : Bindings) : Except Error Nat := do
  let count ← bindings.count
  refuseIf (count = 0) .invalidArgument
  refuseIf (hardMaxBindings < count) .resourceLimit
  refuseIf (¬ bindings.fills) .invalidArgument
  (List.range count.toNat).forM bindings.validateAt
  return 32 + count.toNat * 32

/-- The body of a SUBMIT, its bindings among it. -/
structure Submit where
  queueId : UInt64
  programId : UInt64
  timeoutNs : UInt64
  bindings : Bindings
  deriving DecidableEq

/-- The body of a request, one form for each opcode. -/
inductive RequestBody where
  | getDeviceInfo
  | createContext
  | destroyContext (contextId : UInt64)
  | allocateBuffer (request : AllocateBuffer)
  | freeBuffer (bufferId : UInt64)
  | writeBuffer (transfer : TransferBuffer) (data : List UInt8)
  | readBuffer (transfer : TransferBuffer)
  | loadProgram (request : LoadProgram)
  | unloadProgram (programId : UInt64)
  | createQueue (contextId : UInt64)
  | destroyQueue (queueId : UInt64)
  | submit (request : Submit)
  | pollEvent (eventId : UInt64)
  | cancelEvent (eventId : UInt64)
  | destroyEvent (eventId : UInt64)
  deriving DecidableEq

def RequestBody.opcode : RequestBody → Opcode
  | getDeviceInfo => .getDeviceInfo
  | createContext => .createContext
  | destroyContext _ => .destroyContext
  | allocateBuffer _ => .allocateBuffer
  | freeBuffer _ => .freeBuffer
  | writeBuffer _ _ => .writeBuffer
  | readBuffer _ => .readBuffer
  | loadProgram _ => .loadProgram
  | unloadProgram _ => .unloadProgram
  | createQueue _ => .createQueue
  | destroyQueue _ => .destroyQueue
  | submit _ => .submit
  | pollEvent _ => .pollEvent
  | cancelEvent _ => .cancelEvent
  | destroyEvent _ => .destroyEvent

/-- A request as the reference codec reads it. -/
structure Request where
  requestId : UInt64
  body : RequestBody
  deriving DecidableEq

def decodeAllocate (payload : List UInt8) : Except Error RequestBody := do
  requireExact payload 40
  refuseIf (anyNonzero payload 25 32 = true ∨ (← readU32 payload 36) ≠ 0) .invalidArgument
  return .allocateBuffer {
    contextId := ← readU64 payload 0
    bytes := ← readU64 payload 8
    alignment := ← readU64 payload 16
    memoryDomain := byteAt payload 24
    usage := ← readU32 payload 32 }

def decodeLoadProgram (payload : List UInt8) : Except Error RequestBody := do
  refuseIf (payload.length < 80) .invalidArgument
  refuseIf ((← readU32 payload 12) ≠ 0) .unsupported
  let target ← Vector.ofFnM (fun index : Fin 12 => readU32 payload (16 + index * 4))
  let artifact := payload.drop 80
  let declaredBytes ← readU64 payload 64
  refuseIf (declaredBytes.toNat ≠ artifact.length) .invalidArgument
  return .loadProgram {
    contextId := ← readU64 payload 0
    format := ← readU32 payload 8
    target
    residentBytes := ← readU64 payload 72
    artifact }

def decodeSubmit (payload : List UInt8) : Except Error RequestBody := do
  refuseIf (payload.length < 32) .invalidArgument
  let count ← readU32 payload 16
  refuseIf (count = 0) .invalidArgument
  refuseIf (hardMaxBindings < count) .resourceLimit
  refuseIf ((← readU32 payload 20) ≠ 0) .unsupported
  return .submit {
    queueId := ← readU64 payload 0
    programId := ← readU64 payload 8
    timeoutNs := ← readU64 payload 24
    bindings := .encoded (payload.drop 32) count }

def decodeRequestBody (opcode : Opcode) (payload : List UInt8) : Except Error RequestBody :=
  match opcode with
  | .getDeviceInfo => do
    requireExact payload 0
    return .getDeviceInfo
  | .createContext => do
    requireExact payload 8
    refuseIf ((← readU32 payload 0) ≠ 0) .unsupported
    refuseIf ((← readU32 payload 4) ≠ 0) .invalidArgument
    return .createContext
  | .destroyContext => return .destroyContext (← decodeObject payload)
  | .allocateBuffer => decodeAllocate payload
  | .freeBuffer => return .freeBuffer (← decodeObject payload)
  | .writeBuffer => do
    refuseIf (payload.length < 24) .invalidArgument
    return .writeBuffer (← decodeTransfer payload) (payload.drop 24)
  | .readBuffer => do
    requireExact payload 24
    return .readBuffer (← decodeTransfer payload)
  | .loadProgram => decodeLoadProgram payload
  | .unloadProgram => return .unloadProgram (← decodeObject payload)
  | .createQueue => do
    requireExact payload 16
    refuseIf ((← readU32 payload 8) ≠ 0) .unsupported
    refuseIf ((← readU32 payload 12) ≠ 0) .invalidArgument
    return .createQueue (← readU64 payload 0)
  | .destroyQueue => return .destroyQueue (← decodeObject payload)
  | .submit => decodeSubmit payload
  | .pollEvent => return .pollEvent (← decodeObject payload)
  | .cancelEvent => return .cancelEvent (← decodeObject payload)
  | .destroyEvent => return .destroyEvent (← decodeObject payload)

def requestPayloadLen : RequestBody → Except Error Nat
  | .getDeviceInfo => .ok 0
  | .createContext => .ok 8
  | .destroyContext contextId => objectLen contextId
  | .allocateBuffer request => do
    validateAllocate request
    return 40
  | .freeBuffer bufferId => objectLen bufferId
  | .writeBuffer transfer data => do
    validateTransfer transfer
    refuseIf (transfer.bytes.toNat ≠ data.length) .invalidArgument
    return 24 + transfer.bytes.toNat
  | .readBuffer transfer => do
    validateTransfer transfer
    return 24
  | .loadProgram request => do
    refuseIf (request.contextId = 0 ∨ request.format = 0 ∨ request.artifact = [] ∨ request.residentBytes = 0)
      .invalidArgument
    return 80 + request.artifact.length
  | .unloadProgram programId => objectLen programId
  | .createQueue contextId => do
    let _ ← objectLen contextId
    return 16
  | .destroyQueue queueId => objectLen queueId
  | .submit request => do
    refuseIf (request.queueId = 0 ∨ request.programId = 0) .invalidArgument
    validateBindings request.bindings
  | .pollEvent eventId | .cancelEvent eventId | .destroyEvent eventId => objectLen eventId

def encodeTransfer (transfer : TransferBuffer) (output : List UInt8) : Except Error (List UInt8) := do
  let output ← writeU64 output 0 transfer.bufferId
  let output ← writeU64 output 8 transfer.offset
  writeU64 output 16 transfer.bytes

def encodeBinding (binding : Binding) (output : List UInt8) (offset : Nat) : Except Error (List UInt8) := do
  let output ← writeU64 output offset binding.bufferId
  let output ← writeU64 output (offset + 8) binding.offset
  let output ← writeU64 output (offset + 16) binding.bytes
  let output ← writeU32 output (offset + 24) binding.slot
  writeSlice output (offset + 28) [binding.access]

def encodeRequestBody (body : RequestBody) (output : List UInt8) : Except Error (List UInt8) := do
  let output := fillZero output
  match body with
  | .getDeviceInfo | .createContext => return output
  | .allocateBuffer request =>
    let output ← writeU64 output 0 request.contextId
    let output ← writeU64 output 8 request.bytes
    let output ← writeU64 output 16 request.alignment
    let output := output.set 24 request.memoryDomain
    writeU32 output 32 request.usage
  | .writeBuffer transfer data =>
    let output ← encodeTransfer transfer output
    writeSlice output 24 data
  | .readBuffer transfer => encodeTransfer transfer output
  | .loadProgram request =>
    let output ← writeU64 output 0 request.contextId
    let output ← writeU32 output 8 request.format
    let output ← request.target.toList.zipIdx.foldlM
      (fun output entry => writeU32 output (16 + entry.2 * 4) entry.1) output
    let output ← writeU64 output 64 (UInt64.ofNat request.artifact.length)
    let output ← writeU64 output 72 request.residentBytes
    writeSlice output 80 request.artifact
  | .submit request =>
    let output ← writeU64 output 0 request.queueId
    let output ← writeU64 output 8 request.programId
    let count ← request.bindings.count
    let output ← writeU32 output 16 count
    let output ← writeU64 output 24 request.timeoutNs
    (List.range count.toNat).foldlM (fun output index => do
      let binding ← request.bindings.get (UInt32.ofNat index)
      encodeBinding binding output (32 + index * 32)) output
  | .destroyContext object | .freeBuffer object | .unloadProgram object | .createQueue object | .destroyQueue object
  | .pollEvent object | .cancelEvent object | .destroyEvent object => writeU64 output 0 object

def Request.encode (self : Request) (output : List UInt8) : Except Error (Nat × List UInt8) := do
  refuseIf (self.requestId = 0) .invalidArgument
  let payloadLen ← requestPayloadLen self.body
  let total := requestHeaderBytes + payloadLen
  refuseIf (2 ^ 32 ≤ payloadLen) .resourceLimit
  refuseIf (hardMaxRequestBytes < total) .resourceLimit
  requireOutput output total
  let output ← writeU16 output 0 self.body.opcode.toU16
  let output ← writeU16 output 2 0
  let output ← writeU32 output 4 (UInt32.ofNat payloadLen)
  let output ← writeU64 output 8 self.requestId
  let output ← within output requestHeaderBytes total (encodeRequestBody self.body)
  return (total, output)

def decodeRequest (bytes : List UInt8) : Except Error Request := do
  refuseIf (bytes.length < requestHeaderBytes) .size
  let opcode ← Opcode.tryFrom (← readU16 bytes 0)
  refuseIf ((← readU16 bytes 2) ≠ 0) .unsupported
  let payloadLen ← readU32 bytes 4
  let total := requestHeaderBytes + payloadLen.toNat
  refuseIf (total ≠ bytes.length) .invalidArgument
  refuseIf (hardMaxRequestBytes < total) .resourceLimit
  let requestId ← readU64 bytes 8
  refuseIf (requestId = 0) .invalidArgument
  let body ← decodeRequestBody opcode (bytes.drop requestHeaderBytes)
  refuseIf ((← requestPayloadLen body) ≠ payloadLen.toNat) .invalidArgument
  return { requestId, body }

/-! Responses -/

structure DeviceInfo where
  uuid : Vector UInt8 16
  acceleratorClass : UInt16
  vendorId : UInt32
  deviceId : UInt32
  capabilities : UInt64
  maxContexts : UInt32
  maxBuffersPerContext : UInt32
  maxProgramsPerContext : UInt32
  maxQueuesPerContext : UInt32
  maxEventsPerContext : UInt32
  maxBindingsPerSubmission : UInt32
  maxBufferBytes : UInt64
  maxArtifactBytes : UInt64
  deriving DecidableEq

def DeviceInfo.encodedBytes : Nat := 76

def DeviceInfo.validate (self : DeviceInfo) : Except Error Unit := do
  refuseIf (self.maxContexts = 0 ∨ self.maxBuffersPerContext = 0 ∨ self.maxProgramsPerContext = 0 ∨
    self.maxQueuesPerContext = 0 ∨ self.maxEventsPerContext = 0 ∨ self.maxBindingsPerSubmission = 0 ∨
    self.maxBufferBytes = 0 ∨ self.maxArtifactBytes = 0) .invalidArgument
  refuseIf (hardMaxBindings < self.maxBindingsPerSubmission) .resourceLimit

inductive EventKind where
  | pending | complete | failed | cancelled
  deriving DecidableEq

/-- `kind as u16`. -/
def EventKind.toU16 : EventKind → UInt16
  | pending => 0
  | complete => 1
  | failed => 2
  | cancelled => 3

structure EventState where
  kind : EventKind
  error : UInt16
  deriving DecidableEq

def EventState.validate (self : EventState) : Except Error Unit :=
  match self.kind with
  | .failed => refuseIf (self.error = 0) .invalidArgument
  | .pending | .complete | .cancelled => refuseIf (self.error ≠ 0) .invalidArgument

/-- The body of a response. -/
inductive ResponseBody where
  | empty
  | deviceInfo (info : DeviceInfo)
  | object (object : UInt64)
  | data (data : List UInt8)
  | eventId (eventId : UInt64)
  | eventState (state : EventState)
  deriving DecidableEq

structure Response where
  status : UInt16
  requestId : UInt64
  body : ResponseBody
  deriving DecidableEq

/-- What the reader of a response knows of its request. -/
structure ResponseContext where
  opcode : Option Opcode
  requestId : UInt64
  readBytes : Option Nat
  deriving DecidableEq

def decodeDeviceInfo (payload : List UInt8) : Except Error DeviceInfo := do
  requireExact payload DeviceInfo.encodedBytes
  refuseIf ((← readU16 payload 18) ≠ 0) .invalidArgument
  let info : DeviceInfo := {
    uuid := Vector.ofFn (fun index => byteAt payload index)
    acceleratorClass := ← readU16 payload 16
    vendorId := ← readU32 payload 20
    deviceId := ← readU32 payload 24
    capabilities := ← readU64 payload 28
    maxContexts := ← readU32 payload 36
    maxBuffersPerContext := ← readU32 payload 40
    maxProgramsPerContext := ← readU32 payload 44
    maxQueuesPerContext := ← readU32 payload 48
    maxEventsPerContext := ← readU32 payload 52
    maxBindingsPerSubmission := ← readU32 payload 56
    maxBufferBytes := ← readU64 payload 60
    maxArtifactBytes := ← readU64 payload 68 }
  info.validate
  return info

def EventKind.tryFrom : UInt16 → Except Error EventKind
  | 0 => .ok .pending
  | 1 => .ok .complete
  | 2 => .ok .failed
  | 3 => .ok .cancelled
  | _ => .error .recoveryRequired

def decodeEventState (payload : List UInt8) : Except Error EventState := do
  requireExact payload 8
  refuseIf ((← readU32 payload 4) ≠ 0) .invalidArgument
  let kind ← EventKind.tryFrom (← readU16 payload 0)
  let state : EventState := { kind, error := ← readU16 payload 2 }
  state.validate
  return state

/-- The body of a success, which the opcode decides. -/
def decodeSuccess (opcode : Opcode) (payload : List UInt8) (context : ResponseContext) :
    Except Error ResponseBody :=
  match opcode with
  | .getDeviceInfo => return .deviceInfo (← decodeDeviceInfo payload)
  | .createContext | .allocateBuffer | .loadProgram | .createQueue => return .object (← decodeObject payload)
  | .destroyContext | .freeBuffer | .writeBuffer | .unloadProgram | .destroyQueue | .cancelEvent
  | .destroyEvent => do
    requireExact payload 0
    return .empty
  | .readBuffer => do
    let expected ← context.readBytes.elim (.error .invalidArgument) .ok
    requireExact payload expected
    return .data payload
  | .submit => return .eventId (← decodeObject payload)
  | .pollEvent => return .eventState (← decodeEventState payload)

def decodeResponseBody (status : UInt16) (payload : List UInt8) (context : ResponseContext) :
    Except Error ResponseBody :=
  if status ≠ 0 then
    if context.opcode = some .submit ∧ payload.length = 8 then
      return .eventId (← decodeObject payload)
    else do
      requireExact payload 0
      return .empty
  else do
    let opcode ← context.opcode.elim (.error .invalidArgument) .ok
    decodeSuccess opcode payload context

def responsePayloadLen (response : Response) (context : ResponseContext) : Except Error Nat := do
  refuseIf (response.requestId = 0 ∨ response.requestId ≠ context.requestId) .invalidArgument
  if response.status ≠ 0 then
    match context.opcode, response.body with
    | some .submit, .eventId eventId => objectLen eventId
    | _, .empty => .ok 0
    | _, _ => .error .invalidArgument
  else match context.opcode, response.body with
    | some .getDeviceInfo, .deviceInfo info => do
      info.validate
      return DeviceInfo.encodedBytes
    | some .createContext, .object object | some .allocateBuffer, .object object | some .loadProgram, .object object
    | some .createQueue, .object object => objectLen object
    | some .destroyContext, .empty | some .freeBuffer, .empty | some .writeBuffer, .empty | some .unloadProgram,
        .empty
    | some .destroyQueue, .empty | some .cancelEvent, .empty | some .destroyEvent, .empty => .ok 0
    | some .readBuffer, .data data => do
      refuseIf (some data.length ≠ context.readBytes) .invalidArgument
      return data.length
    | some .submit, .eventId eventId => objectLen eventId
    | some .pollEvent, .eventState state => do
      state.validate
      return 8
    | _, _ => .error .invalidArgument

def encodeResponseBody (body : ResponseBody) (output : List UInt8) : Except Error (List UInt8) := do
  let output := fillZero output
  match body with
  | .empty => return output
  | .deviceInfo info =>
    let output ← writeSlice output 0 info.uuid.toList
    let output ← writeU16 output 16 info.acceleratorClass
    let output ← writeU32 output 20 info.vendorId
    let output ← writeU32 output 24 info.deviceId
    let output ← writeU64 output 28 info.capabilities
    let output ← writeU32 output 36 info.maxContexts
    let output ← writeU32 output 40 info.maxBuffersPerContext
    let output ← writeU32 output 44 info.maxProgramsPerContext
    let output ← writeU32 output 48 info.maxQueuesPerContext
    let output ← writeU32 output 52 info.maxEventsPerContext
    let output ← writeU32 output 56 info.maxBindingsPerSubmission
    let output ← writeU64 output 60 info.maxBufferBytes
    writeU64 output 68 info.maxArtifactBytes
  | .object object | .eventId object => writeU64 output 0 object
  | .data data => writeSlice output 0 data
  | .eventState state =>
    let output ← writeU16 output 0 state.kind.toU16
    writeU16 output 2 state.error

def Response.encode (self : Response) (context : ResponseContext) (output : List UInt8) :
    Except Error (Nat × List UInt8) := do
  let payloadLen ← responsePayloadLen self context
  let total := responseHeaderBytes + payloadLen
  refuseIf (hardMaxResponseBytes < total) .resourceLimit
  requireOutput output total
  let output ← writeU16 output 0 self.status
  let output ← writeU16 output 2 0
  refuseIf (2 ^ 32 ≤ payloadLen) .resourceLimit
  let output ← writeU32 output 4 (UInt32.ofNat payloadLen)
  let output ← writeU64 output 8 self.requestId
  let output ← within output responseHeaderBytes total (encodeResponseBody self.body)
  return (total, output)

def decodeResponse (bytes : List UInt8) (context : ResponseContext) : Except Error Response := do
  refuseIf (bytes.length < responseHeaderBytes) .size
  let status ← readU16 bytes 0
  refuseIf ((← readU16 bytes 2) ≠ 0) .invalidArgument
  let payloadLen ← readU32 bytes 4
  let total := responseHeaderBytes + payloadLen.toNat
  refuseIf (total ≠ bytes.length) .invalidArgument
  refuseIf (hardMaxResponseBytes < total) .resourceLimit
  let requestId ← readU64 bytes 8
  refuseIf (requestId ≠ context.requestId ∨ requestId = 0) .invalidArgument
  let body ← decodeResponseBody status (bytes.drop responseHeaderBytes) context
  let response : Response := { status, requestId, body }
  refuseIf ((← responsePayloadLen response context) ≠ payloadLen.toNat) .invalidArgument
  return response

end VirtioAccel.CleanRoom
