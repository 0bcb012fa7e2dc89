import VirtioAccel.Core.Types

namespace VirtioAccel

def protocolMajor : UInt16 := 1
def baselineCommandQueues : UInt16 := 1
def hardMaxChainDescriptors : UInt16 := 256
def hardMaxRequestBytes : UInt32 := 16 * 1024 * 1024
def hardMaxResponseBytes : UInt32 := 16 * 1024 * 1024
def hardMaxBindings : UInt32 := 4096
def minMaxRequestBytes : UInt32 := 97
def minMaxResponseBytes : UInt32 := 92
def knownBufferUsageBits : UInt32 := 0x1f

/-- The commands of the protocol. -/
inductive KnownOpcode where
  | getDeviceInfo | createContext | destroyContext | allocateBuffer | freeBuffer | writeBuffer
  | readBuffer | loadProgram | unloadProgram | createQueue | destroyQueue | submit | pollEvent
  | cancelEvent | destroyEvent
  deriving DecidableEq

namespace KnownOpcode

def toU16 : KnownOpcode → UInt16
  | getDeviceInfo => 0x0001
  | createContext => 0x0100
  | destroyContext => 0x0101
  | allocateBuffer => 0x0200
  | freeBuffer => 0x0201
  | writeBuffer => 0x0202
  | readBuffer => 0x0203
  | loadProgram => 0x0300
  | unloadProgram => 0x0301
  | createQueue => 0x0400
  | destroyQueue => 0x0401
  | submit => 0x0500
  | pollEvent => 0x0501
  | cancelEvent => 0x0502
  | destroyEvent => 0x0503

def tryFrom : UInt16 → Option KnownOpcode
  | 0x0001 => some getDeviceInfo
  | 0x0100 => some createContext
  | 0x0101 => some destroyContext
  | 0x0200 => some allocateBuffer
  | 0x0201 => some freeBuffer
  | 0x0202 => some writeBuffer
  | 0x0203 => some readBuffer
  | 0x0300 => some loadProgram
  | 0x0301 => some unloadProgram
  | 0x0400 => some createQueue
  | 0x0401 => some destroyQueue
  | 0x0500 => some submit
  | 0x0501 => some pollEvent
  | 0x0502 => some cancelEvent
  | 0x0503 => some destroyEvent
  | _ => none

theorem tryFrom_toU16 (opcode : KnownOpcode) : tryFrom opcode.toU16 = some opcode := by
  cases opcode <;> rfl

end KnownOpcode

structure StatusCode where
  value : UInt16
  deriving DecidableEq

namespace StatusCode

def ok : StatusCode := ⟨0⟩
def unsupported : StatusCode := ⟨1⟩
def incompatible : StatusCode := ⟨2⟩
def invalidArgument : StatusCode := ⟨3⟩
def outOfBounds : StatusCode := ⟨4⟩
def busy : StatusCode := ⟨5⟩
def outOfMemory : StatusCode := ⟨6⟩
def resourceLimit : StatusCode := ⟨7⟩
def deadlineExpired : StatusCode := ⟨8⟩
def deviceLost : StatusCode := ⟨9⟩
def permissionDenied : StatusCode := ⟨10⟩
def staleObject : StatusCode := ⟨11⟩
def internalError : StatusCode := ⟨0xffff⟩

def isKnown (self : StatusCode) : Bool := self.value ≤ 11 || self.value == 0xffff

def isSuccess (self : StatusCode) : Bool := self.value == ok.value

end StatusCode

inductive KnownEventState where
  | pending | complete | failed | cancelled
  deriving DecidableEq

namespace KnownEventState

def toU16 : KnownEventState → UInt16
  | pending => 0
  | complete => 1
  | failed => 2
  | cancelled => 3

def tryFrom : UInt16 → Option KnownEventState
  | 0 => some pending
  | 1 => some complete
  | 2 => some failed
  | 3 => some cancelled
  | _ => none

theorem tryFrom_eq_some {raw : UInt16} {state : KnownEventState} (found : tryFrom raw = some state) :
    raw = state.toU16 := by
  unfold tryFrom at found
  split at found <;> cases found <;> rfl

end KnownEventState

/-- What the device offers in its configuration space. -/
structure WireConfig where
  protocolMajor : UInt16
  protocolMinor : UInt16
  commandQueueCount : UInt16
  maxChainDescriptors : UInt16
  maxRequestBytes : UInt32
  maxResponseBytes : UInt32
  deriving DecidableEq

/-- The field of the configuration that is out of its range. -/
inductive ConfigError where
  | version | commandQueueCount | chainDescriptorLimit | requestByteLimit | responseByteLimit
  deriving DecidableEq

/-- A higher minor version is accepted and used with 1.0 behaviour. -/
def WireConfig.validate (self : WireConfig) : Except ConfigError Unit :=
  if self.protocolMajor ≠ VirtioAccel.protocolMajor then .error .version
  else if self.commandQueueCount ≠ baselineCommandQueues then .error .commandQueueCount
  else if ¬ (2 ≤ self.maxChainDescriptors ∧ self.maxChainDescriptors ≤ hardMaxChainDescriptors) then
    .error .chainDescriptorLimit
  else if ¬ (minMaxRequestBytes ≤ self.maxRequestBytes ∧ self.maxRequestBytes ≤ hardMaxRequestBytes) then
    .error .requestByteLimit
  else if ¬ (minMaxResponseBytes ≤ self.maxResponseBytes ∧ self.maxResponseBytes ≤ hardMaxResponseBytes) then
    .error .responseByteLimit
  else .ok ()

end VirtioAccel
