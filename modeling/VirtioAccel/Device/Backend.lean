import VirtioAccel.Device.StateEvents
import VirtioAccel.Device.Response

/-! The backend as the engine sees it: an arbitrary answer to every call,
chosen from everything that was asked before. -/

namespace VirtioAccel

/-- A handle with the number of the call that returned it. Ownership keeps a
handle and its number together; the backend's own value may change under a
mutable borrow or come back from a rejected release. -/
structure Owned (V : Handles) (kind : ObjectKind) where
  serial : Nat
  value : V kind

/-- A program as the backend is given it. -/
structure ArtifactRef where
  format : ArtifactFormat
  target : TargetIdentity
  payload : ByteSource
  residentBytes : UInt64

/-- A backend read writes through its destination as it likes, seeing the
answer to each write, and then returns. -/
inductive Transfer where
  | finish (result : Except BackendError Unit)
  | write (offset : UInt64) (data : List UInt8) (next : Except BackendError Unit → Transfer)

def Transfer.run {σ : Type} [ByteSink σ] : Transfer → σ → Except BackendError Unit × σ
  | .finish result, sink => (result, sink)
  | .write offset data next, sink =>
    let written := ByteSink.writeAt sink offset data
    (next written.1).run written.2

/-- The calls of the accelerator trait. `release` is `destroy_context`,
`free_buffer`, `unload_program`, `destroy_queue` and `destroy_event`. -/
inductive Call (V : Handles) where
  | createContext (desc : ContextDesc)
  | allocateBuffer (context : Owned V .context) (desc : BufferDesc)
  | loadProgram (context : Owned V .context) (artifact : ArtifactRef)
  | createQueue (context : Owned V .context) (desc : QueueDesc)
  | submit (queue : Owned V .queue) (program : Owned V .program) (bindings : List (BindingRef (Owned V .buffer)))
      (timeout : Timeout)
  | pollEvent (event : Owned V .event)
  | cancelEvent (event : Owned V .event)
  | writeBuffer (buffer : Owned V .buffer) (offset : UInt64) (data : ByteSource)
  | readBuffer (buffer : Owned V .buffer) (offset bytes : UInt64)
  | release (kind : ObjectKind) (handle : Owned V kind)

variable {V : Handles}

/-- What each call answers. -/
def Call.Reply : Call V → Type
  | .createContext _ => Except BackendError (V .context)
  | .allocateBuffer _ _ => Except BackendError (V .buffer × BufferInfo)
  | .loadProgram _ _ => Except BackendError (V .program)
  | .createQueue _ _ => Except BackendError (V .queue)
  | .submit _ _ _ _ => Except (SubmitFailure (V .event)) (V .event)
  | .pollEvent _ => Except BackendError EventState
  | .cancelEvent _ => Except BackendError Unit
  | .writeBuffer _ _ _ => Except BackendError Unit × V .buffer
  | .readBuffer _ _ _ => Transfer
  | .release kind _ => Except (ReleaseFailure (V kind)) Unit

/-- One call and its answer. `state` is a ghost: the device state in which the
engine decided on the call. -/
structure Exchange (V : Handles) where
  state : DeviceState (Owned V)
  call : Call V
  reply : call.Reply

/-- A backend: what it answers depends on the calls it has had. -/
structure Accelerator (V : Handles) where
  deviceInfo : Except BackendError DeviceInfo
  behaviour : List (Exchange V) → (call : Call V) → call.Reply
  log : List (Exchange V)

namespace Accelerator
variable (state : DeviceState (Owned V))

def invoke (self : Accelerator V) (state : DeviceState (Owned V)) (call : Call V) : call.Reply × Accelerator V :=
  let reply := self.behaviour self.log call
  (reply, { self with log := self.log ++ [⟨state, call, reply⟩] })

/-- Number a handle the next call returns. -/
def own {kind : ObjectKind} (self : Accelerator V) (value : V kind) : Owned V kind := ⟨self.log.length, value⟩

def createContext (desc : ContextDesc) (self : Accelerator V) :
    Except BackendError (Owned V .context) × Accelerator V :=
  let answer : Except BackendError (V .context) × Accelerator V := self.invoke state (.createContext desc)
  (answer.1.map self.own, answer.2)

def allocateBuffer (context : Owned V .context) (desc : BufferDesc)
    (self : Accelerator V) : Except BackendError (Owned V .buffer × BufferInfo) × Accelerator V :=
  let answer : Except BackendError (V .buffer × BufferInfo) × Accelerator V :=
    self.invoke state (.allocateBuffer context desc)
  (answer.1.map (fun (buffer, info) => (self.own buffer, info)), answer.2)

def loadProgram (artifact : ArtifactRef) (context : Owned V .context)
    (self : Accelerator V) : Except BackendError (Owned V .program) × Accelerator V :=
  let answer : Except BackendError (V .program) × Accelerator V := self.invoke state (.loadProgram context artifact)
  (answer.1.map self.own, answer.2)

def createQueue (desc : QueueDesc) (context : Owned V .context)
    (self : Accelerator V) : Except BackendError (Owned V .queue) × Accelerator V :=
  let answer : Except BackendError (V .queue) × Accelerator V := self.invoke state (.createQueue context desc)
  (answer.1.map self.own, answer.2)

def submit (queue : Owned V .queue) (program : Owned V .program)
    (bindings : List (BindingRef (Owned V .buffer))) (timeout : Timeout) (self : Accelerator V) :
    Except (SubmitFailure (Owned V .event)) (Owned V .event) × Accelerator V :=
  let answer : Except (SubmitFailure (V .event)) (V .event) × Accelerator V :=
    self.invoke state (.submit queue program bindings timeout)
  match answer with
  | (.ok event, after) => (.ok (self.own event), after)
  | (.error (.rejected error), after) => (.error (.rejected error), after)
  | (.error (.indeterminate error event), after) => (.error (.indeterminate error (self.own event)), after)

def pollEvent (event : Owned V .event) (self : Accelerator V) : Except BackendError EventState × Accelerator V :=
  self.invoke state (.pollEvent event)

def cancelEvent (event : Owned V .event) (self : Accelerator V) : Except BackendError Unit × Accelerator V :=
  self.invoke state (.cancelEvent event)

/-- The buffer is borrowed mutably, so its value after the call is the backend's choice. -/
def writeBuffer (buffer : Owned V .buffer) (offset : UInt64) (data : ByteSource)
    (self : Accelerator V) : Except BackendError Unit × Owned V .buffer × Accelerator V :=
  let answer : (Except BackendError Unit × V .buffer) × Accelerator V :=
    self.invoke state (.writeBuffer buffer offset data)
  (answer.1.1, { buffer with value := answer.1.2 }, answer.2)

def readBuffer {σ : Type} [ByteSink σ] (state : DeviceState (Owned V)) (buffer : Owned V .buffer) (offset : UInt64)
    (destination : σ) (self : Accelerator V) : Except BackendError Unit × σ × Accelerator V :=
  let answer : Transfer × Accelerator V := self.invoke state (.readBuffer buffer offset (ByteSink.len destination))
  let transferred := answer.1.run destination
  (transferred.1, transferred.2, answer.2)

def release (kind : ObjectKind) (handle : Owned V kind) (self : Accelerator V) :
    Except (ReleaseFailure (Owned V kind)) Unit × Accelerator V :=
  let answer : Except (ReleaseFailure (V kind)) Unit × Accelerator V := self.invoke state (.release kind handle)
  match answer with
  | (.ok (), after) => (.ok (), after)
  | (.error (.rejected error value), after) => (.error (.rejected error { handle with value }), after)
  | (.error (.indeterminate error), after) => (.error (.indeterminate error), after)

end Accelerator

end VirtioAccel
