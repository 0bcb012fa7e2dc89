import VirtioAccel.Device.Engine

/-! The bounded, child-before-parent reset pass. -/

namespace VirtioAccel

inductive ResetError where
  | namespaceReuse
  | state (error : DeviceStateConfigError)
  deriving DecidableEq

/-- Whether the backend may be used again, and whether it may still be called. -/
structure ResetProgress where
  backendReusable : Bool
  backendCallable : Bool

/-- The processor with the locals of `reset`. -/
structure ResetPass (V : Handles) where
  processor : CommandProcessor V
  released : ResourceCounts
  releasedBytes : RetainedBytes
  progress : ResetProgress

namespace ResetPass
variable {V : Handles}
variable (pass : ResetPass V)

def start (processor : CommandProcessor V) : ResetPass V := ⟨processor, .zero, .zero, ⟨true, true⟩⟩

def notReusable : ResetPass V :=
  { pass with progress := { pass.progress with backendReusable := false } }

def notCallable : ResetPass V :=
  { pass with progress := { pass.progress with backendCallable := false } }

def noteBackendError (error : BackendError) : ResetPass V :=
  if error = .deviceLost then pass.notReusable.notCallable else pass.notReusable

/-- The release at the end of every loop body; the flag says whether the loop goes on. -/
def release (kind : ObjectKind) (id : ObjectId) (bytes : UInt64) : Bool × ResetPass V :=
  match pass.processor.attemptRelease kind id with
  | (.refused _, processor) => (true, { pass with processor }.notReusable)
  | (.released true, processor) =>
    (true, { pass with
      processor
      released := pass.released.bump kind
      releasedBytes := pass.releasedBytes.charge kind bytes })
  | (.released false, processor) => (false, { pass with processor }.notReusable.notCallable)
  | (.rejected error true, processor) => (true, { pass with processor }.noteBackendError error)
  | (.rejected error false, processor) => (false, ({ pass with processor }.noteBackendError error).notCallable)
  | (.indeterminate, processor) => (false, { pass with processor }.notReusable.notCallable)

def resetObject (kind : ObjectKind) (id : ObjectId) (pass : ResetPass V) : Bool × ResetPass V :=
  match pass.processor.recordedBytes kind id with
  | .error _ => (true, pass.notReusable)
  | .ok bytes => pass.release kind id bytes

/-- The first half of `reset_event`: the state the event is found in, or
nothing when the pass gives the event up. -/
def pollEvent (id : ObjectId) : Option EventState × ResetPass V :=
  match pass.processor.liveEvent id with
  | .error _ => (none, pass.notReusable)
  | .ok event =>
    match pass.processor.accelerator.pollEvent pass.processor.state event with
    | (.ok state, accelerator) => (some state, { pass with processor := { pass.processor with accelerator } })
    | (.error error, accelerator) =>
      (none, { pass with processor := { pass.processor with accelerator } }.noteBackendError error)

def cancelEvent (id : ObjectId) : Option EventState × ResetPass V :=
  if ¬ Flags64.contains pass.processor.info.capabilities Capabilities.eventCancellation then
    (none, pass.notReusable)
  else
    match pass.processor.liveEvent id with
    | .error _ => (none, pass.notReusable)
    | .ok event =>
      match pass.processor.accelerator.cancelEvent pass.processor.state event with
      | (.ok (), accelerator) =>
        (some .cancelled, { pass with processor := { pass.processor with accelerator } })
      | (.error .busy, accelerator) =>
        { pass with processor := { pass.processor with accelerator } }.pollEvent id
      | (.error error, accelerator) =>
        (none, { pass with processor := { pass.processor with accelerator } }.noteBackendError error)

def settleEvent (id : ObjectId) : Option EventState × ResetPass V :=
  match pass.pollEvent id with
  | (some .pending, pass) => pass.cancelEvent id
  | (found, pass) => (found, pass)

def resetEvent (id : ObjectId) (pass : ResetPass V) : ResetPass V :=
  match pass.settleEvent id with
  | (none, pass) => pass
  | (some .pending, pass) => pass.notReusable
  | (some (.failed .deviceLost), pass) => pass.notReusable.notCallable
  | (some _, pass) => (pass.release .event id 0).2

/-- The source's `while let` over `next_*_id`, with a bound on its iterations. -/
def walk (kind : ObjectKind) (body : ObjectId → ResetPass V → Bool × ResetPass V) :
    Nat → Nat → ResetPass V → ResetPass V
  | 0, _, pass => pass
  | fuel + 1, cursor, pass =>
    match (pass.processor.state.table kind).nextIdFrom cursor with
    | none => pass
    | some (next, id) =>
      match body id pass with
      | (true, pass) => walk kind body fuel next pass
      | (false, pass) => pass

/-- The cursor grows with every iteration and slot numbers are 32-bit words, so the bound is never met. -/
def resetAll (kind : ObjectKind) (body : ObjectId → ResetPass V → Bool × ResetPass V) (pass : ResetPass V) :
    ResetPass V :=
  walk kind body (2 ^ 32) 0 pass

def resetEvents : ResetPass V :=
  pass.resetAll .event (fun id pass =>
    if ¬ pass.progress.backendCallable then (false, pass) else (true, pass.resetEvent id))

def resetQueues : ResetPass V := pass.resetAll .queue (resetObject .queue)
def resetPrograms : ResetPass V := pass.resetAll .program (resetObject .program)
def resetBuffers : ResetPass V := pass.resetAll .buffer (resetObject .buffer)
def resetContexts : ResetPass V := pass.resetAll .context (resetObject .context)

def whenCallable (next : ResetPass V → ResetPass V) (pass : ResetPass V) : ResetPass V :=
  if pass.progress.backendCallable then next pass else pass

def sweep : ResetPass V :=
  whenCallable resetContexts (whenCallable resetBuffers (whenCallable resetPrograms (whenCallable resetQueues
    pass.resetEvents)))

end ResetPass

namespace CommandProcessor
variable {V : Handles}

def discardReport (p : CommandProcessor V) (released : ResourceCounts) (releasedBytes : RetainedBytes) :
    ResetReport where
  disposition := .backendDiscardRequired
  released
  quarantined := p.quarantined.saturatingAdd p.state.resourceCounts
  releasedBytes
  quarantinedBytes := p.quarantinedBytes.saturatingAdd p.state.retained

/-- What `reset` decides once its pass is over. -/
def concludeReset (ns : ObjectNamespace) (pass : ResetPass V) : Except ResetError ResetReport ×
    CommandProcessor V :=
  let p := pass.processor
  let report := p.discardReport pass.released pass.releasedBytes
  if pass.progress.backendReusable && p.state.isEmpty && report.quarantined.isEmpty &&
    report.quarantinedBytes.isEmpty
  then
    match DeviceState.new ns p.info.limits p.policy with
    | .error error => (.error (.state error), p)
    | .ok state =>
      (.ok { report with disposition := .backendReusable }, { p with state, health := .running, lastReset := none })
  else (.ok report, { p with health := .backendDiscardRequired, lastReset := some report })

def beginReset (p : CommandProcessor V) : CommandProcessor V := { p with health := .needsReset, lastReset := none }

def reset (p : CommandProcessor V) (ns : ObjectNamespace) : Except ResetError ResetReport × CommandProcessor V :=
  if p.health = .backendDiscardRequired then
    match p.lastReset with
    | some report => (.ok report, p)
    | none =>
      let report := p.discardReport .zero .zero
      (.ok report, { p with lastReset := some report })
  else if ns = p.state.objectNamespace then (.error .namespaceReuse, p)
  else concludeReset ns (ResetPass.start p.beginReset).sweep

end CommandProcessor

end VirtioAccel
