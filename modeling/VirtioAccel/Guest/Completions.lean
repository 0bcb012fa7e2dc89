import VirtioAccel.Guest.Requests
import VirtioAccel.Transport.Queue

/-! The client's completion side: used chains go to the requests they answer,
and a reset takes every request back. -/

namespace VirtioAccel

/-- The rest of the driver's side of a queue: completions and reset. -/
class CompletionQueue (Q : Type) (χ θ : outParam Type) extends DriverQueue Q χ θ where
  state : Q → QueueState
  popUsed : Q → Except (QueueError θ) (Option (UsedChain χ)) × Q
  reset : Q → QueueEpoch → Except (QueueError θ) (List (ReclaimedChain χ)) × Q
  epoch_state : ∀ queue, epoch queue = (state queue).epoch

/-- The lifecycle of a queue; the flag is the allocator's answer. -/
class QueueControl (Q : Type) (θ : outParam Type) where
  configure : Q → Bool → QueueSize → Except (QueueError θ) Unit × Q
  setReady : Q → Bool → Except (QueueError θ) Unit × Q

namespace Guest

inductive ClientInitError where
  | config (error : GuestConfigError)
  | allocationFailed
  deriving DecidableEq

inductive QueueSetupError (θ : Type) where
  | config (error : GuestConfigError)
  | queue (error : QueueError θ)

/-- The terminal result of a request, always with its chain. -/
inductive Completion (χ ε : Type) (operation : Operation) where
  | success (output : operation.Output) (chain : χ)
  | deviceError (status : StatusCode) (disposition : FailureDisposition) (chain : χ)
  | invalidResponse (error : ResponseError ε) (chain : χ)

def Completion.chain {χ ε : Type} {operation : Operation} : Completion χ ε operation → χ
  | success _ chain | deviceError _ _ chain | invalidResponse _ chain => chain

/-- What a poll says. All but `ready` and `stale` give the token back. -/
inductive RequestPoll (χ θ ε : Type) (operation : Operation) where
  | pending
  | ready (completion : Completion χ ε operation)
  | queueError (error : QueueError θ)
  | stale
  | needsReset

/-- What the queue had for the client. -/
inductive PumpResult where
  | idle
  | completion (requestId : UInt64)
  | unexpectedCompletion
  | needsReset
  deriving DecidableEq

namespace GuestConfig

def validateSize (self : GuestConfig) (size : QueueSize) : Except GuestConfigError Unit :=
  if size.value < self.wire.maxChainDescriptors then .error .queueSize
  else if size.value < self.maxInflight then .error .inflightLimit
  else .ok ()

def validateQueue (self : GuestConfig) (state : QueueState) : Except GuestConfigError Unit :=
  match state.size with
  | none => .error .queueNotConfigured
  | some size => if ¬ state.ready then .error .queueNotReady else self.validateSize size

end GuestConfig

namespace Slot
variable {χ : Type}

/-- The request that waits for this chain. -/
def awaits (id : ChainId) : Slot χ → Option UInt64
  | inFlight requestId chainId => if chainId = id then some requestId else none
  | _ => none

def isInFlight : Slot χ → Bool
  | inFlight _ _ => true
  | _ => false

/-- A reset keeps the chains that were popped, and forgets the rest. -/
def recover : Slot χ → Slot χ
  | completed _ used | recovered used => recovered used
  | vacant | inFlight _ _ => vacant

/-- The first slot that waits for this chain, with its request. -/
def position (id : ChainId) : List (Slot χ) → Option (Nat × UInt64)
  | [] => none
  | slot :: rest =>
    match slot.awaits id with
    | some requestId => some (0, requestId)
    | none => (position id rest).map (fun found => (found.1 + 1, found.2))

end Slot

namespace GuestClient
variable {Q χ ε θ : Type} [DriverChainBuffer χ ε] [CompletionQueue Q χ θ]
variable (self : GuestClient Q χ)

def new (reserve : Bool) (queue : Q) (config : GuestConfig) : Except ClientInitError (GuestClient Q χ) :=
  match config.validateQueue (CompletionQueue.state queue) with
  | .error error => .error (.config error)
  | .ok () =>
    if ¬ reserve then .error .allocationFailed
    else .ok {
      queue
      config
      deviceInfo := none
      slots := List.replicate config.maxInflight.toNat .vacant
      nextRequestId := 1
      health := .running
      unexpected := none }

def pump : Except (QueueError θ) PumpResult × GuestClient Q χ :=
  if self.health = .needsReset then (.ok .needsReset, self)
  else match CompletionQueue.popUsed self.queue with
    | (.error error, queue) => (.error error, { self with queue })
    | (.ok none, queue) => (.ok .idle, { self with queue })
    | (.ok (some used), queue) =>
      match Slot.position used.id self.slots with
      | none => (.ok .unexpectedCompletion, { self with queue, unexpected := some used, health := .needsReset })
      | some (index, requestId) =>
        (.ok (.completion requestId),
          { self with queue, slots := self.slots.set index (.completed requestId used) })

def pendingMatches (pending : Pending) : Bool :=
  (self.slots[pending.slot]?).any (Slot.uses pending.requestId)

def decodeCompletion (pending : Pending) (used : UsedChain χ) : Completion χ ε pending.operation ×
    GuestClient Q χ :=
  match self.validateResponse pending used.chain used.used with
  | .ok (.success output) =>
    (.success output used.chain, { self with
      health := if pending.operation.outputRequiresReset output then .needsReset else self.health
      deviceInfo := (pending.operation.discoveredInfo output).or self.deviceInfo })
  | .ok (.deviceError status) =>
    let disposition := Operation.failureDisposition status
    (.deviceError status disposition used.chain, { self with
      health := if disposition = .indeterminate then .needsReset else self.health })
  | .error error => (.invalidResponse error used.chain, { self with health := .needsReset })

/-- A poll pumps only while its own request is in flight. -/
def pumpFor (pending : Pending) : Except (QueueError θ) PumpResult × GuestClient Q χ :=
  if (self.slots[pending.slot]?).any Slot.isInFlight then self.pump else (.ok .idle, self)

def poll (pending : Pending) : RequestPoll χ θ ε pending.operation × GuestClient Q χ :=
  if pending.epoch ≠ DriverQueue.epoch self.queue then (.stale, self)
  else if self.health = .needsReset then (.needsReset, self)
  else if ¬ self.pendingMatches pending then (.stale, self)
  else match self.pumpFor pending with
    | (.error error, self) => (.queueError error, self)
    | (.ok .unexpectedCompletion, self) | (.ok .needsReset, self) => (.needsReset, self)
    | (.ok .idle, self) | (.ok (.completion _), self) =>
      match self.slots[pending.slot]? with
      | some (.completed requestId used) =>
        if requestId ≠ pending.requestId then (.stale, self)
        else
          let decoded := { self with slots := self.slots.set pending.slot .vacant }.decodeCompletion pending used
          (.ready decoded.1, decoded.2)
      | _ => (.pending, self)

def reset (nextEpoch : QueueEpoch) : Except (QueueError θ) (List (ReclaimedChain χ)) × GuestClient Q χ :=
  match CompletionQueue.reset self.queue nextEpoch with
  | (.error error, queue) => (.error error, { self with queue })
  | (.ok reclaimed, queue) => (.ok reclaimed, { self with
      queue
      slots := self.slots.map Slot.recover
      deviceInfo := none
      nextRequestId := 1
      health := .running })

def reconfigureQueue [QueueControl Q θ] (self : GuestClient Q χ) (reserve : Bool) (size : QueueSize) :
    Except (QueueSetupError θ) Unit × GuestClient Q χ :=
  match self.config.validateSize size with
  | .error error => (.error (.config error), self)
  | .ok () =>
    match QueueControl.configure self.queue reserve size with
    | (.error error, queue) => (.error (.queue error), { self with queue })
    | (.ok (), queue) =>
      let set := QueueControl.setReady queue true
      (set.1.mapError .queue, { self with queue := set.2 })

/-- The first recovered chain, and the slots without it. -/
def takeRecovered : List (Slot χ) → Option (UsedChain χ × List (Slot χ))
  | [] => none
  | .recovered used :: rest => some (used, .vacant :: rest)
  | slot :: rest => (takeRecovered rest).map (fun taken => (taken.1, slot :: taken.2))

def popRecoveredCompletion : Option (UsedChain χ) × GuestClient Q χ :=
  match takeRecovered self.slots with
  | none => (none, self)
  | some (used, slots) => (some used, { self with slots })

def takeUnexpectedCompletion : Option (UsedChain χ) × GuestClient Q χ :=
  (self.unexpected, { self with unexpected := none })

end GuestClient

end Guest

end VirtioAccel
