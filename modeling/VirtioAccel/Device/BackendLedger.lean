import VirtioAccel.Library.Ledger
import VirtioAccel.Device.Backend

/-! What the backend's log says about handles: which exchange returned one and
which gave one up. -/

namespace VirtioAccel
variable {V : Handles}

namespace Exchange

/-- The kind of the handle an exchange returned, with the bytes it accounts for.
An indeterminate submission returns its event. -/
def grants : Exchange V → Option (ObjectKind × Nat)
  | ⟨_, .createContext _, .ok _⟩ => some (.context, 0)
  | ⟨_, .allocateBuffer _ _, .ok (_, info)⟩ => some (.buffer, info.allocationBytes.toNat)
  | ⟨_, .loadProgram _ artifact, .ok _⟩ => some (.program, artifact.residentBytes.toNat)
  | ⟨_, .createQueue _ _, .ok _⟩ => some (.queue, 0)
  | ⟨_, .submit _ _ _ _, .ok _⟩ => some (.event, 0)
  | ⟨_, .submit _ _ _ _, .error (.indeterminate _ _)⟩ => some (.event, 0)
  | _ => none

/-- The handle whose release an exchange answered with success. -/
def settles : Exchange V → Option (ObjectKind × Nat)
  | ⟨_, .release kind handle, .ok ()⟩ => some (kind, handle.serial)
  | _ => none

/-- An exchange after which the backend owns what it owned before. -/
structure Neutral (e : Exchange V) : Prop where
  grants : e.grants = none
  settles : e.settles = none

end Exchange

namespace Accelerator

def after (self : Accelerator V) (e : Exchange V) : Accelerator V := { self with log := self.log ++ [e] }

@[simp] theorem log_after (self : Accelerator V) (e : Exchange V) : (self.after e).log = self.log ++ [e] := rfl

/-! One lemma for each call: what it returns, and the exchange it leaves in the log. -/

variable (state : DeviceState (Owned V)) (self : Accelerator V)

theorem createContext_eq (desc : ContextDesc) :
    ∃ reply : Except BackendError (V .context), createContext state desc self =
      (reply.map self.own, self.after ⟨state, .createContext desc, reply⟩) :=
  ⟨self.behaviour self.log (.createContext desc), rfl⟩

theorem allocateBuffer_eq (context : Owned V .context) (desc : BufferDesc) :
    ∃ reply : Except BackendError (V .buffer × BufferInfo), allocateBuffer state context desc self =
      (reply.map (fun made => (self.own made.1, made.2)),
        self.after ⟨state, .allocateBuffer context desc, reply⟩) :=
  ⟨self.behaviour self.log (.allocateBuffer context desc), rfl⟩

theorem loadProgram_eq (artifact : ArtifactRef) (context : Owned V .context) :
    ∃ reply : Except BackendError (V .program), loadProgram state artifact context self =
      (reply.map self.own, self.after ⟨state, .loadProgram context artifact, reply⟩) :=
  ⟨self.behaviour self.log (.loadProgram context artifact), rfl⟩

theorem createQueue_eq (desc : QueueDesc) (context : Owned V .context) :
    ∃ reply : Except BackendError (V .queue), createQueue state desc context self =
      (reply.map self.own, self.after ⟨state, .createQueue context desc, reply⟩) :=
  ⟨self.behaviour self.log (.createQueue context desc), rfl⟩

theorem submit_cases (queue : Owned V .queue) (program : Owned V .program)
    (bindings : List (BindingRef (Owned V .buffer))) (timeout : Timeout) :
    (∃ error, submit state queue program bindings timeout self = (.error (.rejected error),
      self.after ⟨state, .submit queue program bindings timeout, .error (.rejected error)⟩)) ∨
    (∃ value, submit state queue program bindings timeout self = (.ok (self.own value),
      self.after ⟨state, .submit queue program bindings timeout, .ok value⟩)) ∨
    ∃ error value, submit state queue program bindings timeout self =
    (.error (.indeterminate error (self.own value)),
      self.after ⟨state, .submit queue program bindings timeout, .error (.indeterminate error value)⟩) := by
  unfold submit invoke
  generalize self.behaviour self.log (.submit queue program bindings timeout) = reply
  cases reply with
  | ok value => exact .inr (.inl ⟨value, rfl⟩)
  | error failure =>
    cases failure with
    | rejected error => exact .inl ⟨error, rfl⟩
    | indeterminate error value => exact .inr (.inr ⟨error, value, rfl⟩)

theorem pollEvent_eq (event : Owned V .event) :
    ∃ reply : Except BackendError EventState,
      pollEvent state event self = (reply, self.after ⟨state, .pollEvent event, reply⟩) :=
  ⟨self.behaviour self.log (.pollEvent event), rfl⟩

theorem cancelEvent_eq (event : Owned V .event) :
    ∃ reply : Except BackendError Unit,
      cancelEvent state event self = (reply, self.after ⟨state, .cancelEvent event, reply⟩) :=
  ⟨self.behaviour self.log (.cancelEvent event), rfl⟩

theorem writeBuffer_eq (buffer : Owned V .buffer) (offset : UInt64) (data : ByteSource) :
    ∃ (result : Except BackendError Unit) (value : V .buffer), writeBuffer state buffer offset data self =
      (result, { buffer with value }, self.after ⟨state, .writeBuffer buffer offset data, (result, value)⟩) := by
  let reply : Except BackendError Unit × V .buffer := self.behaviour self.log (.writeBuffer buffer offset data)
  exact ⟨reply.1, reply.2, rfl⟩

theorem readBuffer_eq {σ : Type} [ByteSink σ] (buffer : Owned V .buffer) (offset : UInt64) (destination : σ) :
    ∃ transfer : Transfer, readBuffer state buffer offset destination self =
      ((transfer.run destination).1, (transfer.run destination).2,
        self.after ⟨state, .readBuffer buffer offset (ByteSink.len destination), transfer⟩) :=
  ⟨self.behaviour self.log (.readBuffer buffer offset (ByteSink.len destination)), rfl⟩

theorem release_cases (kind : ObjectKind) (handle : Owned V kind) :
    release state kind handle self = (.ok (), self.after ⟨state, .release kind handle, .ok ()⟩) ∨
    (∃ error value, release state kind handle self = (.error (.rejected error { handle with value }),
      self.after ⟨state, .release kind handle, .error (.rejected error value)⟩)) ∨
    ∃ error, release state kind handle self = (.error (.indeterminate error),
      self.after ⟨state, .release kind handle, .error (.indeterminate error)⟩) := by
  unfold release invoke
  generalize self.behaviour self.log (.release kind handle) = reply
  cases reply with
  | ok _ => exact .inl rfl
  | error failure =>
    cases failure with
    | rejected error value => exact .inr (.inl ⟨error, value, rfl⟩)
    | indeterminate error => exact .inr (.inr ⟨error, rfl⟩)

end Accelerator

end VirtioAccel
