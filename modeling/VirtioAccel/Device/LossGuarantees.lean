import VirtioAccel.Device.EngineGuarantees

/-! What a reset still asks of a backend that has reported its own loss. -/

namespace VirtioAccel
open List Exchange ResetPass
open DeviceState (SameView Reslots Frees)
open ObjectTable (slotNumber)
variable {V : Handles}

/-- An object that a release attempt hands to the backend: live, and nothing needs it. -/
def DeviceState.Releasable {A : Handles} (s : DeviceState A) (kind : ObjectKind) (id : ObjectId) : Prop :=
  ∃ record handle, s.Holds kind id record handle ∧ record.busy = false

namespace Exchange

/-- The device is lost, or a release is of unknown outcome. -/
def reportsLoss : Exchange V → Bool
  | ⟨_, .pollEvent _, .error error⟩ => error = .deviceLost
  | ⟨_, .pollEvent _, .ok state⟩ => state = .failed .deviceLost
  | ⟨_, .cancelEvent _, .error error⟩ => error = .deviceLost
  | ⟨_, .release _ _, .error (.rejected error _)⟩ => error = .deviceLost
  | ⟨_, .release _ _, .error (.indeterminate _)⟩ => true
  | _ => false

/-- No call comes after one that reported a loss. -/
def Quiet (calls : List (Exchange V)) : Prop := calls.Pairwise (fun earlier _ => earlier.reportsLoss = false)

/-- A release of a context, buffer, program or queue is rejected with a device
loss, and another object of the kind could be released from a later slot. -/
inductive LossFollowed : Exchange V → Prop
  | rejected {state : DeviceState (Owned V)} {kind : ObjectKind} {id other : ObjectId}
    {record : Record (Owned V) kind}
      {handle : Owned V kind} {value : V kind} : kind ≠ .event → state.Holds kind id record handle →
      slotNumber id < slotNumber other → state.Releasable kind other →
      LossFollowed ⟨state, .release kind handle, .error (.rejected .deviceLost value)⟩

end Exchange

namespace DeviceState
variable {A : Handles} {s s' : DeviceState A} {kind : ObjectKind} {id : ObjectId}

theorem Releasable.sameView (same : SameView s s') : s'.Releasable kind id ↔ s.Releasable kind id := by
  constructor
  · rintro ⟨record, handle, ⟨present, live⟩, idle⟩
    exact ⟨record, handle, ⟨(same.lookup kind id).symm.trans present, live⟩, idle⟩
  rintro ⟨record, handle, ⟨present, live⟩, idle⟩
  exact ⟨record, handle, ⟨(same.lookup kind id).trans present, live⟩, idle⟩

theorem Releasable.reslots {record : Record A kind} {slot : ResourceSlot (A kind)} {other : ObjectId}
    (reslots : Reslots s s' kind id record slot) (differs : other ≠ id) :
    s'.Releasable kind other ↔ s.Releasable kind other := by
  have lookup := reslots.table.lookup_other differs
  constructor
  · rintro ⟨record, handle, ⟨present, live⟩, idle⟩
    exact ⟨record, handle, ⟨lookup.symm.trans present, live⟩, idle⟩
  rintro ⟨record, handle, ⟨present, live⟩, idle⟩
  exact ⟨record, handle, ⟨lookup.trans present, live⟩, idle⟩

end DeviceState

namespace ResetPass
open CommandProcessor (Moves Accounted)
variable {p : CommandProcessor V} {pass : ResetPass V} {kind : ObjectKind} {id : ObjectId}
variable {calls : List (Exchange V)} {before after : ResetPass V} {more : List (Exchange V)}
  {first second : ResetPass V} {e : Exchange V} {third : ResetPass V}

/-- What one release in a teardown loop can come to; the flag says whether the loop goes on. -/
inductive Tried (pass : ResetPass V) (kind : ObjectKind) (id : ObjectId) : Bool × ResetPass V → Prop
  | silent {state} : ¬ pass.processor.state.Releasable kind id → SameView pass.processor.state state →
      Tried pass kind id (true, notReusable { pass with processor := { pass.processor with state } })
  | freed {record handle state released releasedBytes} : pass.processor.state.Holds kind id record handle →
      record.busy = false →
      Tried pass kind id (true, { pass with
        processor := { pass.processor with
          state
          accelerator := pass.processor.accelerator.after ⟨pass.processor.state, .release kind handle, .ok ()⟩ }
        released
        releasedBytes })
  | rejected {record handle error value state} : pass.processor.state.Holds kind id record handle →
      record.busy = false →
      Reslots pass.processor.state state kind id record (ResourceSlot.new { handle with value }) →
      Tried pass kind id (true, noteBackendError { pass with
        processor := { pass.processor with
          state
          accelerator := pass.processor.accelerator.after
            ⟨pass.processor.state, .release kind handle, .error (.rejected error value)⟩ } } error)
  | unknown {record handle error state} : pass.processor.state.Holds kind id record handle →
      record.busy = false →
      Tried pass kind id (false, (notReusable { pass with
        processor := { pass.processor with
          state
          accelerator := pass.processor.accelerator.after
            ⟨pass.processor.state, .release kind handle, .error (.indeterminate error)⟩ } }).notCallable)

/-- Only an idle object gets past the beginning of its release. -/
theorem attemptRelease_idle (graph : p.state.Consistent) {record : Record (Owned V) kind} {handle : Owned V kind}
    (holds : p.state.Holds kind id record handle)
    (begun : ∀ error, (p.attemptRelease kind id).1 ≠ .refused error) : record.busy = false := by
  rcases DeviceState.beginRelease_cases graph.tables kind id with
    ⟨error, state, refused, _⟩ | ⟨record', _, _, _, idle, _, reslots⟩
  · refine absurd ?_ (begun error)
    simp only [CommandProcessor.attemptRelease, refused]
  cases reslots.table.lookup_before.symm.trans holds.present
  exact idle

theorem Refused.not_releasable {error : DeviceStateError} (refused : DeviceState.Refused p.state kind id error) :
    ¬ p.state.Releasable kind id := by
  rintro ⟨record, handle, holds, idle⟩
  cases refused with
  | missing missing _ => exact nomatch missing.symm.trans holds.present
  | busy present busy =>
    cases present.symm.trans holds.present
    exact nomatch idle.symm.trans busy
  | releasing present releasing =>
    cases present.symm.trans holds.present
    exact nomatch (ResourceSlot.live_of_resource holds.live).symm.trans releasing

theorem release_tried (graph : pass.processor.state.Consistent) (bytes : UInt64) :
    Tried pass kind id (pass.release kind id bytes) := by
  unfold release
  have idle : ∀ {record handle}, pass.processor.state.Holds kind id record handle →
      (∀ error, (pass.processor.attemptRelease kind id).1 ≠ .refused error) → record.busy = false :=
    fun holds begun => attemptRelease_idle graph holds begun
  rcases CommandProcessor.attemptRelease_cases graph kind id with
    ⟨error, state, done, same, refused⟩ | ⟨record, handle, holds, _, ⟨state, done, _⟩ |
      ⟨error, value, state, done, restored⟩ | ⟨error, state, done, _⟩⟩
  · simp only [done]
    exact .silent (Refused.not_releasable refused) same
  · simp only [done]
    exact .freed holds (idle holds (by simp [done]))
  · simp only [done]
    exact .rejected holds (idle holds (by simp [done])) restored
  · simp only [done]
    exact .unknown holds (idle holds (by simp [done]))

theorem resetObject_tried (graph : pass.processor.state.Consistent) (kind : ObjectKind) (id : ObjectId) :
    Tried pass kind id (pass.resetObject kind id) := by
  unfold resetObject
  rcases pass.processor.recordedBytes_cases kind id with ⟨error, read, missing, _⟩ | ⟨bytes, read, _⟩
  · simp only [read]
    refine .silent ?_ (.refl graph.tables)
    rintro ⟨record, handle, holds, _⟩
    exact nomatch missing.symm.trans holds.present
  · simp only [read]
    exact release_tried graph bytes

/-- The calls between two moments of a pass. They are quiet exactly when no
loss among them is followed, and the pass goes on calling exactly when there
is no loss. -/
structure Made (before after : ResetPass V) (calls : List (Exchange V)) : Prop where
  log : after.processor.accelerator.log = before.processor.accelerator.log ++ calls
  quiet : Quiet calls ↔ ∀ e ∈ calls, ¬ e.LossFollowed
  callable : after.progress.backendCallable = true ↔
    before.progress.backendCallable = true ∧ ∀ e ∈ calls, e.reportsLoss = false

theorem Made.of_none (log : after.processor.accelerator.log = before.processor.accelerator.log)
    (callable : after.progress.backendCallable = before.progress.backendCallable) : Made before after [] :=
  ⟨by rw [log, append_nil], by simp [Quiet], by rw [callable]; simp⟩

theorem Made.of_one (log : after.processor.accelerator.log = before.processor.accelerator.log ++ [e])
    (alone : ¬ e.LossFollowed)
    (callable : after.progress.backendCallable = true ↔ before.progress.backendCallable = true ∧
      e.reportsLoss = false) :
    Made before after [e] :=
  ⟨log, by simp [Quiet, alone], by rw [callable]; simp⟩

theorem Made.trans (left : Made first second calls) (right : Made second third more)
    (stops : more = [] ∨ ∀ e ∈ calls, e.reportsLoss = false) :
    Made first third (calls ++ more) := by
  refine ⟨by rw [right.log, left.log, append_assoc], ?_, ?_⟩
  · rw [Quiet, pairwise_append, forall_mem_append, ← left.quiet, ← right.quiet]
    refine ⟨fun quiet => ⟨quiet.1, quiet.2.1⟩, fun quiet => ⟨quiet.1, quiet.2, fun e member later follows => ?_⟩⟩
    rcases stops with none | kept
    · rw [none] at follows
      cases follows
    · exact kept e member
  · rw [right.callable, left.callable, forall_mem_append]
    exact and_assoc

/-- A loss that a loop does not stop at. -/
theorem Made.lost (log : second.processor.accelerator.log = first.processor.accelerator.log ++ [e])
    (loss : e.reportsLoss = true) (stopped : second.progress.backendCallable = false)
    (followed : more = [] ↔ ¬ e.LossFollowed) (right : Made second third more) : Made first third (e :: more) := by
  refine ⟨by rw [right.log, log, append_assoc, singleton_append], ?_, ?_⟩
  · rw [Quiet, pairwise_cons, forall_mem_cons, ← followed, loss]
    constructor
    · rintro ⟨none, _⟩
      have empty := eq_nil_iff_forall_not_mem.mpr (fun later member => nomatch none later member)
      exact ⟨empty, by rw [empty]; simp⟩
    · rintro ⟨rfl, _⟩
      simp
  · rw [right.callable, stopped, forall_mem_cons, loss]
    simp

/-- The loop over one kind makes a call exactly when some object ahead can be released. -/
theorem walk_made (accounted : Accounted p) (quiet : kind ≠ .event) (follows : Follows p pass) (fuel cursor : Nat)
    (enough : 2 ^ 32 ≤ fuel + cursor) :
    ∃ calls, Made pass (walk kind (resetObject kind) fuel cursor pass) calls ∧
      (calls = [] ↔ ∀ id, cursor < (slotNumber id).toNat → ¬ pass.processor.state.Releasable kind id) := by
  induction fuel generalizing cursor pass with
  | zero =>
    refine ⟨[], .of_none rfl rfl, iff_of_true rfl (fun id ahead => ?_)⟩
    have word := (slotNumber id).toNat_lt
    omega
  | succ fuel ih =>
    have here := accounted.moves follows.moves
    have wf := here.graph.tables kind
    simp only [walk]
    cases found : (pass.processor.state.table kind).nextIdFrom cursor with
    | none =>
      refine ⟨[], .of_none rfl rfl, iff_of_true rfl ?_⟩
      rintro id ahead ⟨record, handle, holds, _⟩
      have behind := ObjectTable.nextIdFrom_none wf found holds.present
      omega
    | some entry =>
      obtain ⟨next, id⟩ := entry
      obtain ⟨_, slot, ahead⟩ := ObjectTable.nextIdFrom_slot wf found
      have further := ObjectTable.nextIdFrom_further found
      have kept := follows.resetObject accounted.graph kind quiet id
      have tried := resetObject_tried here.graph kind id
      -- A visit that makes a call meets the object it calls about.
      have met : ∀ {e : Exchange V} {rest : List (Exchange V)} {record handle},
          pass.processor.state.Holds kind id record handle → record.busy = false →
          (e :: rest = [] ↔ ∀ id, cursor < (slotNumber id).toNat → ¬ pass.processor.state.Releasable kind id) :=
        fun holds idle => iff_of_false (by simp) (fun none => none id (by omega) ⟨_, _, holds, idle⟩)
      dsimp only
      generalize resetObject kind id pass = outcome at kept tried ⊢
      cases tried with
      | @silent state blocked same =>
        obtain ⟨calls, made, nothing⟩ := ih kept next (by omega)
        refine ⟨calls, ⟨made.log, made.quiet, made.callable⟩, nothing.trans ⟨fun none other past releasable => ?_,
          fun none other past => ?_⟩⟩
        · obtain ⟨record, handle, holds, idle⟩ := releasable
          rcases ahead holds.present past with rfl | past
          · exact blocked ⟨record, handle, holds, idle⟩
          · exact none other past ((DeviceState.Releasable.sameView same).mpr ⟨record, handle, holds, idle⟩)
        · exact fun releasable => none other (by omega) ((DeviceState.Releasable.sameView same).mp releasable)
      | freed holds idle =>
        obtain ⟨calls, made, _⟩ := ih kept next (by omega)
        refine ⟨_ :: calls, Made.trans (.of_one rfl ?_ ?_) made (.inr ?_), met holds idle⟩
        · rintro ⟨⟩
        · exact (and_iff_left rfl).symm
        · simp [reportsLoss]
      | @rejected record handle error value state holds idle reslots =>
        obtain ⟨calls, made, nothing⟩ := ih kept next (by omega)
        by_cases lost : error = .deviceLost
        · subst lost
          refine ⟨_ :: calls,
            Made.lost rfl rfl rfl (nothing.trans ⟨fun none => ?_, fun alone other past => ?_⟩) made, met holds idle⟩
          · rintro ⟨_, holds', later, releasable⟩
            cases here.distinct holds' holds rfl
            have past := UInt32.lt_iff_toNat_lt.mp later
            refine none _ (by omega) ((DeviceState.Releasable.reslots reslots ?_).mpr releasable)
            rintro rfl
            omega
          · intro releasable
            have later : slotNumber id < slotNumber other := UInt32.lt_iff_toNat_lt.mpr (by omega)
            refine alone (.rejected quiet holds later ((DeviceState.Releasable.reslots reslots ?_).mp releasable))
            rintro rfl
            omega
        · have noted : ∀ pass : ResetPass V, pass.noteBackendError error = pass.notReusable := fun _ => if_neg lost
          simp only [noted] at made ⊢
          refine ⟨_ :: calls, Made.trans (.of_one rfl ?_ ?_) made (.inr ?_), met holds idle⟩
          · rintro ⟨⟩
            exact lost rfl
          · simp [notReusable, reportsLoss, lost]
          · simp [reportsLoss, lost]
      | unknown holds idle =>
        refine ⟨_, .of_one rfl ?_ ?_, met holds idle⟩
        · rintro ⟨⟩
        · simp [notCallable, reportsLoss]

/-! Events: a release is tried only when nothing that was asked before has reported a loss. -/

theorem noteBackendError_callable (pass : ResetPass V) (error : BackendError) :
    (pass.noteBackendError error).progress.backendCallable = true ↔
      pass.progress.backendCallable = true ∧ error ≠ .deviceLost := by
  unfold noteBackendError
  split
  · rename_i lost
    exact iff_of_false (by simp [notCallable]) (fun both => both.2 lost)
  rename_i kept
  exact (and_iff_left kept).symm

theorem noteBackendError_processor (pass : ResetPass V) (error : BackendError) :
    (pass.noteBackendError error).processor = pass.processor := by
  unfold noteBackendError
  split <;> rfl

theorem Tried.made {result : Bool × ResetPass V} (tried : Tried pass .event id result) :
    ∃ calls, Made pass result.2 calls := by
  cases tried with
  | silent => exact ⟨[], .of_none rfl rfl⟩
  | freed =>
    refine ⟨[_], .of_one rfl ?_ (and_iff_left rfl).symm⟩
    rintro ⟨⟩
  | rejected =>
    refine ⟨[_], .of_one (by rw [noteBackendError_processor]; rfl) ?_ ?_⟩
    · rintro ⟨quiet, _⟩
      exact quiet rfl
    rw [noteBackendError_callable]
    simp [reportsLoss]
  | unknown =>
    refine ⟨[_], .of_one rfl ?_ ?_⟩
    · rintro ⟨⟩
    · simp [notCallable, reportsLoss]

/-- What the backend was asked about an event, and what came of it. -/
structure Told (before : ResetPass V) (found : Option EventState) (after : ResetPass V)
    (calls : List (Exchange V)) : Prop where
  log : after.processor.accelerator.log = before.processor.accelerator.log ++ calls
  quiet : Quiet calls
  alone : ∀ e ∈ calls, ¬ e.LossFollowed
  given : found = none → (after.progress.backendCallable = true ↔
    before.progress.backendCallable = true ∧ ∀ e ∈ calls, e.reportsLoss = false)
  heard : ∀ state, found = some state → after.progress.backendCallable = before.progress.backendCallable ∧
    ((∀ e ∈ calls, e.reportsLoss = false) ↔ state ≠ .failed .deviceLost)

theorem Told.of_none (log : after.processor.accelerator.log = before.processor.accelerator.log)
    (callable : after.progress.backendCallable = before.progress.backendCallable) : Told before none after [] :=
  ⟨by rw [log, append_nil], .nil, by simp, fun _ => by rw [callable]; simp, by simp⟩

section
variable (log : after.processor.accelerator.log = before.processor.accelerator.log ++ [e])
  (alone : ¬ e.LossFollowed)
include log alone

theorem Told.of_error {error : BackendError}
    (callable : after.progress.backendCallable = before.progress.backendCallable)
    (loss : e.reportsLoss = decide (error = .deviceLost)) : Told before none (after.noteBackendError error)
    [e] := by
  refine ⟨by rw [noteBackendError_processor, log], pairwise_singleton .., by simpa using alone, fun _ =>
    ?_, by simp⟩
  rw [noteBackendError_callable, callable]
  simp [loss]

theorem Told.of_state {state : EventState}
    (callable : after.progress.backendCallable = before.progress.backendCallable)
    (loss : e.reportsLoss = decide (state = .failed .deviceLost)) : Told before (some state) after [e] := by
  refine ⟨log, pairwise_singleton .., by simpa using alone, by simp, fun state' same => ⟨callable, ?_⟩⟩
  cases same
  simp [loss]

end

theorem Told.trans {state : EventState} {found : Option EventState} (left : Told first (some state) second calls)
    (present : state ≠ .failed .deviceLost) (right : Told second found third more) :
    Told first found third (calls ++ more) := by
  obtain ⟨callable, lossless⟩ := left.heard state rfl
  have kept := lossless.mpr present
  refine ⟨by rw [right.log, left.log, append_assoc],
    pairwise_append.mpr ⟨left.quiet, right.quiet, fun e member _ _ => kept e member⟩,
    forall_mem_append.mpr ⟨left.alone, right.alone⟩, fun none => ?_, fun state' same => ?_⟩
  · rw [right.given none, callable, forall_mem_append, and_iff_right kept]
  obtain ⟨callable', lossless'⟩ := right.heard state' same
  refine ⟨callable'.trans callable, ?_⟩
  rw [forall_mem_append, lossless', and_iff_right kept]

theorem pollEvent_told (pass : ResetPass V) (id : ObjectId) :
    ∃ calls, Told pass (pass.pollEvent id).1 (pass.pollEvent id).2 calls := by
  unfold pollEvent
  rcases pass.processor.liveEvent_cases id with ⟨error, found, _⟩ | ⟨record, event, found, _⟩
  · simp only [found]
    exact ⟨[], .of_none rfl rfl⟩
  obtain ⟨reply, called⟩ := Accelerator.pollEvent_eq pass.processor.state pass.processor.accelerator event
  simp only [found, called]
  cases reply with
  | error error => exact ⟨[_], .of_error rfl (by rintro ⟨⟩) rfl rfl⟩
  | ok state => exact ⟨[_], .of_state rfl (by rintro ⟨⟩) rfl rfl⟩

theorem cancelEvent_told (pass : ResetPass V) (id : ObjectId) :
    ∃ calls, Told pass (pass.cancelEvent id).1 (pass.cancelEvent id).2 calls := by
  unfold cancelEvent
  split
  · exact ⟨[], .of_none rfl rfl⟩
  rcases pass.processor.liveEvent_cases id with ⟨error, found, _⟩ | ⟨record, event, found, _⟩
  · simp only [found]
    exact ⟨[], .of_none rfl rfl⟩
  obtain ⟨reply, called⟩ := Accelerator.cancelEvent_eq pass.processor.state pass.processor.accelerator event
  simp only [found, called]
  cases reply with
  | ok => exact ⟨[_], .of_state rfl (by rintro ⟨⟩) rfl rfl⟩
  | error error =>
    have refused : Told pass none (noteBackendError { pass with processor := { pass.processor with
        accelerator := pass.processor.accelerator.after
          ⟨pass.processor.state, .cancelEvent event, .error error⟩ } } error) [_] :=
      .of_error rfl (by rintro ⟨⟩) rfl rfl
    cases error with
    | busy =>
      obtain ⟨calls, told⟩ := pollEvent_told { pass with processor := { pass.processor with
        accelerator := pass.processor.accelerator.after
          ⟨pass.processor.state, .cancelEvent event, .error .busy⟩ } } id
      -- A refusal for being busy is no loss, and its state is still unknown.
      have asked : Told pass (some .pending) { pass with processor := { pass.processor with
          accelerator := pass.processor.accelerator.after
            ⟨pass.processor.state, .cancelEvent event, .error .busy⟩ } } [_] :=
        .of_state rfl (by rintro ⟨⟩) rfl rfl
      exact ⟨_, asked.trans (by decide) told⟩
    | _ => exact ⟨[_], refused⟩

theorem settleEvent_told (pass : ResetPass V) (id : ObjectId) :
    ∃ calls, Told pass (pass.settleEvent id).1 (pass.settleEvent id).2 calls := by
  obtain ⟨calls, told⟩ := pollEvent_told pass id
  unfold settleEvent
  generalize pass.pollEvent id = outcome at told
  rcases outcome with ⟨found, after⟩
  rcases found with _ | state
  · exact ⟨calls, told⟩
  cases state with
  | pending =>
    obtain ⟨more, cancelled⟩ := cancelEvent_told after id
    exact ⟨_, told.trans (by decide) cancelled⟩
  | _ => exact ⟨calls, told⟩

theorem Told.made {middle : ResetPass V} {found : Option EventState} (told : Told before found middle calls)
    (same : after.processor = middle.processor)
    (callable : after.progress.backendCallable = true ↔ before.progress.backendCallable = true ∧ ∀ e ∈ calls,
      e.reportsLoss = false) :
    Made before after calls :=
  ⟨by rw [same, told.log], iff_of_true told.quiet told.alone, callable⟩

/-- The calls for one event of a reset. -/
theorem resetEvent_made (graph : p.state.Consistent) (follows : Follows p pass) (id : ObjectId) :
    ∃ calls, Made pass (pass.resetEvent id) calls := by
  obtain ⟨settled, _⟩ := follows.settleEvent graph id
  obtain ⟨calls, told⟩ := settleEvent_told pass id
  unfold resetEvent
  generalize pass.settleEvent id = outcome at settled told
  rcases outcome with ⟨found, after⟩
  have past : ∀ {state}, found = some state → state ≠ .failed .deviceLost →
      ∃ calls, Made pass (after.release .event id 0).2 calls := by
    intro state same present
    obtain ⟨callable, lossless⟩ := told.heard state same
    have kept := lossless.mpr present
    obtain ⟨more, made⟩ := (release_tried (Moves.consistent graph settled.moves) 0).made
    have asked : Made pass after calls := told.made rfl (by rw [← callable]; exact (and_iff_left kept).symm)
    exact ⟨_, asked.trans made (.inr kept)⟩
  rcases found with _ | state
  · exact ⟨calls, told.made rfl (told.given rfl)⟩
  obtain ⟨callable, lossless⟩ := told.heard state rfl
  cases state with
  | pending =>
    refine ⟨calls, told.made rfl ?_⟩
    rw [lossless, ← callable]
    simp [notReusable]
  | complete | cancelled => exact past rfl (by decide)
  | failed error =>
    by_cases lost : error = .deviceLost
    · subst error
      refine ⟨calls, told.made rfl ?_⟩
      rw [lossless]
      simp [notCallable]
    · have step := past rfl (by simp [lost])
      cases error <;> first | exact step | exact absurd rfl lost

theorem walkEvents_made (graph : p.state.Consistent) (follows : Follows p pass) (fuel cursor : Nat) :
    ∃ calls, Made pass (walk .event (fun id pass =>
      if ¬ pass.progress.backendCallable then (false, pass) else (true, pass.resetEvent id)) fuel cursor pass)
        calls ∧
      (pass.progress.backendCallable = false → calls = []) := by
  induction fuel generalizing cursor pass with
  | zero => exact ⟨[], .of_none rfl rfl, fun _ => rfl⟩
  | succ fuel ih =>
    simp only [walk]
    split
    · exact ⟨[], .of_none rfl rfl, fun _ => rfl⟩
    rename_i next id _
    cases going : pass.progress.backendCallable with
    | false =>
      exact ⟨[], .of_none rfl rfl, fun _ => rfl⟩
    | true =>
      obtain ⟨calls, made⟩ := resetEvent_made graph follows id
      obtain ⟨more, rest, stops⟩ := ih (follows.resetEvent graph id) next
      refine ⟨calls ++ more, made.trans rest ?_, fun never => absurd never (by decide)⟩
      cases still : (pass.resetEvent id).progress.backendCallable with
      | true => exact .inr (made.callable.mp still).2
      | false => exact .inl (stops still)

theorem Made.whenCallable {next : ResetPass V → ResetPass V} (left : Made first second calls)
    (right : ∃ more, Made second (next second) more) :
    ∃ calls, Made first (second.whenCallable next) calls := by
  unfold ResetPass.whenCallable
  split
  · rename_i going
    obtain ⟨more, right⟩ := right
    exact ⟨_, left.trans right (.inr (left.callable.mp going).2)⟩
  · exact ⟨calls, left⟩

theorem resetKind_made (accounted : Accounted p) (kind : ObjectKind) (quiet : kind ≠ .event)
    (follows : Follows p pass) :
    ∃ calls, Made pass (pass.resetAll kind (resetObject kind)) calls := by
  obtain ⟨calls, made, _⟩ := walk_made accounted quiet follows (2 ^ 32) 0 (Nat.le_refl _)
  exact ⟨calls, made⟩

theorem sweep_made (accounted : Accounted p) (follows : Follows p pass) : ∃ calls, Made pass pass.sweep calls := by
  have graph := accounted.graph
  obtain ⟨_, events, _⟩ := walkEvents_made graph follows (2 ^ 32) 0
  have afterEvents := follows.resetEvents graph
  obtain ⟨_, queues⟩ := Made.whenCallable events (resetKind_made accounted .queue (by decide) afterEvents)
  have afterQueues := afterEvents.whenCallable (fun f => f.resetKind graph .queue (by decide))
  obtain ⟨_, programs⟩ := Made.whenCallable queues (resetKind_made accounted .program (by decide) afterQueues)
  have afterPrograms := afterQueues.whenCallable (fun f => f.resetKind graph .program (by decide))
  obtain ⟨_, buffers⟩ := Made.whenCallable programs (resetKind_made accounted .buffer (by decide) afterPrograms)
  have afterBuffers := afterPrograms.whenCallable (fun f => f.resetKind graph .buffer (by decide))
  exact Made.whenCallable buffers (resetKind_made accounted .context (by decide) afterBuffers)

end ResetPass

namespace CommandProcessor
variable {p : CommandProcessor V}

/-- The calls one reset makes. -/
def resetCalls (p : CommandProcessor V) (ns : ObjectNamespace) : List (Exchange V) :=
  (p.reset ns).2.accelerator.log.drop p.accelerator.log.length

theorem concludeReset_log (ns : ObjectNamespace) (pass : ResetPass V) :
    (concludeReset ns pass).2.accelerator.log = pass.processor.accelerator.log := by
  rcases concludeReset_cases ns pass with ⟨_, ended, _⟩ | ⟨_, ended, _⟩ | ended <;> rw [ended]

/-- A reset calls a backend that has reported a loss again exactly when that
was the rejected release of a context, buffer, program or queue, and the loop
over its kind had another object to release. -/
theorem Reachable.reset_quiet_iff (reach : Reachable p) (ns : ObjectNamespace) :
    Quiet (p.resetCalls ns) ↔ ∀ e ∈ p.resetCalls ns, ¬ e.LossFollowed := by
  have none : (p.reset ns).2.accelerator.log = p.accelerator.log →
      (Quiet (p.resetCalls ns) ↔ ∀ e ∈ p.resetCalls ns, ¬ e.LossFollowed) := by
    intro same
    rw [resetCalls, same]
    simp [Quiet]
  rcases p.reset_cases ns with ⟨_, done⟩ | ⟨usable, ⟨_, done⟩ | ⟨_, done⟩⟩
  · exact none (by rw [done])
  · exact none (by rw [done])
  have accounted := reach.accounted.moves (beginReset_moves reach.accounted.graph usable)
  obtain ⟨calls, made⟩ := sweep_made accounted (.start p.beginReset)
  have log : p.resetCalls ns = calls := by
    rw [resetCalls, done, concludeReset_log, made.log]
    exact drop_left
  rw [log]
  exact made.quiet

/-- A reset that releases a buffer and its context. -/
theorem Reachable.reset_quiet_iff_buffer : ∃ start, fresh (agreeable sampleInfo) = .ok start ∧
    (start.withBuffer.resetCalls ⟨2, by decide⟩).length = 2 ∧
    (Quiet (start.withBuffer.resetCalls ⟨2, by decide⟩) ↔
      ∀ e ∈ start.withBuffer.resetCalls ⟨2, by decide⟩, ¬ e.LossFollowed) :=
  ⟨_, rfl, by decide +kernel,
    Reachable.reset_quiet_iff (Reachable.of_fresh (agreeable sampleInfo) rfl rfl).withBuffer ⟨2, by decide⟩⟩

/-- A backend with room for two contexts that is lost once a context is to go. -/
def lostOnRelease : Accelerator (fun _ => Unit) where
  deviceInfo := .ok { sampleInfo with limits := { DeviceState.smallLimits with maxContexts := 2 } }
  behaviour log call := match call with
    | .release .context _ => (Except.error (.rejected .deviceLost ()) : Except (ReleaseFailure Unit) Unit)
    | call => (agreeable sampleInfo).behaviour log call
  log := []

/-- A processor with two contexts. -/
def withContexts (start : CommandProcessor (fun _ => Unit)) : CommandProcessor (fun _ => Unit) :=
  (start.serve .createContext (CreateContextRequest.codec.encode ⟨0, 0⟩) ⟨24, by decide⟩).serve .createContext
    (CreateContextRequest.codec.encode ⟨0, 0⟩) ⟨24, by decide⟩

/-- The reset asks for the second context although the first answer was a lost device. -/
theorem Reachable.reset_not_quiet : ∃ start, fresh lostOnRelease = .ok start ∧ Reachable start.withContexts ∧
    ((start.withContexts.resetCalls ⟨2, by decide⟩).map reportsLoss = [true, true]) ∧
    ¬ Quiet (start.withContexts.resetCalls ⟨2, by decide⟩) := by
  have lost : ∀ calls : List (Exchange (fun _ => Unit)), calls.map reportsLoss = [true, true] →
      ¬ Quiet calls := by
    intro calls both quiet
    obtain ⟨first, rest, rfl, lost, more⟩ := map_eq_cons_iff.mp both
    obtain ⟨second, _, rfl, _, _⟩ := map_eq_cons_iff.mp more
    have silent := (pairwise_cons.mp quiet).1 second (by simp)
    rw [lost] at silent
    cases silent
  have both : ∃ start, fresh lostOnRelease = .ok start ∧
      (start.withContexts.resetCalls ⟨2, by decide⟩).map reportsLoss = [true, true] :=
    ⟨_, rfl, by decide +kernel⟩
  obtain ⟨start, made, both⟩ := both
  exact ⟨start, made, ((Reachable.of_fresh lostOnRelease rfl made).served _ _ _).served _ _ _, both, lost _ both⟩

end CommandProcessor

end VirtioAccel
