import VirtioAccel.Device.EngineAccounts

/-! The reset pass as a sequence of moves. -/

namespace VirtioAccel
open List ResetPass
open DeviceState (SameView SameEpoch Reslots Gains Frees Frame)
variable {V : Handles}

namespace DeviceState
variable {A : Handles} {s s' : DeviceState A} {kind : ObjectKind} {id : ObjectId} {record : Record A kind}

/-- No record is being released. -/
def Settled (s : DeviceState A) : Prop :=
  ∀ kind {id} {record : Record A kind}, (s.table kind).lookup id = some record → record.resource.release = .live

section
variable (settled : s.Settled)
include settled

theorem Settled.of_frame (frame : Frame s s' kind id)
    (here : ∀ {after}, (s'.table kind).lookup id = some after → after.resource.release = .live) : s'.Settled := by
  intro other target after present
  by_cases same : other = kind ∧ target = id
  · obtain ⟨rfl, rfl⟩ := same
    exact here present
  obtain ⟨before, found, resource, _⟩ := frame other same present
  rw [resource]
  exact settled other found

theorem Settled.sameView (same : SameView s s') : s'.Settled := fun kind _ _ present =>
  settled kind ((same.lookup kind _).symm.trans present)

theorem Settled.reslot {slot : ResourceSlot (A kind)}
    (reslots : Reslots s s' kind id record slot) (live : slot.release = .live) : s'.Settled := by
  refine settled.of_frame reslots.frame (fun {after} present => ?_)
  have stored := reslots.table.lookup_self
  rw [present] at stored
  cases stored
  simpa using live

theorem Settled.free (frees : Frees s s' kind id record) : s'.Settled :=
  settled.of_frame frees.frame (fun present => nomatch frees.gone.symm.trans present)

end

end DeviceState

namespace ObjectTable
variable {T : Type} {t : ObjectTable T} {cursor next : Nat} {id : ObjectId}

theorem nextIdFrom_further (found : t.nextIdFrom cursor = some (next, id)) : cursor < next := by
  obtain ⟨⟨slot, index⟩, member, made⟩ := exists_of_findSome?_eq_some found
  obtain ⟨ahead, atSlot⟩ := mem_iff_getElem?.mp member
  rw [getElem?_drop, getElem?_zipIdx] at atSlot
  obtain ⟨_, _, same⟩ := Option.map_eq_some_iff.mp atSlot
  simp only [Prod.mk.injEq] at same
  simp only at made
  split at made
  · cases made
  cases made
  omega

end ObjectTable

namespace ResetPass
open CommandProcessor (Moves Move Kept SameQuarantine)
variable {p : CommandProcessor V} {pass : ResetPass V}
variable {kind : ObjectKind}
variable {processor : CommandProcessor V} {id : ObjectId} {bytes : UInt64}

/-- Where a pass that started from `p` can be: what it has released and what
is left make up what there was. -/
structure Follows (p : CommandProcessor V) (pass : ResetPass V) : Prop where
  moves : Moves true p pass.processor
  health : pass.processor.health = p.health
  quarantine : SameQuarantine p pass.processor
  epoch : SameEpoch p.state pass.processor.state
  counts : ∀ kind, (pass.released.count kind).toNat + (pass.processor.state.table kind).total (fun _ => 1) =
    (p.state.table kind).total (fun _ => 1)
  bytes : ∀ kind, pass.releasedBytes.amount kind + pass.processor.state.retained.amount kind =
    p.state.retained.amount kind
  settled : pass.progress.backendReusable = true → p.state.Settled → pass.processor.state.Settled

theorem Follows.start (p : CommandProcessor V) : Follows p (start p) := by
  refine ⟨.refl, rfl, ⟨rfl, rfl⟩, .refl _, fun kind => ?_, fun kind => ?_, fun _ settled => settled⟩
  · cases kind <;> exact Nat.zero_add _
  · cases kind <;> exact Nat.zero_add _

section
variable (follows : Follows p pass)
include follows

theorem Follows.progress {progress : ResetProgress}
    (less : progress.backendReusable = true → pass.progress.backendReusable = true) :
    Follows p { pass with progress } :=
  ⟨follows.moves, follows.health, follows.quarantine, follows.epoch, follows.counts, follows.bytes,
    fun reusable => follows.settled (less reusable)⟩

theorem Follows.notReusable : Follows p pass.notReusable := follows.progress (fun never => by cases never)

theorem Follows.notCallable : Follows p pass.notCallable := follows.progress (fun reusable => reusable)

theorem Follows.noteBackendError (error : BackendError) : Follows p (pass.noteBackendError error) := by
  unfold ResetPass.noteBackendError
  split
  · exact follows.notReusable.notCallable
  · exact follows.notReusable

/-- A further step that releases nothing. It may leave a record behind only
when the pass gives the backend up. -/
theorem Follows.step {progress : ResetProgress} (moves : Moves true pass.processor processor)
    (health : processor.health = pass.processor.health) (quarantine : SameQuarantine pass.processor processor)
    (epoch : SameEpoch pass.processor.state processor.state)
    (len : ∀ kind, (processor.state.table kind).total
      (fun _ => 1) = (pass.processor.state.table kind).total (fun _ => 1))
    (retained : processor.state.retained = pass.processor.state.retained)
    (settled : progress.backendReusable = true → pass.progress.backendReusable = true ∧
      (pass.processor.state.Settled → processor.state.Settled)) :
    Follows p { pass with processor, progress } where
  moves := follows.moves.trans moves
  health := health.trans follows.health
  quarantine := ⟨quarantine.counts.trans follows.quarantine.counts, quarantine.bytes.trans follows.quarantine.bytes⟩
  epoch := follows.epoch.trans epoch
  counts kind := by rw [len]; exact follows.counts kind
  bytes kind := by rw [retained]; exact follows.bytes kind
  settled reusable before := (settled reusable).2 (follows.settled (settled reusable).1 before)

end

theorem Follows.view (graph : p.state.Consistent) (follows : Follows p pass) {state : DeviceState (Owned V)}
    (same : SameView pass.processor.state state) :
    Follows p { pass with processor := { pass.processor with state } } :=
  have here := Moves.consistent graph follows.moves
  follows.step (.view same) rfl ⟨rfl, rfl⟩ same.sameEpoch
    (fun kind => ObjectTable.total_eq_of_lookup (here.tables kind) (same.tables kind) (same.lookup kind) _)
    same.retained (fun reusable => ⟨reusable, fun settled => settled.sameView same⟩)

/-- The backend is asked about an event and nothing else happens. -/
theorem Follows.asked (follows : Follows p pass) {call : Call V} {reply : call.Reply}
    (moves : Moves true pass.processor (pass.processor.asked call reply)) :
    Follows p { pass with processor := pass.processor.asked call reply } :=
  follows.step moves rfl ⟨rfl, rfl⟩ (.refl _)
    (fun _ => rfl) rfl (fun reusable => ⟨reusable, fun settled => settled⟩)

theorem Follows.room (follows : Follows p pass) (graph : p.state.Consistent) (kind : ObjectKind) :
    (pass.released.count kind).toNat + 1 < 2 ^ 64 := by
  have counted := follows.counts kind
  rw [← ObjectTable.len_eq_total (graph.tables kind)] at counted
  have word := (p.state.table kind).len.toNat_lt
  omega

section
variable (graph : p.state.Consistent) (follows : Follows p pass)
include graph follows

theorem Follows.released {record : Record (Owned V) kind}
    (moves : Moves true pass.processor processor) (health : processor.health = pass.processor.health)
    (quarantine : SameQuarantine pass.processor processor)
    (frees : Frees pass.processor.state processor.state kind id record) (charged : bytes.toNat = record.charge) :
    Follows p { pass with
      processor
      released := pass.released.bump kind
      releasedBytes := pass.releasedBytes.charge kind bytes } where
  moves := follows.moves.trans moves
  health := health.trans follows.health
  quarantine := ⟨quarantine.counts.trans follows.quarantine.counts, quarantine.bytes.trans follows.quarantine.bytes⟩
  epoch := follows.epoch.trans frees.sameEpoch
  counts other := by
    have counted := follows.counts other
    have len := frees.len other
    rw [ResourceCounts.count_bump (follows.room graph kind)]
    dsimp only
    omega
  bytes other := by
    have counted := follows.bytes other
    have here := follows.bytes kind
    have small := graph.retained_lt kind
    have word := bytes.toNat_lt
    have retained := frees.retained other
    rw [RetainedBytes.amount_charge charged (by omega)]
    dsimp only
    omega
  settled reusable before := (follows.settled reusable before).free frees

theorem Follows.release
    (charged : ∀ record, (pass.processor.state.table kind).lookup id = some record → bytes.toNat = record.charge)
    (due : ∀ {record handle}, pass.processor.state.Holds kind id record handle →
      Due true pass.processor.accelerator.log kind handle) :
    Follows p (pass.release kind id bytes).2 := by
  have here := Moves.consistent graph follows.moves
  unfold ResetPass.release
  rcases CommandProcessor.attemptRelease_cases here kind id with
    ⟨error, state, done, same, _⟩ | ⟨record, handle, holds, idle, ⟨state, done, frees⟩ |
      ⟨error, value, state, done, restored⟩ | ⟨error, state, done, taken⟩⟩
  · simp only [done]
    exact (follows.view graph same).notReusable
  · simp only [done]
    exact follows.released graph (.release holds idle (due holds) frees) rfl ⟨rfl, rfl⟩ frees
      (charged record holds.present)
  · simp only [done]
    refine (follows.step (.restore holds idle (due holds) restored) rfl ⟨rfl, rfl⟩ restored.sameEpoch
      (fun other => restored.total other (fun _ _ => rfl)) restored.retained (fun reusable =>
          ⟨reusable, fun settled =>
        settled.reslot restored rfl⟩)).noteBackendError error
  · simp only [done]
    have strand : Move true pass.processor { pass.processor with
        state
        accelerator := pass.processor.accelerator.after
          ⟨pass.processor.state, .release kind handle, .error (.indeterminate error)⟩ } :=
      .strand rfl ⟨⟨rfl, rfl, rfl, fun condemned => condemned, fun reports => reports⟩,
        .release (.error (.indeterminate error)) holds idle (due holds), rfl⟩ ⟨rfl, rfl⟩ holds taken ⟨rfl, rfl⟩
    exact follows.step (.single strand) rfl ⟨rfl, rfl⟩ taken.sameEpoch (fun other =>
      taken.total other (fun _ _ => rfl))
      taken.retained (fun never => by cases never)

theorem Follows.resetObject (kind : ObjectKind)
    (quiet : kind ≠ .event) (id : ObjectId) : Follows p (pass.resetObject kind id).2 := by
  unfold ResetPass.resetObject
  rcases pass.processor.recordedBytes_cases kind id with ⟨error, read, _⟩ | ⟨bytes, read, charged⟩
  · simp only [read]
    exact follows.notReusable
  simp only [read]
  exact follows.release graph charged (fun _ => .of_ne quiet _)

end

/-- What is known once an event's state is found: the backend's last word on
the handle the record holds. -/
def Heard (pass : ResetPass V) (id : ObjectId) (state : EventState) : Prop :=
  ∀ {record event}, pass.processor.state.Holds .event id record event →
    pass.processor.accelerator.log.getLast? = some ⟨pass.processor.state, .pollEvent event, .ok state⟩ ∨
    state = .cancelled ∧
      pass.processor.accelerator.log.getLast? = some ⟨pass.processor.state, .cancelEvent event, .ok ()⟩

section
variable (graph : p.state.Consistent) (follows : Follows p pass)
include graph follows

theorem Follows.pollEvent (id : ObjectId) :
    Follows p (pass.pollEvent id).2 ∧ ∀ state, (pass.pollEvent id).1 = some state →
    Heard (pass.pollEvent id).2 id state := by
  have here := Moves.consistent graph follows.moves
  unfold ResetPass.pollEvent
  rcases pass.processor.liveEvent_cases id with ⟨error, found, _⟩ | ⟨record, event, found, holds⟩
  · simp only [found]
    exact ⟨follows.notReusable, fun _ never => by cases never⟩
  obtain ⟨reply, called⟩ := Accelerator.pollEvent_eq pass.processor.state pass.processor.accelerator event
  have asked := follows.asked (.polled here holds reply)
  simp only [found, called]
  cases reply with
  | error error => exact ⟨asked.noteBackendError error, fun _ never => by cases never⟩
  | ok state =>
    refine ⟨asked, fun state' same => ?_⟩
    cases same
    intro record' event' holds'
    cases holds.present.symm.trans holds'.present
    cases holds.live.symm.trans holds'.live
    exact .inl getLast?_concat

theorem Follows.cancelEvent (id : ObjectId) : Follows p (pass.cancelEvent id).2 ∧
      ∀ state, (pass.cancelEvent id).1 = some state → Heard (pass.cancelEvent id).2 id state := by
  have here := Moves.consistent graph follows.moves
  unfold ResetPass.cancelEvent
  split
  · exact ⟨follows.notReusable, fun _ never => by cases never⟩
  rcases pass.processor.liveEvent_cases id with ⟨error, found, _⟩ | ⟨record, event, found, holds⟩
  · simp only [found]
    exact ⟨follows.notReusable, fun _ never => by cases never⟩
  obtain ⟨reply, called⟩ := Accelerator.cancelEvent_eq pass.processor.state pass.processor.accelerator event
  have asked := follows.asked (.cancelled here holds reply)
  simp only [found, called]
  cases reply with
  | ok =>
    refine ⟨asked, fun state same => ?_⟩
    cases same
    intro record' event' holds'
    cases holds.present.symm.trans holds'.present
    cases holds.live.symm.trans holds'.live
    exact .inr ⟨rfl, getLast?_concat⟩
  | error error =>
    have noted := asked.noteBackendError error
    cases error with
    | busy => exact asked.pollEvent graph id
    | _ => exact ⟨noted, fun _ never => by cases never⟩

theorem Follows.settleEvent (id : ObjectId) : Follows p (pass.settleEvent id).2 ∧
      ∀ state, (pass.settleEvent id).1 = some state → Heard (pass.settleEvent id).2 id state := by
  have polled := follows.pollEvent graph id
  unfold ResetPass.settleEvent
  generalize pass.pollEvent id = outcome at polled
  rcases outcome with ⟨found, after⟩
  rcases found with _ | state
  · exact polled
  cases state with
  | pending => exact polled.1.cancelEvent graph id
  | _ => exact polled

theorem Follows.resetEvent (id : ObjectId) : Follows p (pass.resetEvent id) := by
  obtain ⟨settled, heard⟩ := follows.settleEvent graph id
  unfold ResetPass.resetEvent
  generalize pass.settleEvent id = outcome at settled heard
  rcases outcome with ⟨found, after⟩
  have past : ∀ {state}, found = some state → state ≠ .pending → state ≠ .failed .deviceLost →
      Follows p (after.release .event id 0).2 := by
    intro state same done present
    refine settled.release graph (fun _ _ => rfl) (fun {record event} holds => ?_)
    rcases heard state same holds with polled | ⟨_, cancelled⟩
    · exact .inl ⟨_, state, polled, done, present⟩
    · exact .inr ⟨rfl, _, cancelled⟩
  rcases found with _ | state
  · exact settled
  cases state with
  | pending => exact settled.notReusable
  | complete | cancelled => exact past rfl (by decide) (by decide)
  | failed error =>
    by_cases lost : error = .deviceLost
    · subst error
      exact settled.notReusable.notCallable
    have step := past rfl (by simp) (by simp [lost])
    cases error <;> first | exact step | exact absurd rfl lost

end

theorem Follows.walk {body : ObjectId → ResetPass V → Bool × ResetPass V}
    (keeps : ∀ id {pass}, Follows p pass → Follows p (body id pass).2) (follows : Follows p pass)
    (fuel cursor : Nat) :
    Follows p (walk kind body fuel cursor pass) := by
  induction fuel generalizing cursor pass with
  | zero => exact follows
  | succ fuel ih =>
    simp only [walk]
    split
    · exact follows
    rename_i next id _
    have kept := keeps id follows
    split
    · rename_i after continued
      rw [continued] at kept
      exact ih kept next
    · rename_i after stopped
      rw [stopped] at kept
      exact kept

theorem Follows.resetEvents (graph : p.state.Consistent) (follows : Follows p pass) :
    Follows p pass.resetEvents := by
  refine follows.walk (fun id {pass} follows => ?_) _ _
  split
  · exact follows
  · exact follows.resetEvent graph id

theorem Follows.whenCallable {next : ResetPass V → ResetPass V}
    (keeps : ∀ {pass}, Follows p pass → Follows p (next pass))
    (follows : Follows p pass) : Follows p (pass.whenCallable next) := by
  unfold ResetPass.whenCallable
  split
  · exact keeps follows
  · exact follows

theorem Follows.resetKind (graph : p.state.Consistent) (kind : ObjectKind) (quiet : kind ≠ .event)
    (follows : Follows p pass) : Follows p (pass.resetAll kind (ResetPass.resetObject kind)) :=
  follows.walk (fun id {_} follows => follows.resetObject graph kind quiet id) _ _

theorem Follows.sweep (graph : p.state.Consistent) (follows : Follows p pass) : Follows p pass.sweep :=
  (((((follows.resetEvents graph).whenCallable (fun f => f.resetKind graph .queue (by decide))).whenCallable
    (fun f => f.resetKind graph .program (by decide))).whenCallable
      (fun f => f.resetKind graph .buffer (by decide))).whenCallable
        (fun f => f.resetKind graph .context (by decide)))

end ResetPass

theorem DeviceState.count_resourceCounts {A : Handles} {s : DeviceState A} (graph : s.Consistent)
    (kind : ObjectKind) : (s.resourceCounts.count kind).toNat = (s.table kind).total (fun _ => 1) := by
  rw [← ObjectTable.len_eq_total (graph.tables kind)]
  cases kind <;> exact UInt32.toNat_toUInt64 _

theorem DeviceState.isEmpty_iff {A : Handles} {s : DeviceState A} :
    s.isEmpty = true ↔ ∀ kind, (s.table kind).len = 0 := by
  simp only [isEmpty, ObjectTable.isEmpty, Bool.and_eq_true, beq_iff_eq]
  constructor
  · rintro ⟨⟨⟨⟨contexts, buffers⟩, programs⟩, queues⟩, events⟩ kind
    cases kind <;> assumption
  intro all
  exact ⟨⟨⟨⟨all .context, all .buffer⟩, all .program⟩, all .queue⟩, all .event⟩

theorem ResourceCounts.count_saturatingAdd {left right : ResourceCounts} {kind : ObjectKind}
    (small : (left.count kind).toNat + (right.count kind).toNat < 2 ^ 64) :
    ((left.saturatingAdd right).count kind).toNat = (left.count kind).toNat + (right.count kind).toNat := by
  have exact : ∀ a b : UInt64, a.toNat + b.toNat < 2 ^ 64 → (saturatingAdd64 a b).toNat = a.toNat + b.toNat := by
    intro a b room
    rw [saturatingAdd64, UInt64.toNat_ofNat', Nat.min_eq_left (by omega), Nat.mod_eq_of_lt room]
  cases kind <;> exact exact _ _ small

theorem RetainedBytes.amount_saturatingAdd {left right : RetainedBytes} {kind : ObjectKind}
    (small : left.amount kind + right.amount kind < 2 ^ 128) :
    (left.saturatingAdd right).amount kind = left.amount kind + right.amount kind := by
  cases kind with
  | buffer | program => exact Nat.min_eq_left (by exact Nat.le_sub_one_of_lt small)
  | context | queue | event => rfl

namespace CommandProcessor
variable {p : CommandProcessor V}

/-- The two ways a pass can end well, and the one way it condemns the backend. -/
theorem concludeReset_cases (ns : ObjectNamespace) (pass : ResetPass V) :
    (∃ error, concludeReset ns pass = (.error (.state error), pass.processor) ∧
      ∀ kind, (pass.processor.state.table kind).len = 0) ∨
    (∃ state, concludeReset ns pass =
        (.ok { pass.processor.discardReport pass.released pass.releasedBytes with disposition := .backendReusable },
          { pass.processor with state, health := .running, lastReset := none }) ∧
      pass.progress.backendReusable = true ∧ (∀ kind, (pass.processor.state.table kind).len = 0) ∧
      DeviceState.new ns pass.processor.info.limits pass.processor.policy = .ok state) ∨
    concludeReset ns pass = (.ok (pass.processor.discardReport pass.released pass.releasedBytes),
      { pass.processor with
        health := .backendDiscardRequired
        lastReset := some (pass.processor.discardReport pass.released pass.releasedBytes) }) := by
  unfold concludeReset
  simp only
  split
  · rename_i finished
    simp only [Bool.and_eq_true] at finished
    have empty := DeviceState.isEmpty_iff.mp finished.1.1.2
    split
    · exact .inl ⟨_, rfl, empty⟩
    rename_i state made
    exact .inr (.inl ⟨state, rfl, finished.1.1.1, empty, made⟩)
  · exact .inr (.inr rfl)

/-- What a reset of a condemned processor reports. -/
def standingReport (p : CommandProcessor V) : ResetReport := p.lastReset.getD (p.discardReport .zero .zero)

theorem reset_cases (p : CommandProcessor V) (ns : ObjectNamespace) :
    (p.health = .backendDiscardRequired ∧
      p.reset ns = (.ok p.standingReport, { p with lastReset := some p.standingReport })) ∨
    p.health ≠ .backendDiscardRequired ∧
      (ns = p.state.objectNamespace ∧ p.reset ns = (.error .namespaceReuse, p) ∨
      ns ≠ p.state.objectNamespace ∧
        p.reset ns = concludeReset ns (start p.beginReset).sweep) := by
  unfold reset
  split
  · rename_i condemned
    refine .inl ⟨condemned, ?_⟩
    unfold standingReport
    split
    · rename_i report last
      rw [last, Option.getD_some, ← last]
    rename_i last
    rw [last, Option.getD_none]
  · rename_i usable
    refine .inr ⟨usable, ?_⟩
    split
    · rename_i reused
      exact .inl ⟨reused, rfl⟩
    rename_i fresh
    exact .inr ⟨fresh, rfl⟩

theorem ReportsDiscard.standing (reports : p.ReportsDiscard) :
    p.standingReport.disposition = .backendDiscardRequired := by
  unfold standingReport
  cases last : p.lastReset with
  | none => rfl
  | some report => exact reports report last

section
variable (graph : p.state.Consistent)
include graph

theorem swept_follows : Follows p.beginReset (start p.beginReset).sweep :=
  Follows.sweep (p := p.beginReset) graph (.start p.beginReset)

theorem beginReset_moves (usable : p.health ≠ .backendDiscardRequired) :
    Moves true p p.beginReset := Moves.mark graph .refl (fun condemned => absurd condemned usable) (by simp)

theorem reset_moves (ns : ObjectNamespace) : Moves true p (p.reset ns).2 := by
  rcases p.reset_cases ns with ⟨condemned, done⟩ | ⟨usable, ⟨_, done⟩ | ⟨_, done⟩⟩
  · rw [done]
    refine Moves.mark graph .refl (fun stays => stays) (fun reports report kept => ?_)
    cases kept
    exact reports.standing
  · rw [done]
  have follows := swept_follows graph
  have swept := (beginReset_moves graph usable).trans follows.moves
  rw [done]
  rcases concludeReset_cases ns (start p.beginReset).sweep with
    ⟨_, ended, _⟩ | ⟨state, ended, _, empty, made⟩ | ended
  · rw [ended]
    exact swept
  · rw [ended]
    refine swept.tail (.renew rfl ⟨rfl, rfl, rfl, fun condemned => ?_, fun _ _ never => nomatch never⟩ rfl empty
      (DeviceState.new_consistent made) (DeviceState.new_empty made) ⟨rfl, rfl⟩)
    exact nomatch show DeviceHealth.needsReset = _ from follows.health.symm.trans condemned
  · rw [ended]
    refine Moves.mark graph swept (fun _ => rfl) (fun _ report kept => ?_)
    cases kept
    rfl

/-- What a pass released and what its report quarantines make up what it began with. -/
theorem discardReport_balance (noCounts : p.quarantined = .zero)
    (noBytes : p.quarantinedBytes = .zero) {pass : ResetPass V} (follows : Follows p pass) (kind : ObjectKind) :
    let report := pass.processor.discardReport pass.released pass.releasedBytes
    (report.released.count kind).toNat + (report.quarantined.count kind).toNat =
      (p.state.table kind).total (fun _ => 1) ∧
      report.releasedBytes.amount kind + report.quarantinedBytes.amount kind = p.state.retained.amount kind := by
  have here := Moves.consistent graph follows.moves
  have none : pass.processor.quarantined.count kind = 0 := by
    rw [follows.quarantine.counts, noCounts]
    cases kind <;> rfl
  have nothing : pass.processor.quarantinedBytes.amount kind = 0 := by
    rw [follows.quarantine.bytes, noBytes]
    cases kind <;> rfl
  have counted := follows.counts kind
  have weighed := follows.bytes kind
  have small := here.retained_lt kind
  have word := (pass.processor.state.resourceCounts.count kind).toNat_lt
  simp only [discardReport]
  rw [ResourceCounts.count_saturatingAdd (by rw [none, UInt64.toNat_zero, Nat.zero_add]; exact word),
    RetainedBytes.amount_saturatingAdd (by omega), none, nothing, DeviceState.count_resourceCounts here,
    UInt64.toNat_zero, Nat.zero_add, Nat.zero_add]
  exact ⟨counted, weighed⟩

end

/-- The report of a pass accounts for everything that was out when it began. -/
theorem Accounted.reset_report (accounted : Accounted p) {ns : ObjectNamespace} {report : ResetReport}
    (usable : p.health ≠ .backendDiscardRequired) (reported : (p.reset ns).1 = .ok report) (kind : ObjectKind) :
    (report.released.count kind).toNat + (report.quarantined.count kind).toNat =
        Exchange.total (fun _ => 1) p.accelerator.log kind ∧
      report.releasedBytes.amount kind + report.quarantinedBytes.amount kind =
        Exchange.total (fun bytes => bytes) p.accelerator.log kind := by
  obtain ⟨noCounts, noBytes⟩ := accounted.clean usable
  have balance := discardReport_balance (p := p.beginReset) accounted.graph noCounts noBytes
    (swept_follows accounted.graph) kind
  have zero : (p.quarantined.count kind).toNat = 0 := by
    rw [noCounts]
    cases kind <;> rfl
  have nothing : p.quarantinedBytes.amount kind = 0 := by
    rw [noBytes]
    cases kind <;> rfl
  rw [accounted.counts, accounted.bytes, zero, nothing]
  rcases p.reset_cases ns with ⟨condemned, _⟩ | ⟨_, ⟨_, done⟩ | ⟨_, done⟩⟩
  · exact absurd condemned usable
  · rw [done] at reported
    cases reported
  rw [done] at reported
  rcases concludeReset_cases ns (start p.beginReset).sweep with
    ⟨_, ended, _⟩ | ⟨state, ended, _⟩ | ended
  · rw [ended] at reported
    cases reported
  · rw [ended] at reported
    cases reported
    exact balance
  · rw [ended] at reported
    cases reported
    exact balance

end CommandProcessor

end VirtioAccel
