import VirtioAccel.Device.ResponseGuarantees

/-! An error that is no device loss costs the guest nothing. -/

namespace VirtioAccel
open DeviceState (SameView Reslots)
variable {V : Handles} {σ : Type}

/-- A call that takes a handle and leaves it with the engine, with the value it
leaves behind it: a rejected release, or a write into a buffer. -/
inductive Exchange.HandsBack : Exchange V → (kind : ObjectKind) → Owned V kind → V kind → Prop
  | rejected {state kind handle error value} :
      HandsBack ⟨state, .release kind handle, .error (.rejected error value)⟩ kind handle value
  | written {state buffer offset data result value} :
      HandsBack ⟨state, .writeBuffer buffer offset data, (result, value)⟩ .buffer buffer value

namespace CommandProcessor
variable {p p' : CommandProcessor V} {kind : ObjectKind} {id : ObjectId} {result : CommandProcessor V × Response V}
variable {body : DecodedRequestBody} {error : BackendError} {range : BufferRange} {status : StatusCode}

/-- The same object under the same handle, with the same counts. Only the
handle that the last call took may have another value behind it. -/
inductive SameObject (last : Option (Exchange V)) (before : Record (Owned V) kind) : Record (Owned V) kind → Prop
  | kept : SameObject last before before
  | returned {e handle value} : last = some e → e.HandsBack kind handle value →
      before.resource.resource = some handle →
      SameObject last before (before.setResource (ResourceSlot.new { handle with value }))

theorem SameObject.rel_refl {last : Option (Exchange V)} (found : Option (Record (Owned V) kind)) :
    Option.Rel (SameObject last) found found := by
  cases found with
  | none => exact .none
  | some record => exact .some .kept

/-- Nothing the device owns or counts has changed. -/
structure Unchanged (p p' : CommandProcessor V) : Prop where
  objects : ∀ kind id, Option.Rel (SameObject p'.accelerator.log.getLast?)
    ((p.state.table kind).lookup id) ((p'.state.table kind).lookup id)
  retained : p'.retainedBytes = p.retainedBytes
  quarantined : p'.quarantined = p.quarantined
  quarantinedBytes : p'.quarantinedBytes = p.quarantinedBytes
  health : p'.health = p.health

theorem Unchanged.of_view {state : DeviceState (Owned V)} {accelerator : Accelerator V}
    (same : SameView p.state state) :
    Unchanged p { p with state, accelerator } where
  objects kind id := by
    rw [same.lookup]
    exact SameObject.rel_refl _
  retained := by simp only [retainedBytes, same.retained]
  quarantined := rfl
  quarantinedBytes := rfl
  health := rfl

theorem Unchanged.of_reslots {state : DeviceState (Owned V)} {record : Record (Owned V) kind}
    {handle : Owned V kind} {value : V kind} {e : Exchange V} (holds : p.state.Holds kind id record handle)
    (reslots : Reslots p.state state kind id record (ResourceSlot.new { handle with value }))
    (returned : e.HandsBack kind handle value) :
    Unchanged p { p with state, accelerator := p.accelerator.after e } where
  objects other named := by
    by_cases same : other = kind
    · subst other
      rw [reslots.table.lookup_after]
      split
      · rename_i here
        subst named
        rw [holds.present]
        exact .some (.returned List.getLast?_concat returned holds.live)
      · exact SameObject.rel_refl _
    · rw [reslots.others other same]
      exact SameObject.rel_refl _
  retained := by simp only [retainedBytes, reslots.retained]
  quarantined := rfl
  quarantinedBytes := rfl
  health := rfl

theorem Unchanged.note (same : Unchanged p p') (kept : statusFromBackendError error ≠ .deviceLost) :
    Unchanged p (p'.noteBackendError error) := by
  have present : error ≠ .deviceLost := by
    rintro rfl
    exact kept rfl
  rwa [noteBackendError_of_ne present]

theorem Unchanged.of_forgotten {lastReset : Option ResetReport} (same : Unchanged { p with lastReset } p') :
    Unchanged p p' := ⟨same.objects, same.retained, same.quarantined, same.quarantinedBytes, same.health⟩

/-- A handler that answers with an ordinary error has changed nothing. -/
def Harmless (p : CommandProcessor V) (result : CommandProcessor V × Response V) : Prop :=
  ∀ status mutated, result.2 = .empty status mutated → status ≠ .ok → status ≠ .deviceLost → Unchanged p result.1

theorem Harmless.of_error {mutated : Bool} (same : Unchanged p p') :
    Harmless p (p'.respondBackendError error mutated) := by
  intro status _ answer _ present
  cases answer
  exact same.note present

theorem Harmless.of_loss : Harmless p p'.discardResponse := by
  intro status _ answer _ present
  cases answer
  exact absurd rfl present

theorem Released.harmless (released : Released p kind id result) : Harmless p result := by
  cases released with
  | refused same => exact fun _ _ _ _ _ => .of_view same
  | freed =>
    intro status _ answer bad _
    cases answer
    exact absurd rfl bad
  | rejected holds _ reslots => exact .of_error (.of_reslots holds reslots .rejected)
  | forfeited => exact .of_loss

theorem Created.harmless (graph : p.state.Consistent) (created : Created p kind result) : Harmless p result := by
  cases created with
  | refused => exact fun _ _ _ _ _ => .of_view (.refl graph.tables)
  | declined => exact .of_error (.of_view (.refl graph.tables))
  | made => exact fun _ _ answer => nomatch answer

/-- The buffer that was admitted only to be released leaves no trace. -/
theorem Withdrawn.harmless (graph : p.state.Consistent) {e : Exchange V} {record : Record (Owned V) .buffer}
    (grants : Grants p p' e .buffer id record) (withdrawn : Withdrawn p' id error result) :
    Harmless p result := by
  cases withdrawn with
  | freed holds _ frees =>
    cases holds.present.symm.trans grants.gains.present.2
    rw [grants.processor]
    exact .of_error (.of_view (grants.gains.withdrawn graph (by decide) (by decide) frees))
  | rejected | forfeited => exact .of_loss

theorem Submitted.harmless {queueId programId : ObjectId} {bufferIds : List ObjectId}
    (submitted : Submitted p queueId programId bufferIds result) : Harmless p result := by
  cases submitted with
  | refused _ same => exact fun _ _ _ _ _ => .of_view same
  | broken => exact .of_loss
  | declined _ _ same => exact .of_error (.of_view same)
  | accepted | indeterminate => exact fun _ _ answer => nomatch answer

section
variable (graph : p.state.Consistent)
include graph

theorem Polled.harmless (polled : Polled p id result) : Harmless p result := by
  cases polled with
  | refused => exact fun _ _ _ _ _ => .of_view (.refl graph.tables)
  | failed => exact .of_error (.of_view (.refl graph.tables))
  | found => exact fun _ _ answer => nomatch answer

theorem Cancelled.harmless (cancelled : Cancelled p id result) : Harmless p result := by
  cases cancelled with
  | unsupported | refused | done => exact fun _ _ _ _ _ => .of_view (.refl graph.tables)
  | failed => exact .of_error (.of_view (.refl graph.tables))

theorem Destroyed.harmless (destroyed : Destroyed p id result) : Harmless p result := by
  cases destroyed with
  | refused | pending => exact fun _ _ _ _ _ => .of_view (.refl graph.tables)
  | failed => exact .of_error (.of_view (.refl graph.tables))
  | lost =>
    intro status _ answer _ present
    cases answer
    exact absurd rfl present
  | ended _ _ _ released =>
    intro status mutated answer bad present
    have same := released.harmless status mutated answer bad present
    exact ⟨same.objects, same.retained, same.quarantined, same.quarantinedBytes, same.health⟩

theorem Written.harmless {data : ByteSource}
    (written : Written p id range data result) :
    Harmless p result := by
  cases written with
  | refused => exact fun _ _ _ _ _ => .of_view (.refl graph.tables)
  | done holds _ reslots => exact fun _ _ _ _ _ => .of_reslots holds reslots .written
  | failed holds _ reslots => exact .of_error (.of_reslots holds reslots .written)

end

theorem ReadReady.processor (read : ReadReady p id range result) : result.1 = p := by
  cases read with
  | refused | ready => rfl

/-- A command that fails leaves the objects. -/
theorem dispatch_harmless (graph : p.state.Consistent) (alloc : Allocator) (valid : body.Valid) :
    Harmless p (p.dispatch alloc body) := by
  cases body with
  | getDeviceInfo => exact fun _ _ answer => nomatch answer
  | createContext desc => exact (createContext_cases graph alloc.table desc).harmless graph
  | destroyContext id => exact (releaseObject_cases graph .context id).harmless
  | allocateBuffer contextId desc =>
    rcases allocateBuffer_cases graph alloc.table contextId desc with
      created | ⟨e, p', id, record, error, grants, _, withdrawn⟩
    · exact created.harmless graph
    · exact withdrawn.harmless graph grants
  | freeBuffer id => exact (releaseObject_cases graph .buffer id).harmless
  | writeBuffer id range data => exact (writeBuffer_cases graph id range data).harmless graph
  | readBuffer id range =>
    intro _ _ _ _ _
    rw [show (p.dispatch alloc (.readBuffer id range)).1 = p from (readBuffer_cases graph id range).processor]
    exact .of_view (.refl graph.tables)
  | loadProgram contextId format target payload residentBytes =>
    exact (loadProgram_cases graph alloc.table contextId _).harmless graph
  | unloadProgram id => exact (releaseObject_cases graph .program id).harmless
  | createQueue contextId desc => exact (createQueue_cases graph alloc.table contextId desc).harmless graph
  | destroyQueue id => exact (releaseObject_cases graph .queue id).harmless
  | submit queueId programId bindings timeout =>
    exact (submit_cases graph alloc queueId programId valid timeout).harmless
  | pollEvent id => exact (p.pollEvent_cases id).harmless graph
  | cancelEvent id => exact (p.cancelEvent_cases id).harmless graph
  | destroyEvent id => exact (destroyEvent_cases graph id).harmless graph

theorem Answers.sent {payload : List UInt8} {mutated : Bool}
    (answers : Answers p p' body (.bytes status payload mutated)) : 0 < payload.length := by
  cases answers with
  | info | made | accepted | indeterminate | polled =>
    rw [Codec.encode_length]
    decide

/-- A read reaches its transfer with the processor it found. -/
theorem dispatch_transfer (graph : p.state.Consistent) (alloc : Allocator) (valid : body.Valid)
    {buffer : Owned V .buffer} (chosen : (p.dispatch alloc body).2 = .transfer buffer range) :
    (p.dispatch alloc body).1 = p := by
  have answers := dispatch_answers graph alloc valid
  rw [chosen] at answers
  cases answers with
  | transfer => exact (readBuffer_cases graph _ range).processor

/-- What writing a response does to the processor. -/
inductive Wrote (p : CommandProcessor V) : Response V → StatusCode → UInt32 → CommandProcessor V → Prop
  | empty {status mutated used} : Wrote p (.empty status mutated) status used p
  | bytes {status payload mutated used} : used.toNat = 16 + payload.length →
      Wrote p (.bytes status payload mutated) status used p
  | read {buffer range accelerator used} : Wrote p (.transfer buffer range) .ok used { p with accelerator }
  | failed {buffer range accelerator error used} :
      Wrote p (.transfer buffer range)
        (statusFromBackendError error) used ({ p with accelerator }.noteBackendError error)

theorem respond_wrote [ByteSink σ] {sink after : σ} {requestId requestId' : UInt64} {response : Response V}
    {used : UInt32}
    (done : p.respond sink requestId response = (.ok (.response requestId' status used), p', after)) :
    Wrote p response status used p' := by
  cases response with
  | empty =>
    obtain ⟨_, _, outcome, rfl⟩ := completeResponse_eq_ok done
    cases outcome
    exact .empty
  | bytes =>
    obtain ⟨_, written, outcome, rfl⟩ := completeResponse_eq_ok done
    cases outcome
    exact .bytes (ResponseWriter.writeBytes_used (congrArg Prod.fst written))
  | transfer buffer range =>
    change p.transferResponse sink requestId buffer range = _ at done
    cases opened : ResponseWriter.payload p.decoder.limits.maxResponseBytes sink range.bytes with
    | error error =>
      simp only [transferResponse, opened] at done
      cases done
    | ok window =>
      obtain ⟨accelerator, ⟨_, same⟩ | ⟨error, _, same⟩⟩ := transferResponse_cases requestId buffer opened rfl
      all_goals
        obtain ⟨_, _, outcome, rfl⟩ := completeResponse_eq_ok (same.symm.trans done)
        cases outcome
      · exact .read
      · exact .failed

theorem dispatch_unchanged (graph : p.state.Consistent) {alloc : Allocator} (valid : body.Valid) {used : UInt32}
    (wrote : Wrote (p.dispatch alloc body).1 (p.dispatch alloc body).2 status used p') (failed : status ≠ .ok)
    (present : status ≠ .deviceLost) (bare : used.toNat = 16) : Unchanged p p' := by
  have answers := dispatch_answers graph alloc valid
  cases chosen : (p.dispatch alloc body).2 with
  | empty =>
    rw [chosen] at wrote
    cases wrote with
    | empty => exact dispatch_harmless graph alloc valid status _ chosen failed present
  | bytes =>
    rw [chosen] at wrote answers
    cases wrote with
    | bytes length =>
      have sent := answers.sent
      omega
  | transfer =>
    rw [chosen, dispatch_transfer graph alloc valid chosen] at wrote
    cases wrote with
    | read => exact absurd rfl failed
    | failed => exact (Unchanged.of_view (.refl graph.tables)).note present

/-- Whatever the frame and the backend: an answer without payload whose status
is neither OK nor a device loss leaves every object, charge and quarantine
count, and the health, as they were. -/
theorem Reachable.failure_unchanged [ByteSink σ] (reach : Reachable p) (running : p.health = .running)
    (alloc : Allocator) (regions : List ChainRegion) (request : ByteSource) (sink : σ) {after : σ}
    {requestId : UInt64} {status : StatusCode} {used : UInt32}
    (done : p.process alloc regions request sink = (.ok (.response requestId status used), p', after))
    (failed : status ≠ .ok) (present : status ≠ .deviceLost) (bare : used.toNat = 16) : Unchanged p p' := by
  have graph := reach.accounted.graph
  rcases p.process_cases alloc regions request sink with
    ⟨_, _, _, same⟩ | ⟨_, _, _, _, _, same⟩ | ⟨_, _, _, same⟩ |
      ⟨decoded, _, accepted, ⟨halted, _⟩ | ⟨_, same⟩⟩
  · cases same.symm.trans done
  · cases same.symm.trans done
    exact .of_view (.refl graph.tables)
  · cases same.symm.trans done
  · exact absurd running halted
  · exact (dispatch_unchanged (p := p.serving) graph (FrameDecoder.decode_valid accepted)
      (respond_wrote (same.symm.trans done)) failed present bare).of_forgotten

/-- Destroying a context that still has a buffer. -/
def destroyFrame : List UInt8 :=
  RequestHeader.codec.encode (RequestHeader.new .destroyContext 8 1) ++
    ObjectPayload.codec.encode ⟨(ObjectId.new 0 1 0 .context).raw⟩

def destroyRegions : List ChainRegion := [⟨.deviceReadable, 24⟩, ⟨.deviceWritable, 24⟩]

/-- A context that owns a buffer is busy, and stays. -/
theorem Reachable.failure_unchanged_busy : ∃ start p' after, fresh (agreeable sampleInfo) = .ok start ∧
    start.withBuffer.process roomy destroyRegions
      (.slice destroyFrame) blank = (.ok (.response 1 .busy 16), p', after) ∧
    Unchanged start.withBuffer p' := by
  have answered : ∃ start : CommandProcessor (fun _ => Unit), fresh (agreeable sampleInfo) = .ok start ∧
      start.withBuffer.health = .running ∧
      (start.withBuffer.process roomy destroyRegions (.slice destroyFrame) blank).1 = .ok (.response 1 .busy 16) :=
    ⟨_, rfl, by decide +kernel, by decide +kernel⟩
  obtain ⟨start, made, running, status⟩ := answered
  have done : start.withBuffer.process roomy destroyRegions (.slice destroyFrame) blank =
      (.ok (.response 1 .busy 16), _, _) := Prod.ext status rfl
  exact ⟨start, _, _, made, done,
    Reachable.failure_unchanged (Reachable.of_fresh _ rfl made).withBuffer running _ _ _ _
    done (by decide) (by decide) rfl⟩

end CommandProcessor

end VirtioAccel
