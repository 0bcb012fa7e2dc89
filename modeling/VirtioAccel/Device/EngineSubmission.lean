import VirtioAccel.Device.EngineCommands

namespace VirtioAccel.CommandProcessor
open Checked List
open DeviceState (SameView Resolved submissionRecord sortIds)
variable {V : Handles} {p : CommandProcessor V}
variable {resources : SubmissionResources (Owned V)} {bindings : List DecodedBinding} {error : SubmitCreateError}
  {queueId programId : ObjectId}
variable {s : DeviceState (Owned V)} {binding : DecodedBinding} {maxBindings : UInt32} {reserve : Bool}

theorem nativeBinding_ok (resolved : Resolved s queueId programId resources) {native : BindingRef (Owned V .buffer)}
    (made : nativeBinding resources binding = .ok native) :
    native.slot = binding.slot ∧ s.Bindable resources.contextId native := by
  simp only [nativeBinding, bind_eq_ok, mapError_eq_ok, pure_eq_ok] at made
  obtain ⟨⟨buffer, info⟩, found, _, within, _, allowed, rfl⟩ := made
  obtain ⟨record, present, owner, held, rfl⟩ := resolved.buffer found
  exact ⟨rfl, binding.bufferId, record, ⟨present, held⟩, owner, by simpa using within, by simpa using allowed⟩

/-- The bindings that reach the backend: as many as decoded, in their order. -/
theorem prepareSubmission_ok (resolved : Resolved s queueId programId resources)
    {nativeBindings : List (BindingRef (Owned V .buffer))}
    (prepared : prepareSubmission reserve maxBindings bindings resources = .ok nativeBindings) :
    nativeBindings ≠ [] ∧ nativeBindings.length ≤ maxBindings.toNat ∧
      nativeBindings.map BindingRef.slot = bindings.map DecodedBinding.slot ∧
      ∀ native ∈ nativeBindings, s.Bindable resources.contextId native := by
  simp only [prepareSubmission, bind_eq_ok, mapError_eq_ok, pure_eq_ok, mapM_eq_ok] at prepared
  obtain ⟨_, _, found, each, _, valid, rfl⟩ := prepared
  have counted := validateBindings_eq_ok.mp valid
  refine ⟨counted.1, counted.2.1, ?_⟩
  have described := each.imp (fun _ _ made => nativeBinding_ok resolved made)
  clear each valid counted
  induction described with
  | nil => exact ⟨rfl, by simp⟩
  | cons head _ ih =>
    refine ⟨by rw [map_cons, map_cons, head.1, ih.1], fun native member => ?_⟩
    rcases mem_cons.mp member with rfl | rest
    · exact head.2
    · exact ih.2 native rest

/-- What the closure of a submission reports on its own, without the backend. -/
def Unsubmitted (error : SubmitCreateError) : Prop :=
  (∃ cause, error = .state cause) ∨ error = .outOfMemory ∨ ∃ status, error = .validation status ∧ status ≠ .ok

theorem nativeBinding_error (failed : nativeBinding resources binding = .error error) : Unsubmitted error := by
  simp only [nativeBinding, bind_eq_error, mapError_eq_error, refuseIf_eq_error,
    pure_ne_error, and_false, exists_false, or_false] at failed
  rcases failed with ⟨cause, _, rfl⟩ | ⟨_, _, ⟨_, rfl⟩ | ⟨_, _, _, rfl⟩⟩
  · exact .inl ⟨cause, rfl⟩
  · exact .inr (.inr ⟨_, rfl, by decide⟩)
  · exact .inr (.inr ⟨_, rfl, by decide⟩)

theorem prepareSubmission_error (failed : prepareSubmission reserve maxBindings bindings resources = .error error) :
    Unsubmitted error := by
  simp only [prepareSubmission, bind_eq_error, mapError_eq_error, refuseIf_eq_error,
    pure_ne_error, and_false, exists_false, or_false] at failed
  rcases failed with ⟨_, rfl⟩ | ⟨_, _, found | ⟨_, _, cause, _, rfl⟩⟩
  · exact .inr (.inl rfl)
  · obtain ⟨_, _, wrong⟩ := mapM_eq_error found
    exact nativeBinding_error wrong
  · exact .inr (.inr ⟨_, rfl, statusFromBackendError_ne_ok cause⟩)

/-- What a submission can come to, with its response. -/
inductive Submitted (p : CommandProcessor V) (queueId programId : ObjectId) (bufferIds : List ObjectId) :
    CommandProcessor V × Response V → Prop
  | refused {status state} : status ≠ .ok → SameView p.state state →
      Submitted p queueId programId bufferIds ({ p with state }, .empty status false)
  | broken {state} : SameView p.state state →
      Submitted p queueId programId bufferIds (discardResponse { p with state })
  | declined {e error state} : Permitted false p e → e.Neutral → SameView p.state state →
      Submitted p queueId programId bufferIds
        (respondBackendError { p with state, accelerator := p.accelerator.after e } error false)
  | accepted {e p' id event contextId} :
      Grants p p' e .event id (submissionRecord queueId programId (sortIds bufferIds) event contextId) →
      Submitted p queueId programId bufferIds (p'.respondEventId .ok id)
  | indeterminate {e p' id event contextId error} :
      Grants p p' e .event id (submissionRecord queueId programId (sortIds bufferIds) event contextId) →
      Submitted p queueId programId bufferIds
        ((p'.noteBackendError error).respondEventId (statusFromBackendError error) id)

theorem Submitted.of_unsubmitted {bufferIds : List ObjectId} {state : DeviceState (Owned V)}
    (same : SameView p.state state) (unsubmitted : Unsubmitted error) (admission : Admission V) :
    Submitted p queueId programId bufferIds
      (respondSubmit { p with state } admission (.error (.provider error))) := by
  rcases unsubmitted with ⟨cause, rfl⟩ | rfl | ⟨status, rfl, bad⟩
  · exact .broken same
  · exact .refused (by decide) same
  · exact .refused bad same

/-- What a submission can come to. -/
theorem submit_cases (graph : p.state.Consistent) (alloc : Allocator) (queueId programId : ObjectId)
    (sorted : bindings.Pairwise (fun left right => left.slot < right.slot)) (timeout : Timeout) :
    Submitted p queueId programId (bindings.map DecodedBinding.bufferId)
      (p.submit alloc queueId programId bindings timeout) := by
  unfold submit
  split
  · exact .refused (by decide) (.refl graph.tables)
  rcases DeviceState.createEventWith_cases graph alloc.table queueId programId
    (bindings.map DecodedBinding.bufferId)
    (admitSubmission p.state alloc.nativeBindings p.info.limits.maxBindingsPerSubmission bindings timeout)
    ⟨p.accelerator, .ok, false⟩ with ⟨error, done⟩ | ⟨resources, ⟨resolved, _⟩, outcome⟩
  · rw [done]
    exact .refused (statusFromDeviceStateError_ne_ok error) (.refl graph.tables)
  unfold admitSubmission at outcome ⊢
  cases prepared : prepareSubmission alloc.nativeBindings p.info.limits.maxBindingsPerSubmission bindings
    resources with
  | error error =>
    simp only [prepared] at outcome
    rcases outcome with ⟨error', state, answer, same, done⟩ | ⟨_, _, _, answer, _⟩
    · cases answer
      rw [done]
      exact .of_unsubmitted same (prepareSubmission_error prepared) _
    · cases answer
  | ok nativeBindings =>
    obtain ⟨nonempty, within, slots, bindable⟩ := prepareSubmission_ok resolved prepared
    have ascending : nativeBindings.Pairwise (fun left right => left.slot < right.slot) := by
      have mapped := pairwise_map.mpr sorted
      rw [← slots] at mapped
      exact pairwise_map.mp mapped
    obtain ⟨queue, atQueue, queueOwner, queueHeld⟩ := resolved.queue
    obtain ⟨program, atProgram, programOwner, programHeld⟩ := resolved.program
    have contract : (Call.submit resources.queue resources.program nativeBindings timeout).Contract false
        p.info.limits p.accelerator.log p.state :=
      ⟨nonempty, within, ascending, resources.contextId, ⟨queueId, queue, ⟨atQueue, queueHeld⟩, queueOwner⟩,
        ⟨programId, program, ⟨atProgram, programHeld⟩, programOwner⟩, bindable⟩
    simp only [prepared] at outcome
    rcases Accelerator.submit_cases p.state p.accelerator resources.queue resources.program nativeBindings timeout
      with ⟨error, called⟩ | ⟨value, called⟩ | ⟨error, value, called⟩
    · simp only [called] at outcome
      rcases outcome with ⟨_, state, answer, same, done⟩ | ⟨_, _, _, answer, _⟩
      · cases answer
        rw [done]
        exact .declined ⟨rfl, contract⟩ ⟨rfl, rfl⟩ same
      · cases answer
    · simp only [called] at outcome
      rcases outcome with ⟨_, _, answer, _⟩ | ⟨event, id, state, answer, ⟨_, _, _, adopts⟩, done⟩
      · cases answer
      cases answer
      rw [done]
      exact .accepted ⟨rfl, ⟨rfl, contract⟩, .child adopts, rfl, rfl, value, rfl⟩
    · simp only [called] at outcome
      rcases outcome with ⟨_, _, answer, _⟩ | ⟨event, id, state, answer, ⟨_, _, _, adopts⟩, done⟩
      · cases answer
      cases answer
      rw [done]
      have grants : Grants p { p with
          state
          accelerator := p.accelerator.after ⟨p.state, .submit resources.queue resources.program nativeBindings
            timeout, .error (.indeterminate error value)⟩ } _ .event id _ :=
        ⟨rfl, ⟨rfl, contract⟩, .child adopts, rfl, rfl, value, rfl⟩
      simpa only [respondSubmit, noteBackendError, decide_eq_true_eq] using
        Submitted.indeterminate grants

end VirtioAccel.CommandProcessor
