import VirtioAccel.Guest.Requests
import VirtioAccel.Device.EngineSubmission

/-! The checks that no slot is bound twice: the guest's, with its shortcut for slots in order, the decoder's, which
sorts, and the one before admission. -/

namespace VirtioAccel.Guest.GuestClient
open Checked List
variable {Q χ ε θ : Type} [DriverQueue Q χ θ]
variable {earlier rest : List Binding} {epoch : QueueEpoch} {context : ObjectId} {canonical : Bool}

/-- What is wrong with a binding that comes after these. -/
def bindingFault (epoch : QueueEpoch) (context : ObjectId) (earlier : List Binding) (binding : Binding) :
    Option (StartErrorKind θ ε) :=
  if binding.buffer.handle.epoch ≠ epoch then some .staleHandle
  else if binding.buffer.context ≠ context ∨ ¬ BufferRange.fits binding.range binding.buffer.desc.bytes ∨
      ¬ usageAllows binding.buffer.desc.usage binding.access ∨ binding.slot ∈ earlier.map Binding.slot then
    some .invalidArgument
  else none

/-- The plain check: the fault of the first binding that has one. -/
def plainBindings (epoch : QueueEpoch) (context : ObjectId) (bindings : List Binding) :
    Except (StartErrorKind θ ε) Unit :=
  (bindings.zipIdx.findSome? fun (binding, position) =>
    bindingFault epoch context (bindings.take position) binding).elim (.ok ()) .error

/-- The checks of `submit` with the plain one in the place of the scan. -/
def checkSubmitPlain (self : GuestClient Q χ) (context : ObjectId) (queue : ExecutionQueue) (program : Program)
    (bindings : List Binding) : Except (StartErrorKind θ ε) Unit := do
  let epoch := DriverQueue.epoch self.queue
  refuseIf (queue.handle.epoch ≠ epoch ∨ program.handle.epoch ≠ epoch) .staleHandle
  refuseIf (program.context ≠ some context ∨ bindings.isEmpty = true) .invalidArgument
  let info ← self.deviceInfo.elim (.error .discoveryRequired) .ok
  refuseIf (2 ^ 32 ≤ bindings.length) .deviceLimit
  refuseIf (info.maxBindingsPerSubmission < UInt32.ofNat bindings.length) .deviceLimit
  plainBindings epoch context bindings

/-- One round of the scan, when a look back that is left out would have found nothing. -/
theorem checkBindings_cons {binding : Binding}
    (fresh : canonical = true → binding.slot ∉ earlier.map Binding.slot) :
    (checkBindings epoch context canonical earlier (binding :: rest) : Except (StartErrorKind θ ε) Unit) =
      (bindingFault epoch context earlier binding).elim
        (checkBindings epoch context canonical (earlier ++ [binding]) rest) .error := by
  have looked : (canonical = false ∧ earlier.any (fun prior => prior.slot == binding.slot) = true) ↔
      binding.slot ∈ earlier.map Binding.slot := by
    have seen : earlier.any (fun prior => prior.slot == binding.slot) = true ↔
        binding.slot ∈ earlier.map Binding.slot := by
      simp
    cases canonical with
    | true => simpa using fresh rfl
    | false => simp
  rw [checkBindings, bindingFault]
  by_cases stale : binding.buffer.handle.epoch ≠ epoch
  · rw [if_pos stale, refuseIf, if_pos stale]
    rfl
  rw [if_neg stale, refuseIf, if_neg stale]
  simp only [looked]
  by_cases wrong : binding.buffer.context ≠ context ∨ ¬ BufferRange.fits binding.range binding.buffer.desc.bytes ∨
      ¬ usageAllows binding.buffer.desc.usage binding.access ∨ binding.slot ∈ earlier.map Binding.slot
  · rw [if_pos wrong, refuseIf, if_pos wrong]
    rfl
  rw [if_neg wrong, refuseIf, if_neg wrong]
  rfl

/-- The scan reports the first fault, with the shortcut and without. -/
theorem checkBindings_first (shortcut : canonical = true → ((earlier ++ rest).map Binding.slot).Nodup) :
    (checkBindings epoch context canonical earlier rest : Except (StartErrorKind θ ε) Unit) =
      ((rest.zipIdx earlier.length).findSome? fun (binding, position) =>
        bindingFault epoch context ((earlier ++ rest).take position) binding).elim (.ok ()) .error := by
  induction rest generalizing earlier with
  | nil => rfl
  | cons binding rest ih =>
    have split : earlier ++ binding :: rest = earlier ++ [binding] ++ rest := by simp
    have later := @ih (earlier ++ [binding]) (fun set => split ▸ shortcut set)
    have front : (earlier ++ binding :: rest).take earlier.length = earlier := take_left' rfl
    rw [checkBindings_cons, later, zipIdx_cons, findSome?_cons]
    · dsimp only
      rw [front, split, length_append]
      cases bindingFault epoch context earlier binding with
      | none | some fault => rfl
    · intro set listed
      have all := shortcut set
      rw [map_append, nodup_append] at all
      exact absurd rfl (all.2.2 _ listed _ (by simp))

theorem checkSubmit_eq_plain (client : GuestClient Q χ) (context : ObjectId) (queue : ExecutionQueue)
    (program : Program) (bindings : List Binding) :
    (client.checkSubmit context queue program bindings : Except (StartErrorKind θ ε) Unit) =
      client.checkSubmitPlain context queue program bindings := by
  have same : (checkBindings (DriverQueue.epoch client.queue) context
      (bindings.IsChain (fun left right => left.slot < right.slot))
        [] bindings : Except (StartErrorKind θ ε) Unit) =
      plainBindings (DriverQueue.epoch client.queue) context bindings :=
    checkBindings_first fun ascending => slots_nodup (of_decide_eq_true ascending)
  simp only [checkSubmit, checkSubmitPlain, same]

/-- Resolution keeps the slots, so that what the decoder sorted is still ascending. -/
theorem native_ascending {V : Handles} {resources : SubmissionResources (Owned V)}
    {bindings : List DecodedBinding} {native : List (BindingRef (Owned V .buffer))}
    (ascending : bindings.Pairwise (fun left right => left.slot < right.slot))
    (resolved : bindings.mapM (CommandProcessor.nativeBinding resources) = .ok native) :
    native.IsChain (fun left right => left.slot < right.slot) := by
  have slots : native.map BindingRef.slot = bindings.map DecodedBinding.slot := by
    rw [mapM_eq_ok] at resolved
    induction resolved with
    | nil => rfl
    | cons head _ ih =>
      simp only [CommandProcessor.nativeBinding, bind_eq_ok, pure_eq_ok] at head
      obtain ⟨_, _, _, _, _, _, rfl⟩ := head
      rw [map_cons, map_cons, ih (pairwise_cons.mp ascending).2]
  have sorted : (bindings.map DecodedBinding.slot).Pairwise (· < ·) := pairwise_map.mpr ascending
  rw [← slots] at sorted
  exact (pairwise_map.mp sorted).isChain

/-- The three checks agree: the one before admission accepts just the lists without a repeated slot, the guest's
shortcut changes no answer, and what the guest admits the decoder sorts into ascending slots that stay so. -/
theorem slot_checks_agree :
    (∀ (B : Type) (bindings : List (BindingRef B)) (maxBindings : UInt32),
      validateBindings bindings maxBindings = .ok () ↔
      bindings ≠ [] ∧ bindings.length ≤ maxBindings.toNat ∧ (bindings.map BindingRef.slot).Nodup) ∧
    (∀ (client : GuestClient Q χ) (context : ObjectId) (queue : ExecutionQueue) (program : Program)
      (bindings : List Binding),
      (client.checkSubmit context queue program bindings : Except (StartErrorKind θ ε) Unit) =
        client.checkSubmitPlain context queue program bindings) ∧
    ∀ (client : GuestClient Q χ) (context : ObjectId) (queue : ExecutionQueue) (program : Program)
      (bindings : List Binding),
      (client.checkSubmit context queue program bindings : Except (StartErrorKind θ ε) Unit) = .ok () →
      (sortBindings (bindings.map Binding.decoded)).IsChain (fun left right => left.slot ≠ right.slot) ∧
      ∀ (V : Handles) (resources : SubmissionResources (Owned V)) (native : List (BindingRef (Owned V .buffer))),
        (sortBindings (bindings.map Binding.decoded)).mapM (CommandProcessor.nativeBinding resources) = .ok native →
        native.IsChain (fun left right => left.slot < right.slot) ∧
        ∀ known, client.deviceInfo = some known →
          validateBindings native known.maxBindingsPerSubmission = .ok () := by
  refine ⟨fun B bindings maxBindings => validateBindings_eq_ok, checkSubmit_eq_plain, ?_⟩
  intro client context queue program bindings admitted
  obtain ⟨listed, distinct, known, found, few⟩ := checkSubmit_eq_ok admitted
  have compared : (sortBindings (bindings.map Binding.decoded)).IsChain (fun left right =>
      left.slot ≠ right.slot) := by
    rw [sortBindings_isChain, map_map]
    exact distinct
  refine ⟨compared, fun V resources native resolved => ?_⟩
  have ascending := native_ascending (sortBindings_ascending compared) resolved
  refine ⟨ascending, fun known' found' => validateBindings_eq_ok.mpr ?_⟩
  cases found.symm.trans found'
  have length : native.length = bindings.length := by
    rw [← (mapM_eq_ok.mp resolved).length_eq, sortBindings, length_insertionSort, length_map]
  refine ⟨length_pos_iff.mp ?_, by rw [length]; exact few, slots_nodup ascending⟩
  rw [length]
  exact length_pos_iff.mpr listed

end VirtioAccel.Guest.GuestClient
