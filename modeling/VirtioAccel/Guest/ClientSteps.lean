import VirtioAccel.Guest.Completions

/-! What each call of the client does to its slots, its queue and the chain. -/

namespace VirtioAccel.Guest
open List FrameWriter
variable {T : Type}

section Writers
variable {χ ε : Type} [DriverChainBuffer χ ε]

/-- The second chain is the first one with bytes written into its readable part. -/
inductive Written : χ → χ → Prop where
  | refl (chain : χ) : Written chain chain
  | write {before after : χ} (written : Written before after) (offset : UInt64) (data : List UInt8) :
    Written before (DriverChainBuffer.writeDeviceReadable after offset data).2

theorem Written.trans {first second third : χ} (before : Written first second) (after : Written second third) :
    Written first third := by
  induction after with
  | refl => exact before
  | write _ offset data ih => exact ih.write offset data

/-- A writer that only writes. -/
def FrameWriter.Writes (writer : FrameWriter χ ε) : Prop := ∀ chain, Written chain (writer chain).2

theorem writes_done : Writes (done : FrameWriter χ ε) := .refl

theorem FrameWriter.Writes.andThen {first second : FrameWriter χ ε} (before : Writes first)
    (after : Writes second) :
    Writes (andThen first second) := by
  intro chain
  have wrote := before chain
  unfold FrameWriter.andThen
  split
  · rename_i middle first
    rw [first] at wrote
    exact wrote
  · rename_i middle first
    rw [first] at wrote
    exact wrote.trans (after middle)

variable {offset : UInt64} {source : ReadableBytes}

theorem writes_writeBytes {data : List UInt8} : Writes (writeBytes offset data : FrameWriter χ ε) :=
  fun chain => .write (.refl chain) offset data

theorem writes_writeWire {codec : Codec T} {value : T} :
    Writes (writeWire offset codec value : FrameWriter χ ε) := writes_writeBytes

theorem writes_copyChunks {left copied : Nat} :
    Writes (copyChunks offset source left copied : FrameWriter χ ε) := by
  induction left using Nat.strongRecOn generalizing copied with
  | ind left ih =>
    cases left with
    | zero =>
      rw [copyChunks]
      exact writes_done
    | succ left =>
      intro chain
      rw [copyChunks]
      dsimp only
      split
      · exact .refl chain
      refine Writes.andThen writes_writeBytes (ih _ ?_) chain
      simp only [copyScratchBytes]
      omega

theorem writes_copySource : Writes (copySource offset source : FrameWriter χ ε) := by
  unfold copySource
  split
  · exact writes_writeBytes
  · exact writes_copyChunks

theorem writes_writeBindings {bindings : List Binding} :
    Writes (writeBindings bindings offset : FrameWriter χ ε) := by
  induction bindings generalizing offset with
  | nil => exact writes_done
  | cons binding rest ih => exact writes_writeWire.andThen ih

end Writers

section Slots
variable {χ : Type}
variable {slots : List (Slot χ)}
variable {id : ChainId}

theorem Slot.position_eq_some {index : Nat} {requestId : UInt64}
    (found : Slot.position id slots = some (index, requestId)) : slots[index]? = some (.inFlight requestId id) := by
  induction slots generalizing index with
  | nil => cases found
  | cons slot rest ih =>
    unfold Slot.position at found
    split at found
    · rename_i requestId' awaits
      cases found
      cases slot with
      | inFlight request chainId =>
        simp only [Slot.awaits] at awaits
        split at awaits
        · rename_i same
          cases awaits
          rw [same]
          rfl
        · cases awaits
      | _ => cases awaits
    · obtain ⟨⟨place, request⟩, later, same⟩ := Option.map_eq_some_iff.mp found
      cases same
      exact ih later

theorem Slot.position_eq_none (missing : Slot.position id slots = none) (requestId : UInt64) :
    .inFlight requestId id ∉ slots := by
  induction slots with
  | nil => exact not_mem_nil
  | cons slot rest ih =>
    unfold Slot.position at missing
    split at missing
    · cases missing
    rename_i other
    intro member
    rcases mem_cons.mp member with rfl | later
    · simp [Slot.awaits] at other
    · exact ih (Option.map_eq_none_iff.mp missing) later

/-- The chain that is taken out leaves its slot, the first of its kind, vacant. -/
theorem GuestClient.takeRecovered_eq_some {slots' : List (Slot χ)} {used : UsedChain χ}
    (taken : takeRecovered slots = some (used, slots')) :
    ∃ index, slots[index]? = some (.recovered used) ∧ slots' = slots.set index .vacant := by
  induction slots generalizing slots' with
  | nil => cases taken
  | cons slot rest ih =>
    cases slot with
    | recovered kept =>
      cases taken
      exact ⟨0, rfl, rfl⟩
    | _ =>
      obtain ⟨⟨_, slots''⟩, found, same⟩ := Option.map_eq_some_iff.mp taken
      cases same
      obtain ⟨index, atIndex, rfl⟩ := ih found
      exact ⟨index + 1, atIndex, rfl⟩

end Slots

theorem ClientHealth.eq_running {health : ClientHealth} (usable : health ≠ .needsReset) : health = .running := by
  cases health with
  | running => rfl
  | needsReset => exact absurd rfl usable

/-- A refusal that has to do neither with the identifiers nor with the queue. -/
def StartErrorKind.Early {θ ε : Type} : StartErrorKind θ ε → Prop
  | .requestIdExhausted | .publish _ => False
  | _ => True

namespace GuestClient
open Checked (FailsAs)

section Start
variable {Q χ ε θ : Type} [DriverChainBuffer χ ε] [DriverQueue Q χ θ] {client : GuestClient Q χ} {chain : χ}
variable {operation : Operation} {payloadBytes responseBytes : UInt64}

/-- What a start method comes to. The next candidate for an identifier may have moved on. -/
inductive Started (client : GuestClient Q χ) (chain : χ) : StartResult Q χ θ ε → Prop where
  | refused {chain' operation kind next} (written : Written chain chain') (early : kind.Early) :
    Started client chain (.error ⟨chain', operation, kind⟩, { client with nextRequestId := next })
  | exhausted {operation next}
      (none : (searchRequestId client.slots (client.slots.length + 1) client.nextRequestId).1 = none) :
    Started client chain (.error ⟨chain, operation, .requestIdExhausted⟩, { client with nextRequestId := next })
  | unpublished {chain' back operation kind queue next} (written : Written chain chain')
      (publish : DriverQueue.publish client.queue chain' = (.error (back, kind), queue))
        (running : client.health = .running) :
    Started client chain (.error ⟨back, operation, .publish kind⟩, { client with queue, nextRequestId := next })
  | published {chain' id queue slot requestId operation reserved next} (written : Written chain chain')
      (publish : DriverQueue.publish client.queue chain' = (.ok id, queue)) (running : client.health = .running)
      (vacant : client.slots[slot]? = some .vacant)
      (found : (searchRequestId client.slots (client.slots.length + 1) client.nextRequestId).1 = some requestId) :
    Started client chain (.ok ⟨⟨slot, requestId, id.epoch, operation⟩, chain', reserved⟩,
      { client with queue, slots := client.slots.set slot (.inFlight requestId id), nextRequestId := next })

omit [DriverQueue Q χ θ] in
theorem checkFrame_vacant {slot : Nat}
    (checked : (client.checkFrame chain operation payloadBytes responseBytes : Except (StartErrorKind θ ε) Nat) =
      .ok slot) :
    client.health = .running ∧ client.slots[slot]? = some .vacant := by
  simp only [checkFrame, Checked.bind_eq_ok, Checked.refuseIf_eq_ok, Checked.pure_eq_ok] at checked
  obtain ⟨_, healthy, _, _, place, found, _, _, _, _, _, _, _, _, rfl⟩ := checked
  constructor
  · exact ClientHealth.eq_running healthy
  cases search : client.slots.findIdx? Slot.isVacant with
  | none =>
    rw [search] at found
    cases found
  | some index =>
    rw [search] at found
    cases found
    obtain ⟨inside, isVacant, _⟩ := findIdx?_eq_some_iff_getElem.mp search
    rw [getElem?_eq_getElem inside]
    cases content : client.slots[place] with
    | vacant => rfl
    | _ =>
      rw [content] at isVacant
      cases isVacant

omit [DriverQueue Q χ θ] in
theorem checkFrame_early :
    FailsAs StartErrorKind.Early
      (client.checkFrame chain operation payloadBytes responseBytes : Except (StartErrorKind θ ε) Nat) := by
  refine .check trivial <| .check trivial <| .bind ?_ fun _ => .check trivial <| .check trivial <|
    .check trivial <| .check trivial <| .ok _
  cases client.slots.findIdx? Slot.isVacant with
  | none => exact .error trivial
  | some slot => exact .ok slot

theorem startFrame_started {writer : FrameWriter χ ε} (writes : writer.Writes) :
    Started client chain (client.startFrame chain operation payloadBytes responseBytes writer) := by
  unfold startFrame
  split
  · rename_i kind checked
    exact .refused (.refl chain) (checkFrame_early.sort checked)
  rename_i slot checked
  obtain ⟨running, vacant⟩ := checkFrame_vacant checked
  split
  · rename_i client' allocated
    obtain ⟨none, rfl⟩ := Prod.mk.inj allocated
    exact .exhausted none
  rename_i requestId client' allocated
  obtain ⟨found, rfl⟩ := Prod.mk.inj allocated
  dsimp only
  have header : Writes (writeWire 0 RequestHeader.codec
    (RequestHeader.new operation.opcode payloadBytes.toUInt32 requestId) : FrameWriter χ ε) := writes_writeWire
  have wrote := header.andThen writes chain
  split
  · rename_i error chain' failed
    rw [failed] at wrote
    refine .refused wrote ?_
    cases error <;> trivial
  · rename_i chain' done
    rw [done] at wrote
    split
    · rename_i back kind queue refused
      exact .unpublished wrote refused running
    rename_i id queue accepted
    exact .published wrote accepted running vacant found

theorem startFailure_started {kind : StartErrorKind θ ε} (early : kind.Early) :
    Started client chain (client.startFailure chain operation kind) := .refused (.refl chain) early

theorem startWire_started {codec : Codec T} {value : T} :
    Started client chain (client.startWire chain operation codec value responseBytes) :=
  startFrame_started writes_writeWire

theorem startObject_started {handle : Handle} :
    Started client chain (client.startObject chain operation handle responseBytes) := by
  unfold startObject
  split
  · exact startFailure_started trivial
  · exact startWire_started

variable {copy : FrameWriter χ ε}

theorem startWrite_started {buffer : Buffer} {range : BufferRange} (writes : copy.Writes) :
    Started client chain (client.startWrite chain buffer range copy) := by
  unfold startWrite
  split
  · exact startFailure_started trivial
  split
  · exact startFailure_started trivial
  · exact startFrame_started (writes_writeWire.andThen writes)

theorem startLoad_started {context : Context} {desc : ProgramDesc} {artifactBytes : UInt64} (writes : copy.Writes) :
    Started client chain (client.startLoad chain context desc artifactBytes copy) := by
  unfold startLoad
  iterate 4
    split
    · exact startFailure_started trivial
  · exact startFrame_started (writes_writeWire.andThen writes)

omit [DriverChainBuffer χ ε] [DriverQueue Q χ θ] in
theorem checkBindings_early {epoch : QueueEpoch} {context : ObjectId} {canonical : Bool}
    {earlier rest : List Binding} :
    FailsAs StartErrorKind.Early
      (checkBindings epoch context canonical earlier rest : Except (StartErrorKind θ ε) Unit) := by
  induction rest generalizing earlier with
  | nil => exact .ok ()
  | cons binding rest ih => exact .check trivial <| .check trivial ih

omit [DriverChainBuffer χ ε] in
theorem checkSubmit_early {context : ObjectId} {queue : ExecutionQueue} {program : Program}
    {bindings : List Binding} :
    FailsAs StartErrorKind.Early
    (client.checkSubmit context queue program bindings : Except (StartErrorKind θ ε) Unit) := by
  refine .check trivial <| .check trivial <| .bind ?_ fun _ => .check trivial <| .check trivial checkBindings_early
  cases client.deviceInfo with
  | none => exact .error trivial
  | some info => exact .ok info

theorem submit_started {queue : ExecutionQueue} {retained : queue.context.isSome = true} {program : Program}
    {bindings : List Binding} {timeoutNs : UInt64} :
    Started client chain (client.submit chain queue retained program bindings timeoutNs) := by
  unfold submit
  dsimp only
  split
  · rename_i kind refused
    exact startFailure_started (checkSubmit_early.sort refused)
  · exact startFrame_started (writes_writeWire.andThen writes_writeBindings)

/-- Every start method ends in one of these ways. -/
theorem start_started (client : GuestClient Q χ) (chain : χ) (start : Start) :
    Started client chain (client.start chain start) := by
  cases start with
  | getDeviceInfo => exact startFrame_started writes_done
  | createContext => exact startWire_started
  | allocateBuffer context desc =>
    unfold start allocateBuffer
    dsimp only
    iterate 3
      split
      · exact startFailure_started trivial
    · exact startWire_started
  | writeBuffer buffer offset source =>
    unfold start writeBuffer
    dsimp only
    split
    · exact startFailure_started trivial
    split
    · exact startFailure_started trivial
    · exact startWrite_started writes_copySource
  | writeBufferPrepared buffer range =>
    unfold start writeBufferPrepared
    dsimp only
    split
    · exact startFailure_started trivial
    · exact startWrite_started writes_done
  | readBuffer buffer range =>
    unfold start readBuffer
    dsimp only
    iterate 3
      split
      · exact startFailure_started trivial
    · exact startWire_started
  | loadProgram context desc artifact => exact startLoad_started writes_copySource
  | loadProgramPrepared context desc artifactBytes => exact startLoad_started writes_done
  | createExecutionQueue context =>
    unfold start createExecutionQueue
    dsimp only
    split
    · exact startFailure_started trivial
    · exact startWire_started
  | submit queue retained program bindings timeoutNs => exact submit_started
  | _ => exact startObject_started

end Start

section Poll
variable {Q χ ε θ : Type} [DriverChainBuffer χ ε] [CompletionQueue Q χ θ]

omit [DriverChainBuffer χ ε] in
theorem new_eq_ok {reserve : Bool} {queue : Q} {config : GuestConfig} {client : GuestClient Q χ}
    (made : new reserve queue config = .ok client) :
    config.validateQueue (CompletionQueue.state queue) = .ok () ∧
    client = ⟨queue, config, none, replicate config.maxInflight.toNat .vacant, 1, .running, none⟩ := by
  unfold new at made
  split at made
  · cases made
  rename_i valid
  split at made
  · cases made
  cases made
  exact ⟨valid, rfl⟩

/-- What a pump does with the used chain it gets, if it gets one. -/
inductive Pumped (client : GuestClient Q χ) : Except (QueueError θ) PumpResult × GuestClient Q χ → Prop where
  | halted (lost : client.health = .needsReset) : Pumped client (.ok .needsReset, client)
  | failed {error queue} (running : client.health = .running)
      (pop : CompletionQueue.popUsed client.queue = (.error error, queue)) :
    Pumped client (.error error, { client with queue })
  | idle {queue} (running : client.health = .running)
      (pop : CompletionQueue.popUsed client.queue = (.ok none, queue)) :
    Pumped client (.ok .idle, { client with queue })
  | unexpected {used queue} (running : client.health = .running)
      (pop : CompletionQueue.popUsed client.queue = (.ok (some used), queue))
      (unknown : ∀ requestId, .inFlight requestId used.id ∉ client.slots) :
    Pumped client (.ok .unexpectedCompletion, { client with queue, unexpected := some used, health := .needsReset })
  | completed {used queue index requestId} (running : client.health = .running)
      (pop : CompletionQueue.popUsed client.queue = (.ok (some used), queue))
      (awaiting : client.slots[index]? = some (.inFlight requestId used.id)) :
    Pumped client (.ok (.completion requestId),
      { client with queue, slots := client.slots.set index (.completed requestId used) })

omit [DriverChainBuffer χ ε] in
theorem pump_pumped (client : GuestClient Q χ) : Pumped client client.pump := by
  unfold pump
  by_cases lost : client.health = .needsReset
  · rw [if_pos lost]
    exact .halted lost
  have running := ClientHealth.eq_running lost
  rw [if_neg lost]
  split
  · rename_i error queue pop
    exact .failed running pop
  · rename_i queue pop
    exact .idle running pop
  · rename_i used queue pop
    split
    · rename_i missing
      exact .unexpected running pop (Slot.position_eq_none missing)
    rename_i index requestId found
    exact .completed running pop (Slot.position_eq_some found)

/-- A decoded completion gives its chain back, and may change what the client knows of the device. -/
theorem decodeCompletion_spec (client : GuestClient Q χ) (pending : Pending) (used : UsedChain χ) :
    (client.decodeCompletion pending used).1.chain = used.chain ∧
    ∃ health deviceInfo, (client.decodeCompletion pending used).2 = { client with health, deviceInfo } := by
  unfold decodeCompletion
  split
  · exact ⟨rfl, _, _, rfl⟩
  · exact ⟨rfl, _, _, rfl⟩
  · exact ⟨rfl, _, _, rfl⟩

/-- The poll of a request in flight pumps. -/
structure Pumps (client : GuestClient Q χ) (pending : Pending) : Prop where
  running : client.health = .running
  current : pending.epoch = DriverQueue.epoch client.queue
  matching : client.pendingMatches pending = true
  inFlight : (client.slots[pending.slot]?).any Slot.isInFlight = true

/-- A poll ends with the completion of its own request, or gives nothing back. -/
inductive Polled (client : GuestClient Q χ) (pending : Pending) :
    RequestPoll χ θ ε pending.operation × GuestClient Q χ → Prop where
  | kept {reply} (waits : ∀ completion, reply ≠ .ready completion)
      (settled : ¬ Pumps client pending) : Polled client pending (reply, client)
  | pumped {reply result client'} (pumps : Pumps client pending) (waits : ∀ completion, reply ≠ .ready completion)
      (pumped : Pumped client (result, client')) : Polled client pending (reply, client')
  | ready {used} (settled : ¬ Pumps client pending) (current : pending.epoch = DriverQueue.epoch client.queue)
      (found : client.slots[pending.slot]? = some (.completed pending.requestId used)) :
    Polled client pending
      (.ready (decodeCompletion { client with slots := client.slots.set pending.slot .vacant } pending used).1,
        (decodeCompletion { client with slots := client.slots.set pending.slot .vacant } pending used).2)
  | pumpedReady {result client' used} (pumps : Pumps client pending) (pumped : Pumped client (result, client'))
      (found : client'.slots[pending.slot]? = some (.completed pending.requestId used)) :
    Polled client pending
      (.ready (decodeCompletion { client' with slots := client'.slots.set pending.slot .vacant } pending used).1,
        (decodeCompletion { client' with slots := client'.slots.set pending.slot .vacant } pending used).2)

/-- A poll waits, fails or empties its slot. -/
theorem poll_polled (client : GuestClient Q χ) (pending : Pending) :
    Polled client pending (client.poll pending) := by
  unfold poll
  by_cases current : pending.epoch = DriverQueue.epoch client.queue
  swap
  · rw [if_pos current]
    exact .kept nofun (fun pumps => current pumps.current)
  rw [if_neg (not_not.mpr current)]
  by_cases lost : client.health = .needsReset
  · rw [if_pos lost]
    exact .kept nofun (fun pumps => nomatch lost.symm.trans pumps.running)
  rw [if_neg lost]
  have running := ClientHealth.eq_running lost
  by_cases matching : client.pendingMatches pending = true
  swap
  · rw [if_pos matching]
    exact .kept nofun (fun pumps => matching pumps.matching)
  rw [if_neg (not_not.mpr matching), pumpFor]
  by_cases inFlight : (client.slots[pending.slot]?).any Slot.isInFlight = true
  · have pumps : Pumps client pending := ⟨running, current, matching, inFlight⟩
    have pumped := pump_pumped client
    rw [if_pos inFlight]
    generalize client.pump = result at pumped
    obtain ⟨result, client'⟩ := result
    split <;> rename_i same <;> cases same
    iterate 3
      · exact .pumped pumps nofun pumped
    all_goals
      split
      · rename_i requestId used found
        split
        · exact .pumped pumps nofun pumped
        rename_i same
        rw [not_not.mp same] at found
        exact .pumpedReady pumps pumped found
      · exact .pumped pumps nofun pumped
  · have settled : ¬ Pumps client pending := fun pumps => inFlight pumps.inFlight
    rw [if_neg inFlight]
    dsimp only
    split
    · rename_i requestId used found
      split
      · exact .kept nofun settled
      rename_i same
      rw [not_not.mp same] at found
      exact .ready settled current found
    · exact .kept nofun settled

end Poll

end GuestClient

end VirtioAccel.Guest
