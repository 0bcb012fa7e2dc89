import VirtioAccel.Device.StateBudgets

/-! A provider that writes down what it returns. -/

namespace VirtioAccel

/-- A provider call that also writes down the name of what it returned. -/
def logged {ω ε κ X : Type} (name : X → κ) (create : ω → Except ε X × ω) (current : ω × List κ) :
    Except ε X × ω × List κ :=
  match create current.1 with
  | (.ok made, w) => (.ok made, w, current.2 ++ [name made])
  | (.error error, w) => (.error error, w, current.2)

section logged
variable {ω ε κ X : Type} {name : X → κ} {create : ω → Except ε X × ω} {current : ω × List κ}

theorem logged_ok {made : X} (returned : (logged name create current).1 = .ok made) :
    (logged name create current).2.2 = current.2 ++ [name made] := by
  unfold logged at returned ⊢
  split at returned
  · cases returned
    rfl
  · cases returned

theorem logged_error {error : ε} (failed : (logged name create current).1 = .error error) :
    (logged name create current).2.2 = current.2 := by
  unfold logged at failed ⊢
  split at failed
  · cases failed
  · rfl

end logged

namespace DeviceState
variable {A : Handles} {ω ε κ : Type} {s s' : DeviceState A} {kind : ObjectKind} {id : ObjectId}
variable {X : Type}

/-- The operation with a provider that keeps a record of the handles it returns. -/
def Operation.logged (key : ∀ kind, A kind → κ) : Operation A ω ε → Operation A (ω × List κ) ε
  | .createContext reserve create => .createContext reserve (VirtioAccel.logged (key .context) create)
  | .createBuffer reserve contextId desc create => .createBuffer reserve contextId desc
      (fun context desc => VirtioAccel.logged (fun made => key .buffer made.1) (create context desc))
  | .createProgram reserve contextId artifactBytes residentBytes create =>
    .createProgram reserve contextId artifactBytes residentBytes
      (fun context => VirtioAccel.logged (key .program) (create context))
  | .createQueue reserve contextId create =>
    .createQueue reserve contextId (fun context => VirtioAccel.logged (key .queue) (create context))
  | .createEvent reserve queueId programId bufferIds create =>
    .createEvent reserve queueId programId bufferIds
      (fun resources => VirtioAccel.logged (key .event) (create resources))
  | .createEventSequence reserve queueId programIds bufferIds create =>
    .createEventSequence reserve queueId programIds bufferIds
      (fun resources => VirtioAccel.logged (key .event) (create resources))
  | .beginRelease kind id => .beginRelease kind id
  | .restoreRelease kind id handle => .restoreRelease kind id handle
  | .commitRelease kind id => .commitRelease kind id
  | .writeBuffer id buffer => .writeBuffer id buffer

/-! The record changes nothing else. -/

def unlogged {α : Type} (result : α × DeviceState A × ω × List κ) : α × DeviceState A × ω :=
  (result.1, result.2.1, result.2.2.1)

section
variable {reserve : Bool} {contextId queueId : ObjectId} {programIds bufferIds : List ObjectId} {w : ω}
variable {log : List κ} {name : X → κ} {named : A .event → κ}

theorem createContextWith_logged {name : A .context → κ} {create : ω → Except ε (A .context) × ω} :
    unlogged (s.createContextWith reserve (logged name create) (w, log)) =
    s.createContextWith reserve create w := by
  unfold createContextWith logged
  split
  · rfl
  split
  · rfl
  rcases create w with ⟨_ | _, _⟩ <;> rfl

theorem createChildWith_logged (child : ObjectKind) (limit : UInt32) (create : A .context → ω → Except ε X × ω)
    (adopt : X → Record A child × RetainedBytes) :
    unlogged (s.createChildWith child limit reserve contextId (fun context => logged name (create context)) adopt
      (w, log)) = s.createChildWith child limit reserve contextId create adopt w := by
  unfold createChildWith logged
  split
  · rfl
  rename_i context _
  dsimp only
  rcases create context w with ⟨_ | _, _⟩ <;> rfl

theorem createEventFrom_logged {admitted : Except DeviceStateError ObjectId}
    {resolve : DeviceState A → ObjectId → Except DeviceStateError X} {create : X → ω → Except ε (A .event) × ω}
    {record : A .event → ObjectId → EventRecord A} :
    unlogged (s.createEventFrom admitted queueId programIds bufferIds resolve
      (fun resources => logged named (create resources)) record (w, log)) =
      s.createEventFrom admitted queueId programIds bufferIds resolve create record w := by
  unfold createEventFrom logged
  iterate 3
    split
    · rfl
  rename_i resources _
  dsimp only
  rcases create resources w with ⟨_ | _, _⟩
  · dsimp only
    split <;> rfl
  · rfl

theorem createBufferWith_logged {desc : BufferDesc} {name : A .buffer × BufferInfo → κ}
    {create : A .context → BufferDesc → ω → Except ε (A .buffer × BufferInfo) × ω} :
    unlogged (s.createBufferWith reserve contextId desc (fun context desc => logged name (create context desc))
      (w, log)) = s.createBufferWith reserve contextId desc create w := by
  unfold createBufferWith
  dsimp only
  split
  · rfl
  split
  · rfl
  rw [← createChildWith_logged .buffer s.limits.maxBuffersPerContext (fun context => create context desc) _]
  split <;> rename_i done <;> rw [done] <;> simp only [unlogged]
  split
  · rfl
  split <;> rfl

theorem createProgramWith_logged {artifactBytes residentBytes : UInt64} {name : A .program → κ}
    {create : A .context → ω → Except ε (A .program) × ω} :
    unlogged (s.createProgramWith reserve contextId artifactBytes residentBytes
      (fun context => logged name (create context)) (w, log)) =
      s.createProgramWith reserve contextId artifactBytes residentBytes create w := by
  unfold createProgramWith
  dsimp only
  iterate 3
    split
    · rfl
  rw [← createChildWith_logged .program s.limits.maxProgramsPerContext create _]
  split <;> rename_i done <;> rw [done] <;> simp only [unlogged]

theorem createQueueWith_logged {name : A .queue → κ} {create : A .context → ω → Except ε (A .queue) × ω} :
    unlogged (s.createQueueWith reserve contextId (fun context => logged name (create context)) (w, log)) =
      s.createQueueWith reserve contextId create w := by
  unfold createQueueWith
  rw [← createChildWith_logged .queue s.limits.maxQueuesPerContext create _]
  split <;> rename_i done <;> rw [done] <;> simp only [unlogged]

theorem createEventWith_logged {programId : ObjectId}
    {create : SubmissionResources A → ω → Except ε (A .event) × ω} :
    unlogged (s.createEventWith reserve queueId programId bufferIds
      (fun resources => logged named (create resources)) (w, log)) =
      s.createEventWith reserve queueId programId bufferIds create w := by
  unfold createEventWith
  split
  · rfl
  split
  · rfl
  exact createEventFrom_logged

theorem createEventSequenceWith_logged {create : SubmissionSequenceResources A → ω → Except ε (A .event) × ω} :
    unlogged (s.createEventSequenceWith reserve queueId programIds bufferIds
      (fun resources => logged named (create resources)) (w, log)) =
      s.createEventSequenceWith reserve queueId programIds bufferIds create w := by
  unfold createEventSequenceWith
  split
  · rfl
  split
  · rfl
  exact createEventFrom_logged

end

theorem step_logged (key : ∀ kind, A kind → κ) (s : DeviceState A) (w : ω) (log : List κ)
    (operation : Operation A ω ε) :
    ∃ log', step (s, w, log) (operation.logged key) =
      ((step (s, w) operation).1, (step (s, w) operation).2, log') := by
  have of_unlogged : ∀ {α : Type} {result : α × DeviceState A × ω × List κ} {plain : α × DeviceState A × ω},
      unlogged result = plain → ∃ log', result.2 = (plain.2.1, plain.2.2, log') := by
    rintro α result plain rfl
    exact ⟨result.2.2.2, rfl⟩
  cases operation with
  | createContext => exact of_unlogged createContextWith_logged
  | createBuffer => exact of_unlogged createBufferWith_logged
  | createProgram => exact of_unlogged createProgramWith_logged
  | createQueue => exact of_unlogged createQueueWith_logged
  | createEvent => exact of_unlogged createEventWith_logged
  | createEventSequence => exact of_unlogged createEventSequenceWith_logged
  | beginRelease | restoreRelease | commitRelease | writeBuffer => exact ⟨log, rfl⟩

theorem run_logged (key : ∀ kind, A kind → κ) (s : DeviceState A) (w : ω) (log : List κ)
    (operations : List (Operation A ω ε)) :
    (run (s, w, log) (operations.map (Operation.logged key))).1 = (run (s, w) operations).1 := by
  induction operations generalizing s w log with
  | nil => rfl
  | cons operation rest ih =>
    obtain ⟨log', stepped⟩ := step_logged key s w log operation
    change (run (step (s, w, log) (operation.logged key)) _).1 = (run (step (s, w) operation) rest).1
    rw [stepped]
    exact ih _ _ _

/-- A creation that fails writes nothing down; one that succeeds, the name of what it made. -/
theorem Creation.logged {α Y : Type} {given : α → Prop} {kept : DeviceState A → Prop}
    {stored : α → X → Y → DeviceState A → Prop} {name : X → κ} {create : α → ω → Except ε X × ω} {w : ω}
    {log : List κ} {result : Except (CreateError ε) Y × DeviceState A × ω × List κ}
    (outcome : Creation s given kept stored (fun arg => logged name (create arg)) (w, log) result) :
    (result.2.2.2 = log ∧ ∃ error, result.1 = .error error) ∨
    ∃ arg made answer, stored arg made answer result.2.1 ∧ result.2.2.2 = log ++ [name made] := by
  rcases outcome with ⟨error, done⟩ | ⟨arg, _, ⟨error, _, failed, _, done⟩ | ⟨made, answer, _, returned, held,
    done⟩⟩ <;> rw [done]
  · exact .inl ⟨rfl, _, rfl⟩
  · exact .inl ⟨logged_error failed, _, rfl⟩
  · exact .inr ⟨arg, made, answer, held, logged_ok returned⟩

/-- A creation leaves the state alone and nothing is written down, or one object
joins and the name of its handle is. -/
theorem step_logged_cases (key : ∀ kind, A kind → κ) (graph : s.Consistent) (w : ω) (log : List κ)
    (operation : Operation A ω ε) :
    ((step (s, w, log) (operation.logged key)).2.2 = log ∧
      ((operation.logged key).creates = none ∨ (operation.logged key).Fails s (w, log))) ∨
    ∃ kind id record handle, (operation.logged key).creates = some kind ∧
      Gains s (step (s, w, log) (operation.logged key)).1 kind id record ∧
      record.resource = ResourceSlot.new handle ∧
      (step (s, w, log) (operation.logged key)).2.2 = log ++ [key kind handle] := by
  cases operation with
  | createContext reserve create =>
    rcases (createContextWith_cases graph reserve (logged (key .context) create) (w, log)).logged with
      ⟨same, failed⟩ | ⟨_, handle, id, ⟨_, opens⟩, grown⟩
    · exact .inl ⟨same, .inr failed⟩
    · exact .inr ⟨.context, id, _, handle, rfl, .context opens, rfl, grown⟩
  | createBuffer reserve contextId desc create =>
    rcases (createBufferWith_cases graph reserve contextId desc
      (fun context desc => logged (fun made => key .buffer made.1) (create context desc)) (w, log)).logged with
      ⟨same, failed⟩ | ⟨_, made, _, ⟨_, id, _, adopts, _⟩, grown⟩
    · exact .inl ⟨same, .inr failed⟩
    · exact .inr ⟨.buffer, id, _, made.1, rfl, .child adopts, rfl, grown⟩
  | createProgram reserve contextId artifactBytes residentBytes create =>
    rcases (createProgramWith_cases graph reserve contextId artifactBytes residentBytes
      (fun context => logged (key .program) (create context)) (w, log)).logged with
      ⟨same, failed⟩ | ⟨_, handle, id, ⟨_, _, _, adopts⟩, grown⟩
    · exact .inl ⟨same, .inr failed⟩
    · exact .inr ⟨.program, id, _, handle, rfl, .child adopts, rfl, grown⟩
  | createQueue reserve contextId create =>
    rcases (createQueueWith_cases graph reserve contextId
      (fun context => logged (key .queue) (create context)) (w, log)).logged with
      ⟨same, failed⟩ | ⟨_, handle, id, ⟨_, _, adopts⟩, grown⟩
    · exact .inl ⟨same, .inr failed⟩
    · exact .inr ⟨.queue, id, _, handle, rfl, .child adopts, rfl, grown⟩
  | createEvent reserve queueId programId bufferIds create =>
    rcases (createEventWith_cases graph reserve queueId programId bufferIds
      (fun resources => logged (key .event) (create resources)) (w, log)).logged with
      ⟨same, failed⟩ | ⟨_, handle, id, ⟨_, _, _, adopts⟩, grown⟩
    · exact .inl ⟨same, .inr failed⟩
    · exact .inr ⟨.event, id, _, handle, rfl, .child adopts, rfl, grown⟩
  | createEventSequence reserve queueId programIds bufferIds create =>
    rcases (createEventSequenceWith_cases graph reserve queueId programIds bufferIds
      (fun resources => logged (key .event) (create resources)) (w, log)).logged with
      ⟨same, failed⟩ | ⟨_, handle, id, ⟨_, _, _, held, _, _, adopts⟩, grown⟩
    · exact .inl ⟨same, .inr failed⟩
    · exact .inr ⟨.event, id, _, handle, rfl, .child adopts, held, grown⟩
  | beginRelease | restoreRelease | commitRelease | writeBuffer => exact .inl ⟨rfl, .inl rfl⟩

end DeviceState

end VirtioAccel
