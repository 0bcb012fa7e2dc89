import VirtioAccel.Device.OwnershipShifts

namespace VirtioAccel
open ObjectTable
variable {A : Handles} {ω ε : Type}
variable {R : Type} {slot : ResourceSlot R}
variable {resource : R}

@[simp] theorem ResourceSlot.get_eq_ok : slot.get = .ok resource ↔ slot.resource = some resource := by
  unfold get
  cases slot.resource <;> simp

theorem ResourceSlot.live_of_resource (held : slot.resource = some resource) : slot.release = .live :=
  slot.consistent.mp (by rw [held]; rfl)

theorem ResourceSlot.resource_of_live (live : slot.release = .live) : ∃ resource, slot.resource = some resource :=
  Option.isSome_iff_exists.mp (slot.consistent.mpr live)

theorem ResourceSlot.eq_new {handle : R} (held : slot.resource = some handle) : slot = ResourceSlot.new handle := by
  have live := live_of_resource held
  obtain ⟨resource, release, _⟩ := slot
  cases held
  cases live
  rfl

theorem ResourceSlot.resource_of_releasing (releasing : slot.release = .releasing) : slot.resource = none := by
  cases held : slot.resource with
  | none => rfl
  | some handle => exact nomatch (live_of_resource held).symm.trans releasing

namespace DeviceState
variable {s : DeviceState A}
variable {id : ObjectId}
variable {child : ObjectKind} {contextId : ObjectId}

@[simp] theorem contextRecord_eq_ok {record : ContextRecord A} :
    s.contextRecord id = .ok record ↔ s.contexts.lookup id = some record := by
  simp [contextRecord, get_eq_ok_iff]

@[simp] theorem bufferRecord_eq_ok {record : BufferRecord A} :
    s.bufferRecord id = .ok record ↔ s.buffers.lookup id = some record := by
  simp [bufferRecord, get_eq_ok_iff]

@[simp] theorem programRecord_eq_ok {record : ProgramRecord A} :
    s.programRecord id = .ok record ↔ s.programs.lookup id = some record := by
  simp [programRecord, get_eq_ok_iff]

@[simp] theorem queueRecord_eq_ok {record : QueueRecord A} :
    s.queueRecord id = .ok record ↔ s.queues.lookup id = some record := by
  simp [queueRecord, get_eq_ok_iff]

@[simp] theorem eventRecord_eq_ok {record : EventRecord A} :
    s.eventRecord id = .ok record ↔ s.events.lookup id = some record := by
  simp [eventRecord, get_eq_ok_iff]

/-- What a creation comes to: the state refuses it before the provider is called, the provider refuses what it is
given, or the state stores what the provider made. -/
inductive Creation {α X Y : Type} (s : DeviceState A) (given : α → Prop) (kept : DeviceState A → Prop)
    (stored : α → X → Y → DeviceState A → Prop) (create : α → ω → Except ε X × ω) (w : ω)
    (result : Except (CreateError ε) Y × DeviceState A × ω) : Prop where
  | refused (error : DeviceStateError) (done : result = (.error (.state error), s, w))
  | called (arg : α) (known : given arg) (outcome :
      (∃ error s', (create arg w).1 = .error error ∧ kept s' ∧
        result = (.error (.provider error), s', (create arg w).2)) ∨
      ∃ made answer s', (create arg w).1 = .ok made ∧ stored arg made answer s' ∧
        result = (.ok answer, s', (create arg w).2))

theorem createContextWith_cases (graph : s.Consistent) (reserve : Bool)
    (create : ω → Except ε (A .context) × ω) (w : ω) :
    Creation s (fun _ : Unit => True) (· = s) (fun _ resource id s' => s.contexts.len < s.limits.maxContexts ∧
      Opens s s' id ⟨ResourceSlot.new resource, ChildCounts.zero⟩) (fun _ => create) w
        (s.createContextWith reserve create w) := by
  unfold createContextWith
  split
  · exact .refused _ rfl
  rename_i below
  split
  · exact .refused _ rfl
  rename_i ready
  split
  · rename_i error w' made
    exact .called () trivial (.inl ⟨error, s, by rw [made], rfl, by rw [made]⟩)
  rename_i resource w' made
  let record : ContextRecord A := ⟨ResourceSlot.new resource, ChildCounts.zero⟩
  have writes := insertPrepared_writes graph.contexts_wellFormed ready record
  refine .called () trivial (.inr ⟨resource, _, { s with contexts := (s.contexts.insertPrepared record).2 },
    by rw [made], ⟨UInt32.not_le.mp below, ⟨rfl, rfl, rfl⟩, writes, ?_, rfl, rfl, rfl⟩, by rw [made]⟩)
  exact fun other child => table_rooted s _ _ child

/-- The context is there and its handle is this one. -/
def Lends (s : DeviceState A) (contextId : ObjectId) (handle : A .context) : Prop :=
  ∃ context, s.contexts.lookup contextId = some context ∧ context.resource.resource = some handle

theorem admitChild_ok {limit : UInt32} {reserve : Bool} {handle : A .context}
    (admitted : s.admitChild child limit reserve contextId = .ok handle) :
    ∃ context, s.contexts.lookup contextId = some context ∧ context.resource.resource = some handle ∧
      context.children.count child < limit ∧ (s.table child).tryReserveInsert reserve = .ok () := by
  simp only [admitChild, checkChildAdmission, Checked.bind_eq_ok, contextRecord_eq_ok, Checked.refuseIf_eq_ok,
    Checked.mapError_eq_ok, ResourceSlot.get_eq_ok] at admitted
  obtain ⟨⟨⟩, ⟨context, present, _, _, below⟩, ⟨⟩, ready, again, present', held⟩ := admitted
  cases present.symm.trans present'
  exact ⟨context, present, held, UInt32.not_le.mp below, ready⟩

/-- A record as a creation makes it. -/
structure Fresh {child : ObjectKind} (record : Record A child) (contextId : ObjectId) : Prop where
  owner : record.owner = some contextId
  idle : record.inFlight = 0
  live : record.resource.release = .live

theorem countChild_writes (graph : s.Consistent) (notRoot : child ≠ .context) {context : ContextRecord A}
    (present : s.contexts.lookup contextId = some context) (children : ObjectTable (Record A child)) :
    ∃ contexts, (s.setTable child children).countChild contextId child =
        { s.setTable child children with contexts } ∧
      s.contexts.Writes contexts contextId (some context)
        (some { context with children := context.children.modify child (· + 1) }) := by
  have same : (s.setTable child children).contexts = s.contexts := table_setTable_ne s children (Ne.symm notRoot)
  unfold countChild
  rw [same]
  rcases getMut_cases graph.contexts_wellFormed contextId
    (fun context => ((), { context with children := context.children.modify child (· + 1) })) with
      ⟨missing, _⟩ | ⟨stored, contexts, done, writes⟩
  · exact nomatch present.symm.trans missing
  cases present.symm.trans writes.lookup_before
  exact ⟨contexts, by simp only [done], writes⟩

theorem createChildWith_cases {X : Type} (graph : s.Consistent) (child : ObjectKind) (notRoot : child ≠ .context)
    (notEvent : child ≠ .event) (limit : UInt32) (reserve : Bool) (contextId : ObjectId)
    (create : A .context → ω → Except ε X × ω) (adopt : X → Record A child × RetainedBytes) (w : ω)
    (fresh : ∀ made, Fresh (adopt made).1 contextId)
    (charged : ∀ made other, (adopt made).2.amount other =
      s.retained.amount other + if other = child then (adopt made).1.charge else 0) :
    Creation s (s.Lends contextId) (· = s) (fun _ made answer s' => answer.2 = made ∧ s'.retained = (adopt made).2 ∧
      ∃ context : ContextRecord A, context.children.count child < limit ∧
        Adopts s s' child answer.1 (adopt made).1 contextId context) create w
      (s.createChildWith child limit reserve contextId create adopt w) := by
  unfold createChildWith
  split
  · exact .refused _ rfl
  rename_i handle admitted
  obtain ⟨context, present, held, below, ready⟩ := admitChild_ok admitted
  refine .called handle ⟨context, present, held⟩ ?_
  split
  · rename_i error w' made
    exact .inl ⟨error, s, by rw [made], rfl, by rw [made]⟩
  rename_i made w' answered
  refine .inr ⟨made, _, _, by rw [answered], ⟨rfl, rfl, context, below, ?_⟩, by rw [answered]⟩
  have writes := insertPrepared_writes (graph.tables child) ready (adopt made).1
  obtain ⟨contexts, counted, bumped⟩ := countChild_writes graph notRoot present
    ((s.table child).insertPrepared (adopt made).1).2
  simp only [counted]
  have room : (context.children.count child).toNat + 1 < 2 ^ 32 := by
    have less := UInt32.lt_iff_toNat_lt.mp below
    have word := limit.toNat_lt
    omega
  have silent := (adopt made).1.references_eq_nil notEvent
  have config := sameConfig_setTable s ((s.table child).insertPrepared (adopt made).1).2
  refine ⟨⟨⟨config.objectNamespace, config.limits, config.policy⟩, notRoot, bumped, ?_, ?_⟩, charged made,
    (fresh made).owner, (fresh made).idle, (fresh made).live, ResourceSlot.live_of_resource held, room, ?_⟩
  · rw [table_rooted (s.setTable child _) _ _ notRoot, table_setTable_self]
    exact writes
  · intro other differs child'
    rw [table_rooted (s.setTable child _) _ _ child', table_setTable_ne s _ differs, silent]
    exact .none (graph.tables other) _
  · intro other target member
    rw [silent] at member
    simp at member

theorem Consistent.retained_lt (graph : s.Consistent) (kind : ObjectKind) : s.retained.amount kind < 2 ^ 96 := by
  have each : ∀ record : Record A kind, record.charge ≤ 2 ^ 64 - 1 := by
    intro record
    cases kind with
    | buffer | program => exact Nat.le_sub_one_of_lt (UInt64.toNat_lt _)
    | context | queue | event => exact Nat.zero_le _
  have bound := total_le_maxSlots_mul (graph.tables kind) each
  have word := (s.table kind).maxSlots.toNat_lt
  rw [graph.retained]
  calc (s.table kind).total Record.charge ≤ (s.table kind).maxSlots.toNat * (2 ^ 64 - 1) := bound
    _ ≤ (2 ^ 32 - 1) * (2 ^ 64 - 1) := Nat.mul_le_mul_right _ (by omega)
    _ < 2 ^ 96 := by decide

theorem saturatingAdd128_eq {left right : Nat} (small : left < 2 ^ 96) (word : right < 2 ^ 64) :
    saturatingAdd128 left right = left + right := by
  unfold saturatingAdd128
  omega

theorem createBufferWith_cases (graph : s.Consistent) (reserve : Bool) (contextId : ObjectId) (desc : BufferDesc)
    (create : A .context → BufferDesc → ω → Except ε (A .buffer × BufferInfo) × ω) (w : ω) :
    Creation s (s.Lends contextId) (· = s) (fun _ made outcome s' => ∃ (context : ContextRecord A) (id : ObjectId),
      context.children.buffers < s.limits.maxBuffersPerContext ∧
      Adopts s s' .buffer id (⟨ResourceSlot.new made.1, contextId, made.2, 0⟩ : BufferRecord A) contextId context ∧
      (outcome = .admitted id ∧ made.2.desc = desc ∧
        s'.retained.bufferBacking ≤ s.policy.maxBufferBackingBytes.toNat ∨
        ∃ error, (error = .incompatible ∨ error = .resourceLimit) ∧ outcome = .cleanupRequired id error))
      (fun context => create context desc) w (s.createBufferWith reserve contextId desc create w) := by
  unfold createBufferWith
  simp only
  split
  · exact .refused _ rfl
  split
  · exact .refused _ rfl
  have small := graph.retained_lt .buffer
  rcases createChildWith_cases graph .buffer (by decide) (by decide) s.limits.maxBuffersPerContext reserve
    contextId (fun context => create context desc)
    (fun made => (⟨ResourceSlot.new made.1, contextId, made.2, 0⟩, { s.retained with
        bufferBacking := saturatingAdd128 s.retained.bufferBacking made.2.allocationBytes.toNat })) w
    (fun made => ⟨rfl, rfl, rfl⟩) (fun made other => by
      have word := made.2.allocationBytes.toNat_lt
      cases other with
      | buffer => exact saturatingAdd128_eq small word
      | context | program | queue | event => rfl)
    with ⟨error, done⟩ | ⟨handle, known, ⟨error, _, answer, rfl, done⟩ |
      ⟨_, ⟨id, made⟩, s', answer, ⟨rfl, retained, context, below, adopts⟩, done⟩⟩ <;> rw [done]
  · exact .refused error rfl
  · exact .called handle known (.inl ⟨error, _, answer, rfl, rfl⟩)
  refine .called handle known (.inr ?_)
  simp only
  split
  · exact ⟨made, _, s', answer, ⟨context, id, below, adopts, .inr ⟨_, .inl rfl, rfl⟩⟩, rfl⟩
  rename_i same
  split
  · exact ⟨made, _, s', answer, ⟨context, id, below, adopts, .inr ⟨_, .inr rfl, rfl⟩⟩, rfl⟩
  rename_i within
  have few : s'.retained.bufferBacking ≤ s.policy.maxBufferBackingBytes.toNat := by
    rw [retained]
    exact Nat.not_lt.mp within
  exact ⟨made, _, s', answer, ⟨context, id, below, adopts, .inl ⟨rfl, not_not.mp same, few⟩⟩, rfl⟩

theorem createProgramWith_cases (graph : s.Consistent) (reserve : Bool) (contextId : ObjectId)
    (artifactBytes residentBytes : UInt64) (create : A .context → ω → Except ε (A .program) × ω) (w : ω) :
    Creation s (s.Lends contextId) (· = s) (fun _ resource id s' => ∃ context : ContextRecord A,
      context.children.programs < s.limits.maxProgramsPerContext ∧
      s'.retained.programResident ≤ s.policy.maxProgramResidentBytes.toNat ∧
      Adopts s s' .program id (⟨ResourceSlot.new resource, contextId, residentBytes, 0⟩ : ProgramRecord A)
        contextId context) create w
          (s.createProgramWith reserve contextId artifactBytes residentBytes create w) := by
  unfold createProgramWith
  simp only
  iterate 3
    split
    · exact .refused _ rfl
  rename_i within
  have small := graph.retained_lt .program
  rcases createChildWith_cases graph .program (by decide) (by decide) s.limits.maxProgramsPerContext
    reserve contextId create
    (fun resource => (⟨ResourceSlot.new resource, contextId, residentBytes, 0⟩, { s.retained with
        programResident := saturatingAdd128 s.retained.programResident residentBytes.toNat })) w
    (fun made => ⟨rfl, rfl, rfl⟩) (fun made other => by
      have word := residentBytes.toNat_lt
      cases other with
      | program => exact saturatingAdd128_eq small word
      | context | buffer | queue | event => rfl)
    with ⟨error, done⟩ | ⟨handle, known, ⟨error, _, answer, rfl, done⟩ |
      ⟨_, ⟨id, resource⟩, s', answer, ⟨rfl, retained, context, below, adopts⟩, done⟩⟩ <;> rw [done]
  · exact .refused error rfl
  · exact .called handle known (.inl ⟨error, _, answer, rfl, rfl⟩)
  refine .called handle known (.inr ⟨resource, id, s', answer, ⟨context, below, ?_, adopts⟩, rfl⟩)
  rw [retained]
  exact Nat.not_lt.mp within

theorem createQueueWith_cases (graph : s.Consistent) (reserve : Bool) (contextId : ObjectId)
    (create : A .context → ω → Except ε (A .queue) × ω) (w : ω) :
    Creation s (s.Lends contextId) (· = s) (fun _ resource id s' => ∃ context : ContextRecord A,
      context.children.queues < s.limits.maxQueuesPerContext ∧
      Adopts s s' .queue id (⟨ResourceSlot.new resource, contextId, 0⟩ : QueueRecord A) contextId context) create w
        (s.createQueueWith reserve contextId create w) := by
  unfold createQueueWith
  rcases createChildWith_cases graph .queue (by decide) (by decide) s.limits.maxQueuesPerContext
    reserve contextId create (fun resource => (⟨ResourceSlot.new resource, contextId, 0⟩, s.retained)) w
    (fun made => ⟨rfl, rfl, rfl⟩) (fun made other => by
      cases other with
      | context | buffer | program | queue | event => rfl)
    with ⟨error, done⟩ | ⟨handle, known, ⟨error, _, answer, rfl, done⟩ |
      ⟨_, ⟨id, resource⟩, s', answer, ⟨rfl, _, context, below, adopts⟩, done⟩⟩ <;> rw [done]
  · exact .refused error rfl
  · exact .called handle known (.inl ⟨error, _, answer, rfl, rfl⟩)
  · exact .called handle known (.inr ⟨resource, id, s', answer, ⟨context, below, adopts⟩, rfl⟩)

end DeviceState

end VirtioAccel
