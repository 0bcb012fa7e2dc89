import VirtioAccel.Device.ObjectTableSteps
import VirtioAccel.Device.ObjectTableListing

namespace VirtioAccel.ObjectTable
open List
variable {T : Type}

/-- The two constructors of the source. -/
inductive Origin where
  | new (kind : ObjectKind) (maxSlots : UInt32)
  | withNamespace (kind : ObjectKind) (maxSlots : UInt32) (ns : ObjectNamespace)

def Origin.table : Origin → ObjectTable T
  | .new kind maxSlots => ObjectTable.new kind maxSlots
  | .withNamespace kind maxSlots ns => ObjectTable.withNamespace kind maxSlots ns

def Origin.kind : Origin → ObjectKind
  | .new kind _ => kind
  | .withNamespace kind _ _ => kind

def Origin.namespaceTag : Origin → UInt16
  | .new _ _ => 0
  | .withNamespace _ _ ns => ns.value

def Origin.maxSlots : Origin → UInt32
  | .new _ maxSlots => maxSlots
  | .withNamespace _ maxSlots _ => maxSlots

theorem Origin.table_kind (origin : Origin) : (origin.table : ObjectTable T).kind = origin.kind := by
  cases origin <;> rfl

theorem Origin.table_namespaceTag (origin : Origin) :
    (origin.table : ObjectTable T).namespaceTag = origin.namespaceTag := by
  cases origin <;> rfl

theorem Origin.table_maxSlots (origin : Origin) : (origin.table : ObjectTable T).maxSlots = origin.maxSlots := by
  cases origin <;> rfl

/-- What is done to a table. -/
inductive Operation (T : Type) where
  | insert (reserve : Bool) (value : T)
  | remove (id : ObjectId)

/-- A table with what its caller has seen so far: the identifiers returned,
each with the value inserted under it, and the identifiers removed. -/
structure History (T : Type) where
  table : ObjectTable T
  issued : List (ObjectId × T)
  removed : List ObjectId

namespace History
variable {id : ObjectId}
variable {table : ObjectTable T} {value : T}

def step (h : History T) : Operation T → History T
  | .insert reserve value =>
    match h.table.insert reserve value with
    | .ok (id, table) => { h with table, issued := (id, value) :: h.issued }
    | .error _ => h
  | .remove id =>
    match h.table.remove id with
    | .ok (_, table) => { h with table, removed := id :: h.removed }
    | .error _ => h

def run (origin : Origin) (operations : List (Operation T)) : History T :=
  operations.foldl step ⟨origin.table, [], []⟩

/-- The identifier was returned with this value and not removed since. -/
def Live (h : History T) (id : ObjectId) (value : T) : Prop :=
  (id, value) ∈ h.issued ∧ id ∉ h.removed

/-- What holds of a table and of the identifiers that it gave out. -/
structure Sound (origin : Origin) (h : History T) : Prop where
  shape : SameShape origin.table h.table
  wellFormed : h.table.WellFormed
  distinct : (h.issued.map Prod.fst).Nodup
  live_iff : ∀ id value, h.table.lookup id = some value ↔ h.Live id value
  issued : ∀ id ∈ h.issued.map Prod.fst, h.table.Issued id
  removed : ∀ id ∈ h.removed, id ∈ h.issued.map Prod.fst

variable {origin : Origin}

theorem Sound.start (origin : Origin) : Sound origin (⟨origin.table, [], []⟩ : History T) := by
  have wf : (origin.table : ObjectTable T).WellFormed := by
    cases origin
    · exact new_wellFormed _ _
    · exact withNamespace_wellFormed _ _ _
  refine ⟨⟨rfl, rfl, rfl⟩, wf, .nil, fun id value => ?_, by simp, by simp⟩
  have empty : (origin.table : ObjectTable T).slots = [] := by cases origin <;> rfl
  simp [lookup_eq_some_iff wf, empty, Live]

variable {h : History T}

theorem Sound.insert (sound : h.Sound origin) {reserve : Bool}
    (inserted : h.table.insert reserve value = .ok (id, table)) :
    Sound origin { h with table, issued := (id, value) :: h.issued } := by
  obtain ⟨ready, same⟩ := insert_eq_ok_iff.mp inserted
  have writes := insertPrepared_writes sound.wellFormed ready value
  have unseen := insertPrepared_not_issued sound.wellFormed ready value
  rw [same] at writes unseen
  have fresh : id ∉ h.issued.map Prod.fst := fun member => unseen (sound.issued id member)
  refine ⟨sound.shape.trans writes.shape, writes.wellFormed, nodup_cons.mpr ⟨fresh, sound.distinct⟩, ?_, ?_, ?_⟩
  · intro other stored
    rw [writes.lookup_after]
    by_cases same : other = id
    · subst other
      have notOld : (id, stored) ∉ h.issued := fun member => fresh (mem_map_of_mem member)
      have notRemoved : id ∉ h.removed := fun member => fresh (sound.removed id member)
      simp [Live, notOld, notRemoved, eq_comm]
    · simp [same, sound.live_iff, Live]
  · intro other member
    rcases mem_cons.mp member with rfl | old
    · have present : table.lookup other = some value := by simp [writes.lookup_after]
      exact writes.wellFormed.issued_of_lookup present
    · exact writes.issued other (sound.issued other old)
  · exact fun other member => mem_cons_of_mem _ (sound.removed other member)

theorem Sound.remove (sound : h.Sound origin) (removed : h.table.remove id = .ok (value, table)) :
    Sound origin { h with table, removed := id :: h.removed } := by
  rcases remove_cases sound.wellFormed id with ⟨_, failure, refused⟩ | ⟨stored, after, done, writes⟩
  · simp [refused] at removed
  cases done.symm.trans removed
  have present := (sound.live_iff id value).mp writes.lookup_before
  refine ⟨sound.shape.trans writes.shape, writes.wellFormed, sound.distinct, ?_, ?_, ?_⟩
  · intro other stored
    rw [writes.lookup_after]
    by_cases same : other = id
    · simp [same, Live]
    · simp [same, sound.live_iff, Live]
  · exact fun other member => writes.issued other (sound.issued other member)
  · intro other member
    rcases mem_cons.mp member with rfl | old
    · exact mem_map_of_mem (f := Prod.fst) present.1
    · exact sound.removed other old

theorem Sound.step (sound : h.Sound origin) (operation : Operation T) : (h.step operation).Sound origin := by
  cases operation with
  | insert reserve value =>
    simp only [History.step]
    split
    · rename_i id table inserted
      exact sound.insert inserted
    · exact sound
  | remove id =>
    simp only [History.step]
    split
    · rename_i value table removed
      exact sound.remove removed
    · exact sound

theorem run_sound (origin : Origin) (operations : List (Operation T)) : (run origin operations).Sound origin := by
  suffices whole : ∀ h : History T, h.Sound origin → (operations.foldl step h).Sound origin from
    whole _ (.start origin)
  induction operations with
  | nil => exact fun h sound => sound
  | cons operation rest ih => exact fun h sound => ih _ (sound.step operation)

section
variable (sound : h.Sound origin)
include sound

theorem Sound.get_iff (id : ObjectId) (value : T) : h.table.get id = .ok value ↔ h.Live id value :=
  get_eq_ok_iff.trans (sound.live_iff id value)

theorem Sound.getMut_iff {R : Type} (id : ObjectId) (body : T → R × T) (result : R) :
    (∃ after, h.table.getMut id body = .ok (result, after) ∧
        ∀ value, h.Live id value → after.get id = .ok (body value).2) ↔
      ∃ value, h.Live id value ∧ result = (body value).1 := by
  rcases getMut_cases sound.wellFormed id body with ⟨missing, failure, refused⟩ | ⟨value, table, made, writes⟩
  · simp only [← sound.live_iff, missing, refused]
    simp
  have current := writes.lookup_before
  simp only [← sound.live_iff, current, made, Except.ok.injEq, Prod.mk.injEq, Option.some.injEq, get_eq_ok_iff]
  constructor
  · rintro ⟨after, ⟨rfl, rfl⟩, _⟩
    exact ⟨value, rfl, rfl⟩
  rintro ⟨stored, rfl, rfl⟩
  refine ⟨table, ⟨rfl, rfl⟩, ?_⟩
  simp [writes.lookup_after]

theorem Sound.remove_iff (id : ObjectId) (value : T) :
    (∃ after, h.table.remove id = .ok (value, after)) ↔ h.Live id value := by
  rw [← sound.live_iff]
  rcases remove_cases sound.wellFormed id with ⟨missing, failure, refused⟩ | ⟨stored, table, made, writes⟩
  · simp [missing, refused]
  · simp [made, writes.lookup_before]

/-- An identifier carries the kind and the namespace of the table that issued it. -/
theorem Sound.foreign_unresolved {U : Type} {other : Origin} {h' : History U} (sound' : h'.Sound other)
    (foreign : other.kind ≠ origin.kind ∨ other.namespaceTag ≠ origin.namespaceTag)
    (minted : id ∈ h'.issued.map Prod.fst) : ∀ value, h.table.get id ≠ .ok value := by
  intro value resolved
  obtain ⟨index, slot, atSlot, _, identity⟩ := (lookup_eq_some_iff sound.wellFormed).mp (get_eq_ok_iff.mp resolved)
  obtain ⟨index', generation, slot', atSlot', fits', identity', _⟩ := sound'.issued id minted
  have room := sound.wellFormed.index_room atSlot
  have room' := sound'.wellFormed.index_room atSlot'
  have same := (idAt_toNat room (sound.wellFormed.generation_fits atSlot)).symm.trans
    ((congrArg (fun id => id.raw.toNat) (identity.symm.trans identity')).trans (idAt_toNat room' fits'))
  simp only at same
  have fits := sound.wellFormed.generation_fits atSlot
  have tagBound := h.table.kind.tag_toNat_lt
  have tagBound' := h'.table.kind.tag_toNat_lt
  have sameKind : h'.table.kind = h.table.kind := ObjectKind.tag_injective (UInt32.toNat_inj.mp (by omega))
  have sameTag : h'.table.namespaceTag = h.table.namespaceTag := UInt16.toNat_inj.mp (by omega)
  rw [sound.shape.kind, sound'.shape.kind, origin.table_kind, other.table_kind] at sameKind
  rw [sound.shape.namespaceTag, sound'.shape.namespaceTag, origin.table_namespaceTag,
    other.table_namespaceTag] at sameTag
  exact foreign.elim (absurd sameKind) (absurd sameTag)

end

end History

/-- Over every sequence of insertions and removals, however many generations
it exhausts, the table is the finite map from the identifiers it returned and
has not removed to their values: no identifier is returned twice, a forged
word resolves only if it is one of them, the listings are that map's keys in
slot order, and the only refusal left to the caller is a table whose slots are
all live or retired. -/
theorem identifiers_never_revived (origin : Origin) (operations : List (Operation T)) :
    let h := History.run origin operations
    (h.issued.map Prod.fst).Nodup ∧
    (∀ id value, h.table.get id = .ok value ↔ h.Live id value) ∧
    (∀ (R : Type) (id : ObjectId) (body : T → R × T) (result : R),
      (∃ after, h.table.getMut id body = .ok (result, after) ∧
        ∀ value, h.Live id value → after.get id = .ok (body value).2) ↔
      ∃ value, h.Live id value ∧ result = (body value).1) ∧
    (∀ id value, (∃ after, h.table.remove id = .ok (value, after)) ↔ h.Live id value) ∧
    (∀ id, id ∈ h.table.ids ↔ ∃ value, h.Live id value) ∧
    h.table.ids.Pairwise (fun left right => slotNumber left < slotNumber right) ∧
    Walk h.table 0 h.table.ids ∧
    h.table.len.toNat = h.table.ids.length ∧
    (∀ (U : Type) (other : Origin) (foreign : List (Operation U)),
      other.kind ≠ origin.kind ∨ other.namespaceTag ≠ origin.namespaceTag →
      ∀ entry ∈ (History.run other foreign).issued, ∀ value, h.table.get entry.1 ≠ .ok value) ∧
    (∀ value, h.table.insert true value = .error .full ↔
      h.table.len.toNat + h.table.retiredSlots = origin.maxSlots.toNat) ∧
    (∀ value failure, h.table.insert true value = .error failure → failure = .full) := by
  intro h
  have sound : h.Sound origin := History.run_sound origin operations
  refine ⟨sound.distinct, sound.get_iff, fun R => sound.getMut_iff, sound.remove_iff, ?_,
    ids_sorted sound.wellFormed, walk_ids sound.wellFormed, ids_length sound.wellFormed, ?_, ?_, ?_⟩
  · intro id
    simp only [mem_ids_iff sound.wellFormed, sound.live_iff]
  · intro U other foreign differs entry member
    exact sound.foreign_unresolved (History.run_sound other foreign) differs (mem_map_of_mem member)
  · intro value
    rw [insert_full_iff sound.wellFormed, sound.shape.maxSlots, origin.table_maxSlots]
  · intro value failure refused
    exact insert_error_full refused

end VirtioAccel.ObjectTable
