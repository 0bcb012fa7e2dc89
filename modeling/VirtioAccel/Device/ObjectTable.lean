import VirtioAccel.Library.SlotSums

namespace VirtioAccel

/-- The five kinds of objects, each with a table. -/
inductive ObjectKind where
  | context | buffer | program | queue | event
  deriving DecidableEq

def ObjectKind.tag : ObjectKind → UInt32
  | .context => 1
  | .buffer => 2
  | .program => 3
  | .queue => 4
  | .event => 5

/-- Device-instance namespace, nonzero as in the source type. -/
structure ObjectNamespace where
  value : UInt16
  nonzero : value ≠ 0
  deriving DecidableEq

/-- Opaque guest-visible identifier over a nonzero 64-bit word. -/
@[ext]
structure ObjectId where
  raw : UInt64
  nonzero : raw ≠ 0

instance : DecidableEq ObjectId := fun a b => decidable_of_iff (a.raw = b.raw) ObjectId.ext_iff.symm

def kindMask : UInt32 := 0b111
def generationBits : UInt32 := 13
def generationMask : UInt16 := ((1 : UInt16) <<< 13) - 1
def generationShift : UInt32 := 3
def namespaceShift : UInt32 := generationShift + generationBits

namespace ObjectId

def fromRaw (raw : UInt64) : Option ObjectId :=
  if nonzero : raw ≠ 0 then some ⟨raw, nonzero⟩ else none

def token (namespaceTag : UInt16) (generation : UInt16) (kind : ObjectKind) : UInt32 :=
  (namespaceTag.toUInt32 <<< namespaceShift) ||| (generation.toUInt32 <<< generationShift) ||| kind.tag

def pack (index : UInt32) (namespaceTag generation : UInt16) (kind : ObjectKind) : UInt64 :=
  ((token namespaceTag generation kind).toUInt64 <<< 32) ||| (index.toUInt64 + 1)

/-- The slot number in the low word is never zero, so the packed word is not. -/
theorem pack_ne_zero (index : UInt32) (namespaceTag generation : UInt16) (kind : ObjectKind) :
    pack index namespaceTag generation kind ≠ 0 := by
  intro zero
  have low := congrArg UInt64.toNat zero
  have bound := index.toNat_lt
  simp only [pack, UInt64.toNat_or, Nat.or_eq_zero_iff, UInt64.toNat_add,
    UInt32.toNat_toUInt64, UInt64.reduceToNat] at low
  omega

def new (index : UInt32) (namespaceTag generation : UInt16) (kind : ObjectKind) : ObjectId :=
  ⟨pack index namespaceTag generation kind, pack_ne_zero index namespaceTag generation kind⟩

end ObjectId

inductive ObjectTableError where
  | invalidId | wrongKind | staleId | full | allocationFailed
  deriving DecidableEq

/-- A place of the table: its generation, and what it holds. -/
structure Slot (T : Type) where
  generation : UInt16
  value : Option T
  retired : Bool

/-- Bounded generational table for one resource kind. `free` is the free
stack with its top at the head. -/
structure ObjectTable (T : Type) where
  kind : ObjectKind
  namespaceTag : UInt16
  maxSlots : UInt32
  live : UInt32
  slots : List (Slot T)
  free : List UInt32

namespace ObjectTable
variable {T : Type}
variable (t : ObjectTable T)

def new (kind : ObjectKind) (maxSlots : UInt32) : ObjectTable T :=
  { kind, namespaceTag := 0, maxSlots, live := 0, slots := [], free := [] }

def withNamespace (kind : ObjectKind) (maxSlots : UInt32) (ns : ObjectNamespace) : ObjectTable T :=
  { kind, namespaceTag := ns.value, maxSlots, live := 0, slots := [], free := [] }

def len : UInt32 := t.live

def isEmpty : Bool := t.live == 0

def idAt (index : Nat) (slot : Slot T) : ObjectId :=
  ObjectId.new (UInt32.ofNat index) t.namespaceTag slot.generation t.kind

def ids : List ObjectId :=
  t.slots.zipIdx.filterMap (fun (slot, index) => slot.value.map (fun _ => t.idAt index slot))

/-- `reserve` is the allocator's answer when the slot and free vectors must grow. -/
def tryReserveInsert (reserve : Bool) : Except ObjectTableError Unit :=
  if ¬ t.free.isEmpty then .ok ()
  else if t.maxSlots.toNat ≤ t.slots.length then .error .full
  else if reserve then .ok () else .error .allocationFailed

/-- The index on top of the free stack is in range in every reachable table;
the default slot stands for the source's out-of-bounds panic. -/
def insertPrepared (value : T) : ObjectId × ObjectTable T :=
  match t.free with
  | index :: free =>
    let slot := t.slots[index.toNat]?.getD ⟨0, none, false⟩
    (ObjectId.new index t.namespaceTag slot.generation t.kind, { t with
        free
        live := t.live + 1
        slots := t.slots.set index.toNat { slot with value := some value } })
  | [] =>
    let index := UInt32.ofNat t.slots.length
    (ObjectId.new index t.namespaceTag 0 t.kind, { t with
        live := t.live + 1
        slots := t.slots ++ [⟨0, some value, false⟩] })

def insert (reserve : Bool) (value : T) : Except ObjectTableError (ObjectId × ObjectTable T) := do
  t.tryReserveInsert reserve
  return t.insertPrepared value

def locate (id : ObjectId) : Except ObjectTableError Nat :=
  let slotNumber := id.raw.toUInt32
  let token := (id.raw >>> 32).toUInt32
  let generation := (token >>> generationShift).toUInt16 &&& generationMask
  let index := (slotNumber - 1).toNat
  if slotNumber = 0 then .error .invalidId
  else if token &&& kindMask ≠ t.kind.tag then .error .wrongKind
  else if (token >>> namespaceShift).toUInt16 ≠ t.namespaceTag then .error .staleId
  else match t.slots[index]? with
    | none => .error .staleId
    | some slot =>
      if slot.generation ≠ generation ∨ slot.retired ∨ slot.value.isNone then .error .staleId
      else .ok index

def get (id : ObjectId) : Except ObjectTableError T := do
  let index ← t.locate id
  match t.slots[index]?.bind Slot.value with
  | some value => .ok value
  | none => .error .staleId

/-- `get_mut` followed by the code that uses the borrowed record: `body` sees
the record and gives its own result together with the record it leaves. -/
def getMut {R : Type} (t : ObjectTable T) (id : ObjectId) (body : T → R × T) :
    Except ObjectTableError (R × ObjectTable T) := do
  let index ← t.locate id
  match t.slots[index]? with
  | some ⟨generation, some value, retired⟩ =>
    .ok ((body value).1, { t with slots := t.slots.set index ⟨generation, some (body value).2, retired⟩ })
  | _ => .error .staleId

def remove (id : ObjectId) : Except ObjectTableError (T × ObjectTable T) := do
  let index ← t.locate id
  match t.slots[index]? with
  | some ⟨generation, some value, retired⟩ =>
    if generation = generationMask then
      .ok (value, { t with live := t.live - 1, slots := t.slots.set index ⟨generation, none, true⟩ })
    else
      .ok (value, { t with
          live := t.live - 1
          slots := t.slots.set index ⟨generation + 1, none, retired⟩
          free := UInt32.ofNat index :: t.free })
  | _ => .error .staleId

def nextIdFrom (start : Nat) : Option (Nat × ObjectId) :=
  (t.slots.zipIdx.drop start).findSome? (fun (slot, index) =>
    if slot.retired || slot.value.isNone then none else some (index + 1, t.idAt index slot))

/-- The records stored in occupied slots, in slot order. -/
def records : List T := t.slots.filterMap Slot.value

def lookup (id : ObjectId) : Option T := (t.get id).toOption

/-- Sum of a weight over the occupied records. -/
def total (f : T → Nat) : Nat := (t.records.map f).sum

end ObjectTable

theorem generationMask_toNat : generationMask.toNat = 8191 := rfl

theorem ObjectKind.tag_toNat_lt (kind : ObjectKind) : kind.tag.toNat < 8 := by
  cases kind <;> decide

theorem ObjectKind.tag_injective : Function.Injective ObjectKind.tag := by
  intro left right same
  cases left <;> cases right <;> first | rfl | exact absurd same (by decide)

namespace ObjectId
variable {kind : ObjectKind} {ns generation : UInt16}

theorem ext_toNat {left right : ObjectId} (same : left.raw.toNat = right.raw.toNat) : left = right := by
  obtain ⟨raw, _⟩ := left
  obtain ⟨raw', _⟩ := right
  have equal : raw = raw' := UInt64.toNat_inj.mp same
  subst raw'
  rfl

/-- The three token fields do not overlap while the generation fits its 13 bits. -/
theorem token_toNat (fits : generation.toNat < 2 ^ 13) :
    (token ns generation kind).toNat =
      ns.toNat * 2 ^ 16 + generation.toNat * 2 ^ 3 + kind.tag.toNat := by
  have nsBound := ns.toNat_lt
  have tagBound := kind.tag_toNat_lt
  have high : (ns.toUInt32 <<< namespaceShift).toNat = ns.toNat <<< 16 := by
    rw [UInt32.toNat_shiftLeft, UInt16.toNat_toUInt32, show namespaceShift.toNat % 32 = 16 from rfl]
    omega
  have middle : (generation.toUInt32 <<< generationShift).toNat = generation.toNat <<< 3 := by
    rw [UInt32.toNat_shiftLeft, UInt16.toNat_toUInt32, show generationShift.toNat % 32 = 3 from rfl]
    omega
  have join : ns.toNat <<< 16 ||| generation.toNat <<< 3 = (ns.toNat * 2 ^ 13 + generation.toNat) <<< 3 := by
    rw [← Nat.shiftLeft_add_eq_or_of_lt (by rw [Nat.shiftLeft_eq]; omega)]
    omega
  rw [token, UInt32.toNat_or, UInt32.toNat_or, high, middle, join, ← Nat.shiftLeft_add_eq_or_of_lt (by omega)]
  omega

theorem new_toNat {index : UInt32} (slot : index.toNat + 1 < 2 ^ 32) (fits : generation.toNat < 2 ^ 13) :
    (new index ns generation kind).raw.toNat =
      ns.toNat * 2 ^ 48 + generation.toNat * 2 ^ 35 + kind.tag.toNat * 2 ^ 32 + (index.toNat + 1) := by
  have tokenBound := (token ns generation kind).toNat_lt
  have high : ((token ns generation kind).toUInt64 <<< 32).toNat = (token ns generation kind).toNat <<< 32 := by
    rw [UInt64.toNat_shiftLeft, UInt32.toNat_toUInt64, show (32 : UInt64).toNat % 64 = 32 from rfl]
    omega
  have low : (index.toUInt64 + 1).toNat = index.toNat + 1 := by
    rw [UInt64.toNat_add, UInt32.toNat_toUInt64, show (1 : UInt64).toNat = 1 from rfl]
    omega
  change (pack index ns generation kind).toNat = _
  rw [pack, UInt64.toNat_or, high, low, ← Nat.shiftLeft_add_eq_or_of_lt slot, token_toNat fits]
  omega

theorem token_field_toNat (id : ObjectId) : (id.raw >>> 32).toUInt32.toNat = id.raw.toNat / 2 ^ 32 := by
  have bound := id.raw.toNat_lt
  rw [UInt64.toNat_toUInt32, UInt64.toNat_shiftRight, show (32 : UInt64).toNat % 64 = 32 from rfl]
  omega

theorem kind_field_toNat (token : UInt32) : (token &&& kindMask).toNat = token.toNat % 2 ^ 3 := by
  rw [UInt32.toNat_and, show kindMask.toNat = 2 ^ 3 - 1 from rfl, Nat.and_two_pow_sub_one_eq_mod]

theorem namespace_field_toNat (token : UInt32) :
    (token >>> namespaceShift).toUInt16.toNat = token.toNat / 2 ^ 16 := by
  have bound := token.toNat_lt
  rw [UInt32.toNat_toUInt16, UInt32.toNat_shiftRight, show namespaceShift.toNat % 32 = 16 from rfl]
  omega

theorem generation_field_toNat (token : UInt32) :
    ((token >>> generationShift).toUInt16 &&& generationMask).toNat = token.toNat / 2 ^ 3 % 2 ^ 13 := by
  rw [UInt16.toNat_and, show generationMask.toNat = 2 ^ 13 - 1 from rfl, Nat.and_two_pow_sub_one_eq_mod,
    UInt32.toNat_toUInt16, UInt32.toNat_shiftRight, show generationShift.toNat % 32 = 3 from rfl]
  omega

end ObjectId

namespace ObjectTable
variable {T : Type}

/-- A forged word reaches a slot only when every one of its fields agrees with
the table and with the slot's current occupant. -/
theorem locate_eq_ok_iff {t : ObjectTable T} {id : ObjectId} {index : Nat} :
    t.locate id = .ok index ↔ ∃ slot, t.slots[index]? = some slot ∧ slot.retired = false ∧
      slot.value.isSome ∧ slot.generation.toNat < 2 ^ 13 ∧ index + 1 < 2 ^ 32 ∧
      id.raw.toNat = t.namespaceTag.toNat * 2 ^ 48 + slot.generation.toNat * 2 ^ 35 +
        t.kind.tag.toNat * 2 ^ 32 + (index + 1) := by
  have tagBound := t.kind.tag_toNat_lt
  have tokenNat := id.token_field_toNat
  set token := (id.raw >>> 32).toUInt32 with tokenDef
  have kindNat := ObjectId.kind_field_toNat token
  have namespaceNat := ObjectId.namespace_field_toNat token
  have generationNat := ObjectId.generation_field_toNat token
  have slotNat : id.raw.toUInt32.toNat = id.raw.toNat % 2 ^ 32 := UInt64.toNat_toUInt32 _
  have indexNat (nonzero : id.raw.toUInt32 ≠ 0) : (id.raw.toUInt32 - 1).toNat = id.raw.toNat % 2 ^ 32 - 1 := by
    have positive : id.raw.toUInt32.toNat ≠ 0 := fun zero => nonzero (UInt32.toNat_inj.mp zero)
    rw [UInt32.toNat_sub_of_le _ _ (UInt32.le_iff_toNat_le.mpr (by
      rw [show (1 : UInt32).toNat = 1 from rfl]; omega)), slotNat]
    rfl
  unfold locate
  simp only [← tokenDef]
  constructor
  · intro found
    split at found
    · simp at found
    rename_i nonzero
    split at found
    · simp at found
    rename_i kindSame
    split at found
    · simp at found
    rename_i namespaceSame
    split at found
    · simp at found
    rename_i slot atSlot
    split at found
    · simp at found
    rename_i current
    simp only [not_or, not_not, Bool.not_eq_true, Option.isNone_eq_false_iff] at current
    obtain ⟨generationSame, notRetired, occupied⟩ := current
    cases found
    have positive : id.raw.toUInt32.toNat ≠ 0 := fun zero => nonzero (UInt32.toNat_inj.mp zero)
    have kindEq := congrArg UInt32.toNat (not_not.mp kindSame)
    have namespaceEq := congrArg UInt16.toNat (not_not.mp namespaceSame)
    have generationEq := congrArg UInt16.toNat generationSame
    have index := indexNat nonzero
    refine ⟨slot, atSlot, notRetired, occupied, by omega, by omega, by omega⟩
  · rintro ⟨slot, atSlot, notRetired, occupied, fits, room, layout⟩
    have nonzero : id.raw.toUInt32 ≠ 0 := by
      intro zero
      have := congrArg UInt32.toNat zero
      rw [show (0 : UInt32).toNat = 0 from rfl] at this
      omega
    have index : (id.raw.toUInt32 - 1).toNat = index := by rw [indexNat nonzero]; omega
    have kindSame : token &&& kindMask = t.kind.tag := UInt32.toNat_inj.mp (by omega)
    have namespaceSame : (token >>> namespaceShift).toUInt16 = t.namespaceTag := UInt16.toNat_inj.mp (by omega)
    have generationSame : slot.generation = (token >>> generationShift).toUInt16 &&& generationMask :=
      UInt16.toNat_inj.mp (by omega)
    have present : slot.value.isNone = false := by
      simpa only [Option.isNone_eq_false_iff] using occupied
    simp only [nonzero, if_false, kindSame, namespaceSame, ne_eq, not_true_eq_false, index, atSlot,
      ← generationSame, notRetired, present, Bool.false_eq_true, or_self]

end ObjectTable

end VirtioAccel

namespace VirtioAccel.ObjectTable
variable {T : Type}
variable {t : ObjectTable T} {id : ObjectId} {slot : Slot T} {index : Nat} {value : T}

/-- What every reachable table satisfies: the live counter and the free stack
are exact, generations fit their field, and a retired slot holds no record. -/
structure WellFormed (t : ObjectTable T) : Prop where
  capacity : t.slots.length ≤ t.maxSlots.toNat
  live_exact : t.live.toNat = t.records.length
  generation_fits : ∀ {index : Nat} {slot : Slot T}, t.slots[index]? = some slot → slot.generation.toNat < 2 ^ 13
  retired_vacant : ∀ {index : Nat} {slot : Slot T}, t.slots[index]? = some slot →
    slot.retired = true → slot.value = none
  free_nodup : t.free.Nodup
  free_iff : ∀ index : UInt32, index ∈ t.free ↔
    ∃ slot, t.slots[index.toNat]? = some slot ∧ slot.value = none ∧ slot.retired = false

theorem WellFormed.index_room (wf : t.WellFormed) (atSlot : t.slots[index]? = some slot) : index + 1 < 2 ^ 32 := by
  obtain ⟨bound, _⟩ := List.getElem?_eq_some_iff.mp atSlot
  have room := wf.capacity
  have word := t.maxSlots.toNat_lt
  omega

theorem idAt_toNat (room : index + 1 < 2 ^ 32) (fits : slot.generation.toNat < 2 ^ 13) :
    (t.idAt index slot).raw.toNat = t.namespaceTag.toNat * 2 ^ 48 + slot.generation.toNat * 2 ^ 35 +
      t.kind.tag.toNat * 2 ^ 32 + (index + 1) := by
  have word : (UInt32.ofNat index).toNat = index := UInt32.toNat_ofNat_of_lt (by
    rw [show UInt32.size = 2 ^ 32 from rfl]; omega)
  rw [idAt, ObjectId.new_toNat (by rw [word]; exact room) fits, word]

theorem lookup_eq_some_iff_locate :
    t.lookup id = some value ↔
      ∃ index, t.locate id = .ok index ∧ t.slots[index]?.bind Slot.value = some value := by
  unfold lookup get
  cases found : t.locate id with
  | error failure => simp [Bind.bind, Except.bind, Except.toOption]
  | ok index =>
    cases present : t.slots[index]?.bind Slot.value <;>
      simp [Bind.bind, Except.bind, Except.toOption, present]

theorem lookup_eq_some_iff (wf : t.WellFormed) :
    t.lookup id = some value ↔
      ∃ index slot, t.slots[index]? = some slot ∧ slot.value = some value ∧ id = t.idAt index slot := by
  rw [lookup_eq_some_iff_locate]
  constructor
  · rintro ⟨index, found, present⟩
    obtain ⟨slot, atSlot, _, _, fits, room, layout⟩ := locate_eq_ok_iff.mp found
    rw [atSlot] at present
    exact ⟨index, slot, atSlot, present, ObjectId.ext_toNat (layout.trans (idAt_toNat room fits).symm)⟩
  rintro ⟨index, slot, atSlot, present, rfl⟩
  have fits := wf.generation_fits atSlot
  have room := wf.index_room atSlot
  have notRetired : slot.retired = false := by
    cases retired : slot.retired with
    | false => rfl
    | true => simp [wf.retired_vacant atSlot retired] at present
  refine ⟨index, locate_eq_ok_iff.mpr ⟨slot, atSlot, notRetired, by simp [present], fits, room,
    idAt_toNat room fits⟩, by simp [atSlot, present]⟩

theorem idAt_injective {index' : Nat} {slot' : Slot T} (room : index + 1 < 2 ^ 32) (room' : index' + 1 < 2 ^ 32)
    (fits : slot.generation.toNat < 2 ^ 13) (fits' : slot'.generation.toNat < 2 ^ 13)
    (same : t.idAt index slot = t.idAt index' slot') : index = index' ∧ slot.generation = slot'.generation := by
  have words := congrArg (fun id => id.raw.toNat) same
  simp only [idAt_toNat room fits, idAt_toNat room' fits'] at words
  exact ⟨by omega, UInt16.toNat_inj.mp (by omega)⟩

theorem get_eq_ok_iff : t.get id = .ok value ↔ t.lookup id = some value := by
  unfold lookup
  cases t.get id <;> simp [Except.toOption]

theorem get_error_of_lookup (missing : t.lookup id = none) : ∃ failure, t.get id = .error failure := by
  unfold lookup at missing
  cases outcome : t.get id with
  | error failure => exact ⟨failure, rfl⟩
  | ok value => simp [outcome, Except.toOption] at missing

theorem total_eq_slots (t : ObjectTable T) (f : T → Nat) :
    t.total f = (t.slots.map (fun slot => slot.value.elim 0 f)).sum :=
  (SlotSums.sum_map_elim t.slots Slot.value f).symm

theorem records_length (t : ObjectTable T) : t.records.length = t.total (fun _ => 1) := by
  simp [total]

theorem getElem?_set_some_iff {l : List (Slot T)} {other : Nat} {old new : Slot T} (atOld : l[index]? = some old) :
    (l.set index new)[other]? = some slot ↔
      (other = index ∧ slot = new) ∨ (other ≠ index ∧ l[other]? = some slot) := by
  obtain ⟨bound, _⟩ := List.getElem?_eq_some_iff.mp atOld
  by_cases same : index = other
  · subst other
    simp [bound, eq_comm]
  · simp [same, Ne.symm same]

/-- `id` was handed out by this table at some time: its generation is an
earlier one of its slot, or the current one of an occupied or retired slot. -/
def Issued (t : ObjectTable T) (id : ObjectId) : Prop :=
  ∃ index generation slot, t.slots[index]? = some slot ∧ generation.toNat < 2 ^ 13 ∧
    id = t.idAt index ⟨generation, none, false⟩ ∧
    (generation.toNat < slot.generation.toNat ∨
      generation = slot.generation ∧ (slot.value.isSome ∨ slot.retired))

theorem WellFormed.issued_of_lookup (wf : t.WellFormed) (present : t.lookup id = some value) : t.Issued id := by
  obtain ⟨index, slot, atSlot, occupied, identity⟩ := (lookup_eq_some_iff wf).mp present
  exact ⟨index, slot.generation, slot, atSlot, wf.generation_fits atSlot, identity,
    .inr ⟨rfl, .inl (by rw [occupied]; rfl)⟩⟩

theorem wellFormed_of_empty (slots : t.slots = []) (free : t.free = []) (live : t.live = 0) : t.WellFormed := by
  refine ⟨by simp [slots], by simp [live, records, slots], ?_, ?_, by simp [free], by simp [free, slots]⟩ <;>
    · intro index slot atSlot
      simp [slots] at atSlot

theorem new_wellFormed (kind : ObjectKind) (maxSlots : UInt32) : (new kind maxSlots : ObjectTable T).WellFormed :=
  wellFormed_of_empty rfl rfl rfl

theorem withNamespace_wellFormed (kind : ObjectKind) (maxSlots : UInt32) (ns : ObjectNamespace) :
    (withNamespace kind maxSlots ns : ObjectTable T).WellFormed :=
  wellFormed_of_empty rfl rfl rfl

end VirtioAccel.ObjectTable
