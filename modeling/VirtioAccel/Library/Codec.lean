import Mathlib.Data.UInt
import Mathlib.Data.Vector.Basic

/-- A fixed-size byte layout in which every value has one encoding. -/
structure Codec (α : Type) where
  size : Nat
  encode : α → List UInt8
  decode : List UInt8 → α
  encode_length : ∀ value, (encode value).length = size
  decode_encode : ∀ value, decode (encode value) = value

attribute [simp] Codec.encode_length

namespace Codec
variable {α β : Type}
variable {value : α}
variable {values : List α} {bytes : List UInt8} {codec : Codec α}

/-- The low `width` bytes of a number, least significant first. -/
def leBytes : Nat → Nat → List UInt8
  | 0, _ => []
  | width + 1, n => UInt8.ofNat n :: leBytes width (n / 256)

def leValue : List UInt8 → Nat
  | [] => 0
  | byte :: rest => byte.toNat + 256 * leValue rest

theorem leBytes_length (width n : Nat) : (leBytes width n).length = width := by
  induction width generalizing n with
  | zero => rfl
  | succ width ih => simp [leBytes, ih]

theorem leValue_leBytes (width n : Nat) : leValue (leBytes width n) = n % 256 ^ width := by
  induction width generalizing n with
  | zero => simp [leBytes, leValue, Nat.mod_one]
  | succ width ih => simp [leBytes, leValue, ih, Nat.pow_succ', Nat.mod_mul]

def u8 : Codec UInt8 where
  size := 1
  encode value := leBytes 1 value.toNat
  decode bytes := UInt8.ofNat (leValue bytes)
  encode_length _ := leBytes_length _ _
  decode_encode value := by
    rw [leValue_leBytes, Nat.mod_eq_of_lt (by simpa using value.toNat_lt), UInt8.ofNat_toNat]

def u16 : Codec UInt16 where
  size := 2
  encode value := leBytes 2 value.toNat
  decode bytes := UInt16.ofNat (leValue bytes)
  encode_length _ := leBytes_length _ _
  decode_encode value := by
    rw [leValue_leBytes, Nat.mod_eq_of_lt (by simpa using value.toNat_lt), UInt16.ofNat_toNat]

def u32 : Codec UInt32 where
  size := 4
  encode value := leBytes 4 value.toNat
  decode bytes := UInt32.ofNat (leValue bytes)
  encode_length _ := leBytes_length _ _
  decode_encode value := by
    rw [leValue_leBytes, Nat.mod_eq_of_lt (by simpa using value.toNat_lt), UInt32.ofNat_toNat]

def u64 : Codec UInt64 where
  size := 8
  encode value := leBytes 8 value.toNat
  decode bytes := UInt64.ofNat (leValue bytes)
  encode_length _ := leBytes_length _ _
  decode_encode value := by
    rw [leValue_leBytes, Nat.mod_eq_of_lt (by simpa using value.toNat_lt), UInt64.ofNat_toNat]

/-- One layout after another. -/
def seq (first : Codec α) (second : Codec β) : Codec (α × β) where
  size := first.size + second.size
  encode value := first.encode value.1 ++ second.encode value.2
  decode bytes := (first.decode (bytes.take first.size), second.decode (bytes.drop first.size))
  encode_length value := by simp [first.encode_length, second.encode_length]
  decode_encode value := by
    rw [List.take_left' (first.encode_length _), List.drop_left' (first.encode_length _), first.decode_encode,
      second.decode_encode]

/-- The same bytes read as another type. -/
def iso (codec : Codec α) (read : α → β) (write : β → α) (inverse : ∀ value, read (write value) = value) :
    Codec β where
  size := codec.size
  encode value := codec.encode (write value)
  decode bytes := read (codec.decode bytes)
  encode_length value := codec.encode_length (write value)
  decode_encode value := by rw [codec.decode_encode, inverse]

theorem flatMap_length (codec : Codec α) (values : List α) :
    (values.flatMap codec.encode).length = values.length * codec.size := by
  induction values with
  | nil => simp
  | cons value rest ih => simp [Nat.succ_mul, Nat.add_comm]

/-- The bytes of the element at an index of a packed sequence. -/
theorem flatMap_chunk (codec : Codec α) {index : Nat} (present : values[index]? = some value) :
    ((values.flatMap codec.encode).drop (index * codec.size)).take codec.size = codec.encode value := by
  induction values generalizing index with
  | nil => simp at present
  | cons head rest ih =>
    cases index with
    | zero =>
      cases present
      simp [codec.encode_length]
    | succ index =>
      rw [List.flatMap_cons, Nat.succ_mul, Nat.add_comm, List.drop_append, codec.encode_length,
        List.drop_of_length_le (by rw [codec.encode_length]; omega), List.nil_append, Nat.add_sub_cancel_left]
      exact ih present

def array (codec : Codec α) (n : Nat) : Codec (Vector α n) where
  size := n * codec.size
  encode values := values.toList.flatMap codec.encode
  decode bytes := Vector.ofFn (fun index => codec.decode ((bytes.drop (index * codec.size)).take codec.size))
  encode_length values := by rw [codec.flatMap_length, Vector.length_toList]
  decode_encode values := by
    ext index bound
    have present : values.toList[index]? = some values[index] := by simp
    rw [Vector.getElem_ofFn, codec.flatMap_chunk present, codec.decode_encode]

/-! Reading one value among others -/

/-- The value that stands at an offset. -/
def field (codec : Codec α) (bytes : List UInt8) (offset : Nat) : α :=
  codec.decode ((bytes.drop offset).take codec.size)

section Field
variable (bytes : List UInt8) (offset : Nat)

theorem field_drop (codec : Codec α) (start : Nat) : codec.field (bytes.drop start) offset =
    codec.field bytes (start + offset) := by
  rw [field, field, List.drop_drop]

/-- A prefix that is long enough has the value too. -/
theorem field_take (codec : Codec α) {length : Nat} (within : offset + codec.size ≤ length) :
    codec.field (bytes.take length) offset = codec.field bytes offset := by
  rw [field, field, List.drop_take, List.take_take, Nat.min_eq_left (by omega)]

@[simp] theorem field_seq (first : Codec α) (second : Codec β) :
    (first.seq second).field bytes offset =
    (first.field bytes offset, second.field bytes (offset + first.size)) := by
  simp only [field, seq]
  rw [List.take_take, Nat.min_eq_left (Nat.le_add_right _ _), List.drop_take, List.drop_drop,
    Nat.add_sub_cancel_left]

@[simp] theorem field_iso (codec : Codec α) (read : α → β) (write : β → α)
    (inverse : ∀ value, read (write value) = value) :
    (codec.iso read write inverse).field bytes offset = read (codec.field bytes offset) := rfl

@[simp] theorem field_array (codec : Codec α) (n : Nat) :
    (codec.array n).field bytes offset = Vector.ofFn
    (fun index => codec.field bytes (offset + index * codec.size)) := by
  ext index bound
  have within : (index + 1) * codec.size ≤ n * codec.size := Nat.mul_le_mul_right _ bound
  rw [Nat.succ_mul] at within
  simp only [field, array, Vector.getElem_ofFn]
  rw [List.drop_take, List.drop_drop, List.take_take, Nat.min_eq_left (by omega)]

end Field

@[simp] theorem u8_size : u8.size = 1 := rfl
@[simp] theorem u16_size : u16.size = 2 := rfl
@[simp] theorem u32_size : u32.size = 4 := rfl
@[simp] theorem u64_size : u64.size = 8 := rfl
@[simp] theorem seq_size (first : Codec α) (second : Codec β) :
    (first.seq second).size = first.size + second.size := rfl
@[simp] theorem array_size (codec : Codec α) (n : Nat) : (codec.array n).size = n * codec.size := rfl

theorem u8_field {offset : Nat} {byte : UInt8} (there : bytes[offset]? = some byte) :
    u8.field bytes offset = byte := by
  obtain ⟨inside, rfl⟩ := List.getElem?_eq_some_iff.mp there
  have one : (bytes.drop offset).take 1 = [bytes[offset]] := by
    rw [List.drop_eq_getElem_cons inside]
    rfl
  change UInt8.ofNat (leValue ((bytes.drop offset).take 1)) = bytes[offset]
  rw [one]
  simp [leValue]

/-! Layouts without redundancy -/

theorem leValue_lt (bytes : List UInt8) : leValue bytes < 256 ^ bytes.length := by
  induction bytes with
  | nil => simp [leValue]
  | cons byte rest ih =>
    have bound := byte.toNat_lt
    rw [leValue, List.length_cons]
    omega

theorem leBytes_leValue (bytes : List UInt8) : leBytes bytes.length (leValue bytes) = bytes := by
  induction bytes with
  | nil => rfl
  | cons byte rest ih =>
    have bound := byte.toNat_lt
    have high : (byte.toNat + 256 * leValue rest) / 256 = leValue rest := by omega
    rw [List.length_cons, leBytes, leValue, high]
    congr 1
    rw [← UInt8.toNat_inj, UInt8.toNat_ofNat']
    omega

/-- Every string of the right length is the encoding of what it decodes to. -/
structure Canonical (codec : Codec α) : Prop where
  encode_decode : ∀ {bytes : List UInt8}, bytes.length = codec.size → codec.encode (codec.decode bytes) = bytes

/-- Numbers are written with all their bytes. -/
theorem canonical_of_le (number : α → Nat) (writes : ∀ a, codec.encode a = leBytes codec.size (number a))
    (reads : ∀ bytes, leValue bytes < 256 ^ codec.size → number (codec.decode bytes) = leValue bytes) :
    codec.Canonical := by
  refine ⟨fun {bytes} length => ?_⟩
  have bound := leValue_lt bytes
  rw [length] at bound
  rw [writes, reads bytes bound, ← length, leBytes_leValue]

theorem u8_canonical : u8.Canonical :=
  canonical_of_le UInt8.toNat (fun _ => rfl) fun _ bound => UInt8.toNat_ofNat'.trans (Nat.mod_eq_of_lt bound)

theorem u16_canonical : u16.Canonical :=
  canonical_of_le UInt16.toNat (fun _ => rfl) fun _ bound => UInt16.toNat_ofNat'.trans (Nat.mod_eq_of_lt bound)

theorem u32_canonical : u32.Canonical :=
  canonical_of_le UInt32.toNat (fun _ => rfl) fun _ bound => UInt32.toNat_ofNat'.trans (Nat.mod_eq_of_lt bound)

theorem u64_canonical : u64.Canonical :=
  canonical_of_le UInt64.toNat (fun _ => rfl) fun _ bound => UInt64.toNat_ofNat'.trans (Nat.mod_eq_of_lt bound)

/-- A packed sequence is the bytes it was read from. -/
theorem flatMap_chunks (length : bytes.length = values.length * codec.size)
    (each : ∀ (i : Nat) (inside : i < values.length),
      codec.encode values[i] = (bytes.drop (i * codec.size)).take codec.size) :
    values.flatMap codec.encode = bytes := by
  induction values generalizing bytes with
  | nil =>
    rw [List.length_nil, Nat.zero_mul, List.length_eq_zero_iff] at length
    rw [length]
    rfl
  | cons value rest ih =>
    have first := each 0 (Nat.succ_pos _)
    rw [Nat.zero_mul, List.drop_zero, List.getElem_cons_zero] at first
    rw [List.length_cons, Nat.succ_mul] at length
    have tail : rest.flatMap codec.encode = bytes.drop codec.size := by
      refine ih ?_ (fun i inside => ?_)
      · rw [List.length_drop]
        omega
      have next := each (i + 1) (Nat.succ_lt_succ inside)
      rw [List.getElem_cons_succ, Nat.succ_mul] at next
      rw [next, List.drop_drop, Nat.add_comm]
    rw [List.flatMap_cons, first, tail, List.take_append_drop]

namespace Canonical
variable {codec : Codec α}

theorem seq {second : Codec β} (first : codec.Canonical) (rest : second.Canonical) :
    (codec.seq second).Canonical := by
  refine ⟨fun {bytes} length => ?_⟩
  have length : bytes.length = codec.size + second.size := length
  change codec.encode (codec.decode (bytes.take codec.size)) ++
    second.encode (second.decode (bytes.drop codec.size)) = bytes
  rw [first.encode_decode, rest.encode_decode, List.take_append_drop]
  · rw [List.length_drop]
    omega
  rw [List.length_take]
  omega

theorem iso (canonical : codec.Canonical) {read : α → β} {write : β → α}
    {inverse : ∀ value, read (write value) = value}
    (back : ∀ value, write (read value) = value) : (codec.iso read write inverse).Canonical := by
  refine ⟨fun {bytes} length => ?_⟩
  change codec.encode (write (read (codec.decode bytes))) = bytes
  rw [back]
  exact canonical.encode_decode length

theorem array (canonical : codec.Canonical) (n : Nat) : (codec.array n).Canonical := by
  refine ⟨fun {bytes} length => ?_⟩
  have length : bytes.length = n * codec.size := length
  change (Vector.ofFn _).toList.flatMap codec.encode = bytes
  refine flatMap_chunks (by rw [Vector.length_toList, length]) (fun i inside => ?_)
  rw [Vector.length_toList] at inside
  have within : (i + 1) * codec.size ≤ n * codec.size := Nat.mul_le_mul_right _ inside
  rw [Nat.succ_mul] at within
  simp only [Vector.getElem_toList, Vector.getElem_ofFn]
  rw [canonical.encode_decode]
  rw [List.length_take, List.length_drop]
  omega

/-- The bytes of a value, where it was read. -/
theorem encode_field (canonical : codec.Canonical) {bytes : List UInt8} {offset : Nat}
    (within : offset + codec.size ≤ bytes.length) :
    codec.encode (codec.field bytes offset) = (bytes.drop offset).take codec.size := by
  refine canonical.encode_decode ?_
  rw [List.length_take, List.length_drop]
  omega

end Canonical

/-- A value that was written is there to read. -/
theorem field_encode (codec : Codec α) (before after : List UInt8) (value : α) {offset : Nat}
    (place : before.length = offset) :
    codec.field (before ++ codec.encode value ++ after) offset = value := by
  rw [field, List.append_assoc, List.drop_left' place, List.take_left' (codec.encode_length value),
    codec.decode_encode]

/-- The strings a layout is read from are those it writes. -/
theorem Canonical.field_iff (canonical : codec.Canonical) :
    bytes.length = codec.size ∧ codec.field bytes 0 = value ↔ bytes = codec.encode value := by
  constructor
  · rintro ⟨length, rfl⟩
    rw [canonical.encode_field (by omega), List.drop_zero, List.take_of_length_le (by omega)]
  rintro rfl
  have read := codec.field_encode [] [] value rfl
  rw [List.nil_append, List.append_nil] at read
  exact ⟨codec.encode_length value, read⟩

theorem field_encode_append (codec : Codec α) (value : α) (tail : List UInt8) :
    codec.field (codec.encode value ++ tail) 0 = value := codec.field_encode [] tail value rfl

/-- The same, with more behind. -/
theorem Canonical.append_iff (canonical : codec.Canonical) {tail : List UInt8} :
    codec.size ≤ bytes.length ∧ codec.field bytes 0 = value ∧ bytes.drop codec.size = tail ↔
      bytes = codec.encode value ++ tail := by
  constructor
  · rintro ⟨enough, rfl, rfl⟩
    rw [canonical.encode_field (by omega), List.drop_zero, List.take_append_drop]
  rintro rfl
  refine ⟨?_, codec.field_encode_append value tail, List.drop_left' (codec.encode_length value)⟩
  rw [List.length_append, codec.encode_length]
  omega

/-- A packed sequence, read at its offsets. -/
theorem Canonical.flatMap_iff (canonical : codec.Canonical) (length : bytes.length = values.length * codec.size) :
    (∀ (i : Nat) (inside : i < values.length), codec.field bytes (i * codec.size) = values[i]) ↔
      bytes = values.flatMap codec.encode := by
  constructor
  · intro each
    refine (flatMap_chunks length (fun i inside => ?_)).symm
    have within : (i + 1) * codec.size ≤ values.length * codec.size := Nat.mul_le_mul_right _ inside
    rw [Nat.succ_mul] at within
    rw [← each i inside, canonical.encode_field (by omega)]
  · rintro rfl i inside
    rw [field, codec.flatMap_chunk (List.getElem?_eq_getElem inside), codec.decode_encode]

end Codec
