import VirtioAccel.Library.Codec
import VirtioAccel.Library.Streams

/-! Canonical keys for the dynamic shapes and compile-time bytes of one specialization. -/

namespace VirtioAccel.Tosa
open List
variable {α : Type}

/-- A borrowed slice. Its length is a machine word. -/
structure Slice (α : Type) where
  items : List α
  small : items.length < 2 ^ 64
  deriving DecidableEq

theorem Slice.ext_items {first second : Slice α} (same : first.items = second.items) : first = second := by
  cases first
  cases second
  cases same
  rfl

inductive SpecializationError where
  | valuesOutOfOrder | tooManyWords | allocationFailed
  deriving DecidableEq

/-- The fingerprint only speeds the comparison up; the words are compared as well. -/
structure SpecializationKey where
  words : List UInt64
  fingerprint : UInt64 × UInt64
  deriving DecidableEq

def shapeTag : UInt64 := 0x5348415045000001
def ctcTag : UInt64 := 0x4354430000000002

def rotateLeft (word : UInt64) (amount : UInt64) : UInt64 := (word <<< amount) ||| (word >>> (64 - amount))

def fingerprintStep (state : UInt64 × UInt64) (word : UInt64) : UInt64 × UInt64 :=
  let first := (state.1 ^^^ word) * 0x00000100000001b3
  let second := state.2 ^^^ (word + rotateLeft first 17)
  (first, rotateLeft second 27 * 0x94d049bb133111eb)

def fingerprint (words : List UInt64) : UInt64 × UInt64 :=
  let state := words.foldl fingerprintStep (0xcbf29ce484222325, 0x9e3779b97f4a7c15)
  (state.1, state.2 ^^^ UInt64.ofNat words.length)

/-- The words of a key so far; the values come in order. -/
structure SpecializationKeyBuilder where
  words : List UInt64
  maxWords : Nat
  lastValue : Option UInt32
  deriving DecidableEq

/-- Eight bytes little-endian; a shorter last chunk is filled up with zeros. -/
def packChunk (chunk : List UInt8) : UInt64 := Codec.u64.decode (chunk ++ replicate (8 - chunk.length) 0)

def packBytes (bytes : List UInt8) : List UInt64 :=
  (range ((bytes.length + 7) / 8)).map fun chunk => packChunk ((bytes.drop (8 * chunk)).take 8)

namespace SpecializationKeyBuilder
variable (self : SpecializationKeyBuilder) (allocated : Bool)

def new (maxWords : Nat) : SpecializationKeyBuilder := ⟨[], maxWords, none⟩

/-- `allocated` is the allocator's answer. -/
def reserve (additional : Nat) : Except SpecializationError Unit :=
  if 2 ^ 64 ≤ self.words.length + additional ∨ self.maxWords < self.words.length + additional then
    .error .tooManyWords
  else if allocated then .ok () else .error .allocationFailed

/-- The three words before a payload. The length is converted only after the first two are there. -/
def beginValue (value : UInt32) (tag : UInt64)
    (payloadLen payloadWords : Nat) : Except SpecializationError Unit × SpecializationKeyBuilder :=
  if self.lastValue.any (fun prior => value ≤ prior) then (.error .valuesOutOfOrder, self)
  else if 2 ^ 64 ≤ 3 + payloadWords then (.error .tooManyWords, self)
  else match self.reserve allocated (3 + payloadWords) with
    | .error error => (.error error, self)
    | .ok () =>
      if 2 ^ 64 ≤ payloadLen then (.error .tooManyWords, { self with words := self.words ++ [tag, value.toUInt64] })
      else (.ok (), { self with
        words := self.words ++ [tag, value.toUInt64, UInt64.ofNat payloadLen]
        lastValue := some value })

def pushShape (value : UInt32) (dimensions : Slice UInt64) :
    Except SpecializationError Unit × SpecializationKeyBuilder :=
  match self.beginValue allocated value shapeTag dimensions.items.length dimensions.items.length with
  | (.error error, self) => (.error error, self)
  | (.ok (), self) => (.ok (), { self with words := self.words ++ dimensions.items })

def pushCtc (value : UInt32) (bytes : Slice UInt8) : Except SpecializationError Unit × SpecializationKeyBuilder :=
  match self.beginValue allocated value ctcTag bytes.items.length ((bytes.items.length + 7) / 8) with
  | (.error error, self) => (.error error, self)
  | (.ok (), self) => (.ok (), { self with words := self.words ++ packBytes bytes.items })

def finish (self : SpecializationKeyBuilder) : SpecializationKey := ⟨self.words, fingerprint self.words⟩

end SpecializationKeyBuilder

/-- What one call appends. -/
inductive SpecializationRecord where
  | shape (value : UInt32) (dimensions : Slice UInt64)
  | ctc (value : UInt32) (bytes : Slice UInt8)
  deriving DecidableEq

namespace SpecializationRecord

def value : SpecializationRecord → UInt32
  | shape value _ | ctc value _ => value

def words : SpecializationRecord → List UInt64
  | shape value dimensions =>
    shapeTag :: value.toUInt64 :: UInt64.ofNat dimensions.items.length :: dimensions.items
  | ctc value bytes => ctcTag :: value.toUInt64 :: UInt64.ofNat bytes.items.length :: packBytes bytes.items

end SpecializationRecord

section Packing

variable {first second : List UInt8}

theorem packBytes_length (bytes : List UInt8) : (packBytes bytes).length = (bytes.length + 7) / 8 := by
  simp [packBytes]

theorem packChunk_injective (short : first.length ≤ 8) (length : first.length = second.length)
    (same : packChunk first = packChunk second) : first = second := by
  have fills : ∀ chunk : List UInt8, chunk.length ≤ 8 →
      Codec.u64.encode (packChunk chunk) = chunk ++ replicate (8 - chunk.length) 0 := fun chunk short =>
    Codec.u64_canonical.encode_decode (by
      simp only [length_append, length_replicate, Codec.u64_size]
      omega)
  have padded := congrArg Codec.u64.encode same
  rw [fills first short, fills second (by omega)] at padded
  exact (append_inj padded length).1

/-- Bytes of one length are told apart by their words. -/
theorem packBytes_injective (length : first.length = second.length) (same : packBytes first = packBytes second) :
    first = second := by
  refine ext_getElem? fun i => ?_
  by_cases inside : i < first.length
  · have chunk : (first.drop (8 * (i / 8))).take 8 = (second.drop (8 * (i / 8))).take 8 := by
      refine packChunk_injective (length_take_le ..) (by simp [length]) ?_
      have entry := congrArg (·[i / 8]?) same
      have below : i / 8 < (first.length + 7) / 8 := by omega
      simpa [packBytes, below, length ▸ below] using entry
    have entry := congrArg (·[i % 8]?) chunk
    have least : i % 8 < 8 := by omega
    simp only [getElem?_take, least, getElem?_drop] at entry
    rwa [Nat.div_add_mod] at entry
  · rw [getElem?_eq_none (by omega), getElem?_eq_none (by omega)]

end Packing

section Records

/-- A length word determines the length of a slice. -/
theorem slice_length {β : Type} {first : Slice α} {second : Slice β}
    (same : UInt64.ofNat first.items.length = UInt64.ofNat second.items.length) :
    first.items.length = second.items.length := by
  have numbers := congrArg UInt64.toNat same
  rwa [UInt64.toNat_ofNat', UInt64.toNat_ofNat', Nat.mod_eq_of_lt first.small,
    Nat.mod_eq_of_lt second.small] at numbers

theorem value_word {first second : UInt32} (same : first.toUInt64 = second.toUInt64) : first = second := by
  have numbers := congrArg UInt64.toNat same
  exact UInt32.toNat_inj.mp numbers

/-- The tag tells the kind, and the length word where the payload ends. -/
theorem SpecializationRecord.words_delimit : Streams.SelfDelimiting SpecializationRecord.words where
  nonempty record := by cases record <;> simp [words]
  front {first second rest rest'} same := by
    cases first with
    | shape value dimensions =>
      cases second with
      | shape value' dimensions' =>
        simp only [words, cons_append, cons.injEq, true_and] at same
        obtain ⟨value, length, payload⟩ := same
        obtain rfl := value_word value
        rw [Slice.ext_items (append_inj payload (slice_length length)).1]
      | ctc value' bytes' =>
        simp only [words, cons_append, cons.injEq] at same
        exact absurd same.1 (by decide)
    | ctc value bytes =>
      cases second with
      | shape value' dimensions' =>
        simp only [words, cons_append, cons.injEq] at same
        exact absurd same.1 (by decide)
      | ctc value' bytes' =>
        simp only [words, cons_append, cons.injEq, true_and] at same
        obtain ⟨value, length, payload⟩ := same
        obtain rfl := value_word value
        have count := slice_length length
        have packed := (append_inj payload (by rw [packBytes_length, packBytes_length, count])).1
        rw [Slice.ext_items (packBytes_injective count packed)]

end Records

namespace SpecializationKeyBuilder
variable {allocated : Bool}

def push (self : SpecializationKeyBuilder) (allocated : Bool) :
    SpecializationRecord → Except SpecializationError Unit × SpecializationKeyBuilder
  | .shape value dimensions => self.pushShape allocated value dimensions
  | .ctc value bytes => self.pushCtc allocated value bytes

/-- Calls in turn, each with the allocator's answer, and the records of those that succeeded. -/
def run (self : SpecializationKeyBuilder) :
    List (Bool × SpecializationRecord) → List SpecializationRecord × SpecializationKeyBuilder
  | [] => ([], self)
  | (allocated, record) :: rest =>
    match self.push allocated record with
    | (.error _, self) => self.run rest
    | (.ok (), self) => (record :: (self.run rest).1, (self.run rest).2)

/-- What a call can do: nothing, or append its whole record after those of smaller values. -/
inductive Pushed (self : SpecializationKeyBuilder) (record : SpecializationRecord) :
    Except SpecializationError Unit × SpecializationKeyBuilder → Prop where
  | refused (error : SpecializationError) : Pushed self record (.error error, self)
  | appended (later : ∀ prior, self.lastValue = some prior → prior < record.value)
    (bounded : self.words.length + record.words.length ≤ self.maxWords) :
    Pushed self record (.ok (), ⟨self.words ++ record.words, self.maxWords, some record.value⟩)

variable {self : SpecializationKeyBuilder}

theorem reserve_eq_ok {additional : Nat} (reserved : self.reserve allocated additional = .ok ()) :
    self.words.length + additional ≤ self.maxWords := by
  unfold reserve at reserved
  split at reserved
  · cases reserved
  · omega

variable {record : SpecializationRecord}

/-- A call that begins its value and then appends the payload, for a slice that exists. -/
theorem pushed_of_beginValue {value : UInt32} {tag : UInt64} {payloadLen : Nat} {payload : List UInt64}
    (small : payloadLen < 2 ^ 64) (named : record.value = value)
    (written : record.words = [tag, value.toUInt64, UInt64.ofNat payloadLen] ++ payload) :
    Pushed self record (match self.beginValue allocated value tag payloadLen payload.length with
      | (.error error, self) => (.error error, self)
      | (.ok (), self) => (.ok (), { self with words := self.words ++ payload })) := by
  unfold beginValue
  by_cases order : self.lastValue.any (fun prior => value ≤ prior) = true
  · rw [if_pos order]
    exact .refused _
  rw [if_neg order]
  split
  · rename_i begun
    split at begun
    · cases begun
      exact .refused _
    split at begun
    · cases begun
      exact .refused _
    rw [if_neg (by omega)] at begun
    cases begun
  · rename_i begun
    split at begun
    · cases begun
    split at begun
    · cases begun
    rename_i reserved
    rw [if_neg (by omega)] at begun
    cases begun
    have bounded := reserve_eq_ok reserved
    have appended : Pushed self record (.ok (),
        ⟨self.words ++ record.words, self.maxWords, some record.value⟩) := by
      refine .appended (fun prior last => ?_) ?_
      · rw [last, Option.any_some, decide_eq_true_eq, UInt32.not_le] at order
        exact named ▸ order
      rw [written, length_append]
      simpa [Nat.add_assoc] using bounded
    simpa [written, named] using appended

theorem push_pushed (self : SpecializationKeyBuilder) (allocated : Bool) (record : SpecializationRecord) :
    Pushed self record (self.push allocated record) := by
  cases record with
  | shape value dimensions => exact pushed_of_beginValue dimensions.small rfl rfl
  | ctc value bytes =>
    have pushed : Pushed self (.ctc value bytes)
        (match self.beginValue allocated value ctcTag bytes.items.length (packBytes bytes.items).length with
          | (.error error, self) => (.error error, self)
          | (.ok (), self) => (.ok (), { self with words := self.words ++ packBytes bytes.items })) :=
      pushed_of_beginValue bytes.small rfl rfl
    rw [packBytes_length] at pushed
    exact pushed

/-- What a builder has gathered: the records so far, in the order of their values, within the limit. -/
structure Holds (builder : SpecializationKeyBuilder) (records : List SpecializationRecord) : Prop where
  words : builder.words = records.flatMap SpecializationRecord.words
  ascending : (records.map SpecializationRecord.value).Pairwise (· < ·)
  last : ∀ record ∈ records, ∃ prior, builder.lastValue = some prior ∧ record.value ≤ prior
  bounded : builder.words.length ≤ builder.maxWords

variable {records : List SpecializationRecord} {next : SpecializationKeyBuilder}

theorem Holds.push (holds : self.Holds records) (pushed : self.push allocated record = (.ok (), next)) :
    next.Holds (records ++ [record]) ∧ next.maxWords = self.maxWords := by
  have outcome := self.push_pushed allocated record
  rw [pushed] at outcome
  cases outcome with
  | appended later bounded =>
    refine ⟨⟨?_, ?_, ?_, ?_⟩, rfl⟩
    · simp [holds.words]
    · rw [map_append, pairwise_append]
      refine ⟨holds.ascending, pairwise_singleton .., ?_⟩
      intro value listed other same
      obtain ⟨earlier, member, rfl⟩ := mem_map.mp listed
      obtain ⟨prior, last, below⟩ := holds.last earlier member
      rw [map_singleton, mem_singleton] at same
      exact same ▸ UInt32.lt_of_le_of_lt below (later prior last)
    · intro other member
      refine ⟨record.value, rfl, ?_⟩
      rcases mem_append.mp member with old | new
      · obtain ⟨prior, last, below⟩ := holds.last other old
        exact UInt32.le_of_lt (UInt32.lt_of_le_of_lt below (later prior last))
      rw [mem_singleton.mp new]
      exact UInt32.le_refl _
    · rw [length_append]
      exact bounded

theorem push_error {error : SpecializationError} (failed : self.push allocated record = (.error error, next)) :
    next = self := by
  have outcome := self.push_pushed allocated record
  rw [failed] at outcome
  cases outcome with
  | refused => rfl

theorem Holds.run (holds : self.Holds records) (pushes : List (Bool × SpecializationRecord)) :
    (self.run pushes).2.Holds (records ++ (self.run pushes).1) ∧ (self.run pushes).2.maxWords = self.maxWords := by
  induction pushes generalizing self records with
  | nil =>
    rw [run, append_nil]
    exact ⟨holds, rfl⟩
  | cons push rest ih =>
    obtain ⟨allocated, record⟩ := push
    unfold run
    split
    · rename_i failed
      rw [push_error failed]
      exact ih holds
    · rename_i next pushed
      obtain ⟨now, limit⟩ := holds.push pushed
      obtain ⟨later, same⟩ := ih now
      rw [append_assoc, singleton_append] at later
      exact ⟨later, same.trans limit⟩

theorem new_holds (maxWords : Nat) : (new maxWords).Holds [] := ⟨rfl, .nil, nofun, Nat.zero_le _⟩

/-- Whatever was pushed, and whatever of it failed, a finished key stands for the records that are in it and for no
others. -/
theorem keys_injective :
    (∀ (maxWords maxWords' : Nat) (pushes pushes' : List (Bool × SpecializationRecord)),
      ((new maxWords).run pushes).2.finish = ((new maxWords').run pushes').2.finish ↔
        ((new maxWords).run pushes).1 = ((new maxWords').run pushes').1) ∧
    (∀ (maxWords : Nat) (pushes : List (Bool × SpecializationRecord)),
      (((new maxWords).run pushes).1.map SpecializationRecord.value).Pairwise (· < ·) ∧
        ((new maxWords).run pushes).2.finish.words =
        ((new maxWords).run pushes).1.flatMap SpecializationRecord.words ∧
        ((new maxWords).run pushes).2.finish.words.length ≤ maxWords) ∧
    ∀ (self next : SpecializationKeyBuilder) (allocated : Bool) (record : SpecializationRecord)
      (error : SpecializationError), self.push allocated record = (.error error, next) → next = self := by
  have holds : ∀ maxWords pushes, ((new maxWords).run pushes).2.Holds ((new maxWords).run pushes).1 ∧
      ((new maxWords).run pushes).2.maxWords = maxWords := fun maxWords pushes => (new_holds maxWords).run pushes
  refine ⟨fun maxWords maxWords' pushes pushes' => ?_, fun maxWords pushes => ?_, fun _ _ _ _ _ failed =>
    push_error failed⟩
  · have first := (holds maxWords pushes).1.words
    have second := (holds maxWords' pushes').1.words
    constructor
    · intro same
      have words := congrArg SpecializationKey.words same
      refine SpecializationRecord.words_delimit.flatMap_injective ?_
      rw [← first, ← second]
      exact words
    · intro same
      rw [finish, finish, first, second, same]
  · obtain ⟨now, limit⟩ := holds maxWords pushes
    exact ⟨now.ascending, now.words, now.bounded.trans_eq limit⟩

end SpecializationKeyBuilder
end VirtioAccel.Tosa
