import VirtioAccel.Library.Recency
import VirtioAccel.Tosa.SpecializationKey

/-! The cache of compiled specializations: stamps in an unordered vector, and a clock that starts over by sorting
and renumbering the entries. -/

namespace VirtioAccel.Tosa
open List Recency
variable {V : Type}

/-- A value, and when it was last used. -/
structure CacheEntry (V : Type) where
  key : SpecializationKey
  value : V
  lastUsed : Nat

def CacheEntry.pair (entry : CacheEntry V) : SpecializationKey × V := (entry.key, entry.value)

/-- An insertion that could not reserve its entry gives both back. -/
structure CacheInsertError (V : Type) where
  key : SpecializationKey
  value : V

/-- The cache: its entries and a clock that counts the uses. -/
structure SpecializationCache (V : Type) where
  capacity : Nat
  nonzero : 0 < capacity
  clock : Nat
  entries : List (CacheEntry V)

/-- `swap_remove`: the last entry fills the gap. -/
def swapRemove {α : Type} (entries : List α) (index : Nat) : List α :=
  match entries.getLast? with
  | none => entries
  | some last => (entries.set index last).dropLast

namespace SpecializationCache
variable {key : SpecializationKey} {i : Nat}
variable (self : SpecializationCache V)

def new (capacity : Nat) (nonzero : 0 < capacity) : SpecializationCache V := ⟨capacity, nonzero, 0, []⟩

def clockMax : Nat := 2 ^ 64 - 1

def matchesKey (key : SpecializationKey) (entry : CacheEntry V) : Bool :=
  entry.key.fingerprint == key.fingerprint && entry.key.words == key.words

def position (key : SpecializationKey) : Option Nat :=
  self.entries.findIdx? (matchesKey key)

/-- The entries from the least to the most recently used. -/
def sortByUse (entries : List (CacheEntry V)) : List (CacheEntry V) :=
  entries.insertionSort (fun left right => left.lastUsed ≤ right.lastUsed)

/-- In that order, under the stamps from zero on. -/
def renumbered (entries : List (CacheEntry V)) : List (CacheEntry V) :=
  (sortByUse entries).mapIdx fun index entry => { entry with lastUsed := index }

/-- The clock as it stands before a stamp is taken. -/
def wound : SpecializationCache V :=
  if self.clock = clockMax then { self with entries := renumbered self.entries, clock := self.entries.length }
    else self

def tick : Nat × SpecializationCache V :=
  (self.wound.clock, { self.wound with clock := self.wound.clock + 1 })

/-- `get` and `get_mut`; `change` is what the caller does through the reference. The position is taken before the
tick. -/
def access (key : SpecializationKey) (change : V → V) : Option V × SpecializationCache V :=
  match self.position key with
  | none => (none, self)
  | some index =>
    let (stamp, ticked) := self.tick
    match ticked.entries[index]? with
    | none => (none, ticked)
    | some entry =>
      (some entry.value, { ticked with
        entries := ticked.entries.set index { entry with value := change entry.value, lastUsed := stamp } })

def get (key : SpecializationKey) : Option V × SpecializationCache V := self.access key id

def getMut (key : SpecializationKey) (change : V → V) : Option V × SpecializationCache V := self.access key change

/-- The first entry with the least stamp. -/
def leastRecent (entries : List (CacheEntry V)) : Option Nat :=
  entries.findIdx? fun entry => entries.all fun other => entry.lastUsed ≤ other.lastUsed

/-- `allocated` is the allocator's answer; a vector holds fewer than `2 ^ 63` entries whatever it says. -/
def insert (allocated : Bool) (key : SpecializationKey) (value : V) :
    Except (CacheInsertError V) (Option V) × SpecializationCache V :=
  let (stamp, self) := self.tick
  match self.position key with
  | some index =>
    (.ok ((self.entries[index]?).map CacheEntry.value), { self with
      entries := self.entries.modify index fun entry => { entry with value, lastUsed := stamp } })
  | none =>
    if self.entries.length = self.capacity then
      let index := (leastRecent self.entries).getD 0
      (.ok ((self.entries[index]?).map CacheEntry.value), { self with
        entries := swapRemove self.entries index ++ [⟨key, value, stamp⟩] })
    else if allocated && self.entries.length + 1 < 2 ^ 63 then
      (.ok none, { self with entries := self.entries ++ [⟨key, value, stamp⟩] })
    else (.error ⟨key, value⟩, self)

/-- What the entries say as a map. -/
def recency (entries : List (CacheEntry V)) : Map SpecializationKey V := (sortByUse entries).map CacheEntry.pair

section Order
variable {entries sorted : List (CacheEntry V)}

theorem sortByUse_perm (entries : List (CacheEntry V)) : (sortByUse entries).Perm entries :=
  perm_insertionSort _ entries

/-- Under distinct stamps the order is strict. -/
theorem sortByUse_strict (distinct : (entries.map CacheEntry.lastUsed).Nodup) :
    (sortByUse entries).Pairwise fun left right => left.lastUsed < right.lastUsed := by
  have ordered : (sortByUse entries).Pairwise (fun left right => left.lastUsed ≤ right.lastUsed) :=
    pairwise_insertionSort _ entries
  have apart : (sortByUse entries).Pairwise (fun left right => left.lastUsed ≠ right.lastUsed) :=
    pairwise_map.mp (((sortByUse_perm entries).map CacheEntry.lastUsed).nodup_iff.mpr distinct)
  exact (ordered.and apart).imp fun ⟨below, other⟩ => Nat.lt_of_le_of_ne below other

/-- Any strict order of the entries is that one. -/
theorem sortByUse_eq (perm : sorted.Perm entries)
    (strict : sorted.Pairwise fun left right => left.lastUsed < right.lastUsed) :
    sortByUse entries = sorted ∧ (entries.map CacheEntry.lastUsed).Nodup := by
  have distinct : (entries.map CacheEntry.lastUsed).Nodup :=
    (perm.map CacheEntry.lastUsed).nodup_iff.mp (pairwise_map.mpr (strict.imp fun below => Nat.ne_of_lt below))
  refine ⟨?_, distinct⟩
  refine Perm.eq_of_pairwise (fun a b _ _ first second => ?_) (sortByUse_strict distinct) strict
    ((sortByUse_perm entries).trans perm.symm)
  exact absurd (Nat.lt_trans first second) (Nat.lt_irrefl _)

/-- Sorting and renumbering keeps the order. -/
theorem renumbered_strict (entries : List (CacheEntry V)) :
    (renumbered entries).Pairwise fun left right => left.lastUsed < right.lastUsed := by
  rw [pairwise_iff_getElem]
  intro i j _ _ below
  simpa [renumbered] using below

theorem renumbered_pairs (entries : List (CacheEntry V)) : (renumbered entries).map CacheEntry.pair =
    recency entries := by
  refine ext_getElem? fun i => ?_
  simp only [renumbered, recency, getElem?_map, getElem?_mapIdx, Option.map_map]
  rfl

theorem renumbered_length (entries : List (CacheEntry V)) : (renumbered entries).length = entries.length := by
  simp [renumbered, sortByUse]

variable {entry : CacheEntry V}

theorem renumbered_lt (member : entry ∈ renumbered entries) : entry.lastUsed < entries.length := by
  obtain ⟨i, below, rfl⟩ := getElem_of_mem member
  rw [renumbered_length] at below
  simpa [renumbered] using below

end Order

section Entries
variable {entries : List (CacheEntry V)}

theorem matchesKey_iff : matchesKey key entry = true ↔ entry.key = key := by
  obtain ⟨⟨words, fingerprint⟩, value, lastUsed⟩ := entry
  obtain ⟨words', fingerprint'⟩ := key
  simp only [matchesKey, Bool.and_eq_true, beq_iff_eq, SpecializationKey.mk.injEq]
  exact and_comm

section
variable (stamps : (entries.map CacheEntry.lastUsed).Nodup)
include stamps

/-- An entry among those in order of their use. -/
theorem recency_split (present : entries[i]? = some entry) :
    ∃ before after, sortByUse entries = before ++ entry :: after ∧
      (before ++ after).Perm (entries.eraseIdx i) ∧
      entries.countP (fun other => other.lastUsed < entry.lastUsed) = before.length := by
  obtain ⟨inside, rfl⟩ := List.getElem?_eq_some_iff.mp present
  have perm := sortByUse_perm entries
  obtain ⟨before, after, split⟩ := append_of_mem (perm.mem_iff.mpr (getElem_mem inside))
  have strict := sortByUse_strict stamps
  rw [split] at perm strict
  refine ⟨before, after, split, ?_, ?_⟩
  · have front : (entries[i] :: (before ++ after)).Perm (entries[i] :: entries.eraseIdx i) :=
      perm_middle.symm.trans (perm.trans (getElem_cons_eraseIdx_perm inside).symm)
    exact front.cons_inv
  rw [← perm.countP_eq]
  rw [pairwise_append, pairwise_cons] at strict
  obtain ⟨_, ⟨above, _⟩, below⟩ := strict
  rw [countP_append, countP_cons_of_neg (by simp), countP_eq_length.mpr, countP_eq_zero.mpr]
  · rfl
  · intro other member
    have := above other member
    simp only [decide_eq_true_eq]
    omega
  · intro other member
    simpa using below other member entries[i] (mem_cons_self ..)

theorem recency_find (keys : ((recency entries).map Prod.fst).Nodup) (present : entries[i]? = some entry) :
    (recency entries).find entry.key = some entry.value := by
  obtain ⟨before, after, split, _, _⟩ := recency_split stamps present
  have pairs : recency entries = before.map CacheEntry.pair ++
      (entry.key, entry.value) :: after.map CacheEntry.pair := by
    rw [recency, split, map_append]
    rfl
  rw [pairs] at keys ⊢
  exact (Map.find_split keys).1

variable {used : CacheEntry V}

/-- An entry that is used becomes the last one of the order. -/
theorem recency_set (keys : ((recency entries).map Prod.fst).Nodup) (present : entries[i]? = some entry)
    (named : used.key = entry.key) (latest : ∀ other ∈ entries, other.lastUsed < used.lastUsed) :
    recency (entries.set i used) = (recency entries).touch entry.key used.value ∧
      ((entries.set i used).map CacheEntry.lastUsed).Nodup := by
  obtain ⟨before, after, split, rest, _⟩ := recency_split stamps present
  have inside := (List.getElem?_eq_some_iff.mp present).1
  have perm : (before ++ after ++ [used]).Perm (entries.set i used) :=
    ((rest.append_right _).trans perm_append_comm).trans (set_perm_cons_eraseIdx inside used).symm
  have strict : (before ++ after ++ [used]).Pairwise fun left right => left.lastUsed < right.lastUsed := by
    have sorted := sortByUse_strict stamps
    rw [split] at sorted
    refine pairwise_append.mpr ⟨sorted.sublist ((sublist_cons_self ..).append_left before),
      pairwise_singleton .., ?_⟩
    intro other member last same
    rw [mem_singleton.mp same]
    exact latest other (mem_of_mem_eraseIdx (rest.mem_iff.mp member))
  obtain ⟨order, distinct⟩ := sortByUse_eq perm strict
  have pairs : recency entries = before.map CacheEntry.pair ++
      (entry.key, entry.value) :: after.map CacheEntry.pair := by
    rw [recency, split, map_append, map_cons]
    rfl
  rw [pairs] at keys
  refine ⟨?_, distinct⟩
  rw [pairs, (Map.find_split keys).2, recency, order, map_append, map_append, map_singleton, CacheEntry.pair, named]

/-- A new entry is the last one of the order. -/
theorem recency_append {new : CacheEntry V} (latest : ∀ other ∈ entries, other.lastUsed < new.lastUsed) :
    recency (entries ++ [new]) = recency entries ++ [(new.key, new.value)] ∧
      ((entries ++ [new]).map CacheEntry.lastUsed).Nodup := by
  have perm : (sortByUse entries ++ [new]).Perm (entries ++ [new]) := (sortByUse_perm entries).append_right _
  have strict : (sortByUse entries ++ [new]).Pairwise fun left right => left.lastUsed < right.lastUsed := by
    refine pairwise_append.mpr ⟨sortByUse_strict stamps, pairwise_singleton .., ?_⟩
    intro other member last same
    rw [mem_singleton.mp same]
    exact latest other ((sortByUse_perm entries).mem_iff.mp member)
  obtain ⟨order, distinct⟩ := sortByUse_eq perm strict
  refine ⟨?_, distinct⟩
  rw [recency, order, map_append]
  rfl

end

theorem swapRemove_perm {α : Type} {l : List α} (inside : i < l.length) : (swapRemove l i).Perm (l.eraseIdx i) := by
  obtain ⟨front, last, rfl⟩ : ∃ front last, l = front ++ [last] :=
    ⟨l.dropLast, l.getLast (by rintro rfl; simp at inside), (dropLast_append_getLast _).symm⟩
  simp only [swapRemove, getLast?_append, getLast?_singleton, Option.some_or]
  rw [length_append, length_singleton] at inside
  by_cases end_ : i = front.length
  · subst end_
    simp [eraseIdx_append_of_length_le]
  have below : i < front.length := by omega
  rw [set_append_left _ _ below, dropLast_concat, eraseIdx_append_of_lt_length below]
  exact (set_perm_cons_eraseIdx below last).trans (perm_append_singleton ..).symm

/-- The entry with the least stamp is the first one of the order, and goes when it is removed. -/
theorem leastRecent_spec (stamps : (entries.map CacheEntry.lastUsed).Nodup) (some : entries ≠ []) :
    ∃ i entry, leastRecent entries = .some i ∧ entries[i]? = .some entry ∧
      recency entries = (entry.key, entry.value) :: recency (swapRemove entries i) ∧
      ((swapRemove entries i).map CacheEntry.lastUsed).Nodup := by
  have perm := sortByUse_perm entries
  have strict := sortByUse_strict stamps
  cases order : sortByUse entries with
  | nil =>
    rw [order] at perm
    exact absurd perm.symm.eq_nil some
  | cons first rest =>
    rw [order] at perm strict
    obtain ⟨above, rest_strict⟩ := pairwise_cons.mp strict
    have least : ∀ other ∈ entries, first.lastUsed ≤ other.lastUsed := by
      intro other member
      rcases mem_cons.mp (perm.mem_iff.mpr member) with rfl | later
      · exact Nat.le_refl _
      · exact Nat.le_of_lt (above other later)
    have found : (leastRecent entries).isSome := by
      rw [leastRecent, findIdx?_isSome, any_eq_true]
      refine ⟨first, perm.mem_iff.mp (mem_cons_self ..), ?_⟩
      simpa [all_eq_true] using least
    obtain ⟨i, here⟩ := Option.isSome_iff_exists.mp found
    obtain ⟨inside, smallest, _⟩ := findIdx?_eq_some_iff_getElem.mp here
    have same : entries[i] = first := by
      rcases mem_cons.mp (perm.mem_iff.mpr (getElem_mem inside)) with same | later
      · exact same
      have strictly := above _ later
      have weakly := of_decide_eq_true (all_eq_true.mp smallest first (perm.mem_iff.mp (mem_cons_self ..)))
      omega
    have left : rest.Perm (swapRemove entries i) := by
      refine Perm.trans ?_ (swapRemove_perm inside).symm
      have front := perm.trans (getElem_cons_eraseIdx_perm inside).symm
      rw [same] at front
      exact front.cons_inv
    obtain ⟨rest_order, distinct⟩ := sortByUse_eq left rest_strict
    refine ⟨i, first, here, ?_, ?_, distinct⟩
    · rw [getElem?_eq_getElem inside, same]
    rw [recency, order, recency, rest_order]
    rfl

end Entries

/-- The cache stands for the map. Its clock is ahead of every stamp and has not run out. -/
structure Represents (cache : SpecializationCache V) (map : Map SpecializationKey V) : Prop where
  order : recency cache.entries = map
  stamps : (cache.entries.map CacheEntry.lastUsed).Nodup
  keys : (map.map Prod.fst).Nodup
  past : ∀ entry ∈ cache.entries, entry.lastUsed < cache.clock
  clock : cache.clock ≤ clockMax
  small : cache.entries.length < 2 ^ 63
  within : cache.entries.length ≤ cache.capacity

namespace Represents
variable {cache : SpecializationCache V} {map : Map SpecializationKey V}

theorem new (capacity : Nat) (nonzero : 0 < capacity) :
    (new capacity nonzero : SpecializationCache V).Represents [] :=
  ⟨rfl, nodup_nil, nodup_nil, nofun, Nat.zero_le _, Nat.two_pow_pos 63, Nat.zero_le _⟩

section
variable (holds : cache.Represents map)
include holds

theorem length : map.length = cache.entries.length := by
  rw [← holds.order, recency, length_map, (sortByUse_perm cache.entries).length_eq]

theorem key_mem : key ∈ map.map Prod.fst ↔ ∃ entry ∈ cache.entries, entry.key = key := by
  rw [← holds.order, recency, map_map, mem_map]
  exact exists_congr fun entry => and_congr_left' (sortByUse_perm cache.entries).mem_iff

theorem find (present : cache.entries[i]? = some entry) : map.find entry.key = some entry.value :=
  holds.order ▸ recency_find holds.stamps (holds.order ▸ holds.keys) present

/-- Winding the clock up leaves room for a stamp and changes no more than the stamps. -/
theorem wound : cache.wound.Represents map ∧ cache.wound.clock < clockMax := by
  have small := holds.small
  unfold SpecializationCache.wound
  split
  · have order : recency (renumbered cache.entries) = map := by
      rw [recency, (sortByUse_eq (Perm.refl _) (renumbered_strict cache.entries)).1, renumbered_pairs, holds.order]
    refine ⟨⟨order, (sortByUse_eq (Perm.refl _) (renumbered_strict cache.entries)).2, holds.keys,
      fun entry member => renumbered_lt member, ?_, ?_, ?_⟩, ?_⟩
    · simp only [clockMax]
      omega
    · rw [renumbered_length]
      exact small
    · rw [renumbered_length]
      exact holds.within
    · simp only [clockMax]
      omega
  · rename_i running
    exact ⟨holds, Nat.lt_of_le_of_ne holds.clock running⟩

/-- A stamp is later than all that are given out. -/
theorem tick : cache.tick.2.Represents map ∧ (∀ entry ∈ cache.tick.2.entries, entry.lastUsed < cache.tick.1) ∧
      cache.tick.1 < cache.tick.2.clock := by
  obtain ⟨now, room⟩ := holds.wound
  refine ⟨⟨now.order, now.stamps, now.keys, ?_, room, now.small, now.within⟩, now.past, Nat.lt_succ_self _⟩
  exact fun entry member => Nat.lt_succ_of_lt (now.past entry member)

/-- An entry is used under a stamp that is later than all others. -/
theorem set (present : cache.entries[i]? = some entry) (named : used.key = entry.key)
    (latest : ∀ other ∈ cache.entries, other.lastUsed < used.lastUsed) (now : used.lastUsed < cache.clock) :
    { cache with entries := cache.entries.set i used }.Represents (map.touch entry.key used.value) := by
  obtain ⟨order, stamps⟩ := recency_set holds.stamps (holds.order ▸ holds.keys) present named latest
  rw [holds.order] at order
  refine ⟨order, stamps, Map.touch_keys holds.keys, ?_, holds.clock, ?_, ?_⟩
  · intro other member
    rcases mem_or_eq_of_mem_set member with old | rfl
    · exact holds.past other old
    · exact now
  · rw [length_set]
    exact holds.small
  · rw [length_set]
    exact holds.within

theorem append {new : CacheEntry V} (absent : new.key ∉ map.map Prod.fst)
    (latest : ∀ other ∈ cache.entries, other.lastUsed < new.lastUsed) (now : new.lastUsed < cache.clock)
    (small : cache.entries.length + 1 < 2 ^ 63) (room : cache.entries.length < cache.capacity) :
    { cache with entries := cache.entries ++ [new] }.Represents (map ++ [(new.key, new.value)]) := by
  obtain ⟨order, stamps⟩ := recency_append holds.stamps latest
  rw [holds.order] at order
  refine ⟨order, stamps, ?_, ?_, holds.clock, ?_, ?_⟩
  · rw [map_append, nodup_append]
    refine ⟨holds.keys, by simp, fun key listed other same equal => absent ?_⟩
    rw [map_singleton, mem_singleton] at same
    have key_eq : key = new.key := equal.trans same
    exact key_eq ▸ listed
  · intro other member
    rcases mem_append.mp member with old | last
    · exact holds.past other old
    rw [mem_singleton.mp last]
    exact now
  · rw [length_append]
    exact small
  · rw [length_append]
    exact room

/-- The least recently used entry is removed. -/
theorem evict (full : cache.entries.length = cache.capacity) :
    ∃ i entry rest, leastRecent cache.entries = some i ∧ cache.entries[i]? = some entry ∧
      map = (entry.key, entry.value) :: rest ∧
      { cache with entries := swapRemove cache.entries i }.Represents rest ∧
      (swapRemove cache.entries i).length + 1 = cache.entries.length ∧
      ∀ other ∈ swapRemove cache.entries i, other ∈ cache.entries := by
  have listed : cache.entries ≠ [] := by
    rintro none
    have positive := cache.nonzero
    rw [none, length_nil] at full
    omega
  obtain ⟨i, entry, least, present, order, stamps⟩ := leastRecent_spec holds.stamps listed
  have inside := (List.getElem?_eq_some_iff.mp present).1
  have perm := swapRemove_perm inside
  have length : (swapRemove cache.entries i).length + 1 = cache.entries.length := by
    rw [perm.length_eq, length_eraseIdx_of_lt inside]
    omega
  have fewer : ∀ other ∈ swapRemove cache.entries i, other ∈ cache.entries := fun other member =>
    mem_of_mem_eraseIdx (perm.mem_iff.mp member)
  rw [holds.order] at order
  refine ⟨i, entry, _, least, present, order, ⟨rfl, stamps, ?_, ?_, holds.clock, ?_, ?_⟩, length, fewer⟩
  · have keys := holds.keys
    rw [order, map_cons, nodup_cons] at keys
    exact keys.2
  · exact fun other member => holds.past other (fewer other member)
  · have small := holds.small
    dsimp only
    omega
  · have within := holds.within
    dsimp only
    omega

end

end Represents

section Access
variable {cache : SpecializationCache V} {map : Map SpecializationKey V}

theorem position_eq_some (found : cache.position key = some i) :
    ∃ entry, cache.entries[i]? = some entry ∧ entry.key = key := by
  obtain ⟨inside, same, _⟩ := findIdx?_eq_some_iff_getElem.mp found
  exact ⟨_, getElem?_eq_getElem inside, matchesKey_iff.mp same⟩

theorem position_eq_none (holds : cache.Represents map) (none : cache.position key = none) :
    key ∉ map.map Prod.fst := by
  rw [holds.key_mem]
  rintro ⟨entry, member, same⟩
  have other := findIdx?_eq_none_iff.mp none entry member
  rw [matchesKey_iff.mpr same] at other
  cases other

/-- The clock does not start over in the middle of a lookup, or it finds the entry where its stamp puts it. -/
def Timely (cache : SpecializationCache V) : Op SpecializationKey V → Prop
  | .get key | .getMut key _ => cache.clock = clockMax → ∀ index entry, cache.position key = some index →
    cache.entries[index]? = some entry → cache.entries.countP (fun other => other.lastUsed < entry.lastUsed) = index
  | .insert _ _ => True

theorem tick_capacity (cache : SpecializationCache V) : cache.tick.2.capacity = cache.capacity := by
  change cache.wound.capacity = cache.capacity
  unfold wound
  split <;> rfl

/-- Where the tick leaves the entry that a lookup has found. -/
theorem ticked_entry (holds : cache.Represents map) {index : Nat} (found : cache.position key = some index)
    (present : cache.entries[index]? = some entry) :
    ∃ entry', cache.tick.2.entries[index]? = some entry' ∧
      (entry'.key = entry.key ↔ (cache.clock = clockMax →
        cache.entries.countP (fun other => other.lastUsed < entry.lastUsed) = index)) := by
  have entries : cache.tick.2.entries = cache.wound.entries := rfl
  rw [entries, wound]
  split
  swap
  · rename_i running
    exact ⟨entry, present, fun _ late => absurd late running, fun _ => rfl⟩
  rename_i late
  obtain ⟨before, after, split, _, rank⟩ := recency_split holds.stamps present
  have inside : index < (sortByUse cache.entries).length := by
    rw [(sortByUse_perm cache.entries).length_eq]
    exact (List.getElem?_eq_some_iff.mp present).1
  refine ⟨{ (sortByUse cache.entries)[index] with lastUsed := index }, ?_, ?_⟩
  · rw [renumbered, getElem?_mapIdx, getElem?_eq_getElem inside]
    rfl
  rw [rank]
  -- The keys of the order are distinct, so that this one stands in one place only.
  have keys : ((sortByUse cache.entries).map CacheEntry.key).Nodup := by
    have distinct := holds.keys
    rwa [← holds.order, recency, map_map] at distinct
  have there : before.length < (sortByUse cache.entries).length := by
    rw [split, length_append, length_cons]
    omega
  have here : (sortByUse cache.entries)[before.length] = entry := by simp [split]
  constructor
  · intro same _
    have left : before.length < ((sortByUse cache.entries).map CacheEntry.key).length := by simpa using there
    have right : index < ((sortByUse cache.entries).map CacheEntry.key).length := by simpa using inside
    refine (@Nodup.getElem_inj_iff _ _ keys _ left _ right).mp ?_
    simp only [getElem_map, here]
    exact same.symm
  · intro agrees
    have place := agrees late
    subst place
    simp only [here]

/-- A timely lookup moves its key to the front, as in the map. -/
theorem access_follows (holds : cache.Represents map) (key : SpecializationKey) (change : V → V) :
    (((cache.access key change).1 = (map.access key change).1 ∧
        recency (cache.access key change).2.entries = (map.access key change).2) ↔
          cache.Timely (.getMut key change)) ∧
      (cache.Timely (.getMut key change) →
        (cache.access key change).2.Represents (map.access key change).2 ∧
          (cache.access key change).2.capacity = cache.capacity) := by
  unfold access
  split
  · rename_i none
    rw [Map.access, Map.find_eq_none (position_eq_none holds none)]
    refine ⟨⟨fun _ _ index entry found => ?_, fun _ => ⟨rfl, holds.order⟩⟩, fun _ => ⟨holds, rfl⟩⟩
    cases none.symm.trans found
  rename_i index found
  obtain ⟨entry, present, rfl⟩ := position_eq_some found
  obtain ⟨entry', there, same⟩ := ticked_entry holds found present
  obtain ⟨now, latest, room⟩ := holds.tick
  have timely : cache.Timely (.getMut entry.key change) ↔ entry'.key = entry.key := by
    rw [same]
    constructor
    · exact fun all late => all late index entry found present
    intro rank late index' other found' present'
    cases found.symm.trans found'
    cases present.symm.trans present'
    exact rank late
  have stamped : { cache.tick.2 with
      entries := cache.tick.2.entries.set index ⟨entry'.key, change entry'.value, cache.tick.1⟩ }.Represents
      (map.touch entry'.key (change entry'.value)) := now.set there rfl latest room
  have looked : map.access entry.key change = (some entry.value, map.touch entry.key (change entry.value)) := by
    rw [Map.access, holds.find present]
  simp only [there, looked]
  rw [timely]
  have agrees (same : entry'.key = entry.key) : entry'.value = entry.value ∧
      map.touch entry'.key (change entry'.value) = map.touch entry.key (change entry.value) := by
    have here := now.find there
    rw [same, holds.find present] at here
    have value : entry'.value = entry.value := (Option.some.inj here).symm
    exact ⟨value, by rw [same, value]⟩
  refine ⟨⟨fun ⟨_, order⟩ => ?_, fun same => ?_⟩, fun same => ?_⟩
  · exact Map.touch_key (stamped.order.symm.trans order)
  · exact ⟨congrArg some (agrees same).1, stamped.order.trans (agrees same).2⟩
  · exact ⟨(agrees same).2 ▸ stamped, tick_capacity cache⟩

end Access

section Runs
variable {cache : SpecializationCache V} {map : Map SpecializationKey V}
variable {ops : List (Bool × Op SpecializationKey V)} {result : Option V} {allocated : Bool}

/-- An insertion that could reserve what it needed is one into the map. -/
theorem insert_follows (holds : cache.Represents map) {value : V} {after : SpecializationCache V}
    (done : cache.insert allocated key value = (.ok result, after)) :
    result = (map.insert cache.capacity key value).1 ∧ after.Represents (map.insert cache.capacity key value).2 ∧
      after.capacity = cache.capacity := by
  obtain ⟨now, latest, room⟩ := holds.tick
  have capacity := tick_capacity cache
  unfold insert at done
  dsimp only at done
  split at done
  · rename_i index found
    obtain ⟨entry, present, rfl⟩ := position_eq_some found
    have stamped : { cache.tick.2 with
        entries := cache.tick.2.entries.set index ⟨entry.key, value, cache.tick.1⟩ }.Represents
        (map.touch entry.key value) := now.set present rfl latest room
    have replaced : cache.tick.2.entries.modify index (fun entry =>
      { entry with value, lastUsed := cache.tick.1 }) =
        cache.tick.2.entries.set index ⟨entry.key, value, cache.tick.1⟩ := by
      rw [modify_eq_set_getElem?, present]
      rfl
    rw [replaced, present] at done
    cases done
    rw [Map.insert, now.find present]
    exact ⟨rfl, stamped, capacity⟩
  · rename_i none
    have absent := position_eq_none now none
    rw [Map.insert, Map.find_eq_none absent]
    split at done
    · rename_i full
      obtain ⟨i, entry, rest, least, present, front, left, length, fewer⟩ := now.evict full
      rw [least, Option.getD_some, present] at done
      cases done
      rw [if_pos (by rw [now.length, full, capacity])]
      have gone : key ∉ rest.map Prod.fst := fun listed => absent (by
        rw [front, map_cons]
        exact mem_cons_of_mem _ listed)
      have placed : { cache.tick.2 with
          entries := swapRemove cache.tick.2.entries i ++ [(⟨key, value, cache.tick.1⟩ : CacheEntry V)] }.Represents
              (rest ++ [(key, value)]) :=
        left.append gone (fun other member => latest other (fewer other member)) room
          (by have small := now.small; dsimp only; omega) (by dsimp only; omega)
      rw [front]
      exact ⟨rfl, placed, capacity⟩
    · rename_i open_
      split at done
      · rename_i reserved
        rw [Bool.and_eq_true, decide_eq_true_eq] at reserved
        cases done
        rw [if_neg (by rw [now.length, ← capacity]; exact open_)]
        exact ⟨rfl, now.append absent latest room reserved.2 (Nat.lt_of_le_of_ne now.within open_), capacity⟩
      · cases done

/-- An operation, with the allocator's answer. -/
def step (self : SpecializationCache V) (allocated : Bool) :
    Op SpecializationKey V → Except (CacheInsertError V) (Option V) × SpecializationCache V
  | .get key => (.ok (self.get key).1, (self.get key).2)
  | .getMut key change => (.ok (self.getMut key change).1, (self.getMut key change).2)
  | .insert key value => self.insert allocated key value

def run (self : SpecializationCache V) :
    List (Bool × Op SpecializationKey V) → List (Except (CacheInsertError V) (Option V)) × SpecializationCache V
  | [] => ([], self)
  | (allocated, op) :: rest =>
    let next := self.step allocated op
    let later := next.2.run rest
    (next.1 :: later.1, later.2)

/-- Every operation of the run is timely. -/
def TimelyRun (self : SpecializationCache V) : List (Bool × Op SpecializationKey V) → Prop
  | [] => True
  | (allocated, op) :: rest => self.Timely op ∧ (self.step allocated op).2.TimelyRun rest

/-- Every operation of the run answers as the map does, and leaves the entries in the map's order. -/
def FollowsRun (self : SpecializationCache V) (map : Map SpecializationKey V) :
    List (Bool × Op SpecializationKey V) → Prop
  | [] => True
  | (allocated, op) :: rest =>
    (self.step allocated op).1 = .ok (map.step self.capacity op).1 ∧
      recency (self.step allocated op).2.entries = (map.step self.capacity op).2 ∧
      (self.step allocated op).2.FollowsRun (map.step self.capacity op).2 rest

section
variable (holds : cache.Represents map)
include holds

theorem step_follows {op : Op SpecializationKey V}
    (reserved : (cache.step allocated op).1 = .ok result) :
    (((cache.step allocated op).1 = .ok (map.step cache.capacity op).1 ∧
        recency (cache.step allocated op).2.entries = (map.step cache.capacity op).2) ↔ cache.Timely op) ∧
      (cache.Timely op → (cache.step allocated op).2.Represents (map.step cache.capacity op).2 ∧
        (cache.step allocated op).2.capacity = cache.capacity) := by
  cases op with
  | get key =>
    obtain ⟨agrees, kept⟩ := access_follows holds key id
    exact ⟨(and_congr_left' (by rw [step]; exact Except.ok.injEq .. |>.to_iff)).trans agrees, kept⟩
  | getMut key change =>
    obtain ⟨agrees, kept⟩ := access_follows holds key change
    exact ⟨(and_congr_left' (by rw [step]; exact Except.ok.injEq .. |>.to_iff)).trans agrees, kept⟩
  | insert key value =>
    have done : cache.insert allocated key value = (.ok result, (cache.insert allocated key value).2) :=
      Prod.ext reserved rfl
    obtain ⟨same, now, capacity⟩ := insert_follows holds done
    refine ⟨⟨fun _ => trivial, fun _ => ⟨?_, now.order⟩⟩, fun _ => ⟨now, capacity⟩⟩
    exact reserved.trans (congrArg _ same)

theorem run_follows_iff (reserved : ∀ result ∈ (cache.run ops).1, ∃ value, result = .ok value) :
    cache.FollowsRun map ops ↔ cache.TimelyRun ops := by
  induction ops generalizing cache map with
  | nil => exact Iff.rfl
  | cons first rest ih =>
    obtain ⟨allocated, op⟩ := first
    obtain ⟨value, done⟩ := reserved _ (mem_cons_self ..)
    obtain ⟨agrees, kept⟩ := step_follows holds done
    have later : ∀ result ∈ ((cache.step allocated op).2.run rest).1, ∃ value, result = .ok value :=
      fun result member => reserved result (mem_cons_of_mem _ member)
    constructor
    · rintro ⟨answer, order, follows⟩
      have timely := agrees.mp ⟨answer, order⟩
      exact ⟨timely, (ih (kept timely).1 later).mp follows⟩
    · rintro ⟨timely, all⟩
      obtain ⟨answer, order⟩ := agrees.mpr timely
      exact ⟨answer, order, (ih (kept timely).1 later).mpr all⟩

/-- A timely run gives the answers of the map. -/
theorem run_answers {capacity : Nat} (limit : cache.capacity = capacity)
    (reserved : ∀ result ∈ (cache.run ops).1, ∃ value, result = .ok value) (timely : cache.TimelyRun ops) :
    (cache.run ops).1 = (map.run capacity (ops.map Prod.snd)).1.map .ok := by
  induction ops generalizing cache map with
  | nil => rfl
  | cons first rest ih =>
    obtain ⟨value, done⟩ := reserved _ (mem_cons_self ..)
    obtain ⟨agrees, kept⟩ := step_follows holds done
    obtain ⟨now, same⟩ := kept timely.1
    have later := ih now (same.trans limit)
      (fun result member => reserved result (mem_cons_of_mem _ member)) timely.2
    have answer := (agrees.mpr timely.1).1
    subst limit
    rw [map_cons, Map.run, map_cons, ← answer]
    exact congrArg _ later

end

/-- The cache and the map of limited size agree, step by step, exactly as long as no lookup in the middle of which
the clock starts over finds its entry out of the order of the stamps. -/
theorem run_is_recency_map (capacity : Nat) (nonzero : 0 < capacity) (ops : List (Bool × Op SpecializationKey V))
    (reserved : ∀ result ∈ ((new capacity nonzero : SpecializationCache V).run ops).1, ∃ value,
      result = .ok value) :
    ((new capacity nonzero : SpecializationCache V).FollowsRun [] ops ↔
        (new capacity nonzero : SpecializationCache V).TimelyRun ops) ∧
      ((new capacity nonzero : SpecializationCache V).TimelyRun ops →
        ((new capacity nonzero : SpecializationCache V).run ops).1 =
          (Map.run capacity [] (ops.map Prod.snd)).1.map .ok) :=
  ⟨run_follows_iff (.new capacity nonzero) reserved, run_answers (.new capacity nonzero) rfl reserved⟩

end Runs

section Late

/-- The key of a value with the shape `[1, value]`. -/
def shapeKey (value : UInt32) : SpecializationKey :=
  ((SpecializationKeyBuilder.new 16).pushShape true value ⟨[1, value.toUInt64], by simp⟩).2.finish

/-- A key is replaced, and the least recently used one of two makes room. -/
theorem run_is_recency_map_short :
    ((new 2 (by decide) : SpecializationCache Nat).run
        [(true, .insert (shapeKey 1) 10), (true, .insert (shapeKey 2) 20), (true, .insert (shapeKey 1) 11),
          (true, .insert (shapeKey 3) 30), (true, .get (shapeKey 2))]).1 =
      [none, none, some 10, some 20, none].map .ok := by
  refine ((run_is_recency_map 2 (by decide) _ ?_).2 ?_).trans ?_
  · intro result member
    have answers : ((new 2 (by decide) : SpecializationCache Nat).run
        [(true, .insert (shapeKey 1) 10), (true, .insert (shapeKey 2) 20), (true, .insert (shapeKey 1) 11),
          (true, .insert (shapeKey 3) 30), (true, .get (shapeKey 2))]).1 =
        [none, none, some 10, some 20, none].map .ok := rfl
    rw [answers, mem_map] at member
    obtain ⟨value, _, rfl⟩ := member
    exact ⟨value, rfl⟩
  · refine ⟨trivial, trivial, trivial, trivial, fun late => absurd late ?_, trivial⟩
    decide +kernel
  · rfl

/-- Two entries, of which the first one has just been used. -/
def leading (clock stamp : Nat) : SpecializationCache Nat :=
  ⟨2, by decide, clock, [⟨shapeKey 1, 10, stamp⟩, ⟨shapeKey 2, 20, 1⟩]⟩

theorem leading_position (clock stamp : Nat) : (leading clock stamp).position (shapeKey 1) = some 0 := by
  rw [position, leading, findIdx?_cons, if_pos]
  exact matchesKey_iff.mpr rfl

theorem leading_get {clock stamp : Nat} (early : clock < clockMax) :
    (leading clock stamp).step true (.get (shapeKey 1)) = (.ok (some 10), leading (clock + 1) clock) := by
  have found := leading_position clock stamp
  have still : (leading clock stamp).wound = leading clock stamp := if_neg (Nat.ne_of_lt early)
  rw [step, get, access, tick, still]
  rfl

theorem leading_run (count clock stamp : Nat) (early : clock + count < clockMax) :
    (leading clock stamp).run (replicate (count + 1) (true, .get (shapeKey 1))) =
      (replicate (count + 1) (.ok (some 10)), leading (clock + count + 1) (clock + count)) := by
  induction count generalizing clock stamp with
  | zero =>
    rw [replicate_one, run, leading_get (Nat.lt_of_add_right_lt early)]
    rfl
  | succ count ih =>
    rw [replicate_succ, run, leading_get (by omega)]
    rw [ih (clock + 1) clock (by omega), Nat.add_right_comm clock 1 count]
    rfl

theorem run_append (cache : SpecializationCache V) (ops more : List (Bool × Op SpecializationKey V)) :
    cache.run
    (ops ++ more) = ((cache.run ops).1 ++ ((cache.run ops).2.run more).1, ((cache.run ops).2.run more).2) := by
  induction ops generalizing cache with
  | nil => rfl
  | cons first rest ih =>
    rw [cons_append, run, ih]
    rfl

/-- Two insertions, and a number of lookups of the first key. -/
def lookups (count : Nat) : List (Bool × Op SpecializationKey Nat) :=
  (true, .insert (shapeKey 1) 10) :: (true, .insert (shapeKey 2) 20) :: replicate count (true, .get (shapeKey 1))

/-- The lookup in the middle of which the clock starts over takes the other entry. -/
theorem lookups_run {count : Nat} (late : 2 + count + 1 = clockMax) :
    ((new 2 (by decide) : SpecializationCache Nat).run (lookups (count + 1 + 1))).1 =
      (none :: none :: (replicate (count + 1) (some 10) ++ [some 20])).map .ok := by
  have filled : ((new 2 (by decide) : SpecializationCache Nat).run (lookups (count + 1 + 1))).1 =
      .ok none :: .ok none :: ((leading 2 0).run (replicate (count + 1 + 1) (true, .get (shapeKey 1)))).1 := rfl
  have stale : ((leading clockMax (2 + count)).run [(true, .get (shapeKey 1))]).1 = [.ok (some 20)] := by
    have found : (leading clockMax (2 + count)).position (shapeKey 1) = some 0 := leading_position ..
    have sorted : sortByUse (leading clockMax (2 + count)).entries =
        [⟨shapeKey 2, 20, 1⟩, ⟨shapeKey 1, 10, 2 + count⟩] := by
      change (if 2 + count ≤ 1 then _ else [_, _]) = _
      exact if_neg (by omega)
    have lapped : (leading clockMax (2 + count)).wound = ⟨2, by decide, 2,
        [⟨shapeKey 2, 20, 0⟩, ⟨shapeKey 1, 10, 1⟩]⟩ := by
      unfold wound
      rw [if_pos (show (leading clockMax (2 + count)).clock = clockMax from rfl), renumbered, sorted]
      rfl
    change [Except.ok ((leading clockMax (2 + count)).access (shapeKey 1) id).1] = _
    rw [access, found, tick, lapped]
    rfl
  rw [filled, replicate_succ', run_append, leading_run count 2 0 (by omega), late]
  rw [stale, map_cons, map_cons, map_append, map_replicate]
  rfl

/-- A map in which the first key stands for ten goes on saying so. -/
theorem map_run (count : Nat) {map : Map SpecializationKey Nat}
    (either : map = [(shapeKey 1, 10), (shapeKey 2, 20)] ∨ map = [(shapeKey 2, 20), (shapeKey 1, 10)]) :
    (map.run 2 (replicate count (.get (shapeKey 1)))).1 = replicate count (some 10) := by
  induction count generalizing map with
  | zero => rfl
  | succ count ih =>
    have step : map.step 2 (.get (shapeKey 1)) = (some 10, [(shapeKey 2, 20), (shapeKey 1, 10)]) := by
      rcases either with rfl | rfl <;> decide +kernel
    rw [replicate_succ, Map.run, step]
    exact congrArg _ (ih (.inr rfl))

/-- The clock starts over in the middle of the last lookup, which then takes the other entry. -/
theorem late_lookup_strays :
    (∀ result ∈ ((new 2 (by decide) : SpecializationCache Nat).run (lookups (clockMax - 1))).1, ∃ value,
      result = .ok value) ∧
      ((new 2 (by decide) : SpecializationCache Nat).run (lookups (clockMax - 1))).1.getLast? =
      some (.ok (some 20)) ∧
      ((new 2 (by decide) : SpecializationCache Nat).run (lookups (clockMax - 1))).1 ≠
        (Map.run 2 [] ((lookups (clockMax - 1)).map Prod.snd)).1.map .ok := by
  obtain ⟨count, late⟩ : ∃ count, 2 + count + 1 = clockMax := ⟨clockMax - 3, by decide⟩
  have total : clockMax - 1 = count + 1 + 1 := by omega
  have map : (Map.run 2 [] ((lookups (count + 1 + 1)).map Prod.snd)).1 =
      none :: none :: (replicate (count + 1) (some 10) ++ [some 10]) := by
    rw [← replicate_succ', lookups, map_cons, map_cons, map_replicate]
    exact congrArg (fun later => none :: none :: later) (map_run _ (.inl rfl))
  rw [total, map, lookups_run late]
  refine ⟨fun result member => ?_, ?_, fun same => ?_⟩
  · obtain ⟨value, _, rfl⟩ := mem_map.mp member
    exact ⟨value, rfl⟩
  · rw [← cons_append, ← cons_append, map_append, map_singleton, getLast?_concat]
  · have last := congrArg getLast? same
    rw [← cons_append, ← cons_append, ← cons_append, ← cons_append, map_append,
      map_singleton, getLast?_concat, map_append, map_singleton, getLast?_concat] at last
    cases last

end Late

end SpecializationCache
end VirtioAccel.Tosa
