import Mathlib.Data.List.Basic

/-! Maps of limited size that give up their least recently used entry. -/

namespace Recency
open List
variable {K V : Type} [DecidableEq K]

/-- The entries, from the least to the most recently used. -/
abbrev Map (K V : Type) := List (K × V)

/-- What is asked of the map. -/
inductive Op (K V : Type) where
  | get (key : K)
  | getMut (key : K) (change : V → V)
  | insert (key : K) (value : V)

namespace Map
variable {key : K} {value : V}

def find (map : Map K V) (key : K) : Option V := (find? (fun entry => entry.1 = key) map).map Prod.snd

/-- The entry of the key is now this one, and the last one used. -/
def touch (map : Map K V) (key : K) (value : V) : Map K V := filter (fun entry => entry.1 ≠ key) map ++
    [(key, value)]

def access (map : Map K V) (key : K) (change : V → V) : Option V × Map K V :=
  match map.find key with
  | none => (none, map)
  | some value => (some value, map.touch key (change value))

/-- A new key takes the place of the least recently used one when there is no other. -/
def insert (capacity : Nat) (map : Map K V) (key : K) (value : V) : Option V × Map K V :=
  match map.find key with
  | some old => (some old, map.touch key value)
  | none =>
    if map.length = capacity then (map.head?.map Prod.snd, tail map ++ [(key, value)])
    else (none, map ++ [(key, value)])

def step (capacity : Nat) (map : Map K V) : Op K V → Option V × Map K V
  | .get key => map.access key id
  | .getMut key change => map.access key change
  | .insert key value => map.insert capacity key value

def run (capacity : Nat) (map : Map K V) : List (Op K V) → List (Option V) × Map K V
  | [] => ([], map)
  | op :: rest =>
    let next := map.step capacity op
    let later := run capacity next.2 rest
    (next.1 :: later.1, later.2)

/-- Where no key occurs twice, the entry of a key is found wherever it stands. -/
theorem find_split {before after : Map K V} (distinct : ((before ++ (key, value) :: after).map Prod.fst).Nodup) :
    find (before ++ (key, value) :: after) key = some value ∧
      touch (before ++ (key, value) :: after) key = fun value => before ++ after ++ [(key, value)] := by
  rw [map_append, map_cons, nodup_append, nodup_cons] at distinct
  obtain ⟨_, ⟨later, _⟩, apart⟩ := distinct
  have left : ∀ entry ∈ before, entry.1 ≠ key := fun entry member =>
    apart entry.1 (mem_map_of_mem member) key (mem_cons_self ..)
  have right : ∀ entry ∈ after, entry.1 ≠ key := by
    rintro entry member rfl
    exact later (mem_map.mpr ⟨entry, member, rfl⟩)
  constructor
  · have none : find? (fun entry => entry.1 = key) before = none := by
      rw [find?_eq_none]
      intro entry member
      simpa using left entry member
    simp [find, none]
  · funext value
    have kept : ∀ l : List (K × V), (∀ entry ∈ l, entry.1 ≠ key) → l.filter (fun entry => entry.1 ≠ key) = l :=
      fun l all => filter_eq_self.mpr fun entry member => by simpa using all entry member
    rw [touch, filter_append, filter_cons_of_neg (by simp), kept before left, kept after right]

variable {map : Map K V}

theorem find_eq_none (absent : key ∉ List.map Prod.fst map) : map.find key = none := by
  have none : find? (fun entry => entry.1 = key) map = none := by
    rw [find?_eq_none]
    intro entry member same
    exact absent (of_decide_eq_true same ▸ List.mem_map_of_mem member)
  rw [find, none]
  rfl

theorem touch_keys (distinct : (List.map Prod.fst map).Nodup) :
    (List.map Prod.fst (map.touch key value)).Nodup := by
  rw [touch, List.map_append, List.nodup_append]
  refine ⟨distinct.sublist (filter_sublist.map _), by simp, ?_⟩
  intro key' listed other same equal
  obtain ⟨entry, kept, rfl⟩ := mem_map.mp listed
  rw [map_singleton, mem_singleton] at same
  exact absurd (equal.trans same) (by simpa using (mem_filter.mp kept).2)

/-- The last entry used tells which one it was. -/
theorem touch_key {key' : K} {value' : V} (same : map.touch key value = map.touch key' value') : key = key' := by
  have last := congrArg getLast? same
  simp only [touch, getLast?_append, getLast?_singleton, Option.some_or, Option.some.injEq, Prod.mk.injEq] at last
  exact last.1

end Map
end Recency
