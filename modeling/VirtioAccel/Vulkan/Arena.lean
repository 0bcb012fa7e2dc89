import VirtioAccel.Library.FirstFit
import Mathlib.Algebra.Order.Group.Nat

/-! The arena that holds a Vulkan program's constants and intermediates: regions are placed as low as the
lifetimes of the earlier ones allow. -/

namespace VirtioAccel.Vulkan
open List

/-- What the lowering refuses an artifact with. -/
inductive LoweringError where
  | unsupportedGraph
  | resourceLimit
  deriving DecidableEq

/-- `u64` arithmetic. -/
def wrapping (n : Nat) : Nat := n % 2 ^ 64

/-- A part of the arena, and how long it is live. -/
structure Region where
  offset : Nat
  bytes : Nat
  /-- The last execution position at which the region is read. -/
  liveEnd : Nat
  deriving DecidableEq

def Region.stop (region : Region) : Nat := wrapping (region.offset + region.bytes)

/-- The fields of the lowering that placement reads and writes. -/
structure Arena where
  regions : List Region := []
  arenaBytes : Nat := 0
  deriving DecidableEq

/-- `bytes.max(1).div_ceil(ARENA_ALIGNMENT) * ARENA_ALIGNMENT`. -/
def roundUp (bytes : Nat) : Nat := wrapping ((max bytes 1 + 255) / 256 * 256)

namespace Arena

/-- The regions whose lifetime has not ended at a write position. -/
def overlapping (arena : Arena) (writtenAt : Nat) : List Region :=
  arena.regions.filter fun region => region.liveEnd ≥ writtenAt

/-- Whether a candidate is clear of every live region. -/
def fits (overlapping : List Region) (bytes candidate : Nat) : Bool :=
  overlapping.all fun region => wrapping (candidate + bytes) ≤ region.offset || candidate ≥ region.stop

def allocateRegionWrittenAt (arena : Arena) (bytes liveEnd writtenAt : Nat) : Except LoweringError Nat × Arena :=
  let bytes := roundUp bytes
  let overlapping := arena.overlapping writtenAt
  let candidates := (0 :: overlapping.map Region.stop).insertionSort (· ≤ ·)
  match candidates.find? (fits overlapping bytes) with
  | none => (.error .resourceLimit, arena)
  | some offset =>
    -- `checked_add`, then the kernels' `u32` operand base.
    if 2 ^ 64 ≤ offset + bytes then (.error .resourceLimit, arena)
    else if (offset + bytes) / 4 > 2 ^ 32 - 1 then (.error .resourceLimit, arena)
    else (.ok arena.regions.length,
      { regions := arena.regions ++ [⟨offset, bytes, liveEnd⟩]
        arenaBytes := max arena.arenaBytes (offset + bytes) })

/-- A view over a region keeps its bytes alive for as long as the view is read. -/
def extend (arena : Arena) (index liveEnd : Nat) : Arena :=
  { arena with regions := arena.regions.modify index fun region =>
    { region with liveEnd := max region.liveEnd liveEnd } }

/-- What the lowering does to its arena. -/
inductive Step where
  | allocate (bytes liveEnd writtenAt : Nat)
  | extend (index liveEnd : Nat)

def step (arena : Arena) : Step → Arena
  | .allocate bytes liveEnd writtenAt => (arena.allocateRegionWrittenAt bytes liveEnd writtenAt).2
  | .extend index liveEnd => arena.extend index liveEnd

def run (steps : List Step) : Arena := steps.foldl step {}

/-- The sizes the lowering asks for can be rounded up in a `u64`. -/
def Step.Sized : Step → Prop
  | .allocate bytes _ _ => bytes + 255 < 2 ^ 64
  | .extend _ _ => True

/-- No byte of the range is in a region that is live at the write position. -/
def Free (arena : Arena) (writtenAt size offset : Nat) : Prop :=
  ∀ region ∈ arena.regions, writtenAt ≤ region.liveEnd →
    ∀ byte, offset ≤ byte → byte < offset + size → ¬ (region.offset ≤ byte ∧ byte < region.offset + region.bytes)

/-- Every region holds bytes, and the kernels can address them. -/
structure Addressable (arena : Arena) : Prop where
  positive : ∀ region ∈ arena.regions, 0 < region.bytes
  within : ∀ region ∈ arena.regions, region.offset + region.bytes < 2 ^ 34

variable {arena : Arena} {bytes liveEnd writtenAt : Nat}

theorem roundUp_pos (sized : bytes + 255 < 2 ^ 64) : 0 < roundUp bytes := by
  unfold roundUp wrapping
  omega

theorem roundUp_le (small : bytes ≤ 2 ^ 34) : roundUp bytes ≤ 2 ^ 34 := by
  unfold roundUp wrapping
  omega

theorem allocateRegionWrittenAt_cases (arena : Arena) (bytes liveEnd writtenAt : Nat) :
    (arena.allocateRegionWrittenAt bytes liveEnd writtenAt).2 = arena ∨
      ∃ offset, offset + roundUp bytes < 2 ^ 34 ∧
        (arena.allocateRegionWrittenAt bytes liveEnd writtenAt).2.regions =
          arena.regions ++ [⟨offset, roundUp bytes, liveEnd⟩] := by
  unfold allocateRegionWrittenAt
  dsimp only
  iterate 3
    split
    · exact .inl rfl
  · exact .inr ⟨_, by omega, rfl⟩

namespace Addressable

theorem allocate (addressable : arena.Addressable) (sized : bytes + 255 < 2 ^ 64) (liveEnd writtenAt : Nat) :
    (arena.allocateRegionWrittenAt bytes liveEnd writtenAt).2.Addressable := by
  obtain same | ⟨offset, within, regions⟩ := arena.allocateRegionWrittenAt_cases bytes liveEnd writtenAt
  · rw [same]
    exact addressable
  constructor
  all_goals
    rw [regions]
    intro region member
    rw [mem_append, mem_singleton] at member
  · obtain old | rfl := member
    · exact addressable.positive region old
    · exact roundUp_pos sized
  · obtain old | rfl := member
    · exact addressable.within region old
    · exact within

/-- A view moves no byte. -/
theorem extend (addressable : arena.Addressable) (index liveEnd : Nat) :
    (arena.extend index liveEnd).Addressable := by
  have same : ∀ region ∈ (arena.extend index liveEnd).regions,
      ∃ old ∈ arena.regions, old.offset = region.offset ∧ old.bytes = region.bytes := by
    intro region member
    obtain ⟨i, inside, rfl⟩ := getElem_of_mem member
    have bound : i < arena.regions.length := by simpa [Arena.extend] using inside
    refine ⟨arena.regions[i], getElem_mem bound, ?_⟩
    simp only [Arena.extend, getElem_modify]
    split <;> exact ⟨rfl, rfl⟩
  constructor
  · intro region member
    obtain ⟨old, kept, _, bytes⟩ := same region member
    exact bytes ▸ addressable.positive old kept
  · intro region member
    obtain ⟨old, kept, offset, bytes⟩ := same region member
    exact offset ▸ bytes ▸ addressable.within old kept

theorem run {steps : List Step} (sized : ∀ step ∈ steps, step.Sized) : (run steps).Addressable := by
  unfold Arena.run
  induction steps using reverseRecOn with
  | nil => constructor <;> simp
  | append_singleton earlier step ih =>
    have addressable := ih fun step member => sized step (mem_append_left _ member)
    have last := sized step (mem_append_right _ (mem_singleton_self _))
    rw [foldl_append]
    cases step with
    | allocate bytes liveEnd writtenAt => exact addressable.allocate last liveEnd writtenAt
    | extend index liveEnd => exact addressable.extend index liveEnd

theorem stop_eq (addressable : arena.Addressable) {region : Region} (member : region ∈ arena.regions) :
    region.stop = region.offset + region.bytes := by
  have := addressable.within region member
  exact Nat.mod_eq_of_lt (by omega)

/-- Live regions as obstacles. -/
def obstacles (arena : Arena) (writtenAt : Nat) : List (Nat × Nat) :=
  (arena.overlapping writtenAt).map fun region => (region.offset, region.stop)

theorem mem_overlapping {region : Region} :
    region ∈ arena.overlapping writtenAt ↔ region ∈ arena.regions ∧ writtenAt ≤ region.liveEnd := by
  simp [overlapping]

/-- Ranges of positive length share a byte unless one ends before the other. -/
theorem free_iff_clear (addressable : arena.Addressable) {size offset : Nat} (positive : 0 < size) :
    arena.Free writtenAt size offset ↔ FirstFit.Clear (obstacles arena writtenAt) size offset := by
  constructor
  · rintro free _ present
    obtain ⟨region, live, rfl⟩ := mem_map.mp present
    obtain ⟨member, live⟩ := mem_overlapping.mp live
    have bytes := addressable.positive region member
    rw [addressable.stop_eq member]
    by_contra apart
    exact free region member live (max offset region.offset) (by omega) (by omega) ⟨by omega, by omega⟩
  · intro clear region member live byte lower upper
    have apart := clear _ (mem_map_of_mem (mem_overlapping.mpr ⟨member, live⟩))
    rw [addressable.stop_eq member] at apart
    omega

/-- No sum of the search leaves 64 bits, so it is the search over the numbers. -/
theorem firstFit (addressable : arena.Addressable) (writtenAt : Nat) {size : Nat} (positive : 0 < size)
    (small : size ≤ 2 ^ 34) :
    ∃ offset, ((0 :: (arena.overlapping writtenAt).map Region.stop).insertionSort (· ≤ ·)).find?
          (fits (arena.overlapping writtenAt) size) = some offset ∧
      offset < 2 ^ 34 ∧ IsLeast {place | arena.Free writtenAt size place} offset := by
  have ends : FirstFit.candidates (obstacles arena writtenAt) =
      (0 :: (arena.overlapping writtenAt).map Region.stop).insertionSort (· ≤ ·) := by
    rw [FirstFit.candidates, obstacles, map_map]
    rfl
  have low : ∀ candidate ∈ FirstFit.candidates (obstacles arena writtenAt), candidate < 2 ^ 34 := by
    intro candidate tried
    rw [ends, mem_insertionSort, mem_cons, mem_map] at tried
    obtain rfl | ⟨region, live, rfl⟩ := tried
    · decide
    have member := (mem_overlapping.mp live).1
    rw [addressable.stop_eq member]
    exact addressable.within region member
  have exact : ∀ candidate ∈ FirstFit.candidates (obstacles arena writtenAt),
      fits (arena.overlapping writtenAt) size candidate ↔
      FirstFit.Clear (obstacles arena writtenAt) size candidate := by
    intro candidate tried
    have sum : wrapping (candidate + size) = candidate + size := by
      have := low candidate tried
      exact Nat.mod_eq_of_lt (by omega)
    simp [FirstFit.Clear, obstacles, fits, sum]
  obtain ⟨offset, first, least⟩ := FirstFit.find_isLeast _ size _ exact
  refine ⟨offset, ends ▸ first, low offset (mem_of_find?_eq_some first), ?_⟩
  simpa only [addressable.free_iff_clear positive] using least

end Addressable

/-- Placement always finds the least free offset; only the kernels' operand base can refuse it. -/
theorem allocateRegionWrittenAt_firstFit (steps : List Step) (sized : ∀ step ∈ steps, step.Sized)
    (bytes liveEnd writtenAt : Nat) (small : bytes ≤ 2 ^ 34) :
    ∃ offset, IsLeast {place | (run steps).Free writtenAt (roundUp bytes) place} offset ∧
      (run steps).allocateRegionWrittenAt bytes liveEnd writtenAt =
        if (offset + roundUp bytes) / 4 > 2 ^ 32 - 1 then (.error .resourceLimit, run steps)
        else (.ok (run steps).regions.length,
          { regions := (run steps).regions ++ [⟨offset, roundUp bytes, liveEnd⟩]
            arenaBytes := max (run steps).arenaBytes (offset + roundUp bytes) }) := by
  have rounded := roundUp_le small
  obtain ⟨offset, first, low, least⟩ :=
    (Addressable.run sized).firstFit writtenAt (roundUp_pos (by omega)) rounded
  refine ⟨offset, least, ?_⟩
  simp only [allocateRegionWrittenAt, first]
  rw [if_neg (by omega)]

/-- The second of two regions has died: its bytes are the lowest that are free. -/
theorem allocateRegionWrittenAt_reuses :
    ∃ offset, IsLeast {place | (run [.allocate 300 2 0, .allocate 100 0 0]).Free 1 (roundUp 200) place} offset ∧
      (run [.allocate 300 2 0, .allocate 100 0 0]).allocateRegionWrittenAt 200 3 1 =
        if (offset + roundUp 200) / 4 > 2 ^ 32 - 1 then
          (.error .resourceLimit, run [.allocate 300 2 0, .allocate 100 0 0])
        else (.ok 2, { regions := [⟨0, 512, 2⟩, ⟨512, 256, 0⟩, ⟨offset, roundUp 200, 3⟩]
                       arenaBytes := max 768 (offset + roundUp 200) }) :=
  allocateRegionWrittenAt_firstFit [.allocate 300 2 0, .allocate 100 0 0]
    (by simp [Step.Sized]) 200 3 1 (by decide)

end Arena
end VirtioAccel.Vulkan
