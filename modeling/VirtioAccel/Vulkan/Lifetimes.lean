import VirtioAccel.Vulkan.Arena

/-! Regions that are live at one time share no byte of the arena. -/

namespace VirtioAccel.Vulkan.Arena
open List

/-- The arenas that the lowering reaches at a position of the schedule, with the position that first writes each
region: the current one for an output, and 0 for a constant, which is uploaded. -/
inductive Placed : Arena → List Nat → Nat → Prop
  | start : Placed {} [] 0
  | advance {arena writes position} : Placed arena writes position → Placed arena writes (position + 1)
  | place {arena next writes position bytes liveEnd writtenAt index} : Placed arena writes position →
      writtenAt ≤ position → bytes ≤ 2 ^ 34 →
      arena.allocateRegionWrittenAt bytes liveEnd writtenAt = (.ok index, next) →
      Placed next (writes ++ [writtenAt]) position
  | view {arena writes position index liveEnd} : Placed arena writes position →
      -- What a view is made of is read here, so it is still live.
      (∀ region ∈ arena.regions[index]?, position ≤ region.liveEnd) →
      Placed (arena.extend index liveEnd) writes position

/-- With the positions that first write them, two regions share no byte if each is written before the other dies. -/
def Apart (a b : Region × Nat) : Prop :=
  a.2 ≤ b.1.liveEnd → b.2 ≤ a.1.liveEnd →
    b.1.offset + b.1.bytes ≤ a.1.offset ∨ a.1.offset + a.1.bytes ≤ b.1.offset

/-- The regions can be addressed, and no two that are live together overlap. -/
structure Isolated (arena : Arena) (writes : List Nat) (position : Nat) : Prop where
  addressable : arena.Addressable
  length : arena.regions.length = writes.length
  past : ∀ writtenAt ∈ writes, writtenAt ≤ position
  apart : (arena.regions.zip writes).Pairwise Apart

namespace Isolated
variable {arena next : Arena} {writes : List Nat} {position bytes liveEnd writtenAt index : Nat}

theorem place (isolated : arena.Isolated writes position) (past : writtenAt ≤ position) (small : bytes ≤ 2 ^ 34)
    (made : arena.allocateRegionWrittenAt bytes liveEnd writtenAt = (.ok index, next)) :
    next.Isolated (writes ++ [writtenAt]) position := by
  have sized : bytes + 255 < 2 ^ 64 := by omega
  have addressable := isolated.addressable.allocate sized liveEnd writtenAt
  have positive := roundUp_pos sized
  obtain ⟨offset, first, -, least⟩ := isolated.addressable.firstFit writtenAt positive (roundUp_le small)
  rw [made] at addressable
  have regions : next.regions = arena.regions ++ [⟨offset, roundUp bytes, liveEnd⟩] := by
    simp only [allocateRegionWrittenAt, first] at made
    split_ifs at made <;> cases made
    rfl
  refine ⟨addressable, by simp [regions, isolated.length], ?_, ?_⟩
  · exact forall_mem_append.mpr ⟨isolated.past, forall_mem_singleton.mpr past⟩
  rw [regions, zip_append isolated.length]
  refine pairwise_append.mpr ⟨isolated.apart, pairwise_singleton _ _, fun old member => forall_mem_singleton.mpr ?_⟩
  intro _ live
  have inside := (of_mem_zip member).1
  have clear := (isolated.addressable.free_iff_clear positive).mp least.1 _
    (mem_map_of_mem (Addressable.mem_overlapping.mpr ⟨inside, live⟩))
  rwa [isolated.addressable.stop_eq inside] at clear

/-- A longer life of a region that is live meets no region that was not met before. -/
theorem view (isolated : arena.Isolated writes position)
    (live : ∀ region ∈ arena.regions[index]?, position ≤ region.liveEnd) (liveEnd : Nat) :
    (arena.extend index liveEnd).Isolated writes position := by
  refine ⟨isolated.addressable.extend index liveEnd, by simp [extend, isolated.length], isolated.past, ?_⟩
  simp only [pairwise_iff_getElem, getElem_zip, length_zip, Apart, extend, getElem_modify, length_modify]
  intro i j first second before
  have old := pairwise_iff_getElem.mp isolated.apart i j (by simpa using first) (by simpa using second) before
  have early := isolated.past _ (writes.getElem_mem (by omega : i < writes.length))
  have late := isolated.past _ (writes.getElem_mem (by omega : j < writes.length))
  simp only [getElem_zip, Apart] at old
  grind

end Isolated

/-- Regions that are live at one time share no byte, at every position of every schedule. -/
theorem Placed.isolated {arena : Arena} {writes : List Nat} {position : Nat}
    (placed : Placed arena writes position) :
    arena.Isolated writes position := by
  induction placed with
  | start => exact ⟨⟨by simp, by simp⟩, rfl, by simp, .nil⟩
  | advance _ ih => exact { ih with past := fun writtenAt member => (ih.past writtenAt member).trans (by simp) }
  | place _ past small made ih => exact ih.place past small made
  | view _ live ih => exact ih.view live _

/-- The second region takes the bytes of the first, which is dead by then. The third is live with the second, and
stands behind it. -/
theorem isolated_reused : Isolated ⟨[⟨0, 256, 0⟩, ⟨0, 256, 2⟩, ⟨256, 256, 3⟩], 512⟩ [0, 1, 1] 1 := by
  have first := Placed.start.place le_rfl (by decide)
    (show allocateRegionWrittenAt _ 8 0 0 = (_, ⟨[⟨0, 256, 0⟩], 256⟩) from rfl)
  have second := first.advance.place le_rfl (by decide)
    (show allocateRegionWrittenAt _ 8 2 1 = (_, ⟨[⟨0, 256, 0⟩, ⟨0, 256, 2⟩], 256⟩) from rfl)
  exact (second.place le_rfl (by decide) (show allocateRegionWrittenAt _ 8 3 1 = _ from rfl)).isolated

end VirtioAccel.Vulkan.Arena
