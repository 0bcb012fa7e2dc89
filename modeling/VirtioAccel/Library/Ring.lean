import Mathlib.Data.UInt

/-! A ring of cells behind a 16-bit index that wraps on its own. The size of
the ring divides 2 ^ 16, so the wrap of the index is no seam in the ring. -/

namespace Ring
variable {α : Type}

/-- The cells hold these contents, in order, from the index on. -/
structure Holds (cells : List α) (start : UInt16) (contents : List α) : Prop where
  fits : contents.length ≤ cells.length
  cell : ∀ i, i < contents.length → cells[(start.toNat + i) % cells.length]? = contents[i]?

theorem toNat_add_mod {size : Nat} (divides : size ∣ 2 ^ 16) (start : UInt16) (n i : Nat) :
    ((start + UInt16.ofNat n).toNat + i) % size = (start.toNat + (n + i)) % size := by
  have wrapped : (start + UInt16.ofNat n).toNat % size = (start.toNat + n) % size := by
    rw [UInt16.toNat_add, UInt16.toNat_ofNat', Nat.mod_mod_of_dvd _ divides, Nat.add_mod,
      Nat.mod_mod_of_dvd _ divides, ← Nat.add_mod]
  rw [Nat.add_mod, wrapped, ← Nat.add_mod, Nat.add_assoc]

/-- Different places less than a turn apart are different cells. -/
theorem place_injective {size start i j : Nat} (left : i < size) (right : j < size)
    (same : (start + i) % size = (start + j) % size) : i = j := by
  have congruent : i ≡ j [MOD size] := Nat.ModEq.add_left_cancel' start same
  exact (congruent.eq_of_lt_of_lt left right)

namespace Holds
variable {cells : List α} {start : UInt16} {contents rest : List α} {x : α}

theorem nil (cells : List α) (start : UInt16) : Holds cells start [] := ⟨Nat.zero_le _, nofun⟩

theorem head (holds : Holds cells start (x :: rest)) : cells[start.toNat % cells.length]? = some x :=
  holds.cell 0 (by simp)

theorem push (holds : Holds cells start contents) (divides : cells.length ∣ 2 ^ 16)
    (room : contents.length < cells.length) (x : α) :
    Holds (cells.set ((start + UInt16.ofNat contents.length).toNat % cells.length) x) start (contents ++ [x]) := by
  have place := toNat_add_mod divides start contents.length 0
  rw [Nat.add_zero, Nat.add_zero] at place
  refine ⟨by simp; omega, fun i below => ?_⟩
  rw [List.length_set, place, List.getElem?_set]
  by_cases last : i = contents.length
  · subst last
    rw [if_pos rfl, if_pos (Nat.mod_lt _ (by omega)), List.getElem?_concat_length]
  have early : i < contents.length := by
    simp only [List.length_append, List.length_singleton] at below
    omega
  rw [if_neg (fun same => last (place_injective room (by omega) same).symm), holds.cell i early,
    List.getElem?_append_left early]

/-- Taking the head off may leave anything in its cell. -/
theorem pop (holds : Holds cells start (x :: rest)) (divides : cells.length ∣ 2 ^ 16) (y : α) :
    Holds (cells.set (start.toNat % cells.length) y) (start + 1) rest := by
  have fits : rest.length + 1 ≤ cells.length := holds.fits
  refine ⟨by rw [List.length_set]; omega, fun i below => ?_⟩
  have place := toNat_add_mod divides start 1 i
  rw [show UInt16.ofNat 1 = 1 from rfl] at place
  rw [List.length_set, place, List.getElem?_set, if_neg, Nat.add_comm 1 i]
  · exact holds.cell (i + 1) (by simp; omega)
  intro same
  have zero := place_injective (show 0 < cells.length by omega) (show 1 + i < cells.length by omega) same
  omega

theorem advance (holds : Holds cells start (x :: rest)) (divides : cells.length ∣ 2 ^ 16) :
    Holds cells (start + 1) rest := by
  have popped := holds.pop divides x
  obtain ⟨_, found⟩ := List.getElem?_eq_some_iff.mp holds.head
  rwa [← found, List.set_getElem_self] at popped

end Holds

end Ring
