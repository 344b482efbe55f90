import Mathlib

/-!
# Windows of a circular array

A ring buffer keeps its live cells at consecutive positions of an array,
wrapping at the end.  `window` reads them off oldest first.  The lemmas say how
the window changes when a cell behind it is written, when its first cell is
released, and that writes outside it do not show.
-/

namespace ZeroFeed.Circular

variable {Cell : Type*} (blank : Cell)

/-- The `count` cells from position `head` on, wrapping around. -/
def window (cells : List Cell) (head count : ℕ) : List Cell :=
  (List.range count).map fun offset =>
    cells.getD ((head + offset) % cells.length) blank

theorem window_succ (cells : List Cell) (head count : ℕ) :
    window blank cells head (count + 1) =
      window blank cells head count ++
        [cells.getD ((head + count) % cells.length) blank] := by
  simp [window, List.range_succ]

/-- Offsets below the array length address different cells. -/
theorem offset_injective {length head left right : ℕ} (hleft : left < length)
    (hright : right < length)
    (heq : (head + left) % length = (head + right) % length) : left = right := by
  have hmod : left ≡ right [MOD length] := Nat.ModEq.add_left_cancel' head heq
  exact hmod.eq_of_lt_of_lt hleft hright

theorem window_set_of_ne (cells : List Cell) {head count index : ℕ} (cell : Cell)
    (houtside : ∀ offset < count, (head + offset) % cells.length ≠ index) :
    window blank (cells.set index cell) head count = window blank cells head count := by
  apply List.map_congr_left
  intro offset hoffset
  have hne := houtside offset (List.mem_range.mp hoffset)
  rw [List.length_set, List.getD_eq_getElem?_getD, List.getD_eq_getElem?_getD,
    List.getElem?_set_ne hne.symm]

/-- Writing the cell right behind the window extends it. -/
theorem window_set_next (cells : List Cell) {head count : ℕ} (cell : Cell)
    (hroom : count < cells.length) :
    window blank (cells.set ((head + count) % cells.length) cell) head (count + 1) =
      window blank cells head count ++ [cell] := by
  have hindex : (head + count) % cells.length < cells.length :=
    Nat.mod_lt _ (by omega)
  rw [window_succ, window_set_of_ne blank]
  · rw [List.length_set, List.getD_eq_getElem?_getD, List.getElem?_set_self hindex,
      Option.getD_some]
  · intro offset hoffset heq
    have := offset_injective (hoffset.trans hroom) hroom heq
    omega

/-- Releasing the first cell drops it from the window. -/
theorem window_advance (cells : List Cell) (head count : ℕ) :
    window blank cells ((head + 1) % cells.length) count =
      (window blank cells head (count + 1)).tail := by
  rw [window, window, List.range_succ_eq_map, List.map_cons, List.tail_cons,
    List.map_map]
  apply List.map_congr_left
  intro offset _
  have hshift : ((head + 1) % cells.length + offset) % cells.length =
      (head + (offset + 1)) % cells.length := by
    rw [Nat.mod_add_mod]
    congr 1
    omega
  rw [hshift]
  rfl

end ZeroFeed.Circular
