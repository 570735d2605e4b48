import FlexGrid.Row

/-! Rows as slots. A drawn row and an even row place their cells by the same rules once each cell is known
by its blanks and its span, so what is said of slots is said of both kinds of row. -/
namespace FlexGrid

/-- The unit-columns of a cell: the blank ones in front of it and those it covers. -/
structure Slot where
  blanks : Nat
  span : Nat
deriving DecidableEq

namespace Slot

/-- The unit-columns from the cell before up to the end of this one. -/
def reach (slot : Slot) : Nat :=
  slot.blanks + slot.span

/-- The unit-columns of slots side by side. There is nothing between them, for blanks belong to the slot behind
them. -/
def total : List Slot → Nat
  | [] => 0
  | slot :: rest => slot.reach + total rest

theorem reach_le_total {slot : Slot} {slots : List Slot} (h : slot ∈ slots) :
    slot.reach ≤ total slots := by
  induction slots with
  | nil => cases h
  | cons first rest ih =>
      rcases List.mem_cons.mp h with rfl | h
      · exact Nat.le_add_right _ _
      · exact Nat.le_trans (ih h) (Nat.le_add_left _ _)

end Slot

/-- The slots of some cells, the first of which has `index` cells to its left. -/
def DrawnRow.slotsFrom (index : Nat) : List Cell → List Slot
  | [] => []
  | cell :: rest => ⟨cell.blanks index, cell.span⟩ :: slotsFrom (index + 1) rest

/-- The slots of a row, each by its own position. Positions are easier to look up than to count through. -/
theorem DrawnRow.slotsFrom_eq_mapIdx (index : Nat) (cells : List Cell) :
    slotsFrom index cells = cells.mapIdx fun i cell => ⟨cell.blanks (index + i), cell.span⟩ := by
  induction cells generalizing index with
  | nil => rfl
  | cons cell rest ih =>
      rw [slotsFrom, ih, List.mapIdx_cons]
      simp only [Nat.add_zero, Nat.add_assoc, Nat.add_comm 1]

@[simp] theorem DrawnRow.length_slotsFrom (index : Nat) (cells : List Cell) :
    (slotsFrom index cells).length = cells.length := by
  simp [slotsFrom_eq_mapIdx]

/-- The width of a drawn row counts every blank and every covered unit-column once. -/
theorem DrawnRow.total_slotsFrom (index : Nat) (cells : List Cell) :
    Slot.total (slotsFrom index cells) = widthFrom index cells := by
  induction cells generalizing index with
  | nil => rfl
  | cons cell rest ih =>
      simp only [slotsFrom, Slot.total, ih, widthFrom, Slot.reach]
      omega

/-- A drawn row whose cells have given blanks in front of them. Every cell but the first has one space more, which
separates it from the cell before. -/
def DrawnRow.ofSlots (slots : List Slot) : DrawnRow :=
  ⟨slots.mapIdx fun i slot => ⟨slot.span, if i = 0 then slot.blanks else slot.blanks + 1⟩⟩

namespace Row

/-- The slots of a row. An even row has no blanks, and each of its cells covers one track. -/
def slots : Row → List Slot
  | .drawn row => DrawnRow.slotsFrom 0 row.cells
  | .even count _ => List.replicate count ⟨0, 1⟩

/-- The tracks that the container is divided into for a row: those of the grid, or its own. -/
def tracks (columns : Nat) : Row → Nat
  | .drawn _ => columns
  | .even count _ => count

/-- The unit-columns of a row up to the end of its last cell, in tracks of its own kind. -/
def filled (row : Row) : Nat :=
  Slot.total row.slots

/-- The unit-columns of a row in front of the cell at position `p`: those of the cells to its left and the
blank ones between. -/
def start (row : Row) (p : Nat) : Nat :=
  Slot.total (row.slots.take p) + (row.slots[p]?.map Slot.blanks).getD 0

@[simp] theorem length_slots (row : Row) : row.slots.length = row.cellCount := by
  cases row <;> simp [slots, cellCount]

/-- Blanks that were drawn with one space more than meant, to tell cells apart, are the blanks that were meant. -/
theorem slots_ofSlots (slots : List Slot) : (Row.drawn (.ofSlots slots)).slots = slots := by
  rw [Row.slots, DrawnRow.slotsFrom_eq_mapIdx, DrawnRow.ofSlots]
  apply List.ext_getElem
  · simp
  · intro i _ _
    by_cases hFirst : i = 0 <;> simp [Cell.blanks, hFirst]

theorem filled_drawn (row : DrawnRow) : (Row.drawn row).filled = row.width :=
  DrawnRow.total_slotsFrom 0 row.cells

/-- An even row takes all of its tracks, one for each cell. -/
theorem filled_even (count : Nat) (positive : 0 < count) :
    (Row.even count positive).filled = count := by
  have total_replicate (n : Nat) : Slot.total (List.replicate n ⟨0, 1⟩) = n := by
    induction n with
    | zero => rfl
    | succ n ih =>
        simp only [List.replicate_succ, Slot.total, ih, Slot.reach]
        omega
  exact total_replicate count

/-- The blanks in front of a slot are those that are counted in front of its cell. -/
theorem blankBefore_eq {row : DrawnRow} {i : Nat} {slot : Slot}
    (h : (Row.drawn row).slots[i]? = some slot) : row.blankBefore i = slot.blanks := by
  rw [slots, DrawnRow.slotsFrom_eq_mapIdx, List.getElem?_mapIdx] at h
  obtain ⟨cell, hCell, rfl⟩ := Option.map_eq_some_iff.mp h
  simp only [DrawnRow.blankBefore, hCell, Nat.zero_add]

theorem blanks_even {count : Nat} {positive : 0 < count} {slot : Slot}
    (h : slot ∈ (Row.even count positive).slots) : slot.blanks = 0 := by
  rw [List.eq_of_mem_replicate h]

/-- Only a drawn row has blanks, and its tracks are those of the grid. -/
theorem tracks_of_blanks {row : Row} {slot : Slot} (hSlot : slot ∈ row.slots)
    (hBlanks : slot.blanks ≠ 0) (columns : Nat) : row.tracks columns = columns := by
  cases row with
  | drawn drawn => rfl
  | even count positive => exact absurd (blanks_even hSlot) hBlanks

/-- A row that is no wider than its grid does not leave its tracks. -/
theorem filled_le_tracks {row : Row} {columns : Nat} (h : row.columns ≤ columns) :
    row.filled ≤ row.tracks columns := by
  cases row with
  | drawn row =>
      rw [filled_drawn]
      exact h
  | even count positive => exact Nat.le_of_eq (filled_even count positive)

/-- No cell of a row that fits into its grid reaches over the last track. -/
theorem reach_le_tracks {row : Row} {columns : Nat} (h : row.columns ≤ columns) {slot : Slot}
    (hSlot : slot ∈ row.slots) : slot.reach ≤ row.tracks columns :=
  Nat.le_trans (Slot.reach_le_total hSlot) (filled_le_tracks h)

end Row

end FlexGrid
