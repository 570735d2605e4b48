import FlexGrid.Proofs.Layout.Placement

/-! Where a cell of a layout comes from. The cell at a position is that of one slot of one row, and the position
counts the cells of the rows above and the slots in front. -/
namespace FlexGrid

namespace Canvas

variable {α : Type} [Scalar α]

/-- The cell of the slot that has `i` slots in front of it in its row. -/
def slotCell (canvas : Canvas α) (row : Row) (number placed i : Nat) (slot : Slot) : PlacedCell α where
  index := placed + i + 1
  row := number
  width := .span slot.span (row.tracks canvas.columns) canvas.gutters.across
  marginLeft := canvas.marginLeft slot.blanks
  marginRight := canvas.marginRight (i + 1 == row.cellCount)
  marginBottom := canvas.marginBottom number

/-- Each cell of a row is made from its slot and its position, and from nothing else in the row. -/
theorem rowCells_eq_mapIdx (canvas : Canvas α) (row : Row) (number placed : Nat) :
    canvas.rowCells row number placed = row.slots.mapIdx (canvas.slotCell row number placed) :=
  rfl

/-- Every slot has its cell at the position that counting gives. -/
theorem getElem?_cells (canvas : Canvas α) (number placed : Nat) {rows : List Row} {r : Nat}
    {row : Row} (hRow : rows[r]? = some row) {i : Nat} {slot : Slot}
    (hSlot : row.slots[i]? = some slot) :
    (canvas.cells number placed rows)[((rows.take r).map Row.cellCount).sum + i]? =
      some (canvas.slotCell row (number + r + 1)
        (placed + ((rows.take r).map Row.cellCount).sum) i slot) := by
  induction rows generalizing number placed r with
  | nil => cases hRow
  | cons first rest ih =>
      cases r with
      | zero =>
          obtain rfl : first = row := by simpa using hRow
          have hi : i < (canvas.rowCells first (number + 1) placed).length := by
            obtain ⟨hi, -⟩ := List.getElem?_eq_some_iff.mp hSlot
            rwa [length_rowCells, ← Row.length_slots]
          simp only [List.take_zero, List.map_nil, List.sum_nil, Nat.zero_add, cells,
            List.getElem?_append_left hi]
          rw [rowCells_eq_mapIdx, List.getElem?_mapIdx, hSlot]
          rfl
      | succ r =>
          have hRest := ih (number + 1) (placed + first.cellCount) (r := r) (by simpa using hRow)
          have hNumber : number + 1 + r + 1 = number + (r + 1) + 1 := by omega
          rw [hNumber, Nat.add_assoc placed] at hRest
          rw [List.take_succ_cons, List.map_cons, List.sum_cons, ← hRest, cells,
            List.getElem?_append_right]
          · rw [length_rowCells, Nat.add_assoc, Nat.add_sub_cancel_left]
          · rw [length_rowCells]
            omega

theorem exists_slot_of_getElem?_cells {canvas : Canvas α} {number placed : Nat} {rows : List Row}
    {p : Nat} {cell : PlacedCell α} (h : (canvas.cells number placed rows)[p]? = some cell) :
    ∃ r row i slot, rows[r]? = some row ∧ row.slots[i]? = some slot ∧
      p = ((rows.take r).map Row.cellCount).sum + i ∧
      cell = canvas.slotCell row (number + r + 1)
        (placed + ((rows.take r).map Row.cellCount).sum) i slot := by
  induction rows generalizing number placed p with
  | nil => cases h
  | cons first rest ih =>
      rw [cells] at h
      by_cases hp : p < first.cellCount
      · rw [List.getElem?_append_left (by rwa [length_rowCells]), rowCells_eq_mapIdx,
          List.getElem?_mapIdx] at h
        obtain ⟨slot, hSlot, rfl⟩ := Option.map_eq_some_iff.mp h
        exact ⟨0, first, p, slot, rfl, hSlot, (Nat.zero_add p).symm, rfl⟩
      · rw [List.getElem?_append_right (by rw [length_rowCells]; omega), length_rowCells] at h
        obtain ⟨r, row, i, slot, hRow, hSlot, hPosition, rfl⟩ := ih h
        have hNumber : number + 1 + r + 1 = number + (r + 1) + 1 := by omega
        refine ⟨r + 1, row, i, slot, hRow, hSlot, ?_, ?_⟩
        · rw [List.take_succ_cons, List.map_cons, List.sum_cons]
          omega
        · rw [hNumber, List.take_succ_cons, List.map_cons, List.sum_cons, Nat.add_assoc placed]

end Canvas

namespace Plan

variable {α : Type} [Scalar α] {rows : List Row} {columns : Nat} {gutters : Gutters α}

/-- A cell is found in a layout behind all cells of the rows above it and those to its left. -/
theorem getElem?_placed {r : Nat} {row : Row} (hRow : rows[r]? = some row) {i : Nat} {slot : Slot}
    (hSlot : row.slots[i]? = some slot) :
    (placed rows columns gutters).cells[((rows.take r).map Row.cellCount).sum + i]? =
      some ((⟨columns, rows.length, gutters⟩ : Canvas α).slotCell row (r + 1)
        ((rows.take r).map Row.cellCount).sum i slot) := by
  have hCell := Canvas.getElem?_cells ⟨columns, rows.length, gutters⟩ 0 0 hRow hSlot
  simpa only [placed, Nat.zero_add] using hCell

/-- Every position in a layout is that of a cell in some row. -/
theorem exists_slot_of_getElem?_placed {p : Nat} {cell : PlacedCell α}
    (h : (placed rows columns gutters).cells[p]? = some cell) :
    ∃ r row i slot, rows[r]? = some row ∧ row.slots[i]? = some slot ∧
      p = ((rows.take r).map Row.cellCount).sum + i ∧
      cell = (⟨columns, rows.length, gutters⟩ : Canvas α).slotCell row (r + 1)
        ((rows.take r).map Row.cellCount).sum i slot := by
  simpa only [Nat.zero_add] using Canvas.exists_slot_of_getElem?_cells h

/-- A cell stands right before another cell of its row unless it is the last one there. -/
theorem exists_next_iff (columns : Nat) (gutters : Gutters α) {r : Nat} {row : Row}
    (hRow : rows[r]? = some row) {i : Nat} (hi : i < row.cellCount) :
    (∃ next, (placed rows columns gutters).cells[((rows.take r).map Row.cellCount).sum + i + 1]? =
        some next ∧ next.row = r + 1) ↔ i + 1 ≠ row.cellCount := by
  constructor
  · rintro ⟨next, hNext, hNumber⟩ hLast
    obtain ⟨r', row', i', slot, hRow', hSlot, hPosition, rfl⟩ := exists_slot_of_getElem?_placed hNext
    obtain rfl : r' = r := Nat.succ.inj hNumber
    obtain rfl : row' = row := Option.some.inj (hRow'.symm.trans hRow)
    obtain ⟨hi', -⟩ := List.getElem?_eq_some_iff.mp hSlot
    rw [Row.length_slots] at hi'
    omega
  · intro hLast
    have hNext : i + 1 < row.slots.length := by
      rw [Row.length_slots]
      omega
    have hSlot := List.getElem?_eq_getElem hNext
    exact ⟨_, getElem?_placed hRow hSlot, rfl⟩

end Plan

end FlexGrid
