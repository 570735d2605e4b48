import FlexGrid.Proofs.Layout.Placement
import FlexGrid.Stylesheet
import Mathlib.Data.List.Nodup

/-! How the cells of a layout are numbered. Cells count from one without a gap, row after row, and every row
of the plan holds the cells of one row of the grid, rows without cells included. Looking up a cell or a row
and selecting a child of the container all go by these numbers. -/
namespace FlexGrid

namespace Canvas

variable {α : Type} [Scalar α]

/-- The cells of a row are numbered in order, from the next number on. -/
theorem map_index_rowCells (canvas : Canvas α) (row : Row) (number placed : Nat) :
    (canvas.rowCells row number placed).map (·.index) =
      List.range' (placed + 1) row.cellCount := by
  apply List.ext_getElem
  · simp
  · intro i _ _
    simp [rowCells, Nat.add_right_comm]

theorem row_of_mem_rowCells {canvas : Canvas α} {row : Row} {number placed : Nat}
    {cell : PlacedCell α} (h : cell ∈ canvas.rowCells row number placed) : cell.row = number := by
  obtain ⟨i, hi, rfl⟩ := List.mem_mapIdx.mp h
  rfl

/-- The invariant of the cell counter: over a run of rows it goes up by one from cell to cell, and no number is left
out or used twice. -/
theorem map_index_cells (canvas : Canvas α) (number placed : Nat) (rows : List Row) :
    (canvas.cells number placed rows).map (·.index) =
      List.range' (placed + 1) (rows.map Row.cellCount).sum := by
  induction rows generalizing number placed with
  | nil => rfl
  | cons row rest ih =>
      rw [cells, List.map_append, map_index_rowCells, ih, List.map_cons, List.sum_cons,
        Nat.add_right_comm placed, List.range'_append_1]

theorem length_cells (canvas : Canvas α) (number placed : Nat) (rows : List Row) :
    (canvas.cells number placed rows).length = (rows.map Row.cellCount).sum := by
  simpa using congrArg List.length (canvas.map_index_cells number placed rows)

/-- The invariant of the row counter: what is placed below `number` rows belongs to none of them. -/
theorem lt_row_of_mem_cells {canvas : Canvas α} {number placed : Nat} {rows : List Row}
    {cell : PlacedCell α} (h : cell ∈ canvas.cells number placed rows) : number < cell.row := by
  induction rows generalizing number placed with
  | nil => cases h
  | cons row rest ih =>
      rcases List.mem_append.mp h with h | h
      · rw [row_of_mem_rowCells h]
        exact Nat.lt_succ_self number
      · exact Nat.lt_of_succ_lt (ih h)

theorem filter_rowCells_same (canvas : Canvas α) (row : Row) (number placed : Nat) :
    (canvas.rowCells row number placed).filter (·.row == number) =
      canvas.rowCells row number placed := by
  rw [List.filter_eq_self]
  intro cell hCell
  rw [row_of_mem_rowCells hCell, beq_self_eq_true]

theorem filter_rowCells_other (canvas : Canvas α) (row : Row) {number other : Nat} (placed : Nat)
    (h : number ≠ other) : (canvas.rowCells row number placed).filter (·.row == other) = [] := by
  rw [List.filter_eq_nil_iff]
  intro cell hCell
  rw [row_of_mem_rowCells hCell, beq_iff_eq]
  exact h

/-- No cell is found under the number of a row above those that are placed. -/
theorem filter_cells_above (canvas : Canvas α) {number other : Nat} (placed : Nat)
    (rows : List Row) (h : other ≤ number) :
    (canvas.cells number placed rows).filter (·.row == other) = [] := by
  rw [List.filter_eq_nil_iff]
  intro cell hCell
  have := lt_row_of_mem_cells hCell
  rw [beq_iff_eq]
  omega

/-- The cells that carry the number of a row are those that this row was given. -/
theorem filter_cells (canvas : Canvas α) (number placed : Nat) {rows : List Row} {r : Nat} {row : Row}
    (h : rows[r]? = some row) :
    (canvas.cells number placed rows).filter (·.row == number + r + 1) =
      canvas.rowCells row (number + r + 1) (placed + ((rows.take r).map Row.cellCount).sum) := by
  induction rows generalizing number placed r with
  | nil => cases h
  | cons first rest ih =>
      rw [cells, List.filter_append]
      cases r with
      | zero =>
          obtain rfl : first = row := by simpa using h
          rw [Nat.add_zero, filter_rowCells_same, filter_cells_above _ _ _ (Nat.le_refl _)]
          simp
      | succ r =>
          have hRest := ih (number + 1) (placed + first.cellCount) (r := r) (by simpa using h)
          have hNumber : number + (r + 1) + 1 = number + 1 + r + 1 := by omega
          rw [hNumber, filter_rowCells_other _ _ _ (by omega), hRest]
          simp [Nat.add_assoc]

/-- Rows taken one after the other give back all cells, in their order. -/
theorem flatMap_filter_cells (canvas : Canvas α) (number placed : Nat) (rows : List Row) :
    (List.range rows.length).flatMap
        (fun r => (canvas.cells number placed rows).filter (·.row == number + r + 1)) =
      canvas.cells number placed rows := by
  induction rows generalizing number placed with
  | nil => rfl
  | cons row rest ih =>
      rw [List.length_cons, List.range_succ_eq_map, List.flatMap_cons, List.flatMap_map]
      simp only [cells, List.filter_append]
      rw [Nat.add_zero, filter_rowCells_same, filter_cells_above _ _ _ (Nat.le_refl _),
        List.append_nil]
      congr 1
      -- Below the first row its number does not occur, so every later number is sought in the rest only.
      rw [← ih (number + 1) (placed + row.cellCount)]
      congr 1
      funext r
      have hNumber : number + r.succ + 1 = number + 1 + r + 1 := by omega
      rw [hNumber, filter_rowCells_other _ _ _ (by omega), List.nil_append, ih]

end Canvas

namespace Plan

variable {α : Type} [Scalar α]

/-- What is found in a layout under the number of a row are the cells of that row, behind those of the rows above
it. -/
theorem rowCells_placed {rows : List Row} {r : Nat} {row : Row} (columns : Nat)
    (gutters : Gutters α) (h : rows[r]? = some row) :
    (placed rows columns gutters).rowCells (r + 1) =
      (⟨columns, rows.length, gutters⟩ : Canvas α).rowCells row (r + 1)
        ((rows.take r).map Row.cellCount).sum := by
  have hCells := Canvas.filter_cells ⟨columns, rows.length, gutters⟩ 0 0 h
  simpa only [rowCells, placed, Nat.zero_add] using hCells

/-- The cell at a position carries the number of that position, counted from one. -/
theorem index_placed {rows : List Row} {columns : Nat} {gutters : Gutters α} {p : Nat}
    {cell : PlacedCell α} (h : (placed rows columns gutters).cells[p]? = some cell) :
    cell.index = p + 1 := by
  have hIndex : ((placed rows columns gutters).cells.map (·.index))[p]? = some cell.index := by
    rw [List.getElem?_map, h, Option.map_some]
  obtain ⟨hp, hAt⟩ := List.getElem?_eq_some_iff.mp hIndex
  simp only [placed, Canvas.map_index_cells, List.getElem_range'] at hAt
  omega

omit [Scalar α] in
/-- A number finds the cell at its position, and no other number finds one. -/
theorem cell?_eq_some_iff {plan : Plan α}
    (hIndex : ∀ p cell, plan.cells[p]? = some cell → cell.index = p + 1) (i : Nat)
    (cell : PlacedCell α) : plan.cell? i = some cell ↔ cell ∈ plan.cells ∧ cell.index = i := by
  constructor
  · intro h
    cases i with
    | zero => cases h
    | succ p => exact ⟨List.mem_of_getElem? h, hIndex p cell h⟩
  · rintro ⟨hMem, rfl⟩
    obtain ⟨p, hAt⟩ := List.mem_iff_getElem?.mp hMem
    rw [hIndex p cell hAt]
    exact hAt

omit [Scalar α] in
/-- A cell is found under each number from one up to how many there are. -/
theorem isSome_cell?_iff (plan : Plan α) (i : Nat) :
    (plan.cell? i).isSome ↔ 1 ≤ i ∧ i ≤ plan.cells.length := by
  cases i with
  | zero => simp [cell?]
  | succ p =>
      rw [cell?, isSome_getElem?]
      omega

end Plan

namespace Rule

variable {α : Type} [Scalar α]

/-- The selector of the child of the container with a given number. -/
def childSelector (style : Style) (index : Nat) : String :=
  style.selector ++ " > :nth-child(" ++ toString index ++ ")"

/-- Two cells with different numbers have different selectors, for the digits of a number say which it is. -/
theorem childSelector_injective (style : Style) : Function.Injective (childSelector style) := by
  intro m n h
  have hText : toString m = toString n := by
    simpa only [childSelector, String.append_left_inj, String.append_right_inj] using h
  have hDigits : Nat.toDigits 10 m = Nat.toDigits 10 n := by
    simpa only [Nat.toString_eq_ofList_toDigits, String.ofList_inj] using hText
  calc
    m = Nat.ofDigitChars 10 (Nat.toDigits 10 m) 0 :=
      (Nat.ofDigitChars_toDigits (by decide) (by decide)).symm
    _ = Nat.ofDigitChars 10 (Nat.toDigits 10 n) 0 := by rw [hDigits]
    _ = n := Nat.ofDigitChars_toDigits (by decide) (by decide)

/-- The rules of a layout are that of the container and then one for each cell, in order. -/
theorem selectors_ofPlan (plan : Plan α) (style : Style) :
    (ofPlan plan style).map (·.selector) =
      style.selector :: (plan.cells.map (·.index)).map (childSelector style) := by
  simp [ofPlan, container, ofCell, childSelector, Function.comp_def]

end Rule

/-- The numbering of a layout, for rows of every kind and number. -/
theorem Plan.numbering {α : Type} [Scalar α] (rows : List Row) (columns : Nat)
    (gutters : Gutters α) (plan : Plan α) (style : Style)
    (h : Plan.ofRows rows columns gutters = .ok plan) :
    plan.rows = rows.length ∧
    plan.cells.length = (rows.map Row.cellCount).sum ∧
    (∀ p cell, plan.cells[p]? = some cell → cell.index = p + 1) ∧
    (∀ r row, rows[r]? = some row → (plan.rowCells (r + 1)).length = row.cellCount) ∧
    (List.range plan.rows).flatMap (fun r => plan.rowCells (r + 1)) = plan.cells ∧
    (∀ i cell, plan.cell? i = some cell ↔ cell ∈ plan.cells ∧ cell.index = i) ∧
    (∀ i, (plan.cell? i).isSome ↔ 1 ≤ i ∧ i ≤ plan.cells.length) ∧
    (Rule.ofPlan plan style).head? = some (Rule.container style) ∧
    (Rule.ofPlan plan style).tail.map (·.selector) =
      (List.range plan.cells.length).map
        (fun p => style.selector ++ " > :nth-child(" ++ toString (p + 1) ++ ")") ∧
    ((Rule.ofPlan plan style).tail.map (·.selector)).Nodup := by
  obtain ⟨-, rfl⟩ := Plan.ofRows_eq_ok_iff.mp h
  have hIndex (p : Nat) (cell : PlacedCell α)
      (hCell : (Plan.placed rows columns gutters).cells[p]? = some cell) : cell.index = p + 1 :=
    Plan.index_placed hCell
  have hSelectors : (Rule.ofPlan (Plan.placed rows columns gutters) style).tail.map (·.selector) =
      (List.range (Plan.placed rows columns gutters).cells.length).map
        (fun p => Rule.childSelector style (p + 1)) := by
    rw [List.map_tail, Rule.selectors_ofPlan, List.tail_cons, Plan.placed, Canvas.map_index_cells,
      Canvas.length_cells, List.range'_eq_map_range, List.map_map]
    simp only [Function.comp_def, Nat.zero_add, Nat.add_comm 1]
  refine ⟨rfl, Canvas.length_cells _ _ _ _, hIndex, ?_, ?_, Plan.cell?_eq_some_iff hIndex,
    Plan.isSome_cell?_iff _, rfl, hSelectors, ?_⟩
  · intro r row hRow
    rw [Plan.rowCells_placed columns gutters hRow, Canvas.length_rowCells]
  · simpa only [Plan.rowCells, Plan.placed, Nat.zero_add] using
      Canvas.flatMap_filter_cells ⟨columns, rows.length, gutters⟩ 0 0 rows
  · rw [hSelectors]
    refine List.nodup_range.map ?_
    intro p q hpq
    exact Nat.succ.inj (Rule.childSelector_injective style hpq)

/-- A row without cells between two others takes a number, and no cell has that number. -/
theorem Plan.numbering_around_blank_row :
    ∃ plan : Plan Rat,
      Plan.ofRows [.drawn ⟨[⟨2, 0⟩, ⟨1, 1⟩]⟩, .drawn ⟨[]⟩, .even 2 (by decide)] 3
        (.uniform ⟨30, .px⟩) = .ok plan ∧
      plan.rows = 3 ∧ plan.cells.length = 4 ∧ plan.rowCells 2 = [] ∧
      (plan.cell? 3).isSome ∧ plan.cell? 5 = none := by
  obtain ⟨plan, hPlaced⟩ : ∃ plan : Plan Rat,
      Plan.ofRows [.drawn ⟨[⟨2, 0⟩, ⟨1, 1⟩]⟩, .drawn ⟨[]⟩, .even 2 (by decide)] 3
        (.uniform ⟨30, .px⟩) = .ok plan := by
    refine ⟨_, Plan.ofRows_of_fits ?_⟩
    decide
  obtain ⟨hRows, hLength, -, hRowCells, -, -, hSome, -⟩ :=
    Plan.numbering _ _ _ plan Style.standard hPlaced
  refine ⟨plan, hPlaced, hRows, hLength, ?_, ?_, ?_⟩
  · exact List.length_eq_zero_iff.mp (hRowCells 1 _ rfl)
  · exact (hSome 3).mpr (by rw [hLength]; decide)
  · rw [← Option.not_isSome_iff_eq_none, hSome, hLength]
    decide

end FlexGrid
