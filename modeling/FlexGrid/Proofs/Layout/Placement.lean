import FlexGrid.Layout.Placement
import FlexGrid.Proofs.Row.Slots
import Mathlib.Algebra.GroupWithZero.Nat

/-! What placing rows gives, said without the progress that is passed from row to row. Placement succeeds
exactly when no row is too wide; then the cells of each row follow from the row, its number and the number
of cells above it. Otherwise the first row that is too wide is named. -/
namespace FlexGrid

namespace Canvas

variable {α : Type} [Scalar α]

/-- The cells of the `number`-th row, which has `placed` cells above it. -/
def rowCells (canvas : Canvas α) (row : Row) (number placed : Nat) : List (PlacedCell α) :=
  row.slots.mapIdx fun i slot => {
    index := placed + i + 1
    row := number
    width := .span slot.span (row.tracks canvas.columns) canvas.gutters.across
    marginLeft := canvas.marginLeft slot.blanks
    marginRight := canvas.marginRight (i + 1 == row.cellCount)
    marginBottom := canvas.marginBottom number }

/-- The cells of rows below `number` rows with `placed` cells, all in one list. What a row is preceded by shows in its
numbers alone. -/
def cells (canvas : Canvas α) (number placed : Nat) : List Row → List (PlacedCell α)
  | [] => []
  | row :: rest =>
      canvas.rowCells row (number + 1) placed ++
        canvas.cells (number + 1) (placed + row.cellCount) rest

theorem drawnCells_eq (canvas : Canvas α) (drawn : DrawnRow) (number placed : Nat) :
    canvas.drawnCells drawn number placed = canvas.rowCells (.drawn drawn) number placed := by
  simp [drawnCells, rowCells, Row.slots, Row.tracks, Row.cellCount, DrawnRow.slotsFrom_eq_mapIdx,
    Function.comp_def]

/-- The cells of an even row are those of its slots, each one track of its own row. -/
theorem evenCells_eq (canvas : Canvas α) (count : Nat) (positive : 0 < count) (number placed : Nat) :
    canvas.evenCells count number placed =
      canvas.rowCells (.even count positive) number placed := by
  apply List.ext_getElem
  · simp [evenCells, rowCells, Row.slots]
  · intro i _ _
    simp [evenCells, rowCells, Row.slots, Row.tracks, Row.cellCount, marginLeft]

@[simp] theorem length_rowCells (canvas : Canvas α) (row : Row) (number placed : Nat) :
    (canvas.rowCells row number placed).length = row.cellCount := by
  simp [rowCells]

/-- One row is placed by one rule, whichever kind it is of. -/
theorem place_eq (canvas : Canvas α) (number placed : Nat) (row : Row) :
    canvas.place ⟨number, placed⟩ row =
      if canvas.columns < row.columns then .error ⟨number + 1, row.columns, canvas.columns⟩
      else .ok (canvas.rowCells row (number + 1) placed, ⟨number + 1, placed + row.cellCount⟩) := by
  cases row with
  | drawn drawn =>
      simp only [place, drawnCells_eq, length_rowCells]
      rfl
  | even count positive =>
      simp only [place, Row.columns, evenCells_eq canvas count positive, length_rowCells,
        Nat.not_lt_zero, ↓reduceIte]

theorem placeAll_of_fits (canvas : Canvas α) (number placed : Nat) (rows : List Row)
    (h : ∀ row ∈ rows, row.columns ≤ canvas.columns) :
    canvas.placeAll ⟨number, placed⟩ rows =
      .ok (canvas.cells number placed rows,
        ⟨number + rows.length, placed + (rows.map Row.cellCount).sum⟩) := by
  induction rows generalizing number placed with
  | nil => rfl
  | cons row rest ih =>
      have hRow : ¬canvas.columns < row.columns := Nat.not_lt.mpr (h row (by simp))
      rw [placeAll, place_eq, if_neg hRow]
      simp only [ih _ _ fun r hr => h r (List.mem_cons_of_mem _ hr), Except.map, cells,
        List.length_cons, List.map_cons, List.sum_cons, Nat.add_assoc, Nat.add_comm 1]

/-- The first row that does not fit ends the placement, whatever comes after it. -/
theorem placeAll_of_overflow (canvas : Canvas α) (number placed : Nat) (above : List Row) (row : Row)
    (below : List Row) (hAbove : ∀ r ∈ above, r.columns ≤ canvas.columns)
    (hRow : canvas.columns < row.columns) :
    canvas.placeAll ⟨number, placed⟩ (above ++ row :: below) =
      .error ⟨number + above.length + 1, row.columns, canvas.columns⟩ := by
  induction above generalizing number placed with
  | nil =>
      rw [List.nil_append, placeAll, place_eq, if_pos hRow]
      rfl
  | cons first rest ih =>
      have hFirst : ¬canvas.columns < first.columns := Nat.not_lt.mpr (hAbove first (by simp))
      rw [List.cons_append, placeAll, place_eq, if_neg hFirst]
      simp only [ih _ _ fun r hr => hAbove r (List.mem_cons_of_mem _ hr), Except.map,
        List.length_cons, Nat.add_assoc, Nat.add_comm 1]

end Canvas

/-- Either all rows fit, or some row is the first that does not. -/
theorem Row.fits_or_overflows (columns : Nat) (rows : List Row) :
    (∀ row ∈ rows, row.columns ≤ columns) ∨
      ∃ above row below, rows = above ++ row :: below ∧
        (∀ r ∈ above, r.columns ≤ columns) ∧ columns < row.columns := by
  induction rows with
  | nil => exact Or.inl (by simp)
  | cons first rest ih =>
      by_cases hFirst : first.columns ≤ columns
      · rcases ih with hRest | ⟨above, row, below, rfl, hAbove, hRow⟩
        · exact Or.inl (by simpa using ⟨hFirst, hRest⟩)
        · exact Or.inr ⟨first :: above, row, below, rfl, by simpa using ⟨hFirst, hAbove⟩, hRow⟩
      · exact Or.inr ⟨[], first, rest, rfl, by simp, Nat.lt_of_not_le hFirst⟩

namespace Plan

variable {α : Type} [Scalar α]

/-- The plan of rows that fit, put together at once rather than row by row. -/
def placed (rows : List Row) (columns : Nat) (gutters : Gutters α) : Plan α :=
  ⟨Canvas.cells ⟨columns, rows.length, gutters⟩ 0 0 rows, columns, rows.length, gutters⟩

theorem ofRows_of_fits {rows : List Row} {columns : Nat} {gutters : Gutters α}
    (h : ∀ row ∈ rows, row.columns ≤ columns) :
    ofRows rows columns gutters = .ok (placed rows columns gutters) := by
  have hPlaced := Canvas.placeAll_of_fits (⟨columns, rows.length, gutters⟩ : Canvas α) 0 0 rows h
  simp only [ofRows, hPlaced, Except.map, placed, Nat.zero_add]

/-- The first row that is too wide ends the placement with its number and its width, whatever is below it. -/
theorem ofRows_of_overflow {above : List Row} {row : Row} {below : List Row} {columns : Nat}
    {gutters : Gutters α} (hAbove : ∀ r ∈ above, r.columns ≤ columns)
    (hRow : columns < row.columns) :
    ofRows (above ++ row :: below) columns gutters =
      .error ⟨above.length + 1, row.columns, columns⟩ := by
  have hPlaced := Canvas.placeAll_of_overflow
    (⟨columns, (above ++ row :: below).length, gutters⟩ : Canvas α) 0 0 above row below hAbove hRow
  simp only [ofRows, hPlaced, Except.map, Nat.zero_add]

/-- Placement succeeds exactly when every row fits, and gives one plan only. -/
theorem ofRows_eq_ok_iff {rows : List Row} {columns : Nat} {gutters : Gutters α} {plan : Plan α} :
    ofRows rows columns gutters = .ok plan ↔
      (∀ row ∈ rows, row.columns ≤ columns) ∧ plan = placed rows columns gutters := by
  constructor
  · intro h
    rcases Row.fits_or_overflows columns rows with hFits | ⟨above, row, below, rfl, hAbove, hRow⟩
    · rw [ofRows_of_fits hFits] at h
      exact ⟨hFits, (Except.ok.inj h).symm⟩
    · rw [ofRows_of_overflow hAbove hRow] at h
      cases h
  · rintro ⟨hFits, rfl⟩
    exact ofRows_of_fits hFits

/-- Placement fails exactly when some row is too wide, and names the first such row. -/
theorem ofRows_eq_error_iff {rows : List Row} {columns : Nat} {gutters : Gutters α}
    {excess : Overflow} :
    ofRows rows columns gutters = .error excess ↔
      ∃ above row below, rows = above ++ row :: below ∧ (∀ r ∈ above, r.columns ≤ columns) ∧
        columns < row.columns ∧ excess = ⟨above.length + 1, row.columns, columns⟩ := by
  constructor
  · intro h
    rcases Row.fits_or_overflows columns rows with hFits | ⟨above, row, below, rfl, hAbove, hRow⟩
    · rw [ofRows_of_fits hFits] at h
      cases h
    · rw [ofRows_of_overflow hAbove hRow] at h
      exact ⟨above, row, below, rfl, hAbove, hRow, (Except.error.inj h).symm⟩
  · rintro ⟨above, row, below, rfl, hAbove, hRow, rfl⟩
    exact ofRows_of_overflow hAbove hRow

end Plan

end FlexGrid
