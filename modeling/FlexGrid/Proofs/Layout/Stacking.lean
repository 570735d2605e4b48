import FlexGrid.Proofs.Layout.Placement

/-! Layouts one below the other. The layout of rows followed by others is made of the layouts of both: the
lower one is moved down as it is, and the upper one only gains a margin under what was its last row. -/
namespace FlexGrid

/-- The same excess with more rows above it. -/
def Overflow.lowered (excess : Overflow) (rows : Nat) : Overflow :=
  { excess with row := excess.row + rows }

namespace PlacedCell

variable {α : Type}

/-- The same cell with more rows and cells above it. Its place in the order of cells moves, and its size and its
margins do not. -/
def lowered (cell : PlacedCell α) (rows cells : Nat) : PlacedCell α :=
  { cell with index := cell.index + cells, row := cell.row + rows }

/-- The same cell when rows follow what was the last row of its grid. If it was in that row it gains a margin below
it, unless the gutter is zero. -/
def followed [Scalar α] (cell : PlacedCell α) (last : Nat) (gutter : Length α) : PlacedCell α :=
  if cell.row = last then { cell with marginBottom := gutter.nonzero? } else cell

end PlacedCell

namespace Canvas

variable {α : Type} [Scalar α]

/-- The outcome of a placement with more rows and cells above it. -/
def lowered (rows cells : Nat) :
    Except Overflow (List (PlacedCell α) × Progress) →
      Except Overflow (List (PlacedCell α) × Progress)
  | .error excess => .error (excess.lowered rows)
  | .ok (placed, reached) =>
      .ok (placed.map (·.lowered rows cells), ⟨reached.rows + rows, reached.cells + cells⟩)

/-- Rows are placed one after the other, so those above are placed first and those below from where they end. -/
theorem placeAll_append (canvas : Canvas α) (progress : Progress) (above below : List Row) :
    canvas.placeAll progress (above ++ below) =
      match canvas.placeAll progress above with
      | .error excess => .error excess
      | .ok (cells, reached) =>
          (canvas.placeAll reached below).map fun (others, last) => (cells ++ others, last) := by
  induction above generalizing progress with
  | nil => cases h : canvas.placeAll progress below <;> simp [placeAll, h, Except.map]
  | cons row rest ih =>
      rw [List.cons_append, placeAll, placeAll]
      cases canvas.place progress row with
      | error excess => rfl
      | ok step =>
          simp only [ih step.2]
          cases canvas.placeAll step.2 rest with
          | error excess => rfl
          | ok middle =>
              cases hBelow : canvas.placeAll middle.2 below <;>
                simp [hBelow, Except.map, List.append_assoc]

theorem reached_of_place {canvas : Canvas α} {progress : Progress} {row : Row}
    {cells : List (PlacedCell α)} {reached : Progress}
    (h : canvas.place progress row = .ok (cells, reached)) :
    reached = ⟨progress.rows + 1, progress.cells + cells.length⟩ := by
  rw [place_eq] at h
  by_cases hRow : canvas.columns < row.columns
  · rw [if_pos hRow] at h
    cases h
  · rw [if_neg hRow] at h
    cases h
    rw [length_rowCells]

/-- A placement that succeeds passes on how many rows and cells it has placed. -/
theorem reached_of_placeAll {canvas : Canvas α} {progress : Progress} {rows : List Row}
    {cells : List (PlacedCell α)} {reached : Progress}
    (h : canvas.placeAll progress rows = .ok (cells, reached)) :
    reached = ⟨progress.rows + rows.length, progress.cells + cells.length⟩ := by
  induction rows generalizing progress cells with
  | nil =>
      cases h
      rfl
  | cons row rest ih =>
      rw [placeAll] at h
      cases hRow : canvas.place progress row with
      | error excess =>
          rw [hRow] at h
          cases h
      | ok step =>
          cases hRest : canvas.placeAll step.2 rest with
          | error excess =>
              simp only [hRow, hRest] at h
              cases h
          | ok others =>
              simp only [hRow, hRest] at h
              cases h
              have hStep := reached_of_place hRow
              rw [ih hRest, hStep]
              simp [Nat.add_assoc, Nat.add_comm 1]

/-- Cells that are placed further down are the same but for their numbers. -/
theorem rowCells_lowered (canvas : Canvas α) (row : Row) (number placed rows cells : Nat) :
    ({ canvas with rows := canvas.rows + rows } : Canvas α).rowCells row (number + rows)
        (placed + cells) =
      (canvas.rowCells row number placed).map (·.lowered rows cells) := by
  apply List.ext_getElem
  · simp
  · intro i _ _
    simp [rowCells, PlacedCell.lowered, marginLeft, marginRight, marginBottom]
    omega

/-- One row is placed alike wherever it stands: rows and cells above it move its numbers and change nothing else, not
even whether it is too wide. -/
theorem place_lowered (canvas : Canvas α) (number placed : Nat) (row : Row) (rows cells : Nat) :
    ({ canvas with rows := canvas.rows + rows } : Canvas α).place
        ⟨number + rows, placed + cells⟩ row =
      lowered rows cells (canvas.place ⟨number, placed⟩ row) := by
  simp only [place_eq, Nat.add_right_comm _ rows 1, rowCells_lowered]
  by_cases hRow : canvas.columns < row.columns
  · simp only [if_pos hRow]
    rfl
  · simp only [if_neg hRow, lowered, Nat.add_right_comm]

/-- Rows that are placed further down are placed as before, but for their numbers and for those in what goes wrong. -/
theorem placeAll_lowered (canvas : Canvas α) (progress : Progress) (below : List Row)
    (rows cells : Nat) :
    ({ canvas with rows := canvas.rows + rows } : Canvas α).placeAll
        ⟨progress.rows + rows, progress.cells + cells⟩ below =
      lowered rows cells (canvas.placeAll progress below) := by
  induction below generalizing progress with
  | nil => rfl
  | cons row rest ih =>
      rw [placeAll, placeAll, place_lowered]
      cases canvas.place progress row with
      | error excess => rfl
      | ok step =>
          simp only [lowered, ih step.2]
          cases canvas.placeAll step.2 rest <;> simp [Except.map]

/-- Only the number of the last row of a grid is special, and what follows it makes it like the others. -/
theorem rowCells_followed (canvas : Canvas α) (row : Row) {number total : Nat} (placed : Nat)
    (hNumber : number ≤ canvas.rows) (hTotal : canvas.rows < total) :
    ({ canvas with rows := total } : Canvas α).rowCells row number placed =
      (canvas.rowCells row number placed).map (·.followed canvas.rows canvas.gutters.down) := by
  have hNumber' : number ≠ total := by omega
  apply List.ext_getElem
  · simp
  · intro i _ _
    by_cases hLast : number = canvas.rows <;>
      simp [rowCells, PlacedCell.followed, marginLeft, marginRight, marginBottom, hLast, hNumber',
        Nat.ne_of_lt hTotal]

/-- A row that others follow gets the margin under its cells, if it was the last before. -/
theorem place_followed (canvas : Canvas α) (progress : Progress) (row : Row) {total : Nat}
    (hRow : progress.rows + 1 ≤ canvas.rows) (hTotal : canvas.rows < total) :
    ({ canvas with rows := total } : Canvas α).place progress row =
      (canvas.place progress row).map fun (cells, reached) =>
        (cells.map (·.followed canvas.rows canvas.gutters.down), reached) := by
  obtain ⟨number, placed⟩ := progress
  simp only [place_eq, rowCells_followed canvas row placed hRow hTotal]
  by_cases hWide : canvas.columns < row.columns
  · simp only [if_pos hWide]
    rfl
  · simp only [if_neg hWide]
    rfl

/-- Of rows that others follow only the last is placed otherwise than before, and whether they fit stays the same. -/
theorem placeAll_followed (canvas : Canvas α) (progress : Progress) (above : List Row) {total : Nat}
    (hRows : progress.rows + above.length ≤ canvas.rows) (hTotal : canvas.rows < total) :
    ({ canvas with rows := total } : Canvas α).placeAll progress above =
      (canvas.placeAll progress above).map fun (cells, reached) =>
        (cells.map (·.followed canvas.rows canvas.gutters.down), reached) := by
  -- No row that is still to come is numbered above the last one, so none is taken for the new last row.
  induction above generalizing progress with
  | nil => rfl
  | cons row rest ih =>
      rw [List.length_cons] at hRows
      rw [placeAll, placeAll, place_followed canvas progress row (by omega) hTotal]
      cases hRow : canvas.place progress row with
      | error excess => rfl
      | ok step =>
          have hStep := reached_of_place hRow
          have hRest := ih step.2 (by
            rw [hStep]
            change progress.rows + 1 + rest.length ≤ canvas.rows
            omega)
          simp only [Except.map, hRest]
          cases canvas.placeAll step.2 rest <;> simp

end Canvas

/-- The concatenation law of layouts. Rows above and rows below are laid out together exactly if they are
laid out each on their own; then the cells above only gain the margin under what was their last row, and the
cells below only count on. A failure is that of the rows above, or else that of the rows below. -/
theorem Plan.ofRows_append {α : Type} [Scalar α] (above below : List Row) (columns : Nat)
    (gutters : Gutters α) (h : below ≠ []) :
    Plan.ofRows (above ++ below) columns gutters =
      match Plan.ofRows above columns gutters with
      | .error excess => .error excess
      | .ok top =>
          match Plan.ofRows below columns gutters with
          | .error excess => .error (excess.lowered above.length)
          | .ok bottom => .ok {
              cells := top.cells.map (·.followed above.length gutters.down) ++
                bottom.cells.map (·.lowered above.length top.cells.length)
              columns
              rows := above.length + below.length
              gutters } := by
  let upper : Canvas α := ⟨columns, above.length, gutters⟩
  let lower : Canvas α := ⟨columns, below.length, gutters⟩
  have hBelow : 0 < below.length := List.length_pos_iff.mpr h
  have hUpper : (⟨columns, (above ++ below).length, gutters⟩ : Canvas α).placeAll ⟨0, 0⟩ above =
      (upper.placeAll ⟨0, 0⟩ above).map fun (cells, reached) =>
        (cells.map (·.followed above.length gutters.down), reached) := by
    refine upper.placeAll_followed ⟨0, 0⟩ above ?_ ?_
    · exact Nat.le_of_eq (Nat.zero_add _)
    · rw [List.length_append]
      change above.length < above.length + below.length
      omega
  have hLower (cells : Nat) :
      (⟨columns, (above ++ below).length, gutters⟩ : Canvas α).placeAll ⟨above.length, cells⟩ below =
        Canvas.lowered above.length cells (lower.placeAll ⟨0, 0⟩ below) := by
    have hShift := lower.placeAll_lowered ⟨0, 0⟩ below above.length cells
    rw [List.length_append, Nat.add_comm above.length]
    simpa only [Nat.zero_add] using hShift
  simp only [ofRows, Canvas.placeAll_append, hUpper]
  cases hTop : upper.placeAll ⟨0, 0⟩ above with
  | error excess => rfl
  | ok top =>
      obtain ⟨cells, reached⟩ := top
      obtain rfl := Canvas.reached_of_placeAll hTop
      simp only [Except.map, Nat.zero_add, hLower]
      cases hBottom : lower.placeAll ⟨0, 0⟩ below with
      | error excess => rfl
      | ok bottom =>
          obtain ⟨others, last⟩ := bottom
          obtain rfl := Canvas.reached_of_placeAll hBottom
          simp [Canvas.lowered, Nat.add_comm above.length]

/-- A row without cells and an even row below one cell: the cell gains its margin, and the counts go on. -/
theorem Plan.ofRows_append_below_cell :
    ∃ plan : Plan Rat,
      Plan.ofRows ([.drawn ⟨[⟨2, 0⟩]⟩] ++ [.drawn ⟨[]⟩, .even 2 (by decide)]) 2
        (.uniform ⟨30, .px⟩) = .ok plan ∧
      plan.cells.map (fun cell => (cell.index, cell.row, cell.marginBottom)) =
        [(1, 1, some ⟨30, .px⟩), (2, 3, none), (3, 3, none)] := by
  have hBelow : [Row.drawn ⟨[]⟩, .even 2 (by decide)] ≠ [] := List.cons_ne_nil _ _
  exact ⟨_, (Plan.ofRows_append _ _ 2 (.uniform ⟨30, .px⟩) hBelow).trans rfl, rfl⟩

end FlexGrid
