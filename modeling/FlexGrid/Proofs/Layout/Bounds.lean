import FlexGrid.Proofs.Layout.Compile
import FlexGrid.Proofs.Layout.Extent
import FlexGrid.Proofs.Layout.Margins
import FlexGrid.Proofs.Layout.Numbering
import FlexGrid.Proofs.Spec.Rows

/-! How far the extents of a layout reach. Nothing in an extent says that it has any tracks or that it stays
within them; that follows from what readings of drawings give, from the counts of even rows, and from the
width of a row being measured against the same tracks. -/
namespace FlexGrid

/-- The extents of a cell in tracks: its width, and the margin before it if it has one. -/
def PlacedCell.extents {α : Type} (cell : PlacedCell α) : List (Extent α) :=
  cell.width :: cell.marginLeft.toList

/-- The tracks that a cell takes up of its row, the blank ones before it included. -/
def PlacedCell.reach {α : Type} (cell : PlacedCell α) : Nat :=
  (cell.extents.map Extent.count).sum

namespace Canvas

variable {α : Type} [Scalar α]

/-- A cell takes up the tracks of its slot, the blank ones in its margin and the others in its width. -/
theorem reach_slotCell (canvas : Canvas α) (row : Row) (number placed i : Nat) (slot : Slot) :
    (canvas.slotCell row number placed i slot).reach = slot.reach := by
  by_cases h : slot.blanks = 0 <;>
    simp [PlacedCell.reach, PlacedCell.extents, slotCell, marginLeft, Extent.count, Slot.reach, h,
      Nat.add_comm]

/-- A cell has its width and, where blanks are drawn before it, that margin. -/
theorem mem_extents_slotCell {canvas : Canvas α} {row : Row} {number placed i : Nat} {slot : Slot}
    {e : Extent α} :
    e ∈ (canvas.slotCell row number placed i slot).extents ↔
      e = .span slot.span (row.tracks canvas.columns) canvas.gutters.across ∨
        0 < slot.blanks ∧ e = .offset slot.blanks canvas.columns canvas.gutters.across := by
  rw [PlacedCell.extents, List.mem_cons, Option.mem_toList]
  exact or_congr_right marginLeft_eq_some_iff

/-- The cells of a row take up of its tracks what its slots do. -/
theorem sum_reach_rowCells (canvas : Canvas α) (row : Row) (number placed : Nat) :
    ((canvas.rowCells row number placed).map PlacedCell.reach).sum = row.filled := by
  have total_eq_sum (slots : List Slot) : Slot.total slots = (slots.map Slot.reach).sum := by
    induction slots with
    | nil => rfl
    | cons slot rest ih => rw [Slot.total, ih, List.map_cons, List.sum_cons]
  rw [Row.filled, total_eq_sum, rowCells_eq_mapIdx]
  congr 1
  apply List.ext_getElem
  · simp
  · intro i _ _
    simp [reach_slotCell]

end Canvas

/-- What a cell of a layout is made from: a slot that covers some track and does not leave its row. -/
theorem Plan.exists_slot_of_mem_placed {α : Type} [Scalar α] {rows : List Row} {columns : Nat}
    {gutters : Gutters α} (hSpans : ∀ row ∈ rows, ∀ slot ∈ row.slots, 0 < slot.span)
    (hFits : ∀ row ∈ rows, row.columns ≤ columns) {cell : PlacedCell α}
    (h : cell ∈ (placed rows columns gutters).cells) :
    ∃ r row above i slot, rows[r]? = some row ∧
      cell = (⟨columns, rows.length, gutters⟩ : Canvas α).slotCell row (r + 1) above i slot ∧
      0 < slot.span ∧ slot.reach ≤ row.tracks columns ∧
      (0 < slot.blanks → row.tracks columns = columns) := by
  obtain ⟨p, hCell⟩ := List.mem_iff_getElem?.mp h
  obtain ⟨r, row, i, slot, hRow, hSlot, -, rfl⟩ := exists_slot_of_getElem?_placed hCell
  have hMem := List.mem_of_getElem? hRow
  have hSlotMem := List.mem_of_getElem? hSlot
  exact ⟨r, row, _, i, slot, hRow, rfl, hSpans row hMem slot hSlotMem,
    Row.reach_le_tracks (hFits row hMem) hSlotMem,
    fun hBlanks => Row.tracks_of_blanks hSlotMem (Nat.ne_of_gt hBlanks) columns⟩

/-- No extent of a layout leaves its grid, for every short spec and all options: there are tracks to divide by, each
cell covers some of them and no more than there are, each margin before a cell covers some but not all of the
columns, and a drawn row takes up no more columns than there are. -/
theorem Plan.within_grid {α : Type} [Scalar α] (spec : Spec) (options : Options α) (plan : Plan α)
    (hShort : ∀ text, .drawing text ∈ spec.entries → text.length < UInt32.size)
    (h : spec.compileHeld? options = some (.ok plan)) :
    ∃ rows, spec.heldRows = .ok rows ∧
      (∀ cell ∈ plan.cells, ∃ r row span, rows[r]? = some row ∧ cell.row = r + 1 ∧
        cell.width = .span span (row.tracks plan.columns) options.gutter ∧
        1 ≤ row.tracks plan.columns ∧ 1 ≤ span ∧ span ≤ row.tracks plan.columns) ∧
      (∀ cell ∈ plan.cells, ∀ m, cell.marginLeft = some m →
        ∃ offset, m = .offset offset plan.columns options.gutter ∧
          1 ≤ offset ∧ offset < plan.columns) ∧
      (∀ r drawn, rows[r]? = some (.drawn drawn) →
        ((plan.rowCells (r + 1)).map PlacedCell.reach).sum ≤ plan.columns) ∧
      (∀ cell ∈ plan.cells, ∀ e ∈ cell.extents,
        e.tracks ≠ 0 ∧ (e.css = "100%" ↔ ∃ n, e = .span n n options.gutter)) := by
  rw [Spec.compileHeld?_of_isShort hShort, Option.some_inj] at h
  rw [Spec.heldRows_of_isShort hShort]
  obtain ⟨rows, hRows⟩ := Spec.exists_rows_of_compile h
  obtain ⟨hWidest, rfl⟩ := (Spec.compile_eq_ok_iff hRows).mp h
  generalize options.columns.getD (Row.widest rows) = columns at hWidest ⊢
  have hFits := Row.widest_le_iff.mp hWidest
  have hSlots {cell : PlacedCell α} (hCell : cell ∈ (placed rows columns options.gutters).cells) :=
    exists_slot_of_mem_placed (Spec.span_pos hRows) hFits hCell
  refine ⟨rows, hRows, ?_, ?_, ?_, ?_⟩
  · intro cell hCell
    obtain ⟨r, row, above, i, slot, hRow, rfl, hSpan, hReach, -⟩ := hSlots hCell
    have hTracks : slot.span ≤ row.tracks columns := Nat.le_trans (Nat.le_add_left _ _) hReach
    exact ⟨r, row, slot.span, hRow, rfl, rfl, Nat.le_trans hSpan hTracks, hSpan, hTracks⟩
  · intro cell hCell m hMargin
    obtain ⟨r, row, above, i, slot, hRow, rfl, hSpan, hReach, hOwn⟩ := hSlots hCell
    obtain ⟨hBlanks, rfl⟩ := Canvas.marginLeft_eq_some_iff.mp hMargin
    rw [hOwn hBlanks, Slot.reach] at hReach
    exact ⟨slot.blanks, rfl, hBlanks, by change _ < columns; omega⟩
  · intro r drawn hRow
    rw [rowCells_placed columns options.gutters hRow, Canvas.sum_reach_rowCells, Row.filled_drawn]
    exact hFits _ (List.mem_of_getElem? hRow)
  · intro cell hCell e hExtent
    obtain ⟨r, row, above, i, slot, hRow, rfl, hSpan, hReach, hOwn⟩ := hSlots hCell
    rw [Slot.reach] at hReach
    rw [Extent.css_eq_whole_iff, Extent.expression?_eq_none_iff]
    rcases Canvas.mem_extents_slotCell.mp hExtent with rfl | ⟨hBlanks, rfl⟩
    · refine ⟨by change row.tracks columns ≠ 0; omega, ?_⟩
      constructor
      · rintro ⟨count, tracks, gutter, hSame, hCount⟩
        obtain ⟨rfl, rfl, -⟩ := Extent.span.inj hSame
        have hWhole : row.tracks columns = slot.span := Nat.le_antisymm hCount (by omega)
        exact ⟨slot.span, congrArg (Extent.span slot.span · _) hWhole⟩
      · rintro ⟨n, hSame⟩
        exact ⟨n, n, _, hSame, Nat.le_refl n⟩
    · have hTracks := hOwn hBlanks
      refine ⟨by change columns ≠ 0; omega, ?_⟩
      simp

/-- A grid without columns: its blank row needs none, and its even row divides by its own count. -/
theorem Plan.within_grid_of_no_columns :
    ∃ plan : Plan Rat,
      Spec.compileHeld? ⟨[.drawing "  ", .distribute 3]⟩ { Options.standard with columns := some 0 } =
        some (.ok plan) ∧
      plan.columns = 0 ∧ plan.cells.length = 3 ∧
      ∀ cell ∈ plan.cells, ∀ e ∈ cell.extents, e.tracks ≠ 0 := by
  let spec : Spec := ⟨[.drawing "  ", .distribute 3]⟩
  have hRows : spec.rows = .ok [.drawn ⟨[]⟩, .even 3 (by decide)] := by decide +kernel
  have hShort : spec.IsShort := by
    intro text hText
    obtain rfl : text = "  " := by simpa [spec] using hText
    decide
  obtain ⟨plan, hPlan⟩ : ∃ plan : Plan Rat,
      spec.compile { Options.standard with columns := some 0 } = .ok plan :=
    (Spec.exists_compile_iff hRows).mpr (Nat.le_refl 0)
  have hHeld := (Spec.compileHeld?_of_isShort hShort _).trans (congrArg some hPlan)
  obtain ⟨-, -, -, -, -, hExtents⟩ := Plan.within_grid spec _ plan hShort hHeld
  obtain ⟨-, rfl⟩ := (Spec.compile_eq_ok_iff hRows).mp hPlan
  exact ⟨_, hHeld, rfl, rfl, fun cell hCell e hExtent => (hExtents cell hCell e hExtent).1⟩

/-- A cell of one unit-column more than a word can count is held without any, so its row is no wider than a grid without
columns and its width is no track of none. -/
theorem Plan.tracks_cut_off :
    ∃ plan : Plan Rat,
      Spec.compileHeld? ⟨[.drawing (DrawnRow.drawing ⟨[⟨UInt32.size, 0⟩]⟩)]⟩ .standard = some (.ok plan) ∧
      plan.columns = 0 ∧ plan.cells.map PlacedCell.width = [.span 0 0 Options.standard.gutter] := by
  -- Of the spec only its held row is used: its drawing is never written out.
  have hLayout (spec : Spec) (hHeld : spec.heldRows = .ok [.drawn ⟨[⟨0, 0⟩]⟩]) :
      ∃ plan : Plan Rat, spec.compileHeld? .standard = some (.ok plan) ∧
        plan.columns = 0 ∧ plan.cells.map PlacedCell.width = [.span 0 0 Options.standard.gutter] := by
    rw [Spec.compileHeld?, hHeld]
    exact ⟨_, rfl, rfl, rfl⟩
  have hSpans : ∀ cell ∈ (⟨[⟨UInt32.size, 0⟩]⟩ : DrawnRow).cells, 0 < cell.span := by decide
  exact hLayout _ (Spec.heldRows_drawing hSpans)

end FlexGrid
