import FlexGrid.Proofs.Layout.Comparison
import FlexGrid.Proofs.Layout.Numbering
import FlexGrid.Proofs.Layout.Positions
import FlexGrid.Proofs.Spec.Rows

/-! What drawn rows and even rows know of each other. Both kinds pass the same counters on, and the columns of the
grid are on hand in every row. Yet a row reads of the rows above it only how many cells they have, which reaches
nothing but an index, and an even row does not read the columns. -/
namespace FlexGrid

/-- A cell without its index. -/
def PlacedCell.unindexed {α : Type} (cell : PlacedCell α) : PlacedCell α :=
  { cell with index := 0 }

/-- Entries that are one and the same drawing, or even rows of any counts. -/
inductive Entry.SameDrawing : Entry → Entry → Prop where
  | drawing (text : String) : SameDrawing (.drawing text) (.drawing text)
  | distribute {count other : Nat} (hCount : 0 < count) (hOther : 0 < other) :
      SameDrawing (.distribute count) (.distribute other)

/-- Entries that are even rows of one and the same count, or any drawings. -/
inductive Entry.SameCount : Entry → Entry → Prop where
  | drawing (text other : String) : SameCount (.drawing text) (.drawing other)
  | distribute (count : Nat) : SameCount (.distribute count) (.distribute count)

namespace Entry

theorem eq_even_of_toRow {number count : Nat} {row : Row}
    (h : (Entry.distribute count).toRow number = .ok row) :
    ∃ positive, row = .even count positive := by
  simp only [toRow] at h
  split at h
  · exact ⟨_, (Except.ok.inj h).symm⟩
  · cases h

theorem SameDrawing.toRow_alike {entry other : Entry} (h : entry.SameDrawing other) (number : Nat) :
    EndAlike (fun row otherRow => row.columns = otherRow.columns) (entry.toRow number)
      (other.toRow number) := by
  cases h with
  | drawing text => exact .refl (fun row => Eq.refl row.columns) _
  | distribute hCount hOther =>
      rw [toRow_distribute hCount, toRow_distribute hOther]
      exact .ok rfl

end Entry

/-! Of the rows, only their columns decide whether they have a layout. -/

/-- How wide the widest row is depends on the widths of the rows alone. -/
theorem Row.widest_eq_of_columns {rows others : List Row}
    (h : rows.map Row.columns = others.map Row.columns) : widest rows = widest others := by
  have widest_eq_foldr (rows : List Row) : widest rows = (rows.map Row.columns).foldr max 0 :=
    List.foldr_map.symm
  rw [widest_eq_foldr, widest_eq_foldr, h]

namespace Plan

variable {α : Type} [Scalar α]

/-- Rows that have the same columns one by one are placed, or overflow in the same place. -/
theorem ofRows_alike {rows others : List Row} (h : rows.map Row.columns = others.map Row.columns)
    (columns : Nat) (gutters : Gutters α) :
    EndAlike (fun plan other => plan = placed rows columns gutters ∧
        other = placed others columns gutters)
      (ofRows rows columns gutters) (ofRows others columns gutters) := by
  have fits_of_map {above below : List Row}
      (hColumns : above.map Row.columns = below.map Row.columns)
      (hAbove : ∀ row ∈ above, row.columns ≤ columns) : ∀ row ∈ below, row.columns ≤ columns := by
    rw [← List.forall_mem_map (P := (· ≤ columns))] at hAbove ⊢
    rwa [← hColumns]
  cases hRows : ofRows rows columns gutters with
  | ok plan =>
      obtain ⟨hFits, rfl⟩ := ofRows_eq_ok_iff.mp hRows
      rw [ofRows_of_fits (fits_of_map h hFits)]
      exact .ok ⟨rfl, rfl⟩
  | error excess =>
      obtain ⟨above, row, below, rfl, hAbove, hRow, rfl⟩ := ofRows_eq_error_iff.mp hRows
      rw [List.map_append, List.map_cons] at h
      obtain ⟨otherAbove, otherRest, rfl, hOtherAbove, hOtherRest⟩ := List.map_eq_append_iff.mp h.symm
      obtain ⟨other, otherBelow, rfl, hOther, -⟩ := List.map_eq_cons_iff.mp hOtherRest
      have hLength : otherAbove.length = above.length := by
        simpa using congrArg List.length hOtherAbove
      rw [ofRows_of_overflow (fits_of_map hOtherAbove.symm hAbove) (hOther ▸ hRow), hOther, hLength]
      exact .error _

end Plan

namespace Canvas

variable {α : Type} [Scalar α]

/-- The cells above a row reach nothing of its cells but their index. -/
theorem unindexed_rowCells (canvas : Canvas α) (row : Row) (number placed otherPlaced : Nat) :
    (canvas.rowCells row number placed).map PlacedCell.unindexed =
      (canvas.rowCells row number otherPlaced).map PlacedCell.unindexed := by
  apply List.ext_getElem
  · simp
  · intro i _ _
    simp [rowCells, PlacedCell.unindexed]

/-- An even row has tracks of its own and no blanks, so the columns reach none of its cells. -/
theorem rowCells_even (columns others rows : Nat) (gutters : Gutters α) {count : Nat}
    (positive : 0 < count) (number placed : Nat) :
    (⟨columns, rows, gutters⟩ : Canvas α).rowCells (.even count positive) number placed =
      (⟨others, rows, gutters⟩ : Canvas α).rowCells (.even count positive) number placed := by
  rw [← evenCells_eq, ← evenCells_eq]
  rfl

end Canvas

namespace Spec

variable {α : Type} [Scalar α]

/-- A row of the same entry is placed alike in two grids of as many rows, columns and gutters. -/
theorem unindexed_rowCells_of_entry {s t : Spec} {rows others : List Row} (hRows : s.rows = .ok rows)
    (hOthers : t.rows = .ok others) (hLength : s.entries.length = t.entries.length) {r : Nat}
    {entry : Entry} (hEntry : s.entries[r]? = some entry) (hOther : t.entries[r]? = some entry)
    (columns otherColumns : Nat) (gutters : Gutters α)
    (hColumns : columns = otherColumns ∨ ∃ count, entry = .distribute count) :
    ((Plan.placed rows columns gutters).rowCells (r + 1)).map PlacedCell.unindexed =
      ((Plan.placed others otherColumns gutters).rowCells (r + 1)).map PlacedCell.unindexed := by
  obtain ⟨row, hRow, hToRow⟩ := Entry.getElem?_toRows hRows hEntry
  obtain ⟨other, hOtherRow, hOtherToRow⟩ := Entry.getElem?_toRows hOthers hOther
  obtain rfl : row = other := Except.ok.inj (hToRow.symm.trans hOtherToRow)
  have hSize : rows.length = others.length := by
    rw [Entry.length_toRows hRows, hLength, Entry.length_toRows hOthers]
  rw [Plan.rowCells_placed columns gutters hRow, Plan.rowCells_placed otherColumns gutters hOtherRow,
    hSize]
  rcases hColumns with rfl | ⟨count, rfl⟩
  · exact Canvas.unindexed_rowCells _ _ _ _ _
  · obtain ⟨positive, rfl⟩ := Entry.eq_even_of_toRow hToRow
    rw [Canvas.rowCells_even columns otherColumns]
    exact Canvas.unindexed_rowCells _ _ _ _ _

/-- Rows of one kind are placed whatever the rows of the other kind are. With the same drawings in the same
places, specs fail alike or have layouts of the same columns, in which each drawn row has the same cells but for
their index, however many cells the even rows have. With the same even rows in the same places and the same
gutters, each even row has the same cells but for their index in any two layouts, whatever is drawn and however
many columns there are. -/
theorem kinds_independent (s t : Spec) (options others : Options α) :
    (List.Forall₂ Entry.SameDrawing s.entries t.entries →
      EndAlike (fun p q => p.columns = q.columns ∧
          ∀ r text, s.entries[r]? = some (.drawing text) →
            (p.rowCells (r + 1)).map PlacedCell.unindexed =
              (q.rowCells (r + 1)).map PlacedCell.unindexed)
        (s.compile options) (t.compile options)) ∧
    (List.Forall₂ Entry.SameCount s.entries t.entries → options.gutters = others.gutters →
      ∀ p q, s.compile options = .ok p → t.compile others = .ok q →
        ∀ r count, s.entries[r]? = some (.distribute count) →
          (p.rowCells (r + 1)).map PlacedCell.unindexed =
            (q.rowCells (r + 1)).map PlacedCell.unindexed) := by
  constructor
  · intro hSame
    have hRows := Entry.toRows_alike (fun number _ _ h => Entry.SameDrawing.toRow_alike h number) hSame 0
    refine compile_alike hRows ?_
    intro rows otherRows hS hT hRelated
    have hColumns : rows.map Row.columns = otherRows.map Row.columns := by
      rwa [← List.forall₂_eq_eq_eq, List.forall₂_map_left_iff, List.forall₂_map_right_iff]
    -- Even rows take no columns, so both grids have as many, forced or not.
    rw [Row.widest_eq_of_columns hColumns]
    generalize options.columns.getD (Row.widest otherRows) = columns
    refine (Plan.ofRows_alike hColumns columns options.gutters).imp ?_
    rintro p q ⟨rfl, rfl⟩
    refine ⟨rfl, ?_⟩
    intro r text hEntry
    obtain ⟨other, hOther, hPair⟩ := exists_getElem?_of_forall₂ hSame hEntry
    cases hPair with
    | drawing => exact unindexed_rowCells_of_entry hS hT hSame.length_eq hEntry hOther _ _ _ (Or.inl rfl)
  · intro hSame hGutters p q hP hQ r count hEntry
    obtain ⟨rows, hS⟩ := exists_rows_of_compile hP
    obtain ⟨otherRows, hT⟩ := exists_rows_of_compile hQ
    obtain ⟨-, rfl⟩ := (compile_eq_ok_iff hS).mp hP
    obtain ⟨-, rfl⟩ := (compile_eq_ok_iff hT).mp hQ
    obtain ⟨other, hOther, hPair⟩ := exists_getElem?_of_forall₂ hSame hEntry
    cases hPair with
    | distribute =>
        rw [hGutters]
        exact unindexed_rowCells_of_entry hS hT hSame.length_eq hEntry hOther _ _ _
          (Or.inr ⟨count, rfl⟩)

/-- A drawn row of two cells below three even ones and below one, and the three even ones above another drawing
in a wider grid. -/
theorem kinds_independent_around_three :
    ∃ p q r : Plan Rat,
      Spec.compile ⟨[.distribute 3, .drawing "x  x"]⟩ .standard = .ok p ∧
      Spec.compile ⟨[.distribute 1, .drawing "x  x"]⟩ .standard = .ok q ∧
      Spec.compile ⟨[.distribute 3, .drawing " x"]⟩ { Options.standard with columns := some 9 } = .ok r ∧
      p.columns = q.columns ∧ (p.rowCells 2).length = 2 ∧
      (p.rowCells 2).map PlacedCell.unindexed = (q.rowCells 2).map PlacedCell.unindexed ∧
      (p.rowCells 1).length = 3 ∧
      (p.rowCells 1).map PlacedCell.unindexed = (r.rowCells 1).map PlacedCell.unindexed := by
  let s : Spec := ⟨[.distribute 3, .drawing "x  x"]⟩
  let t : Spec := ⟨[.distribute 1, .drawing "x  x"]⟩
  let u : Spec := ⟨[.distribute 3, .drawing " x"]⟩
  let wide : Options Rat := { Options.standard with columns := some 9 }
  have hS : s.rows = .ok [.even 3 (by decide), .drawn ⟨[⟨1, 0⟩, ⟨1, 2⟩]⟩] := by decide +kernel
  have hT : t.rows = .ok [.even 1 (by decide), .drawn ⟨[⟨1, 0⟩, ⟨1, 2⟩]⟩] := by decide +kernel
  have hU : u.rows = .ok [.even 3 (by decide), .drawn ⟨[⟨1, 1⟩]⟩] := by decide +kernel
  obtain ⟨p, hP⟩ : ∃ p : Plan Rat, s.compile .standard = .ok p :=
    (exists_compile_iff hS).mpr (Nat.le_refl 3)
  obtain ⟨q, hQ⟩ : ∃ q : Plan Rat, t.compile .standard = .ok q :=
    (exists_compile_iff hT).mpr (Nat.le_refl 3)
  obtain ⟨r, hR⟩ : ∃ r : Plan Rat, u.compile wide = .ok r :=
    (exists_compile_iff hU).mpr (by decide)
  have hDrawings := (kinds_independent (α := Rat) s t .standard .standard).1
    (.cons (.distribute (by decide) (by decide)) (.cons (.drawing _) .nil))
  have hCounts := (kinds_independent (α := Rat) s u .standard wide).2
    (.cons (.distribute 3) (.cons (.drawing _ _) .nil)) rfl p r hP hR 0 3 rfl
  rw [hP, hQ] at hDrawings
  obtain ⟨-, hPlan⟩ := (compile_eq_ok_iff hS).mp hP
  cases hDrawings with
  | ok hAlike =>
      exact ⟨p, q, r, hP, hQ, hR, hAlike.1, by rw [hPlan]; rfl, hAlike.2 1 "x  x" rfl,
        by rw [hPlan]; rfl, hCounts⟩

end Spec

end FlexGrid
