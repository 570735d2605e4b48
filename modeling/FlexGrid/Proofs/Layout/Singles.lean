import FlexGrid.Proofs.Layout.Comparison
import FlexGrid.Proofs.Spec.Rows

/-! Even rows as drawings. In a grid of as many columns as an even row has cells, a drawing of single cells comes to
the same: it has the slots of the even row, and the tracks of the grid are those of the row. -/
namespace FlexGrid

namespace Entry

/-- The drawing of some cells of one unit-column each, with one space between neighbours. -/
def singles (count : Nat) : Entry :=
  .drawing (String.ofList (List.intersperse ' ' (List.replicate count 'x')))

/-- Entries of which the second is the first, or draws the cells of an even row of a given count. -/
inductive Redrawn (count : Nat) : Entry → Entry → Prop where
  | same (entry : Entry) : Redrawn count entry entry
  | singles : Redrawn count (.distribute count) (.singles count)

/-- Without blanks, the spaces that are drawn between single cells only separate them. -/
theorem singles_eq (count : Nat) :
    singles count = .drawing (DrawnRow.ofSlots (List.replicate count ⟨0, 1⟩)).drawing := by
  have cells_succ (n : Nat) : (DrawnRow.ofSlots (List.replicate (n + 1) ⟨0, 1⟩)).cells =
      ⟨1, 0⟩ :: List.replicate n ⟨1, 1⟩ := by
    apply List.ext_getElem
    · simp [DrawnRow.ofSlots]
    · intro i _ _
      cases i <;> simp [DrawnRow.ofSlots]
  have intersperse_succ (n : Nat) : List.intersperse ' ' (List.replicate (n + 1) 'x') =
      (⟨1, 0⟩ :: List.replicate n ⟨1, 1⟩ : List Cell).flatMap DrawnRow.drawCell := by
    induction n with
    | zero => rfl
    | succ n ih =>
        rw [List.replicate_succ, List.replicate_succ, List.intersperse_cons_cons,
          ← List.replicate_succ, ih]
        rfl
  cases count with
  | zero => rfl
  | succ n => rw [singles, DrawnRow.drawing, cells_succ, intersperse_succ]

end Entry

/-- Rows of which the second is the first, or a drawn row with the slots of an even row of a given count. -/
inductive Row.Redrawn (count : Nat) : Row → Row → Prop where
  | same (row : Row) : Redrawn count row row
  | singles (positive : 0 < count) (drawn : DrawnRow)
      (hSlots : (Row.drawn drawn).slots = (Row.even count positive).slots) :
      Redrawn count (.even count positive) (.drawn drawn)

/-- An entry that is redrawn stands for a row that is redrawn, or has the same fault. -/
theorem Entry.Redrawn.toRow_alike {count : Nat} (positive : 0 < count) {entry other : Entry}
    (h : Entry.Redrawn count entry other) (number : Nat) :
    EndAlike (Row.Redrawn count) (entry.toRow number) (other.toRow number) := by
  cases h with
  | same => exact .refl .same _
  | singles =>
      have hSpans : ∀ slot ∈ List.replicate count (⟨0, 1⟩ : Slot), 0 < slot.span := by
        intro slot hSlot
        rw [List.eq_of_mem_replicate hSlot]
        exact Nat.one_pos
      rw [toRow_distribute positive, singles_eq,
        toRow_drawing (DrawnRow.span_pos_of_mem_ofSlots hSpans)]
      exact .ok (.singles positive _ (Row.slots_ofSlots _))

namespace Row

/-- A drawn row with the slots of an even row is as wide as that has cells. -/
theorem width_of_slots_even {count : Nat} {positive : 0 < count} {drawn : DrawnRow}
    (hSlots : (Row.drawn drawn).slots = (Row.even count positive).slots) : drawn.width = count := by
  rw [← filled_drawn, filled, hSlots]
  exact filled_even count positive

/-- A row that is redrawn may be wider, but not wider than the number of cells it is redrawn with. -/
theorem Redrawn.columns_le {count : Nat} {row other : Row} (h : Redrawn count row other) :
    row.columns ≤ other.columns ∧ other.columns ≤ max count row.columns := by
  cases h with
  | same => exact ⟨Nat.le_refl _, Nat.le_max_right _ _⟩
  | singles positive drawn hSlots =>
      exact ⟨Nat.zero_le _, Nat.le_trans (Nat.le_of_eq (width_of_slots_even hSlots))
        (Nat.le_max_left _ _)⟩

/-- A grid that is as wide as an even row needs no more columns once the row is drawn. -/
theorem widest_of_redrawn {count : Nat} {rows others : List Row}
    (h : List.Forall₂ (Redrawn count) rows others) :
    widest rows ≤ widest others ∧ widest others ≤ max count (widest rows) := by
  induction h with
  | nil => exact ⟨Nat.le_refl _, Nat.zero_le _⟩
  | @cons row other rest otherRest hRow _ ih =>
      obtain ⟨hLe, hMax⟩ := hRow.columns_le
      change max row.columns (widest rest) ≤ max other.columns (widest otherRest) ∧
        max other.columns (widest otherRest) ≤ max count (max row.columns (widest rest))
      omega

end Row

namespace Canvas

variable {α : Type} [Scalar α]

/-- Of a row that fits, the placement sees only slots and tracks. -/
theorem place_eq_of_slots {canvas : Canvas α} {row other : Row} (hSlots : row.slots = other.slots)
    (hTracks : row.tracks canvas.columns = other.tracks canvas.columns)
    (hRow : row.columns ≤ canvas.columns) (hOther : other.columns ≤ canvas.columns)
    (progress : Progress) : canvas.place progress row = canvas.place progress other := by
  have hCount : row.cellCount = other.cellCount := by
    rw [← Row.length_slots, hSlots, Row.length_slots]
  have hCells (number placed : Nat) :
      canvas.rowCells row number placed = canvas.rowCells other number placed := by
    rw [rowCells, rowCells, hSlots, hTracks, hCount]
  obtain ⟨number, placed⟩ := progress
  rw [place_eq, place_eq, if_neg (Nat.not_lt.mpr hRow), if_neg (Nat.not_lt.mpr hOther), hCells,
    hCount]

/-- Rows that are placed alike one by one are placed alike together, for each is placed knowing only how much is above
it. -/
theorem placeAll_congr {canvas : Canvas α} {rows others : List Row}
    (h : List.Forall₂ (fun row other =>
      ∀ progress, canvas.place progress row = canvas.place progress other) rows others)
    (progress : Progress) : canvas.placeAll progress rows = canvas.placeAll progress others := by
  induction h generalizing progress with
  | nil => rfl
  | cons hRow _ ih =>
      rw [placeAll, placeAll, hRow]
      simp only [ih]

/-- A row that is redrawn is placed as before: in a grid of as many columns as it has cells, both ways of writing it
have the same slots and the same tracks. -/
theorem place_redrawn {canvas : Canvas α} {row other : Row}
    (h : Row.Redrawn canvas.columns row other) (progress : Progress) :
    canvas.place progress row = canvas.place progress other := by
  generalize hColumns : canvas.columns = columns at h
  cases h with
  | same => rfl
  | singles positive drawn hSlots =>
      have hWidth : drawn.width ≤ canvas.columns := by
        rw [Row.width_of_slots_even hSlots, hColumns]
      exact place_eq_of_slots hSlots.symm hColumns.symm (Nat.zero_le _) hWidth progress

end Canvas

theorem Plan.ofRows_redrawn {α : Type} [Scalar α] {columns : Nat} {rows others : List Row}
    (h : List.Forall₂ (Row.Redrawn columns) rows others) (gutters : Gutters α) :
    ofRows rows columns gutters = ofRows others columns gutters := by
  rw [ofRows, ofRows, h.length_eq]
  congr 1
  exact Canvas.placeAll_congr (h.imp fun _ _ hRow => Canvas.place_redrawn hRow) _

/-- An even row is a drawn row of single cells. Where the grid has as many columns as an even row has cells, be it
that they are forced or that the widest drawn row needs them, drawing the cells of any such even rows one by one
changes nothing of the outcome, neither of a layout nor of a fault. -/
theorem Spec.compile_singles {α : Type} [Scalar α] (count : Nat) (hCount : 1 ≤ count) (s t : Spec)
    (options : Options α)
    (hEntries : List.Forall₂ (Entry.Redrawn count) s.entries t.entries)
    (hColumns : options.columns = some count ∨
      options.columns = none ∧ ∀ rows, s.rows = .ok rows → Row.widest rows = count) :
    s.compile options = t.compile options := by
  have hRows := Entry.toRows_alike (fun number _ _ h => h.toRow_alike hCount number) hEntries 0
  refine (compile_alike hRows ?_).eq
  intro rows others hS _ hRedrawn
  obtain ⟨hLe, hMax⟩ := Row.widest_of_redrawn hRedrawn
  -- The new drawings are as wide as the grid was without them, so it does not grow.
  have hBoth : options.columns.getD (Row.widest rows) = count ∧
      options.columns.getD (Row.widest others) = count := by
    rcases hColumns with hForced | ⟨hNone, hWidest⟩
    · rw [hForced]
      exact ⟨rfl, rfl⟩
    · have hRows := hWidest rows hS
      rw [hNone, Option.getD_none, Option.getD_none]
      omega
  rw [hBoth.1, hBoth.2, Plan.ofRows_redrawn hRedrawn]
  exact .refl (fun _ => rfl) _

/-- An even row of two cells between a drawn row of two columns and another even row of two cells, in a grid that
gets its columns from the drawn row. -/
theorem Spec.compile_singles_of_two :
    Entry.singles 2 = .drawing "x x" ∧
      ∃ plan : Plan Rat,
        Spec.compile ⟨[.drawing "x-x", .distribute 2, .distribute 2]⟩ .standard = .ok plan ∧
        Spec.compile ⟨[.drawing "x-x", .drawing "x x", .distribute 2]⟩ .standard = .ok plan := by
  let s : Spec := ⟨[.drawing "x-x", .distribute 2, .distribute 2]⟩
  have hText : Entry.singles 2 = .drawing "x x" := by decide +kernel
  have hRows : s.rows = .ok [.drawn ⟨[⟨2, 0⟩]⟩, .even 2 (by decide), .even 2 (by decide)] := by
    decide +kernel
  obtain ⟨plan, hPlan⟩ : ∃ plan : Plan Rat, s.compile .standard = .ok plan :=
    (exists_compile_iff hRows).mpr (Nat.le_refl 2)
  have hSame := compile_singles (α := Rat) 2 (by decide) s
    ⟨[.drawing "x-x", .singles 2, .distribute 2]⟩ .standard
    (.cons (.same _) (.cons .singles (.cons (.same _) .nil)))
    (Or.inr ⟨rfl, fun rows h => Except.ok.inj (hRows.symm.trans h) ▸ rfl⟩)
  rw [hText] at hSame
  exact ⟨hText, plan, hPlan, hSame ▸ hPlan⟩

end FlexGrid
