import FlexGrid.Proofs.Layout.Positions

/-! The margins of a whole layout. Each is decided row by row, and comes to a rule on the list of all cells: a
cell has a margin after it if the next cell stands in its row, one under it if its row is not the last, and one
before it if a drawing leaves unit-columns blank there. -/
namespace FlexGrid

namespace Length

variable {α : Type} [Scalar α]

theorem nonzero?_eq_some_iff {l m : Length α} : l.nonzero? = some m ↔ m = l ∧ l.isZero = false := by
  cases h : l.isZero <;> simp [nonzero?, h, eq_comm]

end Length

namespace Canvas

variable {α : Type} [Scalar α] {canvas : Canvas α}

/-- There is a margin after a cell just if the gutter is not zero and the cell is not the last of its row. -/
theorem marginRight_eq_some_iff {isLast : Bool} {l : Length α} :
    canvas.marginRight isLast = some l ↔
      l = canvas.gutters.across ∧ canvas.gutters.across.isZero = false ∧ isLast = false := by
  cases isLast with
  | true => simp [marginRight]
  | false => simp [marginRight, Length.nonzero?_eq_some_iff]

/-- There is a margin under a cell just if the gutter between rows is not zero and its row is not the last. -/
theorem marginBottom_eq_some_iff {number : Nat} {l : Length α} :
    canvas.marginBottom number = some l ↔
      l = canvas.gutters.down ∧ canvas.gutters.down.isZero = false ∧ number ≠ canvas.rows := by
  by_cases hLast : number = canvas.rows
  · simp [marginBottom, hLast]
  · simp [marginBottom, hLast, Length.nonzero?_eq_some_iff]

omit [Scalar α] in
/-- There is a margin before a cell just if there are blanks before it. A gutter of zero does not take it away. -/
theorem marginLeft_eq_some_iff {blank : Nat} {m : Extent α} :
    canvas.marginLeft blank = some m ↔
      0 < blank ∧ m = .offset blank canvas.columns canvas.gutters.across := by
  by_cases hBlank : blank = 0
  · simp [marginLeft, hBlank]
  · simp [marginLeft, hBlank, Nat.pos_of_ne_zero hBlank, eq_comm]

end Canvas

namespace Row

/-- The slots of a drawn row are its cells with the blanks in front of them. -/
theorem getElem?_slots_drawn (drawn : DrawnRow) (i : Nat) :
    (Row.drawn drawn).slots[i]? =
      drawn.cells[i]?.map fun cell => ⟨if i = 0 then cell.gap else cell.gap - 1, cell.span⟩ := by
  rw [slots, DrawnRow.slotsFrom_eq_mapIdx, List.getElem?_mapIdx]
  simp only [Nat.zero_add, Cell.blanks]

end Row

/-- Only a cell of a drawing can have a margin before it, and has one if blanks are drawn there. -/
theorem Canvas.marginLeft_slot_iff {α : Type} {canvas : Canvas α} {row : Row} {i : Nat} {slot : Slot}
    (h : row.slots[i]? = some slot) (m : Extent α) :
    canvas.marginLeft slot.blanks = some m ↔
      ∃ drawn own b, row = .drawn drawn ∧ drawn.cells[i]? = some own ∧
        b = (if i = 0 then own.gap else own.gap - 1) ∧ 0 < b ∧
        m = .offset b canvas.columns canvas.gutters.across := by
  rw [marginLeft_eq_some_iff]
  cases row with
  | drawn drawn =>
      rw [Row.getElem?_slots_drawn] at h
      obtain ⟨own, hOwn, rfl⟩ := Option.map_eq_some_iff.mp h
      constructor
      · rintro ⟨hBlanks, rfl⟩
        exact ⟨drawn, own, _, rfl, hOwn, rfl, hBlanks, rfl⟩
      · rintro ⟨drawn', own', b, hDrawn, hOwn', rfl, hBlanks, rfl⟩
        obtain rfl := Row.drawn.inj hDrawn
        obtain rfl := Option.some.inj (hOwn.symm.trans hOwn')
        exact ⟨hBlanks, rfl⟩
  | even count positive =>
      rw [Row.blanks_even (List.mem_of_getElem? h)]
      constructor
      · rintro ⟨hBlanks, -⟩
        exact absurd hBlanks (Nat.lt_irrefl 0)
      · rintro ⟨drawn, _, _, hDrawn, _⟩
        cases hDrawn

/-- The margins of a layout, for rows of every kind and number and for every position. -/
theorem Plan.margins {α : Type} [Scalar α] (rows : List Row) (columns : Nat) (gutters : Gutters α)
    (plan : Plan α) (h : Plan.ofRows rows columns gutters = .ok plan) (p : Nat) (cell : PlacedCell α)
    (hCell : plan.cells[p]? = some cell) :
    (∀ l, cell.marginRight = some l ↔
      l = gutters.across ∧ gutters.across.isZero = false ∧
        ∃ next, plan.cells[p + 1]? = some next ∧ next.row = cell.row) ∧
    (∀ l, cell.marginBottom = some l ↔
      l = gutters.down ∧ gutters.down.isZero = false ∧ cell.row ≠ plan.rows) ∧
    ((∃ last, rows.getLast? = some last ∧ last.cellCount = 0) → cell.row ≠ plan.rows) ∧
    ∃ r row i, rows[r]? = some row ∧ i < row.cellCount ∧
      p = ((rows.take r).map Row.cellCount).sum + i ∧ cell.row = r + 1 ∧
      ∀ m, cell.marginLeft = some m ↔
        ∃ drawn own b, row = .drawn drawn ∧ drawn.cells[i]? = some own ∧
          b = (if i = 0 then own.gap else own.gap - 1) ∧ 0 < b ∧
          m = .offset b plan.columns gutters.across := by
  obtain ⟨-, rfl⟩ := Plan.ofRows_eq_ok_iff.mp h
  obtain ⟨r, row, i, slot, hRow, hSlot, rfl, rfl⟩ := Plan.exists_slot_of_getElem?_placed hCell
  obtain ⟨hi, -⟩ := List.getElem?_eq_some_iff.mp hSlot
  rw [Row.length_slots] at hi
  refine ⟨?_, ?_, ?_, r, row, i, hRow, hi, rfl, rfl, ?_⟩
  · intro l
    refine Canvas.marginRight_eq_some_iff.trans ?_
    have hNext := Plan.exists_next_iff columns gutters hRow hi
    change _ ↔ _ ∧ _ ∧ ∃ next : PlacedCell α, _ ∧ next.row = r + 1
    rw [hNext, beq_eq_false_iff_ne]
  · intro l
    exact Canvas.marginBottom_eq_some_iff
  · rintro ⟨last, hLast, hBlank⟩ (hNumber : r + 1 = rows.length)
    rw [List.getLast?_eq_getElem?, ← hNumber, Nat.add_sub_cancel, hRow] at hLast
    obtain rfl := Option.some.inj hLast
    omega
  · intro m
    exact Canvas.marginLeft_slot_iff hSlot m

/-- The last cell of a row above a blank one: no margin after it, one under it, and one of the two spaces
before it left as a blank. -/
theorem Plan.margins_above_blank_row :
    ∃ (plan : Plan Rat) (cell : PlacedCell Rat),
      Plan.ofRows [.drawn ⟨[⟨1, 1⟩, ⟨1, 2⟩]⟩, .drawn ⟨[]⟩] 4 ⟨⟨30, .px⟩, ⟨10, .px⟩⟩ = .ok plan ∧
      plan.cells[1]? = some cell ∧ cell.marginRight = none ∧ cell.marginBottom = some ⟨10, .px⟩ ∧
      cell.marginLeft = some (.offset 1 4 ⟨30, .px⟩) := by
  let rows : List Row := [.drawn ⟨[⟨1, 1⟩, ⟨1, 2⟩]⟩, .drawn ⟨[]⟩]
  let gutters : Gutters Rat := ⟨⟨30, .px⟩, ⟨10, .px⟩⟩
  obtain ⟨plan, hPlaced⟩ : ∃ plan, Plan.ofRows rows 4 gutters = .ok plan :=
    ⟨_, Plan.ofRows_of_fits (by decide)⟩
  obtain ⟨-, rfl⟩ := Plan.ofRows_eq_ok_iff.mp hPlaced
  obtain ⟨cell, hCell⟩ : ∃ cell, (Plan.placed rows 4 gutters).cells[1]? = some cell := ⟨_, rfl⟩
  obtain ⟨hRight, hBottom, hAbove, r, row, i, hRow, hi, hPosition, -, hLeft⟩ :=
    Plan.margins rows 4 gutters _ hPlaced 1 cell hCell
  refine ⟨_, cell, hPlaced, hCell, ?_, ?_, ?_⟩
  · rw [Option.eq_none_iff_forall_ne_some]
    intro l hSome
    obtain ⟨-, -, next, hNext, -⟩ := (hRight l).mp hSome
    cases hNext
  · exact (hBottom _).mpr ⟨rfl, rfl, hAbove ⟨_, rfl, rfl⟩⟩
  · match r with
    | 0 =>
        obtain rfl := Option.some.inj hRow
        obtain rfl : i = 1 := by simpa using hPosition.symm
        exact (hLeft _).mpr ⟨_, ⟨1, 2⟩, 1, rfl, rfl, rfl, Nat.one_pos, rfl⟩
    | 1 =>
        obtain rfl := Option.some.inj hRow
        exact absurd hi (Nat.not_lt_zero i)
    | r + 2 => cases hRow

end FlexGrid
