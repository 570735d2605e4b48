import FlexGrid.Row.Drawing
import FlexGrid.Proofs.Row.Slots

/-! What reading a drawing gives. Cells are read as they are drawn: the spaces in front of a cell are counted one by
one, and a cell goes on for as long as a `-` does. -/
namespace FlexGrid

namespace DrawnRow

/-- A cell that is read covers at least the `x` that completed it. -/
theorem span_pos_of_mem_scan {gap span : Nat} {text : List Char} {cell : Cell}
    (h : cell ∈ scan gap span text) : 0 < cell.span := by
  fun_induction scan gap span text with
  | case1 gap span rest ih => exact ih h
  | case2 gap span rest _ ih =>
      rcases List.mem_cons.mp h with rfl | h
      · exact Nat.succ_pos span
      · exact ih h
  | case3 gap span rest ih => exact ih h
  | case4 gap span rest ih => exact ih h
  | case5 => cases h

/-- The spans of slots are those of the cells they were made from. No slot of a row is without a unit-column if no
cell is. -/
theorem span_pos_of_mem_slotsFrom {index : Nat} {cells : List Cell} {slot : Slot}
    (hCells : ∀ cell ∈ cells, 0 < cell.span) (h : slot ∈ slotsFrom index cells) :
    0 < slot.span := by
  rw [slotsFrom_eq_mapIdx] at h
  obtain ⟨i, hi, rfl⟩ := List.mem_mapIdx.mp h
  exact hCells _ (List.getElem_mem hi)

theorem span_pos_of_mem_ofSlots {slots : List Slot} (hSlots : ∀ slot ∈ slots, 0 < slot.span) :
    ∀ cell ∈ (ofSlots slots).cells, 0 < cell.span := by
  intro cell hCell
  obtain ⟨i, hi, rfl⟩ := List.mem_mapIdx.mp hCell
  exact hSlots _ (List.getElem_mem hi)

theorem exists_drawSpan_succ (n : Nat) : ∃ rest, drawSpan (n + 1) = 'x' :: rest := by
  cases n with
  | zero => exact ⟨[], rfl⟩
  | succ n => exact ⟨_, rfl⟩

/-- Spaces that come before an `x` are added to those that were counted already. -/
theorem scan_spaces (gap spaces : Nat) (rest : List Char) :
    scan gap 0 (List.replicate spaces ' ' ++ rest) = scan (gap + spaces) 0 rest := by
  induction spaces generalizing gap with
  | zero => rfl
  | succ spaces ih =>
      rw [List.replicate_succ, List.cons_append, scan, ih]
      congr 1
      omega

/-- Nothing foreign is drawn: a cell is made of spaces, of `x` and of the `-` between them. -/
theorem isMark_of_mem_drawCell {cell : Cell} {c : Char} (h : c ∈ drawCell cell) :
    Cell.isMark c = true := by
  have isMark_of_mem_drawSpan (n : Nat) (h : c ∈ drawSpan n) : Cell.isMark c = true := by
    induction n using drawSpan.induct with
    | case1 => cases h
    | case2 =>
        rw [List.mem_singleton.mp h]
        rfl
    | case3 n ih =>
        rcases List.mem_cons.mp h with rfl | h
        · rfl
        · rcases List.mem_cons.mp h with rfl | h
          · rfl
          · exact ih h
  rcases List.mem_append.mp h with h | h
  · rw [List.eq_of_mem_replicate h]
    rfl
  · exact isMark_of_mem_drawSpan cell.span h

/-- A run of joined unit-columns is one cell, if no `-` goes on after it. -/
theorem scan_drawSpan (gap joined n : Nat) {rest : List Char} (hRest : rest.head? ≠ some '-') :
    scan gap joined (drawSpan (n + 1) ++ rest) = ⟨joined + (n + 1), gap⟩ :: scan 0 0 rest := by
  induction n generalizing joined with
  | zero =>
      -- The last `x` is joined to nothing, for the text does not go on with a `-`.
      change scan gap joined ('x' :: rest) = _
      rw [scan]
      rintro others rfl
      exact hRest rfl
  | succ n ih =>
      obtain ⟨others, hOthers⟩ := exists_drawSpan_succ n
      have hJoined := ih (joined + 1)
      rw [hOthers] at hJoined
      rw [drawSpan, hOthers, List.cons_append, List.cons_append, List.cons_append, scan,
        ← List.cons_append, hJoined]
      congr 2
      omega

/-- A cell is read from what is drawn for it, if what comes next does not go on with a `-`, which could join another
`x` to it. -/
theorem scan_drawCell {cell : Cell} (hSpan : 0 < cell.span) {rest : List Char}
    (hRest : rest.head? ≠ some '-') : scan 0 0 (drawCell cell ++ rest) = cell :: scan 0 0 rest := by
  obtain ⟨span, gap⟩ := cell
  obtain ⟨n, rfl⟩ := Nat.exists_eq_add_one.mpr hSpan
  rw [drawCell, List.append_assoc, scan_spaces, scan_drawSpan _ _ _ hRest, Nat.zero_add,
    Nat.zero_add]

/-- Drawn cells begin with a space or an `x`, even right after another cell. -/
theorem head?_flatMap_drawCell {cells : List Cell} (hSpans : ∀ cell ∈ cells, 0 < cell.span) :
    (cells.flatMap drawCell).head? ≠ some '-' := by
  cases cells with
  | nil => simp
  | cons cell rest =>
      obtain ⟨n, hn⟩ := Nat.exists_eq_add_one.mpr (hSpans cell List.mem_cons_self)
      obtain ⟨others, hOthers⟩ := exists_drawSpan_succ n
      cases hGap : cell.gap <;> simp [drawCell, hGap, hn, hOthers, List.replicate_succ]

/-- Cells side by side are read as the same cells. Each drawing begins with a space or an `x`, so none goes on into
the next one. -/
theorem scan_flatMap_drawCell {cells : List Cell} (hSpans : ∀ cell ∈ cells, 0 < cell.span) :
    scan 0 0 (cells.flatMap drawCell) = cells := by
  induction cells with
  | nil => rfl
  | cons cell rest ih =>
      obtain ⟨hSpan, hRest⟩ := List.forall_mem_cons.mp hSpans
      rw [List.flatMap_cons, scan_drawCell hSpan (head?_flatMap_drawCell hRest), ih hRest]

/-- A row reads back from its drawing exactly if no cell of it is empty. -/
theorem ofDrawing_drawing_iff {row : DrawnRow} :
    ofDrawing row.drawing = row ↔ ∀ cell ∈ row.cells, 0 < cell.span := by
  constructor
  · intro hRead cell hCell
    rw [← hRead] at hCell
    exact span_pos_of_mem_scan hCell
  · intro hSpans
    rw [ofDrawing, drawing, String.toList_ofList, scan_flatMap_drawCell hSpans]

end DrawnRow

end FlexGrid
