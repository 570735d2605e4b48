import FlexGrid.Spec
import FlexGrid.Proofs.Row.Words
import Mathlib.Data.List.TakeWhile

/-! What is known of the rows that a spec stands for. -/
namespace FlexGrid

namespace Entry

/-- A row of an entry has no cell without a unit-column: a drawn cell is completed by an `x`, and the cells of an even
row have one track each. -/
theorem span_pos_of_toRow {number : Nat} {entry : Entry} {row : Row}
    (h : entry.toRow number = .ok row) : ∀ slot ∈ row.slots, 0 < slot.span := by
  intro slot hSlot
  cases entry with
  | drawing text =>
      simp only [toRow] at h
      split at h
      · cases h
        exact DrawnRow.span_pos_of_mem_slotsFrom
          (fun cell hCell => DrawnRow.span_pos_of_mem_scan hCell) hSlot
      · cases h
  | distribute count =>
      simp only [toRow] at h
      split at h
      · cases h
        rw [List.eq_of_mem_replicate hSlot]
        exact Nat.one_pos
      · cases h

/-- The drawing of a row without empty cells stands for that row. -/
theorem toRow_drawing {row : DrawnRow} (hSpans : ∀ cell ∈ row.cells, 0 < cell.span) (number : Nat) :
    (Entry.drawing row.drawing).toRow number = .ok (.drawn row) := by
  have hMarks : row.drawing.toList.dropWhile Cell.isMark = [] := by
    rw [DrawnRow.drawing, String.toList_ofList, List.dropWhile_eq_nil_iff]
    intro c hc
    obtain ⟨cell, -, hCell⟩ := List.mem_flatMap.mp hc
    exact DrawnRow.isMark_of_mem_drawCell hCell
  simp only [toRow, hMarks, DrawnRow.ofDrawing_drawing_iff.mpr hSpans]

theorem toRow_distribute {number count : Nat} (positive : 0 < count) :
    (Entry.distribute count).toRow number = .ok (.even count positive) :=
  dif_pos positive

/-- Rows are found one by one: the first is that of the first entry, and the others are those of the rest. -/
theorem toRows_cons_eq_ok {passed : Nat} {entry : Entry} {rest : List Entry} {rows : List Row}
    (h : toRows passed (entry :: rest) = .ok rows) :
    ∃ row others, entry.toRow (passed + 1) = .ok row ∧ toRows (passed + 1) rest = .ok others ∧
      rows = row :: others := by
  rw [toRows] at h
  cases hRow : entry.toRow (passed + 1) with
  | error fault =>
      rw [hRow] at h
      cases h
  | ok row =>
      cases hRest : toRows (passed + 1) rest with
      | error fault =>
          rw [hRow, hRest] at h
          cases h
      | ok others =>
          rw [hRow, hRest] at h
          exact ⟨row, others, rfl, rfl, (Except.ok.inj h).symm⟩

theorem length_toRows {passed : Nat} {entries : List Entry} {rows : List Row}
    (h : toRows passed entries = .ok rows) : rows.length = entries.length := by
  induction entries generalizing passed rows with
  | nil =>
      cases h
      rfl
  | cons entry rest ih =>
      obtain ⟨row, others, -, hRest, rfl⟩ := toRows_cons_eq_ok h
      rw [List.length_cons, List.length_cons, ih hRest]

/-- The row at a position is the one that the entry there stands for. -/
theorem getElem?_toRows {passed : Nat} {entries : List Entry} {rows : List Row}
    (h : toRows passed entries = .ok rows) {r : Nat} {entry : Entry}
    (hEntry : entries[r]? = some entry) :
    ∃ row, rows[r]? = some row ∧ entry.toRow (passed + r + 1) = .ok row := by
  induction entries generalizing passed rows r with
  | nil => cases hEntry
  | cons first rest ih =>
      obtain ⟨row, others, hFirst, hRest, rfl⟩ := toRows_cons_eq_ok h
      cases r with
      | zero =>
          obtain rfl : first = entry := by simpa using hEntry
          exact ⟨row, rfl, hFirst⟩
      | succ r =>
          have hNumber : passed + (r + 1) + 1 = passed + 1 + r + 1 := by omega
          rw [hNumber]
          exact ih hRest hEntry

theorem exists_entry_of_toRows {passed : Nat} {entries : List Entry} {rows : List Row}
    (h : toRows passed entries = .ok rows) {row : Row} (hRow : row ∈ rows) :
    ∃ entry ∈ entries, ∃ number, entry.toRow number = .ok row := by
  obtain ⟨r, hAt⟩ := List.mem_iff_getElem?.mp hRow
  obtain ⟨hr, -⟩ := List.getElem?_eq_some_iff.mp hAt
  rw [length_toRows h] at hr
  obtain ⟨found, hFound, hToRow⟩ := getElem?_toRows h (List.getElem?_eq_getElem hr)
  rw [hAt] at hFound
  obtain rfl := Option.some.inj hFound
  exact ⟨entries[r], List.getElem_mem hr, _, hToRow⟩

/-- What is wrong with entries is wrong with one of them, by its number. -/
theorem exists_fault_of_toRows {passed : Nat} {entries : List Entry} {fault : Fault}
    (h : toRows passed entries = .error fault) :
    ∃ (i : Nat) (entry : Entry), entries[i]? = some entry ∧
      entry.toRow (passed + i + 1) = .error fault := by
  induction entries generalizing passed with
  | nil => cases h
  | cons entry rest ih =>
      rw [toRows] at h
      cases hRow : entry.toRow (passed + 1) with
      | error found =>
          rw [hRow] at h
          cases h
          exact ⟨0, entry, rfl, hRow⟩
      | ok row =>
          rw [hRow] at h
          cases hRest : toRows (passed + 1) rest with
          | ok rows =>
              rw [hRest] at h
              cases h
          | error found =>
              rw [hRest] at h
              cases h
              obtain ⟨i, other, hAt, hFault⟩ := ih hRest
              refine ⟨i + 1, other, hAt, ?_⟩
              rw [← hFault]
              congr 1
              omega

theorem span_pos_of_toRows {passed : Nat} {entries : List Entry} {rows : List Row}
    (h : toRows passed entries = .ok rows) :
    ∀ row ∈ rows, ∀ slot ∈ row.slots, 0 < slot.span := by
  induction entries generalizing passed rows with
  | nil =>
      cases h
      simp
  | cons entry rest ih =>
      obtain ⟨row, others, hRow, hRest, rfl⟩ := toRows_cons_eq_ok h
      exact List.forall_mem_cons.mpr ⟨span_pos_of_toRow hRow, ih hRest⟩

end Entry

namespace Spec

theorem span_pos {spec : Spec} {rows : List Row} (h : spec.rows = .ok rows) :
    ∀ row ∈ rows, ∀ slot ∈ row.slots, 0 < slot.span :=
  Entry.span_pos_of_toRows h

/-- What a single drawing is held as, if it is that of a row without empty cells. -/
theorem heldRows_drawing {row : DrawnRow} (hSpans : ∀ cell ∈ row.cells, 0 < cell.span) :
    heldRows ⟨[.drawing row.drawing]⟩ = .ok [.drawn row.inWords.counts] := by
  rw [heldRows, rows, Entry.toRows, Entry.toRow_drawing hSpans]
  rfl

/-- Whether the characters of each drawing of a spec can be counted in a word. -/
def IsShort (spec : Spec) : Prop :=
  ∀ text, Entry.drawing text ∈ spec.entries → text.length < UInt32.size

/-- Every drawn row is read from a drawing of the spec, so a bound on the drawings is a bound on all such rows. -/
theorem exists_drawing_of_rows {spec : Spec} {rows : List Row} (h : spec.rows = .ok rows) {row : DrawnRow}
    (hRow : .drawn row ∈ rows) : ∃ text, Entry.drawing text ∈ spec.entries ∧ row = .ofDrawing text := by
  obtain ⟨entry, hEntry, number, hToRow⟩ := Entry.exists_entry_of_toRows h hRow
  cases entry with
  | drawing text =>
      simp only [Entry.toRow] at hToRow
      split at hToRow
      · cases hToRow
        exact ⟨text, hEntry, rfl⟩
      · cases hToRow
  | distribute count =>
      simp only [Entry.toRow] at hToRow
      split at hToRow <;> cases hToRow

/-- The rows of a short spec are held as they are. What is shown of rows in numbers is true of what is held of
them. -/
theorem heldRows_of_isShort {spec : Spec} (hShort : spec.IsShort) : spec.heldRows = spec.rows := by
  rw [heldRows]
  cases hRows : spec.rows with
  | error fault => rfl
  | ok rows =>
      have hHeld : rows.map Row.held = rows.map id := by
        apply List.map_congr_left
        intro row hRow
        cases row with
        | drawn row =>
            obtain ⟨text, hEntry, rfl⟩ := exists_drawing_of_rows hRows hRow
            exact congrArg Row.drawn (WordRow.counts_ofDrawing (hShort text hEntry))
        | even count positive => rfl
      rw [List.map_id] at hHeld
      exact congrArg Except.ok hHeld

/-- No width of a short spec is refused, so a layout is made from its rows whether sums are checked or not. -/
theorem isSome_wordColumns? {spec : Spec} {rows : List Row} (hShort : spec.IsShort) (h : spec.rows = .ok rows)
    {row : Row} (hRow : row ∈ rows) : row.wordColumns?.isSome = true := by
  cases row with
  | drawn row =>
      obtain ⟨text, hEntry, rfl⟩ := exists_drawing_of_rows h hRow
      obtain ⟨width, hWidth, -⟩ := WordRow.exists_width?_ofDrawing (hShort text hEntry)
      exact Option.isSome_of_eq_some hWidth
  | even count positive => rfl

end Spec

end FlexGrid
