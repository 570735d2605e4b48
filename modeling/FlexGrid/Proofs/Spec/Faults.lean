import FlexGrid.Proofs.Spec.Rows
import Mathlib.Data.List.Forall2

/-! Which specs stand for rows, and what is said of the others. A spec stands for one row for each of its entries, and
if some entry stands for none, the first of these is named together with what is wrong with it. -/
namespace FlexGrid

theorem Cell.isMark_iff {c : Char} : isMark c = true ↔ c ∈ ['x', '-', ' '] := by
  simp [isMark, or_assoc]

namespace Entry

/-- Whether there is nothing wrong with an entry: all characters of a drawing are marks, or a count is at least
one. -/
def IsSound : Entry → Prop
  | .drawing text => ∀ c ∈ text.toList, c ∈ ['x', '-', ' ']
  | .distribute count => 1 ≤ count

/-- The row that a sound entry stands for, with its counts as numbers. It is given by itself and not through the
reader, which stops at the first fault. -/
inductive StandsFor : Entry → Row → Prop where
  | drawing {text : String} (marks : ∀ c ∈ text.toList, c ∈ ['x', '-', ' ']) :
      StandsFor (.drawing text) (.drawn (.ofDrawing text))
  | distribute {count : Nat} (positive : 0 < count) : StandsFor (.distribute count) (.even count positive)

/-- The row that a sound entry is held as, with its counts cut off to words. The count of an even row is a word as it
stands. -/
inductive IsHeldAs : Entry → Row → Prop where
  | drawing {text : String} (marks : ∀ c ∈ text.toList, c ∈ ['x', '-', ' ']) :
      IsHeldAs (.drawing text) (.drawn (WordRow.ofDrawing text).counts)
  | distribute {count : Nat} (positive : 0 < count) : IsHeldAs (.distribute count) (.even count positive)

/-- What is wrong with the `row`-th entry of a spec. A column is one more than the characters before it. -/
inductive HasFault (row : Nat) : Entry → Fault → Prop where
  | foreignCharacter {text : String} {before after : List Char} {found : Char}
      (split : text.toList = before ++ found :: after) (marks : ∀ c ∈ before, c ∈ ['x', '-', ' '])
      (foreign : found ∉ ['x', '-', ' ']) :
      HasFault row (.drawing text) (.foreignCharacter row (before.length + 1) found)
  | noCells : HasFault row (.distribute 0) (.noCells row)

/-- A sound entry is turned into the row that it stands for, whatever its number is. -/
theorem toRow_of_standsFor {entry : Entry} {row : Row} (h : entry.StandsFor row) (number : Nat) :
    entry.toRow number = .ok row := by
  cases h with
  | @drawing text marks =>
      have hNone : text.toList.dropWhile Cell.isMark = [] :=
        List.dropWhile_eq_nil_iff.mpr fun c hc => Cell.isMark_iff.mpr (marks c hc)
      simp only [toRow, hNone]
  | distribute positive => exact toRow_distribute positive

/-- A faulty entry is refused for the fault it has. In a drawing that is its first foreign character, which the scan
for marks stops at. -/
theorem toRow_of_hasFault {number : Nat} {entry : Entry} {fault : Fault} (h : entry.HasFault number fault) :
    entry.toRow number = .error fault := by
  cases h with
  | @foreignCharacter text before after found split marks foreign =>
      have hMarks : ∀ c ∈ before, Cell.isMark c = true := fun c hc => Cell.isMark_iff.mpr (marks c hc)
      have hForeign : ¬Cell.isMark found = true := mt Cell.isMark_iff.mp foreign
      simp only [toRow, split, List.dropWhile_append_of_pos hMarks, List.takeWhile_append_of_pos hMarks,
        List.dropWhile_cons_of_neg hForeign, List.takeWhile_cons_of_neg hForeign, List.append_nil]
  | noCells => rfl

/-- There is no third outcome: an entry stands for a row, or there is something wrong with it that can be named. -/
theorem standsFor_or_hasFault (entry : Entry) (number : Nat) :
    (∃ row, entry.StandsFor row) ∨ ∃ fault, entry.HasFault number fault := by
  cases entry with
  | drawing text =>
      cases hRest : text.toList.dropWhile Cell.isMark with
      | nil =>
          rw [List.dropWhile_eq_nil_iff] at hRest
          exact .inl ⟨_, .drawing fun c hc => Cell.isMark_iff.mp (hRest c hc)⟩
      | cons found after =>
          have hSplit := List.takeWhile_append_dropWhile (p := Cell.isMark) (l := text.toList)
          rw [hRest] at hSplit
          have hFound := List.head_dropWhile_not Cell.isMark (l := text.toList) (by simp [hRest])
          refine .inr ⟨_, .foreignCharacter hSplit.symm ?_ ?_⟩
          · intro c hc
            exact Cell.isMark_iff.mp (List.mem_takeWhile_imp hc)
          · rw [← Cell.isMark_iff]
            simpa [hRest] using hFound
  | distribute count =>
      cases count with
      | zero => exact .inr ⟨_, .noCells⟩
      | succ count => exact .inl ⟨_, .distribute (Nat.succ_pos count)⟩

/-- The rows of entries are those they stand for. Nothing else is ever made of an entry. -/
theorem toRow_eq_ok_iff {number : Nat} {entry : Entry} {row : Row} :
    entry.toRow number = .ok row ↔ entry.StandsFor row := by
  constructor
  · intro h
    rcases entry.standsFor_or_hasFault number with ⟨other, hRow⟩ | ⟨fault, hFault⟩
    · rw [toRow_of_standsFor hRow] at h
      cases h
      exact hRow
    · rw [toRow_of_hasFault hFault] at h
      cases h
  · intro h
    exact toRow_of_standsFor h number

/-- An entry is refused just if there is something wrong with it, and for that alone. -/
theorem toRow_eq_error_iff {number : Nat} {entry : Entry} {fault : Fault} :
    entry.toRow number = .error fault ↔ entry.HasFault number fault := by
  constructor
  · intro h
    rcases entry.standsFor_or_hasFault number with ⟨row, hRow⟩ | ⟨other, hFault⟩
    · rw [toRow_of_standsFor hRow] at h
      cases h
    · rw [toRow_of_hasFault hFault] at h
      cases h
      exact hFault
  · exact toRow_of_hasFault

theorem isSound_iff {entry : Entry} : entry.IsSound ↔ ∃ row, entry.StandsFor row := by
  constructor
  · intro h
    cases entry with
    | drawing text => exact ⟨_, .drawing h⟩
    | distribute count => exact ⟨_, .distribute h⟩
  · rintro ⟨row, marks | positive⟩
    · exact marks
    · exact positive

theorem HasFault.not_isSound {number : Nat} {entry : Entry} {fault : Fault} (h : entry.HasFault number fault) :
    ¬entry.IsSound := by
  intro hSound
  obtain ⟨row, hRow⟩ := isSound_iff.mp hSound
  have hOutcome := toRow_of_standsFor hRow number
  rw [toRow_of_hasFault h] at hOutcome
  cases hOutcome

/-- Sound entries stand for rows, one by one and in their order. The count of rows passed plays no part in what they
are. -/
theorem toRows_eq_ok_iff {passed : Nat} {entries : List Entry} {rows : List Row} :
    toRows passed entries = .ok rows ↔ List.Forall₂ StandsFor entries rows := by
  constructor
  · intro h
    induction entries generalizing passed rows with
    | nil =>
        cases h
        exact .nil
    | cons entry rest ih =>
        obtain ⟨row, others, hRow, hRest, rfl⟩ := toRows_cons_eq_ok h
        exact .cons (toRow_eq_ok_iff.mp hRow) (ih hRest)
  · intro h
    induction h generalizing passed with
    | nil => rfl
    | cons hRow _ ih =>
        rw [toRows, toRow_of_standsFor hRow, ih]
        rfl

/-- The fault of a spec is that of the first entry that is not sound, whatever follows it. -/
theorem toRows_eq_error_iff {passed : Nat} {entries : List Entry} {fault : Fault} :
    toRows passed entries = .error fault ↔
      ∃ before entry after, entries = before ++ entry :: after ∧ (∀ e ∈ before, e.IsSound) ∧
        entry.HasFault (passed + before.length + 1) fault := by
  constructor
  · intro h
    induction entries generalizing passed with
    | nil => cases h
    | cons first rest ih =>
        cases hFirst : first.toRow (passed + 1) with
        | ok row =>
            have hRest : toRows (passed + 1) rest = .error fault := by
              rw [toRows, hFirst] at h
              cases hRest : toRows (passed + 1) rest with
              | ok rows => rw [hRest] at h; cases h
              | error found => rw [hRest] at h; cases h; rfl
            obtain ⟨before, entry, after, rfl, hSound, hFault⟩ := ih hRest
            have hStands := toRow_eq_ok_iff.mp hFirst
            refine ⟨first :: before, entry, after, rfl, ?_, ?_⟩
            · exact List.forall_mem_cons.mpr ⟨isSound_iff.mpr ⟨row, hStands⟩, hSound⟩
            · rwa [List.length_cons, Nat.add_comm before.length, ← Nat.add_assoc]
        | error found =>
            rw [toRows, hFirst] at h
            cases h
            exact ⟨[], first, rest, rfl, by simp, toRow_eq_error_iff.mp hFirst⟩
  · rintro ⟨before, entry, after, rfl, hSound, hFault⟩
    induction before generalizing passed with
    | nil =>
        have hFirst : entry.toRow (passed + 1) = .error fault := toRow_eq_error_iff.mpr hFault
        rw [List.nil_append, toRows, hFirst]
    | cons first before ih =>
        obtain ⟨hFirst, hRest⟩ := List.forall_mem_cons.mp hSound
        obtain ⟨row, hRow⟩ := isSound_iff.mp hFirst
        rw [List.length_cons, Nat.add_comm before.length, ← Nat.add_assoc] at hFault
        rw [List.cons_append, toRows, toRow_of_standsFor hRow, ih hRest hFault]
        rfl

/-- A row is held as it would be without limits, with its counts cut off to words afterwards. -/
theorem isHeldAs_iff {entry : Entry} {held : Row} :
    entry.IsHeldAs held ↔ ∃ row, entry.StandsFor row ∧ row.held = held := by
  constructor
  · intro h
    cases h with
    | drawing marks => exact ⟨_, .drawing marks, rfl⟩
    | distribute positive => exact ⟨_, .distribute positive, rfl⟩
  · rintro ⟨row, marks | positive, rfl⟩
    · exact .drawing marks
    · exact .distribute positive

/-- Entries are held as rows if they stand for rows that are held as these. -/
theorem forall₂_isHeldAs_iff {entries : List Entry} {held : List Row} :
    List.Forall₂ IsHeldAs entries held ↔ ∃ rows, List.Forall₂ StandsFor entries rows ∧ rows.map Row.held = held := by
  constructor
  · intro h
    induction h with
    | nil => exact ⟨[], .nil, rfl⟩
    | cons hFirst _ ih =>
        obtain ⟨row, hRow, rfl⟩ := isHeldAs_iff.mp hFirst
        obtain ⟨rows, hRows, rfl⟩ := ih
        exact ⟨row :: rows, .cons hRow hRows, rfl⟩
  · rintro ⟨rows, hRows, rfl⟩
    rw [List.forall₂_map_right_iff]
    exact hRows.imp fun entry row hRow => isHeldAs_iff.mpr ⟨row, hRow, rfl⟩

end Entry

namespace Spec

/-- The rows of a spec are held one for each entry, in the same order. -/
theorem heldRows_eq_ok_iff {spec : Spec} {held : List Row} :
    spec.heldRows = .ok held ↔ List.Forall₂ Entry.IsHeldAs spec.entries held := by
  have hRows (rows : List Row) : List.Forall₂ Entry.StandsFor spec.entries rows ↔ spec.rows = .ok rows :=
    Entry.toRows_eq_ok_iff.symm
  simp only [Entry.forall₂_isHeldAs_iff, hRows, heldRows]
  cases spec.rows with
  | error fault => simp [Except.map]
  | ok rows => simp [Except.map]

/-- Keeping counts in words plays no part in what is refused: the fault of a spec is that of its first entry that is
not sound. -/
theorem heldRows_eq_error_iff {spec : Spec} {fault : Entry.Fault} :
    spec.heldRows = .error fault ↔
      ∃ before entry after, spec.entries = before ++ entry :: after ∧ (∀ e ∈ before, e.IsSound) ∧
        entry.HasFault (before.length + 1) fault := by
  have hRows := @Entry.toRows_eq_error_iff 0 spec.entries fault
  simp only [Nat.zero_add] at hRows
  rw [← hRows, heldRows]
  show _ ↔ spec.rows = .error fault
  cases spec.rows with
  | error found => rfl
  | ok rows => simp [Except.map]

/-- The row at a position is what the entry there is held as. -/
theorem getElem?_heldRows {spec : Spec} {held : List Row} (h : spec.heldRows = .ok held) {r : Nat} {entry : Entry}
    (hEntry : spec.entries[r]? = some entry) : ∃ row, held[r]? = some row ∧ entry.IsHeldAs row := by
  obtain ⟨hLength, hAll⟩ := List.forall₂_iff_get.mp (heldRows_eq_ok_iff.mp h)
  obtain ⟨hr, rfl⟩ := List.getElem?_eq_some_iff.mp hEntry
  exact ⟨held[r], List.getElem?_eq_getElem (hLength ▸ hr), hAll r hr (hLength ▸ hr)⟩

/-- A spec stands for rows just if each of its entries is sound, and then for one row in the place of each entry. The
row of a drawing is held as it is read and has no cell without a unit-column, if its characters can be counted in a
word. Otherwise the spec is refused for its first entry that is not sound: a count of zero by its row, and a drawing by
its row, its first foreign character and the column of that. -/
theorem rows_or_first_fault (spec : Spec) :
    ((∃ rows, spec.heldRows = .ok rows) ↔ ∀ entry ∈ spec.entries, entry.IsSound) ∧
    (∀ rows, spec.heldRows = .ok rows ↔ List.Forall₂ Entry.IsHeldAs spec.entries rows) ∧
    (∀ rows, spec.heldRows = .ok rows → ∀ (r : Nat) text, spec.entries[r]? = some (.drawing text) →
      text.length < UInt32.size →
        rows[r]? = some (.drawn (.ofDrawing text)) ∧ ∀ cell ∈ (DrawnRow.ofDrawing text).cells, 1 ≤ cell.span) ∧
    ∀ fault, spec.heldRows = .error fault ↔
      ∃ before entry after, spec.entries = before ++ entry :: after ∧ (∀ e ∈ before, e.IsSound) ∧
        entry.HasFault (before.length + 1) fault := by
  refine ⟨⟨?_, ?_⟩, fun rows => heldRows_eq_ok_iff, ?_, fun fault => heldRows_eq_error_iff⟩
  · rintro ⟨rows, hRows⟩ entry hEntry
    obtain ⟨i, hAt⟩ := List.mem_iff_getElem?.mp hEntry
    obtain ⟨held, -, hHeld⟩ := getElem?_heldRows hRows hAt
    obtain ⟨row, hRow, -⟩ := Entry.isHeldAs_iff.mp hHeld
    exact Entry.isSound_iff.mpr ⟨row, hRow⟩
  · intro hSound
    cases hRows : spec.heldRows with
    | ok rows => exact ⟨rows, rfl⟩
    | error fault =>
        obtain ⟨before, entry, after, hEntries, -, hEntry⟩ := heldRows_eq_error_iff.mp hRows
        exact absurd (hSound entry (by simp [hEntries])) hEntry.not_isSound
  · intro rows hRows r text hAt hShort
    obtain ⟨held, hHeldAt, hHeld⟩ := getElem?_heldRows hRows hAt
    cases hHeld with
    | drawing marks =>
        rw [WordRow.counts_ofDrawing hShort] at hHeldAt
        exact ⟨hHeldAt, fun cell hCell => DrawnRow.span_pos_of_mem_scan hCell⟩

/-- A cell of one unit-column more than a word can count is held without any, and there is no fault. -/
theorem span_cut_off :
    (Entry.drawing (DrawnRow.drawing ⟨[⟨UInt32.size, 0⟩]⟩)).IsSound ∧
      heldRows ⟨[.drawing (DrawnRow.drawing ⟨[⟨UInt32.size, 0⟩]⟩)]⟩ = .ok [.drawn ⟨[⟨0, 0⟩]⟩] := by
  have hSpans : ∀ cell ∈ (⟨[⟨UInt32.size, 0⟩]⟩ : DrawnRow).cells, 0 < cell.span := by decide
  have hRow := Entry.toRow_eq_ok_iff.mp (Entry.toRow_drawing hSpans 1)
  exact ⟨Entry.isSound_iff.mpr ⟨_, hRow⟩, heldRows_drawing hSpans⟩

end Spec

end FlexGrid
