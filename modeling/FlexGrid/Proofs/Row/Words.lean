import FlexGrid.Proofs.Row.Scanning
import FlexGrid.Row.Words

/-! What rows lose when they are held in words. Nothing is cut off a count that fits, and a width is refused just if it
is too large for a word, so whatever is known of rows in numbers is known of the same rows in words as long as they fit.
A row that is read from a text of fewer characters than there are words always fits: each of its spaces and unit-columns
is a character of the text, and no two cells are charged to the same one. -/
namespace FlexGrid

/-- The two ways of saying that a word holds a number: it is no larger than the largest word, or less than their
number. -/
theorem le_wordLimit_iff {n : Nat} : n ≤ wordLimit ↔ n < UInt32.size :=
  Nat.lt_succ_iff.symm

/-- Every number below the limit is that of a word, so a sum can be looked for in numbers and then be had in words. -/
theorem exists_word {n : Nat} (h : n < UInt32.size) : ∃ word : UInt32, word.toNat = n :=
  ⟨UInt32.ofNat n, UInt32.toNat_ofNat_of_lt' h⟩

section Cells

/-- Nothing is lost by keeping a cell in words, if its counts fit. -/
theorem Cell.counts_inWords {cell : Cell} (h : cell.Fits) : cell.inWords.counts = cell := by
  obtain ⟨hSpan, hGap⟩ := h
  rw [le_wordLimit_iff] at hSpan hGap
  rw [inWords, WordCell.counts, UInt32.toNat_ofNat_of_lt' hSpan, UInt32.toNat_ofNat_of_lt' hGap]

@[simp] theorem WordCell.inWords_counts (cell : WordCell) : cell.counts.inWords = cell := by
  simp [Cell.inWords, counts]

/-- Blanks are counted in words as they are in numbers, for nothing is taken off a gap of zero. -/
theorem WordCell.toNat_blanks (cell : WordCell) (index : Nat) :
    (cell.blanks index).toNat = cell.counts.blanks index := by
  unfold blanks Cell.blanks
  split
  · rfl
  · split
    · next hZero =>
      show 0 = cell.gap.toNat - 1
      rw [hZero]
      rfl
    · next hSome =>
      have hOne : (1 : UInt32) ≤ cell.gap := by
        rw [UInt32.le_iff_toNat_le]
        apply Nat.one_le_iff_ne_zero.mpr
        intro hZero
        exact hSome (UInt32.toNat_inj.mp hZero)
      exact UInt32.toNat_sub_of_le _ _ hOne

theorem Cell.blanks_le_gap (cell : Cell) (index : Nat) : cell.blanks index ≤ cell.gap := by
  unfold blanks
  split <;> omega

end Cells

namespace DrawnRow

/-- A sum of two words is refused just if it is too large for a word. -/
theorem wordSum?_eq_some_iff {a b sum : UInt32} :
    wordSum? a b = some sum ↔ sum.toNat = a.toNat + b.toNat := by
  unfold wordSum?
  split
  · next hFits =>
    rw [Option.some_inj, ← UInt32.toNat_inj, UInt32.toNat_add, Nat.mod_eq_of_lt hFits, eq_comm]
  · next hLarge =>
    have hWord := sum.toNat_lt_size
    constructor
    · intro h
      cases h
    · intro h
      omega

/-- A width is refused just if it is too large for a word, for no sum on the way to it is larger. If it is not refused,
it is the width in numbers, whatever the cells are. -/
theorem wordWidthFrom?_eq_some_iff {index : Nat} {sum width : UInt32} {cells : List WordCell} :
    wordWidthFrom? index sum cells = some width ↔
      width.toNat = sum.toNat + widthFrom index (cells.map WordCell.counts) := by
  induction cells generalizing index sum with
  | nil =>
      rw [wordWidthFrom?, Option.some_inj, ← UInt32.toNat_inj, eq_comm]
      rfl
  | cons cell rest ih =>
      have hBlanks := cell.toNat_blanks index
      have hSpan : cell.counts.span = cell.span.toNat := rfl
      simp only [wordWidthFrom?, Option.bind_eq_some_iff, wordSum?_eq_some_iff, ih, List.map_cons, widthFrom]
      constructor
      · rintro ⟨reach, hReach, next, hNext, hWidth⟩
        omega
      · intro hWidth
        have hWord := width.toNat_lt_size
        obtain ⟨reach, hReach⟩ := exists_word (n := cell.span.toNat + (cell.blanks index).toNat) (by omega)
        obtain ⟨next, hNext⟩ := exists_word (n := sum.toNat + reach.toNat) (by omega)
        exact ⟨reach, hReach, next, hNext, by omega⟩

theorem map_counts_inWords {cells : List Cell} (h : ∀ cell ∈ cells, cell.Fits) :
    (cells.map Cell.inWords).map WordCell.counts = cells := by
  have hSame : cells.map (WordCell.counts ∘ Cell.inWords) = cells.map id :=
    List.map_congr_left fun cell hCell => Cell.counts_inWords (h cell hCell)
  rw [List.map_map, hSame, List.map_id]

theorem counts_inWords {row : DrawnRow} (h : row.Fits) : row.inWords.counts = row :=
  congrArg DrawnRow.mk (map_counts_inWords h)

end DrawnRow

namespace WordRow

@[simp] theorem inWords_counts (row : WordRow) : row.counts.inWords = row := by
  simp [counts, DrawnRow.inWords, Function.comp_def]

/-- Blanks are counted alike in words and in numbers, also where there is no cell. -/
theorem toNat_blankBefore (row : WordRow) (index : Nat) :
    (row.blankBefore index).toNat = row.counts.blankBefore index := by
  simp only [blankBefore, DrawnRow.blankBefore, counts, List.getElem?_map]
  cases row.cells[index]? with
  | none => rfl
  | some cell => exact cell.toNat_blanks index

/-- A row has a width in words just if its width in numbers is one of a word, and then the two are the same. -/
theorem width?_eq_some_iff {row : WordRow} {width : UInt32} :
    row.width? = some width ↔ width.toNat = row.counts.width := by
  rw [width?, DrawnRow.wordWidthFrom?_eq_some_iff]
  simp [DrawnRow.width, counts]

/-- Sums that are cut off leave what the width in numbers leaves. -/
theorem toNat_cutWidthFrom (index : Nat) (sum : UInt32) (cells : List WordCell) :
    (cutWidthFrom index sum cells).toNat =
      (sum.toNat + DrawnRow.widthFrom index (cells.map WordCell.counts)) % UInt32.size := by
  induction cells generalizing index sum with
  | nil => exact (Nat.mod_eq_of_lt sum.toNat_lt_size).symm
  | cons cell rest ih =>
      have hBlanks := cell.toNat_blanks index
      have hSpan : cell.counts.span = cell.span.toNat := rfl
      have hSize : UInt32.size = 4294967296 := rfl
      rw [cutWidthFrom, ih, UInt32.toNat_add, UInt32.toNat_add, List.map_cons, DrawnRow.widthFrom, hSize]
      omega

/-- It makes no difference to a width that is not refused whether sums would be refused or cut off. -/
theorem cutWidth_eq_of_width? {row : WordRow} {width : UInt32} (h : row.width? = some width) :
    row.cutWidth = width := by
  have hWidth := width?_eq_some_iff.mp h
  apply UInt32.toNat_inj.mp
  rw [cutWidth, toNat_cutWidthFrom, ← Nat.mod_eq_of_lt width.toNat_lt_size, hWidth]
  simp [DrawnRow.width, counts]

/-- Reading undoes drawing for all rows whose counts are words, as long as no cell is empty, also of cells without
spaces between them. So if blanks are drawn with a space more between two cells, and these spaces are still counted in
words, just the blanks are read. The width is that of the blanks and spans that were meant, if that is a word. -/
theorem reading_undoes_drawing (row : WordRow) (hSpans : ∀ cell ∈ row.cells, 0 < cell.span) :
    ofDrawing row.counts.drawing = row ∧
      ∀ slots, row.counts = DrawnRow.ofSlots slots →
        (∀ i slot, slots[i]? = some slot →
          ((ofDrawing row.counts.drawing).blankBefore i).toNat = slot.blanks) ∧
        (Slot.total slots < UInt32.size →
          ∃ width, (ofDrawing row.counts.drawing).width? = some width ∧
            (ofDrawing row.counts.drawing).cutWidth = width ∧ width.toNat = Slot.total slots) := by
  have hCounts : ∀ cell ∈ row.counts.cells, 0 < cell.span := by
    intro cell hCell
    obtain ⟨held, hHeld, rfl⟩ := List.mem_map.mp hCell
    exact UInt32.lt_iff_toNat_lt.mp (hSpans held hHeld)
  have hRead : ofDrawing row.counts.drawing = row := by
    rw [ofDrawing, DrawnRow.ofDrawing_drawing_iff.mpr hCounts, inWords_counts]
  refine ⟨hRead, ?_⟩
  intro slots hSlots
  rw [hRead]
  have hOwn : (Row.drawn row.counts).slots = slots := by rw [hSlots, Row.slots_ofSlots]
  constructor
  · intro i slot hSlot
    rw [toNat_blankBefore]
    exact Row.blankBefore_eq (hOwn.symm ▸ hSlot)
  · intro hTotal
    obtain ⟨width, hWidth⟩ := exists_word hTotal
    have hFilled : Slot.total slots = row.counts.width := by
      rw [← hOwn]
      exact Row.filled_drawn row.counts
    have hHeld : row.width? = some width := width?_eq_some_iff.mpr (hWidth.trans hFilled)
    exact ⟨width, hHeld, cutWidth_eq_of_width? hHeld, hWidth⟩

/-- Two adjacent cells and one after three spaces; and three cells with two, no and one blank in front of them. -/
theorem reading_undoes_drawing_of_three_cells :
    ofDrawing "  x-xx   x-x-x" = ⟨[⟨2, 2⟩, ⟨1, 0⟩, ⟨3, 3⟩]⟩ ∧
      (ofDrawing "  x-x x  x").blankBefore 2 = 1 ∧ (ofDrawing "  x-x x  x").width? = some 7 := by
  let adjacent : WordRow := ⟨[⟨2, 2⟩, ⟨1, 0⟩, ⟨3, 3⟩]⟩
  let apart : WordRow := ⟨[⟨2, 2⟩, ⟨1, 1⟩, ⟨1, 2⟩]⟩
  let slots : List Slot := [⟨2, 2⟩, ⟨0, 1⟩, ⟨1, 1⟩]
  have hAdjacent : adjacent.counts.drawing = "  x-xx   x-x-x" := by decide +kernel
  have hApart : apart.counts.drawing = "  x-x x  x" := by decide +kernel
  obtain ⟨hRead, -⟩ := reading_undoes_drawing adjacent (by decide)
  obtain ⟨-, hMeant⟩ := reading_undoes_drawing apart (by decide)
  obtain ⟨hBlanks, hWidth⟩ := hMeant slots rfl
  rw [hAdjacent] at hRead
  rw [hApart] at hBlanks hWidth
  obtain ⟨width, hHeld, -, hSeven⟩ := hWidth (by decide)
  have hWord : width = 7 := UInt32.toNat_inj.mp hSeven
  refine ⟨hRead, UInt32.toNat_inj.mp (hBlanks 2 ⟨1, 1⟩ rfl), ?_⟩
  rw [hHeld, hWord]

/-- As many blanks as a word can count in front of a second cell take one space more than a word can count. The cell is
read as if it stood right behind the first. -/
theorem blanks_cut_off :
    (∀ slot ∈ [(⟨0, 1⟩ : Slot), ⟨wordLimit, 1⟩], slot.blanks ≤ wordLimit ∧ 1 ≤ slot.span ∧ slot.span ≤ wordLimit) ∧
      (ofDrawing (DrawnRow.ofSlots [⟨0, 1⟩, ⟨wordLimit, 1⟩]).drawing).blankBefore 1 = 0 := by
  refine ⟨by decide, ?_⟩
  rw [ofDrawing, DrawnRow.ofDrawing_drawing_iff.mpr (by decide)]
  rfl

end WordRow

namespace DrawnRow

/-- The characters that cells are charged to: their spaces and their unit-columns. -/
def charged : List Cell → Nat
  | [] => 0
  | cell :: rest => cell.gap + cell.span + charged rest

/-- A single cell is charged to no more characters than all of them are. -/
theorem le_charged {cell : Cell} {cells : List Cell} (h : cell ∈ cells) :
    cell.gap + cell.span ≤ charged cells := by
  induction cells with
  | nil => cases h
  | cons first rest ih =>
      rw [charged]
      rcases List.mem_cons.mp h with rfl | h
      · omega
      · have hRest := ih h
        omega

/-- Leaving out cells at the end of a row takes no character more. -/
theorem charged_take_le (k : Nat) (cells : List Cell) : charged (cells.take k) ≤ charged cells := by
  induction cells generalizing k with
  | nil => simp
  | cons cell rest ih =>
      cases k with
      | zero => exact Nat.zero_le _
      | succ k =>
          have hRest := ih k
          rw [List.take_succ_cons, charged, charged]
          omega

/-- The width of cells is paid for by their characters, for blanks are spaces, and each unit-column is an `x`. -/
theorem widthFrom_le_charged (index : Nat) (cells : List Cell) :
    widthFrom index cells ≤ charged cells := by
  induction cells generalizing index with
  | nil => exact Nat.le_refl _
  | cons cell rest ih =>
      have hBlanks := cell.blanks_le_gap index
      have hRest := ih (index + 1)
      rw [widthFrom, charged]
      omega

/-- Cells are charged to characters of their own: what one of them takes, the next ones do not see. -/
theorem ReadsCells.charged_le {text rest : List Char} {cells : List Cell}
    (h : ReadsCells text cells rest) : charged cells + rest.length ≤ text.length := by
  induction h with
  | done => simp [charged]
  | next first others ih =>
      have hFirst := first.length_le
      rw [charged]
      omega

/-- All cells of a row are charged to characters of its text, and none of them twice. -/
theorem charged_ofDrawing_le (text : String) : charged (ofDrawing text).cells ≤ text.length := by
  obtain ⟨cells, rest, hCells⟩ := exists_readsCells text.toList
  have hRow : (ofDrawing text).cells = cells := hCells.scan_eq
  have hCharged := hCells.charged_le
  rw [String.length_toList] at hCharged
  rw [hRow]
  omega

/-- Counts that are paid for by fewer characters than there are words are words themselves. -/
theorem fits_of_charged {cells : List Cell} (h : charged cells < UInt32.size) : ∀ cell ∈ cells, cell.Fits := by
  intro cell hCell
  have hOwn := le_charged hCell
  exact ⟨le_wordLimit_iff.mpr (by omega), le_wordLimit_iff.mpr (by omega)⟩

/-- So are their widths: as no sum is larger than what the cells are charged to, none is refused on the way. -/
theorem exists_wordWidthFrom?_of_charged {cells : List Cell} (h : charged cells < UInt32.size) :
    ∃ sum, wordWidthFrom? 0 0 (cells.map Cell.inWords) = some sum ∧ sum.toNat = widthFrom 0 cells := by
  obtain ⟨sum, hSum⟩ := exists_word (Nat.lt_of_le_of_lt (widthFrom_le_charged 0 cells) h)
  refine ⟨sum, ?_, hSum⟩
  rw [wordWidthFrom?_eq_some_iff, map_counts_inWords (fits_of_charged h), hSum]
  exact (Nat.zero_add _).symm

/-- A row fits into words if its text is short enough to be counted in one. -/
theorem fits_ofDrawing {text : String} (hShort : text.length < UInt32.size) : (ofDrawing text).Fits :=
  fits_of_charged (Nat.lt_of_le_of_lt (charged_ofDrawing_le text) hShort)

/-- A row that is read from a text with fewer characters than there are words is counted in words without loss. No
span, no number of spaces, no sum on the way from cell to cell and no width is larger than the number of characters, so
no count is cut off and no sum is refused. -/
theorem counts_fit_words (text : String) (hShort : text.length < UInt32.size) :
    (∀ cell ∈ (ofDrawing text).cells,
      cell.span ≤ text.length ∧ cell.gap ≤ text.length ∧
      cell.inWords.span.toNat = cell.span ∧ cell.inWords.gap.toNat = cell.gap) ∧
    (∀ k, widthFrom 0 ((ofDrawing text).cells.take k) ≤ text.length ∧
      ∃ sum, wordWidthFrom? 0 0 (((ofDrawing text).cells.take k).map Cell.inWords) = some sum ∧
        sum.toNat = widthFrom 0 ((ofDrawing text).cells.take k)) ∧
    (ofDrawing text).width ≤ text.length ∧
    ∃ width, wordWidthFrom? 0 0 ((ofDrawing text).cells.map Cell.inWords) = some width ∧
      width.toNat = (ofDrawing text).width := by
  have hCharged := charged_ofDrawing_le text
  have hSums (cells : List Cell) (hCells : charged cells ≤ text.length) :
      widthFrom 0 cells ≤ text.length ∧
        ∃ sum, wordWidthFrom? 0 0 (cells.map Cell.inWords) = some sum ∧ sum.toNat = widthFrom 0 cells :=
    ⟨Nat.le_trans (widthFrom_le_charged 0 cells) hCells,
      exists_wordWidthFrom?_of_charged (Nat.lt_of_le_of_lt hCells hShort)⟩
  refine ⟨?_, ?_, hSums _ hCharged⟩
  · intro cell hCell
    have hOwn := le_charged hCell
    have hCounts := Cell.counts_inWords (fits_ofDrawing hShort cell hCell)
    exact ⟨by omega, by omega, congrArg Cell.span hCounts, congrArg Cell.gap hCounts⟩
  · intro k
    have hTake := charged_take_le k (ofDrawing text).cells
    exact hSums _ (by omega)

/-- Two cells with blanks in front of both, counted up to the `o` that ends the drawing. -/
theorem counts_fit_words_of_two_cells :
    "  x-x   x o x".length < UInt32.size ∧
      (ofDrawing "  x-x   x o x").width ≤ "  x-x   x o x".length ∧
      wordWidthFrom? 0 0 [⟨2, 2⟩, ⟨1, 3⟩] = some 7 := by
  have hShort : "  x-x   x o x".length < UInt32.size := by decide +kernel
  have hRow : ofDrawing "  x-x   x o x" = ⟨[⟨2, 2⟩, ⟨1, 3⟩]⟩ := by decide +kernel
  obtain ⟨-, -, hBound, width, hWidth, hNat⟩ := counts_fit_words "  x-x   x o x" hShort
  refine ⟨hShort, hBound, ?_⟩
  rw [hRow] at hWidth hNat
  have hSeven : width = 7 := UInt32.toNat_inj.mp hNat
  rw [hSeven] at hWidth
  exact hWidth

end DrawnRow

namespace WordRow

variable {text : String}

/-- A text of fewer characters than there are words is read in words as it is in numbers. -/
theorem counts_ofDrawing (hShort : text.length < UInt32.size) :
    (ofDrawing text).counts = DrawnRow.ofDrawing text :=
  DrawnRow.counts_inWords (DrawnRow.fits_ofDrawing hShort)

/-- The width of a row is a word as well, if its text is short: no sum on the way to it is refused. -/
theorem exists_width?_ofDrawing (hShort : text.length < UInt32.size) :
    ∃ width, (ofDrawing text).width? = some width ∧ width.toNat = (DrawnRow.ofDrawing text).width :=
  DrawnRow.exists_wordWidthFrom?_of_charged (Nat.lt_of_le_of_lt (DrawnRow.charged_ofDrawing_le text) hShort)

end WordRow

end FlexGrid
