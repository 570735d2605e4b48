import FlexGrid.Proofs.Row.Drawing
import Mathlib.Data.List.Induction
import Mathlib.Data.List.TakeWhile

/-! What reading takes from a text that need not be a drawing. It is stated by itself, as three nested repetitions: the
marks in front of a cell, the joined unit-columns of a cell, and the cells of a row. Each takes as much as it can and
leaves what it cannot finish, and a character that is foreign to drawings ends them all. -/
namespace FlexGrid

namespace DrawnRow

/-- All marks in front of a cell are passed. Only the spaces among them count. -/
inductive ReadsGap : List Char → Nat → List Char → Prop where
  | done {text : List Char} (ended : ∀ c ∈ text.head?, c ≠ ' ' ∧ c ≠ '-') : ReadsGap text 0 text
  | space {text rest : List Char} {gap : Nat} (next : ReadsGap text gap rest) :
      ReadsGap (' ' :: text) (gap + 1) rest
  | stray {text rest : List Char} {gap : Nat} (next : ReadsGap text gap rest) :
      ReadsGap ('-' :: text) gap rest

/-- All unit-columns that are joined by `-` are taken together. A `-` is taken only with the `x` after it. -/
inductive ReadsSpan : List Char → Nat → List Char → Prop where
  | done {rest : List Char} (ended : ∀ others, rest ≠ '-' :: 'x' :: others) :
      ReadsSpan ('x' :: rest) 1 rest
  | joint {text rest : List Char} {span : Nat} (next : ReadsSpan ('x' :: text) span rest) :
      ReadsSpan ('x' :: '-' :: 'x' :: text) (span + 1) rest

/-- A cell is taken with the marks in front of it, or not at all. -/
inductive ReadsCell (text : List Char) (cell : Cell) (rest : List Char) : Prop where
  | intro {middle : List Char} (gap : ReadsGap text cell.gap middle)
      (span : ReadsSpan middle cell.span rest)

/-- Cells are taken for as long as there is one. What is left is as it stood behind the last of them. -/
inductive ReadsCells : List Char → List Cell → List Char → Prop where
  | done {text : List Char} (ended : ∀ cell rest, ¬ReadsCell text cell rest) : ReadsCells text [] text
  | next {text middle rest : List Char} {cell : Cell} {cells : List Cell} (first : ReadsCell text cell middle)
      (others : ReadsCells middle cells rest) : ReadsCells text (cell :: cells) rest

/-- Whether a text is empty or begins with a character that is foreign to drawings. -/
def IsForeign (text : List Char) : Prop :=
  ∀ c ∈ text.head?, Cell.isMark c = false

theorem IsForeign.ne_cons {text : List Char} (h : IsForeign text) {c : Char} (hMark : Cell.isMark c = true)
    (rest : List Char) : text ≠ c :: rest := by
  rintro rfl
  have hForeign : Cell.isMark c = false := h c rfl
  rw [hMark] at hForeign
  cases hForeign

/-- At a character that is foreign to drawings reading stops, whatever was counted before it. -/
theorem scan_of_isForeign {text : List Char} (h : IsForeign text) (gap span : Nat) :
    scan gap span text = [] := by
  cases text with
  | nil => rfl
  | cons c rest =>
      have hMark : Cell.isMark c = false := h c rfl
      simp only [Cell.isMark, Bool.or_eq_false_iff, beq_eq_false_iff_ne] at hMark
      obtain ⟨⟨hX, hDash⟩, hSpace⟩ := hMark
      rw [scan]
      all_goals simp_all

section Gap

variable {text rest : List Char} {gap : Nat}

/-- From every text a gap can be taken, if only one of no marks and no spaces. -/
theorem exists_readsGap (text : List Char) : ∃ gap rest, ReadsGap text gap rest := by
  induction text with
  | nil => exact ⟨0, [], .done (by simp)⟩
  | cons c text ih =>
      obtain ⟨gap, rest, hRest⟩ := ih
      by_cases hSpace : c = ' '
      · subst c
        exact ⟨gap + 1, rest, .space hRest⟩
      · by_cases hDash : c = '-'
        · subst c
          exact ⟨gap, rest, .stray hRest⟩
        · exact ⟨0, c :: text, .done (by simp [hSpace, hDash])⟩

/-- How many spaces a gap has, and where it ends, is settled by the text alone. -/
theorem ReadsGap.unique (h : ReadsGap text gap rest) {gap' : Nat} {rest' : List Char}
    (h' : ReadsGap text gap' rest') : gap' = gap ∧ rest' = rest := by
  induction h generalizing gap' with
  | done ended =>
      cases h' with
      | done => exact ⟨rfl, rfl⟩
      | space => simp at ended
      | stray => simp at ended
  | space next ih =>
      cases h' with
      | done ended => simp at ended
      | space next' =>
          obtain ⟨rfl, rfl⟩ := ih next'
          exact ⟨rfl, rfl⟩
  | stray next ih =>
      cases h' with
      | done ended => simp at ended
      | stray next' => exact ih next'

/-- What follows a gap is neither a space nor a stray `-`, for a gap takes all of them. -/
theorem ReadsGap.ended (h : ReadsGap text gap rest) : ∀ c ∈ rest.head?, c ≠ ' ' ∧ c ≠ '-' := by
  induction h with
  | done ended => exact ended
  | space next ih => exact ih
  | stray next ih => exact ih

/-- The gap of the relation is the one that the scan counts, on top of the spaces it has counted before. -/
theorem ReadsGap.scan_eq (h : ReadsGap text gap rest) (before : Nat) :
    scan before 0 text = scan (before + gap) 0 rest := by
  induction h generalizing before with
  | done => rfl
  | space next ih =>
      rw [scan, ih]
      congr 1
      omega
  | stray next ih => rw [scan, ih]

/-- A gap is charged to the characters it takes, one for each of its spaces. -/
theorem ReadsGap.length_le (h : ReadsGap text gap rest) : gap + rest.length ≤ text.length := by
  induction h with
  | done => simp
  | space next ih =>
      rw [List.length_cons]
      omega
  | stray next ih =>
      rw [List.length_cons]
      omega

theorem ReadsGap.isSuffix (h : ReadsGap text gap rest) : rest <:+ text := by
  induction h with
  | done => exact List.suffix_refl _
  | space next ih => exact ih.trans (List.suffix_cons _ _)
  | stray next ih => exact ih.trans (List.suffix_cons _ _)

/-- A gap ends where it did, if something foreign is put behind the text. -/
theorem ReadsGap.append (h : ReadsGap text gap rest) {after : List Char} (hAfter : IsForeign after) :
    ReadsGap (text ++ after) gap (rest ++ after) := by
  induction h with
  | @done text ended =>
      apply ReadsGap.done
      cases text with
      | nil =>
          intro c hc
          obtain ⟨others, rfl⟩ := List.head?_eq_some_iff.mp hc
          constructor
          · rintro rfl
            exact hAfter.ne_cons rfl others rfl
          · rintro rfl
            exact hAfter.ne_cons rfl others rfl
      | cons c text => exact ended
  | space next ih => exact .space ih
  | stray next ih => exact .stray ih

end Gap

section Span

variable {text rest : List Char} {span : Nat}

/-- From every text that begins with an `x` a span can be taken, of that `x` alone or of more. -/
theorem exists_readsSpan (text : List Char) : ∃ span rest, ReadsSpan ('x' :: text) span rest := by
  induction text using List.twoStepInduction with
  | nil => exact ⟨1, [], .done (by simp)⟩
  | singleton c => exact ⟨1, [c], .done (by simp)⟩
  | cons_cons c d text ih _ =>
      by_cases hJoint : c = '-' ∧ d = 'x'
      · obtain ⟨rfl, rfl⟩ := hJoint
        obtain ⟨span, rest, hRest⟩ := ih
        exact ⟨span + 1, rest, .joint hRest⟩
      · exact ⟨1, c :: d :: text, .done (by simpa using hJoint)⟩

/-- How far a cell goes on is settled by the text alone: it is joined to the next `x` whenever it can be. -/
theorem ReadsSpan.unique (h : ReadsSpan text span rest) {span' : Nat} {rest' : List Char}
    (h' : ReadsSpan text span' rest') : span' = span ∧ rest' = rest := by
  induction h generalizing span' with
  | done ended =>
      cases h' with
      | done => exact ⟨rfl, rfl⟩
      | joint => exact absurd rfl (ended _)
  | joint next ih =>
      cases h' with
      | done ended => exact absurd rfl (ended _)
      | joint next' =>
          obtain ⟨rfl, rfl⟩ := ih next'
          exact ⟨rfl, rfl⟩

theorem ReadsSpan.head (h : ReadsSpan text span rest) : ∃ others, text = 'x' :: others := by
  cases h with
  | done => exact ⟨_, rfl⟩
  | joint => exact ⟨_, rfl⟩

/-- The span of the relation is the one that the scan counts, on top of the unit-columns it has joined before. -/
theorem ReadsSpan.scan_eq (h : ReadsSpan text span rest) (gap before : Nat) :
    scan gap before text = ⟨before + span, gap⟩ :: scan 0 0 rest := by
  induction h generalizing before with
  | done ended =>
      rw [scan]
      exact ended
  | joint next ih =>
      rw [scan, ih]
      congr 2
      omega

/-- A span is charged to the characters it takes, one for each of its unit-columns. -/
theorem ReadsSpan.length_le (h : ReadsSpan text span rest) : span + rest.length ≤ text.length := by
  induction h with
  | done => simp [Nat.add_comm]
  | joint next ih =>
      simp only [List.length_cons] at ih ⊢
      omega

theorem ReadsSpan.pos (h : ReadsSpan text span rest) : 0 < span := by
  cases h with
  | done => exact Nat.one_pos
  | joint => exact Nat.succ_pos _

theorem ReadsSpan.isSuffix (h : ReadsSpan text span rest) : rest <:+ text := by
  induction h with
  | done => exact List.suffix_cons _ _
  | joint next ih => exact ih.trans ⟨['x', '-'], rfl⟩

/-- A `-` at the end joins nothing, also if something foreign follows it. -/
theorem ReadsSpan.append (h : ReadsSpan text span rest) {after : List Char} (hAfter : IsForeign after) :
    ReadsSpan (text ++ after) span (rest ++ after) := by
  induction h with
  | @done rest ended =>
      apply ReadsSpan.done
      intro others hOthers
      rcases rest with _ | ⟨c, _ | ⟨d, rest⟩⟩
      · exact hAfter.ne_cons rfl _ hOthers
      · exact hAfter.ne_cons rfl _ (List.cons.inj hOthers).2
      · obtain ⟨hDash, hOthers⟩ := List.cons.inj hOthers
        obtain ⟨hX, -⟩ := List.cons.inj hOthers
        subst hDash hX
        exact ended rest rfl
  | joint next ih => exact .joint ih

end Span

section Cells

variable {text rest : List Char} {cell : Cell} {cells : List Cell}

/-- From a text one cell can be taken at most, and in one way. -/
theorem ReadsCell.unique (h : ReadsCell text cell rest) {cell' : Cell} {rest' : List Char}
    (h' : ReadsCell text cell' rest') : cell' = cell ∧ rest' = rest := by
  obtain ⟨gap, span⟩ := h
  obtain ⟨gap', span'⟩ := h'
  obtain ⟨hGap, rfl⟩ := gap.unique gap'
  obtain ⟨hSpan, rfl⟩ := span.unique span'
  refine ⟨?_, rfl⟩
  cases cell
  cases cell'
  simp_all

/-- Where the relation takes a cell, the scan puts out the same cell and goes on with the same rest. -/
theorem ReadsCell.scan_eq (h : ReadsCell text cell rest) :
    scan 0 0 text = cell :: scan 0 0 rest := by
  obtain ⟨gap, span⟩ := h
  rw [gap.scan_eq, span.scan_eq, Nat.zero_add, Nat.zero_add]

/-- A cell is charged to the characters it takes, one for each of its spaces and unit-columns. -/
theorem ReadsCell.length_le (h : ReadsCell text cell rest) :
    cell.gap + cell.span + rest.length ≤ text.length := by
  obtain ⟨gap, span⟩ := h
  have hGap := gap.length_le
  have hSpan := span.length_le
  omega

theorem ReadsCell.length_lt (h : ReadsCell text cell rest) : rest.length < text.length := by
  have hLength := h.length_le
  obtain ⟨-, span⟩ := h
  have hPos := span.pos
  omega

theorem ReadsCell.isSuffix (h : ReadsCell text cell rest) : rest <:+ text := by
  obtain ⟨gap, span⟩ := h
  exact span.isSuffix.trans gap.isSuffix

/-- A cell that is taken from a text is taken as well if something foreign is put behind the text. -/
theorem ReadsCell.append (h : ReadsCell text cell rest) {after : List Char} (hAfter : IsForeign after) :
    ReadsCell (text ++ after) cell (rest ++ after) := by
  obtain ⟨gap, span⟩ := h
  exact ⟨gap.append hAfter, span.append hAfter⟩

/-- Where no cell begins, nothing foreign makes one begin. -/
theorem not_readsCell_append (h : ∀ cell rest, ¬ReadsCell text cell rest) {after : List Char}
    (hAfter : IsForeign after) : ∀ cell rest, ¬ReadsCell (text ++ after) cell rest := by
  rintro cell rest ⟨gap, span⟩
  -- The gap ends where it ends without what follows, so the `x` after it stood in the text already.
  obtain ⟨ownGap, middle, hGap⟩ := exists_readsGap text
  obtain ⟨-, rfl⟩ := (hGap.append hAfter).unique gap
  obtain ⟨others, hOthers⟩ := span.head
  cases middle with
  | nil =>
      exact hAfter.ne_cons rfl others hOthers
  | cons c middle =>
      obtain ⟨rfl, -⟩ := List.cons.inj hOthers
      obtain ⟨ownSpan, ownRest, hSpan⟩ := exists_readsSpan middle
      exact h ⟨ownSpan, ownGap⟩ ownRest ⟨hGap, hSpan⟩

/-- Reading always comes to an end, for every cell takes something. -/
theorem exists_readsCells (text : List Char) : ∃ cells rest, ReadsCells text cells rest := by
  induction hLength : text.length using Nat.strong_induction_on generalizing text with
  | _ length ih =>
      subst hLength
      by_cases hCell : ∃ cell rest, ReadsCell text cell rest
      · obtain ⟨cell, middle, hFirst⟩ := hCell
        obtain ⟨cells, rest, hOthers⟩ := ih middle.length hFirst.length_lt middle rfl
        exact ⟨cell :: cells, rest, .next hFirst hOthers⟩
      · have hNone : ∀ cell rest, ¬ReadsCell text cell rest := by
          intro cell rest h
          exact hCell ⟨cell, rest, h⟩
        exact ⟨[], text, .done hNone⟩

/-- The cells of a text and what is left behind them are settled by the text alone. -/
theorem ReadsCells.unique (h : ReadsCells text cells rest) {cells' : List Cell} {rest' : List Char}
    (h' : ReadsCells text cells' rest') : cells' = cells ∧ rest' = rest := by
  induction h generalizing cells' with
  | done ended =>
      cases h' with
      | done => exact ⟨rfl, rfl⟩
      | next first => exact absurd first (ended _ _)
  | next first others ih =>
      cases h' with
      | done ended => exact absurd first (ended _ _)
      | next first' others' =>
          obtain ⟨rfl, rfl⟩ := first.unique first'
          obtain ⟨rfl, rfl⟩ := ih others'
          exact ⟨rfl, rfl⟩

/-- The scan finds the cells that the relation takes. Marks behind the last cell are passed and count for nothing. -/
theorem ReadsCells.scan_eq (h : ReadsCells text cells rest) : scan 0 0 text = cells := by
  induction h with
  | @done text ended =>
      -- The scan passes the gap that no cell follows, and stops behind it.
      obtain ⟨gap, middle, hGap⟩ := exists_readsGap text
      have hForeign : IsForeign middle := by
        intro c hc
        obtain ⟨others, rfl⟩ := List.head?_eq_some_iff.mp hc
        obtain ⟨hSpace, hDash⟩ := hGap.ended c hc
        have hX : c ≠ 'x' := by
          rintro rfl
          obtain ⟨span, rest, hSpan⟩ := exists_readsSpan others
          exact ended ⟨span, gap⟩ rest ⟨hGap, hSpan⟩
        simp [Cell.isMark, hX, hDash, hSpace]
      rw [hGap.scan_eq, scan_of_isForeign hForeign]
  | next first others ih => rw [first.scan_eq, ih]

theorem ReadsCells.isSuffix (h : ReadsCells text cells rest) : rest <:+ text := by
  induction h with
  | done => exact List.suffix_refl _
  | next first others ih => exact ih.trans first.isSuffix

/-- Something foreign behind a text changes none of its cells, and is left over together with what was left before. -/
theorem ReadsCells.append (h : ReadsCells text cells rest) {after : List Char} (hAfter : IsForeign after) :
    ReadsCells (text ++ after) cells (rest ++ after) := by
  induction h with
  | done ended => exact .done (not_readsCell_append ended hAfter)
  | next first others ih => exact .next (first.append hAfter) ih

end Cells

/-- Whether some marks are the longest drawing that a text begins with. -/
structure IsLongestDrawing (marks text : List Char) : Prop where
  isPrefix : marks <+: text
  isMark : ∀ c ∈ marks, Cell.isMark c = true
  longest : ∀ other, other <+: text → (∀ c ∈ other, Cell.isMark c = true) → other <+: marks

/-- The longest drawing at the start of a text is made of the marks up to the first foreign character. -/
theorem isLongestDrawing_takeWhile (text : List Char) :
    IsLongestDrawing (text.takeWhile Cell.isMark) text := by
  refine ⟨List.takeWhile_prefix _, fun c hc => List.mem_takeWhile_imp hc, ?_⟩
  intro other hPrefix hMarks
  obtain ⟨after, rfl⟩ := hPrefix
  rw [List.takeWhile_append_of_pos hMarks]
  exact List.prefix_append _ _

theorem isForeign_dropWhile (text : List Char) : IsForeign (text.dropWhile Cell.isMark) := by
  intro c hc
  have hHead := List.head?_dropWhile_not Cell.isMark text
  rw [Option.mem_def.mp hc] at hHead
  exact hHead

/-- Any text is read as the longest drawing that it begins with. Reading comes to an end, and to one only: the marks
behind the last cell are left over, and so is all that follows the drawing. Of that nothing is read, so any other text
that begins with something foreign could stand in its place, or none. -/
theorem reading_ends_at_foreign (text : String) :
    ∃ marks after unread, text.toList = marks ++ after ∧ IsLongestDrawing marks text.toList ∧
      IsForeign after ∧ unread <:+ marks ∧
      ofDrawing text = ofDrawing (String.ofList marks) ∧
      ∀ others, IsForeign others →
        ofDrawing (String.ofList (marks ++ others)) = ofDrawing text ∧
        ∀ cells rest, ReadsCells (marks ++ others) cells rest ↔
          cells = (ofDrawing text).cells ∧ rest = unread ++ others := by
  have hCut := List.takeWhile_append_dropWhile (p := Cell.isMark) (l := text.toList)
  have hForeign := isForeign_dropWhile text.toList
  have hLongest := isLongestDrawing_takeWhile text.toList
  generalize text.toList.takeWhile Cell.isMark = marks at hCut hLongest
  generalize text.toList.dropWhile Cell.isMark = after at hCut hForeign
  obtain ⟨cells, unread, hMarks⟩ := exists_readsCells marks
  have hCells : (ofDrawing text).cells = cells := by
    show scan 0 0 text.toList = cells
    rw [← hCut, (hMarks.append hForeign).scan_eq]
  have hSame (others : List Char) (hOthers : IsForeign others) :
      ofDrawing (String.ofList (marks ++ others)) = ofDrawing text := by
    show DrawnRow.mk (scan 0 0 (String.ofList (marks ++ others)).toList) = ⟨(ofDrawing text).cells⟩
    rw [String.toList_ofList, (hMarks.append hOthers).scan_eq, hCells]
  have hEmpty := hSame [] (by simp [IsForeign])
  rw [List.append_nil] at hEmpty
  refine ⟨marks, after, unread, hCut.symm, hLongest, hForeign, hMarks.isSuffix, hEmpty.symm, ?_⟩
  intro others hOthers
  refine ⟨hSame others hOthers, ?_⟩
  intro found rest
  rw [hCells]
  constructor
  · intro h
    exact (hMarks.append hOthers).unique h
  · rintro ⟨rfl, rfl⟩
    exact hMarks.append hOthers

/-- The `o` is met in the middle of a run: the `-` before it joins nothing, and the cell that it follows is complete. -/
example : ofDrawing "x-x  x-x-o-x x" = ⟨[⟨2, 0⟩, ⟨2, 2⟩]⟩ := by decide +kernel

end DrawnRow

end FlexGrid
