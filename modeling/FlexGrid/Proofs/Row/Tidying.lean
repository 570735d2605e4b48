import FlexGrid.Proofs.Row.Words
import Mathlib.Data.List.DropRight

/-! What reading a drawing keeps of it. A row that was read is drawn as the same text without what has no meaning there,
and each `x` and each space in front of one belongs to the cell where it stands in the text. -/
namespace FlexGrid

namespace DrawnRow

/-- The cell that the `x` number `k` of a drawing belongs to. Both count from zero, and after the last `x` there is no
cell. -/
def holder? : List Cell → Nat → Option Nat
  | [], _ => none
  | cell :: rest, k => if k < cell.span then some 0 else (holder? rest (k - cell.span)).map (· + 1)

/-- Whether the `x` number `k` and the next one belong to cells as the marks between them say: to one cell if these are
a single `-`, and otherwise to neighbouring cells, the second of which has the spaces between them in front of it. -/
inductive JoinedBy (cells : List Cell) (k : Nat) (between : List Char) : Prop where
  | joint {i : Nat} (single : between = ['-']) (first : holder? cells k = some i)
      (second : holder? cells (k + 1) = some i)
  | apart {i : Nat} {cell : Cell} (other : between ≠ ['-']) (first : holder? cells k = some i)
      (second : holder? cells (k + 1) = some (i + 1)) (next : cells[i + 1]? = some cell)
      (gap : cell.gap = between.count ' ')

/-- How the cells of a row lie in the text that it is read from. It is said `x` by `x`, so that no cell can take or
lose one, or stand elsewhere. -/
structure LiesIn (row : DrawnRow) (text : List Char) : Prop where
  /-- Every `x` belongs to a cell, and the cells cover nothing else. -/
  covers (k : Nat) : (holder? row.cells k).isSome ↔ k < text.count 'x'
  /-- The first `x` begins the first cell, with the spaces before it. -/
  opens (between after : List Char) : text = between ++ 'x' :: after → 'x' ∉ between →
    holder? row.cells 0 = some 0 ∧ row.cells.head?.map Cell.gap = some (between.count ' ')
  joins (before between after : List Char) : text = before ++ 'x' :: (between ++ 'x' :: after) →
    'x' ∉ between → JoinedBy row.cells (before.count 'x') between

/-- The states that reading passes through, as long as it meets nothing foreign. Joined unit-columns wait for an `x`,
which comes next. -/
inductive Reads : Nat → Nat → List Char → Prop where
  | joint {gap span : Nat} {rest : List Char} (next : Reads gap (span + 1) ('x' :: rest)) :
      Reads gap span ('x' :: '-' :: 'x' :: rest)
  | cell {gap span : Nat} {rest : List Char} (complete : ∀ others, rest ≠ '-' :: 'x' :: others)
      (next : Reads 0 0 rest) : Reads gap span ('x' :: rest)
  | space {gap : Nat} {rest : List Char} (next : Reads (gap + 1) 0 rest) : Reads gap 0 (' ' :: rest)
  | stray {gap : Nat} {rest : List Char} (next : Reads gap 0 rest) : Reads gap 0 ('-' :: rest)
  | done {gap : Nat} : Reads gap 0 []

/-- Reading meets nothing foreign in a text of marks, and it only waits for an `x` where there is one. -/
theorem reads_of_isMark {gap span : Nat} {text : List Char}
    (hMarks : ∀ c ∈ text, Cell.isMark c = true) (hOpen : span = 0 ∨ text.head? = some 'x') :
    Reads gap span text := by
  fun_induction scan gap span text with
  | case1 gap span rest ih =>
      refine .joint (ih ?_ (Or.inr rfl))
      simp_all
  | case2 gap span rest hRest ih =>
      exact .cell hRest (ih (List.forall_mem_cons.mp hMarks).2 (Or.inl rfl))
  | case3 gap span rest ih =>
      obtain rfl : span = 0 := hOpen.resolve_right (by simp)
      exact .space (ih (List.forall_mem_cons.mp hMarks).2 (Or.inl rfl))
  | case4 gap span rest ih =>
      obtain rfl : span = 0 := hOpen.resolve_right (by simp)
      exact .stray (ih (List.forall_mem_cons.mp hMarks).2 (Or.inl rfl))
  | case5 text gap span _ hX hSpace hDash =>
      cases text with
      | nil =>
          obtain rfl : span = 0 := hOpen.resolve_right (by simp)
          exact .done
      | cons c rest =>
          have hMark := hMarks c List.mem_cons_self
          simp only [Cell.isMark, Bool.or_eq_true, beq_iff_eq] at hMark
          rcases hMark with (rfl | rfl) | rfl
          · exact absurd rfl (hX rest)
          · exact absurd rfl (hDash rest)
          · exact absurd rfl (hSpace rest)

/-- An `x` that is joined to no other completes its cell, and the next cell begins with nothing counted. -/
theorem scan_cell {rest : List Char} (complete : ∀ others, rest ≠ '-' :: 'x' :: others) (gap span : Nat) :
    scan gap span ('x' :: rest) = ⟨span + 1, gap⟩ :: scan 0 0 rest := by
  rw [scan]
  exact complete

/-- The cell that an `x` belongs to holds the unit-columns joined before it too. -/
theorem exists_scan_x (gap span : Nat) (rest : List Char) :
    ∃ cell others, scan gap span ('x' :: rest) = cell :: others ∧ cell.gap = gap ∧ span < cell.span := by
  induction rest using List.twoStepInduction generalizing span with
  | nil => exact ⟨⟨span + 1, gap⟩, [], rfl, rfl, Nat.lt_succ_self span⟩
  | singleton c => exact ⟨⟨span + 1, gap⟩, _, scan_cell (by simp) gap span, rfl, Nat.lt_succ_self span⟩
  | cons_cons c d rest ih _ =>
      by_cases hJoint : c = '-' ∧ d = 'x'
      · obtain ⟨rfl, rfl⟩ := hJoint
        obtain ⟨cell, others, hScan, hGap, hSpan⟩ := ih (span + 1)
        refine ⟨cell, others, ?_, hGap, by omega⟩
        rw [scan, hScan]
      · refine ⟨⟨span + 1, gap⟩, _, scan_cell ?_ gap span, rfl, Nat.lt_succ_self span⟩
        rintro others h
        cases h
        exact hJoint ⟨rfl, rfl⟩

/-- Marks without an `x` only add their spaces to those that were passed. -/
theorem scan_noise {between : List Char} (hMarks : ∀ c ∈ between, Cell.isMark c = true)
    (hNoX : 'x' ∉ between) (gap : Nat) (rest : List Char) :
    scan gap 0 (between ++ rest) = scan (gap + between.count ' ') 0 rest := by
  induction between generalizing gap with
  | nil => rfl
  | cons c between ih =>
      obtain ⟨hMark, hRest⟩ := List.forall_mem_cons.mp hMarks
      rw [List.mem_cons, not_or] at hNoX
      simp only [Cell.isMark, Bool.or_eq_true, beq_iff_eq] at hMark
      rcases hMark with (rfl | rfl) | rfl
      · exact absurd rfl hNoX.1
      · rw [List.cons_append, scan, ih hRest hNoX.2, List.count_cons_of_ne (by decide)]
      · rw [List.cons_append, scan, ih hRest hNoX.2, List.count_cons_self]
        congr 1
        omega

theorem rdropWhile_append_cons {α : Type} {p : α → Bool} {a : α} (ha : p a = false)
    (before after : List α) :
    (before ++ a :: after).rdropWhile p = before ++ a :: after.rdropWhile p := by
  rw [List.rdropWhile, List.reverse_append, List.reverse_cons, List.append_assoc,
    List.dropWhile_append]
  split
  · next hNone => simp [List.rdropWhile, List.isEmpty_iff.mp hNone, ha]
  · simp [List.rdropWhile]

/-- Joined unit-columns of a cell that goes on. -/
def drawJoined (n : Nat) : List Char :=
  (List.replicate n ['x', '-']).flatten

theorem drawJoined_succ (n : Nat) : drawJoined (n + 1) = drawJoined n ++ ['x', '-'] := by
  simp [drawJoined, List.replicate_succ']

theorem drawSpan_succ (n : Nat) : drawSpan (n + 1) = drawJoined n ++ ['x'] := by
  induction n with
  | zero => rfl
  | succ n ih => rw [drawSpan, ih]; rfl

theorem joined_mark (before : Char) {c : Char} (hMark : c ≠ '-') (rest : List Char) :
    joined before (c :: rest) = c :: joined c rest := by
  rw [joined, if_neg]
  exact fun h => hMark h.1

theorem joined_joint (rest : List Char) :
    joined 'x' ('-' :: 'x' :: rest) = '-' :: joined '-' ('x' :: rest) := by
  simp [joined]

/-- Anywhere else a `-` has no meaning and is left out, also where another `-` stands between it and an `x`. -/
theorem joined_stray {before : Char} {rest : List Char}
    (h : before = 'x' → ∀ others, '-' :: rest ≠ '-' :: 'x' :: others) :
    joined before ('-' :: rest) = joined '-' rest := by
  rw [joined, if_pos]
  refine ⟨rfl, ?_⟩
  rintro ⟨rfl, hHead⟩
  obtain ⟨others, rfl⟩ := List.head?_eq_some_iff.mp hHead
  exact h rfl others rfl

/-- Reading from a state on keeps what there is to draw, up to strays and the spaces at the end. -/
theorem Reads.flatMap_drawCell {gap span : Nat} {text : List Char} (h : Reads gap span text)
    (before : Char) (hBefore : before = 'x' → ∀ others, text ≠ '-' :: 'x' :: others) :
    (scan gap span text).flatMap drawCell =
      (List.replicate gap ' ' ++ drawJoined span ++ joined before text).rdropWhile (· == ' ') := by
  induction h generalizing before with
  | joint next ih =>
      rw [scan, ih '-' (by simp), drawJoined_succ, joined_mark _ (by decide), joined_mark _ (by decide),
        joined_joint, joined_mark _ (by decide)]
      simp
  | cell complete next ih =>
      rw [scan_cell complete, List.flatMap_cons, ih 'x' fun _ => complete, joined_mark _ (by decide),
        rdropWhile_append_cons rfl, drawCell, drawSpan_succ]
      simp [drawJoined]
  | space next ih =>
      rw [scan, ih ' ' (by simp), joined_mark _ (by decide), List.replicate_succ']
      simp [drawJoined]
  | stray next ih =>
      rw [scan, ih '-' (by simp), joined_stray hBefore]
  | done => simp [scan, joined, drawJoined, List.rdropWhile]

/-- Only a `-` that joins two `x` is left. If what is left begins with a `-`, the text began with one that has an `x`
on either side. -/
theorem eq_joint_of_joined {before : Char} {text others : List Char}
    (h : joined before text = '-' :: others) : before = 'x' ∧ ∃ rest, text = '-' :: 'x' :: rest := by
  induction text generalizing before with
  | nil => cases h
  | cons c rest ih =>
      rw [joined] at h
      split at h
      · obtain ⟨rfl, -⟩ := ih h
        simp_all
      · next hKept =>
        obtain rfl : c = '-' := by simpa using congrArg List.head? h
        simp only [true_and, not_not] at hKept
        obtain ⟨rest, rfl⟩ := List.head?_eq_some_iff.mp hKept.2
        exact ⟨hKept.1, rest, rfl⟩

/-- Reading does the same with and without the `-` that have no meaning: they are passed without being counted. -/
theorem Reads.scan_joined {gap span : Nat} {text : List Char} (h : Reads gap span text)
    (before : Char) (hBefore : before = 'x' → ∀ others, text ≠ '-' :: 'x' :: others) :
    scan gap span (joined before text) = scan gap span text := by
  induction h generalizing before with
  | joint next ih =>
      have hNext := ih '-' (by simp)
      rw [joined_mark _ (by decide)] at hNext
      rw [joined_mark _ (by decide), joined_joint, joined_mark _ (by decide), scan, scan, hNext]
  | @cell gap span rest complete next ih =>
      have hComplete : ∀ others, joined 'x' rest ≠ '-' :: 'x' :: others := by
        intro others h
        obtain ⟨-, others, hRest⟩ := eq_joint_of_joined h
        exact complete others hRest
      rw [joined_mark _ (by decide), scan_cell hComplete, scan_cell complete, ih 'x' fun _ => complete]
  | space next ih => rw [joined_mark _ (by decide), scan, scan, ih ' ' (by simp)]
  | stray next ih => rw [joined_stray hBefore, scan, ih '-' (by simp)]
  | done => rfl

theorem holder?_zero {cell : Cell} {k : Nat} (h : k < cell.span) (rest : List Cell) :
    holder? (cell :: rest) k = some 0 :=
  if_pos h

theorem holder?_add (cell : Cell) (rest : List Cell) (k : Nat) :
    holder? (cell :: rest) (cell.span + k) = (holder? rest k).map (· + 1) := by
  rw [holder?, if_neg (by omega), Nat.add_sub_cancel_left]

/-- The cells that are read cover as many unit-columns as there are `x` in the text, and those that were joined
before. -/
theorem Reads.isSome_holder? {gap span : Nat} {text : List Char} (h : Reads gap span text) (k : Nat) :
    (holder? (scan gap span text) k).isSome ↔ k < span + text.count 'x' := by
  induction h generalizing k with
  | joint next ih =>
      rw [scan, ih]
      simp
      omega
  | @cell gap span rest complete next ih =>
      rw [scan_cell complete, holder?]
      by_cases hFirst : k < span + 1
      · simp [hFirst]
        omega
      · simp [hFirst, ih]
        omega
  | space next ih =>
      rw [scan, ih]
      simp
  | stray next ih =>
      rw [scan, ih]
      simp
  | done => simp [scan, holder?]

/-- What is known of two neighbouring `x` stays true if a cell is put in front of those they belong to. -/
theorem JoinedBy.cons {cells : List Cell} {k : Nat} {between : List Char}
    (h : JoinedBy cells k between) (cell : Cell) :
    JoinedBy (cell :: cells) (cell.span + k) between := by
  cases h with
  | @joint i single first second =>
      refine .joint single (i := i + 1) ?_ ?_
      · rw [holder?_add, first, Option.map_some]
      · rw [Nat.add_assoc, holder?_add, second, Option.map_some]
  | @apart i next other first second hNext gap =>
      refine .apart other (i := i + 1) ?_ ?_ hNext gap
      · rw [holder?_add, first, Option.map_some]
      · rw [Nat.add_assoc, holder?_add, second, Option.map_some]

/-- If a joining `-` comes before the next `x`, it is all there is between the two. -/
theorem eq_joint_of_append {between after rest : List Char} (hNoX : 'x' ∉ between)
    (h : between ++ 'x' :: after = '-' :: 'x' :: rest) : between = ['-'] := by
  rcases between with _ | ⟨c, _ | ⟨d, others⟩⟩
  · simp at h
  · obtain ⟨rfl, -⟩ := List.cons.inj h
    rfl
  · obtain ⟨-, h⟩ := List.cons.inj h
    obtain ⟨rfl, -⟩ := List.cons.inj h
    simp at hNoX

/-- Any two neighbouring `x` of a text belong to cells as the marks between them say. This follows the scan from state
to state, up to the one in which the first of the two is read. -/
theorem Reads.joinedBy {gap span : Nat} {before between after text : List Char} (h : Reads gap span text)
    (hText : text = before ++ 'x' :: (between ++ 'x' :: after))
    (hMarks : ∀ c ∈ between, Cell.isMark c = true) (hNoX : 'x' ∉ between) :
    JoinedBy (scan gap span text) (span + before.count 'x') between := by
  induction h generalizing before with
  | @joint gap span rest next ih =>
      rw [scan]
      rcases before with _ | ⟨c, _ | ⟨d, before⟩⟩
      · have hJoint := eq_joint_of_append hNoX (List.cons.inj hText).2.symm
        obtain ⟨cell, others, hScan, -, hSpan⟩ := exists_scan_x gap (span + 1) rest
        rw [hScan]
        exact .joint hJoint (holder?_zero (Nat.lt_of_succ_lt hSpan) others) (holder?_zero hSpan others)
      · simp at hText
      · obtain ⟨rfl, rfl, hRest⟩ : 'x' = c ∧ '-' = d ∧ _ := by simpa using hText
        have hJoined := ih hRest
        rw [List.count_cons_self, List.count_cons_of_ne (by decide)]
        rwa [Nat.add_assoc, Nat.add_comm 1] at hJoined
  | @cell gap span rest complete next ih =>
      rw [scan_cell complete]
      cases before with
      | nil =>
          obtain rfl := (List.cons.inj hText).2
          have hApart : between ≠ ['-'] := by
            rintro rfl
            exact complete after rfl
          obtain ⟨cell, others, hScan, hGap, hSpan⟩ := exists_scan_x (0 + between.count ' ') 0 after
          rw [scan_noise hMarks hNoX, hScan]
          refine .apart hApart (i := 0) (holder?_zero (Nat.lt_succ_self span) _) ?_ rfl ?_
          · have hSecond := holder?_add ⟨span + 1, gap⟩ (cell :: others) 0
            rwa [holder?_zero hSpan] at hSecond
          · rw [hGap, Nat.zero_add]
      | cons c before =>
          obtain ⟨rfl, hRest⟩ := List.cons.inj hText
          have hJoined := (ih hRest).cons ⟨span + 1, gap⟩
          rw [List.count_cons_self]
          rwa [Nat.zero_add, Nat.add_assoc, Nat.add_comm 1] at hJoined
  | space next ih =>
      rw [scan]
      cases before with
      | nil => simp at hText
      | cons c before =>
          obtain ⟨rfl, hRest⟩ := List.cons.inj hText
          rw [List.count_cons_of_ne (by decide)]
          exact ih hRest
  | stray next ih =>
      rw [scan]
      cases before with
      | nil => simp at hText
      | cons c before =>
          obtain ⟨rfl, hRest⟩ := List.cons.inj hText
          rw [List.count_cons_of_ne (by decide)]
          exact ih hRest
  | done => simp at hText

/-- The cells of a text of marks lie in it where their `x` and the spaces before them stand. -/
theorem liesIn_ofDrawing {text : String} (hMarks : ∀ c ∈ text.toList, Cell.isMark c = true) :
    (ofDrawing text).LiesIn text.toList := by
  have hReads : Reads 0 0 text.toList := reads_of_isMark hMarks (Or.inl rfl)
  refine ⟨?covers, ?opens, ?joins⟩
  case covers =>
    intro k
    have hHolder := hReads.isSome_holder? k
    rwa [Nat.zero_add] at hHolder
  case opens =>
    intro between after hText hNoX
    have hBetween : ∀ c ∈ between, Cell.isMark c = true := by
      intro c hc
      apply hMarks
      simp [hText, hc]
    obtain ⟨cell, others, hScan, hGap, hSpan⟩ := exists_scan_x (0 + between.count ' ') 0 after
    rw [ofDrawing, hText, scan_noise hBetween hNoX, hScan]
    refine ⟨holder?_zero hSpan others, ?_⟩
    rw [List.head?_cons, Option.map_some, hGap, Nat.zero_add]
  case joins =>
    intro before between after hText hNoX
    have hBetween : ∀ c ∈ between, Cell.isMark c = true := by
      intro c hc
      apply hMarks
      simp [hText, hc]
    have hJoined := hReads.joinedBy hText hBetween hNoX
    rwa [Nat.zero_add] at hJoined

/-- What is drawn for the cells of a text of marks is the text, tidied. -/
theorem drawing_ofDrawing {text : String} (hMarks : ∀ c ∈ text.toList, Cell.isMark c = true) :
    (ofDrawing text).drawing = tidy text := by
  have hReads : Reads 0 0 text.toList := reads_of_isMark hMarks (Or.inl rfl)
  exact congrArg String.ofList (hReads.flatMap_drawCell ' ' (by simp))

/-- A text without the `-` that join nothing is read as the same row. -/
theorem ofDrawing_joined {text : String} (hMarks : ∀ c ∈ text.toList, Cell.isMark c = true) :
    ofDrawing (String.ofList (joined ' ' text.toList)) = ofDrawing text := by
  have hReads : Reads 0 0 text.toList := reads_of_isMark hMarks (Or.inl rfl)
  rw [ofDrawing, ofDrawing, String.toList_ofList, hReads.scan_joined ' ' (by simp)]

/-- Spaces with one `x` behind them are a single cell, with all of them in front of it. -/
theorem ofDrawing_spaces (n : Nat) :
    ofDrawing (String.ofList (List.replicate n ' ' ++ ['x'])) = ⟨[⟨1, n⟩]⟩ := by
  rw [ofDrawing, String.toList_ofList, scan_spaces, Nat.zero_add]
  rfl

end DrawnRow

namespace WordRow

open DrawnRow

/-- Drawing undoes reading, up to what has no meaning in a text: each `-` that joins nothing, and the spaces at the end.
What is drawn lies where it lay in the text, and a text without those `-` is read as the same row. The text has to be
short enough for its characters to be counted in a word. -/
theorem drawing_undoes_reading (text : String) (hMarks : ∀ c ∈ text.toList, Cell.isMark c = true)
    (hShort : text.length < UInt32.size) :
    (ofDrawing text).counts.drawing = tidy text ∧
      (ofDrawing text).counts.LiesIn text.toList ∧
      ofDrawing (String.ofList (joined ' ' text.toList)) = ofDrawing text := by
  rw [counts_ofDrawing hShort]
  exact ⟨drawing_ofDrawing hMarks, liesIn_ofDrawing hMarks, congrArg DrawnRow.inWords (ofDrawing_joined hMarks)⟩

/-- Strays at both ends, two between one pair of `x` and one beside spaces: the second and third `x` are joined, the
first two are not. -/
theorem drawing_undoes_reading_of_strays :
    (ofDrawing "- x--x-x- - x -").counts.drawing = " xx-x  x" ∧
      JoinedBy (ofDrawing "- x--x-x- - x -").counts.cells 0 ['-', '-'] ∧
      JoinedBy (ofDrawing "- x--x-x- - x -").counts.cells 1 ['-'] ∧
      ofDrawing " xx-x  x " = ofDrawing "- x--x-x- - x -" := by
  obtain ⟨hDrawn, hLies, hStrays⟩ :=
    drawing_undoes_reading "- x--x-x- - x -" (by simp [Cell.isMark]) (by decide +kernel)
  have hTidy : tidy "- x--x-x- - x -" = " xx-x  x" := by decide +kernel
  have hJoined : String.ofList (joined ' ' "- x--x-x- - x -".toList) = " xx-x  x " := by decide +kernel
  rw [hTidy] at hDrawn
  rw [hJoined] at hStrays
  exact ⟨hDrawn, hLies.joins ['-', ' '] ['-', '-'] _ rfl (by simp),
    hLies.joins ['-', ' ', 'x', '-', '-'] ['-'] _ rfl (by simp), hStrays⟩

/-- One space more than a word can count, in front of an `x`: none of them is drawn again. -/
theorem spaces_cut_off :
    (∀ c ∈ List.replicate UInt32.size ' ' ++ ['x'], Cell.isMark c = true) ∧
      (ofDrawing (String.ofList (List.replicate UInt32.size ' ' ++ ['x']))).counts.drawing = "x" ∧
      tidy (String.ofList (List.replicate UInt32.size ' ' ++ ['x'])) ≠ "x" := by
  have hMarks (n : Nat) : ∀ c ∈ List.replicate n ' ' ++ ['x'], Cell.isMark c = true := by
    intro c hc
    rcases List.mem_append.mp hc with hSpace | hX
    · rw [List.eq_of_mem_replicate hSpace]
      rfl
    · rw [List.mem_singleton.mp hX]
      rfl
  -- In numbers no space is lost, so the drawing is longer than one `x`.
  have hTidy (n : Nat) (hSome : 0 < n) : tidy (String.ofList (List.replicate n ' ' ++ ['x'])) ≠ "x" := by
    rw [← drawing_ofDrawing (by simpa using hMarks n), ofDrawing_spaces]
    intro hSame
    have hLength := congrArg (fun text => text.toList.length) hSame
    simp [drawing, drawCell, drawSpan] at hLength
    omega
  refine ⟨hMarks _, ?_, hTidy _ (by decide)⟩
  rw [ofDrawing, ofDrawing_spaces]
  rfl

end WordRow

end FlexGrid
