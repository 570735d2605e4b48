import FlexGrid.Proofs.Length.Digits
import Mathlib.Data.List.DropRight

/-! Which texts are length literals. The grammar is stated by itself, as numerals, units and the white space around
them, and the reader accepts exactly what it allows. -/
namespace FlexGrid

namespace Text

/-- Whether a text is another one between white space, with none left at its own ends. -/
structure IsTrimmed (cs inner : List Char) : Prop where
  between : ∃ before after, cs = before ++ (inner ++ after) ∧ (∀ c ∈ before, isBlank c = true) ∧
    ∀ c ∈ after, isBlank c = true
  head : ∀ c ∈ inner.head?, isBlank c = false
  last : ∀ c ∈ inner.getLast?, isBlank c = false

theorem dropWhile_of_head {p : Char → Bool} {cs : List Char} (h : ∀ c ∈ cs.head?, p c = false) :
    cs.dropWhile p = cs := by
  cases cs with
  | nil => rfl
  | cons c rest => simp [h c rfl]

theorem head_dropWhile {p : Char → Bool} {cs : List Char} : ∀ c ∈ (cs.dropWhile p).head?, p c = false := by
  intro c hc
  have hHead := List.head?_dropWhile_not p cs
  rw [Option.mem_def.mp hc] at hHead
  exact hHead

/-- Trimming a text leaves what lies between the white space at its ends, and nothing but white space is taken off. -/
theorem isTrimmed_trim (cs : List Char) : IsTrimmed cs (trim cs) := by
  have hTrim : trim cs = (cs.dropWhile isBlank).rdropWhile isBlank := rfl
  refine ⟨⟨cs.takeWhile isBlank, (cs.dropWhile isBlank).rtakeWhile isBlank, ?_, ?_, ?_⟩, ?_, ?_⟩
  · rw [hTrim, List.rdropWhile_append_rtakeWhile, List.takeWhile_append_dropWhile]
  · exact fun c hc => List.mem_takeWhile_imp hc
  · exact fun c hc => List.mem_rtakeWhile_imp hc
  · intro c hc
    obtain ⟨rest, hRest⟩ := List.head?_eq_some_iff.mp hc
    obtain ⟨after, hAfter⟩ := List.rdropWhile_prefix isBlank (cs.dropWhile isBlank)
    rw [← hTrim, hRest] at hAfter
    apply head_dropWhile c
    change c ∈ (cs.dropWhile isBlank).head?
    rw [← hAfter]
    rfl
  · rw [trim, List.getLast?_reverse]
    exact head_dropWhile

/-- There is only one way to trim a text, for the inner text may begin or end with white space no more. -/
theorem IsTrimmed.eq_trim {cs inner : List Char} (h : IsTrimmed cs inner) : inner = trim cs := by
  obtain ⟨⟨before, after, rfl, hBefore, hAfter⟩, hHead, hLast⟩ := h
  rw [trim, List.dropWhile_append_of_pos hBefore]
  cases inner with
  | nil =>
      have hNone : after.dropWhile isBlank = [] := List.dropWhile_eq_nil_iff.mpr hAfter
      simp [hNone]
  | cons c rest =>
      have hFront : ((c :: rest) ++ after).dropWhile isBlank = (c :: rest) ++ after :=
        dropWhile_of_head (by simpa using hHead)
      have hBack : (c :: rest).reverse.dropWhile isBlank = (c :: rest).reverse :=
        dropWhile_of_head (by rwa [List.head?_reverse])
      rw [hFront, List.reverse_append, List.dropWhile_append_of_pos (by simpa using hAfter), hBack,
        List.reverse_reverse]

end Text

namespace Length

/-- In exact arithmetic a numeral is worth what its digits are worth in their places. -/
theorem Digits.value_eq_add (d : Digits) :
    (d.value : Rat) = Nat.ofDigitChars 10 d.integer 0 +
      Nat.ofDigitChars 10 d.fraction 0 / 10 ^ d.fraction.length := by
  rw [value_eq, Decimal.digitsValue_append, Decimal.digitsValue_eq_ofDigitChars,
    Decimal.digitsValue_eq_ofDigitChars]
  push_cast
  field_simp

/-- What is split off the front of a text is a numeral, and nothing is lost: the numeral and the rest are the text
again. -/
theorem eq_text_of_splitNumeral {cs rest : List Char} {d : Digits} (h : splitNumeral cs = some (d, rest)) :
    d.IsNumeral ∧ cs = d.text ++ rest := by
  have hCut := List.takeWhile_append_dropWhile (p := Char.isDigit) (l := cs)
  have hDigits : ∀ c ∈ cs.takeWhile Char.isDigit, c.isDigit = true := fun c hc => List.mem_takeWhile_imp hc
  simp only [splitNumeral] at h
  split at h
  · cases h
  · next hInteger =>
    split at h
    · next tail hTail =>
      have hCutTail := List.takeWhile_append_dropWhile (p := Char.isDigit) (l := tail)
      split at h
      · cases h
        exact ⟨⟨by simpa using hInteger, hDigits, by simp⟩, by simp [Digits.text, hCut]⟩
      · next hFraction =>
        cases h
        refine ⟨⟨by simpa using hInteger, hDigits, fun c hc => List.mem_takeWhile_imp hc⟩, ?_⟩
        rw [Digits.text, if_neg (by simpa using hFraction), List.append_assoc, List.cons_append, hCutTail,
          ← hTail, hCut]
    · cases h
      exact ⟨⟨by simpa using hInteger, hDigits, by simp⟩, by simp [Digits.text, hCut]⟩

/-- A unit is known by its exact suffix. No other spelling and no part of one is taken for it. -/
theorem unitOf?_eq_some_iff {cs : List Char} {unit : LengthUnit} :
    unitOf? cs = some unit ↔ cs = unit.suffix.toList := by
  constructor
  · intro h
    unfold unitOf? at h
    split_ifs at h with hPx hPercent hEm hRem
    · cases h; exact hPx
    · cases h; exact hPercent
    · cases h; exact hEm
    · cases h; exact hRem
  · rintro rfl
    cases unit <;> decide

section

variable {α : Type} [Scalar α]

/-- Length literals without white space, and the lengths that they stand for. -/
inductive IsLiteral : List Char → Length α → Prop where
  | united {d : Digits} (numeral : d.IsNumeral) (unit : LengthUnit) :
      IsLiteral (d.text ++ unit.suffix.toList) ⟨d.value, unit⟩
  | zero {d : Digits} (numeral : d.IsNumeral) (isZero : Scalar.isZero (d.value : α) = true) :
      IsLiteral d.text Length.zero

/-- The reader of literals accepts what the grammar allows and takes it for the same length. -/
theorem ofLiteral?_eq_some_iff {cs : List Char} {l : Length α} : ofLiteral? cs = some l ↔ IsLiteral cs l := by
  constructor
  · intro h
    obtain ⟨⟨d, rest⟩, hSplit, hRead⟩ := Option.bind_eq_some_iff.mp h
    obtain ⟨hNumeral, rfl⟩ := eq_text_of_splitNumeral hSplit
    dsimp only at hRead
    split_ifs at hRead with hRest hZero
    · cases hRead
      obtain rfl := List.isEmpty_iff.mp hRest
      rw [List.append_nil]
      exact .zero hNumeral hZero
    · obtain ⟨unit, hUnit, rfl⟩ := Option.map_eq_some_iff.mp hRead
      obtain rfl := unitOf?_eq_some_iff.mp hUnit
      exact .united hNumeral unit
  · intro h
    cases h with
    | united numeral unit =>
        have hSplit := splitNumeral_suffix numeral unit
        have hSome : unit.suffix ≠ "" := by cases unit <;> decide
        simp [ofLiteral?, hSplit, hSome, unitOf?_eq_some_iff.mpr rfl]
    | @zero d numeral isZero =>
        have hSplit : splitNumeral (d.text ++ []) = some (d, []) := splitNumeral_text numeral (by simp)
        rw [List.append_nil] at hSplit
        simp [ofLiteral?, hSplit, isZero]

/-- A text is read as a length just if it is a literal without the white space at its ends. -/
theorem parse_eq_ok_iff {text : String} {l : Length α} :
    parse text = .ok l ↔ IsLiteral (Text.trim text.toList) l := by
  rw [← ofLiteral?_eq_some_iff, parse]
  cases ofLiteral? (α := α) (Text.trim text.toList) <;> simp

/-- A text is refused just if it is no literal at all, and what is reported is the text with its white space. -/
theorem parse_eq_error_iff {text : String} {e : BadLiteral} :
    (parse text : Except BadLiteral (Length α)) = .error e ↔
      e = ⟨text⟩ ∧ ∀ l : Length α, ¬IsLiteral (Text.trim text.toList) l := by
  simp only [← ofLiteral?_eq_some_iff, parse]
  cases ofLiteral? (α := α) (Text.trim text.toList) <;> simp [eq_comm]

/-- A text is read as a length just if, without the white space at its ends, it is a numeral directly followed by a unit
or a numeral of zero alone; the length has the number and the unit that are written, or is zero. Any other text is
refused as it was given. -/
theorem parse_iff_isLiteral (text : String) :
    (∀ l : Length α, parse text = .ok l ↔ ∃ inner, Text.IsTrimmed text.toList inner ∧ IsLiteral inner l) ∧
    (∀ e, (parse text : Except BadLiteral (Length α)) = .error e ↔
      e = ⟨text⟩ ∧ ∀ inner (l : Length α), Text.IsTrimmed text.toList inner → ¬IsLiteral inner l) ∧
    ∀ d : Digits, (d.value : Rat) = Nat.ofDigitChars 10 d.integer 0 +
      Nat.ofDigitChars 10 d.fraction 0 / 10 ^ d.fraction.length := by
  have hTrimmed := Text.isTrimmed_trim text.toList
  refine ⟨?_, ?_, Digits.value_eq_add⟩
  · intro l
    rw [parse_eq_ok_iff]
    constructor
    · intro h
      exact ⟨_, hTrimmed, h⟩
    · rintro ⟨inner, hInner, h⟩
      rwa [← hInner.eq_trim]
  · intro e
    rw [parse_eq_error_iff]
    constructor
    · rintro ⟨rfl, h⟩
      refine ⟨rfl, ?_⟩
      intro inner l hInner
      rw [hInner.eq_trim]
      exact h l
    · rintro ⟨rfl, h⟩
      exact ⟨rfl, fun l => h _ l hTrimmed⟩

end

end Length

end FlexGrid
