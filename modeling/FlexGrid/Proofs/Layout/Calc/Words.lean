import FlexGrid.Layout.Calc.Reader
import FlexGrid.Proofs.Length.Rounding

/-! The words of an expression. Blanks and parentheses separate what is written for the parts of an expression,
so its text falls apart into the words of the parts, and each of these words stands for one token. -/
namespace FlexGrid

/-- What a length comes to in a stylesheet. One that is rounded to zero has lost its unit. -/
def Length.printed (l : Length Rat) : Calc Rat :=
  if l.rounded = 0 then .number 0 else .length ⟨l.rounded, l.unit⟩

namespace Calc

/-- The tokens of an expression in parentheses if it needs them. -/
def bracketedTokens (needed : Bool) (tokens : List (Token Rat)) : List (Token Rat) :=
  if needed then .opening :: (tokens ++ [.closing]) else tokens

/-- The tokens that are written for an expression. A part of it is put in parentheses where it would otherwise be
taken apart by what stands around it. -/
def tokens : Calc Rat → List (Token Rat)
  | .length l => [.operand l.printed]
  | .number n => [.operand (.number n)]
  | .sum a b => a.tokens ++ .operator .plus :: bracketedTokens b.isSum b.tokens
  | .difference a b =>
      bracketedTokens true (a.tokens ++ .operator .minus :: bracketedTokens b.isSum b.tokens)
  | .product a b =>
      bracketedTokens a.isSum a.tokens ++ .operator .times :: bracketedTokens b.isOpen b.tokens
  | .quotient a b =>
      bracketedTokens a.isSum a.tokens ++ .operator .divide :: bracketedTokens b.isOpen b.tokens

/-- The character that is written for an operation. -/
def Operator.mark : Operator → Char
  | .plus => '+'
  | .minus => '-'
  | .times => '*'
  | .divide => '/'

/-- Whether a character goes on with a word. A blank ends a word, and a bracket is always one by itself. -/
def IsPlain (c : Char) : Prop :=
  c ≠ ' ' ∧ c ≠ '(' ∧ c ≠ ')'

instance (c : Char) : Decidable (IsPlain c) :=
  inferInstanceAs (Decidable (c ≠ ' ' ∧ c ≠ '(' ∧ c ≠ ')'))

/-- Whether no word goes on with a text. -/
def Separates (rest : List Char) : Prop :=
  ∀ c ∈ rest.head?, ¬IsPlain c

theorem words_of_plain {word : List Char} (h : ∀ c ∈ word, IsPlain c) (reversed rest : List Char) :
    words reversed (word ++ rest) = words (word.reverse ++ reversed) rest := by
  induction word generalizing reversed with
  | nil => rfl
  | cons c cs ih =>
      obtain ⟨hBlank, hOpening, hClosing⟩ := h c List.mem_cons_self
      rw [List.cons_append, words, if_neg hBlank, if_neg (by simp [hOpening, hClosing]),
        ih fun d hd => h d (List.mem_cons_of_mem c hd), List.reverse_cons, List.append_assoc]
      rfl

/-- A word ends where something separates it from what follows. -/
theorem words_of_separates {reversed rest : List Char} (hWord : reversed ≠ [])
    (hRest : Separates rest) : words reversed rest = reversed.reverse :: words [] rest := by
  have hFlush (others : List (List Char)) : flush reversed others = reversed.reverse :: others := by
    rw [flush, if_neg (by simpa using hWord)]
  cases rest with
  | nil => exact hFlush []
  | cons c cs =>
      by_cases hBlank : c = ' '
      · rw [words, if_pos hBlank, hFlush, words, if_pos hBlank]
        rfl
      · have hParenthesis : c = '(' ∨ c = ')' := by
          have hPlain := hRest c rfl
          simpa only [IsPlain, hBlank, not_and, ne_eq, not_false_eq_true, forall_const, not_not,
            ← or_iff_not_imp_left] using hPlain
        rw [words, if_neg hBlank, if_pos hParenthesis, hFlush, words, if_neg hBlank,
          if_pos hParenthesis]
        rfl

theorem words_blank (rest : List Char) : words [] (' ' :: rest) = words [] rest := by
  rw [words, if_pos rfl]
  rfl

theorem words_parenthesis {c : Char} (h : c = '(' ∨ c = ')') (rest : List Char) :
    words [] (c :: rest) = [c] :: words [] rest := by
  have hBlank : c ≠ ' ' := by
    rcases h with rfl | rfl <;> decide
  rw [words, if_neg hBlank, if_pos h]
  rfl

/-- Whether some characters are one word, with a digit to tell it from a mark. -/
structure IsWord (word : List Char) : Prop where
  plain : ∀ c ∈ word, IsPlain c
  exists_isDigit : ∃ c ∈ word, c.isDigit = true

theorem IsWord.ne_nil {word : List Char} (h : IsWord word) : word ≠ [] := by
  obtain ⟨c, hc, -⟩ := h.exists_isDigit
  exact List.ne_nil_of_mem hc

/-- A word is split off from what follows, if that does not go on with it. -/
theorem words_append {word rest : List Char} (hWord : word ≠ []) (hPlain : ∀ c ∈ word, IsPlain c)
    (hRest : Separates rest) : words [] (word ++ rest) = word :: words [] rest := by
  rw [words_of_plain hPlain, List.append_nil, words_of_separates _ hRest, List.reverse_reverse]
  simpa using hWord

/-- A word that is no bracket and no operator is an operand. -/
theorem token?_of_isWord {word : List Char} (h : IsWord word) :
    (token? word : Option (Token Rat)) = (operand? word).map .operand := by
  have hMark (c : Char) (hc : c.isDigit = false) : word ≠ [c] := by
    rintro rfl
    obtain ⟨d, hd, hDigit⟩ := h.exists_isDigit
    rw [List.mem_singleton.mp hd, hc] at hDigit
    cases hDigit
  rw [token?, if_neg (hMark _ rfl), if_neg (hMark _ rfl), if_neg (hMark _ rfl), if_neg (hMark _ rfl),
    if_neg (hMark _ rfl), if_neg (hMark _ rfl)]

theorem isPlain_of_isDigit {c : Char} (h : c.isDigit = true) : IsPlain c := by
  refine ⟨?_, ?_, ?_⟩ <;> rintro rfl <;> cases h

theorem isPlain_of_mem_text {d : Length.Digits} (h : d.IsNumeral) {c : Char} (hc : c ∈ d.text) :
    IsPlain c := by
  rcases List.mem_append.mp hc with hc | hc
  · exact isPlain_of_isDigit (h.isDigit_integer c hc)
  · split_ifs at hc
    · cases hc
    · rcases List.mem_cons.mp hc with rfl | hc
      · decide
      · exact isPlain_of_isDigit (h.isDigit_fraction c hc)

/-- A numeral with plain characters around it is a word. Its sign and its unit are such characters. -/
theorem isWord_of_text {before after : List Char} {d : Length.Digits} (h : d.IsNumeral)
    (hBefore : ∀ c ∈ before, IsPlain c) (hAfter : ∀ c ∈ after, IsPlain c) :
    IsWord (before ++ (d.text ++ after)) := by
  refine ⟨?_, ?_⟩
  · intro c hc
    rcases List.mem_append.mp hc with hc | hc
    · exact hBefore c hc
    · rcases List.mem_append.mp hc with hc | hc
      · exact isPlain_of_mem_text h hc
      · exact hAfter c hc
  · obtain ⟨c, cs, hInteger⟩ := List.exists_cons_of_ne_nil h.integer_ne_nil
    exact ⟨c, by simp [Length.Digits.text, hInteger], h.isDigit_integer c (by simp [hInteger])⟩

theorem operand?_text {d : Length.Digits} (h : d.IsNumeral) (after : List Char) :
    (operand? (d.text ++ after) : Option (Calc Rat)) = magnitude? false (d.text ++ after) := by
  obtain ⟨c, cs, hInteger⟩ := List.exists_cons_of_ne_nil h.integer_ne_nil
  have hSign : c ≠ '-' := by
    rintro rfl
    exact absurd (h.isDigit_integer '-' (by simp [hInteger])) (by decide)
  rw [Length.Digits.text, hInteger, List.cons_append, List.cons_append, operand?]
  simpa using hSign

/-- A numeral with a unit is read as a length of this unit, with the sign that stood in front. -/
theorem magnitude?_suffix {d : Length.Digits} (h : d.IsNumeral) (negative : Bool)
    (unit : LengthUnit) :
    magnitude? negative (d.text ++ unit.suffix.toList) =
      some (.length ⟨if negative then 0 - (d.value : Rat) else d.value, unit⟩) := by
  have hSplit := Length.splitNumeral_suffix h unit
  have hUnit : Length.unitOf? unit.suffix.toList = some unit := by
    cases unit <;> decide
  have hSuffix : unit.suffix.toList.isEmpty = false := by
    cases unit <;> decide
  simp only [magnitude?, hSplit, bind, Option.bind]
  rw [if_neg (by simp [hSuffix]), hUnit]
  rfl

theorem magnitude?_figures (n : Nat) :
    (magnitude? false (Decimal.figures n) : Option (Calc Rat)) = some (.number n) := by
  have hNumeral := Length.Digits.isNumeral_ofFraction n 0
  have hSplit : Length.splitNumeral (Decimal.figures n) = some (⟨Decimal.figures n, []⟩, []) := by
    have hText : Length.splitNumeral ((Length.Digits.ofFraction n 0).text ++ []) = _ :=
      Length.splitNumeral_text hNumeral (by simp)
    simpa [Length.Digits.ofFraction, Length.Digits.text] using hText
  simp only [magnitude?, hSplit, bind, Option.bind]
  simp [Decimal.digitsValue_figures]

/-- Whether a text falls apart into words that stand for some tokens, whatever follows it. -/
def Spells (text : List Char) (tokens : List (Token Rat)) : Prop :=
  ∃ found : List (List Char), found.mapM token? = some tokens ∧
    ∀ rest, Separates rest → words [] (text ++ rest) = found ++ words [] rest

namespace Spells

theorem word {text : List Char} {e : Calc Rat} (hWord : IsWord text)
    (hOperand : operand? text = some e) : Spells text [.operand e] := by
  refine ⟨[text], ?_, ?_⟩
  · simp [token?_of_isWord hWord, hOperand]
  · intro rest hRest
    exact words_append hWord.ne_nil hWord.plain hRest

/-- Blanks around a mark separate it from what is written before and after it. -/
theorem join (op : Operator) {first second : List Char} {tokens others : List (Token Rat)}
    (hFirst : Spells first tokens) (hSecond : Spells second others) :
    Spells (first ++ ' ' :: op.mark :: ' ' :: second) (tokens ++ .operator op :: others) := by
  have hMark : token? [op.mark] = some (Token.operator op : Token Rat) := by
    cases op <;> rfl
  have hPlain : ∀ c ∈ [op.mark], IsPlain c := by
    cases op <;> simp [Operator.mark, IsPlain]
  obtain ⟨before, hBefore, hFirst⟩ := hFirst
  obtain ⟨after, hAfter, hSecond⟩ := hSecond
  have hBlank (text : List Char) : Separates (' ' :: text) := by
    simp [Separates, IsPlain]
  refine ⟨before ++ [op.mark] :: after, ?_, ?_⟩
  · simp [List.mapM_append, hBefore, hMark, hAfter]
  · intro rest hRest
    have hText : first ++ ' ' :: op.mark :: ' ' :: second ++ rest =
        first ++ ' ' :: ([op.mark] ++ ' ' :: (second ++ rest)) := by simp
    have hWord := words_append (List.cons_ne_nil _ []) hPlain (hBlank (second ++ rest))
    rw [hText, hFirst _ (hBlank _), words_blank, hWord, words_blank, hSecond rest hRest]
    simp

/-- What is spelled in brackets is spelled with a bracket on either side, if brackets are needed there. -/
theorem bracketed {text : List Char} {tokens : List (Token Rat)} (needed : Bool)
    (h : Spells text tokens) :
    Spells (if needed then '(' :: (text ++ [')']) else text) (bracketedTokens needed tokens) := by
  cases needed with
  | false => exact h
  | true =>
      obtain ⟨found, hFound, hText⟩ := h
      refine ⟨['('] :: (found ++ [[')']]), ?_, ?_⟩
      · simp [List.mapM_append, hFound, bracketedTokens, token?]
      · intro rest _
        have hClosing : Separates (')' :: rest) := by
          simp [Separates, IsPlain]
        have hAppend : '(' :: (text ++ [')']) ++ rest = '(' :: (text ++ ')' :: rest) := by simp
        rw [if_pos rfl, hAppend, words_parenthesis (Or.inl rfl), hText _ hClosing,
          words_parenthesis (Or.inr rfl)]
        simp

end Spells

theorem isWord_figures (n : Nat) : IsWord (Decimal.figures n) := by
  obtain ⟨c, cs, hFigures⟩ := List.exists_cons_of_ne_nil (Decimal.figures_ne_nil n)
  refine ⟨fun c hc => isPlain_of_isDigit (Decimal.isDigit_of_mem_figures hc), c, ?_, ?_⟩
  · rw [hFigures]
    exact List.mem_cons_self
  · exact Decimal.isDigit_of_mem_figures (by rw [hFigures]; exact List.mem_cons_self)

theorem operand?_figures (n : Nat) :
    (operand? (Decimal.figures n) : Option (Calc Rat)) = some (.number n) := by
  have hNumeral := Length.Digits.isNumeral_ofFraction n 0
  have hOperand := operand?_text hNumeral []
  simp only [Length.Digits.ofFraction, Length.Digits.text, List.append_nil, ↓reduceIte] at hOperand
  rw [hOperand, magnitude?_figures]

/-- A length is read as what is printed of it, sign, numeral and unit. That is a number if nothing is left by
rounding. -/
theorem operand?_css (l : Length Rat) :
    IsWord l.css.toList ∧ operand? l.css.toList = some l.printed := by
  by_cases hZero : l.rounded = 0
  · rw [Length.css_of_rounded_eq_zero hZero, Length.printed, if_pos hZero]
    exact ⟨isWord_figures 0, operand?_figures 0⟩
  · obtain ⟨d, hNumeral, -, hValue, hText⟩ := Length.css_of_rounded_ne_zero hZero
    rw [hText, Length.printed, if_neg hZero]
    have hSuffix : ∀ c ∈ l.unit.suffix.toList, IsPlain c := by
      cases l.unit <;> simp [LengthUnit.suffix, IsPlain]
    by_cases hNegative : l.rounded < 0
    · rw [decide_eq_true hNegative]
      refine ⟨isWord_of_text hNumeral (by simp [signText, IsPlain]) hSuffix, ?_⟩
      change magnitude? true (d.text ++ l.unit.suffix.toList) = _
      rw [magnitude?_suffix hNumeral, hValue, abs_of_neg hNegative]
      simp
    · rw [decide_eq_false hNegative]
      refine ⟨isWord_of_text hNumeral (by simp [signText, IsPlain]) hSuffix, ?_⟩
      change operand? (d.text ++ l.unit.suffix.toList) = _
      rw [operand?_text hNumeral, magnitude?_suffix hNumeral, hValue,
        abs_of_nonneg (not_lt.mp hNegative)]
      simp

/-- The words of an expression stand for its tokens. The blanks around loose operators and the brackets keep all words
apart. -/
theorem spells_css (e : Calc Rat) : Spells e.css.toList e.tokens := by
  have toList_bracketed (needed : Bool) (text : String) : (bracketed needed text).toList =
      if needed then '(' :: (text.toList ++ [')']) else text.toList := by
    cases needed <;> simp [bracketed]
  induction e with
  | length l =>
      obtain ⟨hWord, hOperand⟩ := operand?_css l
      exact Spells.word hWord hOperand
  | number n =>
      rw [css, Decimal.toList_toString]
      exact Spells.word (isWord_figures n) (operand?_figures n)
  | sum a b hA hB =>
      have hJoin := Spells.join .plus hA (hB.bracketed b.isSum)
      simpa [css, toList_bracketed, tokens, Operator.mark] using hJoin
  | difference a b hA hB =>
      have hJoin := (Spells.join .minus hA (hB.bracketed b.isSum)).bracketed true
      simpa [css, toList_bracketed, tokens, Operator.mark] using hJoin
  | product a b hA hB =>
      have hJoin := Spells.join .times (hA.bracketed a.isSum) (hB.bracketed b.isOpen)
      simpa [css, toList_bracketed, tokens, Operator.mark] using hJoin
  | quotient a b hA hB =>
      have hJoin := Spells.join .divide (hA.bracketed a.isSum) (hB.bracketed b.isOpen)
      simpa [css, toList_bracketed, tokens, Operator.mark] using hJoin

end Calc

end FlexGrid
