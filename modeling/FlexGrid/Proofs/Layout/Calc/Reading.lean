import FlexGrid.Proofs.Layout.Calc.Words

/-! Expressions read back from their text. Where an operand is due, some tokens may be read as the operand of a
product, as a product or as a sum; each kind leaves what waits around it as it was. Parentheses turn a sum into
an operand, and these rules build up every expression just as its text does. -/
namespace FlexGrid.Calc

/-- What a printed expression reads as: its lengths as they are printed. -/
def printed : Calc Rat → Calc Rat
  | .length l => l.printed
  | .number n => .number n
  | .sum a b => .sum a.printed b.printed
  | .difference a b => .difference a.printed b.printed
  | .product a b => .product a.printed b.printed
  | .quotient a b => .quotient a.printed b.printed

/-- Read tokens where an operand is due: in a frame with the sum and the product begun in it, inside the frames that
are still open around it. -/
def readFrom (frame : Frame Rat) (outer : List (Frame Rat)) (tokens : List (Token Rat)) :
    Option (Reading Rat) :=
  tokens.foldlM Reading.step ⟨frame, outer, none⟩

/-- Tokens that complete whatever product they are read in. They may follow any operator, so no other operator binds
stronger than what they are. -/
def ReadsAsOperand (tokens : List (Token Rat)) (e : Calc Rat) : Prop :=
  ∀ sum product outer, readFrom ⟨sum, product⟩ outer tokens =
    some ⟨⟨sum, none⟩, outer, some (complete product e)⟩

/-- Tokens that begin a product, whatever sum they are read in. They may follow a loose operator, but not a tight
one. -/
def ReadsAsProduct (tokens : List (Token Rat)) (e : Calc Rat) : Prop :=
  ∀ sum outer, readFrom ⟨sum, none⟩ outer tokens = some ⟨⟨sum, none⟩, outer, some e⟩

/-- Tokens that begin a sum, of which the last product still waits to be added. -/
def ReadsAsSum (tokens : List (Token Rat)) (e : Calc Rat) : Prop :=
  ∀ outer, ∃ sum last, readFrom ⟨none, none⟩ outer tokens =
    some ⟨⟨sum, none⟩, outer, some last⟩ ∧ complete sum last = e

section

variable {tokens others : List (Token Rat)} {a b : Calc Rat}

theorem readsAsOperand_single (e : Calc Rat) : ReadsAsOperand [.operand e] e :=
  fun _ _ _ => rfl

theorem ReadsAsOperand.asProduct (h : ReadsAsOperand tokens a) : ReadsAsProduct tokens a :=
  fun sum outer => h sum none outer

theorem ReadsAsProduct.asSum (h : ReadsAsProduct tokens a) : ReadsAsSum tokens a :=
  fun outer => ⟨none, a, h none outer, rfl⟩

/-- What is read in front decides only from where the rest is read on. -/
theorem readFrom_append (frame : Frame Rat) (outer : List (Frame Rat)) :
    readFrom frame outer (tokens ++ others) =
      (readFrom frame outer tokens).bind (others.foldlM Reading.step) :=
  List.foldlM_append

theorem ReadsAsSum.bracketed (h : ReadsAsSum tokens a) :
    ReadsAsOperand (.opening :: (tokens ++ [.closing])) a := by
  intro sum product outer
  obtain ⟨inner, last, hRead, rfl⟩ := h (⟨sum, product⟩ :: outer)
  change readFrom ⟨none, none⟩ (⟨sum, product⟩ :: outer) (tokens ++ [.closing]) = _
  rw [readFrom_append, hRead]
  rfl

/-- A product and an operand behind a tight operator make a product. -/
theorem ReadsAsProduct.join (op : Operator) (hTight : op.isTight = true)
    (hA : ReadsAsProduct tokens a) (hB : ReadsAsOperand others b) :
    ReadsAsProduct (tokens ++ .operator op :: others) (op.join a b) := by
  intro sum outer
  have hStep : Reading.step ⟨⟨sum, none⟩, outer, some a⟩ (.operator op) =
      some ⟨⟨sum, some (a, op)⟩, outer, none⟩ := by
    simp only [Reading.step, if_pos hTight]
  rw [readFrom_append, hA, Option.bind_some, List.foldlM_cons, hStep]
  exact hB sum (some (a, op)) outer

/-- A sum and a product behind a loose operator make a sum. -/
theorem ReadsAsSum.join (op : Operator) (hLoose : op.isTight = false) (hA : ReadsAsSum tokens a)
    (hB : ReadsAsProduct others b) :
    ReadsAsSum (tokens ++ .operator op :: others) (op.join a b) := by
  intro outer
  obtain ⟨sum, last, hRead, rfl⟩ := hA outer
  have hStep : Reading.step ⟨⟨sum, none⟩, outer, some last⟩ (.operator op) =
      some ⟨⟨some (complete sum last, op), none⟩, outer, none⟩ := by
    simp [Reading.step, hLoose]
  refine ⟨some (complete sum last, op), b, ?_, rfl⟩
  rw [readFrom_append, hRead, Option.bind_some, List.foldlM_cons, hStep]
  exact hB _ outer

end

/-- What the tokens of an expression can be read as. A sum is only a sum, and a product or a quotient is no
operand of another; the parentheses of an expression are there for just these cases. -/
theorem reads_tokens (e : Calc Rat) :
    ReadsAsSum e.tokens e.printed ∧ (e.isSum = false → ReadsAsProduct e.tokens e.printed) ∧
      (e.isOpen = false → ReadsAsOperand e.tokens e.printed) := by
  have bracketed_isOpen {b : Calc Rat} (hSum : ReadsAsSum b.tokens b.printed)
      (hOperand : b.isOpen = false → ReadsAsOperand b.tokens b.printed) :
      ReadsAsOperand (bracketedTokens b.isOpen b.tokens) b.printed := by
    cases h : b.isOpen with
    | false => exact hOperand h
    | true => exact hSum.bracketed
  have bracketed_isSum {b : Calc Rat} (hSum : ReadsAsSum b.tokens b.printed)
      (hProduct : b.isSum = false → ReadsAsProduct b.tokens b.printed) :
      ReadsAsProduct (bracketedTokens b.isSum b.tokens) b.printed := by
    cases h : b.isSum with
    | false => exact hProduct h
    | true => exact hSum.bracketed.asProduct
  -- What stands after an operator is read while its left operand waits, so it has to be of a stronger kind
  -- than what stands before.
  induction e with
  | length l =>
      have hOperand : ReadsAsOperand (length l).tokens (length l).printed := readsAsOperand_single _
      exact ⟨hOperand.asProduct.asSum, fun _ => hOperand.asProduct, fun _ => hOperand⟩
  | number n =>
      have hOperand : ReadsAsOperand (number n).tokens (number n).printed := readsAsOperand_single _
      exact ⟨hOperand.asProduct.asSum, fun _ => hOperand.asProduct, fun _ => hOperand⟩
  | sum a b hA hB =>
      have hSum := ReadsAsSum.join .plus rfl hA.1 (bracketed_isSum hB.1 hB.2.1)
      exact ⟨hSum, nofun, nofun⟩
  | difference a b hA hB =>
      have hSum := ReadsAsSum.join .minus rfl hA.1 (bracketed_isSum hB.1 hB.2.1)
      exact ⟨hSum.bracketed.asProduct.asSum, fun _ => hSum.bracketed.asProduct, fun _ => hSum.bracketed⟩
  | product a b hA hB =>
      have hProduct := ReadsAsProduct.join .times rfl (bracketed_isSum hA.1 hA.2.1)
        (bracketed_isOpen hB.1 hB.2.2)
      exact ⟨hProduct.asSum, fun _ => hProduct, nofun⟩
  | quotient a b hA hB =>
      have hProduct := ReadsAsProduct.join .divide rfl (bracketed_isSum hA.1 hA.2.1)
        (bracketed_isOpen hB.1 hB.2.2)
      exact ⟨hProduct.asSum, fun _ => hProduct, nofun⟩

/-- The words of an expression are read as that expression, with each of its lengths as it is printed. -/
theorem ofTokens?_tokens (e : Calc Rat) : ofTokens? e.tokens = some e.printed := by
  obtain ⟨sum, last, hRead, hLast⟩ := (reads_tokens e).1 []
  change (readFrom ⟨none, none⟩ [] e.tokens).bind Reading.finish = _
  rw [hRead, ← hLast]
  rfl

/-- The text of an expression reads back as the expression, its lengths as they are printed. -/
theorem parse?_calc (e : Calc Rat) :
    parse? ("calc(" ++ e.css ++ ")") = some e.printed := by
  obtain ⟨found, hFound, hText⟩ := spells_css e
  have hWords : words [] ("calc(" ++ e.css ++ ")").toList =
      ['c', 'a', 'l', 'c'] :: ['('] :: (found ++ [[')']]) := by
    have hName : ("calc(" ++ e.css ++ ")").toList =
        ['c', 'a', 'l', 'c'] ++ '(' :: (e.css.toList ++ [')']) := by
      simp
    have hOpening : Separates ('(' :: (e.css.toList ++ [')'])) := by
      simp [Separates, IsPlain]
    have hClosing : Separates [')'] := by
      simp [Separates, IsPlain]
    rw [hName, words_append (List.cons_ne_nil _ _) (by simp [IsPlain]) hOpening,
      words_parenthesis (Or.inl rfl), hText _ hClosing]
    rfl
  rw [parse?, hWords]
  simp only [List.getLast?_append, List.getLast?_singleton, Option.some_or, and_self, ↓reduceIte,
    List.dropLast_concat, hFound, Option.bind_some, ofTokens?_tokens]

/-- A length on its own reads back as it is printed: as a length again, or as a number if a bare zero was printed. -/
theorem parse?_length (l : Length Rat) : parse? l.css = some l.printed := by
  obtain ⟨hWord, hOperand⟩ := operand?_css l
  have hWords : words [] l.css.toList = [l.css.toList] := by
    have hText := words_append hWord.ne_nil hWord.plain (show Separates [] by simp [Separates])
    simpa [words, flush] using hText
  rw [parse?, hWords]
  exact hOperand

end FlexGrid.Calc
