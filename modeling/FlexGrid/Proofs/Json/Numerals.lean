import FlexGrid.Json.Token
import FlexGrid.Proofs.Length.Digits

/-! JSON numerals inside a text. What a numeral stands for depends on its own characters, not on the position it stands
at, nor on what follows it as long as that does not go on with the numeral. Whole numbers of up to 64 bits are always
written as numerals that stand for them; a double is written as a numeral, whatever that stands for. -/
namespace FlexGrid.Json

/-- A text that does not go on with a numeral before it. The end of a text stops a numeral, and so does every
character that may follow a value in a document. -/
def Stops (cs : List Char) : Prop :=
  ∀ c ∈ cs.head?, c.isDigit = false ∧ c ≠ '.' ∧ c ≠ 'e' ∧ c ≠ 'E'

theorem Stops.isDigit {cs : List Char} (h : Stops cs) : ∀ c ∈ cs.head?, c.isDigit = false :=
  fun c hc => (h c hc).1

/-- One or more digits. -/
structure IsRun (digits : List Char) : Prop where
  ne_nil : digits ≠ []
  isDigit : ∀ c ∈ digits, c.isDigit = true

/-- A run has a first digit, which is what a reader looks at to see that a numeral begins. -/
theorem IsRun.exists_cons {digits : List Char} (h : IsRun digits) :
    ∃ c cs, digits = c :: cs ∧ c.isDigit = true := by
  obtain ⟨c, cs, rfl⟩ := List.exists_cons_of_ne_nil h.ne_nil
  exact ⟨c, cs, rfl, h.isDigit c List.mem_cons_self⟩

/-- A numeral without its sign, as it is written: the digits before the point, those behind it if there is one, and
the exponent if there is one. -/
structure Figures where
  integer : List Char
  fraction : Option (List Char)
  /-- Whether the exponent is negative, the characters before its digits, and its digits. -/
  exponent : Option (Bool × List Char × List Char)

/-- The characters of an exponent before its digits, and whether they make it negative. -/
inductive Opens : Bool → List Char → Prop where
  | unsigned {mark : Char} : mark = 'e' ∨ mark = 'E' → Opens false [mark]
  | plus {mark : Char} : mark = 'e' ∨ mark = 'E' → Opens false [mark, '+']
  | minus {mark : Char} : mark = 'e' ∨ mark = 'E' → Opens true [mark, '-']

theorem Opens.exists_mark {negative : Bool} {opening : List Char} (h : Opens negative opening) :
    ∃ mark sign, opening = mark :: sign ∧ (mark = 'e' ∨ mark = 'E') := by
  cases h with
  | unsigned hMark => exact ⟨_, _, rfl, hMark⟩
  | plus hMark => exact ⟨_, _, rfl, hMark⟩
  | minus hMark => exact ⟨_, _, rfl, hMark⟩

namespace Figures

/-- The characters of a numeral from its point on, up to its exponent. There are none if nothing stands behind the
point. -/
def point (f : Figures) : List Char :=
  f.fraction.elim [] ('.' :: ·)

/-- The characters of an exponent, with the mark that opens it. -/
def power (f : Figures) : List Char :=
  f.exponent.elim [] fun e => e.2.1 ++ e.2.2

/-- All characters of a numeral but its sign. -/
def text (f : Figures) : List Char :=
  f.integer ++ (f.point ++ f.power)

/-- What a reader keeps of a numeral that has this sign: the values of its digits, and not how they were written. -/
def parts (f : Figures) (negative : Bool) : NumeralParts where
  negative
  integer := f.integer.map Decimal.digitValue
  fraction := f.fraction.map (·.map Decimal.digitValue)
  exponent := f.exponent.map fun (negative, _, digits) => (negative, digits.map Decimal.digitValue)

/-- What the fields of a numeral hold: digits where digits have to be, and no zero in front of other digits, as the
grammar of documents has it. -/
structure IsWritten (f : Figures) : Prop where
  integer : IsRun f.integer
  no_leading_zero : ∀ second rest, f.integer ≠ '0' :: second :: rest
  fraction : ∀ digits ∈ f.fraction, IsRun digits
  exponent : ∀ e ∈ f.exponent, Opens e.1 e.2.1 ∧ IsRun e.2.2

/-- A numeral begins with its sign or with a digit, and so does no other value. -/
theorem IsWritten.exists_cons {f : Figures} (h : f.IsWritten) (negative : Bool) :
    ∃ c cs, signText negative ++ f.text = c :: cs ∧ (c = '-' ∨ c.isDigit = true) := by
  cases negative with
  | true => exact ⟨'-', f.text, rfl, .inl rfl⟩
  | false =>
      obtain ⟨c, cs, hInteger, hDigit⟩ := h.integer.exists_cons
      refine ⟨c, cs ++ (f.point ++ f.power), ?_, .inr hDigit⟩
      rw [Figures.text, hInteger]
      rfl

/-- What follows the digits of a numeral up to its exponent goes on neither with a digit nor with a point. -/
theorem head_power {f : Figures} (h : f.IsWritten) {rest : List Char} (hRest : Stops rest) :
    ∀ c ∈ (f.power ++ rest).head?, c.isDigit = false ∧ c ≠ '.' := by
  obtain ⟨integer, fraction, exponent⟩ := f
  cases exponent with
  | none => exact fun c hc => ⟨(hRest c hc).1, (hRest c hc).2.1⟩
  | some e =>
      obtain ⟨negative, opening, digits⟩ := e
      obtain ⟨mark, sign, hOpening, hMark⟩ := (h.exponent _ rfl).1.exists_mark
      obtain rfl : opening = mark :: sign := hOpening
      intro c hc
      cases hc
      rcases hMark with rfl | rfl <;> decide

theorem head_point (f : Figures) {rest : List Char} (hRest : ∀ c ∈ rest.head?, c.isDigit = false) :
    ∀ c ∈ (f.point ++ rest).head?, c.isDigit = false := by
  obtain ⟨integer, fraction, exponent⟩ := f
  cases fraction with
  | none => exact hRest
  | some digits =>
      intro c hc
      cases hc
      rfl

end Figures

/-- A run is read whole if it is not followed by another digit, at whatever position it stands. -/
theorem scanDigits_append {digits rest : List Char} (h : IsRun digits)
    (hRest : ∀ c ∈ rest.head?, c.isDigit = false) (p : Position) (atOther : Char → Position) :
    scanDigits p atOther (digits ++ rest) = .ok (digits, rest) := by
  obtain ⟨hTake, hDrop⟩ := Length.span_digits h.isDigit hRest
  obtain ⟨c, cs, rfl, hc⟩ := h.exists_cons
  rw [List.cons_append] at hTake hDrop ⊢
  rw [scanDigits, if_pos hc, hTake, hDrop]

/-- The integer of a numeral is read whole. A zero that leads it is all of it, and that is why none may lead other
digits. -/
theorem scanInteger_append {f : Figures} (h : f.IsWritten) {rest : List Char}
    (hRest : ∀ c ∈ rest.head?, c.isDigit = false) (p : Position) :
    scanInteger p (f.integer ++ rest) = .ok (f.integer, rest) := by
  rw [scanInteger, scanDigits_append h.integer hRest]
  dsimp only [bind, Except.bind]
  split
  · next second others hInteger => exact absurd hInteger (h.no_leading_zero second others)
  · rfl

/-- The digits behind the point are read whole, and where there is no point, nothing is read. -/
theorem scanFraction_append {f : Figures} (h : f.IsWritten) {rest : List Char}
    (hRest : ∀ c ∈ rest.head?, c.isDigit = false ∧ c ≠ '.') (p : Position) :
    scanFraction p (f.point ++ rest) = .ok (f.fraction, rest) := by
  obtain ⟨integer, fraction, exponent⟩ := f
  cases fraction with
  | none =>
      change scanFraction p rest = _
      unfold scanFraction
      split
      · exact absurd rfl (hRest '.' rfl).2
      · rfl
  | some digits =>
      change scanFraction p ('.' :: (digits ++ rest)) = _
      rw [scanFraction, scanDigits_append (h.fraction digits rfl) fun c hc => (hRest c hc).1]
      rfl

/-- The sign of an exponent is known by its first character, and a digit is none. -/
theorem scanSign_of_isDigit {c : Char} (h : c.isDigit = true) (cs : List Char) :
    scanSign (c :: cs) = (false, [], c :: cs) := by
  unfold scanSign
  split
  · next hSame =>
    cases hSame
    cases h
  · next hSame =>
    cases hSame
    cases h
  · rfl

/-- The exponent of a numeral is read whole, with any of the ways to open it, and where there is none, nothing is
read. -/
theorem scanExponent_append {f : Figures} (h : f.IsWritten) {rest : List Char} (hRest : Stops rest)
    (p : Position) : scanExponent p (f.power ++ rest) = .ok f.exponent := by
  obtain ⟨integer, fraction, exponent⟩ := f
  cases exponent with
  | none =>
      cases rest with
      | nil => rfl
      | cons c cs => exact if_neg (not_or.mpr (hRest c rfl).2.2)
  | some e =>
      obtain ⟨negative, opening, digits⟩ := e
      obtain ⟨hOpens, hDigits⟩ := h.exponent _ rfl
      have hScan := scanDigits_append hDigits hRest.isDigit
      -- Whatever opens the exponent, its sign is read off and the digits are left.
      have hRead {mark : Char} (sign : List Char) (hMark : mark = 'e' ∨ mark = 'E')
          (hSign : scanSign (sign ++ (digits ++ rest)) = (negative, sign, digits ++ rest)) :
          scanExponent p (mark :: (sign ++ (digits ++ rest))) =
            .ok (some (negative, mark :: sign, digits)) := by
        rw [scanExponent, if_pos hMark, hSign]
        dsimp only
        rw [hScan]
        rfl
      obtain ⟨c, cs, rfl, hc⟩ := hDigits.exists_cons
      cases hOpens with
      | unsigned hMark => exact hRead [] hMark (scanSign_of_isDigit hc _)
      | plus hMark => exact hRead ['+'] hMark rfl
      | minus hMark => exact hRead ['-'] hMark rfl

/-- A numeral is read to its end, and it either stands for a number or is out of range. -/
theorem scanNumeral_append {f : Figures} (h : f.IsWritten) {rest : List Char} (hRest : Stops rest)
    (negative : Bool) (p : Position) :
    ∃ fault stop, scanNumeral negative p (f.text ++ rest) =
      .ok ⟨.number ((f.parts negative).value?.elim (.error fault) .ok), stop, f.text.length⟩ := by
  have hPower := Figures.head_power h hRest
  have hPoint := f.head_point fun c hc => (hPower c hc).1
  have hLength : f.integer.length + f.point.length + (f.exponent.elim ([], []) (·.2)).1.length +
      (f.exponent.elim ([], []) (·.2)).2.length = (f.integer ++ (f.point ++ f.power)).length := by
    rw [Figures.power]
    cases f.exponent <;> simp [Nat.add_assoc]
  rw [scanNumeral, Figures.text, List.append_assoc, List.append_assoc, scanInteger_append h hPoint]
  dsimp only [bind, Except.bind]
  rw [scanFraction_append h hPower]
  dsimp only
  rw [scanExponent_append h hRest, ← hLength]
  dsimp only
  cases hValue : (f.parts negative).value? with
  | some n =>
      dsimp only [Figures.parts] at hValue
      rw [hValue]
      exact ⟨⟨.numberOutOfRange, p⟩, _, rfl⟩
  | none =>
      dsimp only [Figures.parts] at hValue
      rw [hValue]
      exact ⟨_, _, rfl⟩

/-- Where a value begins with a sign or a digit, a numeral is read. -/
theorem scan_of_number {c : Char} (h : c = '-' ∨ c.isDigit = true) (p : Position) (cs : List Char) :
    scan p c cs = scanNumber p c cs := by
  unfold scan
  split
  case h_11 => exact if_pos h
  all_goals exact absurd h (by decide)

/-- A numeral with its sign is one token: the scan takes it whole, wherever it stands in a text, if nothing goes on
with it. -/
theorem scan_numeral {f : Figures} (h : f.IsWritten) {rest : List Char} (hRest : Stops rest)
    {negative : Bool} {c : Char} {cs : List Char} (hText : signText negative ++ f.text = c :: cs)
    (p : Position) :
    ∃ fault stop, scan p c (cs ++ rest) =
      ⟨.number ((f.parts negative).value?.elim (.error fault) .ok), stop, cs.length⟩ := by
  cases negative with
  | true =>
      obtain ⟨rfl, rfl⟩ : '-' = c ∧ f.text = cs := List.cons.inj hText
      obtain ⟨fault, stop, hScan⟩ := scanNumeral_append h hRest true (p.after '-')
      refine ⟨fault, stop, ?_⟩
      rw [scan_of_number (.inl rfl), scanNumber, if_pos rfl, hScan]
  | false =>
      obtain ⟨first, others, hInteger, hDigit⟩ := h.integer.exists_cons
      have hStart : f.text = first :: (others ++ (f.point ++ f.power)) := by
        rw [Figures.text, hInteger, List.cons_append]
      obtain ⟨rfl, rfl⟩ := List.cons.inj (hStart.symm.trans hText)
      obtain ⟨fault, stop, hScan⟩ := scanNumeral_append h hRest false p
      refine ⟨fault, stop, ?_⟩
      have hNoSign : first ≠ '-' := by
        rintro rfl
        cases hDigit
      rw [scan_of_number (.inr hDigit), scanNumber, if_neg hNoSign, ← List.cons_append, ← hStart, hScan,
        hStart]
      rfl

section

open Decimal

theorem isRun_figures (n : Nat) : IsRun (figures n) :=
  ⟨figures_ne_nil n, fun _ => isDigit_of_mem_figures⟩

theorem isRun_padded (width n : Nat) : IsRun (padded width n) :=
  ⟨padded_ne_nil width n, fun _ => isDigit_of_mem_padded⟩

/-- The digits of a positive number do not begin with a zero. -/
theorem head_figures {n : Nat} (h : 0 < n) : (figures n).head? ≠ some '0' := by
  induction n using Nat.strongRecOn with
  | ind n ih =>
    rw [figures, Nat.toDigits_eq_if (by decide)]
    split
    · next hDigit =>
      have hDigits : ∀ n < 10, 0 < n → [Nat.digitChar n].head? ≠ some '0' := by decide
      exact hDigits n hDigit h
    · have hFront := ih (n / 10) (by omega) (by omega)
      rw [figures] at hFront
      rwa [List.head?_append_of_ne_nil _ Nat.toDigits_ne_nil]

/-- No number is written with a zero in front of other digits. -/
theorem figures_no_leading_zero (n : Nat) (second : Char) (rest : List Char) :
    figures n ≠ '0' :: second :: rest := by
  intro h
  rcases Nat.eq_zero_or_pos n with rfl | hPos
  · cases h
  · exact head_figures hPos (by rw [h]; rfl)

/-- The numeral of a whole number. -/
def Figures.ofNat (n : Nat) : Figures :=
  ⟨figures n, none, none⟩

/-- A whole number is written as a numeral of digits alone. -/
theorem Figures.isWritten_ofNat (n : Nat) : (Figures.ofNat n).IsWritten where
  integer := isRun_figures n
  no_leading_zero := figures_no_leading_zero n
  fraction := by simp [ofNat]
  exponent := by simp [ofNat]

/-- A decimal with its point in place is written as a numeral without an exponent, and without a fraction if it is
whole. -/
theorem exists_figures_positional (d : Decimal) :
    ∃ f, Figures.IsWritten f ∧ f.exponent = none ∧ (d.isWhole = true → f.fraction = none) ∧
      d.positional = f.text := by
  obtain ⟨digits, exponent⟩ := d
  cases exponent with
  | ofNat zeros =>
      exact ⟨.ofNat _, Figures.isWritten_ofNat _, rfl, fun _ => rfl, (List.append_nil _).symm⟩
  | negSucc n =>
      refine ⟨⟨figures (digits / Nat.pow 10 (n + 1)),
        some (padded (n + 1) (digits % Nat.pow 10 (n + 1))), none⟩, ?_, rfl, nofun, ?_⟩
      · refine ⟨isRun_figures _, figures_no_leading_zero _, ?_, nofun⟩
        rintro _ ⟨⟩
        exact isRun_padded _ _
      · simp [positional, Figures.text, Figures.point, Figures.power]

/-- One digit with a fraction and an exponent behind it is a numeral: a single digit leads no others. -/
theorem Figures.isWritten_of_opens {first : Char} {fraction : Option (List Char)} {negative : Bool}
    {opening digits : List Char} (hFirst : first.isDigit = true) (hFraction : ∀ digits ∈ fraction, IsRun digits)
    (hOpens : Opens negative opening) (hDigits : IsRun digits) :
    IsWritten ⟨[first], fraction, some (negative, opening, digits)⟩ where
  integer := ⟨List.cons_ne_nil _ _, List.forall_mem_singleton.mpr hFirst⟩
  no_leading_zero := by simp
  fraction := hFraction
  exponent := by
    rintro _ ⟨⟩
    exact ⟨hOpens, hDigits⟩

/-- A decimal in scientific notation is written as a numeral with one digit in front of its point. -/
theorem exists_figures_scientific (d : Decimal) :
    ∃ f, Figures.IsWritten f ∧ d.scientific = f.text := by
  obtain ⟨hSome, hDigits⟩ := isRun_figures d.digits
  unfold Decimal.scientific
  generalize figures d.digits = digits at hSome hDigits ⊢
  rcases digits with _ | ⟨first, _ | ⟨second, rest⟩⟩
  · exact absurd rfl hSome
  · have hFirst := hDigits first List.mem_cons_self
    have hFraction : ∀ digits ∈ (none : Option (List Char)), IsRun digits := by simp
    cases d.leading with
    | ofNat n => exact ⟨_, Figures.isWritten_of_opens hFirst hFraction (.plus (.inl rfl)) (isRun_figures n), rfl⟩
    | negSucc n =>
        exact ⟨_, Figures.isWritten_of_opens hFirst hFraction (.minus (.inl rfl)) (isRun_figures (n + 1)), rfl⟩
  · obtain ⟨hFirst, hRest⟩ := List.forall_mem_cons.mp hDigits
    have hFraction : ∀ digits ∈ some (second :: rest), IsRun digits := by
      rintro _ ⟨⟩
      exact ⟨List.cons_ne_nil _ _, hRest⟩
    cases d.leading with
    | ofNat n => exact ⟨_, Figures.isWritten_of_opens hFirst hFraction (.plus (.inl rfl)) (isRun_figures n), rfl⟩
    | negSucc n =>
        exact ⟨_, Figures.isWritten_of_opens hFirst hFraction (.minus (.inl rfl)) (isRun_figures (n + 1)), rfl⟩

/-- What is written for a double is a numeral, in plain notation as well as with an exponent, so it can be read by the
rules for numerals. -/
theorem exists_figures_of_doubleText {x : Float} {text : String} (h : doubleText x = some text) :
    ∃ negative f, Figures.IsWritten f ∧ text.toList = signText negative ++ f.text := by
  unfold doubleText at h
  split at h
  · next negative d hNumeral =>
    cases h
    simp only [String.toList_ofList]
    refine ⟨negative, ?_⟩
    split
    · obtain ⟨f, hf, hText⟩ := exists_figures_scientific d
      exact ⟨f, hf, congrArg _ hText⟩
    · obtain ⟨f, hf, hExponent, hFraction, hText⟩ := exists_figures_positional d
      split
      · next hWhole =>
        refine ⟨{ f with fraction := some ['0'] }, ⟨hf.integer, hf.no_leading_zero, ?_, hf.exponent⟩, ?_⟩
        · rintro _ ⟨⟩
          exact ⟨List.cons_ne_nil _ _, List.forall_mem_singleton.mpr rfl⟩
        · rw [hText]
          simp [Figures.text, Figures.point, Figures.power, hExponent, hFraction hWhole]
      · exact ⟨f, hf, congrArg _ hText⟩
  · cases h
  · cases h

end

section

/-- Of a number that fits, every digit is taken. The reader gives up digits only where the next one would be too
much. -/
theorem significand_of_lt {digits : List Nat} {value : Nat} (h : Decimal.spelled value digits < Nat.pow 2 64) :
    significand value digits = (Decimal.spelled value digits, 0) := by
  induction digits generalizing value with
  | nil => rfl
  | cons digit rest ih =>
      rw [significand, if_pos (Nat.lt_of_le_of_lt (Decimal.le_spelled _ rest) h)]
      exact ih h

/-- A whole number of up to 64 bits is what its numeral stands for: none of its digits is left over for a power of
ten. -/
theorem value?_ofNat {n : Nat} (h : n < Nat.pow 2 64) :
    ((Figures.ofNat n).parts false).value? = some (.whole n) := by
  have hValue : Decimal.spelled 0 ((Decimal.figures n).map Decimal.digitValue) = n :=
    Decimal.digitsValue_figures n
  have hAll := significand_of_lt (hValue.symm ▸ h)
  rw [hValue] at hAll
  rw [NumeralParts.value?]
  dsimp only [Figures.parts, Figures.ofNat]
  rw [hAll]
  rfl

end

/-- Whether a number is written as a numeral that stands for it. -/
def Number.IsSpelled (n : Number) : Prop :=
  ∃ negative f, Figures.IsWritten f ∧ n.text.toList = signText negative ++ f.text ∧
    (f.parts negative).value? = some n

/-- A whole number of up to 64 bits is written as a numeral that stands for it. -/
theorem Number.isSpelled_whole {n : Nat} (h : n < Nat.pow 2 64) : (Number.whole n).IsSpelled := by
  refine ⟨false, .ofNat n, Figures.isWritten_ofNat n, ?_, value?_ofNat h⟩
  change (toString n).toList = _
  rw [Decimal.toList_toString]
  exact (List.append_nil _).symm

end FlexGrid.Json
