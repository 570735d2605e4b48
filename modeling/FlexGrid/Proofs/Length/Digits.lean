import FlexGrid.Length.Literal
import Mathlib.Algebra.Order.Field.Rat
import Mathlib.Tactic.FieldSimp
import Mathlib.Tactic.Positivity

/-! Numerals that are written are read back. A decimal with its point in place is a numeral, the longest at the
start of whatever text goes on without a digit or a point, and it spells the decimal. -/
namespace FlexGrid

namespace Decimal

/-- What is written for a number is made of the ten digits only, so no point, sign or unit can be mistaken for a part
of it. -/
theorem isDigit_of_mem_figures {n : Nat} {c : Char} (h : c ∈ figures n) : c.isDigit = true :=
  Nat.isDigit_of_mem_toDigits (by decide) (by decide) h

theorem figures_ne_nil (n : Nat) : figures n ≠ [] :=
  Nat.toDigits_ne_nil

theorem toList_toString (n : Nat) : (toString n).toList = figures n := by
  rw [Nat.toString_eq_ofList_toDigits, String.toList_ofList, figures]

/-- The zeros in front of a padded number are digits as well, so all of it is read as one run of digits. -/
theorem isDigit_of_mem_padded {width n : Nat} {c : Char} (h : c ∈ padded width n) :
    c.isDigit = true := by
  rcases List.mem_append.mp h with h | h
  · rw [List.eq_of_mem_replicate h]
    rfl
  · exact isDigit_of_mem_figures h

/-- A number that has no more than `width` digits is padded to just that many, which fixes the places of its
decimals. -/
theorem length_padded {width n : Nat} (hWidth : 0 < width) (h : n < 10 ^ width) :
    (padded width n).length = width := by
  have hFigures : (figures n).length ≤ width :=
    (Nat.length_toDigits_le_iff (by decide) hWidth).mpr h
  rw [padded, List.length_append, List.length_replicate]
  omega

theorem padded_ne_nil (width n : Nat) : padded width n ≠ [] :=
  List.append_ne_nil_of_right_ne_nil _ (figures_ne_nil n)

/-- The last digit of a number is what it leaves when divided by ten. -/
theorem getLast?_figures (n : Nat) : (figures n).getLast? = some (Nat.digitChar (n % 10)) := by
  rw [figures, Nat.toDigits_eq_if (by decide)]
  split
  · next h => simp [Nat.mod_eq_of_lt h]
  · simp

/-- Padding is put in front of a number and leaves its last digit where it was. -/
theorem getLast?_padded (width n : Nat) : (padded width n).getLast? = some (Nat.digitChar (n % 10)) := by
  simp [padded, List.getLast?_append, getLast?_figures]

/-- More digits never make a number smaller. A reader that compares a number with a limit after each digit can
therefore give up early. -/
theorem le_spelled (value : Nat) (digits : List Nat) : value ≤ spelled value digits := by
  induction digits generalizing value with
  | nil => exact Nat.le_refl value
  | cons digit rest ih => exact Nat.le_trans (by omega) (ih (value * 10 + digit))

/-- Digits are worth what the standard library takes them for. Its lemmas on digits of numbers apply from here on. -/
theorem digitsValue_eq_ofDigitChars (digits : List Char) :
    digitsValue digits = Nat.ofDigitChars 10 digits 0 := by
  rw [digitsValue, spelled, List.foldl_map]
  simp only [digitValue, Nat.ofDigitChars, Nat.mul_comm]

theorem digitsValue_figures (n : Nat) : digitsValue (figures n) = n := by
  rw [digitsValue_eq_ofDigitChars]
  exact Nat.ofDigitChars_toDigits (by decide) (by decide)

/-- Two runs of digits side by side: the front one is moved up by as many places as the back one has digits. -/
theorem digitsValue_append (front back : List Char) :
    digitsValue (front ++ back) = 10 ^ back.length * digitsValue front + digitsValue back := by
  simp only [digitsValue_eq_ofDigitChars]
  rw [Nat.ofDigitChars_append, Nat.ofDigitChars_eq_ofDigitChars_zero]

/-- The zeros in front of a padded number are worth nothing, so it is read back as the number that was padded. -/
theorem digitsValue_padded (width n : Nat) : digitsValue (padded width n) = n := by
  rw [padded, digitsValue_append, digitsValue_figures, digitsValue_eq_ofDigitChars,
    Nat.ofDigitChars_replicate_zero]
  simp

end Decimal

namespace Length

open Decimal

namespace Digits

/-- A numeral as text: its digits, with a point if some of them follow it. -/
def text (d : Digits) : List Char :=
  d.integer ++ if d.fraction = [] then [] else '.' :: d.fraction

/-- What the fields of a numeral that is read are known to hold: at least one digit before the point, and nothing but
digits on both sides of it. -/
structure IsNumeral (d : Digits) : Prop where
  integer_ne_nil : d.integer ≠ []
  isDigit_integer : ∀ c ∈ d.integer, c.isDigit = true
  isDigit_fraction : ∀ c ∈ d.fraction, c.isDigit = true

/-- Whether a numeral has at most `places` decimals, the last of which is not a zero. -/
structure IsShort (places : Nat) (d : Digits) : Prop where
  length_le : d.fraction.length ≤ places
  getLast?_ne : d.fraction.getLast? ≠ some '0'

/-- The numeral of `n / 10 ^ places`, with as many decimals as there are places, zeros at the end included. -/
def ofFraction (n : Nat) : Nat → Digits
  | 0 => ⟨figures n, []⟩
  | places + 1 =>
      ⟨figures (n / 10 ^ (places + 1)), padded (places + 1) (n % 10 ^ (places + 1))⟩

/-- A fraction is a numeral however many decimals it is given: it has a digit in front of the point, and none of its
marks is anything but a digit. -/
theorem isNumeral_ofFraction (n places : Nat) : (ofFraction n places).IsNumeral := by
  cases places with
  | zero =>
      exact ⟨figures_ne_nil n, fun _ => isDigit_of_mem_figures, fun _ h => by cases h⟩
  | succ places =>
      exact ⟨figures_ne_nil _, fun _ => isDigit_of_mem_figures, fun _ => isDigit_of_mem_padded⟩

theorem length_fraction_ofFraction (n places : Nat) : (ofFraction n places).fraction.length = places := by
  cases places with
  | zero => rfl
  | succ places => exact length_padded (Nat.succ_pos places) (Nat.mod_lt n (Nat.pow_pos (by decide)))

/-- A fraction that cannot be written with fewer decimals has no zero at their end. -/
theorem isShort_ofFraction {n places limit : Nat} (hLimit : places ≤ limit) (hLast : 0 < places → n % 10 ≠ 0) :
    (ofFraction n places).IsShort limit := by
  refine ⟨by rwa [length_fraction_ofFraction], ?_⟩
  cases places with
  | zero => simp [ofFraction]
  | succ places =>
      have hDigit : n % 10 ^ (places + 1) % 10 = n % 10 :=
        Nat.mod_mod_of_dvd n (Dvd.intro_left (10 ^ places) rfl)
      simpa [ofFraction, getLast?_padded, hDigit] using hLast (Nat.succ_pos places)

/-- In exact arithmetic a numeral is one fraction: all of its digits read as a whole number, over the power of ten
that its decimals call for. -/
theorem value_eq (d : Digits) :
    (d.value : Rat) = digitsValue (d.integer ++ d.fraction) / 10 ^ d.fraction.length := by
  have hPow : Nat.pow 10 d.fraction.length = 10 ^ d.fraction.length := rfl
  change mkRat _ _ = _
  rw [Rat.mkRat_eq_div, hPow]
  push_cast
  rfl

/-- The numeral of a fraction is worth that fraction, for what is cut off in front of the point comes back behind
it. -/
theorem value_ofFraction (n places : Nat) :
    ((ofFraction n places).value : Rat) = n / 10 ^ places := by
  rw [value_eq]
  cases places with
  | zero => simp [ofFraction, digitsValue_figures]
  | succ places =>
      have hLength : (padded (places + 1) (n % 10 ^ (places + 1))).length = places + 1 :=
        length_fraction_ofFraction n (places + 1)
      rw [ofFraction, digitsValue_append, hLength, digitsValue_figures, digitsValue_padded,
        Nat.div_add_mod]

/-- A decimal with its point in place is the text of a numeral, so what is shown of numerals holds of what is
printed. -/
theorem positional_eq_text (n places : Nat) :
    (⟨n, -(places : Int)⟩ : Decimal).positional = (ofFraction n places).text := by
  cases places with
  | zero => simp [positional, ofFraction, text]
  | succ places =>
      change _ = figures (n / 10 ^ (places + 1)) ++ if padded _ _ = [] then _ else _
      rw [if_neg (padded_ne_nil _ _)]
      rfl

end Digits

/-- Digits that are followed by none are found as they are. -/
theorem span_digits {digits rest : List Char} (hDigits : ∀ c ∈ digits, c.isDigit = true)
    (hRest : ∀ c ∈ rest.head?, c.isDigit = false) :
    (digits ++ rest).takeWhile Char.isDigit = digits ∧
      (digits ++ rest).dropWhile Char.isDigit = rest := by
  have hNone : rest.takeWhile Char.isDigit = [] ∧ rest.dropWhile Char.isDigit = rest := by
    cases rest with
    | nil => exact ⟨rfl, rfl⟩
    | cons c cs => simp [hRest c rfl]
  rw [List.takeWhile_append_of_pos hDigits, List.dropWhile_append_of_pos hDigits, hNone.1, hNone.2,
    List.append_nil]
  exact ⟨rfl, rfl⟩

/-- The longest numeral at the start of a text is the one that was written there. -/
theorem splitNumeral_text {d : Digits} (h : d.IsNumeral) {rest : List Char}
    (hRest : ∀ c ∈ rest.head?, c.isDigit = false ∧ c ≠ '.') :
    splitNumeral (d.text ++ rest) = some (d, rest) := by
  obtain ⟨integer, fraction⟩ := d
  obtain ⟨hInteger, hIntegerDigits, hFractionDigits⟩ := h
  have hNoDigit : ∀ c ∈ rest.head?, c.isDigit = false := fun c hc => (hRest c hc).1
  have hSome : ¬integer.isEmpty = true := by simpa using hInteger
  by_cases hFraction : fraction = []
  · subst fraction
    obtain ⟨hTake, hDrop⟩ := span_digits hIntegerDigits hNoDigit
    rw [Digits.text, if_pos rfl, List.append_nil, splitNumeral, hTake, hDrop, if_neg hSome]
    split
    · exact absurd rfl (hRest '.' rfl).2
    · rfl
  · have hPoint : ∀ c ∈ ('.' :: (fraction ++ rest)).head?, c.isDigit = false := by simp
    obtain ⟨hTake, hDrop⟩ := span_digits hIntegerDigits hPoint
    obtain ⟨hTakeFraction, hDropFraction⟩ := span_digits hFractionDigits hNoDigit
    have hSomeFraction : ¬fraction.isEmpty = true := by simpa using hFraction
    rw [Digits.text, if_neg hFraction, List.append_assoc, List.cons_append, splitNumeral, hTake,
      hDrop, if_neg hSome]
    simp only [hTakeFraction, hDropFraction, if_neg hSomeFraction]

/-- The suffixes of units begin with a letter or a percent sign. So a numeral with its unit is split where the one
ends and the other begins. -/
theorem splitNumeral_suffix {d : Digits} (h : d.IsNumeral) (unit : LengthUnit) :
    splitNumeral (d.text ++ unit.suffix.toList) = some (d, unit.suffix.toList) := by
  apply splitNumeral_text h
  cases unit <;> simp [LengthUnit.suffix]

end Length

end FlexGrid
