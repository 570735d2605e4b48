import FlexGrid.Proofs.Length.Digits
import Mathlib.Data.Nat.Prime.Basic
import Mathlib.Data.Nat.Factorization.Basic
import Mathlib.Data.Rat.Lemmas
import Mathlib.Tactic.Linarith
import Mathlib.Tactic.Ring

/-! What is written for an exact length. Its number is rounded to ten-thousandths, which moves it by half of one
at most and not at all if it is a whole number of them, and a rounded number is written to its last digit. -/
namespace FlexGrid

namespace Exact

theorem floor_add_half_intCast (k : Int) : ((k : Rat) + 1 / 2).floor = k := by
  apply Int.le_antisymm
  · refine Int.lt_add_one_iff.mp (Rat.floor_lt_iff.mpr ?_)
    push_cast
    linarith
  · rw [Rat.le_floor_iff]
    linarith

/-- A half on top of a number, cut down to a whole one, is a whole number next to it. Both ways of rounding, for
numbers below zero and for the others, are made from this. -/
theorem abs_floor_add_half_sub_le (q : Rat) : |((q + 1 / 2).floor : Rat) - q| ≤ 1 / 2 := by
  have hLe := Rat.floor_le (q + 1 / 2)
  have hLt := Rat.lt_floor_add_one (q + 1 / 2)
  push_cast at hLt
  rw [abs_le]
  constructor <;> linarith

/-- A whole number is rounded to itself, also below zero, where the sign is taken off before and put back after. -/
theorem round_intCast (k : Int) : round (k : Rat) = k := by
  rw [round]
  split_ifs
  · rw [← Int.cast_neg k, floor_add_half_intCast, Int.cast_neg, neg_neg]
  · rw [floor_add_half_intCast]

/-- The nearest whole number is at most a half away, also below zero, where the sign is taken off before a number is
rounded. -/
theorem abs_round_sub_le (q : Rat) : |round q - q| ≤ 1 / 2 := by
  rw [round]
  split_ifs
  · have hNeg := abs_floor_add_half_sub_le (-q)
    rwa [abs_sub_comm, neg_sub_comm] at hNeg
  · exact abs_floor_add_half_sub_le q

theorem floor_add_half_nonneg {q : Rat} (h : 0 ≤ q) : 0 ≤ (q + 1 / 2).floor := by
  rw [Rat.le_floor_iff]
  push_cast
  linarith

/-- From a half on a number is rounded up. Below it there is nothing left. -/
theorem floor_add_half_eq_zero_iff {q : Rat} (h : 0 ≤ q) : (q + 1 / 2).floor = 0 ↔ q < 1 / 2 := by
  have hNonneg := floor_add_half_nonneg h
  have hLess : (q + 1 / 2).floor < 1 ↔ q < 1 / 2 := by
    rw [Rat.floor_lt_iff]
    push_cast
    constructor <;> intro h <;> linarith
  rw [← hLess]
  omega

/-- Just the numbers that are less than a half are rounded to zero. -/
theorem round_eq_zero_iff (q : Rat) : round q = 0 ↔ |q| < 1 / 2 := by
  rw [round]
  split_ifs with hNegative
  · rw [neg_eq_zero, Rat.intCast_eq_zero_iff, abs_of_neg hNegative]
    exact floor_add_half_eq_zero_iff (by linarith)
  · have hNonneg : 0 ≤ q := not_lt.mp hNegative
    rw [Rat.intCast_eq_zero_iff, abs_of_nonneg hNonneg]
    exact floor_add_half_eq_zero_iff hNonneg

theorem round_nonneg {q : Rat} (h : 0 ≤ q) : 0 ≤ round q := by
  rw [round, if_neg (not_lt.mpr h)]
  exact_mod_cast floor_add_half_nonneg h

theorem exists_round_eq (q : Rat) : ∃ k : Int, round q = k := by
  rw [round]
  split_ifs
  · exact ⟨-(-q + 1 / 2).floor, by push_cast; rfl⟩
  · exact ⟨_, rfl⟩

/-- A divisor of a power of ten divides one whose exponent is at most its number of binary digits after the
first. -/
theorem exists_dvd_pow_le_log2 {d n : Nat} (h : d ∣ 10 ^ n) : ∃ k ≤ d.log2, d ∣ 10 ^ k := by
  have hFactors : d ∣ 2 ^ n * 5 ^ n := by rwa [← Nat.mul_pow]
  obtain ⟨twos, fives, hTwos, hFives, rfl⟩ := Nat.dvd_mul.mp hFactors
  obtain ⟨a, -, rfl⟩ := (Nat.dvd_prime_pow Nat.prime_two).mp hTwos
  obtain ⟨b, -, rfl⟩ := (Nat.dvd_prime_pow Nat.prime_five).mp hFives
  refine ⟨max a b, ?_, ?_⟩
  · rw [Nat.le_log2 (by positivity)]
    calc
      2 ^ max a b ≤ 2 ^ (a + b) := Nat.pow_le_pow_right (by decide) (by omega)
      _ = 2 ^ a * 2 ^ b := Nat.pow_add 2 a b
      _ ≤ 2 ^ a * 5 ^ b := Nat.mul_le_mul_left _ (Nat.pow_le_pow_left (by decide) b)
  · rw [show (10 : Nat) = 2 * 5 from rfl, Nat.mul_pow]
    exact Nat.mul_dvd_mul (Nat.pow_dvd_pow 2 (Nat.le_max_left a b))
      (Nat.pow_dvd_pow 5 (Nat.le_max_right a b))

/-- No fewer decimals suffice for a fraction that has a finite decimal. -/
theorem isLeast_places {d n : Nat} (h : d ∣ 10 ^ n) : IsLeast {k | d ∣ 10 ^ k} (places d) := by
  obtain ⟨k, hk, hDvd⟩ := exists_dvd_pow_le_log2 h
  have hSome : ((List.range (d.log2 + 1)).find? fun p => Nat.pow 10 p % d == 0).isSome := by
    rw [List.find?_isSome]
    refine ⟨k, List.mem_range.mpr (Nat.lt_succ_of_le hk), ?_⟩
    rw [beq_iff_eq]
    exact Nat.mod_eq_zero_of_dvd hDvd
  obtain ⟨p, hp⟩ := Option.isSome_iff_exists.mp hSome
  obtain ⟨hFound, -, hEarlier⟩ := List.find?_range_eq_some.mp hp
  rw [places, hp, Option.getD_some]
  constructor
  · rw [beq_iff_eq] at hFound
    exact Nat.dvd_of_mod_eq_zero hFound
  · intro j hj
    by_contra hLess
    have hNone := hEarlier j (by omega)
    rw [Bool.not_eq_true', beq_eq_false_iff_ne] at hNone
    exact hNone (Nat.mod_eq_zero_of_dvd hj)

/-- A finite decimal is written out in full, and without a zero at the end of its decimals. -/
theorem numeral_eq {q : Rat} {n : Nat} (h : q.den ∣ 10 ^ n) :
    ∃ digits places : Nat, numeral q = .finite (q < 0) ⟨digits, -(places : Int)⟩ ∧
      |q| = digits / 10 ^ places ∧ places ≤ n ∧ (0 < places → digits % 10 ≠ 0) := by
  obtain ⟨hDvd, hLeast⟩ := isLeast_places h
  obtain ⟨c, hc⟩ := hDvd
  have hDigits : q.num.natAbs * 10 ^ places q.den / q.den = q.num.natAbs * c := by
    rw [hc, Nat.mul_left_comm, Nat.mul_div_cancel_left _ q.den_pos]
  refine ⟨q.num.natAbs * c, places q.den, ?_, ?_, hLeast h, ?_⟩
  · rw [← hDigits]
    simp only [numeral, Rat.num_neg]
    rfl
  · have hDen : (q.den : Rat) ≠ 0 := by exact_mod_cast q.den_nz
    have hc' : (c : Rat) ≠ 0 := by
      rintro hZero
      rw [Nat.cast_eq_zero.mp hZero, Nat.mul_zero] at hc
      exact absurd hc (by positivity)
    have hPow : (10 : Rat) ^ places q.den = q.den * c := by exact_mod_cast hc
    rw [hPow, Rat.abs_def, Rat.divInt_eq_div]
    have hNum : (q.num.natAbs : Rat) = |(q.num : Rat)| := by
      rw [Nat.cast_natAbs, Int.cast_abs]
    push_cast
    rw [hNum]
    field_simp
  · -- A zero at the end would leave a decimal with one place less.
    intro hPositive hZero
    obtain ⟨p, hp⟩ := Nat.exists_eq_add_one.mpr hPositive
    obtain ⟨m, hm⟩ := Nat.dvd_of_mod_eq_zero hZero
    have hLess : q.num.natAbs * 10 ^ p = q.den * m := by
      apply Nat.eq_of_mul_eq_mul_left (by decide : 0 < 10)
      calc
        10 * (q.num.natAbs * 10 ^ p) = q.num.natAbs * 10 ^ places q.den := by rw [hp, Nat.pow_succ]; ring
        _ = q.den * (q.num.natAbs * c) := by rw [hc]; ring
        _ = 10 * (q.den * m) := by rw [hm]; ring
    have hDvd : q.den ∣ 10 ^ p := q.reduced.symm.dvd_of_dvd_mul_left (Dvd.intro m hLess.symm)
    have hLe := hLeast hDvd
    omega

end Exact

namespace Length

/-- A length is rounded to ten-thousandths of its unit: as a whole number of them. -/
theorem rounded_eq (l : Length Rat) : l.rounded = Exact.round (l.value * 10000) / 10000 := by
  simp [rounded, Scalar.natural, Scalar.round]

/-- Rounding moves a length by half of a ten-thousandth at most. -/
theorem abs_rounded_sub_le (l : Length Rat) : |l.rounded - l.value| ≤ 1 / 20000 := by
  have h := Exact.abs_round_sub_le (l.value * 10000)
  have hScale : l.rounded - l.value = (Exact.round (l.value * 10000) - l.value * 10000) / 10000 := by
    rw [rounded_eq]
    ring
  have hPos : |(10000 : Rat)| = 10000 := abs_of_pos (by norm_num)
  rw [hScale, abs_div, hPos]
  linarith

/-- A length is rounded to zero just if it is less than half of a ten-thousandth in size. -/
theorem rounded_eq_zero_iff {l : Length Rat} : l.rounded = 0 ↔ |l.value| < 1 / 20000 := by
  have hScale : |l.value * 10000| = |l.value| * 10000 := by
    rw [abs_mul, abs_of_pos (by norm_num : (0 : Rat) < 10000)]
  rw [rounded_eq, div_eq_zero_iff, or_iff_left (by norm_num), Exact.round_eq_zero_iff, hScale]
  constructor <;> intro h <;> linarith

/-- A whole number of ten-thousandths is not moved, so a length with at most four decimals is printed exactly. -/
theorem rounded_of_multiple {l : Length Rat} {k : Int} (h : l.value = k / 10000) :
    l.rounded = l.value := by
  rw [rounded_eq, h, div_mul_cancel₀ _ (by norm_num), Exact.round_intCast]

theorem rounded_eq_zero_of_isZero {l : Length Rat} (h : l.isZero = true) : l.rounded = 0 := by
  have hValue : l.value = 0 := beq_iff_eq.mp h
  have hMultiple : l.value = ((0 : Int) : Rat) / 10000 := by
    rw [hValue]
    norm_num
  rw [rounded_of_multiple hMultiple, hValue]

/-- What may be written for a number: another that is within half of a ten-thousandth, and itself if it is a
whole number of ten-thousandths. -/
structure Writes (exact written : Rat) : Prop where
  near : |written - exact| ≤ 1 / 20000
  eq_of_multiple : ∀ k : Int, exact = k / 10000 → written = exact

theorem writes_self (exact : Rat) : Writes exact exact :=
  ⟨by norm_num, fun _ _ => rfl⟩

/-- What is printed for a length is written within the bounds that rounding keeps to. -/
theorem writes_rounded (l : Length Rat) : Writes l.value l.rounded :=
  ⟨l.abs_rounded_sub_le, fun _ => rounded_of_multiple⟩

/-- A rounded length has four decimals at most, for ten-thousandths are tenths of tenths four times. -/
theorem den_rounded_dvd (l : Length Rat) : l.rounded.den ∣ 10 ^ 4 := by
  obtain ⟨k, hk⟩ := Exact.exists_round_eq (l.value * 10000)
  have hDvd := Rat.den_dvd k 10000
  rw [Rat.divInt_eq_div] at hDvd
  rw [rounded_eq, hk]
  exact_mod_cast hDvd

/-- Where nothing is left by rounding, a bare zero is printed, without sign and unit. -/
theorem css_of_rounded_eq_zero {l : Length Rat} (h : l.rounded = 0) : l.css = "0" := by
  rw [css, if_pos]
  exact beq_iff_eq.mpr h

/-- A length that is not rounded to zero is its sign, the numeral of its rounded number, and its unit. -/
theorem css_of_rounded_ne_zero {l : Length Rat} (h : l.rounded ≠ 0) :
    ∃ d : Digits, d.IsNumeral ∧ d.IsShort 4 ∧ (d.value : Rat) = |l.rounded| ∧
      l.css.toList = signText (l.rounded < 0) ++ (d.text ++ l.unit.suffix.toList) := by
  obtain ⟨n, places, hNumeral, hAbs, hLimit, hLast⟩ := Exact.numeral_eq l.den_rounded_dvd
  refine ⟨.ofFraction n places, Digits.isNumeral_ofFraction n places, Digits.isShort_ofFraction hLimit hLast, ?_, ?_⟩
  · rw [Digits.value_ofFraction, hAbs]
  · have hPlain : (Scalar.numeral l.rounded).plain =
        String.ofList (signText (l.rounded < 0) ++ (Digits.ofFraction n places).text) := by
      change (Exact.numeral l.rounded).plain = _
      rw [hNumeral, Numeral.plain, Digits.positional_eq_text]
    rw [css, if_neg (by simpa [Scalar.isZero] using h), hPlain, String.toList_append,
      String.toList_ofList, List.append_assoc]

end Length

end FlexGrid
