import FlexGrid.Proofs.Length.Literals
import FlexGrid.Proofs.Length.Rounding

/-! Lengths that are printed are read back. What is printed for a length that is not negative is a literal of its
rounded number, and a rounded number is printed as it is. -/
namespace FlexGrid

namespace Text

theorem isBlank_of_isDigit {c : Char} (h : c.isDigit = true) : isBlank c = false := by
  obtain ⟨hLow, hHigh⟩ := Char.isDigit_iff_toNat.mp h
  have hLow : 48 ≤ c.toNat := hLow
  have hHigh : c.toNat ≤ 57 := hHigh
  simp [isBlank]
  omega

/-- A text that neither begins nor ends with white space is left as it is. -/
theorem trim_of_not_blank {cs : List Char} (h : ∀ c ∈ cs, isBlank c = false) : trim cs = cs := by
  have hTrimmed : IsTrimmed cs cs :=
    ⟨⟨[], [], by simp⟩, fun c hc => h c (List.mem_of_mem_head? hc), fun c hc => h c (List.mem_of_getLast? hc)⟩
  exact hTrimmed.eq_trim.symm

end Text

namespace Length

/-- No mark of a numeral is white space, so a numeral is not changed by trimming. -/
theorem isBlank_of_mem_text {d : Digits} (h : d.IsNumeral) : ∀ c ∈ d.text, Text.isBlank c = false := by
  intro c hc
  rcases List.mem_append.mp hc with hc | hc
  · exact Text.isBlank_of_isDigit (h.isDigit_integer c hc)
  · split_ifs at hc
    · cases hc
    · rcases List.mem_cons.mp hc with rfl | hc
      · decide
      · exact Text.isBlank_of_isDigit (h.isDigit_fraction c hc)

theorem parse_of_text {d : Digits} (h : d.IsNumeral) {unit : LengthUnit} {text : String}
    (hText : text.toList = d.text ++ unit.suffix.toList) : parse text = .ok (⟨d.value, unit⟩ : Length Rat) := by
  have hSuffix : ∀ c ∈ unit.suffix.toList, Text.isBlank c = false := by
    cases unit <;> simp [LengthUnit.suffix, Text.isBlank]
  have hBlank : ∀ c ∈ text.toList, Text.isBlank c = false := by
    rw [hText]
    intro c hc
    exact (List.mem_append.mp hc).elim (isBlank_of_mem_text h c) (hSuffix c)
  rw [parse_eq_ok_iff, Text.trim_of_not_blank hBlank, hText]
  exact .united h unit

/-- Rounding does not turn a length that is not negative into one with a sign in front of it. -/
theorem rounded_nonneg {l : Length Rat} (h : 0 ≤ l.value) : 0 ≤ l.rounded := by
  rw [rounded_eq]
  have hRound := Exact.round_nonneg (q := l.value * 10000) (by positivity)
  positivity

/-- A rounded number is a whole number of ten-thousandths, so it is not moved again. -/
theorem css_rounded (l : Length Rat) : (⟨l.rounded, l.unit⟩ : Length Rat).css = l.css := by
  obtain ⟨k, hk⟩ := Exact.exists_round_eq (l.value * 10000)
  have hAgain : (⟨l.rounded, l.unit⟩ : Length Rat).rounded = l.rounded := by
    apply rounded_of_multiple (k := k)
    change l.rounded = _
    rw [rounded_eq, hk]
  simp only [css, hAgain]

/-- What is printed for a length that is not negative is read back as a length within half of a ten-thousandth of it,
which is printed alike, and as the same length if its number is a whole number of ten-thousandths. -/
theorem css_reads_back (l : Length Rat) (hNonneg : 0 ≤ l.value) :
    (l.css = "0" ∨ ∃ d : Digits, d.IsNumeral ∧ d.IsShort 4 ∧
      l.css = String.ofList (d.text ++ l.unit.suffix.toList)) ∧
    ∃ m : Length Rat, parse l.css = .ok m ∧ m.css = l.css ∧ |m.value - l.value| ≤ 1 / 20000 ∧
      ((∃ k : Int, l.value = k / 10000) → m = if l.value = 0 then zero else l) := by
  by_cases hZero : l.rounded = 0
  · have hText := css_of_rounded_eq_zero hZero
    refine ⟨.inl hText, zero, ?_, ?_, ?_, ?_⟩
    · rw [hText]
      decide +kernel
    · rw [hText]
      decide +kernel
    · have hNear := l.abs_rounded_sub_le
      rw [hZero] at hNear
      exact hNear
    · rintro ⟨k, hk⟩
      rw [← rounded_of_multiple hk, if_pos hZero]
  · obtain ⟨d, hNumeral, hShort, hValue, hText⟩ := css_of_rounded_ne_zero hZero
    have hRounded := rounded_nonneg hNonneg
    rw [abs_of_nonneg hRounded] at hValue
    rw [decide_eq_false (not_lt.mpr hRounded)] at hText
    refine ⟨.inr ⟨d, hNumeral, hShort, ?_⟩, ⟨l.rounded, l.unit⟩, ?_, css_rounded l, l.abs_rounded_sub_le, ?_⟩
    · rw [← String.ofList_toList (s := l.css), hText]
      rfl
    · rw [← hValue]
      exact parse_of_text hNumeral hText
    · rintro ⟨k, hk⟩
      rw [← rounded_of_multiple hk, if_neg hZero, rounded_of_multiple hk]

/-- A number whose rounding carries into its whole part, and one that is not moved. -/
theorem css_reads_back_of_carry :
    (∃ m : Length Rat, parse "1rem" = .ok m ∧ m.css = "1rem" ∧ |m.value - 99995 / 100000| ≤ 1 / 20000) ∧
      (∃ d : Digits, d.IsShort 4 ∧ String.ofList (d.text ++ ['%']) = "12.5%") ∧
      parse "12.5%" = .ok (⟨25 / 2, .percent⟩ : Length Rat) := by
  have hCarry : (⟨99995 / 100000, .rem⟩ : Length Rat).css = "1rem" := by decide +kernel
  have hSame : (⟨25 / 2, .percent⟩ : Length Rat).css = "12.5%" := by decide +kernel
  obtain ⟨-, m, hParse, hCss, hNear, -⟩ := css_reads_back ⟨99995 / 100000, .rem⟩ (by norm_num)
  obtain ⟨hShape, same, hParseSame, -, -, hExact⟩ := css_reads_back ⟨25 / 2, .percent⟩ (by norm_num)
  rw [hCarry] at hParse hCss
  rw [hSame] at hShape hParseSame
  refine ⟨⟨m, hParse, hCss, hNear⟩, ?_, ?_⟩
  · rcases hShape with hZero | ⟨d, -, hShort, hText⟩
    · simp at hZero
    · exact ⟨d, hShort, hText.symm⟩
  · rw [hParseSame, hExact ⟨125000, by norm_num⟩, if_neg (by norm_num)]

end Length

end FlexGrid
