import FlexGrid.Proofs.Length.Digits
import FlexGrid.Stylesheet

/-! What the declarations of a cell are, and that each stays on its line: nothing that is written for a size holds a
line break, whatever its numbers are, for they are written with digits, points and signs, and as words if they are
infinite or no numbers at all. -/
namespace FlexGrid

namespace Decimal

/-- Digits are no line breaks. This is where all that is printed of a number begins. -/
@[simp] theorem newline_not_mem_figures (n : Nat) : '\n' ∉ figures n :=
  fun h => absurd (isDigit_of_mem_figures h) (by decide)

/-- Nor are the zeros that fill a field of digits up to its width. -/
@[simp] theorem newline_not_mem_padded (width n : Nat) : '\n' ∉ padded width n :=
  fun h => absurd (isDigit_of_mem_padded h) (by decide)

/-- A decimal with its point in place is digits and a point, wherever the point stands. -/
@[simp] theorem newline_not_mem_positional (d : Decimal) : '\n' ∉ d.positional := by
  obtain ⟨digits, exponent⟩ := d
  cases exponent with
  | ofNat zeros => exact newline_not_mem_figures _
  | negSucc n => simp [positional]

/-- A number as it is printed in the selector of a rule stays on its line. -/
theorem newline_not_mem_toString (n : Nat) : '\n' ∉ (toString n).toList := by
  rw [toList_toString]
  exact newline_not_mem_figures n

end Decimal

/-- A numeral in a stylesheet stays on its line, also one that stands for no number: what is written for infinities
and for no number at all is a word. -/
theorem Numeral.newline_not_mem_plain (x : Numeral) : '\n' ∉ x.plain.toList := by
  have hSign (negative : Bool) : '\n' ∉ signText negative := by cases negative <;> simp [signText]
  cases x with
  | finite negative magnitude => simp [plain, hSign]
  | infinite negative => simp [plain, hSign]
  | nan => simp [plain]

section

variable {α : Type} [Scalar α]

/-- A length is a numeral with the suffix of its unit, and no suffix breaks a line. -/
theorem Length.newline_not_mem_css (l : Length α) : '\n' ∉ l.css.toList := by
  have hSuffix : '\n' ∉ l.unit.suffix.toList := by cases l.unit <;> simp [LengthUnit.suffix]
  unfold css
  split
  · simp
  · simp [Numeral.newline_not_mem_plain, hSuffix]

theorem Calc.newline_not_mem_bracketed (needed : Bool) {text : String} (h : '\n' ∉ text.toList) :
    '\n' ∉ (bracketed needed text).toList := by
  cases needed <;> simp [bracketed, h]

/-- An expression stays on its line, for each of its constructors puts only spaces, signs and brackets between the
texts of its parts. -/
theorem Calc.newline_not_mem_css (e : Calc α) : '\n' ∉ e.css.toList := by
  induction e with
  | length l => exact l.newline_not_mem_css
  | number n => exact Decimal.newline_not_mem_toString n
  | sum a b hA hB => simp [css, hA, newline_not_mem_bracketed _ hB]
  | difference a b hA hB =>
      apply newline_not_mem_bracketed
      simp [hA, newline_not_mem_bracketed _ hB]
  | product a b hA hB =>
      simp [css, newline_not_mem_bracketed _ hA, newline_not_mem_bracketed _ hB]
  | quotient a b hA hB =>
      simp [css, newline_not_mem_bracketed _ hA, newline_not_mem_bracketed _ hB]

/-- An extent is printed as a whole, as a length or as an expression, and all of these stay on one line. -/
theorem Extent.newline_not_mem_css (e : Extent α) : '\n' ∉ e.css.toList := by
  unfold css
  split
  · simp
  · simp [Calc.newline_not_mem_css]

/-- A rule declares the width of its cell, and each margin that the cell has. Nothing else is ever declared, so what
is known of these values is known of every declaration. -/
theorem Rule.mem_declarations_ofCell {style : Style} {cell : PlacedCell α} {d : Declaration} :
    d ∈ (ofCell style cell).declarations ↔
      d = ⟨"width", cell.width.css⟩ ∨
      (∃ m, cell.marginLeft = some m ∧ d = ⟨"margin-left", m.css⟩) ∨
      (∃ l, cell.marginRight = some l ∧ d = ⟨"margin-right", l.css⟩) ∨
      ∃ l, cell.marginBottom = some l ∧ d = ⟨"margin-bottom", l.css⟩ := by
  simp [ofCell, eq_comm]

end

end FlexGrid
