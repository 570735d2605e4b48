import FlexGrid.Proofs.Layout.Extent
import FlexGrid.Proofs.Layout.Compile
import FlexGrid.Proofs.Layout.Margins
import FlexGrid.Proofs.Stylesheet.Declarations

/-! Zeros in a stylesheet. A term is left out where its number is zero, but what is written is the number rounded to
ten-thousandths. So gutters that are not zero but round to zero, and only these, bring a bare zero into a
stylesheet: as a margin, or as what is added to a percentage. -/
namespace FlexGrid

namespace Length

/-- A length that is not zero, but less than half of a ten-thousandth. -/
def IsFaint (l : Length Rat) : Prop :=
  l.value ≠ 0 ∧ |l.value| < 1 / 20000

/-- Faint lengths are those that are not left out and yet written as zero. -/
theorem isFaint_iff {l : Length Rat} : l.IsFaint ↔ l.isZero = false ∧ l.rounded = 0 := by
  rw [IsFaint, rounded_eq_zero_iff]
  exact and_congr_left fun _ => beq_eq_false_iff_ne.symm

/-- A length comes to nothing less by being taken many times. -/
theorem not_isFaint_scaled {l : Length Rat} (h : ¬l.IsFaint) (k : Int) :
    ¬(l.scaled (k : Rat)).IsFaint := by
  rintro ⟨hNonzero, hSmall⟩
  have hProduct : (l.scaled (k : Rat)).value = l.value * k := rfl
  rw [hProduct] at hNonzero hSmall
  obtain ⟨hValue, hTimes⟩ := mul_ne_zero_iff.mp hNonzero
  have hOnce : (1 : Rat) ≤ |(k : Rat)| := by
    exact_mod_cast Int.one_le_abs (Int.cast_ne_zero.mp hTimes)
  refine h ⟨hValue, lt_of_le_of_lt ?_ hSmall⟩
  rw [abs_mul]
  exact le_mul_of_one_le_right (abs_nonneg _) hOnce

end Length

namespace Calc

/-- Whether nothing but lengths is added and subtracted in an expression. -/
def AddsLengths : Calc Rat → Prop
  | .length _ => True
  | .number _ => True
  | .sum a b =>
      a.dimension? = some .length ∧ b.dimension? = some .length ∧ a.AddsLengths ∧ b.AddsLengths
  | .difference a b =>
      a.dimension? = some .length ∧ b.dimension? = some .length ∧ a.AddsLengths ∧ b.AddsLengths
  | .product a b => a.AddsLengths ∧ b.AddsLengths
  | .quotient a b => a.AddsLengths ∧ b.AddsLengths

/-- An expression that a stylesheet accepts as a length: it comes to a length, and nowhere in it is a bare number
added to one. -/
structure IsLength (e : Calc Rat) : Prop where
  dimension : e.dimension? = some .length
  adds : e.AddsLengths

/-- A length that is printed is read as a length, unless it is printed as a bare zero, which is a number. -/
theorem isLength_printed_length {l : Length Rat} : (Calc.length l).printed.IsLength ↔ l.rounded ≠ 0 := by
  by_cases h : l.rounded = 0
  · simp only [printed, Length.printed, h, ↓reduceIte, ne_eq, not_true, iff_false]
    exact fun hLength => by cases hLength.dimension
  · simp only [printed, Length.printed, h, ↓reduceIte, ne_eq, not_false_eq_true, iff_true]
    exact ⟨rfl, trivial⟩

theorem isLength_container : (container : Calc Rat).printed.IsLength := by
  rw [container, isLength_printed_length]
  decide +kernel

/-- A sum or a difference is a length if both of its operands are. -/
theorem isLength_join {op : Operator} (hLoose : op.isTight = false) {a b : Calc Rat} :
    (op.join a b).IsLength ↔ a.IsLength ∧ b.IsLength := by
  have hBoth : ((op.join a b).dimension? = dimension?.like a.dimension? b.dimension?) ∧
      ((op.join a b).AddsLengths ↔ a.dimension? = some .length ∧ b.dimension? = some .length ∧
        a.AddsLengths ∧ b.AddsLengths) := by
    cases op with
    | plus => exact ⟨rfl, Iff.rfl⟩
    | minus => exact ⟨rfl, Iff.rfl⟩
    | times => cases hLoose
    | divide => cases hLoose
  constructor
  · rintro ⟨-, hAdds⟩
    obtain ⟨hA, hB, hAddsA, hAddsB⟩ := hBoth.2.mp hAdds
    exact ⟨⟨hA, hAddsA⟩, ⟨hB, hAddsB⟩⟩
  · rintro ⟨hA, hB⟩
    refine ⟨?_, hBoth.2.mpr ⟨hA.dimension, hB.dimension, hA.adds, hB.adds⟩⟩
    rw [hBoth.1, hA.dimension, hB.dimension]
    rfl

theorem isLength_quotient {a : Calc Rat} {n : Nat} :
    (Calc.quotient a (.number n)).IsLength ↔ a.IsLength :=
  ⟨fun h => ⟨h.dimension, h.adds.1⟩, fun h => ⟨h.dimension, h.adds, trivial⟩⟩

theorem isLength_product {a : Calc Rat} {n : Nat} :
    (Calc.product a (.number n)).IsLength ↔ a.IsLength := by
  have hDimension : (Calc.product a (.number n)).dimension? = a.dimension? := by
    rw [dimension?]
    cases a.dimension? with
    | none => rfl
    | some d => cases d <;> rfl
  constructor
  · rintro ⟨hLength, hAdds, -⟩
    exact ⟨hDimension.symm.trans hLength, hAdds⟩
  · rintro ⟨hLength, hAdds⟩
    exact ⟨hDimension.trans hLength, hAdds, trivial⟩

/-! What is left out of an expression would have added a zero. What is left in adds none unless it is faint. -/

theorem isLength_divided {e : Calc Rat} {n : Nat} :
    (if n = 1 then e else .quotient e (.number n)).printed.IsLength ↔ e.printed.IsLength := by
  split_ifs
  · exact Iff.rfl
  · exact isLength_quotient

theorem isLength_times {e : Calc Rat} {n : Nat} :
    (if n = 1 then e else .product e (.number n)).printed.IsLength ↔ e.printed.IsLength := by
  split_ifs
  · exact Iff.rfl
  · exact isLength_product

/-- A length that is added or subtracted does no harm, unless it is faint. One that is zero is left out altogether. -/
theorem isLength_joined {op : Operator} (hLoose : op.isTight = false) {e : Calc Rat}
    {l : Length Rat} :
    (if l.isZero then e else op.join e (.length l)).printed.IsLength ↔
      e.printed.IsLength ∧ ¬l.IsFaint := by
  have hPrinted : (op.join e (.length l)).printed = op.join e.printed (Calc.length l).printed := by
    cases op <;> rfl
  -- A length that is left out is not faint, so only one that is left in can do harm.
  cases hZero : l.isZero with
  | true => simp [Length.isFaint_iff, hZero]
  | false =>
      rw [if_neg Bool.false_ne_true, hPrinted, isLength_join hLoose, isLength_printed_length,
        Length.isFaint_iff, hZero]
      simp

/-- The width of a track is a length, unless what the gutters take of it is faint. -/
theorem isLength_trackCalc {tracks : Nat} {gutter : Length Rat} :
    (Extent.trackCalc tracks gutter).printed.IsLength ↔
      ¬(gutter.scaled (Scalar.natural (tracks - 1))).IsFaint := by
  rw [Extent.trackCalc, isLength_divided]
  exact (isLength_joined (rfl : Operator.minus.isTight = false)).trans
    (and_iff_right isLength_container)

/-- The width of several tracks is a length, unless what the gutters take or give back is faint. -/
theorem isLength_tracksCalc {count tracks : Nat} {gutter absorbed : Length Rat} :
    (Extent.tracksCalc count tracks gutter absorbed).printed.IsLength ↔
      ¬(gutter.scaled (Scalar.natural (tracks - 1))).IsFaint ∧ ¬absorbed.IsFaint := by
  rw [← isLength_trackCalc, Extent.tracksCalc]
  exact (isLength_joined (rfl : Operator.plus.isTight = false)).trans
    (and_congr_left fun _ => isLength_times)

/-- Whether the text of a size is a length that a stylesheet accepts. -/
def Accepts (text : String) : Prop :=
  ∃ x : Calc Rat, parse? text = some x ∧ x.IsLength

/-- A bare zero is no length, so it is not accepted where a size is added to another one or stands by itself. -/
theorem ne_zero_of_accepts {text : String} (h : Accepts text) : text ≠ "0" := by
  rintro rfl
  obtain ⟨x, hParse, hLength⟩ := h
  have hZero : parse? "0" = some (.number 0 : Calc Rat) := by decide +kernel
  obtain rfl := Option.some.inj (hZero.symm.trans hParse)
  cases hLength.dimension

end Calc

/-- A margin that is not left out is accepted, unless it is faint. -/
theorem Length.accepts_css {l : Length Rat} (h : l.isZero = false) (hFaint : ¬l.IsFaint) :
    Calc.Accepts l.css := by
  refine ⟨l.printed, Calc.parse?_length l, Calc.isLength_printed_length.mpr ?_⟩
  exact fun hRounded => hFaint (isFaint_iff.mpr ⟨h, hRounded⟩)

/-- The width of a cell is accepted if its gutter is not faint. Multiples of the gutter are not faint then either. -/
theorem Extent.accepts_css {e : Extent Rat} (hFaint : ¬e.gutter.IsFaint) : Calc.Accepts e.css := by
  by_cases hWhole : e.expression? = none
  · rw [css_eq_whole_iff.mpr hWhole]
    exact ⟨_, Calc.parse?_whole, Calc.isLength_container⟩
  · rw [css, expression?_of_ne_none hWhole]
    refine ⟨_, Calc.parse?_calc _, Calc.isLength_tracksCalc.mpr ⟨?_, ?_⟩⟩
    · exact Length.not_isFaint_scaled hFaint (e.tracks - 1 : Nat)
    · exact Length.not_isFaint_scaled hFaint e.absorbed

/-- Whether a declaration gives a cell its width or a margin. These are the places where a zero could be written. -/
def Declaration.IsSize (d : Declaration) : Prop :=
  d.property ∈ ["width", "margin-left", "margin-right", "margin-bottom"]

namespace Rule

variable {α : Type} [Scalar α]

theorem exists_cell_of_isSize {plan : Plan α} {style : Style} {rule : Rule}
    (hRule : rule ∈ ofPlan plan style) {d : Declaration} (hMem : d ∈ rule.declarations)
    (hSize : d.IsSize) : ∃ cell ∈ plan.cells, d ∈ (ofCell style cell).declarations := by
  obtain rfl | hOfCell := List.mem_cons.mp hRule
  · have hNone : ∀ d ∈ (container style).declarations, ¬d.IsSize := by
      simp [container, Declaration.IsSize]
    exact absurd hSize (hNone d hMem)
  · obtain ⟨cell, hCell, rfl⟩ := List.mem_map.mp hOfCell
    exact ⟨cell, hCell, hMem⟩

/-- All sizes of a cell are accepted, if neither of the gutters is faint. -/
theorem accepts_of_mem_ofCell {canvas : Canvas Rat} (hAcross : ¬canvas.gutters.across.IsFaint)
    (hDown : ¬canvas.gutters.down.IsFaint) {row : Row} {number placed i : Nat} {slot : Slot}
    {style : Style} {d : Declaration}
    (h : d ∈ (ofCell style (canvas.slotCell row number placed i slot)).declarations) :
    Calc.Accepts d.value := by
  obtain rfl | ⟨m, hLeft, rfl⟩ | ⟨l, hRight, rfl⟩ | ⟨l, hBottom, rfl⟩ := mem_declarations_ofCell.mp h
  · exact Extent.accepts_css hAcross
  · obtain ⟨-, rfl⟩ := Canvas.marginLeft_eq_some_iff.mp hLeft
    exact Extent.accepts_css hAcross
  · obtain ⟨rfl, hZero, -⟩ := Canvas.marginRight_eq_some_iff.mp hRight
    exact Length.accepts_css hZero hAcross
  · obtain ⟨rfl, hZero, -⟩ := Canvas.marginBottom_eq_some_iff.mp hBottom
    exact Length.accepts_css hZero hDown

end Rule

namespace Options

variable {options : Options Rat}

/-- Between two cells of a row, a faint gutter is a margin of zero. -/
theorem exists_margin_right_zero (h : options.gutters.across.IsFaint) (style : Style) :
    ∃ (spec : Spec) (plan : Plan Rat), spec.compile options = .ok plan ∧
      ∃ rule ∈ Rule.ofPlan plan style, ⟨"margin-right", "0"⟩ ∈ rule.declarations := by
  obtain ⟨hNonzero, hRounded⟩ := Length.isFaint_iff.mp h
  have hRows : (⟨[.distribute 2]⟩ : Spec).rows = .ok [.even 2 Nat.two_pos] := rfl
  refine ⟨_, _, (Spec.compile_eq_ok_iff hRows).mpr ⟨Nat.zero_le _, rfl⟩, _,
    List.mem_cons_of_mem _ (List.mem_map_of_mem List.mem_cons_self),
    Rule.mem_declarations_ofCell.mpr (.inr (.inr (.inl ⟨options.gutters.across, ?_, ?_⟩)))⟩
  · exact Canvas.marginRight_eq_some_iff.mpr ⟨rfl, hNonzero, rfl⟩
  · rw [Length.css_of_rounded_eq_zero hRounded]

/-- Between two rows, a faint gutter is a margin of zero: it is kept because it is not zero, and is printed as one. -/
theorem exists_margin_bottom_zero (h : options.gutters.down.IsFaint) (style : Style) :
    ∃ (spec : Spec) (plan : Plan Rat), spec.compile options = .ok plan ∧
      ∃ rule ∈ Rule.ofPlan plan style, ⟨"margin-bottom", "0"⟩ ∈ rule.declarations := by
  obtain ⟨hNonzero, hRounded⟩ := Length.isFaint_iff.mp h
  have hRows : (⟨[.distribute 1, .distribute 1]⟩ : Spec).rows =
      .ok [.even 1 Nat.one_pos, .even 1 Nat.one_pos] := rfl
  refine ⟨_, _, (Spec.compile_eq_ok_iff hRows).mpr ⟨Nat.zero_le _, rfl⟩, _,
    List.mem_cons_of_mem _ (List.mem_map_of_mem List.mem_cons_self),
    Rule.mem_declarations_ofCell.mpr (.inr (.inr (.inr ⟨options.gutters.down, ?_, ?_⟩)))⟩
  · change (⟨_, 2, options.gutters⟩ : Canvas Rat).marginBottom 1 = _
    exact Canvas.marginBottom_eq_some_iff.mpr ⟨rfl, hNonzero, Nat.ne_of_lt Nat.one_lt_two⟩
  · rw [Length.css_of_rounded_eq_zero hRounded]

/-- Gutters keep zeros out of the stylesheet of every grid just if neither is faint. Then no width and no margin
is written as a bare zero, and nothing but lengths is added and subtracted in one. -/
theorem no_zero_leaks_iff (options : Options Rat) :
    (∀ (spec : Spec) (plan : Plan Rat) (style : Style), spec.compile options = .ok plan →
      ∀ rule ∈ Rule.ofPlan plan style, ∀ d ∈ rule.declarations, d.IsSize →
        d.value ≠ "0" ∧ Calc.Accepts d.value) ↔
      ¬options.gutters.across.IsFaint ∧ ¬options.gutters.down.IsFaint := by
  constructor
  · intro hClean
    -- Two cells in a row show what the gutter across does, and two rows what the other does.
    constructor
    · intro hFaint
      obtain ⟨spec, plan, hPlan, rule, hRule, hMem⟩ := exists_margin_right_zero hFaint .standard
      exact (hClean spec plan .standard hPlan rule hRule _ hMem (by simp [Declaration.IsSize])).1 rfl
    · intro hFaint
      obtain ⟨spec, plan, hPlan, rule, hRule, hMem⟩ := exists_margin_bottom_zero hFaint .standard
      exact (hClean spec plan .standard hPlan rule hRule _ hMem (by simp [Declaration.IsSize])).1 rfl
  · rintro ⟨hAcross, hDown⟩ spec plan style hPlan rule hRule d hMem hSize
    obtain ⟨rows, hRows⟩ := Spec.exists_rows_of_compile hPlan
    obtain ⟨-, rfl⟩ := (Spec.compile_eq_ok_iff hRows).mp hPlan
    obtain ⟨cell, hCell, hMem⟩ := Rule.exists_cell_of_isSize hRule hMem hSize
    obtain ⟨p, hAt⟩ := List.mem_iff_getElem?.mp hCell
    obtain ⟨r, row, i, slot, -, -, -, rfl⟩ := Plan.exists_slot_of_getElem?_placed hAt
    have hAccepted : Calc.Accepts d.value := Rule.accepts_of_mem_ofCell hAcross hDown hMem
    exact ⟨Calc.ne_zero_of_accepts hAccepted, hAccepted⟩

/-- A gutter of a hundred-thousandth of a pixel is no zero, but is written as one: after a cell, and twice in
its width. -/
theorem zero_leaks_of_faint_gutter :
    ∃ (gutter : Length Rat) (plan : Plan Rat) (width : Calc Rat),
      Length.parse "0.00001px" = .ok gutter ∧
      (⟨[.drawing "x-x x"]⟩ : Spec).compile ⟨gutter, none, none⟩ = .ok plan ∧
      ⟨".grid > :nth-child(1)",
        [⟨"width", "calc((100% - 0) / 3 * 2 + 0)"⟩, ⟨"margin-right", "0"⟩]⟩ ∈
          Rule.ofPlan plan .standard ∧
      Calc.parse? "calc((100% - 0) / 3 * 2 + 0)" = some width ∧ ¬width.AddsLengths := by
  have hRows : (⟨[.drawing "x-x x"]⟩ : Spec).rows = .ok [.drawn ⟨[⟨2, 0⟩, ⟨1, 1⟩]⟩] := by decide +kernel
  refine ⟨⟨1 / 100000, .px⟩, _, .sum (.product (.quotient (.difference (.length ⟨100, .percent⟩)
      (.number 0)) (.number 3)) (.number 2)) (.number 0), by decide +kernel,
    (Spec.compile_eq_ok_iff hRows).mpr ⟨by decide, rfl⟩, by decide +kernel, by decide +kernel, ?_⟩
  rintro ⟨-, hNumber, -⟩
  cases hNumber

end Options

end FlexGrid
