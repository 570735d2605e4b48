import FlexGrid.Stylesheet.Reader
import FlexGrid.Proofs.Stylesheet.Declarations

/-! The rules of a stylesheet are read back from its text. The text falls apart into the lines that were written for the
rules, and each line is taken for what it is because of the lines before it: a header where a rule is due, and in a rule
a closing brace or else a declaration, which never is a brace alone. -/
namespace FlexGrid

/-- A declaration that stays on its line, with a property that ends at the first colon. -/
structure Declaration.IsLegible (d : Declaration) : Prop where
  newline_not_mem_property : '\n' ∉ d.property.toList
  colon_not_mem_property : ':' ∉ d.property.toList
  newline_not_mem_value : '\n' ∉ d.value.toList

namespace Rule

/-- A rule whose parts can be told apart on its lines: its selector has no line break, and its declarations are
legible. -/
structure IsLegible (rule : Rule) : Prop where
  newline_not_mem_selector : '\n' ∉ rule.selector.toList
  isLegible : ∀ d ∈ rule.declarations, d.IsLegible

/-- The line of a declaration, without its line break. -/
def lineOf (indent : List Char) (d : Declaration) : List Char :=
  indent ++ (d.property.toList ++ ([':', ' '] ++ d.value.toList) ++ [';'])

/-- The lines of a rule, without their line breaks: the selector with an opening brace, the declarations, and a
closing brace. -/
def lines (indent : List Char) (rule : Rule) : List (List Char) :=
  (rule.selector.toList ++ [' ', '\x7b']) :: (rule.declarations.map (lineOf indent) ++ [['\x7d']])

/-- The lines of a rule hold no line breaks themselves, so the text of a stylesheet falls apart into just these
lines. -/
theorem newline_not_mem_of_mem_lines {indent : List Char} (hIndent : '\n' ∉ indent) {rule : Rule}
    (hRule : rule.IsLegible) : ∀ line ∈ rule.lines indent, '\n' ∉ line := by
  intro line hLine
  simp only [lines, List.mem_cons, List.mem_append, List.mem_map, List.not_mem_nil, or_false] at hLine
  rcases hLine with rfl | ⟨d, hd, rfl⟩ | rfl
  · simp [hRule.newline_not_mem_selector]
  · have hDeclaration := hRule.isLegible d hd
    simp [lineOf, hIndent, hDeclaration.newline_not_mem_property, hDeclaration.newline_not_mem_value]
  · simp

/-- The text of a rule is made of its lines, each with a line break after it. -/
theorem toList_text (style : Style) (rule : Rule) :
    (rule.text style).toList = (rule.lines style.indent.toList).flatMap (· ++ ['\n']) := by
  simp [text, lines, lineOf, declarationLine, String.toList_join, List.flatMap_map]

/-- Lines that end in a line break are split off one by one. -/
theorem splitOn_flatMap {lines : List (List Char)} (h : ∀ line ∈ lines, '\n' ∉ line) (rest : List Char) :
    (lines.flatMap (· ++ ['\n']) ++ rest).splitOn '\n' = lines ++ rest.splitOn '\n' := by
  induction lines with
  | nil => rfl
  | cons line lines ih =>
      obtain ⟨hLine, hLines⟩ := List.forall_mem_cons.mp h
      simp [List.splitOn_append_cons_self_of_not_mem hLine, ih hLines]

/-- An empty line follows each rule: the one before the next rule, or what is left after the last line break. -/
theorem splitOn_intercalate_text {style : Style} (hIndent : '\n' ∉ style.indent.toList) {rules : List Rule}
    (hRules : ∀ rule ∈ rules, rule.IsLegible) (hSome : rules ≠ []) :
    ("\n".intercalate (rules.map (text style))).toList.splitOn '\n' =
      rules.flatMap fun rule => rule.lines style.indent.toList ++ [[]] := by
  induction rules with
  | nil => exact absurd rfl hSome
  | cons rule rest ih =>
      obtain ⟨hRule, hRest⟩ := List.forall_mem_cons.mp hRules
      have hLines := newline_not_mem_of_mem_lines hIndent hRule
      cases rest with
      | nil => simpa [toList_text] using splitOn_flatMap hLines []
      | cons next others =>
          have hEnded : ∀ line ∈ rule.lines style.indent.toList ++ [[]], '\n' ∉ line := by
            simpa [or_imp, forall_and] using hLines
          have hText := splitOn_flatMap hEnded ("\n".intercalate ((next :: others).map (text style))).toList
          rw [ih hRest (by simp)] at hText
          simpa [toList_text, String.intercalate_cons_cons] using hText

theorem withoutEnd?_append (line ending : List Char) :
    withoutEnd? ending (line ++ ending) = some line := by
  simp [withoutEnd?]

theorem withoutStart?_append (beginning line : List Char) :
    withoutStart? beginning (beginning ++ line) = some line := by
  simp [withoutStart?]

theorem selector?_header (selector : String) :
    selector? (selector.toList ++ [' ', '\x7b']) = some selector := by
  simp [selector?, withoutEnd?_append]

/-- A declaration is read back from its line. Its property ends at the first colon, for it has none itself. -/
theorem declaration?_lineOf (indent : List Char) {d : Declaration} (h : d.IsLegible) :
    declaration? indent (lineOf indent d) = some d := by
  have hName : ∀ c ∈ d.property.toList, (c != ':') = true := by
    intro c hc
    simpa using ne_of_mem_of_not_mem hc h.colon_not_mem_property
  have hProperty : (d.property.toList ++ ([':', ' '] ++ d.value.toList)).takeWhile (· != ':') =
      d.property.toList := by
    rw [List.takeWhile_append_of_pos hName]
    simp
  have hValue : (d.property.toList ++ ([':', ' '] ++ d.value.toList)).dropWhile (· != ':') =
      [':', ' '] ++ d.value.toList := by
    rw [List.dropWhile_append_of_pos hName]
    simp
  simp only [declaration?, lineOf, withoutStart?_append, withoutEnd?_append, hProperty, hValue, bind,
    Option.bind, String.ofList_toList]

/-- No declaration is taken for a closing brace, for its line ends in a semicolon. -/
theorem lineOf_ne_brace (indent : List Char) (d : Declaration) : lineOf indent d ≠ ['\x7d'] := by
  intro h
  have hLast := congrArg List.getLast? h
  rw [lineOf, ← List.append_assoc, List.getLast?_concat] at hLast
  simp at hLast

/-- The lines of declarations add them to the rule that is open. -/
theorem foldlM_map_lineOf {indent : List Char} {ds : List Declaration} (h : ∀ d ∈ ds, d.IsLegible)
    (selector : String) (earlier : List Declaration) (reversed : List Rule) :
    (ds.map (lineOf indent)).foldlM (Reading.step indent) ⟨.body selector earlier, reversed⟩ =
      some ⟨.body selector (ds.reverse ++ earlier), reversed⟩ := by
  induction ds generalizing earlier with
  | nil => rfl
  | cons d ds ih =>
      obtain ⟨hFirst, hRest⟩ := List.forall_mem_cons.mp h
      simp [Reading.step, lineOf_ne_brace, declaration?_lineOf indent hFirst, ih hRest]

/-- A rule is read from its lines and the empty line after them. -/
theorem foldlM_lines {indent : List Char} {rule : Rule} (hRule : rule.IsLegible) (reversed : List Rule) :
    (rule.lines indent ++ [[]]).foldlM (Reading.step indent) ⟨.selector, reversed⟩ =
      some ⟨.selector, rule :: reversed⟩ := by
  simp [lines, Reading.step, selector?_header, List.foldlM_append, foldlM_map_lineOf hRule.isLegible]

/-- Rules are read one after the other. They come out in reverse, the last one first, as the reader keeps them. -/
theorem foldlM_flatMap_lines {indent : List Char} {rules : List Rule} (hRules : ∀ rule ∈ rules, rule.IsLegible)
    (reversed : List Rule) :
    (rules.flatMap fun rule => rule.lines indent ++ [[]]).foldlM (Reading.step indent) ⟨.selector, reversed⟩ =
      some ⟨.selector, rules.reverse ++ reversed⟩ := by
  induction rules generalizing reversed with
  | nil => rfl
  | cons rule rest ih =>
      obtain ⟨hRule, hRest⟩ := List.forall_mem_cons.mp hRules
      rw [List.flatMap_cons, List.foldlM_append, foldlM_lines hRule]
      simp [ih hRest]

/-- Legible rules are read back from their text. The reader has one rule open at a time, and is between two rules
again after the empty line that follows each. -/
theorem parse?_intercalate_text {style : Style} (hIndent : '\n' ∉ style.indent.toList) {rules : List Rule}
    (hRules : ∀ rule ∈ rules, rule.IsLegible) (hSome : rules ≠ []) :
    parse? style ("\n".intercalate (rules.map (text style))) = some rules := by
  rw [parse?, splitOn_intercalate_text hIndent hRules hSome, foldlM_flatMap_lines hRules]
  simp [Reading.finish]

section

variable {α : Type} [Scalar α]

theorem isLegible_container {style : Style} (hSelector : '\n' ∉ style.selector.toList) :
    (container style).IsLegible := by
  constructor
  · exact hSelector
  · intro d hd
    simp only [container, List.mem_cons, List.not_mem_nil, or_false] at hd
    rcases hd with rfl | rfl
    · exact ⟨by simp, by simp, by simp⟩
    · exact ⟨by simp, by simp, by simp⟩

/-- The rule of a cell is legible, whatever the cell is: no number, length or formula is printed with a line break. -/
theorem isLegible_ofCell {style : Style} (hSelector : '\n' ∉ style.selector.toList) (cell : PlacedCell α) :
    (ofCell style cell).IsLegible := by
  constructor
  · simpa [ofCell, hSelector] using Decimal.newline_not_mem_toString cell.index
  · intro d hd
    rcases mem_declarations_ofCell.mp hd with rfl | ⟨m, -, rfl⟩ | ⟨l, -, rfl⟩ | ⟨l, -, rfl⟩
    · exact ⟨by simp, by simp, cell.width.newline_not_mem_css⟩
    · exact ⟨by simp, by simp, m.newline_not_mem_css⟩
    · exact ⟨by simp, by simp, l.newline_not_mem_css⟩
    · exact ⟨by simp, by simp, l.newline_not_mem_css⟩

theorem isLegible_of_mem_ofPlan {style : Style} (hSelector : '\n' ∉ style.selector.toList) {plan : Plan α}
    {rule : Rule} (h : rule ∈ ofPlan plan style) : rule.IsLegible := by
  rcases List.mem_cons.mp h with rfl | h
  · exact isLegible_container hSelector
  · obtain ⟨cell, -, rfl⟩ := List.mem_map.mp h
    exact isLegible_ofCell hSelector cell

end

end Rule

/-- The text of a stylesheet says what its rules are. Whatever else its selector and its indent hold, if they hold no
line breaks then reading the text gives back the rules, so layouts that are written alike have the same rules. -/
theorem Plan.css_determines_rules {α : Type} [Scalar α] (plan : Plan α) (style : Style)
    (hSelector : '\n' ∉ style.selector.toList) (hIndent : '\n' ∉ style.indent.toList) :
    Rule.parse? style (plan.css style) = some (Rule.ofPlan plan style) ∧
      ∀ other : Plan α, other.css style = plan.css style → Rule.ofPlan other style = Rule.ofPlan plan style := by
  have hRead (plan : Plan α) : Rule.parse? style (plan.css style) = some (Rule.ofPlan plan style) :=
    Rule.parse?_intercalate_text hIndent (fun _ => Rule.isLegible_of_mem_ofPlan hSelector) (by simp [Rule.ofPlan])
  refine ⟨hRead plan, ?_⟩
  intro other hText
  apply Option.some.inj
  rw [← hRead other, hText, hRead plan]

/-- A selector that ends like a header and an indent that looks like the end of a rule. -/
theorem Plan.css_determines_rules_of_braces :
    ∃ plan : Plan Rat,
      plan.css ⟨"ul: \x7b", "\x7d"⟩ =
        "ul: \x7b \x7b\n\x7ddisplay: flex;\n\x7dflex-wrap: wrap;\n\x7d\n\n" ++
        "ul: \x7b > :nth-child(1) \x7b\n\x7dwidth: calc((100% - 1.5rem) / 2);\n\x7dmargin-right: 1.5rem;\n\x7d\n" ∧
      Rule.parse? ⟨"ul: \x7b", "\x7d"⟩ (plan.css ⟨"ul: \x7b", "\x7d"⟩) =
        some [⟨"ul: \x7b", [⟨"display", "flex"⟩, ⟨"flex-wrap", "wrap"⟩]⟩,
          ⟨"ul: \x7b > :nth-child(1)",
            [⟨"width", "calc((100% - 1.5rem) / 2)"⟩, ⟨"margin-right", "1.5rem"⟩]⟩] := by
  let gutter : Length Rat := ⟨3 / 2, .rem⟩
  let plan : Plan Rat := ⟨[⟨1, 1, .span 1 2 gutter, none, some gutter, none⟩], 2, 1, .uniform gutter⟩
  refine ⟨plan, by decide +kernel, ?_⟩
  rw [(Plan.css_determines_rules plan ⟨"ul: \x7b", "\x7d"⟩ (by simp) (by simp)).1]
  decide +kernel

end FlexGrid
