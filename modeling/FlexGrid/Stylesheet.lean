import FlexGrid.Layout.Plan

/-! The stylesheet of a layout. The container is a wrapping flex box, and every cell has one rule that
selects it by its place among the children of the container. -/
namespace FlexGrid

structure Declaration where
  property : String
  value : String
deriving DecidableEq

structure Rule where
  selector : String
  declarations : List Declaration
deriving DecidableEq

/-- How a stylesheet is written: the selector of the container, and what stands before a declaration. -/
structure Style where
  selector : String
  indent : String
deriving DecidableEq

/-- A container of class `grid`, and two spaces before a declaration. -/
def Style.standard : Style :=
  ⟨".grid", "  "⟩

namespace Rule

variable {α : Type} [Scalar α]

def container (style : Style) : Rule :=
  ⟨style.selector, [⟨"display", "flex"⟩, ⟨"flex-wrap", "wrap"⟩]⟩

/-- The rule of a cell. A margin that it does not have is not declared. -/
def ofCell (style : Style) (cell : PlacedCell α) : Rule :=
  let margin (property : String) (value : Option String) : List Declaration :=
    (value.map fun v => ⟨property, v⟩).toList
  ⟨style.selector ++ " > :nth-child(" ++ toString cell.index ++ ")",
    ⟨"width", cell.width.css⟩ ::
      (margin "margin-left" (cell.marginLeft.map Extent.css) ++
        margin "margin-right" (cell.marginRight.map Length.css) ++
        margin "margin-bottom" (cell.marginBottom.map Length.css))⟩

/-- The rules of a layout, the container first. -/
def ofPlan (plan : Plan α) (style : Style) : List Rule :=
  container style :: plan.cells.map (ofCell style)

/-- A declaration on a line of its own. -/
def declarationLine (style : Style) (d : Declaration) : String :=
  style.indent ++ d.property ++ ": " ++ d.value ++ ";\n"

def text (style : Style) (rule : Rule) : String :=
  rule.selector ++ " \x7b\n" ++ String.join (rule.declarations.map (declarationLine style)) ++ "\x7d\n"

end Rule

/-- The stylesheet of a layout, with an empty line between rules. -/
def Plan.css {α : Type} [Scalar α] (plan : Plan α) (style : Style) : String :=
  "\n".intercalate ((Rule.ofPlan plan style).map (Rule.text style))

end FlexGrid
