import FlexGrid.Layout.Compile
import FlexGrid.Length.Literal
import FlexGrid.Stylesheet

/-! Settings, which a file and a command line may each give in part. -/
namespace FlexGrid

/-- The settings as they were given, each or none. Lengths are still text here: a setting that is
overridden is never looked at. -/
structure Settings where
  gutter : Option String
  gutterHeight : Option String
  columns : Option Nat
  selector : Option String
deriving DecidableEq

namespace Settings

def unset : Settings :=
  ⟨none, none, none, none⟩

/-- These settings with others laid over them. What the others set, counts. -/
def overlay (below above : Settings) : Settings where
  gutter := above.gutter.or below.gutter
  gutterHeight := above.gutterHeight.or below.gutterHeight
  columns := above.columns.or below.columns
  selector := above.selector.or below.selector

def literal? {α : Type} [Scalar α] :
    Option String → Except Length.BadLiteral (Option (Length α))
  | none => .ok none
  | some text => (Length.parse text).map some

/-- The choices that the settings make for a layout. The gutter is read before the gutter height. -/
def options {α : Type} [Scalar α] (settings : Settings) :
    Except Length.BadLiteral (Options α) := do
  let gutter ← literal? settings.gutter
  let rowGutter ← literal? settings.gutterHeight
  .ok ⟨gutter.getD Options.standard.gutter, rowGutter, settings.columns⟩

/-- The choices that the settings make for a stylesheet. -/
def style (settings : Settings) : Style :=
  { Style.standard with selector := settings.selector.getD Style.standard.selector }

end Settings

end FlexGrid
