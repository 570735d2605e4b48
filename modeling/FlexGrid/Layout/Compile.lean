import FlexGrid.Layout.Placement
import FlexGrid.Spec

/-! From a spec to its layout. -/
namespace FlexGrid

/-- What can be chosen for a layout. -/
structure Options (α : Type) where
  /-- The gutter between the cells of a row. -/
  gutter : Length α
  /-- The gutter between rows, when it is not the same. -/
  rowGutter : Option (Length α)
  /-- The number of unit-columns, when it is not that of the widest drawn row. -/
  columns : Option Nat
deriving DecidableEq

namespace Options

variable {α : Type}

/-- Gutters of thirty pixels, and as many columns as the rows need. -/
def standard [Scalar α] : Options α :=
  ⟨⟨Scalar.natural 30, .px⟩, none, none⟩

/-- The gutters in both directions. -/
def gutters (options : Options α) : Gutters α :=
  ⟨options.gutter, options.rowGutter.getD options.gutter⟩

end Options

inductive CompileFault where
  | entry (fault : Entry.Fault)
  | overflow (excess : Overflow)
deriving DecidableEq

def CompileFault.message : CompileFault → String
  | .entry fault => fault.message
  | .overflow excess => excess.message

variable {α : Type} [Scalar α]

/-- The layout of rows in as many columns as are chosen, or else as many as the rows need. -/
def Options.layOut (options : Options α) (rows : List Row) : Except CompileFault (Plan α) :=
  match Plan.ofRows rows (options.columns.getD (Row.widest rows)) options.gutters with
  | .error excess => .error (.overflow excess)
  | .ok plan => .ok plan

/-- The layout of a spec. Its entries are looked at before any row is measured. -/
def Spec.compile (spec : Spec) (options : Options α) : Except CompileFault (Plan α) :=
  match spec.rows with
  | .error fault => .error (.entry fault)
  | .ok rows => options.layOut rows

/-- The layout of a spec whose rows are held in words. All rows are measured before the first is placed, also where the
number of columns is chosen; if the width of one is refused, nothing comes of the rest, and there is neither a layout
nor a fault. -/
def Spec.compileHeld? (spec : Spec) (options : Options α) : Option (Except CompileFault (Plan α)) :=
  match spec.heldRows with
  | .error fault => some (.error (.entry fault))
  | .ok rows =>
      if rows.all fun row => row.wordColumns?.isSome then some (options.layOut rows) else none

end FlexGrid
