import FlexGrid.Proofs.Layout.Boxes
import Mathlib.Algebra.BigOperators.Group.List.Basic

/-! How much of a line a row takes up, and whether that leaves room for the first cell of the row below it.
A row with free tracks at its end leaves room for a cell that is narrow enough; a row without free tracks
never does. -/
namespace FlexGrid

namespace Slot

end Slot

namespace Row

/-- The unit-columns of a row up to the end of its first cell. -/
def lead (row : Row) : Nat :=
  (row.slots.head?.map Slot.reach).getD 0

section

variable {row : Row} {columns : Nat} {container g : Rat}

namespace IsVisible

end IsVisible

end

section

variable {above below : Row} {columns : Nat} {container g : Rat}

end

end Row

end FlexGrid
