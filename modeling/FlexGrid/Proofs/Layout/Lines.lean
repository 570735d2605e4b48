import FlexGrid.Proofs.Layout.Compile
import FlexGrid.Proofs.Layout.Crowding
import FlexGrid.Proofs.Layout.Numbering
import Mathlib.Algebra.Order.BigOperators.Group.List
import Mathlib.Data.List.Chain

/-! Whether the rows of a layout stay on lines of their own. Nothing in a layout ends a line: a line ends
where the next cell does not fit. So a row that leaves tracks free at its end shares its line with the row
below it, unless the first cell of that row is too wide for what is left. -/
namespace FlexGrid

namespace Box

end Box

namespace Row

variable {columns : Nat} {container g : Rat}

end Row

namespace Canvas

variable {canvas : Canvas Rat} {container g : Rat}

end Canvas

end FlexGrid
