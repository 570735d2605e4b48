import FlexGrid.Layout.Box
import FlexGrid.Proofs.Layout.Placement
import Mathlib.Algebra.Order.Field.Rat
import Mathlib.Tactic.FieldSimp
import Mathlib.Tactic.Linarith
import Mathlib.Tactic.Ring

/-! The boxes of placed cells in exact arithmetic. The distance from the start of one track to the start of
the next is the pitch of a row. A cell starts a whole number of pitches after the one before it, and ends one
gutter short of a track; the gutter is then made up by the margin after it, except at the end of the row. -/
namespace FlexGrid

namespace Length

end Length

namespace Box

end Box

/-- The distance between the starts of two neighbouring tracks of a row. -/
def Row.pitch (row : Row) (columns : Nat) (container g : Rat) : Rat :=
  Extent.trackWidth container (row.tracks columns) g + g

namespace Slot

/-- The boxes of the slots of a whole row. -/
def boxes (pitch g : Rat) (slots : List Slot) : List (Box Rat) :=
  slots.mapIdx fun i slot =>
    ⟨slot.blanks * pitch, slot.span * pitch - g, if i + 1 = slots.length then 0 else g⟩

@[simp] theorem boxes_nil (pitch g : Rat) : boxes pitch g [] = [] :=
  rfl

end Slot

/-- The boxes of the cells of a row, in the tracks that the container is divided into for it. -/
def Row.boxes (row : Row) (columns : Nat) (container g : Rat) : List (Box Rat) :=
  Slot.boxes (row.pitch columns container g) g row.slots

namespace Canvas

variable {canvas : Canvas Rat} {container g : Rat}

end Canvas

end FlexGrid
