import FlexGrid.Serial.Form
import FlexGrid.Layout.Plan

/-! The stored form of lengths and layouts, with doubles for numbers.

An extent is stored as one record for both of its alternatives: a field `kind` names the alternative, and
its other fields follow. It is read only from a part of a document that has no holes at all. -/
namespace FlexGrid

open Serial

variable {ε : Type}

namespace LengthUnit

/-- The name that a unit is stored under, which for percent is not the sign that is printed. -/
def name : LengthUnit → String
  | .px => "px"
  | .percent => "percent"
  | .em => "em"
  | .rem => "rem"

def ofName? (name : String) : Option LengthUnit :=
  [LengthUnit.px, .percent, .em, .rem].find? (·.name == name)

/-- A unit as a choice without content, which is its name alone. -/
def toJson (unit : LengthUnit) : Json.Value :=
  .string unit.name

/-- Whether an item can stand for the content of an alternative that has none. Inside an extent an object
without members can. -/
def isEmptyContent (inExtent : Bool) : Json ε → Bool
  | .null => true
  | .object [] => inExtent
  | _ => false

def ofJson? (inExtent : Bool) (document : Json ε) : Option LengthUnit :=
  match alternative? document with
  | some (name, none) => ofName? name
  | some (name, some item) => if isEmptyContent inExtent item then ofName? name else none
  | none => none

end LengthUnit

namespace Length

/-- A length as a record of its value and its unit. A value that is not finite is stored as `null`. -/
def toJson (l : Length Float) : Json.Value :=
  .object [("value", ofDouble l.value), ("unit", l.unit.toJson)]

/-- The length that a document holds. Inside an extent, its unit may also stand in front of an empty object. -/
def ofJson? (inExtent : Bool) (document : Json ε) : Option (Length Float) :=
  match fields? ["value", "unit"] document with
  | some [value, unit] => do
      let value ← field? double? value
      let unit ← field? (LengthUnit.ofJson? inExtent) unit
      some ⟨value, unit⟩
  | _ => none

end Length

namespace Extent

/-- The name of an alternative, and the name of its first field. -/
def spanName : String :=
  "span"

/-- The name of an alternative, and the name of its first field. -/
def offsetName : String :=
  "offset"

/-- An extent as a record that names its own alternative, among the fields of that alternative. -/
def toJson (e : Extent Float) : Json.Value :=
  let record (name : String) (count tracks : Nat) (gutter : Length Float) : Json.Value :=
    .object [("kind", .string name), (name, .number (.whole count)),
      ("tracks", .number (.whole tracks)), ("gutter", gutter.toJson)]
  match e with
  | .span count tracks gutter => record spanName count tracks gutter
  | .offset count tracks gutter => record offsetName count tracks gutter

/-- The name of the alternative of an extent, and a record of its other fields. -/
def tagged? : Json ε → Option (String × Json ε)
  | .object members =>
      match members.filter (·.1 == "kind") with
      | [(_, .string name)] => some (name, .object (members.filter (·.1 != "kind")))
      | _ => none
  | .array (.string name :: items) => some (name, .array items)
  | _ => none

/-- The fields of an extent, the first of them called `name`. -/
def parts? (name : String) (record : Json ε) : Option (Nat × Nat × Length Float) :=
  match fields? [name, "tracks", "gutter"] record with
  | some [count, tracks, gutter] => do
      let count ← field? (natural? wordLimit) count
      let tracks ← field? (natural? wordLimit) tracks
      let gutter ← field? (Length.ofJson? true) gutter
      some (count, tracks, gutter)
  | _ => none

def ofJson? (document : Json ε) : Option (Extent Float) := do
  if document.isWhole then
    let (name, record) ← tagged? document
    if name = spanName then
      (parts? spanName record).map fun (count, tracks, gutter) => .span count tracks gutter
    else if name = offsetName then
      (parts? offsetName record).map fun (count, tracks, gutter) => .offset count tracks gutter
    else none
  else none

end Extent

namespace PlacedCell

/-- The stored form of a placed cell. A margin that it does not have is `null`. -/
def toJson (cell : PlacedCell Float) : Json.Value :=
  .object [("index", .number (.whole cell.index)), ("row", .number (.whole cell.row)),
    ("width", cell.width.toJson), ("margin_left", ofOption Extent.toJson cell.marginLeft),
    ("margin_right", ofOption Length.toJson cell.marginRight),
    ("margin_bottom", ofOption Length.toJson cell.marginBottom)]

def ofJson? (document : Json ε) : Option (PlacedCell Float) :=
  match fields? ["index", "row", "width", "margin_left", "margin_right", "margin_bottom"] document with
  | some [index, row, width, left, right, bottom] => do
      let index ← field? (natural? longLimit) index
      let row ← field? (natural? longLimit) row
      let width ← field? Extent.ofJson? width
      let left ← optionalField? Extent.ofJson? left
      let right ← optionalField? (Length.ofJson? false) right
      let bottom ← optionalField? (Length.ofJson? false) bottom
      some ⟨index, row, width, left, right, bottom⟩
  | _ => none

end PlacedCell

namespace Plan

/-- A layout as a record of its cells and of the three things that all of them share. -/
def toJson (plan : Plan Float) : Json.Value :=
  .object [("cells", .array (plan.cells.map PlacedCell.toJson)),
    ("columns", .number (.whole plan.columns)), ("rows", .number (.whole plan.rows)),
    ("gutter_width", plan.gutters.across.toJson), ("gutter_height", plan.gutters.down.toJson)]

/-- The layout that a document holds, which need not be one that any spec has. -/
def ofJson? (document : Json ε) : Option (Plan Float) :=
  match fields? ["cells", "columns", "rows", "gutter_width", "gutter_height"] document with
  | some [cells, columns, rows, across, down] => do
      let cells ← field? (list? PlacedCell.ofJson?) cells
      let columns ← field? (natural? wordLimit) columns
      let rows ← field? (natural? longLimit) rows
      let across ← field? (Length.ofJson? false) across
      let down ← field? (Length.ofJson? false) down
      some ⟨cells, columns, rows, ⟨across, down⟩⟩
  | _ => none

end Plan

end FlexGrid
