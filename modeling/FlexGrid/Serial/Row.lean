import FlexGrid.Serial.Form
import FlexGrid.Spec

/-! The stored form of specs and rows. -/
namespace FlexGrid

open Serial

variable {ε : Type}

namespace Entry

/-- An entry as a choice with content: the text of a drawing under one name, the count of an even row under
another. -/
def toJson : Entry → Json.Value
  | .drawing text => ofAlternative "ascii" (.string text)
  | .distribute count => ofAlternative "distribute" (.number (.whole count))

/-- The entry that a document holds. A count has to fit a word, but it may be zero: a spec is only looked at for such
faults when its rows are asked for. -/
def ofJson? (document : Json ε) : Option Entry :=
  match alternative? document with
  | some ("ascii", some item) => (text? item).map .drawing
  | some ("distribute", some item) => (natural? wordLimit item).map .distribute
  | _ => none

end Entry

namespace Spec

/-- A spec as a record whose one field is the list of its entries. -/
def toJson (spec : Spec) : Json.Value :=
  .object [("rows", .array (spec.entries.map Entry.toJson))]

/-- The spec that a document holds, if each item of its list is an entry. -/
def ofJson? (document : Json ε) : Option Spec :=
  match fields? ["rows"] document with
  | some [rows] => (field? (list? Entry.ofJson?) rows).map (⟨·⟩)
  | _ => none

end Spec

namespace Cell

/-- A cell as a record of its two counts. The spaces in front of it go by the name of an offset. -/
def toJson (cell : Cell) : Json.Value :=
  .object [("span", .number (.whole cell.span)), ("offset", .number (.whole cell.gap))]

/-- The cell that a document holds. Any two counts that fit words make a cell, also a span of zero. -/
def ofJson? (document : Json ε) : Option Cell :=
  match fields? ["span", "offset"] document with
  | some [span, gap] => do
      let span ← field? (natural? wordLimit) span
      let gap ← field? (natural? wordLimit) gap
      some ⟨span, gap⟩
  | _ => none

end Cell

namespace DrawnRow

/-- A drawn row as a record whose one field is the list of its cells. -/
def toJson (row : DrawnRow) : Json.Value :=
  .object [("cells", .array (row.cells.map Cell.toJson))]

/-- The drawn row that a document holds, if each item of its list is a cell. -/
def ofJson? (document : Json ε) : Option DrawnRow :=
  match fields? ["cells"] document with
  | some [cells] => (field? (list? Cell.ofJson?) cells).map (⟨·⟩)
  | _ => none

end DrawnRow

namespace Row

/-- A row as a choice with content. The names of its alternatives begin with a capital, other than those of
entries. -/
def toJson : Row → Json.Value
  | .drawn row => ofAlternative "Parsed" row.toJson
  | .even count _ => ofAlternative "Distribute" (.number (.whole count))

/-- The row that a document holds. An even row of no cells is refused, for there is no such row. -/
def ofJson? (document : Json ε) : Option Row :=
  match alternative? document with
  | some ("Parsed", some item) => (DrawnRow.ofJson? item).map .drawn
  | some ("Distribute", some item) => do
      let count ← natural? wordLimit item
      if positive : 0 < count then some (.even count positive) else none
  | _ => none

end Row

end FlexGrid
