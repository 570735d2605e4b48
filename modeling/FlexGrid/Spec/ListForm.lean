import FlexGrid.Json.Reader
import FlexGrid.Json.Writer
import FlexGrid.Spec

/-! The list form of grid specs: a JSON array with a string for each drawing and an array of the word
`distribute` and a count for each even row. A spec that is read from a text is one in this form. -/
namespace FlexGrid.Spec

/-- The word in front of a count. -/
def keyword : String :=
  "distribute"

/-- Why a value is not the list form of a spec. Rows count from one. -/
inductive FormFault where
  | notList (found : Json.Kind)
  | notEntry (row : Nat) (found : Json.Kind)
  | badCount (row : Nat) (found : Json.Value)

def FormFault.message : FormFault → String
  | .notList found => "Grid spec must be a list of rows, found " ++ found.text
  | .notEntry row found =>
      "Malformed row " ++ toString row ++ ": expected a row string or [\"" ++ keyword ++
        "\", n], found " ++ found.text
  | .badCount row found => Entry.countMessage row (Json.text found.sorted)

/-- A positive count that a word holds. -/
def count? : Json.Value → Option Nat
  | .number (.whole (.ofNat n)) => if 0 < n ∧ n ≤ wordLimit then some n else none
  | _ => none

/-- The entry that an element of the list stands for, as the `row`-th. -/
def entryOf (row : Nat) (value : Json.Value) : Except FormFault Entry :=
  match value with
  | .string text => .ok (.drawing text)
  | .array [.string word, found] =>
      if word = keyword then
        match count? found with
        | some count => .ok (.distribute count)
        | none => .error (.badCount row found)
      else .error (.notEntry row .array)
  | _ => .error (.notEntry row value.kind)

/-- The entries that elements of the list stand for, after `passed` earlier ones. -/
def entriesOf (passed : Nat) : List Json.Value → Except FormFault (List Entry)
  | [] => .ok []
  | value :: rest =>
      match entryOf (passed + 1) value with
      | .error fault => .error fault
      | .ok entry => (entriesOf (passed + 1) rest).map (entry :: ·)

/-- The spec that a value is the list form of, or the first fault from the top. -/
def ofListForm (value : Json.Value) : Except FormFault Spec :=
  match value with
  | .array items => (entriesOf 0 items).map (⟨·⟩)
  | _ => .error (.notList value.kind)

def entryForm : Entry → Json.Value
  | .drawing text => .string text
  | .distribute count => .array [.string keyword, .number (.whole count)]

def listForm (spec : Spec) : Json.Value :=
  .array (spec.entries.map entryForm)

/-- Why a text is not a spec. -/
inductive SourceFault where
  | json (fault : Json.Fault)
  | form (fault : FormFault)

def SourceFault.message : SourceFault → String
  | .json fault => "Invalid grid spec JSON: " ++ fault.message
  | .form fault => fault.message

/-- The spec in a text, whose list form is looked at once the whole text is known to be JSON. -/
def parse (source : String) : Except SourceFault Spec :=
  match Json.parse source with
  | .error fault => .error (.json fault)
  | .ok value =>
      match ofListForm value with
      | .error fault => .error (.form fault)
      | .ok spec => .ok spec

end FlexGrid.Spec
