import FlexGrid.Json.Basic
import FlexGrid.Row

/-! How values are stored as JSON. A record is an object with its fields by name, in which unknown fields are
passed over, or an array of all its fields in order. A choice is an object with one member, named for the
alternative; an alternative without content may be its name alone.

Everything is read from documents that may have holes: a hole matters only where something is read. -/
namespace FlexGrid.Serial

variable {ε α : Type}

def natural? (limit : Nat) : Json ε → Option Nat
  | .number (.whole (.ofNat n)) => if n ≤ limit then some n else none
  | _ => none

def longLimit : Nat :=
  18446744073709551615

def double? : Json ε → Option Float
  | .number (.whole n) => some (Float.ofInt n)
  | .number (.double x) => some x
  | _ => none

/-- A double as JSON. What is not finite is written as `null`. -/
def ofDouble (x : Float) : Json.Value :=
  if x.isFinite then .number (.double x) else .null

def text? : Json ε → Option String
  | .string s => some s
  | _ => none

/-- A list of items that can all be read. -/
def list? (read : Json ε → Option α) : Json ε → Option (List α)
  | .array items => items.mapM read
  | _ => none

/-- An item that may be `null`. -/
def nullable? (read : Json ε → Option α) : Json ε → Option (Option α)
  | .null => some none
  | item => (read item).map some

/-- An item that may be absent, as JSON. -/
def ofOption (write : α → Json.Value) : Option α → Json.Value
  | none => .null
  | some a => write a

/-- The member with a given key, which may be missing but not repeated. -/
def member? (members : List (String × Json ε)) (key : String) : Option (Option (Json ε)) :=
  match members.filter (·.1 == key) with
  | [] => some none
  | [(_, item)] => some (some item)
  | _ => none

/-- The fields of a record, those that are missing left out. -/
def fields? (names : List String) : Json ε → Option (List (Option (Json ε)))
  | .object members => names.mapM (member? members)
  | .array items => if items.length = names.length then some (items.map some) else none
  | _ => none

def field? (read : Json ε → Option α) (item : Option (Json ε)) : Option α :=
  item.bind read

/-- A field that may be missing or `null`. -/
def optionalField? (read : Json ε → Option α) : Option (Json ε) → Option (Option α)
  | none => some none
  | some item => nullable? read item

/-- The name of an alternative, with its content if there is any. -/
def alternative? : Json ε → Option (String × Option (Json ε))
  | .string name => some (name, none)
  | .object [(name, item)] => some (name, some item)
  | _ => none

/-- A choice with content. -/
def ofAlternative (name : String) (item : Json.Value) : Json.Value :=
  .object [(name, item)]

end FlexGrid.Serial
