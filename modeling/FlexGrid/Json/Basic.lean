/-! JSON documents. A document may have holes, parts that were written correctly but mean no value; a
document without holes is a JSON value. Members of an object keep the order and the repetitions they were
written with, so that each use can settle what a repeated key means. -/
namespace FlexGrid

/-- A JSON number. Whole numbers that fit 64 bits, signed or not, stay whole; the others are doubles. -/
inductive Json.Number where
  | whole (value : Int)
  | double (value : Float)
deriving DecidableEq

/-- A JSON document whose unreadable parts each hold an `ε`. -/
inductive Json (ε : Type) where
  | null
  | boolean (value : Bool)
  | number (value : Json.Number)
  | string (value : String)
  | array (items : List (Json ε))
  | object (members : List (String × Json ε))
  | hole (flaw : ε)

namespace Json

/-- A document without holes. -/
abbrev Value := Json Empty

mutual

/-- The document as a value, or its first hole in the order of the text. -/
def whole {ε : Type} : Json ε → Except ε Value
  | .null => .ok .null
  | .boolean b => .ok (.boolean b)
  | .number n => .ok (.number n)
  | .string s => .ok (.string s)
  | .array items => (wholeItems items).map .array
  | .object members => (wholeMembers members).map .object
  | .hole flaw => .error flaw

def wholeItems {ε : Type} : List (Json ε) → Except ε (List Value)
  | [] => .ok []
  | item :: rest =>
      match whole item with
      | .error flaw => .error flaw
      | .ok value => (wholeItems rest).map (value :: ·)

def wholeMembers {ε : Type} : List (String × Json ε) → Except ε (List (String × Value))
  | [] => .ok []
  | (key, item) :: rest =>
      match whole item with
      | .error flaw => .error flaw
      | .ok value => (wholeMembers rest).map ((key, value) :: ·)

end

/-- Whether no part of the document is a hole. -/
def isWhole {ε : Type} (document : Json ε) : Bool :=
  match document.whole with
  | .ok _ => true
  | .error _ => false

/-- The kinds of JSON values. -/
inductive Kind where
  | null
  | boolean
  | number
  | string
  | array
  | object
deriving DecidableEq

def Kind.text : Kind → String
  | .null => "null"
  | .boolean => "a boolean"
  | .number => "a number"
  | .string => "a string"
  | .array => "an array"
  | .object => "an object"

def kind : Value → Kind
  | .null => .null
  | .boolean _ => .boolean
  | .number _ => .number
  | .string _ => .string
  | .array _ => .array
  | .object _ => .object

end Json

end FlexGrid
