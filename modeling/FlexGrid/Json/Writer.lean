import FlexGrid.Json.Number

/-! Text of JSON values, on one line or spread over lines with two spaces for each level. -/
namespace FlexGrid.Json

/-- One character of a string. Only quotation marks, backslashes and control characters are escaped. -/
def escape (c : Char) : List Char :=
  match c with
  | '\x22' => ['\\', '\x22']
  | '\\' => ['\\', '\\']
  | '\x08' => ['\\', 'b']
  | '\x0c' => ['\\', 'f']
  | '\n' => ['\\', 'n']
  | '\r' => ['\\', 'r']
  | '\t' => ['\\', 't']
  | _ =>
      if c.toNat < 0x20 then
        ['\\', 'u', '0', '0', Nat.digitChar (c.toNat / 16), Nat.digitChar (c.toNat % 16)]
      else [c]

/-- A string with its quotation marks. -/
def stringText (text : String) : String :=
  String.ofList ('\x22' :: text.toList.flatMap escape ++ ['\x22'])

mutual

/-- The pieces of a value on one line. -/
def pieces : Value → List String
  | .null => ["null"]
  | .boolean true => ["true"]
  | .boolean false => ["false"]
  | .number n => [n.text]
  | .string s => [stringText s]
  | .array items => "[" :: itemPieces items ++ ["]"]
  | .object members => "\x7b" :: memberPieces members ++ ["\x7d"]

def itemPieces : List Value → List String
  | [] => []
  | [item] => pieces item
  | item :: rest => pieces item ++ "," :: itemPieces rest

def memberPieces : List (String × Value) → List String
  | [] => []
  | [(key, item)] => stringText key :: ":" :: pieces item
  | (key, item) :: rest => stringText key :: ":" :: pieces item ++ "," :: memberPieces rest

end

/-- A value on one line, without blanks. -/
def text (value : Value) : String :=
  String.join (pieces value)

def lineBreak (depth : Nat) : String :=
  String.ofList ('\n' :: List.replicate (2 * depth) ' ')

mutual

/-- The pieces of a value at a given depth, one item or member a line. Empty arrays and objects stay
closed. -/
def linesAt (depth : Nat) : Value → List String
  | .null => ["null"]
  | .boolean true => ["true"]
  | .boolean false => ["false"]
  | .number n => [n.text]
  | .string s => [stringText s]
  | .array [] => ["[]"]
  | .array (item :: rest) =>
      "[" :: itemLines (depth + 1) (item :: rest) ++ [lineBreak depth, "]"]
  | .object [] => ["\x7b\x7d"]
  | .object (member :: rest) =>
      "\x7b" :: memberLines (depth + 1) (member :: rest) ++ [lineBreak depth, "\x7d"]

def itemLines (depth : Nat) : List Value → List String
  | [] => []
  | [item] => lineBreak depth :: linesAt depth item
  | item :: rest => lineBreak depth :: linesAt depth item ++ "," :: itemLines depth rest

def memberLines (depth : Nat) : List (String × Value) → List String
  | [] => []
  | [(key, item)] => lineBreak depth :: stringText key :: ": " :: linesAt depth item
  | (key, item) :: rest =>
      lineBreak depth :: stringText key :: ": " :: linesAt depth item ++ "," ::
        memberLines depth rest

end

/-- A value spread over lines. -/
def pretty (value : Value) : String :=
  String.join (linesAt 0 value)

/-- Put a member in its place among members with increasing keys. One with the same key is replaced. -/
def insertMember (key : String) (value : Value) :
    List (String × Value) → List (String × Value)
  | [] => [(key, value)]
  | (first, item) :: rest =>
      if key < first then (key, value) :: (first, item) :: rest
      else if key = first then (key, value) :: rest
      else (first, item) :: insertMember key value rest

mutual

/-- The value with the members of every object in the order of their keys. Of members with one key only
the last is kept. -/
def sorted : Value → Value
  | .null => .null
  | .boolean b => .boolean b
  | .number n => .number n
  | .string s => .string s
  | .array items => .array (sortedItems items)
  | .object members => .object (sortedMembers [] members)

def sortedItems : List Value → List Value
  | [] => []
  | item :: rest => sorted item :: sortedItems rest

def sortedMembers (done : List (String × Value)) : List (String × Value) → List (String × Value)
  | [] => done
  | (key, item) :: rest => sortedMembers (insertMember key (sorted item) done) rest

end

end FlexGrid.Json
