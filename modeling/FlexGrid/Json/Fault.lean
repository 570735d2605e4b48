/-! What can be wrong with a JSON text, and where. -/
namespace FlexGrid

/-- How far a text has been read: lines count from one, and the column is the number of bytes read of the
current line. -/
structure Position where
  line : Nat
  column : Nat
deriving DecidableEq

namespace Position

/-- Before any text. -/
def start : Position := ⟨1, 0⟩

def after (p : Position) (c : Char) : Position :=
  if c = '\n' then ⟨p.line + 1, 0⟩ else ⟨p.line, p.column + c.utf8Size⟩

/-- After the first byte of one more character. -/
def into (p : Position) (c : Char) : Position :=
  if c = '\n' then ⟨p.line + 1, 0⟩ else ⟨p.line, p.column + 1⟩

def afterAll (p : Position) (cs : List Char) : Position :=
  cs.foldl after p

/-- After `count` more bytes, which may end inside a character, or none if there are fewer. -/
def afterBytes (p : Position) : Nat → List Char → Option Position
  | 0, _ => some p
  | _ + 1, [] => none
  | count + 1, c :: cs =>
      if c.utf8Size ≤ count + 1 then (p.after c).afterBytes (count + 1 - c.utf8Size) cs
      else some ⟨p.line, p.column + (count + 1)⟩

/-- A position at the end of a message. -/
def text (p : Position) : String :=
  " at line " ++ toString p.line ++ " column " ++ toString p.column

end Position

namespace Json

/-- The ways in which a text fails to be JSON. -/
inductive Cause where
  | endInValue
  | endInArray
  | endInObject
  | endInString
  | expectedValue
  | expectedWord
  | expectedColon
  | expectedItemEnd
  | expectedMemberEnd
  | trailingComma
  | trailingCharacters
  | keyNotString
  | invalidNumber
  | numberOutOfRange
  | invalidEscape
  | loneSurrogate
  | missingSurrogate
  | controlCharacter
  | tooDeep
deriving DecidableEq

def Cause.text : Cause → String
  | .endInValue => "EOF while parsing a value"
  | .endInArray => "EOF while parsing a list"
  | .endInObject => "EOF while parsing an object"
  | .endInString => "EOF while parsing a string"
  | .expectedValue => "expected value"
  | .expectedWord => "expected ident"
  | .expectedColon => "expected \x60:\x60"
  | .expectedItemEnd => "expected \x60,\x60 or \x60]\x60"
  | .expectedMemberEnd => "expected \x60,\x60 or \x60\x7d\x60"
  | .trailingComma => "trailing comma"
  | .trailingCharacters => "trailing characters"
  | .keyNotString => "key must be a string"
  | .invalidNumber => "invalid number"
  | .numberOutOfRange => "number out of range"
  | .invalidEscape => "invalid escape"
  | .loneSurrogate => "lone leading surrogate in hex escape"
  | .missingSurrogate => "unexpected end of hex escape"
  | .controlCharacter => "control character (\\u0000-\\u001F) found while parsing a string"
  | .tooDeep => "recursion limit exceeded"

/-- A cause with the position that reading had reached. -/
structure Fault where
  cause : Cause
  position : Position
deriving DecidableEq

def Fault.message (f : Fault) : String :=
  f.cause.text ++ f.position.text

end Json

end FlexGrid
