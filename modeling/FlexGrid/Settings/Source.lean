import FlexGrid.Settings
import FlexGrid.Json.Token

/-! Settings read from JSON text: an object with a member for each setting that is given, or an array of
settings in their order that may stop early. A `null` gives no setting. What is wrong is reported where it
stands in the text, before anything that follows it is read. -/
namespace FlexGrid.Settings

/-- The settings by name. -/
inductive Field where
  | gutter
  | gutterHeight
  | columns
  | selector
deriving DecidableEq

namespace Field

def all : List Field :=
  [.gutter, .gutterHeight, .columns, .selector]

def key : Field → String
  | .gutter => "gutter"
  | .gutterHeight => "gutter_height"
  | .columns => "columns"
  | .selector => "selector"

def expected : Field → String
  | .columns => "u32"
  | _ => "a string"

def ofKey? (key : String) : Option Field :=
  all.find? (·.key == key)

end Field

/-- What was found in place of something else. -/
inductive Found where
  | null
  | boolean (value : Bool)
  | whole (value : Int)
  | double (value : Float)
  | string (value : String)
  | array
  | object

def Found.text : Found → String
  | .null => "null"
  | .boolean value => "boolean \x60" ++ toString value ++ "\x60"
  | .whole value => "integer \x60" ++ toString value ++ "\x60"
  | .double value => "floating point \x60" ++ (Json.Number.double value).text ++ "\x60"
  | .string value => "string " ++ Text.quoted value
  | .array => "sequence"
  | .object => "map"

/-- The ways in which a text fails to be settings. -/
inductive Cause where
  | json (cause : Json.Cause)
  | unknownField (key : String)
  | duplicateField (field : Field)
  | wrongType (found : Found) (expected : String)
  | countOutOfRange (value : Int)

def Cause.text : Cause → String
  | .json cause => cause.text
  | .unknownField key =>
      "unknown field \x60" ++ key ++ "\x60, expected one of " ++
        ", ".intercalate (Field.all.map fun f => "\x60" ++ f.key ++ "\x60")
  | .duplicateField field => "duplicate field \x60" ++ field.key ++ "\x60"
  | .wrongType found expected => "invalid type: " ++ found.text ++ ", expected " ++ expected
  | .countOutOfRange value =>
      "invalid value: integer \x60" ++ toString value ++ "\x60, expected u32"

/-- A cause with the position that reading had reached. -/
structure Fault where
  cause : Cause
  position : Position

def Fault.message (f : Fault) : String :=
  f.cause.text ++ f.position.text

def Fault.ofJson (f : Json.Fault) : Fault :=
  ⟨.json f.cause, f.position⟩

/-- What may come next. -/
inductive Stage where
  | opening
  /-- After an opening brace: a key or the closing brace. -/
  | firstKey
  /-- After a comma in an object. -/
  | nextKey
  | colon (field : Field)
  | member (field : Field)
  | memberEnd
  /-- After a key that is refused; the token that follows tells how far the text was read. -/
  | refused (cause : Cause)
  /-- After an opening bracket: a setting or the closing bracket. -/
  | firstItem (field : Field) (later : List Field)
  | itemEnd (later : List Field)
  /-- After a comma in an array, with the settings that may still follow. -/
  | nextItem (later : List Field)
  | done

/-- Settings that are being read, with the keys passed so far. -/
structure Reading where
  stage : Stage
  seen : List Field
  settings : Settings

namespace Reading

def initial : Reading :=
  ⟨.opening, [], .unset⟩

def fail {α : Type} (cause : Json.Cause) (p : Position) : Except Fault α :=
  .error ⟨.json cause, p⟩

def refuse {α : Type} (found : Found) (expected : String) (p : Position) : Except Fault α :=
  .error ⟨.wrongType found expected, p⟩

/-- Refuse any value that is not what is expected. Of an array or object nothing is read. -/
def refuseToken {α : Type} (t : Json.Token) (expected : String) : Except Fault α :=
  match t.lexeme with
  | .word .null => refuse .null expected t.stop
  | .word .true => refuse (.boolean true) expected t.stop
  | .word .false => refuse (.boolean false) expected t.stop
  | .number (.ok (.whole n)) => refuse (.whole n) expected t.stop
  | .number (.ok (.double x)) => refuse (.double x) expected t.stop
  | .number (.error f) => .error (.ofJson f)
  | .string (.ok s) => refuse (.string s) expected t.stop
  | .string (.error f) => .error (.ofJson f)
  | .openArray => refuse .array expected t.start
  | .openObject => refuse .object expected t.start
  | .brokenString f => .error (.ofJson f)
  | .brokenValue f => .error (.ofJson f)
  | .finish => fail .endInValue t.first
  | .closeArray => fail .expectedValue t.first
  | .closeObject => fail .expectedValue t.first
  | .comma => fail .expectedValue t.first
  | .colon => fail .expectedValue t.first
  | .stray => fail .expectedValue t.first

def assign (settings : Settings) (field : Field) (t : Json.Token) : Except Fault Settings :=
  match field, t.lexeme with
  | .gutter, .word .null => .ok { settings with gutter := none }
  | .gutter, .string (.ok s) => .ok { settings with gutter := some s }
  | .gutterHeight, .word .null => .ok { settings with gutterHeight := none }
  | .gutterHeight, .string (.ok s) => .ok { settings with gutterHeight := some s }
  | .columns, .word .null => .ok { settings with columns := none }
  | .columns, .number (.ok (.whole n)) =>
      if 0 ≤ n ∧ n ≤ wordLimit then .ok { settings with columns := some n.toNat }
      else .error ⟨.countOutOfRange n, t.stop⟩
  | .selector, .word .null => .ok { settings with selector := none }
  | .selector, .string (.ok s) => .ok { settings with selector := some s }
  | _, _ => refuseToken t field.expected

/-- A token where the value of a setting is expected, and what may come after it. -/
def value (r : Reading) (field : Field) (after : Stage) (t : Json.Token) : Except Fault Reading :=
  (assign r.settings field t).map fun settings => { r with stage := after, settings }

def key (r : Reading) (t : Json.Token) : Except Fault Reading :=
  match t.lexeme with
  | .string (.ok name) =>
      match Field.ofKey? name with
      | none => .ok { r with stage := .refused (.unknownField name) }
      | some field =>
          if field ∈ r.seen then .ok { r with stage := .refused (.duplicateField field) }
          else .ok { r with stage := .colon field, seen := field :: r.seen }
  | .string (.error f) => .error (.ofJson f)
  | .brokenString f => .error (.ofJson f)
  | _ => fail .keyNotString t.first

def step (r : Reading) (t : Json.Token) : Except Fault Reading :=
  match r.stage, t.lexeme with
  | .opening, .openObject => .ok { r with stage := .firstKey }
  | .opening, .openArray =>
      .ok { r with stage := .firstItem .gutter [.gutterHeight, .columns, .selector] }
  | .opening, _ => refuseToken t "struct Config"
  | .firstKey, .closeObject => .ok { r with stage := .done }
  | .firstKey, .finish => fail .endInObject t.first
  | .firstKey, _ => r.key t
  | .nextKey, .closeObject => fail .trailingComma t.first
  | .nextKey, .finish => fail .endInValue t.first
  | .nextKey, _ => r.key t
  | .colon field, .colon => .ok { r with stage := .member field }
  | .colon _, .finish => fail .endInObject t.first
  | .colon _, _ => fail .expectedColon t.first
  | .member field, _ => r.value field .memberEnd t
  | .memberEnd, .comma => .ok { r with stage := .nextKey }
  | .memberEnd, .closeObject => .ok { r with stage := .done }
  | .memberEnd, .finish => fail .endInObject t.first
  | .memberEnd, _ => fail .expectedMemberEnd t.first
  | .refused cause, .closeObject => .error ⟨cause, t.stop⟩
  | .refused cause, _ => .error ⟨cause, t.start⟩
  | .firstItem _ _, .closeArray => .ok { r with stage := .done }
  | .firstItem _ _, .finish => fail .endInArray t.first
  | .firstItem field later, _ => r.value field (.itemEnd later) t
  | .itemEnd later, .comma => .ok { r with stage := .nextItem later }
  | .itemEnd _, .closeArray => .ok { r with stage := .done }
  | .itemEnd _, .finish => fail .endInArray t.first
  | .itemEnd [], _ => fail .trailingCharacters t.first
  | .itemEnd (_ :: _), _ => fail .expectedItemEnd t.first
  | .nextItem _, .closeArray => fail .trailingComma t.first
  | .nextItem [], _ => fail .trailingCharacters t.first
  | .nextItem (field :: later), _ => r.value field (.itemEnd later) t
  | .done, .finish => .ok r
  | .done, _ => fail .trailingCharacters t.first

end Reading

def parse (source : String) : Except Fault Settings := do
  let reading ← (Json.tokens .start source.toList).foldlM Reading.step .initial
  .ok reading.settings

end FlexGrid.Settings
