import FlexGrid.Json.Token

/-! The grammar of JSON over tokens, as one step for each token. What was opened and is not yet closed
waits on a stack, so that a document may be nested to any depth; below the depth limit it turns into a
hole. The first fault in the order of the text is the one that is reported. -/
namespace FlexGrid.Json

/-- A document as it was read: a part that means nothing holds its fault. -/
abbrev Draft := Json Fault

/-- How many arrays and objects may be open at once. -/
def depthLimit : Nat :=
  127

/-- An array or object that is not yet closed, with what it holds so far, last one first. With a `flaw`
the whole of it becomes a hole. -/
inductive Frame where
  | array (flaw : Option Fault) (reversed : List Draft)
  | object (flaw : Option Fault) (reversed : List (String × Draft)) (key : String)

inductive Stage where
  | value
  /-- After an opening bracket: an item or the closing bracket. -/
  | firstItem
  /-- After a comma in an array. -/
  | nextItem
  | itemEnd
  /-- After an opening brace: a key or the closing brace. -/
  | firstKey
  /-- After a comma in an object. -/
  | nextKey
  | colon
  | memberEnd
  | done
deriving DecidableEq

structure Reading where
  frames : List Frame
  stage : Stage
  flaw : Option Fault
  result : Option Draft

namespace Reading

def initial : Reading :=
  ⟨[], .value, none, none⟩

/-- Give up. An earlier fault comes first. -/
def fail {α : Type} (r : Reading) (cause : Cause) (p : Position) : Except Fault α :=
  .error (r.flaw.getD ⟨cause, p⟩)

/-- A complete document takes its place. -/
def deliver (r : Reading) (document : Draft) : Reading :=
  match r.frames with
  | [] => { r with stage := .done, result := some document }
  | .array flaw reversed :: rest =>
      { r with stage := .itemEnd, frames := .array flaw (document :: reversed) :: rest }
  | .object flaw reversed key :: rest =>
      { r with stage := .memberEnd, frames := .object flaw ((key, document) :: reversed) key :: rest }

/-- A part that means nothing takes its place. -/
def deliverHole (r : Reading) (f : Fault) : Reading :=
  { r with flaw := r.flaw.or (some f) }.deliver (.hole f)

/-- The fault of opening one more level, if it is one too many. -/
def depthFlaw (r : Reading) (p : Position) : Option Fault :=
  if (r.frames.drop (depthLimit - 1)).isEmpty then none else some ⟨.tooDeep, p⟩

def openArray (r : Reading) (p : Position) : Reading :=
  let flaw := r.depthFlaw p
  { r with flaw := r.flaw.or flaw, stage := .firstItem, frames := .array flaw [] :: r.frames }

def openObject (r : Reading) (p : Position) : Reading :=
  let flaw := r.depthFlaw p
  { r with flaw := r.flaw.or flaw, stage := .firstKey, frames := .object flaw [] "" :: r.frames }

def close (r : Reading) : Reading :=
  match r.frames with
  | [] => r
  | .array flaw reversed :: rest =>
      { r with frames := rest }.deliver (flaw.elim (.array reversed.reverse) .hole)
  | .object flaw reversed _ :: rest =>
      { r with frames := rest }.deliver (flaw.elim (.object reversed.reverse) .hole)

/-- A key of the innermost object. A key that means nothing leaves the whole object without meaning. -/
def key (r : Reading) (name : Except Fault String) : Reading :=
  match r.frames, name with
  | .object flaw reversed _ :: rest, .ok name =>
      { r with stage := .colon, frames := .object flaw reversed name :: rest }
  | .object flaw reversed _ :: rest, .error f =>
      { r with
        stage := .colon
        flaw := r.flaw.or (some f)
        frames := .object (flaw.or (r.flaw.or (some f))) reversed "" :: rest }
  | _, _ => r

def value (r : Reading) (t : Token) : Except Fault Reading :=
  match t.lexeme with
  | .word .null => .ok (r.deliver .null)
  | .word .true => .ok (r.deliver (.boolean true))
  | .word .false => .ok (r.deliver (.boolean false))
  | .number (.ok n) => .ok (r.deliver (.number n))
  | .number (.error f) => .ok (r.deliverHole f)
  | .string (.ok s) => .ok (r.deliver (.string s))
  | .string (.error f) => .ok (r.deliverHole f)
  | .openArray => .ok (r.openArray t.first)
  | .openObject => .ok (r.openObject t.first)
  | .brokenString f => .error (r.flaw.getD f)
  | .brokenValue f => .error (r.flaw.getD f)
  | .finish => r.fail .endInValue t.first
  | .closeArray => r.fail .expectedValue t.first
  | .closeObject => r.fail .expectedValue t.first
  | .comma => r.fail .expectedValue t.first
  | .colon => r.fail .expectedValue t.first
  | .stray => r.fail .expectedValue t.first

def keyToken (r : Reading) (t : Token) : Except Fault Reading :=
  match t.lexeme with
  | .string name => .ok (r.key name)
  | .brokenString f => .error (r.flaw.getD f)
  | _ => r.fail .keyNotString t.first

def step (r : Reading) (t : Token) : Except Fault Reading :=
  match r.stage, t.lexeme with
  | .value, _ => r.value t
  | .firstItem, .closeArray => .ok r.close
  | .firstItem, .finish => r.fail .endInArray t.first
  | .firstItem, _ => r.value t
  | .nextItem, .closeArray => r.fail .trailingComma t.first
  | .nextItem, _ => r.value t
  | .itemEnd, .comma => .ok { r with stage := .nextItem }
  | .itemEnd, .closeArray => .ok r.close
  | .itemEnd, .finish => r.fail .endInArray t.first
  | .itemEnd, _ => r.fail .expectedItemEnd t.first
  | .firstKey, .closeObject => .ok r.close
  | .firstKey, .finish => r.fail .endInObject t.first
  | .firstKey, _ => r.keyToken t
  | .nextKey, .closeObject => r.fail .trailingComma t.first
  | .nextKey, .finish => r.fail .endInValue t.first
  | .nextKey, _ => r.keyToken t
  | .colon, .colon => .ok { r with stage := .value }
  | .colon, .finish => r.fail .endInObject t.first
  | .colon, _ => r.fail .expectedColon t.first
  | .memberEnd, .comma => .ok { r with stage := .nextKey }
  | .memberEnd, .closeObject => .ok r.close
  | .memberEnd, .finish => r.fail .endInObject t.first
  | .memberEnd, _ => r.fail .expectedMemberEnd t.first
  | .done, .finish => .ok r
  | .done, _ => r.fail .trailingCharacters t.first

end Reading

/-- Read one document that takes up a whole text. -/
def draft (source : String) : Except Fault Draft := do
  let reading ← (tokens .start source.toList).foldlM Reading.step .initial
  match reading.result with
  | some document => .ok document
  | none => reading.fail .endInValue .start

/-- Read one value that takes up a whole text. -/
def parse (source : String) : Except Fault Value := do
  (← draft source).whole

end FlexGrid.Json
