import FlexGrid.Stylesheet

/-! Reading the rules of a stylesheet back from its text, line by line. A rule is a line with its selector, a
line for each declaration and a line with the closing brace, and an empty line follows it unless it is the
last. Whether a line belongs to a rule depends only on the lines before it, so selectors and indents may
hold any characters but line breaks. -/
namespace FlexGrid.Rule

/-- A line without its last characters, if it ends in them. -/
def withoutEnd? (ending line : List Char) : Option (List Char) :=
  if ending.isSuffixOf line then some (line.take (line.length - ending.length)) else none

/-- A line without its first characters, if it begins with them. -/
def withoutStart? (beginning line : List Char) : Option (List Char) :=
  if beginning.isPrefixOf line then some (line.drop beginning.length) else none

def selector? (line : List Char) : Option String :=
  (withoutEnd? [' ', '\x7b'] line).map String.ofList

/-- The declaration on a line of its own. A property has no colon in it. -/
def declaration? (indent line : List Char) : Option Declaration := do
  let content ← withoutEnd? [';'] (← withoutStart? indent line)
  let property := content.takeWhile (· != ':')
  let value ← withoutStart? [':', ' '] (content.dropWhile (· != ':'))
  some ⟨String.ofList property, String.ofList value⟩

/-- What the next line belongs to. -/
inductive Stage where
  | selector
  /-- A rule that is not yet closed, with its declarations so far, last one first. -/
  | body (selector : String) (reversed : List Declaration)
  | closed

/-- A stylesheet that is being read, with its complete rules, last one first. -/
structure Reading where
  stage : Stage
  reversed : List Rule

def Reading.step (indent : List Char) (r : Reading) (line : List Char) : Option Reading :=
  match r.stage with
  | .selector => (selector? line).map fun selector => { r with stage := .body selector [] }
  | .body selector declarations =>
      if line = ['\x7d'] then some ⟨.closed, ⟨selector, declarations.reverse⟩ :: r.reversed⟩
      else
        (declaration? indent line).map fun d =>
          { r with stage := .body selector (d :: declarations) }
  | .closed => if line.isEmpty then some { r with stage := .selector } else none

/-- The rules that were read, if the last one is closed. -/
def Reading.finish (r : Reading) : Option (List Rule) :=
  match r.stage with
  | .selector => some r.reversed.reverse
  | _ => none

/-- Read the rules of a stylesheet. The text ends in a line break, so an empty line closes it too. -/
def parse? (style : Style) (text : String) : Option (List Rule) :=
  ((text.toList.splitOn '\n').foldlM (Reading.step style.indent.toList) ⟨.selector, []⟩).bind
    Reading.finish

end FlexGrid.Rule
