import FlexGrid.Settings

/-! The command line. Options are written short (`-g 1px`, `-g1px`, `-g=1px`) or long (`--gutter 1px`,
`--gutter=1px`), and short ones may share a dash as long as only the last takes a value. After `--`
everything is an operand, and a lone `-` always is. -/
namespace FlexGrid.Command

inductive Format where
  | css
  | json
deriving DecidableEq

/-- The options that take a value. -/
inductive Setting where
  | output
  | gutter
  | gutterHeight
  | columns
  | selector
  | format
  | config
deriving DecidableEq

/-- All options. -/
inductive Flag where
  | setting (s : Setting)
  | verbose
  | version
  | help
deriving DecidableEq

def Flag.ofLetter? : Char → Option Flag
  | 'o' => some (.setting .output)
  | 'g' => some (.setting .gutter)
  | 's' => some (.setting .selector)
  | 'f' => some (.setting .format)
  | 'c' => some (.setting .config)
  | 'v' => some .verbose
  | 'V' => some .version
  | 'h' => some .help
  | _ => none

/-- The option with a given name. Names are not abbreviated. -/
def Flag.ofName? : String → Option Flag
  | "output" => some (.setting .output)
  | "gutter" => some (.setting .gutter)
  | "gutter-height" => some (.setting .gutterHeight)
  | "columns" => some (.setting .columns)
  | "selector" => some (.setting .selector)
  | "format" => some (.setting .format)
  | "config" => some (.setting .config)
  | "verbose" => some .verbose
  | "version" => some .version
  | "help" => some .help
  | _ => none

structure Arguments where
  input : Option String
  output : Option String
  config : Option String
  format : Option Format
  overrides : Settings
  verbose : Bool
deriving DecidableEq

def Arguments.empty : Arguments :=
  ⟨none, none, none, none, .unset, false⟩

/-- Why a command line is not run: it is wrong, or it asks for something else. -/
inductive Stop where
  | misuse
  | version
  | help
deriving DecidableEq

/-- Give a value once. -/
def once {α : Type} (old : Option α) (new : Option α) : Except Stop (Option α) :=
  match old, new with
  | none, some a => .ok (some a)
  | _, _ => .error .misuse

/-- A file name. It is not empty. -/
def fileName? (text : String) : Option String :=
  if text.isEmpty then none else some text

/-- A number of columns: digits, with one sign allowed, for a number that a word holds. With a minus sign
the number can only be zero. -/
def columns? (text : String) : Option Nat :=
  let (digits, limit) := match text.toList with
    | '+' :: rest => (rest, wordLimit)
    | '-' :: rest => (rest, 0)
    | cs => (cs, wordLimit)
  if digits.isEmpty || !digits.all Char.isDigit then none
  else
    let value := Decimal.digitsValue digits
    if value ≤ limit then some value else none

def format? : String → Option Format
  | "css" => some .css
  | "json" => some .json
  | _ => none

namespace Arguments

/-- Take the value of an option. No option is given twice. -/
def set (a : Arguments) (s : Setting) (text : String) : Except Stop Arguments :=
  match s with
  | .output => (once a.output (fileName? text)).map fun output => { a with output }
  | .config => (once a.config (fileName? text)).map fun config => { a with config }
  | .format => (once a.format (format? text)).map fun format => { a with format }
  | .gutter =>
      (once a.overrides.gutter (some text)).map fun gutter =>
        { a with overrides := { a.overrides with gutter } }
  | .gutterHeight =>
      (once a.overrides.gutterHeight (some text)).map fun gutterHeight =>
        { a with overrides := { a.overrides with gutterHeight } }
  | .selector =>
      (once a.overrides.selector (some text)).map fun selector =>
        { a with overrides := { a.overrides with selector } }
  | .columns =>
      (once a.overrides.columns (columns? text)).map fun columns =>
        { a with overrides := { a.overrides with columns } }

/-- Take an operand. There is at most one. -/
def operand (a : Arguments) (text : String) : Except Stop Arguments :=
  (once a.input (fileName? text)).map fun input => { a with input }

/-- Take an option without a value. -/
def flag (a : Arguments) : Flag → Except Stop Arguments
  | .setting _ => .error .misuse
  | .verbose => if a.verbose then .error .misuse else .ok { a with verbose := true }
  | .version => .error .version
  | .help => .error .help

/-- The options behind one dash. The last one may wait for its value. -/
def letters (a : Arguments) : List Char → Except Stop (Arguments × Option Setting)
  | [] => .ok (a, none)
  | c :: rest =>
      match Flag.ofLetter? c, rest with
      | none, _ => .error .misuse
      | some (.setting s), [] => .ok (a, some s)
      | some (.setting s), '=' :: value => (a.set s (String.ofList value)).map (·, none)
      | some (.setting s), value => (a.set s (String.ofList value)).map (·, none)
      | some f, rest =>
          match a.flag f with
          | .error stop => .error stop
          | .ok a => a.letters rest

/-- An option by its name, with the value behind an equals sign if there is one. -/
def named (a : Arguments) (word : List Char) : Except Stop (Arguments × Option Setting) :=
  let name := String.ofList (word.takeWhile (· != '='))
  match Flag.ofName? name, word.dropWhile (· != '=') with
  | none, _ => .error .misuse
  | some (.setting s), [] => .ok (a, some s)
  | some (.setting s), _ :: value => (a.set s (String.ofList value)).map (·, none)
  | some f, [] => (a.flag f).map (·, none)
  | some _, _ :: _ => .error .misuse

/-- The rest of a command line, when an option waits for its value or none does. -/
def take (a : Arguments) : Option Setting → List String → Except Stop Arguments
  | none, [] => .ok a
  | some _, [] => .error .misuse
  | pending, word :: rest =>
      match word.toList, pending with
      | ['-', '-'], none => rest.foldlM operand a
      | ['-', '-'], some _ => .error .misuse
      | '-' :: _ :: _, some _ => .error .misuse
      | '-' :: '-' :: name, none =>
          match a.named name with
          | .error stop => .error stop
          | .ok (a, pending) => a.take pending rest
      | '-' :: c :: cs, none =>
          match a.letters (c :: cs) with
          | .error stop => .error stop
          | .ok (a, pending) => a.take pending rest
      | _, some s =>
          match a.set s word with
          | .error stop => .error stop
          | .ok a => a.take none rest
      | _, none =>
          match a.operand word with
          | .error stop => .error stop
          | .ok a => a.take none rest

/-- Understand a command line. The first word that settles the matter counts. -/
def parse (words : List String) : Except Stop Arguments :=
  Arguments.empty.take none words

end Arguments

end FlexGrid.Command
