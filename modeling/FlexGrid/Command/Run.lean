import FlexGrid.Command.Arguments
import FlexGrid.Command.Host
import FlexGrid.Serial.Plan
import FlexGrid.Settings.Source
import FlexGrid.Spec.ListForm

/-! The program: read the settings file, read a spec, lay it out, and write the result. Nothing is written
unless everything before it went well. -/
namespace FlexGrid.Command

/-- Why a run fails. -/
inductive Failure where
  | file (name : String) (refusal : Refusal)
  | settings (fault : Settings.Fault)
  | spec (fault : Spec.SourceFault)
  | length (literal : Length.BadLiteral)
  | compile (fault : CompileFault)

def Failure.message : Failure → String
  | .file name refusal => name ++ ": " ++ refusal.text
  | .settings fault => "Invalid config: " ++ fault.message
  | .spec fault => fault.message
  | .length literal => literal.message
  | .compile fault => fault.message

/-- Settings from the text of a settings file, with those of the command line laid over them. -/
def settingsOf (file : Option String) (overrides : Settings) : Except Failure Settings :=
  match file with
  | none => .ok (Settings.unset.overlay overrides)
  | some text =>
      match Settings.parse text with
      | .error fault => .error (.settings fault)
      | .ok settings => .ok (settings.overlay overrides)

/-- The layout of a spec in JSON text. The spec is read first, then the lengths among the settings. -/
def planOf (source : String) (settings : Settings) : Except Failure (Plan Float) :=
  match Spec.parse source with
  | .error fault => .error (.spec fault)
  | .ok spec =>
      match (settings.options : Except Length.BadLiteral (Options Float)) with
      | .error literal => .error (.length literal)
      | .ok options =>
          match spec.compile options with
          | .error fault => .error (.compile fault)
          | .ok plan => .ok plan

def render (format : Format) (style : Style) (plan : Plan Float) : String :=
  match format with
  | .css => plan.css style
  | .json => Json.pretty plan.toJson ++ "\n"

/-- Read a text from somewhere, called `name` in messages. -/
def readText {m : Type → Type} [Monad m] (name : String) (read : m (Except Refusal ByteArray)) :
    ExceptT Failure m String := do
  match (← read) with
  | .error refusal => throw (.file name refusal)
  | .ok bytes =>
      match textOf bytes with
      | .error refusal => throw (.file name refusal)
      | .ok text => return text

def run {m : Type → Type} [Monad m] (host : Host m) (arguments : Arguments) :
    ExceptT Failure m Unit := do
  let file ← match arguments.config with
    | none => pure none
    | some name => some <$> readText name (host.readFile name)
  let settings ← liftExcept (settingsOf file arguments.overrides)
  let source ← match arguments.input with
    | none => readText "<stdin>" host.readInput
    | some name => readText name (host.readFile name)
  let plan ← liftExcept (planOf source settings)
  let text := render (arguments.format.getD .css) settings.style plan
  match arguments.output with
  | none => report "<stdout>" (host.writeOutput text)
  | some name => report name (host.writeFile name text)
where
  /-- An outcome that does not depend on the machine. -/
  liftExcept {α : Type} (outcome : Except Failure α) : ExceptT Failure m α :=
    ExceptT.mk (pure outcome)
  /-- Write to somewhere, called `name` in messages. -/
  report (name : String) (write : m (Except Refusal Unit)) : ExceptT Failure m Unit := do
    match (← write) with
    | .error refusal => throw (.file name refusal)
    | .ok () => return ()

/-- What the program answers when asked for its version. -/
def versionText : String :=
  "gridspec 0.1.0\n"

def usageText : String :=
  "Usage: gridspec [OPTIONS] [INPUT]\n"

end FlexGrid.Command
