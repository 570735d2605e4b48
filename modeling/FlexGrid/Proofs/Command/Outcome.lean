import FlexGrid.Proofs.Command.Writing

/-! What becomes of a run. Its stages are known by what each needs and how it fails, whatever the others do; a run fails
as the first of them that does, and then nothing is written. -/
namespace FlexGrid.Command

/-- The stages of a run, in the order in which they are reached. Each of them needs only what is named for it, so the
stages can be told apart even where several of them would fail. -/
inductive Stage where
  | configRead
  | configParse
  | inputRead
  | specParse
  | gutter
  | gutterHeight
  | compile
  | outputWrite
deriving DecidableEq

def Stage.all : List Stage :=
  [.configRead, .configParse, .inputRead, .specParse, .gutter, .gutterHeight, .compile, .outputWrite]

/-- The failure of what can fail, without what it comes to if it does not. Stages are compared by their failures
alone, for they come to things of different types. -/
def failureOf {α : Type} : Except Failure α → Option Failure
  | .error failure => some failure
  | .ok _ => none

@[simp] theorem failureOf_error {α : Type} (failure : Failure) :
    failureOf (.error failure : Except Failure α) = some failure :=
  rfl

/-- What follows a step that can fail is reached only if the step does not. -/
theorem exists_of_bind_eq_ok {α β : Type} {x : Except Failure α} {next : α → Except Failure β} {b : β}
    (h : x.bind next = .ok b) : ∃ a, x = .ok a ∧ next a = .ok b := by
  cases x with
  | error failure => cases h
  | ok a => exact ⟨a, rfl, h⟩

theorem exists_of_map_eq_ok {α β : Type} {x : Except Failure α} {f : α → β} {b : β} (h : x.map f = .ok b) :
    ∃ a, x = .ok a ∧ f a = b := by
  cases x with
  | error failure => cases h
  | ok a => exact ⟨a, rfl, Except.ok.inj h⟩

/-- The spec in a text, as a stage of a run. What is wrong with the text is reported as a fault of the spec. -/
def specOf (source : String) : Except Failure Spec :=
  (Spec.parse source).mapError .spec

/-- The options that settings give, as a stage of a run. Its two lengths fail each on its own. -/
def optionsOf (settings : Settings) : Except Failure (Options Float) :=
  settings.options.mapError .length

/-- The layout of a spec, as a stage of a run. It fails if some row of the spec is none, or is too wide. -/
def compileOf (spec : Spec) (options : Options Float) : Except Failure (Plan Float) :=
  (spec.compile options).mapError .compile

/-- The layout of a spec in a text takes three stages: the spec, the options and the layout. -/
theorem planOf_eq (source : String) (settings : Settings) :
    planOf source settings =
      (specOf source).bind fun spec => (optionsOf settings).bind fun options => compileOf spec options := by
  unfold planOf specOf optionsOf compileOf
  cases Spec.parse source with
  | error fault => rfl
  | ok spec =>
      cases (settings.options : Except Length.BadLiteral (Options Float)) with
      | error literal => rfl
      | ok options =>
          dsimp only
          change _ = (spec.compile options).mapError Failure.compile
          cases spec.compile options <;> rfl

namespace World

variable (w : World) (arguments : Arguments)

/-- The text of the settings file, if one is named. A run without a settings file has none to read and does not fail
here. -/
def configText : Except Failure (Option String) :=
  match arguments.config with
  | none => .ok none
  | some name => (w.text name).map some

/-- The text of the file that is named for the spec, or else of the standard input. -/
def inputText : Except Failure String :=
  match arguments.input with
  | none => (textOf w.input).mapError (.file "<stdin>")
  | some name => w.text name

/-- The settings of the file with those of the command line laid over them. -/
def settings? : Option Settings := do
  let file ← (w.configText arguments).toOption
  (settingsOf file arguments.overrides).toOption

/-- The spec, if its text can be had and is that of a spec. -/
def spec? : Option Spec := do
  let source ← (w.inputText arguments).toOption
  (specOf source).toOption

/-- The options, if the settings can be had and their lengths are lengths. -/
def options? : Option (Options Float) := do
  let settings ← w.settings? arguments
  (optionsOf settings).toOption

/-- The layout, if there are a spec and options to make it from. -/
def plan? : Option (Plan Float) := do
  let spec ← w.spec? arguments
  let options ← w.options? arguments
  (compileOf spec options).toOption

/-- The machine after a text is written to a file, or else to the standard output. -/
def deliver (output : Option String) (text : String) : Except Failure World :=
  match output with
  | none => .ok { w with output := w.output ++ text }
  | some name => (w.write name text).mapError (.file name)

end World

/-- What becomes of an action on a machine, and the machine after it, which is there also if the action fails. -/
def outcome {α : Type} (action : ExceptT Failure (StateM World) α) (w : World) :
    Except Failure α × World :=
  action.run.run w

/-- A failure ends a run where it happens: what follows is not reached, and the machine is left as it was then. -/
theorem outcome_bind {α β : Type} (action : ExceptT Failure (StateM World) α)
    (next : α → ExceptT Failure (StateM World) β) (w : World) :
    outcome (action >>= next) w =
      match outcome action w with
      | (.error failure, reached) => (.error failure, reached)
      | (.ok a, reached) => outcome (next a) reached := by
  simp only [outcome, ExceptT.run_bind, StateT.run_bind]
  change Id.run _ = _
  rcases action.run.run w with ⟨_ | _, _⟩ <;> rfl

/-- An action of the machine does not fail as a step of a run. What it refuses is a result like any other. -/
theorem outcome_lift {α : Type} (action : StateM World α) (w : World) :
    outcome (liftM action) w = (.ok (action.run w).1, (action.run w).2) :=
  rfl

/-- What does not depend on the machine does not change it. -/
theorem outcome_liftExcept {α : Type} (x : Except Failure α) (w : World) :
    outcome (run.liftExcept x) w = (x, w) :=
  rfl

/-- Reading a text fails with the name of the place it is read from, both if there is nothing to read and if what is
read is no text. -/
theorem outcome_readText {w : World} {name : String} {read : StateM World (Except Refusal ByteArray)}
    {bytes : Except Refusal ByteArray} (h : read.run w = (bytes, w)) :
    outcome (readText name read) w = ((bytes.bind textOf).mapError (.file name), w) := by
  rw [readText, outcome_bind, outcome_lift, h]
  cases bytes with
  | error refusal => rfl
  | ok bytes =>
      simp only [Except.bind]
      cases textOf bytes <;> rfl

/-- Writing a text fails with the name of the place it is written to. -/
theorem outcome_report {w reached : World} {name : String} {write : StateM World (Except Refusal Unit)}
    {result : Except Refusal Unit} (h : write.run w = (result, reached)) :
    outcome (run.report name write) w = (result.mapError (.file name), reached) := by
  rw [run.report, outcome_bind, outcome_lift, h]
  cases result <;> rfl

/-- The first step of a run: the settings file is read, if one is named, before the spec is looked at. -/
def readConfig (arguments : Arguments) : ExceptT Failure (StateM World) (Option String) :=
  match arguments.config with
  | none => pure none
  | some name => some <$> readText name (World.host.readFile name)

/-- The step of a run that reads the spec, from a file if one is named and otherwise from the standard input. -/
def readSource (arguments : Arguments) : ExceptT Failure (StateM World) String :=
  match arguments.input with
  | none => readText "<stdin>" World.host.readInput
  | some name => readText name (World.host.readFile name)

/-- The last step of a run: what it comes to is written to a file if one is named, and otherwise to the standard
output. -/
def writeResult (arguments : Arguments) (text : String) : ExceptT Failure (StateM World) Unit :=
  match arguments.output with
  | none => run.report "<stdout>" (World.host.writeOutput text)
  | some name => run.report name (World.host.writeFile name text)

/-- A run as a chain of steps: what follows a choice of the command line is the same for each choice. -/
theorem run_eq (arguments : Arguments) :
    run World.host arguments =
      readConfig arguments >>= fun file =>
      run.liftExcept (settingsOf file arguments.overrides) >>= fun settings =>
      readSource arguments >>= fun source =>
      run.liftExcept (planOf source settings) >>= fun plan =>
      writeResult arguments (render (arguments.format.getD .css) settings.style plan) := by
  simp only [run, readConfig, readSource, writeResult]
  cases arguments.config <;> cases arguments.input <;> rfl

/-- Reading the settings file leaves the machine as it is. -/
theorem outcome_readConfig (w : World) (arguments : Arguments) :
    outcome (readConfig arguments) w = (w.configText arguments, w) := by
  unfold readConfig World.configText
  cases arguments.config with
  | none => rfl
  | some name =>
      have hRead : outcome (readText name (World.host.readFile name)) w = (w.text name, w) :=
        outcome_readText rfl
      change outcome (readText name (World.host.readFile name) >>= fun text => pure (some text)) w =
        ((w.text name).map some, w)
      rw [outcome_bind, hRead]
      cases w.text name <;> rfl

theorem outcome_readSource (w : World) (arguments : Arguments) :
    outcome (readSource arguments) w = (w.inputText arguments, w) := by
  unfold readSource World.inputText
  cases arguments.input with
  | none => exact outcome_readText rfl
  | some name => exact outcome_readText rfl

theorem run_writeFile (w : World) (name text : String) :
    (World.host.writeFile name text).run w =
      match w.write name text with
      | .error refusal => (.error refusal, w)
      | .ok reached => (.ok (), reached) := by
  cases hWrite : w.write name text <;> simp [World.host, hWrite] <;> rfl

/-- Writing the result is the only step that changes the machine, and only if it does not fail. -/
theorem outcome_writeResult (w : World) (arguments : Arguments) (text : String) :
    outcome (writeResult arguments text) w =
      match w.deliver arguments.output text with
      | .error failure => (.error failure, w)
      | .ok reached => (.ok (), reached) := by
  unfold writeResult World.deliver
  cases arguments.output with
  | none => rfl
  | some name =>
      have hRun := run_writeFile w name text
      dsimp only
      cases hWrite : w.write name text with
      | error refusal =>
          rw [hWrite] at hRun
          exact outcome_report hRun
      | ok reached =>
          rw [hWrite] at hRun
          exact outcome_report hRun

/-- The settings and the layout that a run comes to, or why it does not. -/
def World.layout (w : World) (arguments : Arguments) : Except Failure (Settings × Plan Float) :=
  (w.configText arguments).bind fun file =>
  (settingsOf file arguments.overrides).bind fun settings =>
  (w.inputText arguments).bind fun source =>
  (planOf source settings).map fun plan => (settings, plan)

/-- A run up to its last step is a layout or a failure, and nothing of it is seen on the machine. The last step
delivers the layout. -/
theorem outcome_run (w : World) (arguments : Arguments) :
    outcome (run World.host arguments) w =
      match w.layout arguments with
      | .error failure => (.error failure, w)
      | .ok (settings, plan) =>
          match w.deliver arguments.output (render (arguments.format.getD .css) settings.style plan) with
          | .error failure => (.error failure, w)
          | .ok reached => (.ok (), reached) := by
  rw [run_eq, outcome_bind, outcome_readConfig, World.layout]
  rcases w.configText arguments with failure | file
  · rfl
  dsimp only
  rw [outcome_bind, outcome_liftExcept, Except.bind]
  rcases settingsOf file arguments.overrides with failure | settings
  · rfl
  dsimp only
  rw [outcome_bind, outcome_readSource, Except.bind]
  rcases w.inputText arguments with failure | source
  · rfl
  dsimp only
  rw [outcome_bind, outcome_liftExcept, Except.bind]
  rcases planOf source settings with failure | plan
  · rfl
  · exact outcome_writeResult w arguments _

namespace World

variable {w : World} {arguments : Arguments} {file : Option String} {settings : Settings} {source : String}
  {spec : Spec} {options : Options Float} {plan : Plan Float}

section Results

/-- The settings are known once the file is read and understood. -/
theorem settings?_eq (hFile : w.configText arguments = .ok file)
    (hSettings : settingsOf file arguments.overrides = .ok settings) : w.settings? arguments = some settings := by
  simp [settings?, hFile, hSettings, Except.toOption]

theorem spec?_eq (hSource : w.inputText arguments = .ok source) (hSpec : specOf source = .ok spec) :
    w.spec? arguments = some spec := by
  simp [spec?, hSource, hSpec, Except.toOption]

theorem options?_eq (hSettings : w.settings? arguments = some settings) (hOptions : optionsOf settings = .ok options) :
    w.options? arguments = some options := by
  simp [options?, hSettings, hOptions, Except.toOption]

theorem plan?_eq (hSpec : w.spec? arguments = some spec) (hOptions : w.options? arguments = some options)
    (hPlan : compileOf spec options = .ok plan) : w.plan? arguments = some plan := by
  simp [plan?, hSpec, hOptions, hPlan, Except.toOption]

/-- A run that comes to a layout knows all that the layout was made of. -/
theorem results_of_layout (h : w.layout arguments = .ok (settings, plan)) :
    w.settings? arguments = some settings ∧ w.plan? arguments = some plan := by
  obtain ⟨file, hFile, h⟩ := exists_of_bind_eq_ok h
  obtain ⟨found, hSettings, h⟩ := exists_of_bind_eq_ok h
  obtain ⟨source, hSource, h⟩ := exists_of_bind_eq_ok h
  rw [planOf_eq] at h
  obtain ⟨other, hPlanOf, hSame⟩ := exists_of_map_eq_ok h
  obtain ⟨rfl, rfl⟩ := Prod.mk.inj hSame
  obtain ⟨spec, hSpec, hPlanOf⟩ := exists_of_bind_eq_ok hPlanOf
  obtain ⟨options, hOptions, hPlan⟩ := exists_of_bind_eq_ok hPlanOf
  have hKnown := settings?_eq hFile hSettings
  exact ⟨hKnown, plan?_eq (spec?_eq hSource hSpec) (options?_eq hKnown hOptions) hPlan⟩

end Results

section Stages

/-! How a stage fails once what it needs is known. The two stages that read a text need nothing. -/

end Stages

end World

/-- What one machine has over another after a text is delivered: a file that holds the text, or the text on its standard
output. -/
def World.Delivered (w reached : World) (output : Option String) (text : String) : Prop :=
  match output with
  | none => reached = { w with output := w.output ++ text }
  | some name => w.Wrote reached name text

/-- A text that could be delivered is where it was to go, and nothing else on the machine has changed. -/
theorem World.delivered_of_deliver {w reached : World} {output : Option String} {text : String}
    (h : w.deliver output text = .ok reached) : w.Delivered reached output text := by
  unfold deliver at h
  cases output with
  | none => exact (Except.ok.inj h).symm
  | some name =>
      cases hWrite : w.write name text with
      | error refusal =>
          simp only [hWrite] at h
          cases h
      | ok machine =>
          simp only [hWrite] at h
          cases h
          exact wrote_of_write hWrite

end FlexGrid.Command
