import FlexGrid.Command.Run

/-! The program on a real machine. -/
namespace FlexGrid.Command

/-- An error of the machine as a refusal. -/
def refusalOf (e : IO.Error) : Refusal :=
  match e with
  | .noFileOrDirectory .. => .missing
  | .inappropriateType _ 20 _ => .notDirectory
  | .inappropriateType .. => .isDirectory
  | .invalidArgument _ 36 _ => .nameTooLong
  | e => .other (toString e)

/-- What an action gives, or why it was refused. -/
def attempt {α : Type} (action : IO α) : IO (Except Refusal α) := do
  match (← action.toBaseIO) with
  | .ok a => return .ok a
  | .error e => return .error (refusalOf e)

def machine : Host IO where
  readFile name := attempt (IO.FS.readBinFile name)
  readInput := attempt do (← IO.getStdin).readBinToEnd
  writeFile name text := attempt (IO.FS.writeFile name text)
  writeOutput text := attempt do
    let out ← IO.getStdout
    out.putStr text
    out.flush

end FlexGrid.Command

open FlexGrid.Command in
def main (words : List String) : IO UInt32 := do
  match Arguments.parse words with
  | .error .version => IO.print versionText; return 0
  | .error .help => IO.print usageText; return 0
  | .error .misuse => IO.eprint usageText; return 2
  | .ok arguments =>
      match (← (run machine arguments).run) with
      | .ok () => return 0
      | .error failure => IO.eprintln ("error: " ++ failure.message); return 1
