/-! What a program needs of the machine it runs on. A program is written against a `Host` and does not know
whether files are real. -/
namespace FlexGrid.Command

/-- Why a file could not be read or written. -/
inductive Refusal where
  | missing
  | isDirectory
  | notDirectory
  | nameTooLong
  /-- The bytes of a file are no text. -/
  | notText
  | other (words : String)
deriving DecidableEq

def Refusal.text : Refusal → String
  | .missing => "No such file or directory (os error 2)"
  | .isDirectory => "Is a directory (os error 21)"
  | .notDirectory => "Not a directory (os error 20)"
  | .nameTooLong => "File name too long (os error 36)"
  | .notText => "stream did not contain valid UTF-8"
  | .other words => words

/-- Files by name, and the two standard streams. -/
structure Host (m : Type → Type) where
  readFile : String → m (Except Refusal ByteArray)
  readInput : m (Except Refusal ByteArray)
  writeFile : String → String → m (Except Refusal Unit)
  writeOutput : String → m (Except Refusal Unit)

def textOf (bytes : ByteArray) : Except Refusal String :=
  match String.fromUTF8? bytes with
  | some text => .ok text
  | none => .error .notText

end FlexGrid.Command
