import FlexGrid.Command.Host

/-! A machine as a value: the files around a working directory, the standard input, and what was written to
the standard output. -/
namespace FlexGrid.Command

/-- A file with its bytes, or a directory. -/
inductive Node where
  | file (bytes : ByteArray)
  | directory

/-- A place in the file system, by the names on the way to it from the working directory: `..` for each
step up, then names down. The way to a place may also begin at the topmost directory, written `/`. -/
abbrev Path := List String

/-- Whether a place is the topmost directory, the working directory, or one between them. -/
def Path.isAbove (path : Path) : Bool :=
  path == ["/"] || path.all (· == "..")

/-- The directory that a place is in. The topmost one is in itself. -/
def Path.parent (path : Path) : Path :=
  if path = ["/"] then path
  else if path.isAbove then path ++ [".."]
  else path.dropLast

/-- A machine. Its files are listed by place, and so are the directories below the working directory. -/
structure World where
  nodes : List (Path × Node)
  input : ByteArray
  output : String

namespace World

/-- The names in a path, slashes left out. -/
def names (path : List Char) : List String :=
  (path.splitOn '/').map String.ofList

/-- The node at a place. The topmost directory, the working directory and those between them are always
there. A name has at most 255 bytes. -/
def look (w : World) (path : Path) : Except Refusal Node :=
  if path.isAbove then .ok .directory
  else if path.any fun name => 255 < name.utf8ByteSize then .error .nameTooLong
  else
    match w.nodes.lookup path with
    | none => .error .missing
    | some node => .ok node

/-- Follow names from a place. Every name but the last one must be that of a directory. An empty name and
`.` stay where they are, and `..` leads to the directory that one is in. -/
def follow (w : World) (here : Path) : List String → Except Refusal Path
  | [] => .ok here
  | name :: rest =>
      match w.look here with
      | .error refusal => .error refusal
      | .ok (.file _) => .error .notDirectory
      | .ok .directory =>
          if name = "" ∨ name = "." then w.follow here rest
          else if name = ".." then w.follow here.parent rest
          else w.follow (here ++ [name]) rest

/-- The place that a path leads to, whatever is there. -/
def resolve (w : World) (path : List Char) : Except Refusal Path :=
  match path with
  | '/' :: rest => w.follow ["/"] (names rest)
  | _ => w.follow [] (names path)

/-- Whether a path has more than 4095 bytes. None is followed that far. -/
def isTooLong (path : String) : Bool :=
  4095 < path.utf8ByteSize

def read (w : World) (name : String) : Except Refusal ByteArray :=
  if isTooLong name then .error .nameTooLong
  else
    match w.resolve name.toList with
    | .error refusal => .error refusal
    | .ok path =>
        match w.look path with
        | .error refusal => .error refusal
        | .ok .directory => .error .isDirectory
        | .ok (.file bytes) => .ok bytes

/-- Put a file in a place, instead of one that is there. -/
def replace (path : Path) (bytes : ByteArray) : List (Path × Node) → List (Path × Node)
  | [] => [(path, .file bytes)]
  | (other, node) :: rest =>
      if other = path then (path, .file bytes) :: rest
      else (other, node) :: replace path bytes rest

/-- A path without the slashes at its end. -/
def withoutSlashes (path : List Char) : List Char :=
  (path.reverse.dropWhile (· == '/')).reverse

/-- The machine after text is written to a file, which is created if need be. A path that ends in a slash
is that of a directory, whatever its last name is: nothing is looked for under it. -/
def write (w : World) (name text : String) : Except Refusal World :=
  if isTooLong name then .error .nameTooLong
  else
    match w.resolve (withoutSlashes name.toList) with
    | .error refusal => .error refusal
    | .ok path =>
        if name.toList.getLast? = some '/' then .error .isDirectory
        else
          match w.look path with
          | .ok .directory => .error .isDirectory
          | .ok (.file _) | .error .missing =>
              .ok { w with nodes := replace path text.toUTF8 w.nodes }
          | .error refusal => .error refusal

def host : Host (StateM World) where
  readFile name := do return (← get).read name
  readInput := do return .ok (← get).input
  writeFile name text := do
    match (← get).write name text with
    | .error refusal => return .error refusal
    | .ok w => set w; return .ok ()
  writeOutput text := do
    modify fun w => { w with output := w.output ++ text }
    return .ok ()

end World

end FlexGrid.Command
