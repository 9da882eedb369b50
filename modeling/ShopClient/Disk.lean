import ShopClient.Text.Utf8

/-!
# Files and directories

A small file system: the files and directories below the working directory and below the root, and
the operations on them, each of which may fail.

Operations fail for what they find on the way, with the number and the text that the system gives.
Besides, a disk may refuse operations of some kinds, for reasons of its own (`refusals`): a full
disk, or a missing permission.
-/

namespace ShopClient

/-- Why an operation on files failed. -/
inductive IoError
  | notFound
  | alreadyThere
  | notDirectory
  | isDirectory
  | notUtf8
  /-- The system refused, and says this. -/
  | refused (text : String)
  deriving DecidableEq

/-- The text of a failure. -/
def IoError.message : IoError → String
  | notFound => "No such file or directory (os error 2)"
  | alreadyThere => "File exists (os error 17)"
  | notDirectory => "Not a directory (os error 20)"
  | isDirectory => "Is a directory (os error 21)"
  | notUtf8 => "stream did not contain valid UTF-8"
  | refused text => text

namespace Disk

/-- The names on the way to a file. The way from the root starts with a slash. A way that has to end
    at a directory ends in a dot. Two dots are a name like any other, and do not lead back. -/
abbrev Path := List String

/-- The way that a text describes. An empty text leads nowhere, and a text that ends in a slash leads
    to a directory. -/
def Path.ofString (text : String) : Path :=
  if text = "" then [""] else
  let parts := (text.toList.splitOn '/').map String.ofList
  let names := parts.filter fun n => n != "" && n != "."
  let names :=
    if names ≠ [] ∧ parts.getLast? ≠ names.getLast? then names ++ ["."] else names
  if text.toList.head? == some '/' then "/" :: names else names

/-- Whether the way has to end at a directory. -/
def Path.endsAtDirectory (p : Path) : Bool := p.getLast? == some "."

/-- The way without the dot at its end. -/
def Path.plain (p : Path) : Path := if p.endsAtDirectory then p.dropLast else p

/-- The directory that a file is in. -/
def Path.parent (p : Path) : Path := p.plain.dropLast

/-- The name of a file in its directory. -/
def Path.name (p : Path) : String := p.getLastD ""

/-- What stands at the end of a way. -/
inductive Node
  | file (content : Text.Bytes) (mode : Nat)
  | directory

/-- Whether a node is a file. -/
def Node.isFile : Node → Bool
  | file .. => true
  | directory => false

/-- The operations that change a disk. -/
inductive Operation
  | makeDirectory
  | write
  | changeMode
  | rename
  deriving DecidableEq

end Disk

/-- What is on a disk. The working directory and the root are there without being listed. -/
structure Disk where
  nodes : List (Disk.Path × Disk.Node) := []
  /-- The kinds of operations that the disk refuses, with what it says. -/
  refusals : List (Disk.Operation × String) := []

namespace Disk

/-- The permissions of a new file. -/
def newMode : Nat := 0o644

/-- What stands at the end of the way `p`. -/
def node? (p : Path) (d : Disk) : Option Node :=
  let p := p.plain
  if p = [] ∨ p = ["/"] then some .directory else d.nodes.lookup p

/-- The disk with `n` at the end of the way `p`. -/
def put (p : Path) (n : Node) (d : Disk) : Disk :=
  { d with nodes := (p, n) :: d.nodes.filter (·.1 ≠ p) }

/-- The disk without what was at the end of the way `p`. -/
def drop (p : Path) (d : Disk) : Disk :=
  { d with nodes := d.nodes.filter (·.1 ≠ p) }

/-- Fails if the disk refuses the operation. -/
def permit (op : Operation) (d : Disk) : Except IoError Unit :=
  match d.refusals.lookup op with
  | some text => .error (.refused text)
  | none => .ok ()

/-- Fails unless the directory of the way `p` is there, and the one that `p` has to end at. -/
def reach (p : Path) (d : Disk) : Except IoError Unit :=
  if p = [""] then .error .notFound else
  match d.node? p.dropLast with
  | some .directory => .ok ()
  | some (.file ..) => .error .notDirectory
  | none =>
    if (List.range p.length).any fun n => (d.node? (p.take n)).any Node.isFile then
      .error .notDirectory
    else .error .notFound

/-- Whether there is anything at the end of the way `p`. -/
def contains (p : Path) (d : Disk) : Bool :=
  (d.reach p).toBool && (d.node? p).isSome

/-- The content of a file. -/
def read (p : Path) (d : Disk) : Except IoError Text.Bytes := do
  d.reach p
  match d.node? p with
  | some (.file content _) => return content
  | some .directory => throw .isDirectory
  | none => throw .notFound

/-- The content of a file that has to be UTF-8. -/
def readText (p : Path) (d : Disk) : Except IoError String := do
  match Text.Utf8.decode? (← d.read p) with
  | some text => return text
  | none => throw .notUtf8

/-- Makes a directory in a directory that is there. -/
def makeDirectory (p : Path) (d : Disk) : Except IoError Disk := do
  match d.node? p with
  | some _ => throw .alreadyThere
  | none =>
    d.reach p
    d.permit .makeDirectory
    return d.put p .directory

/-- Makes the directory that `names` describe, from the last name on, and all directories on the way
    that are missing. -/
def makeDirectoriesFrom : (names : List String) → Disk → Except IoError Disk
  | [], d => .ok d
  | name :: above, d =>
    let p := (name :: above).reverse
    match d.makeDirectory p with
    | .ok d => .ok d
    | .error .notFound => do (← makeDirectoriesFrom above d).makeDirectory p
    | .error e => match d.node? p with
      | some .directory => .ok d
      | _ => .error e

/-- Makes a directory and all directories on the way that are missing. -/
def makeDirectories (p : Path) (d : Disk) : Except IoError Disk :=
  makeDirectoriesFrom p.reverse d

/-- Writes a file, in place of the one that was there. Its permissions stay. -/
def write (p : Path) (content : Text.Bytes) (d : Disk) : Except IoError Disk := do
  d.reach p
  match d.node? p with
  | some .directory => throw .isDirectory
  | some (.file _ mode) =>
    d.permit .write
    return d.put p (.file content mode)
  | none =>
    d.permit .write
    return d.put p (.file content newMode)

/-- Changes the permissions of a file. -/
def changeMode (p : Path) (mode : Nat) (d : Disk) : Except IoError Disk := do
  d.reach p
  match d.node? p with
  | some (.file content _) =>
    d.permit .changeMode
    return d.put p (.file content mode)
  | some .directory => return d
  | none => throw .notFound

/-- Moves the file `source` to `target`, in place of a file that was there. -/
def rename (source target : Path) (d : Disk) : Except IoError Disk := do
  d.reach source
  if target.endsAtDirectory then throw .notDirectory
  d.reach target
  match d.node? source, d.node? target with
  | some (.file ..), some .directory => throw .isDirectory
  | some n, _ =>
    d.permit .rename
    return (d.drop source).put target n
  | none, _ => throw .notFound

/-- Removes a file, if it is there. -/
def remove (p : Path) (d : Disk) : Bool × Disk :=
  match d.node? p with
  | some (.file ..) => (true, d.drop p)
  | _ => (false, d)

/-- The permissions of a file. -/
def mode? (p : Path) (d : Disk) : Option Nat :=
  match d.node? p with
  | some (.file _ mode) => some mode
  | _ => none

/-- The names in a directory. -/
def list (p : Path) (d : Disk) : List String :=
  (d.nodes.filter fun e => e.1.parent = p && e.1 != p).map (·.1.name)

end Disk

end ShopClient
