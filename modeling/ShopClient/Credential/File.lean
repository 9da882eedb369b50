import ShopClient.Credential.Storage
import ShopClient.Disk
import ShopClient.Text.Blank

/-!
# File storage

A storage that keeps its entries in memory and in a file. Every change rewrites the file: a new file
is written beside it, gets permissions for its owner alone, and takes its place at once, so that the
file is never seen half-written.

The entries in memory change before the file is rewritten. If that fails they stay changed, and the
next change that is written takes them along.
-/

namespace ShopClient

/-- The entries of a file, and the disk that the file is on. -/
structure FileStorage where
  /-- The name of the file, as it was given. -/
  path : String
  /-- The number of the process, for the name of the file that is written first. -/
  process : Nat
  entries : Json.Entries
  disk : Disk

namespace FileStorage

/-- A failure of the disk, with what was being done. -/
def failure (doing : String) (e : IoError) : StorageError := .io (doing ++ ": " ++ e.message)

/-- The permissions of the file: its owner may read and write. -/
def ownerOnly : Nat := 0o600

/-- The entries that the content of a file stands for. A blank file has none. -/
def entriesOf (text : String) : Except StorageError Json.Entries :=
  if (Text.trimChars text.toList).isEmpty then .ok []
  else match Json.Entries.parse text with
    | .ok entries => .ok entries
    | .error e => .error (.parse ("parsing credential file: " ++ e.message text))

/-- The storage in a file. A missing file has no entries. -/
def openAt (path : String) (process : Nat) (disk : Disk) : Except StorageError FileStorage := do
  let p := Disk.Path.ofString path
  if disk.contains p then
    let text ← (disk.readText p).mapError (failure "reading credential file")
    return { path, process, entries := ← entriesOf text, disk }
  else return { path, process, entries := [], disk }

/-- The way to the file. -/
def file (s : FileStorage) : Disk.Path := Disk.Path.ofString s.path

/-- The way to the file that is written first. -/
def draft (s : FileStorage) : Disk.Path :=
  s.file.parent ++ [".credentials.tmp." ++ toString s.process]

/-- The result of an operation, or the failure with the disk as it was before. -/
def attempt (doing : String) (op : Disk → Except IoError Disk) (disk : Disk) :
    Except (StorageError × Disk) Disk :=
  (op disk).mapError fun e => (failure doing e, disk)

/-- Rewrites the file: how that ended, and the disk after it. -/
def save (s : FileStorage) : Written × Disk :=
  let steps : Except (StorageError × Disk) Disk := do
    let disk ← attempt "creating credential directory" (·.makeDirectories s.file.parent) s.disk
    let text := Text.Utf8.encode s.entries.print
    let disk ← attempt "writing temp credential file" (·.write s.draft text) disk
    let disk ← attempt "setting credential file permissions" (·.changeMode s.draft ownerOnly) disk
    attempt "renaming temp credential file" (·.rename s.draft s.file) disk
  match steps with
  | .ok disk => (.ok (), disk)
  | .error (e, disk) => (.error e, disk)

/-- The storage with other entries, in memory and in the file. -/
def update (entries : Json.Entries) (s : FileStorage) : Written × FileStorage :=
  let s := { s with entries }
  (s.save.1, { s with disk := s.save.2 })

instance : Storage FileStorage where
  get? s k := Keyed.get? k s.entries
  set s k v :=
    if Keyed.get? k s.entries = some v then (.ok (), s) else s.update (Keyed.insert k v s.entries)
  remove s k :=
    if (Keyed.get? k s.entries).isNone then (.ok (), s) else s.update (Keyed.erase k s.entries)

end FileStorage

end ShopClient
