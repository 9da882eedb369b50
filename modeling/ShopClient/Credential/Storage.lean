import ShopClient.Json.Entries

/-!
# Backing storages

Where tokens outlive the session: a map from names to texts, of which a write may fail. A storage
says what it holds (`get?`), and how a write ended together with the storage after it.

* `Memory` holds its entries as long as it exists;
* `Refusing` is a memory that may refuse writes of either kind;
* `Counted` counts the writes that the storage in it refuses.
-/

namespace ShopClient

/-- Why a storage failed. -/
inductive StorageError
  | parse (reason : String)
  | io (reason : String)
  deriving DecidableEq

/-- The text of a storage's failure. -/
def StorageError.message : StorageError → String
  | parse reason => "credential parse error: " ++ reason
  | io reason => "I/O error: " ++ reason

/-- How a write ended. -/
abbrev Written := Except StorageError Unit

/-- A backing storage. To remove what is not there is no failure. -/
class Storage (σ : Type) where
  get? : σ → String → Option String
  set : σ → String → String → Written × σ
  remove : σ → String → Written × σ

/-- A storage that holds its entries and nothing else. -/
structure Memory where
  entries : Json.Entries := []

instance : Storage Memory where
  get? m k := Keyed.get? k m.entries
  set m k v := (.ok (), ⟨Keyed.insert k v m.entries⟩)
  remove m k := (.ok (), ⟨Keyed.erase k m.entries⟩)

/-- A memory that may refuse to set or to remove entries. -/
structure Refusing where
  entries : Json.Entries := []
  refusesSet : Bool := false
  refusesRemove : Bool := false

/-- What a storage says that refuses a write. -/
def Refusing.error : StorageError := .io "write refused"

instance : Storage Refusing where
  get? m k := Keyed.get? k m.entries
  set m k v :=
    if m.refusesSet then (.error Refusing.error, m)
    else (.ok (), { m with entries := Keyed.insert k v m.entries })
  remove m k :=
    if m.refusesRemove then (.error Refusing.error, m)
    else (.ok (), { m with entries := Keyed.erase k m.entries })

/-- A storage with the number of the writes that it refused. -/
structure Counted (σ : Type) where
  storage : σ
  failures : Nat := 0

/-- The storage after a write that ended in `r.1`. -/
def Counted.after {σ : Type} (failures : Nat) (r : Written × σ) : Written × Counted σ :=
  (r.1, ⟨r.2, match r.1 with | .ok _ => failures | .error _ => failures + 1⟩)

instance {σ : Type} [Storage σ] : Storage (Counted σ) where
  get? c k := Storage.get? c.storage k
  set c k v := Counted.after c.failures (Storage.set c.storage k v)
  remove c k := Counted.after c.failures (Storage.remove c.storage k)

end ShopClient
