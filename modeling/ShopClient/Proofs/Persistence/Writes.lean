import ShopClient.Credential.Store
import ShopClient.Proofs.Persistence.Rewrite
import Mathlib.Logic.Function.Basic

/-!
# Writes to a storage

A storage is written to one entry at a time: an entry is set, or removed (`Write`). A write that
succeeds changes what the storage holds under its key, and nothing else (`LawfulStorage`); what a
failed one leaves is up to the storage.

A file storage is *in step* when who opens its file finds what it holds. Each write that it attempts
and that succeeds brings it in step, and one that it leaves out, because it holds the entry already,
leaves it as it is.

* `get?_after`: what a storage holds after writes that all succeeded;
* `FileStorage.inStep_write_iff`: when a file storage is in step after a write that succeeded.
-/

namespace ShopClient

/-- A write to a storage: an entry gets a value, or none. -/
structure Write where
  key : String
  value : Option String

/-- What is held under each key after a write. -/
def Write.apply (held : String → Option String) (w : Write) : String → Option String :=
  Function.update held w.key w.value

theorem Write.apply_eq (held : String → Option String) (w : Write) (k : String) :
    w.apply held k = if k = w.key then w.value else held k := Function.update_apply ..

/-- What no write is about stays as it is. -/
theorem Write.foldl_apply_of_forall_ne {writes : List Write} {k : String}
    (h : ∀ w ∈ writes, w.key ≠ k) (held : String → Option String) :
    writes.foldl Write.apply held k = held k := by
  induction writes generalizing held with
  | nil => rfl
  | cons w writes ih =>
    have hw : k ≠ w.key := (h w List.mem_cons_self).symm
    rw [List.foldl_cons, ih (fun w' h' => h w' (List.mem_cons_of_mem _ h')), Write.apply_eq, if_neg hw]

namespace Storage

variable {σ : Type} [Storage σ]

/-- How a write ends, and the storage after it. -/
def write (storage : σ) : Write → Written × σ
  | ⟨k, some v⟩ => set storage k v
  | ⟨k, none⟩ => remove storage k

/-- The storage after writes, of which each may fail. -/
def after (writes : List Write) (storage : σ) : σ :=
  writes.foldl (fun storage w => (write storage w).2) storage

/-- Each of the writes succeeds when its turn comes. -/
def AllSucceed : List Write → σ → Prop
  | [], _ => True
  | w :: writes, storage => (write storage w).1 = .ok () ∧ AllSucceed writes (write storage w).2

instance : (writes : List Write) → (storage : σ) → Decidable (AllSucceed writes storage)
  | [], _ => .isTrue trivial
  | w :: writes, storage =>
    have := instDecidableAllSucceed writes (write storage w).2
    inferInstanceAs (Decidable (_ ∧ AllSucceed writes (write storage w).2))

end Storage

/-- A storage of which a write does what it says, if it succeeds. -/
class LawfulStorage (σ : Type) [Storage σ] : Prop where
  get?_write {storage : σ} {w : Write} : (Storage.write storage w).1 = .ok () →
    Storage.get? (Storage.write storage w).2 = w.apply (Storage.get? storage)

theorem Storage.get?_after {σ : Type} [Storage σ] [LawfulStorage σ] {writes : List Write}
    {storage : σ} (h : AllSucceed writes storage) :
    get? (after writes storage) = writes.foldl Write.apply (get? storage) := by
  induction writes generalizing storage with
  | nil => rfl
  | cons w writes ih =>
    have hrest := ih h.2
    rw [LawfulStorage.get?_write h.1] at hrest
    exact hrest

/-! ### Maps in memory -/

namespace Keyed

/-- The entries after a write. -/
def written (entries : Json.Entries) : Write → Json.Entries
  | ⟨k, some v⟩ => insert k v entries
  | ⟨k, none⟩ => erase k entries

theorem get?_written (entries : Json.Entries) (w : Write) :
    (fun k => get? k (written entries w)) = w.apply fun k => get? k entries := by
  obtain ⟨k, value⟩ := w
  funext k'
  rw [Write.apply_eq]
  cases value with
  | some v => exact get?_insert k k' v entries
  | none => exact get?_erase k k' entries

theorem IsSorted.written {entries : Json.Entries} (h : entries.IsSorted) (w : Write) :
    (written entries w).IsSorted := by
  obtain ⟨k, value⟩ := w
  cases value with
  | some v => exact h.insert k v
  | none => exact h.erase k

end Keyed

theorem Memory.write_eq (m : Memory) (w : Write) :
    Storage.write m w = (.ok (), ⟨Keyed.written m.entries w⟩) := by
  obtain ⟨k, value⟩ := w
  cases value <;> rfl

instance : LawfulStorage Memory where
  get?_write {m w} _ := by
    rw [Memory.write_eq]
    exact Keyed.get?_written m.entries w

/-- A memory refuses nothing. -/
theorem Memory.allSucceed (writes : List Write) (m : Memory) : Storage.AllSucceed writes m := by
  induction writes generalizing m with
  | nil => trivial
  | cons w writes ih =>
    refine ⟨?_, ih _⟩
    rw [Memory.write_eq]

/-! ### Files -/

namespace FileStorage

variable {s : FileStorage} {disk : Disk} {w : Write}

/-- The storage holds already what a write is to bring about. -/
def Holds (s : FileStorage) (w : Write) : Prop := Storage.get? s w.key = w.value

instance : Decidable (s.Holds w) := inferInstanceAs (Decidable (Storage.get? s w.key = w.value))

/-- Nothing is written that is there already. -/
theorem write_eq (s : FileStorage) (w : Write) :
    Storage.write s w = if s.Holds w then (.ok (), s) else s.update (Keyed.written s.entries w) := by
  obtain ⟨k, value⟩ := w
  cases value with
  | some v => rfl
  | none =>
    have hnone : (Keyed.get? k s.entries).isNone = true ↔ s.Holds ⟨k, none⟩ :=
      Option.isNone_iff_eq_none
    change (if (Keyed.get? k s.entries).isNone = true then _ else _) = _
    simp only [hnone]
    rfl

/-- A write changes what is held even if it fails. -/
theorem get?_write (s : FileStorage) (w : Write) :
    Storage.get? (Storage.write s w).2 = w.apply (Storage.get? s) := by
  rw [write_eq]
  split
  · rename_i h
    exact (Function.update_eq_self_iff.2 h.symm).symm
  · exact Keyed.get?_written s.entries w

instance : LawfulStorage FileStorage where
  get?_write {s w} _ := s.get?_write w

theorem isSorted_write (h : s.entries.IsSorted) (w : Write) :
    (Storage.write s w).2.entries.IsSorted := by
  rw [write_eq]
  split
  · exact h
  · exact h.written w

theorem path_write (s : FileStorage) (w : Write) : (Storage.write s w).2.path = s.path := by
  rw [write_eq]
  split <;> rfl

/-- What was written is what is opened. -/
theorem inStep_update {entries : Json.Entries} (h : (s.update entries).1 = .ok ())
    (hsorted : entries.IsSorted) : (s.update entries).2.InStep :=
  inStep_of_save (s := { s with entries }) (Prod.ext h rfl) hsorted

/-- After a write that succeeded, a storage is in step if it was so before, or if there was anything to
    write, and not otherwise. -/
theorem inStep_write_iff (hsorted : s.entries.IsSorted) (h : (Storage.write s w).1 = .ok ()) :
    (Storage.write s w).2.InStep ↔ s.InStep ∨ ¬s.Holds w := by
  rw [write_eq] at h ⊢
  split at h
  · rename_i hw
    rw [if_pos hw]
    exact ⟨.inl, fun h => h.resolve_right (absurd hw)⟩
  · rename_i hw
    rw [if_neg hw]
    exact ⟨fun _ => .inr hw, fun _ => inStep_update h (hsorted.written w)⟩

/-! ### What happens elsewhere on the disk -/

/-- On another disk the file reads as it does on that of the storage. -/
def SameFile (s : FileStorage) (disk : Disk) : Prop :=
  disk.contains s.file = s.disk.contains s.file ∧ disk.readText s.file = s.disk.readText s.file

instance : Decidable (s.SameFile disk) := inferInstanceAs (Decidable (_ ∧ _))

/-- Something happens elsewhere on the disk. -/
def elsewhere (disk : Disk) (s : FileStorage) : FileStorage := { s with disk }

theorem openAt_of_sameFile {s' : FileStorage} (h : s.SameFile disk) {process : Nat}
    (hs : openAt s.path process s.disk = .ok s') :
    openAt s.path process disk = .ok (s'.elsewhere disk) := by
  obtain ⟨hcontains, htext⟩ := h
  rcases openAt_eq_ok hs with ⟨hmissing, rfl⟩ | ⟨text, entries, hthere, hread, hentries, rfl⟩
  · have hmissing' : disk.contains (Disk.Path.ofString s.path) = false := hcontains.trans hmissing
    simp only [openAt, hmissing']
    rfl
  · exact openAt_of_readText (hcontains.trans hthere) (htext.trans hread) hentries

theorem inStep_elsewhere (h : s.SameFile disk) (hs : s.InStep) : (s.elsewhere disk).InStep :=
  fun process => openAt_of_sameFile h (hs process)

/-! ### Storages that are in step -/

/-- A storage in the file `path` is in step, and its entries are in order. -/
structure IsFaithful (path : String) (s : FileStorage) : Prop where
  path : s.path = path
  sorted : s.entries.IsSorted
  inStep : s.InStep

theorem isFaithful_openAt {path : String} {process : Nat} (h : openAt path process disk = .ok s) :
    s.IsFaithful path := by
  refine ⟨?_, isSorted_openAt h, inStep_openAt h⟩
  rcases openAt_eq_ok h with ⟨-, rfl⟩ | ⟨text, entries, -, -, -, rfl⟩
  · rfl
  · rfl

namespace IsFaithful

variable {path : String}

theorem write (h : s.IsFaithful path) (hw : (Storage.write s w).1 = .ok ()) :
    (Storage.write s w).2.IsFaithful path where
  path := (path_write s w).trans h.path
  sorted := isSorted_write h.sorted w
  inStep := (inStep_write_iff h.sorted hw).2 (.inl h.inStep)

theorem after {writes : List Write} (h : s.IsFaithful path) (hw : Storage.AllSucceed writes s) :
    (Storage.after writes s).IsFaithful path := by
  induction writes generalizing s with
  | nil => exact h
  | cons w writes ih => exact ih (h.write hw.1) hw.2

theorem elsewhere (h : s.IsFaithful path) (hdisk : s.SameFile disk) :
    (s.elsewhere disk).IsFaithful path where
  path := h.path
  sorted := h.sorted
  inStep := inStep_elsewhere hdisk h.inStep

/-- Who opens the file finds a storage that holds the same. -/
theorem reopened (h : s.IsFaithful path) (process : Nat) :
    ∃ s', openAt path process s.disk = .ok s' ∧ Storage.get? s' = Storage.get? s :=
  ⟨{ s with process }, h.path ▸ h.inStep process, rfl⟩

end IsFaithful

end FileStorage

end ShopClient
