import ShopClient.Proofs.Persistence.Writes

/-!
# Reported successes

A write to a file storage that reports a success was carried out, or was left out because the storage
held the entry already. The entries in memory change before the file is rewritten, and stay changed when
that fails. So the storage can hold an entry that the file does not have; the same write, tried again,
is left out then, and reported as a success.

Such a success says nothing about the file. Every other one does: a storage is in step as soon as it
writes anything, and stays so until a write fails.

* `inStep_useAll`: a storage stays in step as long as no write fails;
* `reported_success`: when a success that is reported is in the file, and what that means.
-/

namespace ShopClient.FileStorage

/-- What is done with a storage, or with the disk behind its back. -/
inductive Use
  | get (k : String)
  | write (w : Write)
  | elsewhere (disk : Disk)

variable {s : FileStorage} {uses before after : List Use} {path : String}

/-- How a use ends. -/
def report (s : FileStorage) : Use → Written
  | .write w => (Storage.write s w).1
  | _ => .ok ()

/-- The storage after a use. -/
def use (s : FileStorage) : Use → FileStorage
  | .get _ => s
  | .write w => (Storage.write s w).2
  | .elsewhere disk => s.elsewhere disk

/-- The storage after uses. -/
def useAll (uses : List Use) (s : FileStorage) : FileStorage := uses.foldl use s

/-- `P` holds of each use when its turn comes. -/
def AllAlong (P : FileStorage → Use → Prop) : List Use → FileStorage → Prop
  | [], _ => True
  | u :: uses, s => P s u ∧ AllAlong P uses (s.use u)

instance (P : FileStorage → Use → Prop) [∀ s u, Decidable (P s u)] :
    (uses : List Use) → (s : FileStorage) → Decidable (AllAlong P uses s)
  | [], _ => .isTrue trivial
  | u :: uses, s =>
    have := instDecidableAllAlong P uses (s.use u)
    inferInstanceAs (Decidable (P s u ∧ AllAlong P uses (s.use u)))

theorem AllAlong.of_append {P : FileStorage → Use → Prop} (h : AllAlong P (before ++ after) s) :
    AllAlong P after (s.useAll before) := by
  induction before generalizing s with
  | nil => exact h
  | cons u before ih => exact ih h.2

/-- The file is left alone by everybody else. -/
def LeavesFile (s : FileStorage) : Use → Prop
  | .elsewhere disk => s.SameFile disk
  | _ => True

instance : (u : Use) → Decidable (s.LeavesFile u)
  | .elsewhere disk => inferInstanceAs (Decidable (s.SameFile disk))
  | .get _ | .write _ => .isTrue trivial

/-- A use does not fail. -/
def Succeeds (s : FileStorage) (u : Use) : Prop := s.report u = .ok ()

instance : DecidableRel Succeeds := fun s u => inferInstanceAs (Decidable (s.report u = .ok ()))

theorem isSorted_useAll (h : s.entries.IsSorted) (uses : List Use) :
    (s.useAll uses).entries.IsSorted := by
  induction uses generalizing s with
  | nil => exact h
  | cons u uses ih =>
    refine ih ?_
    cases u with
    | get k => exact h
    | write w => exact isSorted_write h w
    | elsewhere disk => exact h

theorem path_useAll (uses : List Use) (s : FileStorage) : (s.useAll uses).path = s.path := by
  induction uses generalizing s with
  | nil => rfl
  | cons u uses ih =>
    refine (ih (s.use u)).trans ?_
    cases u with
    | get k => rfl
    | write w => exact path_write s w
    | elsewhere disk => rfl

/-- As long as no write fails a storage stays in step. -/
theorem IsFaithful.useAll (h : s.IsFaithful path) (hfile : AllAlong LeavesFile uses s)
    (hsucceed : AllAlong Succeeds uses s) : (s.useAll uses).IsFaithful path := by
  induction uses generalizing s with
  | nil => exact h
  | cons u uses ih =>
    refine ih ?_ hfile.2 hsucceed.2
    cases u with
    | get k => exact h
    | write w => exact h.write hsucceed.1
    | elsewhere disk => exact h.elsewhere hfile.1

/-- After any uses of a storage that was opened, of which any may have failed:

    * a write that reports a success leaves the storage in step if it was in step, or if there was
      anything to write, and not otherwise;
    * it was in step if no write failed since it was last in step, and it was so when it was opened;
    * in step, who opens the file finds under each key what the storage has. -/
theorem reported_success {process : Nat} {disk : Disk} {opened : FileStorage}
    (hopened : openAt path process disk = .ok opened) (hfile : AllAlong LeavesFile uses opened) :
    let s := opened.useAll uses
    (∀ w, (Storage.write s w).1 = .ok () →
        ((Storage.write s w).2.InStep ↔ s.InStep ∨ Storage.get? s w.key ≠ w.value)) ∧
      opened.InStep ∧
      (∀ before after, uses = before ++ after → (opened.useAll before).InStep →
        AllAlong Succeeds after (opened.useAll before) → s.InStep) ∧
      (s.InStep → ∀ process', ∃ reopened, openAt path process' s.disk = .ok reopened ∧
        ∀ k, Storage.get? reopened k = Storage.get? s k) := by
  intro s
  have h := isFaithful_openAt hopened
  have hsorted : s.entries.IsSorted := isSorted_useAll h.sorted uses
  have hpath : s.path = path := (path_useAll uses opened).trans h.path
  refine ⟨fun w hw => inStep_write_iff hsorted hw, h.inStep, ?_, fun hs process' => ?_⟩
  · rintro before after rfl hbefore hafter
    have hfaithful : (opened.useAll before).IsFaithful path :=
      ⟨(path_useAll before opened).trans h.path, isSorted_useAll h.sorted before, hbefore⟩
    have happend : s = (opened.useAll before).useAll after := List.foldl_append ..
    rw [happend]
    exact (hfaithful.useAll hfile.of_append hafter).inStep
  · obtain ⟨reopened, hreopened, hsame⟩ := (IsFaithful.mk hpath hsorted hs).reopened process'
    exact ⟨reopened, hreopened, congrFun hsame⟩

/-- A value is stored when there is no space. Later there is, and another value is stored: the file has
    both. -/
theorem reported_after_failure :
    let disk : Disk := { refusals := [(.write, "No space left on device (os error 28)")] }
    let opened : FileStorage := { path := "credentials.json", process := 1, entries := [], disk }
    let uses : List Use := [.write ⟨"access_token", some "a1"⟩, .elsewhere {}]
    let w : Write := ⟨"refresh_token", some "r1"⟩
    let s := (Storage.write (opened.useAll uses) w).2
    opened.report (.write ⟨"access_token", some "a1"⟩) = .error
        (.io "writing temp credential file: No space left on device (os error 28)") ∧
      (Storage.write (opened.useAll uses) w).1 = .ok () ∧ s.InStep ∧
      s.entries = [("access_token", "a1"), ("refresh_token", "r1")] := by
  intro disk opened uses w s
  have hopened : openAt "credentials.json" 1 disk = .ok opened := rfl
  have hfile : AllAlong LeavesFile uses opened := by decide +kernel
  have hw : (Storage.write (opened.useAll uses) w).1 = .ok () := by decide +kernel
  have hiff := (reported_success hopened hfile).1 w hw
  exact ⟨by decide +kernel, hw, hiff.2 (.inr (by decide +kernel)), by decide +kernel⟩

/-- A value is stored when nothing can be written, and stored again: that is reported as a success, and
    the value is not in the file. A value is removed in the same way, and comes back. -/
theorem reported_success_is_lost :
    let disk : Disk := { refusals := [(.write, "No space left on device (os error 28)")] }
    let opened : FileStorage := { path := "credentials.json", process := 1, entries := [], disk }
    let stored := Storage.set (Storage.set opened "access_token" "a1").2 "access_token" "a1"
    let file : Disk.Node := .file (Text.Utf8.encode "\x7b\"access_token\": \"a1\"\x7d") 0o600
    let disk' : Disk := { disk with nodes := [(["credentials.json"], file)] }
    let opened' : FileStorage := { opened with entries := [("access_token", "a1")], disk := disk' }
    let removed := Storage.remove (Storage.remove opened' "access_token").2 "access_token"
    ((openAt "credentials.json" 1 disk).map (·.entries) = .ok opened.entries ∧ stored.1 = .ok () ∧
      Storage.get? stored.2 "access_token" = some "a1" ∧
      (openAt "credentials.json" 1 stored.2.disk).map (·.entries) = .ok []) ∧
    ((openAt "credentials.json" 1 disk').map (·.entries) = .ok opened'.entries ∧ removed.1 = .ok () ∧
      Storage.get? removed.2 "access_token" = none ∧
      (openAt "credentials.json" 1 removed.2.disk).map (·.entries) = .ok [("access_token", "a1")]) := by
  decide +kernel

end ShopClient.FileStorage
