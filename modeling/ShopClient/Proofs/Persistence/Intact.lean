import ShopClient.Proofs.Persistence.Reported

/-!
# The file is never half-written

A rewriting can fail at each of its operations: a directory is not made, the draft is not written, does
not get its permissions, or does not take the place of the file. Before the last operation succeeds the
file has not been touched, and the last one puts the whole text in its place at once. So at every moment
the file is the one that was found at first, or the text of all that the storage held at some time.

What is held changes before the file does, and a write that succeeds writes all of it. So it takes along
the changes whose own writes failed.

Only the draft can be half-written. What a failed write leaves of it happens elsewhere on the disk, as
far as the file is concerned (`KeepsFile`). The draft is named after the process. A credential file of
that very name is its own draft, and is written in place: it is the one exception.

* `node?_of_drafting`: before the last operation the file stands as it stood;
* `stored_use`, `stored_useAll`: what the file is after a use, and after any uses;
* `never_half_written`: what there is to see of the file, at every moment of every run;
* `draft_rewritten_by_failed_write`: a file that is its own draft is changed by a write that fails.
-/

namespace ShopClient

deriving instance DecidableEq for Disk.Node

namespace FileStorage

variable {s : FileStorage} {disk : Disk} {uses : List Use} {u : Use} {w : Write} {path : String}

/-- What stands in the place of the file. -/
def stored (s : FileStorage) : Option Disk.Node := s.disk.node? s.file

/-! ### In the course of a rewriting -/

/-- A directory on the way to the file is not the file. -/
theorem node?_put_directory {p : Disk.Path} (h : p <+: s.file.parent) :
    (disk.put p .directory).node? s.file = disk.node? s.file := by
  by_cases htop : s.file.plain.IsTop
  · rw [Disk.node?_of_isTop htop, Disk.node?_of_isTop htop]
  -- The way to it is shorter than that to the file.
  refine Disk.node?_put_of_ne fun heq => htop (.inl (List.length_eq_zero_iff.1 ?_))
  have hlength := h.length_le
  rw [Disk.Path.parent, ← heq, List.length_dropLast] at hlength
  omega

/-- Before the draft takes its place the file stands as it stood. -/
theorem node?_of_drafting (hdraft : s.file.plain ≠ s.draft) (h : s.Drafting disk) :
    disk.node? s.file = s.stored := by
  induction h with
  | start => rfl
  | directory _ hp ih => rw [node?_put_directory hp, ih]
  | draft _ _ ih => rw [Disk.node?_put_of_ne hdraft, ih]

/-! ### After a write -/

theorem stored_write_of_error {e : StorageError} (hdraft : s.file.plain ≠ s.draft)
    (h : (Storage.write s w).1 = .error e) : (Storage.write s w).2.stored = s.stored := by
  rw [write_eq] at h ⊢
  split at h
  · cases h
  · rename_i hw
    rw [if_neg hw]
    exact node?_of_drafting (s := { s with entries := Keyed.written s.entries w }) hdraft
      (drafting_of_save (Prod.ext h rfl))

/-- A write that rewrites the file leaves it with all that is held. -/
theorem stored_write_of_ok (h : (Storage.write s w).1 = .ok ()) (hw : ¬s.Holds w) :
    (Storage.write s w).2.stored = some (nodeOf (Storage.write s w).2.entries) := by
  rw [write_eq, if_neg hw] at h ⊢
  exact node?_of_save (s := { s with entries := Keyed.written s.entries w }) (Prod.ext h rfl)

/-! ### At every moment -/

/-- What happens elsewhere on the disk leaves the file as it is. It may make or lose directories, change
    what the disk refuses, or leave a draft that is half-written. -/
def KeepsFile (s : FileStorage) : Use → Prop
  | .elsewhere disk => disk.node? s.file = s.stored
  | _ => True

instance : (u : Use) → Decidable (s.KeepsFile u)
  | .elsewhere disk => inferInstanceAs (Decidable (disk.node? s.file = s.stored))
  | .get _ | .write _ => .isTrue trivial

/-- What there is to see of the disk in the course of a use, and after it. -/
def Shows (s : FileStorage) (u : Use) (disk : Disk) : Prop :=
  disk = (s.use u).disk ∨
    ∃ w, u = .write w ∧ ¬s.Holds w ∧
      Drafting { s with entries := Keyed.written s.entries w } disk

theorem file_use (s : FileStorage) (u : Use) : (s.use u).file = s.file := by
  cases u with
  | get k => rfl
  | write w => exact congrArg Disk.Path.ofString (path_write s w)
  | elsewhere disk => rfl

theorem draft_use (s : FileStorage) (u : Use) : (s.use u).draft = s.draft := by
  cases u with
  | get k => rfl
  | write w =>
    rw [use, write_eq]
    split <;> rfl
  | elsewhere disk => rfl

theorem file_useAll (uses : List Use) (s : FileStorage) : (s.useAll uses).file = s.file := by
  induction uses generalizing s with
  | nil => rfl
  | cons u uses ih => exact (ih (s.use u)).trans (file_use s u)

theorem draft_useAll (uses : List Use) (s : FileStorage) : (s.useAll uses).draft = s.draft := by
  induction uses generalizing s with
  | nil => rfl
  | cons u uses ih => exact (ih (s.use u)).trans (draft_use s u)

theorem stored_use (hdraft : s.file.plain ≠ s.draft) (hu : s.KeepsFile u) :
    (s.use u).stored = s.stored ∨ (s.use u).stored = some (nodeOf (s.use u).entries) := by
  cases u with
  | get k => exact .inl rfl
  | elsewhere disk => exact .inl hu
  | write w =>
    by_cases hw : s.Holds w
    · rw [use, write_eq, if_pos hw]
      exact .inl rfl
    · cases h : (Storage.write s w).1 with
      | error e => exact .inl (stored_write_of_error hdraft h)
      | ok _ => exact .inr (stored_write_of_ok h hw)

/-- After any uses the file is the one that there was, or has the text of what was held at some time. -/
theorem stored_useAll (hdraft : s.file.plain ≠ s.draft) (hfile : AllAlong KeepsFile uses s) :
    (s.useAll uses).stored = s.stored ∨
      ∃ before, before <+: uses ∧
        (s.useAll uses).stored = some (nodeOf (s.useAll before).entries) := by
  induction uses generalizing s with
  | nil => exact .inl rfl
  | cons u uses ih =>
    have hdraft' : (s.use u).file.plain ≠ (s.use u).draft := by rwa [file_use, draft_use]
    -- Either nothing was written after the first use, or what is there was written then.
    rcases ih hdraft' hfile.2 with hsame | ⟨before, hbefore, hstored⟩
    · refine (stored_use hdraft hfile.1).imp hsame.trans fun hwritten => ?_
      exact ⟨[u], List.prefix_append [u] uses, hsame.trans hwritten⟩
    · exact .inr ⟨u :: before, List.cons_prefix_cons.2 ⟨rfl, hbefore⟩, hstored⟩

theorem node?_of_shows (hdraft : s.file.plain ≠ s.draft) (hu : s.KeepsFile u)
    (h : s.Shows u disk) :
    disk.node? s.file = s.stored ∨ disk.node? s.file = some (nodeOf (s.use u).entries) := by
  rcases h with rfl | ⟨w, rfl, -, hdrafting⟩
  · rw [← file_use s u]
    exact stored_use hdraft hu
  · refine .inl (node?_of_drafting (s := { s with entries := Keyed.written s.entries w }) ?_ hdrafting)
    exact hdraft

/-- At every moment the file is the one that there was, or has the text of what was held at some time. -/
theorem node?_of_shows_useAll (hdraft : s.file.plain ≠ s.draft) (hfile : AllAlong KeepsFile uses s)
    (hu : (s.useAll uses).KeepsFile u) (h : (s.useAll uses).Shows u disk) :
    disk.node? s.file = s.stored ∨
      ∃ before, before <+: uses ++ [u] ∧
        disk.node? s.file = some (nodeOf (s.useAll before).entries) := by
  have hdraft' : (s.useAll uses).file.plain ≠ (s.useAll uses).draft := by
    rwa [file_useAll, draft_useAll]
  have hshown := node?_of_shows hdraft' hu h
  rw [file_useAll] at hshown
  rcases hshown with hkept | hwritten
  · rcases stored_useAll hdraft hfile with hsame | ⟨before, hbefore, hstored⟩
    · exact .inl (hkept.trans hsame)
    · exact .inr ⟨before, hbefore.trans (List.prefix_append _ _), hkept.trans hstored⟩
  · have hlast : s.useAll (uses ++ [u]) = (s.useAll uses).use u := List.foldl_append ..
    exact .inr ⟨uses ++ [u], List.prefix_refl _, hlast ▸ hwritten⟩

/-! ### What is held, and what is found -/

/-- The write that a use is. -/
def Use.write? : Use → Option Write
  | .write w => some w
  | _ => none

/-- All writes count for what is held, whether they failed or not. -/
theorem get?_useAll (uses : List Use) (s : FileStorage) :
    Storage.get? (s.useAll uses) =
      (uses.filterMap Use.write?).foldl Write.apply (Storage.get? s) := by
  induction uses generalizing s with
  | nil => rfl
  | cons u uses ih =>
    refine (ih (s.use u)).trans ?_
    cases u with
    | get k => rfl
    | write w => exact congrArg (List.foldl Write.apply · _) (s.get?_write w)
    | elsewhere disk => rfl

/-- A file that has the text of entries can be opened, and who reaches it finds them. -/
theorem openAt_of_nodeOf {entries : Json.Entries} (hsorted : entries.IsSorted)
    (h : disk.node? (Disk.Path.ofString path) = some (nodeOf entries)) (process : Nat) :
    ∃ found, openAt path process disk = .ok found ∧
      (disk.contains (Disk.Path.ofString path) = true → found.entries = entries) := by
  cases hcontains : disk.contains (Disk.Path.ofString path) with
  -- Who does not reach the file starts with no entries.
  | false => exact ⟨_, by simp only [openAt, hcontains]; rfl, fun h => absurd h Bool.false_ne_true⟩
  | true =>
    have hreach : disk.reach (Disk.Path.ofString path) = .ok () := by
      rw [Disk.contains, Bool.and_eq_true] at hcontains
      cases hr : disk.reach (Disk.Path.ofString path) with
      | ok _ => rfl
      | error e =>
        rw [hr] at hcontains
        exact absurd hcontains.1 Bool.false_ne_true
    have htext : disk.readText (Disk.Path.ofString path) = .ok entries.print := by
      simp only [Disk.readText, Disk.read, bind, Except.bind, hreach, h, nodeOf, pure, Except.pure,
        Text.Utf8.decode?_encode]
    exact ⟨_, openAt_of_readText hcontains htext (entriesOf_print hsorted), fun _ => rfl⟩

/-- After any uses of a storage that was opened, of which any may have failed:

    * a write that fails leaves the file as it was;
    * one that rewrites the file leaves it with the text of all that is held, for the owner alone, and
      who opens it finds that;
    * what is held is what was found at first, with all writes since then, also those that failed;
    * at every moment the file is the one that was found at first, or has the text of what was held at
      some time, for the owner alone. Opening it does not fail in the latter case. -/
theorem never_half_written {process : Nat} {opened : FileStorage}
    (hopened : openAt path process disk = .ok opened) (hdraft : opened.file.plain ≠ opened.draft)
    (hfile : AllAlong KeepsFile uses opened) :
    let s := opened.useAll uses
    (∀ w e, (Storage.write s w).1 = .error e → (Storage.write s w).2.stored = s.stored) ∧
      (∀ w, (Storage.write s w).1 = .ok () → ¬s.Holds w →
        (Storage.write s w).2.stored = some (nodeOf (Storage.write s w).2.entries) ∧
          (Storage.write s w).2.InStep) ∧
      Storage.get? s = (uses.filterMap Use.write?).foldl Write.apply (Storage.get? opened) ∧
      ∀ u disk', s.KeepsFile u → s.Shows u disk' →
        disk'.node? opened.file = opened.stored ∨
          ∃ before, before <+: uses ++ [u] ∧
            disk'.node? opened.file = some (nodeOf (opened.useAll before).entries) ∧
            ∀ process', ∃ found, openAt path process' disk' = .ok found ∧
              (disk'.contains opened.file = true →
                found.entries = (opened.useAll before).entries) := by
  intro s
  have h := isFaithful_openAt hopened
  have hpath : opened.file = Disk.Path.ofString path := congrArg Disk.Path.ofString h.path
  have hsorted (uses : List Use) : (opened.useAll uses).entries.IsSorted :=
    isSorted_useAll h.sorted uses
  have hdraft' : s.file.plain ≠ s.draft := by rwa [file_useAll, draft_useAll]
  refine ⟨fun w e hw => stored_write_of_error hdraft' hw, fun w hw hrewrites => ?_,
    get?_useAll uses opened, fun u disk' hu hshown => ?_⟩
  · exact ⟨stored_write_of_ok hw hrewrites, (inStep_write_iff (hsorted uses) hw).2 (.inr hrewrites)⟩
  · refine (node?_of_shows_useAll hdraft hfile hu hshown).imp_right ?_
    rintro ⟨before, hbefore, hnode⟩
    refine ⟨before, hbefore, hnode, ?_⟩
    rw [hpath] at hnode ⊢
    exact openAt_of_nodeOf (hsorted before) hnode

/-- There is no space for a value, and later there is for another one. Both have characters that are
    escaped. The file is not made at first, and has both entries then. -/
theorem never_half_written_escaped :
    let disk : Disk := { refusals := [(.write, "No space left on device (os error 28)")] }
    let opened : FileStorage := { path := "credentials.json", process := 1, entries := [], disk }
    let failing : Write := ⟨"a \"key\"", some "ü\n"⟩
    let uses : List Use := [.write failing, .elsewhere {}]
    let w : Write := ⟨"back\\slash", some "\u0001"⟩
    let s := opened.useAll uses
    (Storage.write opened failing).1 = .error
        (.io "writing temp credential file: No space left on device (os error 28)") ∧
      (Storage.write opened failing).2.stored = opened.stored ∧
      (Storage.write s w).1 = .ok () ∧ (Storage.write s w).2.InStep ∧
      (Storage.write s w).2.stored =
        some (nodeOf [("a \"key\"", "ü\n"), ("back\\slash", "\u0001")]) := by
  intro disk opened failing uses w s
  have hopened : openAt "credentials.json" 1 disk = .ok opened := rfl
  have hdraft : opened.file.plain ≠ opened.draft := by decide +kernel
  have hfile : AllAlong KeepsFile uses opened := by decide +kernel
  have hfailing : (Storage.write opened failing).1 = .error
      (.io "writing temp credential file: No space left on device (os error 28)") := by
    decide +kernel
  have hw : (Storage.write s w).1 = .ok () := by decide +kernel
  have hentries : (Storage.write s w).2.entries =
      [("a \"key\"", "ü\n"), ("back\\slash", "\u0001")] := by decide +kernel
  have hnothing : AllAlong KeepsFile [] opened := trivial
  have hrewritten := (never_half_written hopened hdraft hfile).2.1 w hw (by decide +kernel)
  rw [hentries] at hrewritten
  exact ⟨hfailing, (never_half_written hopened hdraft hnothing).1 failing _ hfailing, hw,
    hrewritten.2, hrewritten.1⟩

/-- A credential file has the name of the draft, and belongs to somebody else, so that its permissions
    cannot be changed. A write fails of that, and the file has been rewritten. -/
theorem draft_rewritten_by_failed_write :
    let found : Json.Entries := [("access_token", "a1")]
    let node (entries : Json.Entries) : Disk.Node := .file (Text.Utf8.encode entries.print) 0o660
    let disk : Disk := {
      nodes := [([".credentials.tmp.1"], node found)]
      refusals := [(.changeMode, "Operation not permitted (os error 1)")] }
    let opened : FileStorage :=
      { path := ".credentials.tmp.1", process := 1, entries := found, disk }
    let w : Write := ⟨"access_token", some "a2"⟩
    openAt ".credentials.tmp.1" 1 disk = .ok opened ∧
      (Storage.write opened w).1 = .error
        (.io "setting credential file permissions: Operation not permitted (os error 1)") ∧
      opened.stored = some (node found) ∧
      (Storage.write opened w).2.stored = some (node [("access_token", "a2")]) := by
  intro found node disk opened w
  have hcontains : disk.contains (Disk.Path.ofString ".credentials.tmp.1") = true := by decide +kernel
  have htext : disk.readText (Disk.Path.ofString ".credentials.tmp.1") = .ok found.print := by
    decide +kernel
  have hsorted : found.IsSorted := List.pairwise_singleton _ _
  refine ⟨openAt_of_readText hcontains htext (entriesOf_print hsorted), ?_, ?_, ?_⟩
  · decide +kernel
  · decide +kernel
  · decide +kernel

end FileStorage

end ShopClient
