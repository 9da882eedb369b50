import ShopClient.Credential.File
import ShopClient.Proofs.Text.Blank
import ShopClient.Proofs.Text.JsonText
import ShopClient.Proofs.Text.Utf8
import Mathlib.Data.List.TakeWhile

/-!
# Rewriting a credential file

A file is rewritten in four operations on the disk: its directory is made, a draft is written beside
it, the draft gets its permissions, and it takes the place of the file. When all of them succeed, the
file is there with the text of the entries, whatever was on the disk before; and who opens it finds
these entries. Until the last one succeeds there is no more to see than directories and a draft
(`FileStorage.Drafting`).

* `node?_put_of_ne`, `node?_drop_of_ne`: what a change of the disk leaves alone;
* `read_rename`: what is moved is what is read afterwards;
* `FileStorage.save_cases`: how a rewriting ends;
* `FileStorage.inStep_of_save`: what is saved is what is opened.
-/

namespace ShopClient

theorem bind_eq_ok {ε α β : Type} {x : Except ε α} {f : α → Except ε β} {b : β}
    (h : (x >>= f) = .ok b) : ∃ a, x = .ok a ∧ f a = .ok b := by
  cases x with
  | error e => cases h
  | ok a => exact ⟨a, rfl, h⟩

theorem bind_eq_error {ε α β : Type} {x : Except ε α} {f : α → Except ε β} {e : ε}
    (h : (x >>= f) = .error e) : x = .error e ∨ ∃ a, x = .ok a ∧ f a = .error e := by
  cases x with
  | error e' => exact .inl (congrArg Except.error (Except.error.inj h))
  | ok a => exact .inr ⟨a, rfl, h⟩

theorem mapError_eq_ok {ε ε' α : Type} {f : ε → ε'} {x : Except ε α} {a : α}
    (h : x.mapError f = .ok a) : x = .ok a := by
  cases x with
  | error e => cases h
  | ok a => exact congrArg _ (Except.ok.inj h)

namespace Disk

variable {p q source target : Path} {d d' : Disk} {n : Node} {content : Text.Bytes}

/-! ### What stands where -/

/-- The working directory and the root are always there. -/
def Path.IsTop (p : Path) : Prop := p = [] ∨ p = ["/"]

theorem node?_of_isTop (h : p.plain.IsTop) : d.node? p = some .directory := if_pos h

theorem node?_of_not_isTop (h : ¬p.plain.IsTop) : d.node? p = d.nodes.lookup p.plain := if_neg h

theorem node?_drop_of_ne (h : q.plain ≠ p) : (d.drop p).node? q = d.node? q := by
  by_cases hq : q.plain.IsTop
  · rw [node?_of_isTop hq, node?_of_isTop hq]
  · rw [node?_of_not_isTop hq, node?_of_not_isTop hq, drop, Keyed.lookup_filter_ne, if_neg h]

theorem node?_put_of_ne (h : q.plain ≠ p) : (d.put p n).node? q = d.node? q := by
  by_cases hq : q.plain.IsTop
  · rw [node?_of_isTop hq, node?_of_isTop hq]
  · rw [node?_of_not_isTop hq, node?_of_not_isTop hq, put, List.lookup_cons, beq_false_of_ne h]
    exact (Keyed.lookup_filter_ne ..).trans (if_neg h)

theorem node?_put_self (hp : p.plain = p) (h : ¬p.IsTop) : (d.put p n).node? p = some n := by
  rw [node?_of_not_isTop (by rwa [hp]), hp, put, List.lookup_cons, beq_self_eq_true]

theorem plain_of_not_endsAtDirectory (h : p.endsAtDirectory = false) : p.plain = p := by
  rw [Path.plain, h]
  rfl

theorem length_plain_le (p : Path) : p.plain.length ≤ p.length := by
  rw [Path.plain]
  split
  · rw [List.length_dropLast]
    exact Nat.sub_le _ _
  · exact Nat.le_refl _

/-! ### What a successful operation did -/

theorem reach_eq_ok_iff :
    d.reach p = .ok () ↔ p ≠ [""] ∧ d.node? p.dropLast = some .directory := by
  rw [reach]
  split
  · rename_i hp
    simp [hp]
  · rename_i hp
    cases hn : d.node? p.dropLast with
    | none =>
      dsimp only
      split <;> simp
    | some n =>
      cases n with
      | directory => simp [hp]
      | file content mode => simp

theorem write_eq_ok (h : d.write p content = .ok d') :
    d.node? p ≠ some .directory ∧ ∃ mode, d' = d.put p (.file content mode) := by
  obtain ⟨-, -, h⟩ := bind_eq_ok h
  split at h
  · cases h
  · rename_i mode hn
    obtain ⟨-, -, h⟩ := bind_eq_ok h
    exact ⟨by rw [hn]; rintro ⟨⟩, mode, (Except.ok.inj h).symm⟩
  · rename_i hn
    obtain ⟨-, -, h⟩ := bind_eq_ok h
    exact ⟨by rw [hn]; rintro ⟨⟩, newMode, (Except.ok.inj h).symm⟩

theorem changeMode_eq_ok {mode mode' : Nat} (h : d.changeMode p mode = .ok d')
    (hn : d.node? p = some (.file content mode')) : d' = d.put p (.file content mode) := by
  obtain ⟨-, -, h⟩ := bind_eq_ok h
  rw [hn] at h
  obtain ⟨-, -, h⟩ := bind_eq_ok h
  exact (Except.ok.inj h).symm

/-- A file takes the place of what is no directory, in a directory that is there. -/
theorem rename_eq_ok {mode : Nat} (h : d.rename source target = .ok d')
    (hn : d.node? source = some (.file content mode)) :
    target.endsAtDirectory = false ∧ d.reach target = .ok () ∧ d.node? target ≠ some .directory ∧
      d' = (d.drop source).put target (.file content mode) := by
  obtain ⟨-, -, h⟩ := bind_eq_ok h
  dsimp only at h
  by_cases hends : target.endsAtDirectory = true
  · rw [if_pos hends] at h
    cases h
  rw [if_neg hends] at h
  obtain ⟨_, hreach, h⟩ := bind_eq_ok h
  rw [hn] at h
  split at h
  · cases h
  · rename_i n hsource htarget
    obtain rfl := Option.some.inj hsource
    obtain ⟨-, -, h⟩ := bind_eq_ok h
    refine ⟨Bool.eq_false_iff.2 hends, hreach, fun hdirectory => ?_, (Except.ok.inj h).symm⟩
    exact htarget _ _ hdirectory rfl
  · cases h

theorem makeDirectory_eq_ok (h : d.makeDirectory p = .ok d') : d' = d.put p .directory := by
  rw [makeDirectory] at h
  split at h
  · cases h
  · obtain ⟨-, -, h⟩ := bind_eq_ok h
    obtain ⟨-, -, h⟩ := bind_eq_ok h
    exact (Except.ok.inj h).symm

/-- What is moved stands where it was moved to. -/
theorem node?_rename {mode : Nat} (hn : d.node? source = some (.file content mode))
    (h : d.rename source target = .ok d') : d'.node? target = some (.file content mode) := by
  obtain ⟨hends, -, hplace, rfl⟩ := rename_eq_ok h hn
  have hplain := plain_of_not_endsAtDirectory hends
  have htop : ¬target.IsTop := fun htop => hplace (node?_of_isTop (by rwa [hplain]))
  exact node?_put_self hplain htop

/-- What is moved is there, and is what is read. -/
theorem read_rename {mode : Nat} (hsource : source.plain = source)
    (hn : d.node? source = some (.file content mode)) (h : d.rename source target = .ok d') :
    d'.contains target = true ∧ d'.read target = .ok content := by
  have hfile := node?_rename hn h
  obtain ⟨hends, hreach, hplace, rfl⟩ := rename_eq_ok h hn
  obtain ⟨hempty, hparent⟩ := reach_eq_ok_iff.1 hreach
  have hplain := plain_of_not_endsAtDirectory hends
  have htop : ¬target.IsTop := fun htop => hplace (node?_of_isTop (by rwa [hplain]))
  -- The directory of the target is neither the target nor what is moved.
  have htarget : Path.plain target.dropLast ≠ target := fun heq => by
    have hlength := length_plain_le target.dropLast
    rw [heq, List.length_dropLast] at hlength
    have hpos : 0 < target.length := List.length_pos_of_ne_nil fun hnil => htop (.inl hnil)
    omega
  have hmoved : Path.plain target.dropLast ≠ source := fun heq => by
    have hsame : d.node? target.dropLast = d.node? source := by
      rw [node?, node?, heq, hsource]
    rw [hparent, hn] at hsame
    cases hsame
  have hreach' : ((d.drop source).put target (.file content mode)).reach target = .ok () := by
    refine reach_eq_ok_iff.2 ⟨hempty, ?_⟩
    rw [node?_put_of_ne htarget, node?_drop_of_ne hmoved, hparent]
  constructor
  · rw [contains, hreach', hfile]
    rfl
  · simp only [read, bind, Except.bind, hreach', hfile]
    rfl

end Disk

namespace FileStorage

variable {s : FileStorage} {disk disk' : Disk}

/-! ### Saving -/

/-- The name of a draft is no dot and no slash. -/
theorem draftName_ne (process : Nat) {t : String} (h : t.length = 1) :
    ".credentials.tmp." ++ toString process ≠ t := by
  intro heq
  have hlength := congrArg String.length heq
  have hprefix : (".credentials.tmp." : String).length = 17 := rfl
  rw [String.length_append] at hlength
  omega

theorem plain_draft (s : FileStorage) : s.draft.plain = s.draft := by
  refine Disk.plain_of_not_endsAtDirectory ?_
  rw [Disk.Path.endsAtDirectory, draft, List.getLast?_concat, beq_eq_false_iff_ne]
  exact fun h => draftName_ne s.process rfl (Option.some.inj h)

theorem not_isTop_draft (s : FileStorage) : ¬s.draft.IsTop := by
  rintro (h | h)
  · exact List.append_ne_nil_of_right_ne_nil _ (List.cons_ne_nil _ _) h
  · have hlast := congrArg List.getLast? h
    rw [draft, List.getLast?_concat] at hlast
    exact draftName_ne s.process rfl (Option.some.inj hlast)

theorem attempt_eq_ok {doing : String} {op : Disk → Except IoError Disk}
    (h : attempt doing op disk = .ok disk') : op disk = .ok disk' :=
  mapError_eq_ok h

/-- What fails leaves the disk as it was. -/
theorem attempt_eq_error {doing : String} {op : Disk → Except IoError Disk} {e : StorageError}
    (h : attempt doing op disk = .error (e, disk')) : disk' = disk := by
  rw [attempt] at h
  cases hop : op disk with
  | ok d =>
    rw [hop] at h
    cases h
  | error e' =>
    rw [hop] at h
    exact (congrArg Prod.snd (Except.error.inj h)).symm

/-- The file that entries are written as: their text, for the owner alone. -/
def nodeOf (entries : Json.Entries) : Disk.Node :=
  .file (Text.Utf8.encode entries.print) ownerOnly

/-- The disk at a moment of a rewriting before the draft takes the place of the file. Directories on
    the way to the file were made, and the draft has as much of the text as was written so far. -/
inductive Drafting (s : FileStorage) : Disk → Prop
  | start : Drafting s s.disk
  | directory {d : Disk} {p : Disk.Path} :
      Drafting s d → p <+: s.file.parent → Drafting s (d.put p .directory)
  | draft {d : Disk} {content : Text.Bytes} {mode : Nat} :
      Drafting s d → content <+: Text.Utf8.encode s.entries.print →
        Drafting s (d.put s.draft (.file content mode))

theorem Drafting.makeDirectoriesFrom {names : List String} (h : s.Drafting disk)
    (hnames : names.reverse <+: s.file.parent)
    (hmade : Disk.makeDirectoriesFrom names disk = .ok disk') : s.Drafting disk' := by
  induction names generalizing disk' with
  | nil =>
    obtain rfl := Except.ok.inj hmade
    exact h
  | cons name above ih =>
    -- The directories above are made only when one of them is missing.
    have habove : above.reverse <+: s.file.parent := by
      rw [List.reverse_cons] at hnames
      exact (List.prefix_append _ _).trans hnames
    rw [Disk.makeDirectoriesFrom] at hmade
    split at hmade
    · rename_i hdirectory
      obtain rfl := Except.ok.inj hmade
      obtain rfl := Disk.makeDirectory_eq_ok hdirectory
      exact h.directory hnames
    · obtain ⟨disk₁, habove', hdirectory⟩ := bind_eq_ok hmade
      obtain rfl := Disk.makeDirectory_eq_ok hdirectory
      exact (ih habove habove').directory hnames
    · split at hmade
      · obtain rfl := Except.ok.inj hmade
        exact h
      · cases hmade

theorem node?_put_draft (s : FileStorage) (disk : Disk) (content : Text.Bytes) (mode : Nat) :
    (disk.put s.draft (.file content mode)).node? s.draft = some (.file content mode) :=
  Disk.node?_put_self s.plain_draft s.not_isTop_draft

/-- The draft is written. -/
theorem Drafting.write (h : s.Drafting disk)
    (hwrite : disk.write s.draft (Text.Utf8.encode s.entries.print) = .ok disk') :
    s.Drafting disk' ∧
      ∃ mode, disk'.node? s.draft = some (.file (Text.Utf8.encode s.entries.print) mode) := by
  obtain ⟨-, mode, rfl⟩ := Disk.write_eq_ok hwrite
  exact ⟨h.draft (List.prefix_refl _), mode, s.node?_put_draft ..⟩

/-- The draft gets its permissions. -/
theorem Drafting.changeMode {mode : Nat} (h : s.Drafting disk)
    (hdraft : disk.node? s.draft = some (.file (Text.Utf8.encode s.entries.print) mode))
    (hmode : disk.changeMode s.draft ownerOnly = .ok disk') :
    s.Drafting disk' ∧ disk'.node? s.draft = some (nodeOf s.entries) := by
  obtain rfl := Disk.changeMode_eq_ok hmode hdraft
  exact ⟨h.draft (List.prefix_refl _), s.node?_put_draft ..⟩

/-- A rewriting fails before the draft takes the place of the file, or the draft does so when it has
    the whole text. -/
theorem save_cases (s : FileStorage) :
    (∃ e disk, s.save = (.error e, disk) ∧ s.Drafting disk) ∨
      ∃ disk disk', s.save = (.ok (), disk') ∧ s.Drafting disk ∧
        disk.node? s.draft = some (nodeOf s.entries) ∧ disk.rename s.draft s.file = .ok disk' := by
  have hmade {doing : String} {disk : Disk}
      (h : attempt doing (·.makeDirectories s.file.parent) s.disk = .ok disk) : s.Drafting disk :=
    Drafting.start.makeDirectoriesFrom (by simp) (attempt_eq_ok h)
  simp only [save]
  split
  · rename_i disk' hsteps
    obtain ⟨disk₁, hdirectory, hsteps⟩ := bind_eq_ok hsteps
    obtain ⟨disk₂, hwrite, hsteps⟩ := bind_eq_ok hsteps
    obtain ⟨disk₃, hmode, hrename⟩ := bind_eq_ok hsteps
    obtain ⟨h₂, mode, hdraft⟩ := (hmade hdirectory).write (attempt_eq_ok hwrite)
    obtain ⟨h₃, hdraft'⟩ := h₂.changeMode hdraft (attempt_eq_ok hmode)
    exact .inr ⟨disk₃, disk', rfl, h₃, hdraft', attempt_eq_ok hrename⟩
  · rename_i e disk' hsteps
    refine .inl ⟨e, disk', rfl, ?_⟩
    -- One of the four failed, and left the disk as those before it had made it.
    rcases bind_eq_error hsteps with hdirectory | ⟨disk₁, hdirectory, hsteps⟩
    · obtain rfl := attempt_eq_error hdirectory
      exact .start
    have h₁ := hmade hdirectory
    rcases bind_eq_error hsteps with hwrite | ⟨disk₂, hwrite, hsteps⟩
    · obtain rfl := attempt_eq_error hwrite
      exact h₁
    obtain ⟨h₂, mode, hdraft⟩ := h₁.write (attempt_eq_ok hwrite)
    rcases bind_eq_error hsteps with hmode | ⟨disk₃, hmode, hrename⟩
    · obtain rfl := attempt_eq_error hmode
      exact h₂
    obtain rfl := attempt_eq_error hrename
    exact (h₂.changeMode hdraft (attempt_eq_ok hmode)).1

theorem drafting_of_save {e : StorageError} (h : s.save = (.error e, disk)) : s.Drafting disk := by
  rcases s.save_cases with ⟨e', disk', hsave, hdrafting⟩ | ⟨disk₁, disk', hsave, -⟩
  · obtain rfl : disk' = disk := congrArg Prod.snd (hsave.symm.trans h)
    exact hdrafting
  · cases hsave.symm.trans h

theorem exists_rename_of_save (h : s.save = (.ok (), disk)) :
    ∃ disk₁ : Disk, disk₁.node? s.draft = some (nodeOf s.entries) ∧
      disk₁.rename s.draft s.file = .ok disk := by
  rcases s.save_cases with ⟨e, disk', hsave, -⟩ | ⟨disk₁, disk', hsave, -, hdraft, hrename⟩
  · cases hsave.symm.trans h
  · obtain rfl : disk' = disk := congrArg Prod.snd (hsave.symm.trans h)
    exact ⟨disk₁, hdraft, hrename⟩

/-- When the file was rewritten, it is there and has the text of the entries. -/
theorem read_of_save (h : s.save = (.ok (), disk)) :
    disk.contains s.file = true ∧ disk.read s.file = .ok (Text.Utf8.encode s.entries.print) := by
  obtain ⟨disk₁, hdraft, hrename⟩ := exists_rename_of_save h
  exact Disk.read_rename s.plain_draft hdraft hrename

/-- It stands there for the owner alone. -/
theorem node?_of_save (h : s.save = (.ok (), disk)) :
    disk.node? s.file = some (nodeOf s.entries) := by
  obtain ⟨disk₁, hdraft, hrename⟩ := exists_rename_of_save h
  exact Disk.node?_rename hdraft hrename

/-! ### Opening -/

theorem exists_print_eq (entries : Json.Entries) : ∃ t, entries.print.toList = '{' :: t := by
  cases entries with
  | nil => exact ⟨_, Json.Entries.print_nil⟩
  | cons e es => exact ⟨_, Json.Entries.print_cons e es⟩

/-- The text of a map is not blank, and stands for the map. -/
theorem entriesOf_print {entries : Json.Entries} (h : entries.IsSorted) :
    entriesOf entries.print = .ok entries := by
  obtain ⟨t, ht⟩ := exists_print_eq entries
  have htrim : ¬(Text.trimChars entries.print.toList).isEmpty = true := by
    rw [List.isEmpty_iff, ht]
    exact Text.trimChars_ne_nil rfl
  rw [entriesOf, if_neg htrim, Json.Entries.parse_print h]

theorem openAt_of_readText {path text : String} {process : Nat} {entries : Json.Entries}
    (hcontains : disk.contains (Disk.Path.ofString path) = true)
    (htext : disk.readText (Disk.Path.ofString path) = .ok text)
    (hentries : entriesOf text = .ok entries) :
    openAt path process disk = .ok { path, process, entries, disk } := by
  simp only [openAt, if_pos hcontains, htext, Except.mapError, hentries, bind, Except.bind]
  rfl

/-- Who opens the file finds what is held. -/
def InStep (s : FileStorage) : Prop :=
  ∀ process, openAt s.path process s.disk = .ok { s with process }

/-- What is saved is what is opened. -/
theorem inStep_of_save (h : s.save = (.ok (), disk)) (hs : s.entries.IsSorted) :
    InStep { s with disk } := by
  intro process
  obtain ⟨hcontains, hread⟩ := read_of_save h
  have htext : disk.readText s.file = .ok s.entries.print := by
    simp only [Disk.readText, bind, Except.bind, hread, Text.Utf8.decode?_encode]
    rfl
  exact openAt_of_readText hcontains htext (entriesOf_print hs)

theorem openAt_eq_ok {path : String} {process : Nat} (h : openAt path process disk = .ok s) :
    (disk.contains (Disk.Path.ofString path) = false ∧ s = { path, process, entries := [], disk }) ∨
      ∃ text entries, disk.contains (Disk.Path.ofString path) = true ∧
        disk.readText (Disk.Path.ofString path) = .ok text ∧ entriesOf text = .ok entries ∧
        s = { path, process, entries, disk } := by
  simp only [openAt] at h
  split at h
  · rename_i hcontains
    obtain ⟨text, htext, h⟩ := bind_eq_ok h
    obtain ⟨entries, hentries, h⟩ := bind_eq_ok h
    exact .inr ⟨text, entries, hcontains, mapError_eq_ok htext, hentries, (Except.ok.inj h).symm⟩
  · rename_i hcontains
    exact .inl ⟨Bool.eq_false_iff.2 hcontains, (Except.ok.inj h).symm⟩

theorem isSorted_entriesOf {text : String} {entries : Json.Entries}
    (h : entriesOf text = .ok entries) : entries.IsSorted := by
  rw [entriesOf] at h
  split at h
  · obtain rfl := Except.ok.inj h
    exact .nil
  · split at h
    · rename_i hparse
      obtain rfl := Except.ok.inj h
      rw [Json.Entries.parse] at hparse
      cases hread : Json.Entries.readEntries text.toList with
      | error e =>
        rw [hread] at hparse
        cases hparse
      | ok read =>
        rw [hread] at hparse
        obtain rfl := Except.ok.inj hparse
        exact Keyed.isSorted_ofList read
    · cases h

/-- What is opened is in the order of its keys. -/
theorem isSorted_openAt {path : String} {process : Nat} (h : openAt path process disk = .ok s) :
    s.entries.IsSorted := by
  rcases openAt_eq_ok h with ⟨-, rfl⟩ | ⟨text, entries, -, -, hentries, rfl⟩
  · exact .nil
  · exact isSorted_entriesOf hentries

/-- What was opened is what would be opened again. -/
theorem inStep_openAt {path : String} {process : Nat} (h : openAt path process disk = .ok s) :
    s.InStep := by
  intro process'
  rcases openAt_eq_ok h with ⟨hcontains, rfl⟩ | ⟨text, entries, hcontains, htext, hentries, rfl⟩
  · rw [openAt, hcontains]
    rfl
  · exact openAt_of_readText hcontains htext hentries

end FileStorage

end ShopClient
