import ShopClient.Proofs.Persistence.Writes
import ShopClient.Proofs.Standing.Agreement

/-!
# What is restored is what is held

A store writes each token under a key of its own, and restores the pair from three keys. The two fit
together: what the writes of a change make of the pair that would be restored is what the change makes
of the pair that is held. That takes the removal of the legacy token with the access token, and an
access token that is never written when it is empty.

So as long as no write fails, whoever opens the storage finds the pair that is held. For a file that
takes its text, too, which is read back as it was written.

* `pairOf_writes`: the law of one change, about what is held under the keys;
* `restored_set`: a change keeps a store and its storage together;
* `restored_is_held`: for a memory and for a file, after any changes.
-/

namespace ShopClient

/-- The keys that a store uses. -/
def tokenKeys : List String := [accessKey, refreshKey, legacyKey]

namespace CredentialStore

variable {held : String → Option String} {access : String} {refresh : Option String}

/-- The pair that is restored from what is held under the keys. -/
def pairOf (held : String → Option String) : CredentialPair where
  access := (((held accessKey).filter (· ≠ "")).or (held legacyKey)).getD ""
  refresh := (held refreshKey).getD ""

/-- What a store writes when its tokens are changed. -/
def writes (access : String) (refresh : Option String) : List Write :=
  (if access = "" then [⟨accessKey, none⟩, ⟨legacyKey, none⟩] else [⟨accessKey, some access⟩]) ++
    match refresh.filter (· ≠ "") with
    | some refresh => [⟨refreshKey, some refresh⟩]
    | none => if access = "" then [⟨refreshKey, none⟩] else []

theorem pairOf_writes (held : String → Option String) (access : String) (refresh : Option String) :
    pairOf ((writes access refresh).foldl Write.apply held) = (pairOf held).updated access refresh := by
  rw [writes, CredentialPair.updated]
  by_cases haccess : access = ""
  · -- Nothing is left that an access token could be restored from.
    cases refresh.filter (· ≠ "") with
    | some r => simp [pairOf, Write.apply_eq, haccess, accessKey, legacyKey, refreshKey]
    | none => simp [pairOf, Write.apply_eq, haccess, accessKey, legacyKey, refreshKey]
  · -- The access token hides the legacy one, because it is not empty.
    cases refresh.filter (· ≠ "") with
    | some r => simp [pairOf, Write.apply_eq, Option.filter, haccess, accessKey, refreshKey]
    | none => simp [pairOf, Write.apply_eq, Option.filter, haccess, accessKey, legacyKey, refreshKey]

/-- No other key is written. -/
theorem key_mem_tokenKeys {w : Write} (h : w ∈ writes access refresh) : w.key ∈ tokenKeys := by
  have hkeys : accessKey ∈ tokenKeys ∧ refreshKey ∈ tokenKeys ∧ legacyKey ∈ tokenKeys := by decide
  obtain ⟨haccess, hrefresh, hlegacy⟩ := hkeys
  rw [writes, List.mem_append] at h
  rcases h with h | h
  · split at h
    · rcases List.mem_cons.1 h with rfl | h
      · exact haccess
      · obtain rfl := List.mem_singleton.1 h
        exact hlegacy
    · obtain rfl := List.mem_singleton.1 h
      exact haccess
  · split at h
    · obtain rfl := List.mem_singleton.1 h
      exact hrefresh
    · split at h
      · obtain rfl := List.mem_singleton.1 h
        exact hrefresh
      · cases h

theorem held_writes {k : String} (h : k ∉ tokenKeys) (held : String → Option String) (access : String)
    (refresh : Option String) : (writes access refresh).foldl Write.apply held k = held k := by
  refine Write.foldl_apply_of_forall_ne (fun w hw hk => ?_) held
  rw [← hk] at h
  exact h (key_mem_tokenKeys hw)

variable {σ : Type} [Storage σ]

theorem storage_set (access : String) (refresh : Option String) (s : CredentialStore σ) :
    (s.set access refresh).storage = Storage.after (writes access refresh) s.storage := by
  rw [set, writes]
  cases refresh.filter (· ≠ "") with
  | some r =>
    by_cases haccess : access = ""
    · simp only [if_pos haccess]
      rfl
    · simp only [if_neg haccess]
      rfl
  | none =>
    by_cases haccess : access = ""
    · simp only [if_pos haccess]
      rfl
    · simp only [if_neg haccess]
      rfl

/-! ### One change -/

/-- A change of the tokens. -/
inductive Change
  | set (access : String) (refresh : Option String)
  | clear

/-- What a store writes for a change. -/
def Change.writes : Change → List Write
  | set access refresh => CredentialStore.writes access refresh
  | clear => CredentialStore.writes "" (some "")

/-- The store after a change. -/
def changed (s : CredentialStore σ) : Change → CredentialStore σ
  | .set access refresh => s.set access refresh
  | .clear => s.clear

theorem storage_changed (s : CredentialStore σ) (c : Change) :
    (s.changed c).storage = Storage.after c.writes s.storage := by
  cases c with
  | set access refresh => exact storage_set access refresh s
  | clear => exact storage_set "" (some "") s

variable [LawfulStorage σ] {s : CredentialStore σ} {c : Change}

/-- The pair that is held is the one that would be restored, and under the other keys there is what was
    there before. -/
structure Matches (before : String → Option String) (s : CredentialStore σ) : Prop where
  restored : restored s.storage = s.current
  others : ∀ k, k ∉ tokenKeys → Storage.get? s.storage k = before k

theorem Matches.changed {before : String → Option String} (h : s.Matches before)
    (hwrites : Storage.AllSucceed c.writes s.storage) : (s.changed c).Matches before := by
  have hset (access : String) (refresh : Option String)
      (hwrites : Storage.AllSucceed (writes access refresh) s.storage) :
      (s.set access refresh).Matches before := by
    have hheld := Storage.get?_after hwrites
    rw [← storage_set] at hheld
    constructor
    · change pairOf (Storage.get? (s.set access refresh).storage) = _
      rw [hheld, pairOf_writes, current_set]
      exact congrArg (CredentialPair.updated access refresh) h.restored
    · intro k hk
      rw [hheld, held_writes hk]
      exact h.others k hk
  cases c with
  | set access refresh => exact hset access refresh hwrites
  | clear => exact hset "" (some "") hwrites

/-! ### Changes of a store over a memory -/

/-- A store after changes. -/
def changedBy {σ : Type} [Storage σ] (changes : List Change) (s : CredentialStore σ) :
    CredentialStore σ :=
  changes.foldl changed s

theorem matches_restore {σ : Type} [Storage σ] (storage : σ) :
    (restore storage).Matches (Storage.get? storage) := ⟨rfl, fun _ _ => rfl⟩

theorem Matches.changedBy {before : String → Option String} {s : CredentialStore Memory}
    (h : s.Matches before) (changes : List Change) : (s.changedBy changes).Matches before := by
  induction changes generalizing s with
  | nil => exact h
  | cons c changes ih => exact ih (h.changed (Memory.allSucceed c.writes s.storage))

/-! ### What happens to a store over a file -/

/-- What happens to a store over a file: its tokens are changed, or there is a change elsewhere on the
    disk. -/
inductive Incident
  | change (c : Change)
  | elsewhere (disk : Disk)

variable {f : CredentialStore FileStorage} {incidents : List Incident} {path : String}

/-- The store after an incident. -/
def meet (f : CredentialStore FileStorage) : Incident → CredentialStore FileStorage
  | .change c => f.changed c
  | .elsewhere disk => { f with storage := f.storage.elsewhere disk }

/-- The store after incidents. -/
def meetAll (incidents : List Incident) (f : CredentialStore FileStorage) :
    CredentialStore FileStorage :=
  incidents.foldl meet f

/-- No write fails, and nobody else changes the file. -/
def IsSmooth (f : CredentialStore FileStorage) : Incident → Prop
  | .change c => Storage.AllSucceed c.writes f.storage
  | .elsewhere disk => f.storage.SameFile disk

instance : (i : Incident) → Decidable (f.IsSmooth i)
  | .change c => inferInstanceAs (Decidable (Storage.AllSucceed c.writes f.storage))
  | .elsewhere disk => inferInstanceAs (Decidable (f.storage.SameFile disk))

/-- In the course of the incidents no write fails, and nobody else changes the file. -/
def AreSmooth : List Incident → CredentialStore FileStorage → Prop
  | [], _ => True
  | i :: incidents, f => f.IsSmooth i ∧ AreSmooth incidents (f.meet i)

instance : (incidents : List Incident) → (f : CredentialStore FileStorage) →
    Decidable (AreSmooth incidents f)
  | [], _ => .isTrue trivial
  | i :: incidents, f =>
    have := instDecidableAreSmooth incidents (f.meet i)
    inferInstanceAs (Decidable (f.IsSmooth i ∧ AreSmooth incidents (f.meet i)))

theorem kept_meet {before : String → Option String} {i : Incident} (h : f.Matches before)
    (hf : f.storage.IsFaithful path) (hi : f.IsSmooth i) :
    (f.meet i).Matches before ∧ (f.meet i).storage.IsFaithful path := by
  cases i with
  | change c =>
    refine ⟨h.changed hi, ?_⟩
    change (f.changed c).storage.IsFaithful path
    rw [storage_changed]
    exact hf.after hi
  | elsewhere disk => exact ⟨⟨h.restored, h.others⟩, hf.elsewhere hi⟩

theorem kept_meetAll {before : String → Option String} (h : f.Matches before)
    (hf : f.storage.IsFaithful path) (hi : AreSmooth incidents f) :
    (f.meetAll incidents).Matches before ∧ (f.meetAll incidents).storage.IsFaithful path := by
  induction incidents generalizing f with
  | nil => exact ⟨h, hf⟩
  | cons i incidents ih =>
    obtain ⟨h', hf'⟩ := kept_meet h hf hi.1
    exact ih h' hf' hi.2

/-- A store that is opened again has the pair that is held: over a memory after any changes, and over a
    file as long as no write fails and nobody else changes the file. What the storage has under other
    keys is what it had from the beginning. -/
theorem restored_is_held :
    (∀ (m : Memory) (changes : List Change),
      let s := (restore m).changedBy changes
      (restore s.storage).current = s.current ∧
        ∀ k, k ∉ tokenKeys → Storage.get? s.storage k = Storage.get? m k) ∧
    ∀ (path : String) (process : Nat) (disk : Disk) (opened : FileStorage) (incidents : List Incident),
      FileStorage.openAt path process disk = .ok opened → AreSmooth incidents (restore opened) →
        let s := (restore opened).meetAll incidents
        ∀ process', ∃ reopened, FileStorage.openAt path process' s.storage.disk = .ok reopened ∧
          (restore reopened).current = s.current ∧
          ∀ k, k ∉ tokenKeys → Storage.get? reopened k = Storage.get? opened k := by
  constructor
  · intro m changes
    have h := (matches_restore m).changedBy changes
    exact ⟨h.restored, h.others⟩
  · intro path process disk opened incidents hopened hsmooth s process'
    obtain ⟨h, hf⟩ := kept_meetAll (matches_restore opened) (FileStorage.isFaithful_openAt hopened)
      hsmooth
    obtain ⟨reopened, hreopened, hsame⟩ := hf.reopened process'
    refine ⟨reopened, hreopened, ?_, fun k hk => ?_⟩
    · change pairOf (Storage.get? reopened) = s.current
      rw [hsame]
      exact h.restored
    · rw [hsame]
      exact h.others k hk

/-- A client that finds the token of an older one in its file signs in, while another file is written,
    and signs out: the old token does not come back, and what else is in the file stays there. -/
theorem restored_after_sign_out :
    let path := "credentials.json"
    let content := "\x7b\"jwt_token\": \"old\", \"theme\": \"dark\"\x7d"
    let disk : Disk := { nodes := [([path], .file (Text.Utf8.encode content) 0o600)] }
    let opened : FileStorage :=
      { path, process := 1, entries := [("jwt_token", "old"), ("theme", "dark")], disk }
    let signedIn := (restore opened).meet (.change (.set "a\n\"1\"" (some "é")))
    let incidents : List Incident := [.change (.set "a\n\"1\"" (some "é")),
      .elsewhere (signedIn.storage.disk.put ["log"] (.file [] 0o644)), .change .clear]
    let s := (restore opened).meetAll incidents
    FileStorage.openAt path 1 disk = .ok opened ∧ (restore opened).current = ⟨"old", ""⟩ ∧
      AreSmooth incidents (restore opened) ∧ signedIn.current = ⟨"a\n\"1\"", "é"⟩ ∧
      ∃ reopened, FileStorage.openAt path 2 s.storage.disk = .ok reopened ∧
        (restore reopened).current = {} ∧ Storage.get? reopened "theme" = some "dark" := by
  intro path content disk opened signedIn incidents s
  have hcontent : disk.readText (Disk.Path.ofString path) = .ok content := by decide +kernel
  have hopened : FileStorage.openAt path 1 disk = .ok opened :=
    FileStorage.openAt_of_readText (by decide +kernel) hcontent (by decide +kernel)
  have hsmooth : AreSmooth incidents (restore opened) := by decide +kernel
  obtain ⟨reopened, hreopened, hpair, hothers⟩ :=
    restored_is_held.2 path 1 disk opened incidents hopened hsmooth 2
  refine ⟨hopened, by decide +kernel, hsmooth, by decide +kernel, reopened, hreopened, ?_, ?_⟩
  · exact hpair
  · exact (hothers "theme" (by decide)).trans (by decide +kernel)

end CredentialStore

end ShopClient
