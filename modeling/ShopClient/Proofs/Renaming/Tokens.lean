import ShopClient.Proofs.Persistence.Restored

/-!
# Tokens under other names

A map of tokens that keeps the empty one apart from the others (`Renaming`). It need not keep the others
apart from each other. A store handles all tokens alike, so it does with renamed tokens what it does
with the tokens, under the same keys and in the same order.

* `restored_memory`: what is restored from renamed entries is the renamed pair;
* `store_set`, `store_clear`: a change with renamed tokens is the renamed change.
-/

namespace ShopClient

/-- A map of tokens. The empty token, and no other, becomes empty. -/
structure Renaming where
  toFun : String → String
  eq_empty_iff (token : String) : toFun token = "" ↔ token = ""

namespace Renaming

instance : CoeFun Renaming fun _ => String → String := ⟨toFun⟩

variable (f : Renaming)

@[simp] theorem map_empty : f "" = "" := (f.eq_empty_iff "").2 rfl

theorem filter_map (token : Option String) :
    (token.map f).filter (· ≠ "") = (token.filter (· ≠ "")).map f := by
  rw [Option.filter_map]
  congr 2
  funext t
  exact decide_eq_decide.2 (not_congr (f.eq_empty_iff t))

theorem getD_map (token : Option String) : (token.map f).getD "" = f (token.getD "") := by
  cases token with
  | none => exact f.map_empty.symm
  | some t => rfl

/-! ### Pairs -/

/-- A pair of renamed tokens. -/
def pair (p : CredentialPair) : CredentialPair := ⟨f p.access, f p.refresh⟩

@[simp] theorem pair_empty : f.pair {} = {} := by
  rw [pair, map_empty]

@[simp] theorem hasAccess_pair (p : CredentialPair) : (f.pair p).hasAccess = p.hasAccess := by
  rw [Bool.eq_iff_iff, CredentialPair.hasAccess, CredentialPair.hasAccess, bne_iff_ne, bne_iff_ne]
  exact not_congr (f.eq_empty_iff p.access)

@[simp] theorem hasRefresh_pair (p : CredentialPair) : (f.pair p).hasRefresh = p.hasRefresh := by
  rw [Bool.eq_iff_iff, CredentialPair.hasRefresh, CredentialPair.hasRefresh, bne_iff_ne, bne_iff_ne]
  exact not_congr (f.eq_empty_iff p.refresh)

@[simp] theorem isEmpty_pair (p : CredentialPair) : (f.pair p).isEmpty = p.isEmpty := by
  rw [CredentialPair.isEmpty, hasAccess_pair, hasRefresh_pair, CredentialPair.isEmpty]

theorem pair_updated (access : String) (refresh : Option String) (p : CredentialPair) :
    f.pair (p.updated access refresh) = (f.pair p).updated (f access) (refresh.map f) := by
  rw [CredentialPair.updated, CredentialPair.updated, filter_map]
  cases refresh.filter (· ≠ "") with
  | some r => rfl
  | none =>
    simp only [Option.map_none, f.eq_empty_iff]
    split
    · exact f.pair_empty
    · rfl

/-! ### Entries -/

/-- Entries with renamed tokens. What stands under another key than that of a token is none. -/
def entries (es : Json.Entries) : Json.Entries :=
  es.map fun e => (e.1, if e.1 ∈ tokenKeys then f e.2 else e.2)

/-- A memory with renamed tokens. -/
def memory (m : Memory) : Memory := ⟨f.entries m.entries⟩

/-- A write of a renamed token. -/
def write (w : Write) : Write := ⟨w.key, w.value.map f⟩

theorem get?_entries {k : String} (hk : k ∈ tokenKeys) (es : Json.Entries) :
    Keyed.get? k (f.entries es) = (Keyed.get? k es).map f := by
  induction es with
  | nil => rfl
  | cons e es ih =>
    simp only [Keyed.get?, entries] at ih ⊢
    rw [List.map_cons, List.find?_cons, List.find?_cons]
    by_cases he : e.1 = k
    · simp [he, hk]
    · simpa [he] using ih

theorem entries_insert {k : String} (hk : k ∈ tokenKeys) (v : String) (es : Json.Entries) :
    f.entries (Keyed.insert k v es) = Keyed.insert k (f v) (f.entries es) := by
  have hcons (e : String × String) (es : Json.Entries) : f.entries (e :: es) =
      (e.1, if e.1 ∈ tokenKeys then f e.2 else e.2) :: f.entries es := List.map_cons
  have hnew (es : Json.Entries) : f.entries ((k, v) :: es) = (k, f v) :: f.entries es := by
    rw [hcons, if_pos hk]
  induction es with
  | nil => exact hnew []
  | cons e es ih =>
    rw [hcons, Keyed.insert, Keyed.insert]
    split
    · rw [hnew, hcons]
    · split
      · exact hnew es
      · rw [hcons, ih]

theorem entries_erase (k : String) (es : Json.Entries) :
    f.entries (Keyed.erase k es) = Keyed.erase k (f.entries es) := by
  rw [Keyed.erase, Keyed.erase, entries, entries, List.filter_map]
  rfl

theorem entries_written {w : Write} (hk : w.key ∈ tokenKeys) (es : Json.Entries) :
    f.entries (Keyed.written es w) = Keyed.written (f.entries es) (f.write w) := by
  obtain ⟨k, value⟩ := w
  cases value with
  | some v => exact f.entries_insert hk v es
  | none => exact f.entries_erase k es

theorem memory_after {writes : List Write} (hkeys : ∀ w ∈ writes, w.key ∈ tokenKeys) (m : Memory) :
    f.memory (Storage.after writes m) = Storage.after (writes.map f.write) (f.memory m) := by
  induction writes generalizing m with
  | nil => rfl
  | cons w writes ih =>
    have hw : f.memory (Storage.write m w).2 = (Storage.write (f.memory m) (f.write w)).2 := by
      rw [Memory.write_eq, Memory.write_eq]
      exact congrArg Memory.mk (f.entries_written (hkeys w List.mem_cons_self) m.entries)
    have hrest := ih (fun w' h => hkeys w' (List.mem_cons_of_mem w h)) (Storage.write m w).2
    rw [hw] at hrest
    exact hrest

/-! ### Stores -/

/-- A store of renamed tokens. -/
def store (s : CredentialStore Memory) : CredentialStore Memory :=
  ⟨f.memory s.storage, f.pair s.current⟩

/-- What is restored from renamed entries is the renamed pair. -/
theorem restored_memory (m : Memory) :
    CredentialStore.restored (f.memory m) = f.pair (CredentialStore.restored m) := by
  have hget {k : String} (hk : k ∈ tokenKeys) :
      Storage.get? (f.memory m) k = (Storage.get? m k).map f := f.get?_entries hk m.entries
  have haccess := hget (k := accessKey) (by decide)
  have hlegacy := hget (k := legacyKey) (by decide)
  have hrefresh := hget (k := refreshKey) (by decide)
  simp only [CredentialStore.restored, pair, haccess, hlegacy, hrefresh, filter_map, ← Option.map_or,
    getD_map]

theorem store_restore (m : Memory) :
    CredentialStore.restore (f.memory m) = f.store (CredentialStore.restore m) := by
  rw [CredentialStore.restore, restored_memory]
  rfl

theorem map_writes (access : String) (refresh : Option String) :
    (CredentialStore.writes access refresh).map f.write =
      CredentialStore.writes (f access) (refresh.map f) := by
  rw [CredentialStore.writes, CredentialStore.writes, List.map_append, filter_map]
  simp only [f.eq_empty_iff]
  congr 1
  · split <;> rfl
  · cases refresh.filter (· ≠ "") with
    | some r => rfl
    | none =>
      dsimp only [Option.map_none]
      split <;> rfl

/-- A change with renamed tokens is the renamed change. -/
theorem store_set (access : String) (refresh : Option String) (s : CredentialStore Memory) :
    f.store (s.set access refresh) = (f.store s).set (f access) (refresh.map f) := by
  have hstorage : f.memory (s.set access refresh).storage =
      ((f.store s).set (f access) (refresh.map f)).storage := by
    rw [CredentialStore.storage_set, CredentialStore.storage_set, ← map_writes]
    exact f.memory_after (fun _ => CredentialStore.key_mem_tokenKeys) s.storage
  have hcurrent : f.pair (s.set access refresh).current =
      ((f.store s).set (f access) (refresh.map f)).current := by
    rw [CredentialStore.current_set, CredentialStore.current_set]
    exact f.pair_updated access refresh s.current
  rw [store, hstorage, hcurrent]

theorem store_clear (s : CredentialStore Memory) : f.store s.clear = (f.store s).clear := by
  have hset := f.store_set "" (some "") s
  rwa [Option.map_some, map_empty] at hset

end Renaming

end ShopClient
