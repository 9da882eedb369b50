import ShopClient.Proofs.Persistence.Restored

/-!
# The pair that is held, from the history of its changes

Which tokens a store holds can be read off its changes, without following the store through them and
without the storage. The access token is that of the last change. The refresh token is the last one
that a change brought, or the restored one where none did, unless there was a change since that
cleared the access token and brought no refresh token.

* `current_changedBy`: what is held after changes is made of what was held before, and of nothing
  else;
* `refresh_changedBy`: the refresh token after changes that bring none;
* `held_of_history`: which pair is held after any changes.
-/

namespace ShopClient.CredentialStore

/-- The access token that a change brings. -/
def Change.access : Change → String
  | set access _ => access
  | clear => ""

/-- The refresh token that a change brings, if it brings one. An empty one is none. -/
def Change.refresh? : Change → Option String
  | set _ refresh => refresh.filter (· ≠ "")
  | clear => none

theorem Change.refresh?_ne {c : Change} {r : String} (h : c.refresh? = some r) : r ≠ "" := by
  cases c with
  | set access refresh => exact of_decide_eq_true (Option.filter_eq_some_iff.1 h).2
  | clear => cases h

variable {σ : Type} [Storage σ] {s : CredentialStore σ} {changes : List Change} {c : Change}

/-! ### One change -/

theorem current_changed (s : CredentialStore σ) (c : Change) :
    (s.changed c).current = s.current.updated c.access c.refresh? := by
  cases c with
  | set access refresh =>
    have hfilter : (refresh.filter (· ≠ "")).filter (· ≠ "") = refresh.filter (· ≠ "") := by
      simp [Option.filter_filter]
    rw [changed, current_set, CredentialPair.updated, CredentialPair.updated, Change.refresh?, hfilter]
    rfl
  | clear => exact current_set "" (some "") s

theorem access_changed (s : CredentialStore σ) (c : Change) :
    (s.changed c).current.access = c.access := by
  cases c with
  | set access refresh => exact access_set access refresh s
  | clear => exact access_set "" (some "") s

theorem refresh_changed_of_some {r : String} (h : c.refresh? = some r) (s : CredentialStore σ) :
    (s.changed c).current.refresh = r := by
  have hfilter : (some r).filter (· ≠ "") = some r := if_pos (decide_eq_true (Change.refresh?_ne h))
  rw [current_changed, h, CredentialPair.updated, hfilter]

theorem refresh_changed_of_none (h : c.refresh? = none) (s : CredentialStore σ) :
    (s.changed c).current.refresh = if c.access = "" then "" else s.current.refresh := by
  rw [current_changed, h, CredentialPair.updated]
  dsimp only [Option.filter_none]
  split <;> rfl

/-! ### A history of changes -/

/-- What is held after changes is made of what was held before, whatever became of the writes to the
    storage. -/
theorem current_changedBy (s : CredentialStore σ) (changes : List Change) :
    (s.changedBy changes).current =
      changes.foldl (fun p c => p.updated c.access c.refresh?) s.current := by
  induction changes generalizing s with
  | nil => rfl
  | cons c changes ih =>
    rw [List.foldl_cons, ← current_changed]
    exact ih _

theorem changedBy_append (before since : List Change) (s : CredentialStore σ) :
    s.changedBy (before ++ since) = (s.changedBy before).changedBy since :=
  List.foldl_append

/-- As long as no change brings a refresh token, the one that is held stays, until the access token
    is cleared. -/
theorem refresh_changedBy (h : ∀ c ∈ changes, c.refresh? = none) (s : CredentialStore σ) :
    (s.changedBy changes).current.refresh =
      if ∃ c ∈ changes, c.access = "" then "" else s.current.refresh := by
  induction changes generalizing s with
  | nil => simp [changedBy]
  | cons c changes ih =>
    rw [List.forall_mem_cons] at h
    rw [changedBy, List.foldl_cons, ← changedBy, ih h.2, refresh_changed_of_none h.1]
    by_cases hc : c.access = ""
    · simp [hc]
    · simp [hc]

/-- After any changes, and whatever became of the writes to the storage:

    * the access token is that of the last change;
    * the refresh token is the last one that a change brought, unless a change since has cleared the
      access token;
    * where no change brought one, it is the one that was held at first, unless a change has cleared
      the access token;
    * a store over another storage, which held the same pair at first, holds the same pair;
    * a refresh token is held without an access token only if the last change brought it. -/
theorem held_of_history (s : CredentialStore σ) (changes : List Change) (h : changes ≠ []) :
    let held := (s.changedBy changes).current
    held.access = (changes.getLast h).access ∧
      (∀ before c since r, changes = before ++ c :: since → c.refresh? = some r →
        (∀ c' ∈ since, c'.refresh? = none) →
          held.refresh = if ∃ c' ∈ since, c'.access = "" then "" else r) ∧
      ((∀ c ∈ changes, c.refresh? = none) →
        held.refresh = if ∃ c ∈ changes, c.access = "" then "" else s.current.refresh) ∧
      (∀ (τ : Type) [Storage τ] (t : CredentialStore τ), t.current = s.current →
        (t.changedBy changes).current = held) ∧
      (held.access = "" → held.refresh ≠ "" → (changes.getLast h).refresh? = some held.refresh) := by
  intro held
  -- The last change, and what is held before it.
  have hlast : held = ((s.changedBy changes.dropLast).changed (changes.getLast h)).current := by
    have hsplit := changedBy_append changes.dropLast [changes.getLast h] s
    rw [List.dropLast_concat_getLast] at hsplit
    exact congrArg current hsplit
  have haccess : held.access = (changes.getLast h).access := by rw [hlast, access_changed]
  refine ⟨haccess, ?_, fun hnone => refresh_changedBy hnone s, ?_, ?_⟩
  · rintro before c since r rfl hc hsince
    have hrun : held = (((s.changedBy before).changed c).changedBy since).current :=
      congrArg current (changedBy_append before (c :: since) s)
    rw [hrun, refresh_changedBy hsince, refresh_changed_of_some hc]
  · intro τ _ t ht
    exact (current_changedBy t changes).trans (ht ▸ (current_changedBy s changes).symm)
  · intro hempty hrefresh
    rw [hlast] at hrefresh ⊢
    cases hc : (changes.getLast h).refresh? with
    | some r => rw [refresh_changed_of_some hc]
    | none =>
      rw [refresh_changed_of_none hc, if_pos (haccess ▸ hempty)] at hrefresh
      exact absurd rfl hrefresh

/-- A storage that takes no new entries holds a pair, of which the store replaces the access token,
    and then both. The access token is cleared, which takes the refresh token along, and at last
    there is a refresh token alone. Nothing of that is persisted but the removals. -/
theorem held_of_history_refused :
    let storage : Refusing :=
      { entries := [("access_token", "a0"), ("refresh_token", "r0")], refusesSet := true }
    let changes : List Change :=
      [.set "a1" (some ""), .set "a2" (some "r2"), .set "a3" none, .clear, .set "" (some "r4")]
    let s := restore storage
    (s.changedBy (changes.take 1)).current = ⟨"a1", "r0"⟩ ∧
      (s.changedBy (changes.take 3)).current = ⟨"a3", "r2"⟩ ∧
      (s.changedBy (changes.take 4)).current = {} ∧ (s.changedBy changes).current = ⟨"", "r4"⟩ ∧
      (s.changedBy (changes.take 3)).storage.entries = storage.entries ∧
      (s.changedBy changes).storage.entries = [] := by
  intro storage changes s
  obtain ⟨haccess₁, -, hrefresh₁, -⟩ := held_of_history s (changes.take 1) (by decide)
  obtain ⟨haccess₃, hrefresh₃, -⟩ := held_of_history s (changes.take 3) (by decide)
  obtain ⟨haccess₄, hrefresh₄, -⟩ := held_of_history s (changes.take 4) (by decide)
  obtain ⟨haccess, hrefresh, -⟩ := held_of_history s changes (by decide)
  refine ⟨?_, ?_, ?_, ?_, by decide +kernel, by decide +kernel⟩
  · exact congrArg₂ CredentialPair.mk haccess₁ (hrefresh₁ (by decide))
  · exact congrArg₂ CredentialPair.mk haccess₃
      (hrefresh₃ [.set "a1" (some "")] _ [.set "a3" none] "r2" rfl (by decide) (by decide))
  · exact congrArg₂ CredentialPair.mk haccess₄
      (hrefresh₄ [.set "a1" (some "")] _ [.set "a3" none, .clear] "r2" rfl (by decide) (by decide))
  · exact congrArg₂ CredentialPair.mk haccess
      (hrefresh (changes.take 4) _ [] "r4" rfl (by decide) (by decide))

end ShopClient.CredentialStore
