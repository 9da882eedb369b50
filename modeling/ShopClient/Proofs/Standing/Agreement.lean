import ShopClient.Proofs.Session.Lifecycle

/-!
# The standing of a session

Most of what is done to a session leaves it as it stands: its tokens and what is persisted of them,
its profile, its observable and its epoch are the same, and nobody was told of a logout. What is
entered in the journal otherwise does not matter for that (`Agrees`).

A session that does not stay as it is has mostly ended (`StaysOrEnds`). To end it twice is to end it
once.

* `agrees_iff_of_ended`: a session that was logged out is the same as before only if there was
  nothing to clear;
* `hasEnded_of_ended`: what is left of it otherwise;
* `CredentialStore.current_set`: the pair of tokens after a change.
-/

namespace ShopClient

/-! ### Pairs of tokens -/

namespace CredentialPair

/-- The pair with a new access token, and with a new refresh token if there is one. Without a new one,
    the refresh token goes when the access token is cleared. -/
def updated (access : String) (refresh : Option String) (p : CredentialPair) : CredentialPair :=
  match refresh.filter (· ≠ "") with
  | some refresh => ⟨access, refresh⟩
  | none => if access = "" then {} else { p with access }

end CredentialPair

theorem CredentialStore.current_set {σ : Type} [Storage σ] (access : String) (refresh : Option String)
    (s : CredentialStore σ) :
    (s.set access refresh).current = s.current.updated access refresh := by
  rw [set, CredentialPair.updated]
  cases refresh.filter (· ≠ "") with
  | some r => rfl
  | none =>
    dsimp only
    split
    · rename_i h
      rw [h]
    · rfl

namespace Lifecycle

variable {σ : Type} {l l' l'' : Lifecycle σ}

/-! ### Agreement -/

/-- How often the front end was told of a logout. -/
def farewells (l : Lifecycle σ) : Nat := l.journal.notices.count .loggedOut

/-- The session is the same in `l'` as in `l`: its tokens and what is persisted of them, its
    profile, its observable, its epoch, and how often the front end was told of a logout. -/
structure Agrees (l l' : Lifecycle σ) : Prop where
  store : l'.store = l.store
  profile : l'.profile = l.profile
  active : l'.active = l.active
  epoch : l'.epoch = l.epoch
  farewells : l'.farewells = l.farewells

namespace Agrees

theorem refl (l : Lifecycle σ) : l.Agrees l := ⟨rfl, rfl, rfl, rfl, rfl⟩

theorem trans (h : l.Agrees l') (h' : l'.Agrees l'') : l.Agrees l'' where
  store := h'.store.trans h.store
  profile := h'.profile.trans h.profile
  active := h'.active.trans h.active
  epoch := h'.epoch.trans h.epoch
  farewells := h'.farewells.trans h.farewells

theorem log (h : l.Agrees l') {e : Entry} (he : (Journal.notices [e]).count .loggedOut = 0) :
    l.Agrees (l'.log e) := by
  refine { h with farewells := ?_ }
  rw [Lifecycle.farewells, Lifecycle.log, Journal.notices_append, List.count_append, he]
  exact h.farewells

theorem count (h : l.Agrees l') (c : Counter) : l.Agrees (l'.count c) := h.log rfl

theorem isCleared_eq (h : l.Agrees l') : l'.isCleared = l.isCleared := by
  rw [isCleared, isCleared, h.store, h.profile]

theorem setProfile (h : l.Agrees l') (profile : Option Profile) :
    (l.setProfile profile).Agrees (l'.setProfile profile) :=
  { h with profile := rfl }

variable [Storage σ]

theorem storeCredentials (h : l.Agrees l') (access : String) (refresh : Option String) :
    (l.storeCredentials access refresh).Agrees (l'.storeCredentials access refresh) := by
  have hstore : l'.store.set access refresh = l.store.set access refresh := by rw [h.store]
  refine ⟨hstore, h.profile, ?_, h.epoch, h.farewells⟩
  simp only [Lifecycle.storeCredentials, writeStore, publish, hstore, h.active]

end Agrees

/-! ### Logouts -/

variable [Storage σ]

@[simp] theorem access_storeCredentials (access : String) (refresh : Option String)
    (l : Lifecycle σ) : (l.storeCredentials access refresh).store.current.access = access :=
  CredentialStore.access_set access refresh l.store

theorem current_storeCredentials (access : String) (refresh : Option String) (l : Lifecycle σ) :
    (l.storeCredentials access refresh).store.current = l.store.current.updated access refresh :=
  CredentialStore.current_set access refresh l.store

theorem logout_of_isCleared (h : l.isCleared = true) : l.logout = (false, l) := if_pos h

@[simp] theorem current_logout (l : Lifecycle σ) : l.logout.2.store.current = {} := by
  rw [logout]
  split
  · rename_i h
    exact current_of_isCleared h
  · exact CredentialStore.current_clear l.store

@[simp] theorem profile_logout (l : Lifecycle σ) : l.logout.2.profile = none := by
  rw [logout]
  split
  · rename_i h
    rw [isCleared, Bool.and_eq_true] at h
    exact Option.isNone_iff_eq_none.1 h.2
  · rfl

@[simp] theorem isCleared_logout (l : Lifecycle σ) : l.logout.2.isCleared = true := by
  rw [isCleared, current_logout, profile_logout]
  rfl

theorem farewells_logout (l : Lifecycle σ) :
    l.logout.2.farewells = if l.isCleared then l.farewells else l.farewells + 1 := by
  rw [farewells, journal_logout, Journal.notices_append, List.count_append]
  split <;> rfl

/-- The observable of a session that was logged out says so. -/
theorem active_logout (h : l.isCleared = false) : l.logout.2.active.value = false := by
  simp only [logout, h, Bool.false_eq_true, if_false]
  change (l.active.publish (l.store.clear.current.hasAccess)).value = false
  rw [CredentialStore.current_clear, Observable.publish]
  split
  · assumption
  · rfl

theorem Agrees.logout (h : l.Agrees l') : l.logout.2.Agrees l'.logout.2 := by
  have hfarewells := farewells_logout l
  have hfarewells' := farewells_logout l'
  rw [h.isCleared_eq, h.farewells, ← hfarewells] at hfarewells'
  cases hc : l.isCleared with
  | true =>
    have hc' : l'.isCleared = true := h.isCleared_eq.trans hc
    rw [logout_of_isCleared hc, logout_of_isCleared hc']
    exact h
  | false =>
    have hc' : l'.isCleared = false := h.isCleared_eq.trans hc
    refine ⟨?_, ?_, ?_, ?_, hfarewells'⟩
    · simp only [Lifecycle.logout, hc, hc', Bool.false_eq_true, if_false]
      exact congrArg CredentialStore.clear h.store
    · rw [profile_logout, profile_logout]
    · simp only [Lifecycle.logout, hc, hc', Bool.false_eq_true, if_false]
      change Observable.publish l'.store.clear.current.hasAccess l'.active =
        Observable.publish l.store.clear.current.hasAccess l.active
      rw [CredentialStore.current_clear, CredentialStore.current_clear, h.active]
    · rw [epoch_logout, epoch_logout, hc, hc', h.epoch]

/-- To end a session is to log it out. -/
theorem agrees_expire (l : Lifecycle σ) : l.logout.2.Agrees l.expire :=
  (Agrees.refl _).log rfl

/-- A session that was logged out is the same as before only if there was nothing to clear. -/
theorem agrees_iff_of_ended (h : l.logout.2.Agrees l') : l.Agrees l' ↔ l.isCleared = true := by
  constructor
  · intro hsame
    have hcount := h.farewells.symm.trans hsame.farewells
    rw [farewells_logout] at hcount
    by_contra hc
    rw [if_neg hc] at hcount
    exact absurd hcount (Nat.succ_ne_self _)
  · intro hc
    rwa [logout_of_isCleared hc] at h

/-- The session of `l` has ended in `l'`, and the front end was told: there is no token and no
    profile any more, and the observable says so. -/
structure HasEnded (l l' : Lifecycle σ) : Prop where
  current : l'.store.current = {}
  profile : l'.profile = none
  active : l'.active.value = false
  epoch : l'.epoch = l.epoch + 1
  farewells : l'.farewells = l.farewells + 1

theorem hasEnded_of_ended (h : l.logout.2.Agrees l') (hc : l.isCleared = false) :
    l.HasEnded l' where
  current := by rw [h.store, current_logout]
  profile := by rw [h.profile, profile_logout]
  active := by rw [h.active, active_logout hc]
  epoch := by
    rw [h.epoch, epoch_logout, hc]
    rfl
  farewells := by
    rw [h.farewells, farewells_logout, hc]
    rfl

/-! ### Sessions that stay or end -/

/-- The session stays as it is, or it is logged out. -/
def StaysOrEnds (l l' : Lifecycle σ) : Prop := l.Agrees l' ∨ l.logout.2.Agrees l'

namespace StaysOrEnds

theorem refl (l : Lifecycle σ) : l.StaysOrEnds l := .inl (.refl l)

/-- A session that has ended does not end again. -/
theorem after_end (h : l.logout.2.Agrees l') (h' : l'.StaysOrEnds l'') : l.logout.2.Agrees l'' := by
  rcases h' with h' | h'
  · exact h.trans h'
  · -- A logout after a logout clears nothing.
    have hagain := h.logout
    rw [logout_of_isCleared (isCleared_logout l)] at hagain
    exact hagain.trans h'

theorem trans (h : l.StaysOrEnds l') (h' : l'.StaysOrEnds l'') : l.StaysOrEnds l'' := by
  rcases h with h | h
  · rcases h' with h' | h'
    · exact .inl (h.trans h')
    · exact .inr (h.logout.trans h')
  · exact .inr (after_end h h')

/-- The tokens stay, or they are gone. -/
theorem current_cases (h : l.StaysOrEnds l') :
    l'.store.current = l.store.current ∨ l'.store.current = {} := by
  rcases h with h | h
  · exact .inl (by rw [h.store])
  · exact .inr (by rw [h.store, current_logout])

/-- Tokens that are gone do not come back. -/
theorem current_eq (h : l.StaysOrEnds l') (hl : l.store.current = {}) : l'.store.current = {} :=
  h.current_cases.elim (·.trans hl) id

/-- The epoch is the same as long as there are tokens. -/
theorem epoch_or_current (h : l.StaysOrEnds l') : l'.epoch = l.epoch ∨ l'.store.current = {} := by
  rcases h with h | h
  · exact .inl h.epoch
  · exact .inr (by rw [h.store, current_logout])

end StaysOrEnds

end Lifecycle

end ShopClient
