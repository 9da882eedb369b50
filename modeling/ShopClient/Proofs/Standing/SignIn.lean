import ShopClient.Proofs.Persistence.Restored
import ShopClient.Proofs.Standing.Origin

/-!
# The tokens of a sign-in

A sign-in stores the tokens that the shop issues. If it issues no refresh token, the store does as it
does for a renewal: it keeps the refresh token that is there. After a logout there is none. But whoever
signs in over a session that was not logged out gets a new access token beside the old refresh token, in
the store and in what is persisted of it, and the next renewal is made with that.

* `CredentialStore.get?_set`: what is persisted of a change with an access token;
* `tokens_of_sign_in`: what is held and what is persisted when the tokens of a sign-in are stored.
-/

namespace ShopClient

namespace CredentialStore

variable {σ : Type} [Storage σ]

/-- What is written for tokens of which the first is one. -/
theorem writes_of_ne {access : String} (h : access ≠ "") (refresh : String) :
    writes access (some refresh) =
      ⟨accessKey, some access⟩ :: if refresh = "" then [] else [⟨refreshKey, some refresh⟩] := by
  simp only [writes, if_neg h]
  by_cases hr : refresh = ""
  · rw [hr]
    rfl
  · have hfilter : (some refresh).filter (· ≠ "") = some refresh := if_pos (decide_eq_true hr)
    simp only [hfilter, if_neg hr]
    rfl

/-- If the writes succeed, the access token is persisted, and the refresh token if there is one. Without
    one, what was persisted before stays. -/
theorem get?_set [LawfulStorage σ] {access refresh : String} {s : CredentialStore σ}
    (h : access ≠ "") (hwrites : Storage.AllSucceed (writes access (some refresh)) s.storage) :
    Storage.get? (s.set access (some refresh)).storage accessKey = some access ∧
      Storage.get? (s.set access (some refresh)).storage refreshKey =
        if refresh = "" then Storage.get? s.storage refreshKey else some refresh := by
  rw [storage_set, Storage.get?_after hwrites, writes_of_ne h]
  by_cases hr : refresh = ""
  · simp [hr, Write.apply_eq, accessKey, refreshKey]
  · simp [hr, Write.apply_eq, accessKey, refreshKey]

end CredentialStore

namespace Session

variable {σ : Type} [Storage σ]

/-- When the answer to a sign-in brings an access token, it is stored, and then the profile is asked for.
    The refresh token that is held from then on is that of the answer if it carries one, else the one
    that was held before; and the same goes for the persisted ones, if the writes succeed. So the pair
    that is held is the one that was issued if and only if a refresh token was issued, or none was
    held. -/
theorem tokens_of_sign_in {s : Session σ} {e : Event} {reply : SignInReply}
    (h : s.signIn? e = some reply) :
    let before := s.lifecycle.store
    let after := (s.signedIn reply).lifecycle.store
    reply.access ≠ "" ∧ (∃ id, s.step e = (s.signedIn reply).begin id profileCall) ∧
      after.current =
        ⟨reply.access, if reply.refresh = "" then before.current.refresh else reply.refresh⟩ ∧
      (after.current = ⟨reply.access, reply.refresh⟩ ↔
        reply.refresh ≠ "" ∨ before.current.refresh = "") ∧
      ∀ [LawfulStorage σ],
        Storage.AllSucceed (CredentialStore.writes reply.access (some reply.refresh))
          before.storage →
        Storage.get? after.storage accessKey = some reply.access ∧
          Storage.get? after.storage refreshKey =
            if reply.refresh = "" then Storage.get? before.storage refreshKey
            else some reply.refresh := by
  intro before after
  obtain ⟨haccess, hstep⟩ := step_of_signIn? h
  have hafter : after = before.set reply.access (some reply.refresh) := rfl
  have hcurrent : after.current =
      ⟨reply.access, if reply.refresh = "" then before.current.refresh else reply.refresh⟩ := by
    rw [hafter, CredentialStore.current_set]
    by_cases hr : reply.refresh = ""
    · rw [hr, CredentialPair.updated_of_empty haccess, if_pos rfl]
    · rw [CredentialPair.updated_of_ne hr, if_neg hr]
  refine ⟨haccess, hstep, hcurrent, ?_, fun hwrites => ?_⟩
  · rw [hcurrent, CredentialPair.mk.injEq, and_iff_right rfl]
    by_cases hr : reply.refresh = ""
    · rw [if_pos hr, hr, or_iff_right (not_not_intro rfl)]
    · rw [if_neg hr]
      exact iff_of_true rfl (.inl hr)
  · rw [hafter]
    exact CredentialStore.get?_set haccess hwrites

/-- Somebody signs in over a session, and both tokens of the pair are new. -/
theorem tokens_of_sign_in_with_refresh :
    let s₀ : Session Memory :=
      ofStore {} (.restore ⟨[("access_token", "a1"), ("refresh_token", "r1")]⟩)
    let s := s₀.step (.start (.signIn ⟨"user", "secret"⟩))
    let reply : SignInReply := { access := "a2", refresh := "r2" }
    ∃ e, s.signIn? e = some reply ∧ (s.signedIn reply).lifecycle.store.current = ⟨"a2", "r2"⟩ ∧
      Storage.get? (s.signedIn reply).lifecycle.store.storage refreshKey = some "r2" := by
  intro s₀ s reply
  let e : Event := .answer 0 (.answered 200 (Text.Utf8.encode
    "\x7b\"access_token\": \"a2\", \"refresh_token\": \"r2\"\x7d"))
  have he : s.signIn? e = some reply := by decide +kernel
  obtain ⟨-, -, hcurrent, -, hpersisted⟩ := tokens_of_sign_in he
  exact ⟨e, he, hcurrent, (hpersisted (Memory.allSucceed _ _)).2⟩

/-- Somebody signs in over a session, and is issued no refresh token. The one of the session before
    stays, in the store and in the storage behind it, and the next renewal is made with it. -/
theorem old_refresh_token_after_sign_in :
    let s₀ : Session Memory :=
      ofStore {} (.restore ⟨[("access_token", "a1"), ("refresh_token", "r1")]⟩)
    let s := s₀.run (signingIn 0 "")
    s.lifecycle.store.current = ⟨"a2", "r1"⟩ ∧
      s.lifecycle.store.storage.entries = [("access_token", "a2"), ("refresh_token", "r1")] ∧
      (s.step (.start .renew)).lifecycle.journal.renewals = ["r1"] := by
  decide +kernel

end Session

end ShopClient
