import ShopClient.Proofs.Standing.Activity

/-!
# What a logout leaves

After a logout there are no tokens and no profile, whatever was done to the session before. Whether
its observable says so, too, is another question: a logout publishes only if there was anything to
clear. Where the tokens were cleared past the lifecycle, and no profile is cached, there is nothing
to clear, and the value that was published last stays (`IsLeftActive`).

* `active_logout_iff`: when a session is still marked active after a logout;
* `exists_write_of_isStale`: it takes a write to the store, since which nothing was published;
* `logged_out_run`: what a logout leaves, after anything that was done to a session before;
* `active_after_logout`: a session that is still marked active.
-/

namespace ShopClient

namespace Lifecycle

variable {σ : Type} {l : Lifecycle σ}

/-- The session is marked active without an access token. -/
def IsStale (l : Lifecycle σ) : Prop := l.isActive = true ∧ l.store.current.hasAccess = false

instance (l : Lifecycle σ) : Decidable l.IsStale := inferInstanceAs (Decidable (_ ∧ _))

/-- The session is marked active, although there is nothing that a logout would clear. -/
def IsLeftActive (l : Lifecycle σ) : Prop := l.isCleared = true ∧ l.isActive = true

instance (l : Lifecycle σ) : Decidable l.IsLeftActive := inferInstanceAs (Decidable (_ ∧ _))

theorem IsLeftActive.isStale (h : l.IsLeftActive) : l.IsStale := by
  refine ⟨h.2, ?_⟩
  rw [current_of_isCleared h.1]
  rfl

theorem IsExact.not_isStale (h : l.IsExact) : ¬l.IsStale := by
  rintro ⟨hactive, haccess⟩
  rw [h, haccess] at hactive
  cases hactive

variable [Storage σ]

/-- A logout leaves a session marked active that was left so before, and no other. -/
theorem active_logout_iff (l : Lifecycle σ) : l.logout.2.isActive = true ↔ l.IsLeftActive := by
  cases hcleared : l.isCleared with
  | true => rw [logout_of_isCleared hcleared, IsLeftActive, and_iff_right hcleared]
  | false =>
    rw [isActive, active_logout hcleared, IsLeftActive, hcleared]
    simp

/-- What is done to a session in public makes its observable exact, or leaves it as it is. -/
theorem isExact_or_active_act (action : Action) (l : Lifecycle σ) :
    (l.act action).2.IsExact ∨ (l.act action).2.isActive = l.isActive := by
  have hlogout : l.logout.2.IsExact ∨ l.logout.2.isActive = l.isActive := by
    cases hcleared : l.isCleared with
    | true => exact .inr (by rw [logout_of_isCleared hcleared])
    | false =>
      refine .inl ?_
      rw [IsExact, isActive, active_logout hcleared, current_logout]
      rfl
  cases action with
  | storeCredentials access refresh => exact .inl (isExact_storeCredentials access refresh l)
  | storeRenewed epoch renewed =>
    simp only [act, storeRenewed]
    split
    · exact .inl (isExact_storeCredentials renewed.access renewed.refresh l)
    · exact .inr rfl
  | logout => exact hlogout
  | expire => exact hlogout
  | _ => exact .inr rfl

end Lifecycle

namespace Watched

variable {σ : Type} [Storage σ] {w : Watched σ} {moves : List Move}

/-- An access token that is still marked as held goes by a write to the store past the lifecycle. -/
theorem isStale_step {m : Move} (h : (w.step m).lifecycle.IsStale) : w.lifecycle.IsStale ∨
    ∃ access refresh, m = .act (.writeStore access refresh) ∧
      w.lifecycle.store.current.hasAccess = true := by
  cases m with
  | subscribe => exact .inl h
  | look => exact .inl h
  | act action =>
    have hactive : w.lifecycle.isActive = true := by
      rcases w.lifecycle.isExact_or_active_act action with hexact | hsame
      · exact absurd h hexact.not_isStale
      · exact hsame.symm.trans h.1
    cases haccess : w.lifecycle.store.current.hasAccess with
    | false => exact .inl ⟨hactive, haccess⟩
    | true =>
      refine .inr ?_
      have hexact : w.lifecycle.IsExact := hactive.trans haccess.symm
      cases hsilent : action.isSilent with
      | false => exact absurd h (hexact.act hsilent).not_isStale
      | true =>
        cases action with
        | writeStore access refresh => exact ⟨access, refresh, rfl, rfl⟩
        | _ => cases hsilent

/-- A session that is marked active without an access token has been so since a write to its store,
    past the lifecycle, before which there was one. -/
theorem exists_write_of_isStale (h : w.lifecycle.IsExact) (hstale : (w.run moves).lifecycle.IsStale) :
    ∃ before access refresh since, moves = before ++ .act (.writeStore access refresh) :: since ∧
      (w.run before).lifecycle.store.current.hasAccess = true ∧
      ∀ mid, mid <+: since →
        (w.run (before ++ .act (.writeStore access refresh) :: mid)).lifecycle.IsStale := by
  induction moves using List.reverseRecOn with
  | nil => exact absurd hstale h.not_isStale
  | append_singleton moves m ih =>
    have hlast := hstale
    rw [run_concat] at hlast
    rcases isStale_step hlast with hbefore | ⟨access, refresh, rfl, haccess⟩
    · -- It was so before the last move, too.
      obtain ⟨before, access, refresh, since, rfl, haccess, hsince⟩ := ih hbefore
      refine ⟨before, access, refresh, since ++ [m], by simp, haccess, fun mid hmid => ?_⟩
      rcases List.prefix_concat_iff.1 hmid with rfl | hmid
      · rwa [← List.cons_append, ← List.append_assoc]
      · exact hsince mid hmid
    · refine ⟨moves, access, refresh, [], rfl, haccess, fun mid hmid => ?_⟩
      rwa [List.prefix_nil.1 hmid]

/-- A logout after anything that was done to a session, its store included:

    * there are no tokens and no profile any more;
    * the session is still marked active just when there was nothing to clear although it was marked
      active before;
    * a place that requires a session is closed in all other cases, and the sign-in page is given the
      way back;
    * a logout that says that there was something to clear leaves no session marked active;
    * what is left active has been marked so, without an access token, since a write to the store past
      the lifecycle. -/
theorem logged_out_run (store : CredentialStore σ) (moves : List Move) :
    let w := (ofStore store).run moves
    let ended := w.step (.act .logout)
    ended.lifecycle.store.current = {} ∧ ended.lifecycle.profile = none ∧
      (ended.lifecycle.isActive = true ↔ w.lifecycle.IsLeftActive) ∧
      (∀ target, ended.lifecycle.guard true target =
        if w.lifecycle.IsLeftActive then .proceed else .redirectToLogin target) ∧
      ((w.lifecycle.act .logout).1 = true → ended.lifecycle.isActive = false) ∧
      (ended.lifecycle.isActive = true →
        ∃ before access refresh since, moves = before ++ .act (.writeStore access refresh) :: since ∧
          ((ofStore store).run before).lifecycle.store.current.hasAccess = true ∧
          ∀ mid, mid <+: since →
            ((ofStore store).run (before ++ .act (.writeStore access refresh) :: mid)).lifecycle.IsStale)
      := by
  intro w ended
  have hactive : ended.lifecycle.isActive = true ↔ w.lifecycle.IsLeftActive :=
    w.lifecycle.active_logout_iff
  refine ⟨Lifecycle.current_logout _, Lifecycle.profile_logout _, hactive, ?_, ?_, ?_⟩
  · intro target
    have hchecked : ended.lifecycle.guard true target =
        if ended.lifecycle.isActive = true then .proceed else .redirectToLogin target := by
      rw [Lifecycle.guard, Access.check]
      cases ended.lifecycle.isActive <;> rfl
    rw [hchecked]
    exact if_congr hactive rfl rfl
  · intro heffective
    have hcleared : w.lifecycle.isCleared = false := by
      by_contra hc
      rw [Bool.not_eq_false] at hc
      have hnone : w.lifecycle.logout.1 = false := by rw [Lifecycle.logout_of_isCleared hc]
      exact absurd (hnone.symm.trans heffective) Bool.false_ne_true
    exact Lifecycle.active_logout hcleared
  · intro hstill
    exact exists_write_of_isStale (Lifecycle.isExact_ofStore store) (hactive.1 hstill).isStale

/-- Somebody signs in, while another watches, and the tokens are cleared past the lifecycle. The
    logout finds nothing to clear: who watches still sees an active session, and places that require
    one are open. Nor does another logout close them. -/
theorem active_after_logout :
    let moves : List Move :=
      [.subscribe, .act (.storeCredentials "a1" (some "r1")), .act (.writeStore "" none)]
    let s₀ : Watched Memory := ofStore ⟨⟨[]⟩, {}⟩
    let w := s₀.run moves
    let ended := w.step (.act .logout)
    (w.lifecycle.act .logout).1 = false ∧ ended.lifecycle.store.current = {} ∧
      ended.watchers = [⟨0⟩] ∧ ended.lifecycle.isActive = true ∧
      ended.lifecycle.guard true "/orders?page=2" = .proceed ∧
      (ended.step (.act .logout)).lifecycle.isActive = true := by
  decide +kernel

end Watched

end ShopClient
