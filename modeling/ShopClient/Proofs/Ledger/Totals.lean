import ShopClient.Proofs.Ledger.Entering
import ShopClient.Proofs.Renewal.Logout

/-!
# Totals

What holds of the counters and of what the front end was told, after any course of events: the logouts,
the renewals, the words to sign in and the requests that were sent again are each counted where they
happen, once, whichever way it comes about. That the user is asked to sign in has four reasons, and two
of them are not counted by the session itself: a new token that is refused, and somebody outside.

* `Sound`, `Knows`: what is kept on the way, so that every step adds up;
* `tallies_step`, `tallies_run`: what is counted fits what happened, whoever speaks;
* `totals_run`: what follows for a session from its beginning on.
-/

namespace ShopClient.Session

open Journal

variable {σ : Type} [Storage σ] {s : Session σ} {mere : TaskId → Bool} {due : Int}
  {events : List Event}

/-! ### What is kept -/

/-- The session is in order, its operations are sorted, and nothing is handed over that merely renewing
    cannot come to. -/
structure Sound (mere : TaskId → Bool) (s : Session σ) : Prop where
  inOrder : s.InOrder []
  sorts : s.Sorts mere
  handsOut : s.HandsOut

omit [Storage σ] in
theorem sound_ofStore (settings : Settings) (store : CredentialStore σ) :
    (ofStore settings store).Sound mere where
  inOrder := inOrder_ofStore settings store
  sorts _ _ ht := by cases ht
  handsOut _ _ h := absurd h List.not_mem_nil

/-- `mere` knows the operations that will be started in the course of `events`. -/
def Knows (mere : TaskId → Bool) (events : List Event) (s : Session σ) : Prop :=
  ∀ k operation, (operations events)[k]? = some operation →
    mere (s.started + k) = operation.isMere

omit [Storage σ] in
theorem knows_ofStore (settings : Settings) (store : CredentialStore σ) (events : List Event) :
    (ofStore settings store).Knows (merely events) events := by
  intro k operation hk
  have hstarted : (ofStore settings store).started + k = k := Nat.zero_add k
  rw [hstarted, merely, hk]
  rfl

theorem started_step (hin : s.InOrder []) (e : Event) :
    (s.step e).started = s.started + (operations [e]).length := by
  rw [(turn_step hin e).fixed.2]
  cases e <;> rfl

omit [Storage σ] in
theorem Knows.start {e : Event} (h : s.Knows mere (e :: events)) {operation : Operation}
    (he : e = .start operation) : mere s.started = operation.isMere := by
  subst he
  exact h 0 operation rfl

theorem Knows.step {e : Event} (h : s.Knows mere (e :: events)) (hin : s.InOrder []) :
    (s.step e).Knows mere events := by
  intro k operation hk
  have hall : operations (e :: events) = operations [e] ++ operations events :=
    List.filterMap_append (l := [e])
  rw [started_step hin, Nat.add_assoc]
  refine h _ operation ?_
  rw [hall, List.getElem?_append_right (Nat.le_add_right _ _), Nat.add_sub_cancel_left]
  exact hk

theorem Sound.step {e : Event} (h : s.Sound mere) (hknows : s.Knows mere (e :: events)) :
    (s.step e).Sound mere where
  inOrder := inOrder_step h.inOrder e
  sorts := sorts_step h.sorts h.handsOut fun _ he => hknows.start he
  handsOut := handsOut_step h.inOrder h.handsOut e

/-! ### Steps and runs -/

/-- Whoever speaks, what is counted fits what happened. -/
theorem tallies_step (hs : s.Sorts mere) (hh : s.HandsOut) {e : Event}
    (hstart : ∀ operation, e = .start operation → mere s.started = operation.isMere) :
    ∃ news, (s.step e).lifecycle.journal = s.lifecycle.journal ++ news ∧
      Tallies mere (s.demanded e) news := by
  cases hspeaks : e.speaks with
  | false =>
    obtain ⟨news, hj, hnews⟩ := (enters_step hs hh hstart hspeaks).journal
    exact ⟨news, hj, hnews.toTallies⟩
  | true =>
    obtain ⟨message, rfl⟩ := e.exists_of_speaks hspeaks
    exact ⟨[.told (.error message)], rfl, rfl, rfl, rfl⟩

/-- How many of the requests that were sent again in the course of events were refused the new token. -/
def rebuffed : List Event → Session σ → Nat
  | [], _ => 0
  | e :: events, s => (if s.refusesAgain e then 1 else 0) + rebuffed events (s.step e)

theorem tallies_run (h : s.Sound mere) (hknows : s.Knows mere events)
    (hs : Tallies mere due s.lifecycle.journal) :
    Tallies mere (due + (s.rebuffed events + events.countP (·.expires) : Nat))
      (s.run events).lifecycle.journal := by
  induction events generalizing s due with
  | nil =>
    rw [rebuffed, List.countP_nil]
    exact (Int.add_zero due).symm ▸ hs
  | cons e events ih =>
    obtain ⟨news, hj, hnews⟩ := tallies_step h.sorts h.handsOut fun _ he => hknows.start he
    have hrest := ih (h.step hknows) (hknows.step h.inOrder) (hj ▸ hs.append hnews)
    have hdue : due + (s.demanded e : Int) +
        ((s.step e).rebuffed events + events.countP (·.expires) : Nat) =
        due + (s.rebuffed (e :: events) + (e :: events).countP (·.expires) : Nat) := by
      rw [rebuffed, List.countP_cons, demanded]
      omega
    rw [← hdue]
    exact hrest

/-- Whatever happens to a session from its beginning on:

    * the epoch, as far as 64 bits hold it, the count of logouts and the number of times that the front
      end was told of one are the same;
    * the renewals that were started are those that are counted to have ended, and the one in flight;
    * the user was asked to sign in for each renewal that failed or that there was no refresh token for,
      for each request that was sent again in vain, and as often as somebody outside ended the session;
    * the requests that were sent again are those of the calls that went on with a new token;
    * a logout after a logout says that there was nothing to do, and does nothing. -/
theorem totals_run (settings : Settings) (store : CredentialStore σ) (events : List Event) :
    let s := (ofStore settings store).run events
    let j := s.lifecycle.journal
    (s.lifecycle.epoch = UInt64.ofNat (j.total .logout) ∧
      j.total .logout = j.notices.count .loggedOut) ∧
    j.renewals.length = j.total (.renewal .ok) + j.total (.renewal .failed) +
      j.total (.renewal .discarded) + j.total (.renewal .abandoned) +
      (if s.isRefreshing then 1 else 0) ∧
    j.notices.count .loginRequired = j.total (.renewal .failed) +
      j.total (.renewal .noRefreshToken) + (ofStore settings store).rebuffed events +
      events.countP (·.expires) ∧
    j.total .replay = j.grants.countP (fun g => !merely events g.1 && g.2.isOk) ∧
    let s' := s.step (.act .logout)
    s'.lifecycle.logout.1 = false ∧ s'.step (.act .logout) = s' := by
  intro s j
  have htallies : Tallies (merely events) _ j :=
    tallies_run (sound_ofStore settings store) (knows_ofStore settings store events)
      accounts_nil.toTallies
  have hcounts : s.lifecycle.CountsLogouts :=
    (goes_run (inOrder_ofStore settings store) events).countsLogouts
      (Lifecycle.countsLogouts_ofStore store)
  have hbalances : s.Balances := balances_run (inOrder_ofStore settings store) rfl events
  have hflight : s.driver.length = if s.isRefreshing then 1 else 0 := by
    rw [driver, isRefreshing]
    cases s.flight <;> rfl
  have hagain : s.lifecycle.logout.2.logout = (false, s.lifecycle.logout.2) :=
    Lifecycle.logout_of_isCleared (Lifecycle.isCleared_logout s.lifecycle)
  refine ⟨⟨hcounts, htallies.farewells.symm⟩, ?_, ?_, htallies.replays, ?_, ?_⟩
  · rw [Balances, hflight, ended] at hbalances
    exact hbalances
  · have hdemands := htallies.demands
    omega
  · exact congrArg Prod.fst hagain
  · have hsame : s.lifecycle.logout.2.logout.2 = s.lifecycle.logout.2 := by rw [hagain]
    exact congrArg (fun l => ({ s with lifecycle := l } : Session σ)) hsame

end ShopClient.Session
