import ShopClient.Proofs.Renewal.Answer
import ShopClient.Proofs.Standing.Activity
import ShopClient.Proofs.Standing.Origin

/-!
# What a renewal leaves behind

The answer to a renewal may come without a refresh token. Then the one that is there stays, and it
has to be there: a renewal is started with a refresh token, and nothing but a logout takes that away
as long as no empty access token is stored. After a logout the result is thrown away. So whenever a
result is stored, there are tokens of both kinds.

* `isRenewable_step`: a step keeps a refresh token, or it ends the session;
* `keepsRefresh_run`: there is one as long as a renewal is in flight that is still valid;
* `complete_of_renewed`: which answers renew, and that there are both tokens when that is stored.
-/

namespace ShopClient

/-- The access token that comes with `e` to be stored as it is. Those of a sign-in, and of an answer
    to a renewal, are looked at first. -/
def Event.access? : Event → Option String
  | .act (.storeCredentials access _) | .act (.writeStore access _) => some access
  | .act (.storeRenewed _ renewed) | .resolve (.ok renewed) => some renewed.access
  | _ => none

/-- The access token of a renewal is one, unless an empty one comes with the event. -/
theorem Event.access_ne_of_renewal? {σ : Type} {s : Session σ} {e : Event}
    (h : e.access? ≠ some "") {renewed : Renewed} (he : e.renewal? s = some (.ok renewed)) :
    renewed.access ≠ "" := by
  cases e with
  | resolve result =>
    obtain rfl := Option.some.inj he
    exact fun hempty => h (congrArg some hempty)
  | answerRenewal x =>
    obtain ⟨f, -, hresult⟩ := Option.map_eq_some_iff.1 he
    exact Flight.access_ne_of_result hresult
  | _ => cases he

/-- A new access token leaves a refresh token in place, or brings a new one. -/
theorem CredentialPair.refresh_updated_ne {access : String} (h : access ≠ "")
    (refresh : Option String) {p : CredentialPair} (hp : p.refresh ≠ "") :
    (p.updated access refresh).refresh ≠ "" := by
  rw [updated]
  cases hr : refresh.filter (· ≠ "") with
  | some r => exact (token_eq_some_iff.1 hr).2
  | none =>
    simp only [if_neg h]
    exact hp

namespace Lifecycle

variable {σ : Type} [Storage σ] {l l' : Lifecycle σ}

/-- There is a refresh token. -/
def IsRenewable (l : Lifecycle σ) : Prop := l.store.current.refresh ≠ ""

theorem IsRenewable.storeCredentials (h : l.IsRenewable) {access : String} (ha : access ≠ "")
    (refresh : Option String) : (l.storeCredentials access refresh).IsRenewable := by
  rw [IsRenewable, current_storeCredentials]
  exact CredentialPair.refresh_updated_ne ha refresh h

omit [Storage σ] in
theorem Agrees.isRenewable (h : l.Agrees l') (hl : l.IsRenewable) : l'.IsRenewable := by
  rwa [IsRenewable, h.store]

/-- A session with a refresh token does not end without a new epoch. -/
theorem IsRenewable.epoch_logout_ne (h : l.IsRenewable) : l.logout.2.epoch ≠ l.epoch := by
  have hcleared : ¬l.isCleared = true := fun hc =>
    h (congrArg CredentialPair.refresh (current_of_isCleared hc))
  rw [epoch_logout, if_neg hcleared]
  intro heq
  simp at heq

theorem StaysOrEnds.isRenewable (h : l.StaysOrEnds l') (hl : l.IsRenewable)
    (hepoch : l'.epoch = l.epoch) : l'.IsRenewable := by
  rcases h with h | h
  · exact h.isRenewable hl
  · exact absurd (h.epoch.symm.trans hepoch) hl.epoch_logout_ne

end Lifecycle

namespace Session

variable {σ : Type} [Storage σ] {s s' : Session σ} {e : Event}

/-! ### Steps -/

/-- A change from outside that stores no empty access token keeps the refresh token, or it ends the
    session. -/
theorem isRenewable_act {action : Action} (he : (Event.act action).access? ≠ some "")
    {l : Lifecycle σ} (hl : l.IsRenewable) (hepoch : (l.act action).2.epoch = l.epoch) :
    (l.act action).2.IsRenewable := by
  cases action with
  | storeCredentials access refresh =>
    exact hl.storeCredentials (fun h => he (congrArg some h)) refresh
  | writeStore access refresh => exact hl.storeCredentials (fun h => he (congrArg some h)) refresh
  | storeRenewed epoch renewed =>
    simp only [Lifecycle.act, Lifecycle.storeRenewed]
    split
    · exact hl.storeCredentials (fun h => he (congrArg some h)) renewed.refresh
    · exact hl
  | setProfile profile => exact hl
  | logout => exact absurd hepoch hl.epoch_logout_ne
  | expire => exact absurd hepoch hl.epoch_logout_ne
  | notify message => exact hl

/-- A step in which no empty access token comes keeps the refresh token, or it ends the session. -/
theorem isRenewable_step (he : e.access? ≠ some "") (hs : s.lifecycle.IsRenewable)
    (hepoch : (s.step e).lifecycle.epoch = s.lifecycle.epoch) :
    (s.step e).lifecycle.IsRenewable := by
  cases effect_step s e with
  | rests h => exact h.isRenewable hs hepoch
  | caches _ h => exact h.isRenewable hs
  | @signsIn reply hsignIn h =>
    have hstored := hs.storeCredentials (step_of_signIn? hsignIn).1 (some reply.refresh)
    exact h.isRenewable hstored hepoch
  | @renews f renewed _ hrenewal _ h =>
    have hstored := hs.storeCredentials (Event.access_ne_of_renewal? he hrenewal) renewed.refresh
    exact h.isRenewable hstored hepoch
  | @acts action hact hl =>
    subst hact
    rw [hl] at hepoch ⊢
    exact isRenewable_act he hs hepoch

/-- A turn that starts a renewal leaves the session as it is. -/
theorem Turn.agrees_of_starts {lost : List TaskId} {dealt : List (TaskId × Granted)}
    (ht : Turn s lost dealt s') (hidle : s.flight = none) (hstarts : s'.flight ≠ none) :
    s.lifecycle.Agrees s'.lifecycle := by
  have hbusy {f : Flight} (hf : s.flight = some f) : s.lifecycle.Agrees s'.lifecycle :=
    nomatch hidle.symm.trans hf
  have hkeeps (h : s'.flight = s.flight) : s.lifecycle.Agrees s'.lifecycle :=
    absurd (h.trans hidle) hstarts
  cases ht with
  | rests hr => exact hkeeps hr.sameRenewals.flight
  | advances _ ha => exact hkeeps ha.sameRenewals.flight
  | parks _ _ hf => exact hbusy hf
  | @drives id want s' _ _ _ _ hs' =>
    have hlaunched : s.lifecycle.Agrees (s.launched id want).lifecycle :=
      (agrees_log (e := .asked id) rfl s).log rfl
    rcases hs' with rfl | ⟨o, rfl⟩
    · exact hlaunched
    · exact hlaunched.log rfl
  | denied _ _ _ hr ha => exact hkeeps (ha.sameRenewals.flight.trans hr.sameRenewals.flight)
  | concludes hf => exact hbusy hf
  | picksUp _ ha => exact hkeeps ha.sameRenewals.flight
  | skips => exact hkeeps rfl
  | leaves => exact hkeeps rfl
  | abandons hf => exact hbusy hf
  | turnsAway hf => exact hbusy hf

/-- A step that starts a renewal leaves the session as it is. -/
theorem agrees_of_starts (h : s.InOrder []) (hstarts : s.Starts (s.step e)) :
    s.lifecycle.Agrees (s.step e).lifecycle := by
  obtain ⟨f, hf, -⟩ := hstarts.flight
  have hopened : (s.opened e).flight = none := by
    rcases opened_cases s e with heq | heq <;> rw [heq] <;> exact hstarts.idle
  have hagrees := (turn_step h e).agrees_of_starts hopened (hf ▸ Option.some_ne_none f)
  rwa [lifecycle_opened] at hagrees

/-! ### Runs -/

/-- As long as there was no logout since the renewal in flight was started, there is a refresh token.
    The renewal was started when the lifecycle was `l`. -/
def KeepsRefresh (s : Session σ) : Prop :=
  ∀ f, s.flight = some f → ∃ l : Lifecycle σ, l.CountsLogouts ∧ l.Goes s.lifecycle ∧
    f.epoch = l.epoch ∧ (s.lifecycle.logouts = l.logouts → s.lifecycle.IsRenewable)

theorem keepsRefresh_step (h : s.InOrder []) (hc : s.lifecycle.CountsLogouts)
    (hk : s.KeepsRefresh) (he : e.access? ≠ some "") : (s.step e).KeepsRefresh := by
  intro f hf
  have hgoes := goes_step h e
  have hc' := hgoes.countsLogouts hc
  rcases flights_step h e with hcontinues | hstarts | hends
  · -- The renewal was in flight before, and there was a refresh token unless there was a logout.
    have hbare := hcontinues.flight
    rw [hf] at hbare
    obtain ⟨f₀, hf₀, hsame⟩ := Option.map_eq_some_iff.1 hbare.symm
    obtain ⟨l, hl, hg, hepoch, hr⟩ := hk f₀ hf₀
    refine ⟨l, hl, hg.trans hgoes, (congrArg Flight.epoch hsame).symm.trans hepoch, fun heq => ?_⟩
    have hnone : (s.step e).lifecycle.logouts = s.lifecycle.logouts :=
      Nat.le_antisymm (heq ▸ hg.logouts_le) hgoes.logouts_le
    exact isRenewable_step he (hr (hnone.symm.trans heq)) (by rw [hc, hc', hnone])
  · -- It was just started, and there was a refresh token to start it with.
    obtain ⟨f', hf', -, hepoch⟩ := hstarts.flight
    obtain rfl : f' = f := Option.some.inj (hf'.symm.trans hf)
    exact ⟨_, hc', .refl, hepoch, fun _ =>
      (agrees_of_starts h hstarts).isRenewable hstarts.refresh_ne⟩
  · exact nomatch hf.symm.trans hends.idle

theorem keepsRefresh_run (h : s.InOrder []) (hc : s.lifecycle.CountsLogouts)
    (hk : s.KeepsRefresh) {events : List Event} (he : ∀ e ∈ events, e.access? ≠ some "") :
    (s.run events).KeepsRefresh := by
  induction events generalizing s with
  | nil => exact hk
  | cons e events ih =>
    obtain ⟨he, hevents⟩ := List.forall_mem_cons.1 he
    exact ih (inOrder_step h e) ((goes_step h e).countsLogouts hc) (keepsRefresh_step h hc hk he)
      hevents

/-- A renewal is carried out if and only if the answer is usable, and every other end of its request
    has a failure of its own (`Exchange.Yields`).

    So when the result of a renewal is stored, there are tokens of both kinds, and the session says
    that it is active, however it has come there: the renewal `f` is in flight in `s`, and ends with
    `last`. It is only asked that no empty access token is stored from outside, which no operation,
    answer or logout does, and, for the refresh token, that the epoch has not come round. -/
theorem complete_of_renewed (settings : Settings) (store : CredentialStore σ) {events : List Event}
    (he : ∀ e ∈ events, e.access? ≠ some "") :
    (∀ (o : Outgoing) (x : Exchange) (result : Except RenewalError Renewed),
      x.renewed o = result ↔ x.Yields o result) ∧
    (∀ (o : Outgoing) (x : Exchange) (renewed : Renewed), x.renewed o = .ok renewed ↔
      ∃ status body payload, x = .answered status body ∧ (200 ≤ status ∧ status < 300) ∧
        (Envelope.ofBytes body).Carries payload ∧ renewed.IsHeldBy payload) ∧
    let s := (ofStore settings store).run events
    ∀ (f : Flight) (last : Event) (renewed : Renewed), s.flight = some f →
      last.renewal? s = some (.ok renewed) → last.access? ≠ some "" →
      s.lifecycle.epoch = f.epoch →
        let stored := s.settled f (.ok renewed)
        s.step last = stored.goOn f.driver (.ok renewed.access) ∧
          stored.lifecycle.store.current.access = renewed.access ∧ renewed.access ≠ "" ∧
          stored.lifecycle.isActive = true ∧
          (s.lifecycle.logouts < UInt64.size → stored.lifecycle.store.current.refresh ≠ "") := by
  refine ⟨fun o x result => Exchange.renewed_eq_iff, fun o x renewed => Exchange.renewed_eq_ok_iff,
    ?_⟩
  intro s f last renewed hf hlast haccess hepoch stored
  have hin := inOrder_ofStore settings store
  have hne : renewed.access ≠ "" := Event.access_ne_of_renewal? haccess hlast
  obtain ⟨hverdict, hsettled⟩ := settled_stored hepoch renewed
  have hcurrent : stored.lifecycle.store.current.access = renewed.access := by
    rw [hsettled]
    exact Lifecycle.access_storeCredentials renewed.access renewed.refresh s.lifecycle
  refine ⟨?_, hcurrent, hne, ?_, fun hlt => ?_⟩
  · rw [step_of_renewal? hlast, resolve_of_flight hf, hverdict]
  · have hexact : stored.lifecycle.isActive = stored.lifecycle.store.current.hasAccess := by
      rw [hsettled]
      exact Lifecycle.isExact_storeCredentials renewed.access renewed.refresh s.lifecycle
    rw [hexact, CredentialPair.hasAccess, hcurrent]
    exact bne_iff_ne.2 hne
  · -- The epochs are the same, so there was no logout since the renewal was started.
    have hk : (ofStore settings store).KeepsRefresh := by rintro _ ⟨⟩
    obtain ⟨l, hl, hg, hstart, hr⟩ :=
      keepsRefresh_run hin (Lifecycle.countsLogouts_ofStore store) hk he f hf
    have hsame := (epoch_eq_iff hl hg hlt).1 (hepoch.trans hstart)
    have hstored := (hr hsame).storeCredentials hne renewed.refresh
    rw [hsettled]
    exact hstored

/-- A renewal whose answer carries no refresh token: the one that it was started with stays. -/
theorem complete_of_renewed_without_refresh :
    let x : Exchange := .answered 200 (Text.Utf8.encode "\x7b\"access_token\": \"a2\"\x7d")
    let events : List Event := [.start .renew]
    let s : Session Memory := (ofStore {} ⟨⟨[]⟩, ⟨"a1", "r1"⟩⟩).run events
    (Event.answerRenewal x).renewal? s = some (.ok ⟨"a2", none⟩) ∧ ∃ f, s.flight = some f ∧
      let stored := (s.settled f (.ok ⟨"a2", none⟩)).lifecycle
      stored.store.current.access = "a2" ∧ stored.store.current.refresh ≠ "" ∧
        stored.isActive = true := by
  intro x events s
  have hx : (Event.answerRenewal x).renewal? s = some (.ok ⟨"a2", none⟩) := by decide +kernel
  have hnone : ∀ e ∈ events, e.access? ≠ some "" := by decide
  obtain ⟨hrefreshing, hepoch, hlt⟩ : s.flight.isSome = true ∧
      s.flight.map (·.epoch) = some s.lifecycle.epoch ∧ s.lifecycle.logouts < UInt64.size := by
    decide +kernel
  obtain ⟨f, hf⟩ := Option.isSome_iff_exists.1 hrefreshing
  have hsame : s.lifecycle.epoch = f.epoch := by
    rw [hf] at hepoch
    exact (Option.some.inj hepoch).symm
  clear_value x events
  let store : CredentialStore Memory := ⟨⟨[]⟩, ⟨"a1", "r1"⟩⟩
  obtain ⟨-, hcurrent, -, hactive, hrefresh⟩ := (complete_of_renewed {} store hnone).2.2 f
    (.answerRenewal x) ⟨"a2", none⟩ hf hx nofun hsame
  exact ⟨hx, f, hf, hcurrent, hrefresh hlt, hactive⟩

end Session

end ShopClient
