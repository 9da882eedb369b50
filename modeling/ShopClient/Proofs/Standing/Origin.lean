import ShopClient.Proofs.Standing.LateRenewal

/-!
# Where the tokens come from

Tokens come to a session with a sign-in, or with a renewal, which brings an access token and may
bring a refresh token in place of the one that it was started with. The access token and the refresh
token that a session holds ought to stem from one sign-in.

A renewal asks only whether there was a logout since it was started. If somebody signs in meanwhile
without a logout, the renewed access token takes the place of the new one, and the pair is mixed.

* `Issues`: the tokens that the shop has issued in a run; `Issues.Stems`: that a pair of them stems
  from one sign-in;
* `isLineal_step`, `isLineal_run`: the pair stems from one sign-in, as long as nobody signs in
  beside a renewal that is still valid, or without a refresh token beside one that is there;
* `sign_in_and_renewal`: in which case the end of a renewal leaves the pair that is there.
-/

namespace ShopClient

/-! ### Issues -/

/-- The tokens that were issued: the pairs of the sign-ins, and what was given for refresh tokens. -/
structure Issues where
  pairs : List CredentialPair := []
  trades : List (String × Renewed) := []
  deriving DecidableEq

namespace Issues

/-- What was issued first, and what then. -/
def also (a b : Issues) : Issues := ⟨a.pairs ++ b.pairs, a.trades ++ b.trades⟩

/-- The second refresh token is the first one, or has come in its place by renewals. -/
inductive Replaces (i : Issues) (refresh : String) : String → Prop
  | refl : Replaces i refresh refresh
  | trade {old new : String} {renewed : Renewed} :
    Replaces i refresh old → (old, renewed) ∈ i.trades → renewed.refresh = some new →
      Replaces i refresh new

/-- The two tokens stem from one sign-in: they were issued together, or the access token was given
    for the refresh token, or for one in whose place it has come. -/
inductive Stems (i : Issues) (p : CredentialPair) : Prop
  | issued : p ∈ i.pairs → Stems i p
  | renewed {refresh : String} {renewed : Renewed} :
    (refresh, renewed) ∈ i.trades → renewed.access = p.access → i.Replaces refresh p.refresh → Stems i p

theorem also_assoc (a b c : Issues) : (a.also b).also c = a.also (b.also c) := by
  simp only [also, List.append_assoc]

@[simp] theorem also_nil (a : Issues) : a.also {} = a := by
  simp only [also, List.append_nil]

theorem Replaces.also {a : Issues} {old new : String} (h : a.Replaces old new) (b : Issues) :
    (a.also b).Replaces old new := by
  induction h with
  | refl => exact .refl
  | trade _ ht hr ih => exact ih.trade (List.mem_append_left _ ht) hr

/-- Refresh tokens are replaced by new ones only. -/
theorem Replaces.eq {i : Issues} (h : ∀ t ∈ i.trades, t.2.refresh = none) {old new : String}
    (hr : i.Replaces old new) : new = old := by
  cases hr with
  | refl => rfl
  | trade _ ht hnew => exact nomatch (h _ ht).symm.trans hnew

theorem Stems.also {a : Issues} {p : CredentialPair} (h : a.Stems p) (b : Issues) :
    (a.also b).Stems p := by
  cases h with
  | issued hp => exact .issued (List.mem_append_left _ hp)
  | renewed ht ha hr => exact .renewed (List.mem_append_left _ ht) ha (hr.also b)

end Issues

/-- The tokens are changed from outside, other than by a sign-in. -/
def Event.Meddles : Event → Prop
  | .act (.writeStore ..) | .act (.storeRenewed ..) => True
  | _ => False

namespace CredentialPair

theorem updated_getD (access : String) (refresh : Option String) (p : CredentialPair) :
    p.updated access (some (refresh.getD "")) = p.updated access refresh := by
  cases refresh <;> rfl

/-- Without a new refresh token, the one that is there stays, as long as there is an access token. -/
theorem updated_of_empty {access : String} (h : access ≠ "") (p : CredentialPair) :
    p.updated access (some "") = { p with access } := by
  have hfilter : (some "").filter (· ≠ "") = none := rfl
  rw [updated, hfilter]
  exact if_neg h

theorem updated_of_ne {refresh : String} (h : refresh ≠ "") (access : String) (p : CredentialPair) :
    p.updated access (some refresh) = ⟨access, refresh⟩ := by
  have hfilter : (some refresh).filter (· ≠ "") = some refresh := if_pos (decide_eq_true h)
  rw [updated, hfilter]

/-- If there are tokens of both kinds after a change, the refresh token is the new one, or the old
    one if there is no new one. -/
theorem updated_cases {access : String} {refresh : Option String} {p : CredentialPair}
    (ha : (p.updated access refresh).access ≠ "") :
    (refresh.getD "" ≠ "" ∧ p.updated access refresh = ⟨access, refresh.getD ""⟩) ∨
      refresh.getD "" = "" ∧ p.updated access refresh = { p with access } := by
  rw [← updated_getD] at ha ⊢
  by_cases hr : refresh.getD "" = ""
  · refine .inr ⟨hr, ?_⟩
    rw [hr] at ha ⊢
    refine updated_of_empty (fun h => ha ?_) p
    rw [h]
    rfl
  · exact .inl ⟨hr, updated_of_ne hr access p⟩

end CredentialPair

namespace Session

variable {σ : Type} [Storage σ] {s : Session σ} {e : Event}

omit [Storage σ] in
/-- The tokens that `e` brings somebody who signs in, by an operation or from outside. -/
def login? (s : Session σ) : Event → Option CredentialPair
  | .act (.storeCredentials access refresh) => some ⟨access, refresh.getD ""⟩
  | e => (s.signIn? e).map fun reply => ⟨reply.access, reply.refresh⟩

omit [Storage σ] in
/-- The tokens that are issued with `e`. -/
def brings (s : Session σ) (e : Event) : Issues where
  pairs := (s.login? e).toList
  trades := match s.flight, e.renewal? s with
    | some f, some (.ok renewed) => [(f.refresh, renewed)]
    | _, _ => []

/-- The tokens that are issued in a run. -/
def issues : List Event → Session σ → Issues
  | [], _ => {}
  | e :: events, s => (s.brings e).also (issues events (s.step e))

omit [Storage σ] in
/-- Nobody signs in with `e` beside a renewal whose result would be stored, nor without a refresh token
    beside one that is there. -/
def IsSolitary (s : Session σ) (e : Event) : Prop :=
  ∀ p, s.login? e = some p →
    (∀ f, s.flight = some f → f.epoch ≠ s.lifecycle.epoch) ∧
      (p.refresh = "" → s.lifecycle.store.current.refresh = "")

/-- Nobody does so in a run. -/
def AreSolitary : List Event → Session σ → Prop
  | [], _ => True
  | e :: events, s => s.IsSolitary e ∧ AreSolitary events (s.step e)

/-! ### Steps -/

/-- What becomes of the tokens in a step. -/
inductive PairAfter (s : Session σ) (e : Event) : CredentialPair → Prop
  | gone : PairAfter s e {}
  | kept : PairAfter s e s.lifecycle.store.current
  | signedIn {p : CredentialPair} :
    s.login? e = some p → PairAfter s e (s.lifecycle.store.current.updated p.access (some p.refresh))
  | renewed {f : Flight} {renewed : Renewed} :
    s.flight = some f → e.renewal? s = some (.ok renewed) → s.lifecycle.epoch = f.epoch →
      PairAfter s e (s.lifecycle.store.current.updated renewed.access renewed.refresh)

omit [Storage σ] in
theorem login?_of_signIn? {reply : SignInReply} (h : s.signIn? e = some reply) :
    s.login? e = some ⟨reply.access, reply.refresh⟩ := by
  cases e with
  | answer id x =>
    exact congrArg (Option.map fun reply => (⟨reply.access, reply.refresh⟩ : CredentialPair)) h
  | _ => cases h

theorem pairAfter_step (he : ¬e.Meddles) (s : Session σ) :
    s.PairAfter e (s.step e).lifecycle.store.current := by
  cases effect_step s e with
  | rests h =>
    rcases h.current_cases with h | h <;> rw [h]
    · exact .kept
    · exact .gone
  | caches _ h =>
    rw [h.store]
    exact .kept
  | @signsIn reply hsignIn h =>
    have hlogin := login?_of_signIn? hsignIn
    rcases h.current_cases with h | h <;> rw [h]
    · rw [Lifecycle.current_storeCredentials]
      exact .signedIn hlogin
    · exact .gone
  | renews hf hrenewed hepoch h =>
    rcases h.current_cases with h | h <;> rw [h]
    · rw [Lifecycle.current_storeCredentials]
      exact .renewed hf hrenewed hepoch
    · exact .gone
  | @acts action hact h =>
    subst hact
    rw [h]
    cases action with
    | storeCredentials access refresh =>
      rw [Lifecycle.act, Lifecycle.current_storeCredentials, ← CredentialPair.updated_getD]
      exact .signedIn (p := ⟨access, refresh.getD ""⟩) rfl
    | writeStore => exact absurd trivial he
    | storeRenewed => exact absurd trivial he
    | setProfile => exact .kept
    | logout =>
      rw [Lifecycle.act, Lifecycle.current_logout]
      exact .gone
    | expire =>
      rw [Lifecycle.act, (Lifecycle.agrees_expire s.lifecycle).store, Lifecycle.current_logout]
      exact .gone
    | notify => exact .kept

/-- Whoever signs in leaves the renewal in flight alone. -/
theorem flight_of_login? {p : CredentialPair} (h : s.login? e = some p) :
    (s.step e).flight = s.flight := by
  cases e with
  | act action => rfl
  | answer id x =>
    obtain ⟨reply, hsignIn, -⟩ := Option.map_eq_some_iff.1 h
    obtain ⟨-, id', hstep⟩ := step_of_signIn? hsignIn
    have hsound : profileCall.IsSound false := by rintro ⟨⟩
    rw [hstep]
    exact (advances_issue hsound _ _).sameRenewals.flight
  | _ => cases h

theorem flight_of_renewal? (hin : s.InOrder []) {f : Flight} (hf : s.flight = some f)
    {result : Except RenewalError Renewed} (he : e.renewal? s = some result) :
    (s.step e).flight = none := by
  obtain ⟨want, -, hw, hresolve⟩ := resolve_eq hin hf result
  obtain ⟨l, r, -, -, heq⟩ := conclude_eq f result s
  rw [step_of_renewal? he, hresolve, (advances_grant hw _ _).sameRenewals.flight, settled, heq]
  rfl

/-- The pair stems from one sign-in, if it has tokens of both kinds. The refresh token is that with
    which the renewal in flight was started, if the result of that would be stored. -/
structure IsLineal (i : Issues) (s : Session σ) : Prop where
  stems : s.lifecycle.store.current.access ≠ "" → s.lifecycle.store.current.refresh ≠ "" →
    i.Stems s.lifecycle.store.current
  flight : ∀ f, s.flight = some f → f.epoch = s.lifecycle.epoch →
    s.lifecycle.store.current.refresh = "" ∨ s.lifecycle.store.current.refresh = f.refresh

omit [Storage σ] in
theorem trades_brings {f : Flight} {renewed : Renewed} (hf : s.flight = some f)
    (he : e.renewal? s = some (.ok renewed)) : (s.brings e).trades = [(f.refresh, renewed)] := by
  simp only [brings, hf, he]

theorem stems_step {i : Issues} (h : IsLineal i s) (he : ¬e.Meddles) (hs : s.IsSolitary e)
    (ha : (s.step e).lifecycle.store.current.access ≠ "")
    (hr : (s.step e).lifecycle.store.current.refresh ≠ "") :
    (i.also (s.brings e)).Stems (s.step e).lifecycle.store.current := by
  have hafter := pairAfter_step he s
  generalize (s.step e).lifecycle.store.current = c at ha hr hafter ⊢
  cases hafter with
  | gone => exact absurd rfl ha
  | kept => exact (h.stems ha hr).also _
  | @signedIn p hlogin =>
    rcases CredentialPair.updated_cases ha with ⟨-, heq⟩ | ⟨hempty, heq⟩
    · rw [heq]
      refine .issued (List.mem_append_right _ ?_)
      rw [brings, hlogin]
      exact List.mem_singleton_self p
    · -- There was no refresh token beside which it would have come.
      rw [heq] at hr
      exact absurd ((hs p hlogin).2 hempty) hr
  | @renewed f renewed hf hrenewed hepoch =>
    have hmem : (f.refresh, renewed) ∈ (i.also (s.brings e)).trades := by
      refine List.mem_append_right _ ?_
      rw [trades_brings hf hrenewed]
      exact List.mem_singleton_self _
    rcases CredentialPair.updated_cases ha with ⟨hne, heq⟩ | ⟨-, heq⟩
    · obtain ⟨new, hnew⟩ : ∃ new, renewed.refresh = some new := by
        refine Option.ne_none_iff_exists'.1 fun hnone => hne ?_
        rw [hnone]
        rfl
      rw [heq, hnew]
      exact .renewed hmem rfl (Issues.Replaces.refl.trade hmem hnew)
    · -- The refresh token that stays is the one with which the renewal was started.
      rw [heq] at hr ⊢
      have hold := (h.flight f hf hepoch.symm).resolve_left hr
      refine .renewed hmem rfl ?_
      rw [hold]
      exact .refl

theorem flight_step {i : Issues} (h : IsLineal i s) (hin : s.InOrder []) (he : ¬e.Meddles)
    (hs : s.IsSolitary e) {f : Flight} (hf : (s.step e).flight = some f)
    (hepoch : f.epoch = (s.step e).lifecycle.epoch) :
    (s.step e).lifecycle.store.current.refresh = "" ∨
      (s.step e).lifecycle.store.current.refresh = f.refresh := by
  have hafter := pairAfter_step he s
  rcases flights_step hin e with hc | hstarts | hends
  · -- It was in flight before, and nobody has signed in beside it.
    obtain ⟨f₁, hf₁, hbare⟩ := Option.map_eq_some_iff.1
      (hc.flight.symm.trans (congrArg (Option.map (·.bare)) hf))
    have hrefresh := congrArg Flight.refresh hbare
    have hepoch₁ := congrArg Flight.epoch hbare
    rcases epoch_or_current_step s e with hsame | hgone
    · have hvalid : f₁.epoch = s.lifecycle.epoch := hepoch₁.trans (hepoch.trans hsame)
      generalize (s.step e).lifecycle.store.current = c at hafter ⊢
      cases hafter with
      | gone => exact .inl rfl
      | kept => exact (h.flight f₁ hf₁ hvalid).imp_right (·.trans hrefresh)
      | signedIn hlogin => exact absurd hvalid ((hs _ hlogin).1 f₁ hf₁)
      | renewed hf₁ hrenewed _ =>
        exact nomatch hf.symm.trans (flight_of_renewal? hin hf₁ hrenewed)
    · exact .inl (by rw [hgone])
  · -- It has just been started with the refresh token that is there.
    obtain ⟨f₁, hf₁, hrefresh, -⟩ := hstarts.flight
    obtain rfl := Option.some.inj (hf.symm.trans hf₁)
    generalize (s.step e).lifecycle.store.current = c at hafter ⊢
    cases hafter with
    | gone => exact .inl rfl
    | kept => exact .inr hrefresh.symm
    | signedIn hlogin =>
      exact nomatch hf.symm.trans ((flight_of_login? hlogin).trans hstarts.idle)
    | renewed hf₁ _ _ => exact nomatch hstarts.idle.symm.trans hf₁
  · exact nomatch hends.idle.symm.trans hf

theorem isLineal_step {i : Issues} (h : IsLineal i s) (hin : s.InOrder []) (he : ¬e.Meddles)
    (hs : s.IsSolitary e) : IsLineal (i.also (s.brings e)) (s.step e) :=
  ⟨stems_step h he hs, fun _ => flight_step h hin he hs⟩

theorem isLineal_run {i : Issues} (h : IsLineal i s) (hin : s.InOrder []) {events : List Event}
    (he : ∀ e ∈ events, ¬e.Meddles) (hs : s.AreSolitary events) :
    IsLineal (i.also (s.issues events)) (s.run events) := by
  induction events generalizing s i with
  | nil => exact (Issues.also_nil i).symm ▸ h
  | cons e events ih =>
    have hstep := isLineal_step h hin (he e List.mem_cons_self) hs.1
    have hrun := ih hstep (inOrder_step hin e) (fun e' he' => he e' (List.mem_cons_of_mem _ he')) hs.2
    rw [Issues.also_assoc] at hrun
    exact hrun

/-- When a renewal ends well, the pair of tokens that is there stays if and only if there was a
    logout since the renewal was started (and not so many that the epoch has come round), or its
    result changes nothing. So the pair of a sign-in that came meanwhile without a logout is lost.
    What the driver does then leaves the session as it is, or ends it.

    If nobody signs in beside a renewal whose result is still to be stored, nor without a refresh
    token beside one that is there, then the tokens that a session has after a run stem from one
    sign-in, if it has tokens of both kinds. The pair that it began with is taken to come from a
    sign-in. -/
theorem sign_in_and_renewal (settings : Settings) (store : CredentialStore σ) :
    (∀ (f : Flight) (s₁ s₂ : Session σ) (last : Event) (renewed : Renewed), f.Spans s₁ s₂ →
      last.renewal? s₂ = some (.ok renewed) →
      let s₃ := s₂.settled f (.ok renewed)
      (s₃.lifecycle.store.current = s₂.lifecycle.store.current ↔
        ¬UInt64.size ∣ s₂.lifecycle.logouts - s₁.lifecycle.logouts ∨
          s₂.lifecycle.store.current.updated renewed.access renewed.refresh =
            s₂.lifecycle.store.current) ∧
      s₃.lifecycle.StaysOrEnds (s₂.step last).lifecycle) ∧
    ∀ events : List Event, (∀ e ∈ events, ¬e.Meddles) → (ofStore settings store).AreSolitary events →
      let p := ((ofStore settings store).run events).lifecycle.store.current
      p.access ≠ "" → p.refresh ≠ "" →
        (Issues.also ⟨[store.current], []⟩ ((ofStore settings store).issues events)).Stems p := by
  constructor
  · intro f s₁ s₂ last renewed hspan hlast s₃
    have hstays : s₃.lifecycle.StaysOrEnds (s₂.step last).lifecycle := by
      rw [step_of_renewal? hlast, resolve_of_flight hspan.flight]
      exact staysOrEnds_goOn f.driver _ s₃
    refine ⟨?_, hstays⟩
    by_cases hlate : UInt64.size ∣ s₂.lifecycle.logouts - s₁.lifecycle.logouts
    · have hsettled := (settled_stored (hspan.epoch_eq_iff.2 hlate) renewed).2
      have hcurrent : s₃.lifecycle.store.current =
          s₂.lifecycle.store.current.updated renewed.access renewed.refresh := by
        rw [hsettled]
        exact Lifecycle.current_storeCredentials renewed.access renewed.refresh s₂.lifecycle
      rw [hcurrent, or_iff_right (not_not_intro hlate)]
    · have hsettled := (settled_discarded (fun h => hlate (hspan.epoch_eq_iff.1 h)) renewed).2
      have hcurrent : s₃.lifecycle.store.current = s₂.lifecycle.store.current := by
        rw [hsettled]
        rfl
      exact iff_of_true hcurrent (.inl hlate)
  · intro events he hs p ha hr
    have hlineal : IsLineal ⟨[store.current], []⟩ (ofStore settings store) :=
      ⟨fun _ _ => .issued (List.mem_singleton_self _), nofun⟩
    exact (isLineal_run hlineal (inOrder_ofStore settings store) he hs).stems ha hr

/-- The pair of somebody who signs in after a logout stays when an older renewal ends well; and a
    pair that was renewed stems from the sign-in from which the refresh token was. -/
theorem sign_in_and_renewal_apart :
    let s₀ : Session Memory := ofStore {} ⟨⟨[]⟩, ⟨"a1", "r1"⟩⟩
    let s₁ := s₀.step (.start .renewNow)
    let s₂ := s₁.run (.act .logout :: signingIn 1 "r2")
    let events : List Event := [.start .renewNow, .resolve (.ok ⟨"a2", some "r2"⟩)]
    (∃ f, s₂.flight = some f ∧
      (s₂.settled f (.ok ⟨"a3", none⟩)).lifecycle.store.current = ⟨"a2", "r2"⟩) ∧
      (Issues.also ⟨[⟨"a1", "r1"⟩], []⟩ (s₀.issues events)).Stems ⟨"a2", "r2"⟩ := by
  intro s₀ s₁ s₂ events
  obtain ⟨hbrings, hpairs⟩ := sign_in_and_renewal {} (⟨⟨[]⟩, ⟨"a1", "r1"⟩⟩ : CredentialStore Memory)
  constructor
  · obtain ⟨hrefreshing, hstore, hlate⟩ : s₂.flight.isSome = true ∧
        s₂.lifecycle.store.current = ⟨"a2", "r2"⟩ ∧
        ¬UInt64.size ∣ s₂.lifecycle.logouts - s₁.lifecycle.logouts := by
      decide +kernel
    obtain ⟨f, hf⟩ := Option.isSome_iff_exists.1 hrefreshing
    have hspan : f.Spans s₁ s₂ := .intro {} ⟨⟨[]⟩, ⟨"a1", "r1"⟩⟩ [] (.start .renewNow)
      (.act .logout :: signingIn 1 "r2") s₀ rfl rfl rfl (by decide +kernel) rfl (by decide +kernel) hf
    have hkept := (hbrings f s₁ s₂ (.resolve (.ok ⟨"a3", none⟩)) ⟨"a3", none⟩ hspan rfl).1
    exact ⟨f, hf, (hkept.2 (.inl hlate)).trans hstore⟩
  · have hcurrent : (s₀.run events).lifecycle.store.current = ⟨"a2", "r2"⟩ := by decide +kernel
    have hevents : ∀ e ∈ events, ¬e.Meddles := by simp [events, Event.Meddles]
    have hsolitary : s₀.AreSolitary events := ⟨nofun, nofun, trivial⟩
    have hstems := hpairs events hevents hsolitary
    rw [show (ofStore {} ⟨⟨[]⟩, ⟨"a1", "r1"⟩⟩ : Session Memory) = s₀ from rfl, hcurrent] at hstems
    exact hstems nofun nofun

/-- Somebody signs in while a renewal is in flight. When this ends well, the renewed access
    token stands beside the new refresh token, and the two do not stem from one sign-in. -/
theorem sign_in_lost_to_renewal :
    let s₀ : Session Memory := ofStore {} ⟨⟨[]⟩, ⟨"a1", "r1"⟩⟩
    let events : List Event := .start .renewNow :: signingIn 1 "r2"
    let last : Event := .resolve (.ok ⟨"a3", none⟩)
    (s₀.run events).isRefreshing = true ∧
      (s₀.run events).lifecycle.store.current = ⟨"a2", "r2"⟩ ∧
      (s₀.run (events ++ [last])).lifecycle.store.current = ⟨"a3", "r2"⟩ ∧
      ¬(Issues.also ⟨[⟨"a1", "r1"⟩], []⟩ (s₀.issues (events ++ [last]))).Stems ⟨"a3", "r2"⟩ := by
  intro s₀ events last
  obtain ⟨hrefreshing, hbefore, hafter, hissues⟩ : (s₀.run events).isRefreshing = true ∧
      (s₀.run events).lifecycle.store.current = ⟨"a2", "r2"⟩ ∧
      (s₀.run (events ++ [last])).lifecycle.store.current = ⟨"a3", "r2"⟩ ∧
      Issues.also ⟨[⟨"a1", "r1"⟩], []⟩ (s₀.issues (events ++ [last])) =
        ⟨[⟨"a1", "r1"⟩, ⟨"a2", "r2"⟩], [("r1", ⟨"a3", none⟩)]⟩ := by
    decide +kernel
  refine ⟨hrefreshing, hbefore, hafter, ?_⟩
  rw [hissues]
  rintro (hp | ⟨ht, -, hr⟩)
  · revert hp
    decide
  · obtain ⟨rfl, -⟩ := Prod.mk.inj (List.mem_singleton.1 ht)
    have heq := hr.eq (by simp)
    revert heq
    decide

end Session

end ShopClient
