import ShopClient.Proofs.Alone.Fetching

/-!
# All or nothing

Somebody signs in, or the profile is fetched, while nothing else is under way, and the shop answers
each request in any way it likes. A sign-in without tokens leaves the session as it is. All else
ends with the profile cached in a session that is there, or with the session ended once.

That the session is active is what was published last. Tokens that were written to the store behind
the back of the session have not been published, and fetching the profile with them does not make up
for that.

* `Replies`: all that the shop can answer to one operation;
* `settles_of_signsIn`, `fetch_settles`: what becomes of a session by one operation;
* `all_or_nothing`: both.
-/

namespace ShopClient

/-- What comes back to the requests of one operation. -/
structure Replies where
  signIn : Exchange
  profile : Exchange
  /-- The exchange of the renewal, or why its request could not be sent. -/
  renewal : Except String Exchange
  /-- To the request for the profile that is sent again. -/
  replay : Exchange

namespace Replies

/-- The end of the renewal. -/
def ending (r : Replies) : Event :=
  match r.renewal with
  | .ok x => .answerRenewal x
  | .error reason => .resolve (.error (.transport reason))

/-- What comes back to the operation `id` while it fetches the profile. What nobody waits for is not
    noticed. -/
def fetching (id : TaskId) (r : Replies) : List Event :=
  [.answer id r.profile, r.ending, .answer id r.replay]

end Replies

namespace Session

variable {σ : Type} [Storage σ] {s s₁ s' : Session σ} {id : TaskId}

/-! ### Nothing is noticed when nothing is under way -/

theorem IsIdle.answer (h : s.IsIdle) (id : TaskId) (x : Exchange) : s.answer id x = s := by
  rw [Session.answer, h.task?_eq_none]

theorem IsIdle.ending (h : s.IsIdle) (r : Replies) : s.step r.ending = s := by
  rw [Replies.ending]
  split
  · rw [step, answerRenewal, h.flight]
  · rw [step, resolve, h.flight]

theorem IsIdle.run (h : s.IsIdle) (id : TaskId) (r : Replies) : s.run (r.fetching id) = s := by
  change ((s.answer id r.profile).step r.ending).answer id r.replay = s
  rw [h.answer, h.ending, h.answer]

/-! ### The profile is fetched -/

/-- The end of a renewal in flight. It brings an access token, if it brings anything. -/
theorem step_ending {f : Flight} (hf : s.flight = some f) (r : Replies) :
    ∃ result, s.step r.ending = s.resolve result ∧
      ∀ renewed, result = .ok renewed → renewed.access ≠ "" := by
  rw [Replies.ending]
  split
  · rename_i x _
    exact ⟨f.result s.settings x, answerRenewal_of_flight hf x, fun _ => Flight.access_ne_of_result⟩
  · rename_i reason _
    exact ⟨.error (.transport reason), rfl, by rintro _ ⟨⟩⟩

/-- Once the profile has been asked for, the operation comes to its end. -/
theorem Asks.run (h : s.Asks id false s₁) (r : Replies) : s.IsOver id (s₁.run (r.fetching id)) := by
  change s.IsOver id (((s₁.answer id r.profile).step r.ending).answer id r.replay)
  rcases h.answer r.profile with hover | ⟨-, f, hrenews⟩
  · rw [hover.idle.ending, hover.idle.answer]
    exact hover
  · obtain ⟨result, hresolve, haccess⟩ := step_ending hrenews.flight r
    rw [hresolve]
    rcases hrenews.resolve haccess with hover | hasks
    · rw [hover.idle.answer]
      exact hover
    · exact (hasks.answer r.replay).resolve_right fun hagain => Bool.noConfusion hagain.1

theorem Pursues.run (h : s.Pursues id s₁) (hf : s₁.flight = none) (r : Replies) :
    s.IsOver id ((s₁.begin id profileCall).run (r.fetching id)) := by
  rcases h.issue hf false s₁.access? with hover | hasks
  · rw [show s₁.begin id profileCall = s₁.issue id profileCall false s₁.access? from rfl,
      hover.idle.run]
    exact hover
  · exact hasks.run r

/-- Without an access token nothing is fetched. -/
theorem fetch_without_token (h : s.IsIdle) (ha : s.lifecycle.store.current.access = "")
    (r : Replies) : s.run (.start .fetchProfile :: r.fetching s.started) =
      { s with
        started := s.started + 1
        lifecycle := s.lifecycle.log (.finished s.started (.ok (.profile none))) } := by
  have haccess : s.lifecycle.store.current.hasAccess = false := by
    rw [CredentialPair.hasAccess, ha]
    rfl
  have hstart : s.step (.start .fetchProfile) = { s with
      started := s.started + 1
      lifecycle := s.lifecycle.log (.finished s.started (.ok (.profile none))) } := by
    simp only [step, start, fetchProfile, haccess, Bool.false_eq_true, if_false, finish, dismiss,
      h.tasks, List.filter_nil]
    rfl
  have hidle : (s.step (.start .fetchProfile)).IsIdle := by
    rw [hstart]
    exact ⟨h.tasks, h.flight, h.handed⟩
  change (s.step (.start .fetchProfile)).run (r.fetching s.started) = _
  rw [hidle.run, hstart]

/-- With one, it is all or nothing. -/
theorem fetch_settles (h : s.IsIdle) (ha : s.lifecycle.store.current.access ≠ "") (r : Replies) :
    s.IsOver s.started (s.run (.start .fetchProfile :: r.fetching s.started)) := by
  have haccess : s.lifecycle.store.current.hasAccess = true := bne_iff_ne.2 ha
  have hstart : s.step (.start .fetchProfile) =
      ({ s with started := s.started + 1 } : Session σ).begin s.started profileCall := by
    simp only [step, start, fetchProfile, haccess, if_true, profileCall]
  have hpursues : s.Pursues s.started { s with started := s.started + 1 } :=
    ⟨{ h.isAlone s.started with }, .refl ha⟩
  change s.IsOver s.started ((s.step (.start .fetchProfile)).run (r.fetching s.started))
  rw [hstart]
  exact hpursues.run h.flight r

/-! ### Somebody signs in -/

/-- The call with which somebody signs in. -/
def signInCall (c : Credentials) : Call := ⟨(Request.post Settings.loginPath c.toValue).asPublic, .signIn⟩

/-- A payload without tokens is the end of a sign-in. -/
theorem succeed_without_tokens {call : Call} {payload : Json.Value} (id : TaskId) (s : Session σ)
    (hgoal : call.goal = .signIn) (hp : tokens? payload = none) :
    ∃ result, (result = .ok (.profile none) ∨ ∃ e, result = .error e) ∧
      s.succeed id call payload = (s.count (.request .ok)).finish id result := by
  cases hdecode : SignInReply.decode payload with
  | error m =>
    refine ⟨.error (.undecodable m.message), .inr ⟨_, rfl⟩, ?_⟩
    simp only [succeed, hgoal, hdecode, reject]
  | ok reply =>
    by_cases haccess : reply.access = ""
    · refine ⟨.ok (.profile none), .inl rfl, ?_⟩
      simp only [succeed, hgoal, hdecode, if_pos haccess]
    · rw [tokens?_eq_some_iff.2 ⟨hdecode, haccess⟩] at hp
      cases hp

/-- Nothing is under way any more, and the session is as it was. The operation `id` has failed, or yields
    the word that there is no profile. -/
structure IsInVain (id : TaskId) (s s' : Session σ) : Prop where
  idle : s'.IsIdle
  agrees : s.lifecycle.Agrees s'.lifecycle
  result : ∃ result, (result = .ok (.profile none) ∨ ∃ e, result = .error e) ∧
    s'.lifecycle.journal.results = s.lifecycle.journal.results ++ [(id, result)]

/-- It waits for the answer to its sign-in. -/
structure SignsIn (id : TaskId) (call : Call) (s s₁ : Session σ) : Prop where
  alone : s₁.IsAlone id s.lifecycle.journal.results
  agrees : s.lifecycle.Agrees s₁.lifecycle
  flight : s₁.flight = none
  goal : call.goal = .signIn
  isPublic : call.request.isPublic = true
  task : ∃ o, s₁.task? id = some (.first call o)

theorem isInVain_of_fail {call : Call} (hgoal : call.goal = .signIn)
    (ha : s₁.IsAlone id s.lifecycle.journal.results) (hagrees : s.lifecycle.Agrees s₁.lifecycle)
    (hf : s₁.flight = none) (e : SessionError) : s.IsInVain id (s₁.fail id call e) := by
  obtain ⟨hidle, hresults⟩ := ha.fail hf call e
  have hfail := agrees_fail id call e s₁
  rw [hgoal] at hfail
  exact ⟨hidle, hagrees.trans hfail, .error e, .inr ⟨e, rfl⟩, hresults⟩

omit [Storage σ] in
theorem SignsIn.delivery {call : Call} (h : s.SignsIn id call s₁) (x : Exchange) :
    ∃ answer, s₁.delivery? (.answer id x) = some ⟨id, call, false, answer⟩ ∧
      s₁.signIn? (.answer id x) = (payload? answer).bind tokens? := by
  obtain ⟨o, ht⟩ := h.task
  have hd : s₁.delivery? (.answer id x) =
      some ⟨id, call, false, x.received o s₁.settings.requestTimeout⟩ := by
    rw [delivery?, ht]
  exact ⟨_, hd, signIn?_of_delivery? hd h.goal⟩

/-- A sign-in that brings no tokens is in vain. -/
theorem SignsIn.answer {call : Call} (h : s.SignsIn id call s₁) {x : Exchange}
    (hx : s₁.signIn? (.answer id x) = none) : s.IsInVain id (s₁.answer id x) := by
  obtain ⟨answer, hd, htokens⟩ := h.delivery x
  rw [htokens] at hx
  have hreceipt := receipt_step hd
  change Receipt id call false _ s₁ (s₁.answer id x) at hreceipt
  generalize s₁.answer id x = s₂ at hreceipt ⊢
  cases hreceipt with
  | @succeeds payload hp =>
    rw [hp, Option.bind_some] at hx
    obtain ⟨result, hresult, heq⟩ := succeed_without_tokens id s₁ h.goal hx
    have hcounted := h.alone.log (e := .counted (.request .ok)) rfl
    obtain ⟨hidle, hresults⟩ := hcounted.finish h.flight result
    have hagrees : s₁.lifecycle.Agrees (s₁.succeed id call payload).lifecycle :=
      agrees_succeed_signIn h.goal hx
    rw [heq] at hagrees ⊢
    exact ⟨hidle, h.agrees.trans hagrees, result, hresult, hresults⟩
  | fails => exact isInVain_of_fail h.goal h.alone h.agrees h.flight _
  | refusedAgain _ hagain => cases hagain
  | asks _ _ hpublic => exact absurd (h.isPublic.symm.trans hpublic) Bool.noConfusion

/-- One that brings tokens goes on to fetch the profile with them. -/
theorem SignsIn.answer_tokens {call : Call} (h : s.SignsIn id call s₁) {x : Exchange}
    {reply : SignInReply} (hx : s₁.signIn? (.answer id x) = some reply) :
    reply.access ≠ "" ∧ s₁.answer id x = (s₁.signedIn reply).begin id profileCall := by
  obtain ⟨answer, hd, hbrings⟩ := h.delivery x
  obtain ⟨payload, hp, htokens⟩ := Option.bind_eq_some_iff.1 (hbrings.symm.trans hx)
  refine ⟨(tokens?_eq_some_iff.1 htokens).2, (step_of_delivery? hd).1.trans ?_⟩
  rw [receive_of_payload hp, succeed_signIn h.goal htokens]

/-- The tokens of a sign-in have been published. So what begins with them ends exactly, and has the same
    end for the session before. -/
theorem Settles.of_signedIn {reply : SignInReply} (hreply : reply.access ≠ "")
    (ha : s₁.IsAlone id s.lifecycle.journal.results) (hagrees : s.lifecycle.Agrees s₁.lifecycle)
    (h : (s₁.signedIn reply).Settles id s') : s.Settles id s' ∧ s'.lifecycle.IsExact := by
  have hsignedIn := agrees_signedIn reply s₁
  have hresults : (s₁.signedIn reply).lifecycle.journal.results = s.lifecycle.journal.results :=
    (Journal.view_append_of_nil rfl).trans ha.results
  have hepoch : (s₁.signedIn reply).lifecycle.epoch = s.lifecycle.epoch :=
    hsignedIn.epoch.trans hagrees.epoch
  have hfarewells : (s₁.signedIn reply).lifecycle.farewells = s.lifecycle.farewells :=
    hsignedIn.farewells.trans hagrees.farewells
  have hactive : (s₁.signedIn reply).lifecycle.isActive = true := by
    have hexact : (s₁.signedIn reply).lifecycle.IsExact :=
      Lifecycle.isExact_storeCredentials reply.access (some reply.refresh) _
    refine hexact.trans (bne_iff_ne.2 ?_)
    rw [access_signedIn]
    exact hreply
  cases h with
  | @caches p hr he hp =>
    have hactive' : s'.lifecycle.isActive = true :=
      he.active.resolve_right fun hstale => Bool.noConfusion (hactive.symm.trans hstale.1)
    refine ⟨.caches (hr.trans (congrArg (· ++ _) hresults)) ⟨he.access, .inl hactive', ?_, ?_⟩ hp, ?_⟩
    · exact he.epoch.trans hepoch
    · exact he.farewells.trans hfarewells
    · exact hactive'.trans (bne_iff_ne.2 he.access).symm
  | @ends e hr he =>
    refine ⟨.ends (hr.trans (congrArg (· ++ _) hresults)) { he with epoch := ?_, farewells := ?_ }, ?_⟩
    · rw [he.epoch, hepoch]
    · rw [he.farewells, hfarewells]
    · rw [Lifecycle.IsExact, Lifecycle.isActive, he.active, he.current]
      rfl

/-- The request of a sign-in is sent, or cannot be sent. -/
theorem start_signIn (h : s.IsIdle) (c : Credentials) :
    s.IsInVain s.started (s.step (.start (.signIn c))) ∨
      s.SignsIn s.started (signInCall c) (s.step (.start (.signIn c))) := by
  have hstart : s.step (.start (.signIn c)) =
      ({ s with started := s.started + 1 } : Session σ).begin s.started (signInCall c) := by
    simp only [step, start, signInCall]
  have halone : ({ s with started := s.started + 1 } : Session σ).IsAlone s.started
      s.lifecycle.journal.results := { h.isAlone s.started with }
  generalize hcall : signInCall c = call at hstart ⊢
  have hgoal : call.goal = .signIn := hcall ▸ rfl
  have hpublic : call.request.isPublic = true := hcall ▸ rfl
  rw [hstart, begin]
  generalize ({ s with started := s.started + 1 } : Session σ).access? = bearer
  cases ho : Outgoing.ofRequest ({ s with started := s.started + 1 } : Session σ).settings.baseUrl
    bearer ({ s with started := s.started + 1 } : Session σ).dispatched call.request with
  | error e =>
    refine .inl ?_
    rw [issue_of_error ho]
    exact isInVain_of_fail hgoal halone (.refl _) h.flight e
  | ok o =>
    refine .inr ?_
    have hagrees := agrees_issue_of_ok s.started call false _ ho
    rw [issue_of_ok ho] at hagrees ⊢
    have hcounted : ({ s with started := s.started + 1, dispatched := s.dispatched + 1 } :
        Session σ).IsAlone s.started s.lifecycle.journal.results := { halone with }
    have hsent := (hcounted.await (.first call o)).log (e := .sent (.task s.started) o) rfl
    exact ⟨hsent, hagrees, h.flight, hgoal, hpublic, o, task?_await_self _ s.started _⟩

/-- With tokens it is all or nothing, and without them nothing changes. -/
theorem settles_of_signsIn {call : Call} (h : s.IsInVain id s₁ ∨ s.SignsIn id call s₁) (r : Replies) :
    (s₁.signIn? (.answer id r.signIn) = none →
      s.IsInVain id (s₁.run (.answer id r.signIn :: r.fetching id))) ∧
    ∀ reply, s₁.signIn? (.answer id r.signIn) = some reply →
      s.IsOver id (s₁.run (.answer id r.signIn :: r.fetching id)) ∧
        (s₁.run (.answer id r.signIn :: r.fetching id)).lifecycle.IsExact := by
  have hrun : s₁.run (.answer id r.signIn :: r.fetching id) =
      (s₁.answer id r.signIn).run (r.fetching id) := List.foldl_cons ..
  rw [hrun]
  rcases h with hvain | hsigns
  · -- Nobody waits for tokens.
    have hnone : s₁.signIn? (.answer id r.signIn) = none := by
      rw [signIn?, delivery?, hvain.idle.task?_eq_none]
    rw [hvain.idle.answer, hvain.idle.run]
    exact ⟨fun _ => hvain, fun reply hreply => by cases hnone.symm.trans hreply⟩
  · constructor
    · intro hnone
      have hvain := hsigns.answer hnone
      rw [hvain.idle.run]
      exact hvain
    · intro reply hreply
      obtain ⟨haccess, hanswer⟩ := hsigns.answer_tokens hreply
      have hstored : (s₁.signedIn reply).lifecycle.store.current.access ≠ "" := by
        rw [access_signedIn]
        exact haccess
      have hpursues : (s₁.signedIn reply).Pursues id (s₁.signedIn reply) :=
        ⟨{ hsigns.alone with results := rfl }, .refl hstored⟩
      have hover := hpursues.run hsigns.flight r
      rw [← hanswer] at hover
      obtain ⟨hsettles, hexact⟩ := hover.settles.of_signedIn haccess hsigns.alone hsigns.agrees
      exact ⟨⟨hover.idle, hsettles⟩, hexact⟩

/-! ### All or nothing -/

/-- One operation, with nothing else under way, and whatever comes back to its requests.

    A sign-in to which no tokens come leaves the session as it is, with what is persisted of it, and ends
    with an error or without a profile. One to which tokens come ends with the profile, which is cached
    in an active session with an access token, or with an error, and the session has ended once.

    A fetch of the profile without an access token sends nothing and changes nothing. With one it ends
    in one of these two ways; only that a session whose access token was never published is not active
    afterwards either, if it still has the same tokens. -/
theorem all_or_nothing (h : s.IsIdle) (r : Replies) :
    (∀ c : Credentials,
      let s₁ := s.step (.start (.signIn c))
      let s' := s₁.run (.answer s.started r.signIn :: r.fetching s.started)
      (s₁.signIn? (.answer s.started r.signIn) = none → s.IsInVain s.started s') ∧
        ∀ reply, s₁.signIn? (.answer s.started r.signIn) = some reply →
          s.IsOver s.started s' ∧ s'.lifecycle.IsExact) ∧
      let s' := s.run (.start .fetchProfile :: r.fetching s.started)
      (s.lifecycle.store.current.access = "" → s' =
        { s with
          started := s.started + 1
          lifecycle := s.lifecycle.log (.finished s.started (.ok (.profile none))) }) ∧
        (s.lifecycle.store.current.access ≠ "" → s.IsOver s.started s') :=
  ⟨fun c => settles_of_signsIn (start_signIn h c) r, fun ha => fetch_without_token h ha r, fun ha =>
    fetch_settles h ha r⟩

/-- Somebody signs in over a session. The new token is refused at once, and renewed, and refused again. -/
theorem all_or_nothing_refused_twice :
    let s : Session Memory :=
      ofStore {} (.restore ⟨[("access_token", "a1"), ("refresh_token", "r1")]⟩)
    let r : Replies := {
      signIn := .answered 200 (Text.Utf8.encode "\x7b\"access_token\": \"a2\"\x7d")
      profile := .answered 401 []
      renewal := .ok (.answered 200 (Text.Utf8.encode "\x7b\"access_token\": \"a3\"\x7d"))
      replay := .answered 401 [] }
    let s₁ := s.step (.start (.signIn ⟨"user", "secret"⟩))
    let s' := s₁.run (.answer s.started r.signIn :: r.fetching s.started)
    s.IsIdle ∧ s.IsOver s.started s' ∧ s'.lifecycle.farewells = 1 := by
  intro s r s₁ s'
  have hidle : s.IsIdle := ⟨rfl, rfl, rfl⟩
  have htokens : s₁.signIn? (.answer s.started r.signIn) = some { access := "a2" } := by
    decide +kernel
  have hfarewells : s'.lifecycle.farewells = 1 := by decide +kernel
  have hsettles := ((all_or_nothing hidle r).1 ⟨"user", "secret"⟩).2 { access := "a2" } htokens
  exact ⟨hidle, hsettles.1, hfarewells⟩

/-- Tokens were written to the store of a session and not published. The profile that is fetched with them
    is cached, in a session with an access token that is not active. -/
theorem profile_without_activity :
    let s : Session Memory := (ofStore {} ⟨⟨[]⟩, {}⟩).step (.act (.writeStore "a1" (some "r1")))
    let s' := s.run [.start .fetchProfile,
      .answer 0 (.answered 200 (Text.Utf8.encode "\x7b\"id\": 1\x7d"))]
    s.IsIdle ∧ s'.lifecycle.profile = some { id := 1 } ∧
      s'.lifecycle.store.current = ⟨"a1", "r1"⟩ ∧ s'.lifecycle.isActive = false := by
  intro s s'
  exact ⟨⟨rfl, rfl, rfl⟩, by decide +kernel⟩

end Session

end ShopClient
