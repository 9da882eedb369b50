import ShopClient.Proofs.Standing.Effect

/-!
# Late answers

An operation goes on when its request is answered, or when it picks up what it was handed. A session
does not remember with which tokens a request was sent, nor before which logout. So an answer that
ends a session ends the one that is there, however old its request is.

* `Dooms`: what ends a session when an operation goes on: a refused token that cannot be renewed, a
  token that is refused although it was renewed, a profile that cannot be had, and a sign-in whose
  token cannot be sent;
* `Keeps`: all else leaves it as it is, but for a profile that comes and for the tokens of a
  sign-in;
* `late_answer`: there is no third case, and none depends on when a request was sent.
-/

namespace ShopClient

theorem Lifecycle.HasEnded.of_storeCredentials {σ : Type} [Storage σ] {l l' : Lifecycle σ}
    {access : String} {refresh : Option String} (h : (l.storeCredentials access refresh).HasEnded l') :
    l.HasEnded l' :=
  ⟨h.current, h.profile, h.active, h.epoch, h.farewells⟩

theorem Lifecycle.isCleared_storeCredentials {σ : Type} [Storage σ] {access : String}
    (h : access ≠ "") (refresh : Option String) (l : Lifecycle σ) :
    (l.storeCredentials access refresh).isCleared = false := by
  refine Bool.eq_false_iff.2 fun hcleared => h ?_
  rw [← access_storeCredentials access refresh l, current_of_isCleared hcleared]

/-- An operation goes on with an answer, or with what it was handed. -/
def Event.GoesOn : Event → Prop
  | .answer .. | .resume => True
  | _ => False

/-- The token of a first request was refused. -/
def Session.Delivery.Asks (d : Session.Delivery) : Prop :=
  (∃ body, d.answer = .ok (.unauthorized body)) ∧ d.again = false ∧ d.call.request.isPublic = false

theorem Goal.whenFailed_of_ne {σ : Type} [Storage σ] {goal : Goal} (h : goal ≠ .profile)
    (l : Lifecycle σ) : goal.whenFailed l = l := by
  cases goal with
  | profile => exact absurd rfl h
  | _ => rfl

namespace Session

variable {σ : Type} [Storage σ] {s : Session σ} {e : Event}

omit [Storage σ] in
/-- The request of a call is not sent again: there is no new token, or it cannot be sent. -/
def Stuck (s : Session σ) (call : Call) : Granted → Prop
  | .ok token => ∃ e,
    Outgoing.ofRequest s.settings.baseUrl (some token) s.dispatched call.request = .error e
  | .error _ => True

omit [Storage σ] in
/-- What ends the session when an operation goes on. -/
inductive Dooms (s : Session σ) : Event → Prop
  /-- A token was refused, and there is nothing to renew it with. -/
  | unrenewable {e : Event} {d : Delivery} :
    s.delivery? e = some d → d.Asks → s.flight = none → s.lifecycle.store.current.refresh = "" →
      Dooms s e
  /-- A token was refused that the request was sent again with. -/
  | refusedAgain {e : Event} {d : Delivery} {body : Text.Bytes} :
    s.delivery? e = some d → d.answer = .ok (.unauthorized body) → d.again = true → Dooms s e
  /-- A fetch of the profile has come to its end, and has brought none. -/
  | profileless {e : Event} {d : Delivery} :
    s.delivery? e = some d → d.call.goal = .profile → ¬d.Asks →
      (∀ payload p, payload? d.answer = some payload → Profile.decode payload ≠ .ok p) → Dooms s e
  /-- The profile cannot be asked for with the token of a sign-in. -/
  | unusable {e : Event} {reply : SignInReply} {error : SessionError} :
    s.signIn? e = some reply →
      Outgoing.ofRequest s.settings.baseUrl (some reply.access) s.dispatched
        (.get Settings.profilePath) = .error error → Dooms s e
  /-- The profile cannot be asked for with what a renewal came to. -/
  | stuck {id : TaskId} {granted : Granted} {rest : List (TaskId × Granted)} {call : Call} :
    s.handed = (id, granted) :: rest → s.task? id = some (.renewal (.replay call)) →
      call.goal = .profile → s.Stuck call granted → Dooms s .resume

/-- The session goes on, and the front end is told of no logout. A profile can have come, or the
    tokens of a sign-in. -/
inductive Keeps (s : Session σ) (e : Event) (l : Lifecycle σ) : Prop
  | rests : s.lifecycle.Agrees l → Keeps s e l
  | caches {p : Profile} : (s.lifecycle.setProfile (some p)).Agrees l → Keeps s e l
  | signsIn {reply : SignInReply} :
    s.signIn? e = some reply →
      (s.lifecycle.storeCredentials reply.access (some reply.refresh)).Agrees l → Keeps s e l

theorem Keeps.farewells_eq {l : Lifecycle σ} (h : s.Keeps e l) :
    l.farewells = s.lifecycle.farewells := by
  cases h with
  | rests h => exact h.farewells
  | caches h => exact h.farewells
  | signsIn _ h => exact h.farewells

/-! ### What dooms a session -/

theorem resume_of_task {id : TaskId} {granted : Granted} {rest : List (TaskId × Granted)} {want : Want}
    (hh : s.handed = (id, granted) :: rest) (ht : s.task? id = some (.renewal want)) :
    s.resume = ({ s with handed := rest } : Session σ).grant id want granted := by
  rw [resume, hh]
  exact goOn_of_task (s := { s with handed := rest }) ht

/-- To fetch the profile with what a renewal came to ends the session if it cannot be asked for. -/
theorem ended_grant (id : TaskId) {call : Call} {granted : Granted} (hgoal : call.goal = .profile)
    (h : s.Stuck call granted) :
    s.lifecycle.logout.2.Agrees (s.grant id (.replay call) granted).lifecycle := by
  cases granted with
  | ok token =>
    obtain ⟨error, herror⟩ := h
    have hlog := agrees_log (e := .granted id (.ok token)) rfl s
    have hissue := agrees_issue_of_error id call true
      ((s.log (.granted id (.ok token))).count .replay) herror
    rw [hgoal] at hissue
    exact (hlog.count .replay).logout.trans hissue
  | error error =>
    have hgrant := agrees_grant_error id (.replay call) error s
    rw [Want.whenFailed, hgoal] at hgrant
    exact hgrant

/-- What dooms a session ends it. -/
theorem Dooms.hasEnded (h : s.Dooms e) (hc : s.lifecycle.isCleared = false) :
    s.lifecycle.HasEnded (s.step e).lifecycle := by
  cases h with
  | @unrenewable _ d hd hasks hf hr =>
    obtain ⟨⟨body, hbody⟩, hagain, hpublic⟩ := hasks
    refine Lifecycle.hasEnded_of_ended ?_ hc
    rw [(step_of_delivery? hd).1, hbody, hagain]
    simp only [receive, hpublic, Bool.false_eq_true, if_false]
    exact ended_renewThen hf hr d.id (.replay d.call)
  | @refusedAgain _ d body hd hbody hagain =>
    refine Lifecycle.hasEnded_of_ended ?_ hc
    rw [(step_of_delivery? hd).1, hbody, hagain]
    exact ended_refusedAgain d.id d.call s
  | @profileless _ d hd hgoal hasks hnone =>
    have hreceipt := receipt_step hd
    refine Lifecycle.hasEnded_of_ended ?_ hc
    generalize s.step _ = s' at hreceipt ⊢
    cases hreceipt with
    | @succeeds payload hp =>
      cases hprofile : Profile.decode payload with
      | ok p => exact absurd hprofile (hnone payload p hp)
      | error m => exact ended_succeed_profile hgoal hprofile
    | @fails error _ _ _ =>
      have hfail := agrees_fail d.id d.call error s
      rw [hgoal] at hfail
      exact hfail
    | refusedAgain => exact ended_refusedAgain d.id d.call s
    | asks hbody hagain hpublic => exact absurd ⟨⟨_, hbody⟩, hagain, hpublic⟩ hasks
  | @unusable _ reply error hsignIn herror =>
    -- The tokens are stored, and the session ends when the profile is asked for with them.
    obtain ⟨haccess, id, hstep⟩ := step_of_signIn? hsignIn
    have hcleared := s.lifecycle.isCleared_storeCredentials haccess (some reply.refresh)
    refine Lifecycle.HasEnded.of_storeCredentials (Lifecycle.hasEnded_of_ended ?_ hcleared)
    have hissue := agrees_issue_of_error id profileCall false (s.signedIn reply) herror
    rw [hstep, begin, access?_signedIn haccess]
    exact (agrees_signedIn reply s).logout.trans hissue
  | @stuck id granted rest call hh ht hgoal hstuck =>
    have hgrant := ended_grant (s := { s with handed := rest }) id hgoal hstuck
    refine Lifecycle.hasEnded_of_ended ?_ hc
    rw [step, resume_of_task hh ht]
    exact hgrant

/-! ### What does not -/

theorem agrees_grant (id : TaskId) {want : Want} {granted : Granted}
    (h : ∀ call, want = .replay call → call.goal = .profile → ¬s.Stuck call granted) :
    s.lifecycle.Agrees (s.grant id want granted).lifecycle := by
  have hlog := agrees_log (e := .granted id granted) rfl s
  cases want with
  | replay call =>
    cases granted with
    | ok token =>
      have hcount := hlog.count .replay
      cases ho : Outgoing.ofRequest s.settings.baseUrl (some token) s.dispatched call.request with
      | ok o =>
        have hissue := agrees_issue_of_ok id call true
          ((s.log (.granted id (.ok token))).count .replay) ho
        exact hcount.trans hissue
      | error error =>
        have hissue := agrees_issue_of_error id call true
          ((s.log (.granted id (.ok token))).count .replay) ho
        rw [call.goal.whenFailed_of_ne fun hgoal => h call rfl hgoal ⟨error, ho⟩] at hissue
        exact hcount.trans hissue
    | error error =>
      have hgrant := agrees_grant_error id (.replay call) error s
      rw [Want.whenFailed, call.goal.whenFailed_of_ne fun hgoal => h call rfl hgoal trivial] at hgrant
      exact hgrant
  | token => exact hlog.log rfl
  | acknowledgement => exact hlog.log rfl

/-- A sign-in keeps the session, if the profile can be asked for with its token. -/
theorem dooms_or_keeps_signIn {reply : SignInReply} (h : s.signIn? e = some reply) :
    s.Dooms e ∨ s.Keeps e (s.step e).lifecycle := by
  obtain ⟨haccess, id, hstep⟩ := step_of_signIn? h
  cases ho : Outgoing.ofRequest s.settings.baseUrl (some reply.access) s.dispatched
      (.get Settings.profilePath) with
  | error error => exact .inl (.unusable h ho)
  | ok o =>
    have hissue := agrees_issue_of_ok id profileCall false (s.signedIn reply) ho
    rw [hstep, begin, access?_signedIn haccess]
    exact .inr (.signsIn h ((agrees_signedIn reply s).trans hissue))

theorem dooms_or_keeps_delivery {d : Delivery} (hd : s.delivery? e = some d) :
    s.Dooms e ∨ s.Keeps e (s.step e).lifecycle := by
  have hreceipt := receipt_step hd
  cases hsignIn : s.signIn? e with
  | some reply => exact dooms_or_keeps_signIn hsignIn
  | none =>
    generalize s.step e = s' at hreceipt ⊢
    cases hreceipt with
    | @succeeds payload hp =>
      cases hgoal : d.call.goal with
      | payload shape => exact .inr (.rests (agrees_succeed_payload hgoal payload))
      | signIn =>
        cases ht : tokens? payload with
        | none => exact .inr (.rests (agrees_succeed_signIn hgoal ht))
        | some reply =>
          rw [signIn?_of_delivery? hd hgoal, hp, Option.bind_some, ht] at hsignIn
          cases hsignIn
      | profile =>
        cases hprofile : Profile.decode payload with
        | ok p => exact .inr (.caches (agrees_succeed_profile (.inl hgoal) hprofile))
        | error m =>
          -- There is a payload, so no token was refused, but it is no profile.
          refine .inl (.profileless hd hgoal ?_ ?_)
          · rintro ⟨⟨body, hbody⟩, -⟩
            rw [hbody] at hp
            cases hp
          · rintro payload' p hp' hdecode
            obtain rfl := Option.some.inj (hp.symm.trans hp')
            exact nomatch hprofile.symm.trans hdecode
      | changedProfile =>
        cases hprofile : Profile.decode payload with
        | ok p => exact .inr (.caches (agrees_succeed_profile (.inr hgoal) hprofile))
        | error m => exact .inr (.rests (agrees_succeed_changedProfile hgoal hprofile))
    | @fails error hp hpublic _ =>
      -- Without a payload the session ends for the goal only, not for the failure.
      by_cases hgoal : d.call.goal = .profile
      · refine .inl (.profileless hd hgoal ?_ ?_)
        · rintro ⟨hbody, -, hprivate⟩
          exact nomatch (hpublic hbody).2.symm.trans hprivate
        · rintro payload p hp'
          exact nomatch hp.symm.trans hp'
      · have hfail := agrees_fail d.id d.call error s
        rw [d.call.goal.whenFailed_of_ne hgoal] at hfail
        exact .inr (.rests hfail)
    | refusedAgain hbody hagain => exact .inl (.refusedAgain hd hbody hagain)
    | asks hbody hagain hpublic =>
      by_cases h : s.flight = none ∧ s.lifecycle.store.current.refresh = ""
      · exact .inl (.unrenewable hd ⟨⟨_, hbody⟩, hagain, hpublic⟩ h.1 h.2)
      · exact .inr (.rests (agrees_renewThen (not_and_or.1 h) d.id (.replay d.call)))

theorem dooms_or_keeps (h : e.GoesOn) : s.Dooms e ∨ s.Keeps e (s.step e).lifecycle := by
  cases e with
  | answer id x =>
    cases hd : s.delivery? (.answer id x) with
    | some d => exact dooms_or_keeps_delivery hd
    | none =>
      rw [step, delivery?_answer hd]
      exact .inr (.rests (.refl _))
  | resume =>
    rw [step, resume]
    split
    · exact .inr (.rests (.refl _))
    · rename_i id granted rest hh
      by_cases ht : ∃ want, s.task? id = some (.renewal want)
      · obtain ⟨want, ht⟩ := ht
        rw [goOn_of_task (s := { s with handed := rest }) ht]
        by_cases hstuck : ∃ call, want = .replay call ∧ call.goal = .profile ∧ s.Stuck call granted
        · obtain ⟨call, rfl, hgoal, hstuck⟩ := hstuck
          exact .inl (.stuck hh ht hgoal hstuck)
        · have hgrant := agrees_grant (s := { s with handed := rest }) id
            fun call hcall hgoal hs => hstuck ⟨call, hcall, hgoal, hs⟩
          exact .inr (.rests hgrant)
      · rw [not_exists] at ht
        rw [goOn_of_dropped (s := { s with handed := rest }) ht]
        exact .inr (.rests (.refl _))
  | _ => exact h.elim

/-- When an operation goes on, it ends the session that is there if and only if what it goes on with
    dooms it; else it keeps it. For which session its request was sent, and whether there was a
    logout or a sign-in since, does not come into it. -/
theorem late_answer (h : e.GoesOn) (hc : s.lifecycle.isCleared = false) :
    (s.Dooms e ↔ s.lifecycle.HasEnded (s.step e).lifecycle) ∧
      (¬s.Dooms e → s.Keeps e (s.step e).lifecycle) := by
  have hkeeps := (dooms_or_keeps (s := s) h).resolve_left
  refine ⟨⟨fun hdooms => hdooms.hasEnded hc, fun hended => ?_⟩, hkeeps⟩
  by_contra hnot
  exact Nat.succ_ne_self _ (hended.farewells.symm.trans (hkeeps hnot).farewells_eq)

/-- A request is answered after there was a logout and a sign-in: that its token was refused ends
    the new session, which has no refresh token; that it took too long does not. -/
theorem late_answer_at_new_session :
    let s : Session Memory := (ofStore {} ⟨⟨[]⟩, ⟨"a1", "r1"⟩⟩).run
      (.start (.send (.ok (.get "/orders")) .any) :: .act .logout :: signingIn 1 "")
    s.Dooms (.answer 0 (.answered 401 [])) ∧
      s.Keeps (.answer 0 .timedOut) (s.step (.answer 0 .timedOut)).lifecycle := by
  intro s
  obtain ⟨hc, hstays, hcurrent, hprofile, hactive, hepoch, hfarewells⟩ :
      s.lifecycle.isCleared = false ∧
      (s.step (.answer 0 .timedOut)).lifecycle.farewells = s.lifecycle.farewells ∧
      let l' := (s.step (.answer 0 (.answered 401 []))).lifecycle
      l'.store.current = {} ∧ l'.profile = none ∧ l'.active.value = false ∧
        l'.epoch = s.lifecycle.epoch + 1 ∧ l'.farewells = s.lifecycle.farewells + 1 := by
    decide +kernel
  constructor
  · exact (late_answer (e := .answer 0 (.answered 401 [])) trivial hc).1.2
      ⟨hcurrent, hprofile, hactive, hepoch, hfarewells⟩
  · obtain ⟨hiff, hkeeps⟩ := late_answer (e := .answer 0 .timedOut) trivial hc
    refine hkeeps fun hdooms => ?_
    exact Nat.succ_ne_self _ ((hiff.1 hdooms).farewells.symm.trans hstays)

/-- A session that was begun after a logout ends with the answer to a request from before: with a
    refused token that cannot be renewed, with a renewed token that is refused, and with a profile
    that does not come. -/
theorem late_answers_end_new_session :
    let s₀ : Session Memory := ofStore {} ⟨⟨[]⟩, ⟨"a1", "r1"⟩⟩
    let s₁ := s₀.run (.start (.send (.ok (.get "/orders")) .any) :: .act .logout :: signingIn 1 "")
    let s₂ := s₀.run ([.start (.send (.ok (.get "/orders")) .any), .answer 0 (.answered 401 []),
      .resolve (.ok ⟨"b1", none⟩)] ++ .act .logout :: signingIn 1 "r2")
    let s₃ := s₀.run (.start .fetchProfile :: .act .logout :: signingIn 1 "r2")
    s₁.lifecycle.store.current = ⟨"a2", ""⟩ ∧
      s₂.lifecycle.store.current = ⟨"a2", "r2"⟩ ∧ s₃.lifecycle.store.current = ⟨"a2", "r2"⟩ ∧
      (s₁.step (.answer 0 (.answered 401 []))).lifecycle.store.current = {} ∧
      (s₂.step (.answer 0 (.answered 401 []))).lifecycle.store.current = {} ∧
      (s₃.step (.answer 0 .timedOut)).lifecycle.store.current = {} ∧
      (s₁.step (.answer 0 (.answered 401 []))).lifecycle.farewells = s₁.lifecycle.farewells + 1 ∧
      (s₂.step (.answer 0 (.answered 401 []))).lifecycle.farewells = s₂.lifecycle.farewells + 1 ∧
      (s₃.step (.answer 0 .timedOut)).lifecycle.farewells = s₃.lifecycle.farewells + 1 := by
  decide +kernel

end Session

end ShopClient
