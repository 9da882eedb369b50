import ShopClient.Proofs.Renewal.Landing
import ShopClient.Proofs.Standing.Agreement

/-!
# What a step does to a session

An answer comes to one of four things (`Receipt`): its payload is gone on with, the operation fails,
the session ends because a token was refused twice, or a renewal is asked for.

What that does to the session is little. Tokens are stored by a sign-in and by a renewal, a profile
is cached when one comes, and all else leaves the session as it stands or ends it (`Effect`). What
is stored in a step is stored before the session ends in it.

* `receipt_step`: what an answer comes to;
* `effect_step`: what a step does to the session.
-/

namespace ShopClient

/-- The payload that came back, unless the request failed or its token was not accepted. -/
def payload? : Except SessionError Received → Option Json.Value
  | .ok (.body body) => (Envelope.ofBytes body).payload.toOption
  | _ => none

/-- What becomes of a session when a call fails: without its profile it ends. -/
def Goal.whenFailed {σ : Type} [Storage σ] : Goal → Lifecycle σ → Lifecycle σ
  | .profile, l => l.logout.2
  | _, l => l

/-- What becomes of a session when one who waits for a renewal is told of an error. -/
def Want.whenFailed {σ : Type} [Storage σ] : Want → Lifecycle σ → Lifecycle σ
  | .replay call, l => call.goal.whenFailed l
  | _, l => l

namespace Lifecycle

variable {σ : Type} [Storage σ] {l l' : Lifecycle σ}

theorem Agrees.whenFailed (h : l.Agrees l') (goal : Goal) :
    (goal.whenFailed l).Agrees (goal.whenFailed l') := by
  cases goal with
  | profile => exact h.logout
  | _ => exact h

theorem StaysOrEnds.whenFailed {goal : Goal} (h : (goal.whenFailed l).Agrees l') :
    l.StaysOrEnds l' := by
  cases goal with
  | profile => exact .inr h
  | _ => exact .inl h

end Lifecycle

theorem Exchange.received_ne_expired (x : Exchange) (o : Outgoing) (timeout : Nat) :
    x.received o timeout ≠ .error .sessionExpired := by
  cases x with
  | answered status body =>
    rw [received]
    split
    · rintro ⟨⟩
    · split <;> rintro ⟨⟩
  | _ => rintro ⟨⟩

theorem Envelope.payload_ne_expired (e : Envelope) : e.payload ≠ .error .sessionExpired := by
  cases e with
  | enveloped code msg data =>
    rw [payload]
    split <;> rintro ⟨⟩
  | raw v => rintro ⟨⟩

namespace Session

variable {σ : Type} [Storage σ] {s s' : Session σ} {id : TaskId} {call : Call} {again : Bool}

/-! ### Failures, requests and renewals -/

omit [Storage σ] in
/-- Nothing that is entered in the journal changes the session, unless it is that there was a logout. -/
theorem agrees_log {e : Entry} (he : (Journal.notices [e]).count .loggedOut = 0) (s : Session σ) :
    s.lifecycle.Agrees (s.log e).lifecycle :=
  (Lifecycle.Agrees.refl _).log he

omit [Storage σ] in
theorem agrees_count (c : Counter) (s : Session σ) : s.lifecycle.Agrees (s.count c).lifecycle :=
  (Lifecycle.Agrees.refl _).count c

theorem agrees_fail (id : TaskId) (call : Call) (e : SessionError) (s : Session σ) :
    (call.goal.whenFailed s.lifecycle).Agrees (s.fail id call e).lifecycle := by
  have hcount := agrees_count (.request e.requestResult) s
  have htell (message : String) : s.lifecycle.Agrees
      ((s.count (.request e.requestResult)).update (·.tell (.error message))).lifecycle :=
    hcount.log rfl
  simp only [fail]
  -- Only the goal of the call decides whether the session ends, whatever the user is told.
  cases e with
  | transport status message =>
    cases call.goal with
    | profile => exact (htell message).logout.log rfl
    | _ => exact (htell message).log rfl
  | _ =>
    cases call.goal with
    | profile => exact hcount.logout.log rfl
    | _ => exact hcount.log rfl

theorem staysOrEnds_fail (id : TaskId) (call : Call) (e : SessionError) (s : Session σ) :
    s.lifecycle.StaysOrEnds (s.fail id call e).lifecycle :=
  .whenFailed (agrees_fail id call e s)

theorem agrees_issue_of_ok (id : TaskId) (call : Call) (again : Bool) {bearer : Option String}
    {o : Outgoing} (s : Session σ)
    (h : Outgoing.ofRequest s.settings.baseUrl bearer s.dispatched call.request = .ok o) :
    s.lifecycle.Agrees (s.issue id call again bearer).lifecycle := by
  rw [issue_of_ok h]
  exact (Lifecycle.Agrees.refl _).log rfl

theorem agrees_issue_of_error (id : TaskId) (call : Call) (again : Bool) {bearer : Option String}
    {e : SessionError} (s : Session σ)
    (h : Outgoing.ofRequest s.settings.baseUrl bearer s.dispatched call.request = .error e) :
    (call.goal.whenFailed s.lifecycle).Agrees (s.issue id call again bearer).lifecycle := by
  rw [issue_of_error h]
  exact agrees_fail id call e s

theorem staysOrEnds_issue (id : TaskId) (call : Call) (again : Bool) (bearer : Option String)
    (s : Session σ) : s.lifecycle.StaysOrEnds (s.issue id call again bearer).lifecycle := by
  cases h : Outgoing.ofRequest s.settings.baseUrl bearer s.dispatched call.request with
  | ok o => exact .inl (agrees_issue_of_ok id call again s h)
  | error e => exact .whenFailed (agrees_issue_of_error id call again s h)

theorem staysOrEnds_begin (id : TaskId) (call : Call) (s : Session σ) :
    s.lifecycle.StaysOrEnds (s.begin id call).lifecycle :=
  staysOrEnds_issue id call false s.access? s

theorem staysOrEnds_fetchProfile (id : TaskId) (s : Session σ) :
    s.lifecycle.StaysOrEnds (s.fetchProfile id).lifecycle := by
  unfold fetchProfile
  split
  · exact staysOrEnds_begin id _ s
  · exact .inl ((Lifecycle.Agrees.refl _).log rfl)

theorem agrees_grant_error (id : TaskId) (want : Want) (e : SessionError) (s : Session σ) :
    (want.whenFailed s.lifecycle).Agrees (s.grant id want (.error e)).lifecycle := by
  have hlog := agrees_log (e := .granted id (.error e)) rfl s
  cases want with
  | replay call => exact (hlog.whenFailed call.goal).trans (agrees_fail id call e _)
  | token => exact hlog.log rfl
  | acknowledgement => exact hlog.log rfl

theorem staysOrEnds_grant (id : TaskId) (want : Want) (granted : Granted) (s : Session σ) :
    s.lifecycle.StaysOrEnds (s.grant id want granted).lifecycle := by
  have hlog := agrees_log (e := .granted id granted) rfl s
  cases want with
  | replay call =>
    cases granted with
    | ok token =>
      have hissue := staysOrEnds_issue id call true (some token)
        ((s.log (.granted id (.ok token))).count .replay)
      exact .trans (.inl (hlog.count .replay)) hissue
    | error e => exact .trans (.inl hlog) (staysOrEnds_fail id call e _)
  | token => exact .inl (hlog.log rfl)
  | acknowledgement => exact .inl (hlog.log rfl)

/-- Whoever asks for a renewal leaves the session as it is, if one is in flight or can be started. -/
theorem agrees_renewThen (h : s.flight ≠ none ∨ s.lifecycle.store.current.refresh ≠ "")
    (id : TaskId) (want : Want) : s.lifecycle.Agrees (s.renewThen id want).lifecycle := by
  have hlog := agrees_log (e := .asked id) rfl s
  cases hf : s.flight with
  | some f =>
    rw [renewThen_of_flight hf]
    exact hlog
  | none =>
    rw [renewThen_of_idle hf (h.resolve_left (absurd hf))]
    have hlaunched : s.lifecycle.Agrees (s.launched id want).lifecycle := hlog.log rfl
    split
    · exact hlaunched.log rfl
    · exact hlaunched

/-- Without a refresh token it ends the session. -/
theorem ended_renewThen (hf : s.flight = none) (hr : s.lifecycle.store.current.refresh = "")
    (id : TaskId) (want : Want) :
    s.lifecycle.logout.2.Agrees (s.renewThen id want).lifecycle := by
  have hlog := agrees_log (e := .asked id) rfl s
  have hcount := hlog.count (.renewal .noRefreshToken)
  have hexpire := hcount.logout.trans (Lifecycle.agrees_expire _)
  rw [renewThen_of_refresh_eq hf hr]
  exact Lifecycle.StaysOrEnds.after_end hexpire (staysOrEnds_grant id want (.error .sessionExpired)
    (((s.log (.asked id)).count (.renewal .noRefreshToken)).update (·.expire)))

theorem staysOrEnds_renewThen (id : TaskId) (want : Want) (s : Session σ) :
    s.lifecycle.StaysOrEnds (s.renewThen id want).lifecycle := by
  by_cases hf : s.flight = none
  · by_cases hr : s.lifecycle.store.current.refresh = ""
    · exact .inr (ended_renewThen hf hr id want)
    · exact .inl (agrees_renewThen (.inr hr) id want)
  · exact .inl (agrees_renewThen (.inl hf) id want)

/-! ### Answers -/

/-- What the answer to a request of a call can come to. -/
inductive Receipt (id : TaskId) (call : Call) (again : Bool) (answer : Except SessionError Received)
    (s : Session σ) : Session σ → Prop
  /-- There is a payload. -/
  | succeeds {payload : Json.Value} :
    payload? answer = some payload → Receipt id call again answer s (s.succeed id call payload)
  /-- There is none, and it is not for the token that there is none, or the request needs no session. -/
  | fails {e : SessionError} :
    payload? answer = none →
      ((∃ body, answer = .ok (.unauthorized body)) → again = false ∧ call.request.isPublic = true) →
      e ≠ .sessionExpired → Receipt id call again answer s (s.fail id call e)
  /-- The token was not accepted, which the request was sent again with. -/
  | refusedAgain {body : Text.Bytes} :
    answer = .ok (.unauthorized body) → again = true →
      Receipt id call again answer s ((s.update (·.expire)).fail id call .sessionExpired)
  /-- The token was not accepted, which the first request was sent with. -/
  | asks {body : Text.Bytes} :
    answer = .ok (.unauthorized body) → again = false → call.request.isPublic = false →
      Receipt id call again answer s (s.renewThen id (.replay call))

theorem receipt_receive {answer : Except SessionError Received}
    (h : answer ≠ .error .sessionExpired) (id : TaskId) (call : Call) (again : Bool)
    (s : Session σ) : Receipt id call again answer s (s.receive id call again answer) := by
  unfold receive
  split
  · rename_i e
    exact .fails rfl (by rintro ⟨_, ⟨⟩⟩) fun he => h (he ▸ rfl)
  · rename_i body
    split
    · rename_i payload hp
      refine .succeeds ?_
      rw [payload?, hp]
      rfl
    · rename_i e hp
      refine .fails ?_ (by rintro ⟨_, ⟨⟩⟩) fun he => Envelope.payload_ne_expired _ (he ▸ hp)
      rw [payload?, hp]
      rfl
  · -- The token was refused, so it matters whether it had been renewed and was needed.
    rename_i body
    split
    · rename_i hagain
      exact .refusedAgain rfl hagain
    · rename_i hagain
      rw [Bool.not_eq_true] at hagain
      split
      · rename_i hpublic
        exact .fails rfl (fun _ => ⟨hagain, hpublic⟩) (by rintro ⟨⟩)
      · rename_i hpublic
        exact .asks rfl hagain (Bool.eq_false_iff.2 hpublic)

theorem receive_of_payload {answer : Except SessionError Received} {payload : Json.Value}
    (h : payload? answer = some payload) :
    s.receive id call again answer = s.succeed id call payload := by
  cases answer with
  | error e => cases h
  | ok received =>
    cases received with
    | unauthorized body => cases h
    | body body =>
      rw [payload?] at h
      rw [receive]
      cases hp : (Envelope.ofBytes body).payload with
      | ok v =>
        rw [hp] at h
        obtain rfl := Option.some.inj h
        rfl
      | error e =>
        rw [hp] at h
        cases h

/-- A token that is refused although it was renewed ends the session. -/
theorem ended_refusedAgain (id : TaskId) (call : Call) (s : Session σ) :
    s.lifecycle.logout.2.Agrees ((s.update (·.expire)).fail id call .sessionExpired).lifecycle :=
  Lifecycle.StaysOrEnds.after_end (Lifecycle.agrees_expire s.lifecycle)
    (staysOrEnds_fail id call .sessionExpired (s.update (·.expire)))

/-! ### Payloads -/

/-- A payload for the caller leaves the session as it is. -/
theorem agrees_succeed_payload {shape : Shape} (h : call.goal = .payload shape)
    (payload : Json.Value) :
    s.lifecycle.Agrees (s.succeed id call payload).lifecycle := by
  have hcount := agrees_count (.request .ok) s
  simp only [succeed, h]
  split
  · exact hcount.log rfl
  · exact hcount.log rfl

/-- A profile is cached. -/
theorem agrees_succeed_profile {p : Profile} {payload : Json.Value}
    (h : call.goal = .profile ∨ call.goal = .changedProfile) (hp : Profile.decode payload = .ok p) :
    (s.lifecycle.setProfile (some p)).Agrees (s.succeed id call payload).lifecycle := by
  have hcount := agrees_count (.request .ok) s
  rcases h with h | h
  · simp only [succeed, h, hp]
    exact (hcount.setProfile _).log rfl
  · simp only [succeed, h, hp]
    exact (hcount.setProfile _).log rfl

/-- Without its profile the session ends. -/
theorem ended_succeed_profile {m : Json.Mismatch} {payload : Json.Value} (h : call.goal = .profile)
    (hp : Profile.decode payload = .error m) :
    s.lifecycle.logout.2.Agrees (s.succeed id call payload).lifecycle := by
  have hcount := agrees_count (.request .ok) s
  simp only [succeed, h, hp]
  exact hcount.logout.log rfl

theorem agrees_succeed_changedProfile {m : Json.Mismatch} {payload : Json.Value}
    (h : call.goal = .changedProfile) (hp : Profile.decode payload = .error m) :
    s.lifecycle.Agrees (s.succeed id call payload).lifecycle := by
  have hcount := agrees_count (.request .ok) s
  simp only [succeed, h, hp]
  exact hcount.log rfl

/-- The tokens that the answer to a sign-in carries. -/
def tokens? (payload : Json.Value) : Option SignInReply :=
  (SignInReply.decode payload).toOption.filter (·.access ≠ "")

theorem tokens?_eq_some_iff {payload : Json.Value} {reply : SignInReply} :
    tokens? payload = some reply ↔ SignInReply.decode payload = .ok reply ∧ reply.access ≠ "" := by
  rw [tokens?, Option.filter_eq_some_iff]
  cases SignInReply.decode payload with
  | error m => simp [Except.toOption]
  | ok r =>
    simp only [Except.toOption, Option.some.injEq, Except.ok.injEq, decide_eq_true_eq]

/-- A sign-in without tokens leaves the session as it is. -/
theorem agrees_succeed_signIn {payload : Json.Value} (h : call.goal = .signIn)
    (hp : tokens? payload = none) :
    s.lifecycle.Agrees (s.succeed id call payload).lifecycle := by
  have hcount := agrees_count (.request .ok) s
  simp only [succeed, h]
  split
  · rename_i reply hreply
    split
    · exact hcount.log rfl
    · rename_i haccess
      rw [tokens?_eq_some_iff.2 ⟨hreply, haccess⟩] at hp
      cases hp
  · exact hcount.log rfl

/-- The call that asks for the profile. -/
def profileCall : Call := ⟨.get Settings.profilePath, .profile⟩

/-- The tokens of a sign-in are stored, and nothing is done with them yet. -/
def signedIn (reply : SignInReply) (s : Session σ) : Session σ :=
  (s.count (.request .ok)).update (·.storeCredentials reply.access (some reply.refresh))

theorem agrees_signedIn (reply : SignInReply) (s : Session σ) :
    (s.lifecycle.storeCredentials reply.access (some reply.refresh)).Agrees
      (s.signedIn reply).lifecycle :=
  (agrees_count (.request .ok) s).storeCredentials reply.access (some reply.refresh)

theorem access_signedIn (reply : SignInReply) (s : Session σ) :
    (s.signedIn reply).lifecycle.store.current.access = reply.access :=
  Lifecycle.access_storeCredentials reply.access (some reply.refresh) _

theorem access?_signedIn {reply : SignInReply} (h : reply.access ≠ "") (s : Session σ) :
    (s.signedIn reply).access? = some reply.access := by
  rw [access?, access_signedIn]
  exact if_pos (decide_eq_true h)

/-- A sign-in stores its tokens and asks for the profile with them. -/
theorem succeed_signIn {payload : Json.Value} {reply : SignInReply} (h : call.goal = .signIn)
    (hp : tokens? payload = some reply) :
    s.succeed id call payload = (s.signedIn reply).begin id profileCall := by
  obtain ⟨hreply, haccess⟩ := tokens?_eq_some_iff.1 hp
  have hstored : (s.signedIn reply).lifecycle.store.current.hasAccess = true := by
    simp [signedIn, Session.update, Lifecycle.storeCredentials, Lifecycle.writeStore,
      Lifecycle.publish, CredentialPair.hasAccess, haccess]
  simp only [succeed, h, hreply, if_neg haccess, fetchProfile]
  exact if_pos hstored

/-! ### Sign-ins -/

/-- The operation `id` signs somebody in, to whom the tokens `a2` and `refresh` are issued. -/
def signingIn (id : TaskId) (refresh : String) : List Event :=
  [.start (.signIn ⟨"user", "secret"⟩), .answer id (.answered 200 (Text.Utf8.encode
    ("\x7b\"access_token\": \"a2\", \"refresh_token\": " ++ Text.quote refresh ++ "\x7d")))]

/-! ### Steps -/

/-- What comes back to an operation. -/
structure Delivery where
  id : TaskId
  call : Call
  /-- Whether the request had been sent before. -/
  again : Bool
  answer : Except SessionError Received

/-- What `e` brings to an operation whose request it answers. -/
def delivery? (s : Session σ) : Event → Option Delivery
  | .answer id x => match s.task? id with
    | some (.first call o) => some ⟨id, call, false, x.received o s.settings.requestTimeout⟩
    | some (.replayed call o) => some ⟨id, call, true, x.received o s.settings.requestTimeout⟩
    | _ => none
  | _ => none

/-- The tokens that `e` brings as the answer to a sign-in. -/
def signIn? (s : Session σ) (e : Event) : Option SignInReply :=
  match s.delivery? e with
  | some ⟨_, ⟨_, .signIn⟩, _, answer⟩ => (payload? answer).bind tokens?
  | _ => none

/-- The profile that `e` brings as the answer to a request for it, or for its change. -/
def profile? (s : Session σ) (e : Event) : Option Profile :=
  match s.delivery? e with
  | some ⟨_, ⟨_, .profile⟩, _, answer⟩ | some ⟨_, ⟨_, .changedProfile⟩, _, answer⟩ =>
    (payload? answer).bind fun payload => (Profile.decode payload).toOption
  | _ => none

theorem delivery?_answer {x : Exchange} (h : s.delivery? (.answer id x) = none) :
    s.answer id x = s := by
  rw [answer]
  split
  · rename_i ht
    simp [delivery?, ht] at h
  · rename_i ht
    simp [delivery?, ht] at h
  · rfl

omit [Storage σ] in
/-- Only an operation under way is brought an answer. -/
theorem mem_ids_of_delivery? {e : Event} {d : Delivery} (h : s.delivery? e = some d) : d.id ∈ s.ids := by
  cases e with
  | answer i x =>
    rw [delivery?] at h
    split at h
    · rename_i ht
      obtain rfl := Option.some.inj h
      exact mem_ids_of_task? ht
    · rename_i ht
      obtain rfl := Option.some.inj h
      exact mem_ids_of_task? ht
    · cases h
  | _ => cases h

theorem step_of_delivery? {e : Event} {d : Delivery} (h : s.delivery? e = some d) :
    s.step e = s.receive d.id d.call d.again d.answer ∧ d.answer ≠ .error .sessionExpired := by
  cases e with
  | answer id x =>
    rw [delivery?] at h
    split at h
    · rename_i ht
      obtain rfl := Option.some.inj h
      simp only [step, answer, ht]
      exact ⟨trivial, x.received_ne_expired _ _⟩
    · rename_i ht
      obtain rfl := Option.some.inj h
      simp only [step, answer, ht]
      exact ⟨trivial, x.received_ne_expired _ _⟩
    · cases h
  | _ => cases h

/-- What it comes to that a request is answered. -/
theorem receipt_step {e : Event} {d : Delivery} (h : s.delivery? e = some d) :
    Receipt d.id d.call d.again d.answer s (s.step e) := by
  obtain ⟨hstep, hanswer⟩ := step_of_delivery? h
  rw [hstep]
  exact receipt_receive hanswer d.id d.call d.again s

omit [Storage σ] in
theorem signIn?_of_delivery? {e : Event} {d : Delivery} (h : s.delivery? e = some d)
    (hgoal : d.call.goal = .signIn) : s.signIn? e = (payload? d.answer).bind tokens? := by
  obtain ⟨id, ⟨request, goal⟩, again, answer⟩ := d
  obtain rfl : goal = .signIn := hgoal
  rw [signIn?, h]

omit [Storage σ] in
theorem profile?_of_delivery? {e : Event} {d : Delivery} (h : s.delivery? e = some d)
    (hgoal : d.call.goal = .profile ∨ d.call.goal = .changedProfile) :
    s.profile? e = (payload? d.answer).bind fun payload => (Profile.decode payload).toOption := by
  obtain ⟨id, ⟨request, goal⟩, again, answer⟩ := d
  rcases hgoal with hgoal | hgoal
  · obtain rfl : goal = .profile := hgoal
    rw [profile?, h]
  · obtain rfl : goal = .changedProfile := hgoal
    rw [profile?, h]

/-- A sign-in stores its tokens and asks for the profile with them. -/
theorem step_of_signIn? {e : Event} {reply : SignInReply} (h : s.signIn? e = some reply) :
    reply.access ≠ "" ∧ ∃ id, s.step e = (s.signedIn reply).begin id profileCall := by
  rw [signIn?] at h
  split at h
  · rename_i id request again answer hd
    obtain ⟨payload, hp, ht⟩ := Option.bind_eq_some_iff.1 h
    refine ⟨(tokens?_eq_some_iff.1 ht).2, id, ?_⟩
    rw [(step_of_delivery? hd).1, receive_of_payload hp, succeed_signIn rfl ht]
  · cases h

/-- All that one step can do to a session. -/
inductive Effect (s : Session σ) (e : Event) : Lifecycle σ → Prop
  /-- It stays as it is, or it ends. -/
  | rests {l : Lifecycle σ} : s.lifecycle.StaysOrEnds l → Effect s e l
  /-- The profile that came is cached. -/
  | caches {l : Lifecycle σ} {p : Profile} :
    s.profile? e = some p → (s.lifecycle.setProfile (some p)).Agrees l → Effect s e l
  /-- The tokens of a sign-in are stored. The session ends if no profile can be asked for with them. -/
  | signsIn {l : Lifecycle σ} {reply : SignInReply} :
    s.signIn? e = some reply →
      (s.lifecycle.storeCredentials reply.access (some reply.refresh)).StaysOrEnds l → Effect s e l
  /-- The tokens of a renewal are stored. The session ends if its driver fails to fetch the profile with
      them. -/
  | renews {l : Lifecycle σ} {f : Flight} {renewed : Renewed} :
    s.flight = some f → e.renewal? s = some (.ok renewed) → s.lifecycle.epoch = f.epoch →
      (s.lifecycle.storeCredentials renewed.access renewed.refresh).StaysOrEnds l → Effect s e l
  /-- It is changed from outside. -/
  | acts {l : Lifecycle σ} {action : Action} :
    e = .act action → l = (s.lifecycle.act action).2 → Effect s e l

theorem effect_delivery {e : Event} {d : Delivery} (h : s.delivery? e = some d) :
    s.Effect e (s.step e).lifecycle := by
  have hreceipt := receipt_step h
  generalize s.step e = s' at hreceipt ⊢
  cases hreceipt with
  | @succeeds payload hp =>
    cases hgoal : d.call.goal with
    | payload shape => exact .rests (.inl (agrees_succeed_payload hgoal payload))
    | signIn =>
      have hsignIn := signIn?_of_delivery? h hgoal
      rw [hp, Option.bind_some] at hsignIn
      cases ht : tokens? payload with
      | none => exact .rests (.inl (agrees_succeed_signIn hgoal ht))
      | some reply =>
        have hbegin := staysOrEnds_begin d.id profileCall (s.signedIn reply)
        rw [succeed_signIn hgoal ht]
        exact .signsIn (hsignIn.trans ht) (.trans (.inl (agrees_signedIn reply s)) hbegin)
    | profile =>
      have hbrings := profile?_of_delivery? h (.inl hgoal)
      rw [hp, Option.bind_some] at hbrings
      cases hprofile : Profile.decode payload with
      | ok p =>
        rw [hprofile] at hbrings
        exact .caches hbrings (agrees_succeed_profile (.inl hgoal) hprofile)
      | error m => exact .rests (.inr (ended_succeed_profile hgoal hprofile))
    | changedProfile =>
      have hbrings := profile?_of_delivery? h (.inr hgoal)
      rw [hp, Option.bind_some] at hbrings
      cases hprofile : Profile.decode payload with
      | ok p =>
        rw [hprofile] at hbrings
        exact .caches hbrings (agrees_succeed_profile (.inr hgoal) hprofile)
      | error m => exact .rests (.inl (agrees_succeed_changedProfile hgoal hprofile))
  | fails => exact .rests (staysOrEnds_fail d.id d.call _ s)
  | refusedAgain =>
    have hexpire : s.lifecycle.StaysOrEnds (s.update (·.expire)).lifecycle :=
      .inr (Lifecycle.agrees_expire _)
    exact .rests (hexpire.trans (staysOrEnds_fail d.id d.call .sessionExpired _))
  | asks => exact .rests (staysOrEnds_renewThen d.id (.replay d.call) s)

theorem staysOrEnds_start (operation : Operation) (s : Session σ) :
    s.lifecycle.StaysOrEnds (s.start operation).lifecycle := by
  simp only [start]
  -- The cases are the operations, with a request that could not be built beside one that could.
  split
  · exact staysOrEnds_begin s.started _ { s with started := s.started + 1 }
  · exact .inl ((Lifecycle.Agrees.refl _).log rfl)
  · exact staysOrEnds_begin s.started _ { s with started := s.started + 1 }
  · exact staysOrEnds_begin s.started _ { s with started := s.started + 1 }
  · exact staysOrEnds_fetchProfile s.started { s with started := s.started + 1 }
  · exact staysOrEnds_begin s.started _ { s with started := s.started + 1 }
  · split
    · exact staysOrEnds_renewThen s.started _ { s with started := s.started + 1 }
    · exact .inl ((Lifecycle.Agrees.refl _).log rfl)
  · exact staysOrEnds_renewThen s.started _ { s with started := s.started + 1 }

theorem staysOrEnds_goOn (id : TaskId) (granted : Granted) (s : Session σ) :
    s.lifecycle.StaysOrEnds (s.goOn id granted).lifecycle := by
  unfold goOn
  split
  · exact staysOrEnds_grant id _ granted s
  · exact .refl _

theorem staysOrEnds_resume (s : Session σ) : s.lifecycle.StaysOrEnds s.resume.lifecycle := by
  unfold resume
  split
  · exact .refl _
  · rename_i id granted rest _
    exact staysOrEnds_goOn id granted { s with handed := rest }

/-- When a renewal ends, its driver goes on at once. -/
theorem resolve_of_flight {f : Flight} (hf : s.flight = some f) (result : Except RenewalError Renewed) :
    s.resolve result = (s.settled f result).goOn f.driver (s.verdict f result) := by
  obtain ⟨l, r, -, -, heq⟩ := conclude_eq f result s
  simp only [resolve, settled, hf, heq]

/-- The end of a renewal stores its tokens, unless there was a logout since it was started. A failure
    ends the session. -/
theorem effect_resolve {e : Event} {result : Except RenewalError Renewed}
    (he : e.renewal? s = some result) : s.Effect e (s.step e).lifecycle := by
  rw [step_of_renewal? he]
  cases hf : s.flight with
  | none =>
    simp only [resolve, hf]
    exact .rests (.refl _)
  | some f =>
    have hgoOn := staysOrEnds_goOn f.driver (s.verdict f result) (s.settled f result)
    rw [resolve_of_flight hf]
    cases result with
    | ok renewed =>
      by_cases hepoch : s.lifecycle.epoch = f.epoch
      · rw [(settled_stored hepoch renewed).2] at hgoOn
        have hcount := (Lifecycle.Agrees.refl (s.lifecycle.storeCredentials renewed.access
          renewed.refresh)).count (.renewal .ok)
        exact .renews hf he hepoch (.trans (.inl hcount) hgoOn)
      · rw [(settled_discarded hepoch renewed).2] at hgoOn
        exact .rests (.trans (.inl ((Lifecycle.Agrees.refl _).count _)) hgoOn)
    | error error =>
      rw [(settled_failed f error s).2] at hgoOn
      exact .rests (.trans (.inr ((Lifecycle.agrees_expire _).count _)) hgoOn)

/-- What a step does to a session. -/
theorem effect_step (s : Session σ) (e : Event) : s.Effect e (s.step e).lifecycle := by
  cases e with
  | start operation => exact .rests (staysOrEnds_start operation s)
  | answer id x =>
    cases hd : s.delivery? (.answer id x) with
    | some d => exact effect_delivery hd
    | none =>
      rw [step, delivery?_answer hd]
      exact .rests (.refl _)
  | answerRenewal x =>
    cases hf : s.flight with
    | some f =>
      have hresult : (Event.answerRenewal x).renewal? s = some (f.result s.settings x) := by
        rw [Event.renewal?, hf, Option.map_some]
      exact effect_resolve hresult
    | none =>
      rw [step, answerRenewal, hf]
      exact .rests (.refl _)
  | resolve result => exact effect_resolve rfl
  | resume => exact .rests (staysOrEnds_resume s)
  | abort id =>
    simp only [step, abort]
    split
    · split
      · exact .rests (.inl ((Lifecycle.Agrees.refl _).count _))
      · exact .rests (.refl _)
    · exact .rests (.refl _)
  | reset =>
    simp only [step, reset]
    split <;> exact .rests (.refl _)
  | act action => exact .acts rfl rfl

/-- The epoch is the same as before, unless the tokens are gone. -/
theorem epoch_or_current_step (s : Session σ) (e : Event) :
    (s.step e).lifecycle.epoch = s.lifecycle.epoch ∨ (s.step e).lifecycle.store.current = {} := by
  cases effect_step s e with
  | rests h => exact h.epoch_or_current
  | caches _ h => exact .inl h.epoch
  | signsIn _ h => exact h.epoch_or_current
  | renews _ _ _ h => exact h.epoch_or_current
  | @acts action _ hl =>
    rw [hl]
    cases action with
    | storeRenewed epoch renewed =>
      refine .inl ?_
      simp only [Lifecycle.act, Lifecycle.storeRenewed]
      split <;> rfl
    | logout => exact .inr (Lifecycle.current_logout _)
    | expire =>
      refine .inr ?_
      rw [Lifecycle.act, (Lifecycle.agrees_expire s.lifecycle).store, Lifecycle.current_logout]
    | _ => exact .inl rfl

end Session

end ShopClient
