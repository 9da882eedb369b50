import ShopClient.Proofs.Expiry.Inquiry
import ShopClient.Proofs.Replay.Once

/-!
# Calls that need no renewal

Most calls never come near a renewal: they cannot be sent, they fail on their way, the shop refuses
them, their payload is not what was expected, or they are public, so that it does not matter what the
shop says about the token. Such a call enters in the journal how it ended, and leaves the rest of the
session alone, whether a renewal is in flight or not. What its operation then makes of the result is
another matter: a sign-in stores its tokens, and a session without its profile ends.

* `Undisturbed`: nothing but the call itself goes on from `s` to `s'`;
* `callResult`: what a call comes to by what came back, `reported` and `pursue`: what is done about it;
* `succeed_eq`, `fail_eq`: that is all that an operation does when its call is over;
* `only_expiry_touches`: what follows for all calls in any run.
-/

namespace ShopClient

/-- An entry that tells of one call and of nothing else. -/
def Entry.IsPlain : Entry → Prop
  | .told (.error _) | .counted (.request _) | .sent (.task _) _ | .finished _ _ => True
  | _ => False

/-- What a call comes to that does not ask for a renewal, by what came back. -/
def callResult : Except SessionError Received → Except SessionError Json.Value
  | .error e => .error e
  | .ok (.body body) => (Envelope.ofBytes body).payload
  | .ok (.unauthorized body) => .error (transportError (some .unauthorized) body
      (some Http.Status.unauthorized.message))

namespace Session

variable {σ : Type}

/-! ### Sessions that are not disturbed -/

/-- Nothing goes on from `s` to `s'` but a call of the operation `id`: the tokens and what is persisted
    of them, the profile, the epoch, the observable, the renewal in flight with its queue and what was
    handed over are the same, the other operations wait for what they waited for, and all that is
    entered in the journal is plain. -/
structure Undisturbed (id : TaskId) (s s' : Session σ) : Prop where
  store : s'.lifecycle.store = s.lifecycle.store
  profile : s'.lifecycle.profile = s.lifecycle.profile
  epoch : s'.lifecycle.epoch = s.lifecycle.epoch
  active : s'.lifecycle.active = s.lifecycle.active
  flight : s'.flight = s.flight
  handed : s'.handed = s.handed
  others : ∀ i, i ≠ id → s'.task? i = s.task? i
  journal : ∃ news, s'.lifecycle.journal = s.lifecycle.journal ++ news ∧ ∀ e ∈ news, e.IsPlain

namespace Undisturbed

variable {s s₁ s' : Session σ} {id : TaskId}

theorem refl (s : Session σ) : s.Undisturbed id s where
  store := rfl
  profile := rfl
  epoch := rfl
  active := rfl
  flight := rfl
  handed := rfl
  others _ _ := rfl
  journal := ⟨[], (List.append_nil _).symm, List.forall_mem_nil _⟩

theorem log (h : s.Undisturbed id s₁) {e : Entry} (he : e.IsPlain) : s.Undisturbed id (s₁.log e) := by
  obtain ⟨news, hj, hn⟩ := h.journal
  refine { h with journal := ⟨news ++ [e], ?_, ?_⟩ }
  · rw [← List.append_assoc, ← hj]
    rfl
  · rw [List.forall_mem_append, List.forall_mem_singleton]
    exact ⟨hn, he⟩

theorem await (h : s.Undisturbed id s₁) (t : Task) : s.Undisturbed id (s₁.await id t) :=
  { h with others := fun i hi => (task?_await s₁ id i t).trans ((if_neg hi).trans (h.others i hi)) }

theorem dismiss (h : s.Undisturbed id s₁) : s.Undisturbed id (s₁.dismiss id) :=
  { h with others := fun i hi => (task?_dismiss s₁ id i).trans ((if_neg hi).trans (h.others i hi)) }

theorem finish (h : s.Undisturbed id s₁) (result : Except SessionError Outcome) :
    s.Undisturbed id (s₁.finish id result) :=
  h.dismiss.log trivial

end Undisturbed

/-! ### Results -/

/-- The result of a call is counted, and the user is told of what failed on its way. -/
def reported (result : Except SessionError Json.Value) (s : Session σ) : Session σ :=
  match result with
  | .ok _ => s.count (.request .ok)
  | .error e => match e with
    | .transport _ message => (s.count (.request e.requestResult)).update (·.tell (.error message))
    | _ => s.count (.request e.requestResult)

theorem undisturbed_reported (id : TaskId) (result : Except SessionError Json.Value) (s : Session σ) :
    s.Undisturbed id (s.reported result) := by
  have hcount (r : RequestResult) : s.Undisturbed id (s.count (.request r)) :=
    (Undisturbed.refl s).log trivial
  rcases result with (⟨status, message⟩ | _ | _ | _ | _) | _
  · exact (hcount .transportError).log trivial
  all_goals exact hcount _

variable [Storage σ]

/-- What an operation makes of the result of its call. -/
def pursue (id : TaskId) (goal : Goal) (result : Except SessionError Json.Value) (s : Session σ) :
    Session σ :=
  match result with
  | .error e => (s.update goal.whenFailed).finish id (.error e)
  | .ok payload => match goal with
    | .payload shape => match shape.decode payload with
      | .ok v => s.finish id (.ok (.payload v))
      | .error m => s.reject id m
    | .signIn => match SignInReply.decode payload with
      | .ok reply =>
        if reply.access = "" then s.finish id (.ok (.profile none))
        else (s.update (·.storeCredentials reply.access (some reply.refresh))).fetchProfile id
      | .error m => s.reject id m
    | .profile => match Profile.decode payload with
      | .ok p => (s.update (·.setProfile (some p))).finish id (.ok (.profile (some p)))
      | .error m => (s.update (·.logout.2)).reject id m
    | .changedProfile => match Profile.decode payload with
      | .ok p => (s.update (·.setProfile (some p))).finish id (.ok (.payload p.toValue))
      | .error m => s.reject id m

variable {s s' : Session σ} {id : TaskId} {call : Call} {again : Bool}

theorem succeed_eq (id : TaskId) (call : Call) (payload : Json.Value) (s : Session σ) :
    s.succeed id call payload = (s.reported (.ok payload)).pursue id call.goal (.ok payload) := by
  rcases call with ⟨request, _ | _ | _ | _⟩ <;> rfl

theorem fail_eq (id : TaskId) (call : Call) (e : SessionError) (s : Session σ) :
    s.fail id call e = (s.reported (.error e)).pursue id call.goal (.error e) := by
  rcases call with ⟨request, _ | _ | _ | _⟩ <;> rcases e with _ | _ | _ | _ | _ <;> rfl

/-- A call that does not ask for a renewal is over with the answer, and its operation goes on with what
    it came to. -/
theorem receive_eq {answer : Except SessionError Received}
    (h : ∀ body, answer = .ok (.unauthorized body) →
      again = false ∧ call.request.isPublic = true) (id : TaskId) (s : Session σ) :
    s.receive id call again answer =
      (s.reported (callResult answer)).pursue id call.goal (callResult answer) := by
  rcases answer with e | body | body
  · exact fail_eq id call e s
  · cases hp : (Envelope.ofBytes body).payload with
    | ok payload =>
      simp only [receive, callResult, hp]
      exact succeed_eq id call payload s
    | error e =>
      simp only [receive, callResult, hp]
      exact fail_eq id call e s
  · obtain ⟨rfl, hpublic⟩ := h body rfl
    simp only [receive, callResult, Bool.false_eq_true, if_false, if_pos hpublic]
    exact fail_eq id call _ s

/-- The operation `id` pursues its `goal` with the result of its call, which disturbed nothing. If all
    that it was asked for is the payload, it is over. -/
structure ComesTo (id : TaskId) (goal : Goal) (result : Except SessionError Json.Value)
    (s s' : Session σ) : Prop where
  reports : s.Undisturbed id (s.reported result)
  pursues : s' = (s.reported result).pursue id goal result
  inquiry : ∀ shape, goal = .payload shape → s.Undisturbed id s' ∧ s'.task? id = none

omit [Storage σ] in
theorem task?_finish (id : TaskId) (result : Except SessionError Outcome) (s : Session σ) :
    (s.finish id result).task? id = none :=
  (task?_dismiss s id id).trans (if_pos rfl)

theorem comesTo_pursue (id : TaskId) (goal : Goal) (result : Except SessionError Json.Value)
    (s : Session σ) : s.ComesTo id goal result ((s.reported result).pursue id goal result) := by
  have hreports := undisturbed_reported id result s
  refine ⟨hreports, rfl, ?_⟩
  rintro shape rfl
  have hends (r : Except SessionError Outcome) : s.Undisturbed id ((s.reported result).finish id r) ∧
      ((s.reported result).finish id r).task? id = none :=
    ⟨hreports.finish r, task?_finish id r _⟩
  cases result with
  | error e => exact hends _
  | ok payload =>
    simp only [pursue]
    split <;> exact hends _

/-! ### Beginnings, answers and ends -/

/-- A request that is sent disturbs nothing. -/
theorem undisturbed_begin {o : Outgoing} (h : s.opening call = .ok o) (id : TaskId) :
    s.Undisturbed id (s.begin id call) ∧ (s.begin id call).task? id = some (.first call o) := by
  have hcounts : s.Undisturbed id { s with dispatched := s.dispatched + 1 } :=
    { Undisturbed.refl s with }
  have hbegin : s.begin id call = (({ s with dispatched := s.dispatched + 1 } : Session σ).await id
      (.first call o)).log (.sent (.task id) o) := issue_of_ok h
  rw [hbegin]
  exact ⟨(hcounts.await _).log trivial, task?_await_self _ id _⟩

/-- One that cannot be sent is the end of its call. -/
theorem begin_of_error {e : SessionError} (h : s.opening call = .error e) (id : TaskId) :
    s.begin id call = (s.reported (.error e)).pursue id call.goal (.error e) := by
  rw [← fail_eq]
  exact issue_of_error h

omit [Storage σ] in
/-- An operation that waits for an answer drives no renewal, and so none ends when it is dropped. -/
theorem undisturbed_abort (hin : s.InOrder []) {t : Task} (ht : s.task? id = some t)
    (hwaits : ∀ want, t ≠ .renewal want) : s.Undisturbed id (s.abort id) := by
  have hdriver (f : Flight) (hf : s.flight = some f) : f.driver ≠ id := by
    rintro rfl
    obtain ⟨want, hwant⟩ := hin.driven f.driver (by simp [driver, hf]) List.not_mem_nil
    exact hwaits want (Option.some.inj (ht.symm.trans hwant))
  have hleaves : s.Undisturbed id (s.dismiss id) := (Undisturbed.refl s).dismiss
  simp only [abort]
  split
  · rename_i f hf
    rw [if_neg (hdriver f hf)]
    exact hleaves
  · exact hleaves

/-- The operation `id` waits for the answer to a request of `call`. -/
theorem answer_of_task {o : Outgoing}
    (ht : s.task? id = some (if again then .replayed call o else .first call o)) (x : Exchange) :
    s.answer id x = s.receive id call again (x.received o s.settings.requestTimeout) := by
  cases again <;> simp only [answer, ht, Bool.false_eq_true, if_true, if_false]

/-- Whatever else happens while an operation waits for an answer, it does nothing. -/
theorem spares_or_aborts (hin : s.InOrder []) {o : Outgoing}
    (ht : s.task? id = some (if again then .replayed call o else .first call o)) {e : Event}
    (he : ∀ x, e ≠ .answer id x) :
    s.Spares id (s.step e) ∨ e = .abort id ∧ s.Undisturbed id (s.step e) := by
  have hwaits (want : Want) : (if again then Task.replayed call o else .first call o) ≠
      .renewal want := by
    cases again <;> rintro ⟨⟩
  rcases spares_or_turned hin (hin.ids_lt id (mem_ids_of_task? ht)) e with hspares | hturned
  · exact .inl hspares
  · generalize hs' : s.step e = s' at hturned ⊢
    cases hturned with
    | @answered x => exact absurd rfl (he x)
    | aborted => exact .inr ⟨rfl, undisturbed_abort hin ht hwaits⟩
    | @granted _ _ want _ _ _ hwant => exact absurd (Option.some.inj (ht.symm.trans hwant)) (hwaits want)

/-- Whatever happened to a session, whether a renewal is in flight or not:

    * a call that begins disturbs nothing: its request is sent, or it comes to the reason why it cannot
      be sent;
    * a request that could not be built disturbs nothing, and its operation is over;
    * while an operation waits for the answer to a request, it does nothing, unless it is dropped, and
      that disturbs nothing;
    * the answer comes to the result of the call, which disturbs nothing, unless it refuses the token of
      a call that needs one. -/
theorem only_expiry_touches (settings : Settings) (store : CredentialStore σ) (events : List Event) :
    let s := (ofStore settings store).run events
    (∀ e id call s₁, s.Begins e id call s₁ →
      (∃ o, s₁.opening call = .ok o ∧ s₁.Undisturbed id (s.step e) ∧
        (s.step e).task? id = some (.first call o)) ∨
      ∃ error, s₁.opening call = .error error ∧
        s₁.ComesTo id call.goal (.error error) (s.step e)) ∧
    (∀ e shape, let s' := s.step (.start (.send (.error e) shape))
      s.Undisturbed s.started s' ∧ s'.task? s.started = none) ∧
    ∀ id call again o,
      s.task? id = some (if again then .replayed call o else .first call o) →
      (∀ e, (∀ x, e ≠ .answer id x) →
        s.Spares id (s.step e) ∨ e = .abort id ∧ s.Undisturbed id (s.step e)) ∧
      ∀ x, (∀ body, x = .answered .unauthorized body →
          again = false ∧ call.request.isPublic = true) →
        s.ComesTo id call.goal (callResult (x.received o s.settings.requestTimeout))
          (s.step (.answer id x)) := by
  intro s
  have hin : s.InOrder [] := inOrder_run (inOrder_ofStore settings store) events
  refine ⟨?_, ?_, ?_⟩
  · intro e id call s₁ hb
    rw [hb.step_eq]
    cases ho : s₁.opening call with
    | ok o =>
      obtain ⟨hsame, ht⟩ := undisturbed_begin ho id
      exact .inl ⟨o, rfl, hsame, ht⟩
    | error error =>
      rw [begin_of_error ho]
      exact .inr ⟨error, rfl, comesTo_pursue id call.goal (.error error) s₁⟩
  · intro e shape s'
    have hopens : s.Undisturbed s.started { s with started := s.started + 1 } :=
      { Undisturbed.refl s with }
    exact ⟨hopens.finish _, task?_finish s.started _ _⟩
  · intro id call again o ht
    refine ⟨fun e he => spares_or_aborts hin ht he, ?_⟩
    intro x hx
    have hreceived : ∀ body, x.received o s.settings.requestTimeout = .ok (.unauthorized body) →
        again = false ∧ call.request.isPublic = true :=
      fun body hbody => hx body (Exchange.eq_of_unauthorized hbody)
    have hstep : s.step (.answer id x) = _ := (answer_of_task ht x).trans (receive_eq hreceived id s)
    rw [hstep]
    exact comesTo_pursue id call.goal _ s

/-- While a renewal is in flight, a public sign-in form is answered that the password is wrong. The user
    is told, and the renewal goes on. -/
theorem only_expiry_touches_public :
    let form : Request := (Request.post "/login" (.object [])).asPublic
    let refused : Exchange := .answered .unauthorized
      (Text.Utf8.encode "\x7b\"error\": \"wrong user name or password\"\x7d")
    let s₀ : Session Memory := ofStore {} ⟨⟨[]⟩, ⟨"a1", "r1"⟩⟩
    let s := s₀.run [.start .renew, .start (.send (.ok form) .any)]
    let s' := s.step (.answer 1 refused)
    s.Undisturbed 1 s' ∧ s'.task? 1 = none ∧ s.flight.map (·.driver) = some 0 ∧
      s'.lifecycle.journal.notices = [.error "wrong user name or password"] := by
  intro form refused s₀ s s'
  let r : Session Memory := s₀.run [.start .renew]
  have hs : s = r.step (.start (.send (.ok form) .any)) :=
    run_concat [.start .renew] (.start (.send (.ok form) .any)) s₀
  have hstarted : r.started = 1 := by decide +kernel
  have hsent : (({ r with started := r.started + 1 } : Session Memory).opening
      ⟨form, .payload .any⟩).isOk = true := by decide +kernel
  -- The request of the form is sent, and so its operation waits for an answer.
  obtain ⟨o, ht⟩ : ∃ o, s.task? 1 = some (.first ⟨form, .payload .any⟩ o) := by
    obtain ⟨hbegins, -, -⟩ :=
      only_expiry_touches {} (⟨⟨[]⟩, ⟨"a1", "r1"⟩⟩ : CredentialStore Memory) [.start .renew]
    rcases hbegins _ _ _ _ (.send form .any) with ⟨o, -, -, ht⟩ | ⟨error, herror, -⟩
    · exact ⟨o, by rw [hs, ← hstarted]; exact ht⟩
    · rw [herror] at hsent
      cases hsent
  obtain ⟨-, -, hcalls⟩ := only_expiry_touches {} (⟨⟨[]⟩, ⟨"a1", "r1"⟩⟩ : CredentialStore Memory)
    [.start .renew, .start (.send (.ok form) .any)]
  obtain ⟨-, hanswers⟩ := hcalls 1 ⟨form, .payload .any⟩ false o ht
  obtain ⟨hsame, hover⟩ := (hanswers refused fun _ _ => ⟨rfl, rfl⟩).inquiry .any rfl
  exact ⟨hsame, hover, by decide +kernel, by decide +kernel⟩

end Session

end ShopClient
