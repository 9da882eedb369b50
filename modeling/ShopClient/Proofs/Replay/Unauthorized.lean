import ShopClient.Proofs.Ledger.Requests

/-!
# Answers that refuse the token

An answer with the status 401 says that the token is not accepted, and its body does not matter. A call
that needs a token asks for a renewal then, and if it was sent again the session is over.

The body has to arrive, though. The status is looked at when the body has been read, so an answer that
is cut off is a failure of the transport whatever its status is, and the call ends with it: no renewal
is asked for, and the session stays.

* `refusal_answer`: what an answer comes to that arrives;
* `comesTo_cutOff`: what one comes to that does not;
* `exists_answer_of_status`: an error with a status was brought by an answer, in any run;
* `unauthorized_answers`: what follows for the status 401.
-/

namespace ShopClient

/-- Only two exchanges come to an error with the status 401: an answer that was cut off, and one that
    refuses the token. -/
theorem Exchange.eq_of_callResult {x : Exchange} {o : Outgoing} {timeout : Nat} {e : SessionError}
    (h : callResult (x.received o timeout) = .error e) (hstatus : e.status? = some .unauthorized) :
    x = .cutOff .unauthorized ∨ ∃ body, x = .answered .unauthorized body := by
  cases x with
  | answered status body =>
    by_cases heq : status = Http.Status.unauthorized
    · exact .inr ⟨body, by rw [heq]⟩
    · rw [received, if_neg heq] at h
      split at h
      · -- The shop refuses the request in an envelope, so there is no status.
        obtain ⟨code, message, rfl⟩ := Envelope.exists_business h
        cases hstatus
      · obtain rfl := Except.error.inj h
        exact absurd (Option.some.inj hstatus) heq
  | cutOff status =>
    obtain rfl := Except.error.inj h
    exact .inl (congrArg _ (Option.some.inj hstatus))
  | _ =>
    obtain rfl := Except.error.inj h
    cases hstatus

/-- The operations that ended in an error, and what it was. -/
def Journal.faults (j : Journal) : List (TaskId × SessionError) :=
  j.results.filterMap fun | (id, .error e) => some (id, e) | _ => none

namespace Session

variable {σ : Type} [Storage σ] {s : Session σ} {id : TaskId} {call : Call} {o : Outgoing}

/-- The operation `id` waits for the answer to a request of `call`. `again` says whether it is the
    second one. -/
def Awaits (id : TaskId) (call : Call) (again : Bool) (o : Outgoing) (s : Session σ) : Prop :=
  s.task? id = some (if again then .replayed call o else .first call o)

/-- The answer refuses the token of a call that needs one: it asks for a renewal, or if it was sent
    again the session is over with it. -/
theorem refusal_answer {again : Bool} (ht : s.Awaits id call again o)
    (hneeds : call.request.isPublic = false) (body : Text.Bytes) :
    let s' := s.step (.answer id (.answered .unauthorized body))
    if again then s.EndsExpired id s'
    else ∃ more, s'.deeds id = s.deeds id ++ .asked id :: more := by
  cases again with
  | true => exact endsExpired_answer ht body
  | false => exact asks_answer ht hneeds body

/-- The answer is cut off, and that is all that its call comes to, whatever the status is. -/
theorem comesTo_cutOff {again : Bool} (ht : s.Awaits id call again o) (status : Http.Status) :
    s.ComesTo id call.goal (.error (transportError (some status) [] (some o.cutOffText)))
      (s.step (.answer id (.cutOff status))) := by
  have hstep : s.step (.answer id (.cutOff status)) = _ :=
    (answer_of_task ht (.cutOff status)).trans (receive_eq (fun _ h => by cases h) id s)
  rw [hstep]
  exact comesTo_pursue id call.goal _ s

/-- In any run, an operation that ended in an error with a status was brought that error by an
    answer. -/
theorem exists_answer_of_status (settings : Settings) (store : CredentialStore σ)
    {events : List Event} {e : SessionError}
    (h : (id, .error e) ∈ ((ofStore settings store).run events).lifecycle.journal.results)
    (hstatus : e.status? ≠ none) : ∃ before event after, events = before ++ event :: after ∧
      ((ofStore settings store).run before).Fails event id e :=
  (isOwn_or_exists_answer settings store h).resolve_left fun hown => hstatus hown.status?_eq

/-- Whatever happened to a session, from its beginning on:

    * when an answer with the status 401 arrives, a call that needs a token asks for a renewal, or if
      it was sent again the session is over with it, whatever the body is;
    * when such an answer is cut off, the call comes to that, and nothing else goes on;
    * an operation ended in an error with the status 401 only if the answer was cut off that it waited
      for, or was the answer to a public request. -/
theorem unauthorized_answers (settings : Settings) (store : CredentialStore σ)
    (events : List Event) :
    let s := (ofStore settings store).run events
    (∀ id call again o, s.Awaits id call again o → call.request.isPublic = false →
      (∀ body, let s' := s.step (.answer id (.answered .unauthorized body))
        if again then s.EndsExpired id s'
        else ∃ more, s'.deeds id = s.deeds id ++ .asked id :: more) ∧
      s.ComesTo id call.goal
        (.error (transportError (some .unauthorized) [] (some o.cutOffText)))
        (s.step (.answer id (.cutOff .unauthorized)))) ∧
    ∀ id e, (id, .error e) ∈ s.lifecycle.journal.results → e.status? = some .unauthorized →
      ∃ before x after call again o, events = before ++ .answer id x :: after ∧
        ((ofStore settings store).run before).Awaits id call again o ∧
        (x = .cutOff .unauthorized ∨ again = false ∧ call.request.isPublic = true ∧
          ∃ body, x = .answered .unauthorized body) := by
  intro s
  constructor
  · intro id call again o ht hneeds
    exact ⟨refusal_answer ht hneeds, comesTo_cutOff ht .unauthorized⟩
  · intro id e he hstatus
    obtain ⟨before, event, after, rfl, d, hd, rfl, hresult, hasks⟩ :=
      exists_answer_of_status settings store he (by simp [hstatus])
    obtain ⟨x, o, rfl, hanswer, ht⟩ := exists_of_delivery? hd
    refine ⟨before, x, after, d.call, d.again, o, rfl, ht, ?_⟩
    rw [hanswer] at hresult
    refine (Exchange.eq_of_callResult hresult hstatus).imp_right ?_
    rintro ⟨body, rfl⟩
    obtain ⟨hagain, hpublic⟩ := hasks body hanswer
    exact ⟨hagain, hpublic, body, rfl⟩

/-- The answer to an order refuses the token, and a renewal is asked for and started. -/
theorem unauthorized_answers_order :
    let order : Request := { method := "POST", path := "/orders" }
    let events : List Event := [.start (.send (.ok order) .any)]
    let s₀ : Session Memory := ofStore {} ⟨⟨[]⟩, ⟨"a1", "r1"⟩⟩
    let s := s₀.run events
    let s' := s.step (.answer 0 (.answered .unauthorized []))
    (∃ more, s'.deeds 0 = s.deeds 0 ++ .asked 0 :: more) ∧ s'.lifecycle.journal.renewals = ["r1"] := by
  intro order events s₀ s s'
  let call : Call := ⟨order, .payload .any⟩
  let s₁ : Session Memory := { s₀ with started := 1 }
  have hbegins : (s₀.run []).Begins (.start (.send (.ok order) .any)) 0 call s₁ := .send order .any
  have hs : s = s₁.begin 0 call := (run_concat [] _ s₀).trans hbegins.step_eq
  have hsent : (s₁.opening call).isOk = true := by decide +kernel
  have hrenewals : s'.lifecycle.journal.renewals = ["r1"] := by decide +kernel
  -- The request of the order is sent, and so its operation waits for an answer.
  obtain ⟨o, ht⟩ : ∃ o, s.task? 0 = some (.first call o) := by
    cases ho : s₁.opening call with
    | ok o =>
      rw [hs]
      exact ⟨o, (undisturbed_begin ho 0).2⟩
    | error e =>
      rw [ho] at hsent
      cases hsent
  clear_value events
  obtain ⟨hanswers, -⟩ :=
    unauthorized_answers {} (⟨⟨[]⟩, ⟨"a1", "r1"⟩⟩ : CredentialStore Memory) events
  obtain ⟨harrives, -⟩ := hanswers 0 call false o ht rfl
  exact ⟨harrives [], hrenewals⟩

/-- The same answer is cut off. The order fails on its way, and no renewal is asked for. -/
theorem cut_off_without_renewal :
    let order : Request := { method := "POST", path := "/orders" }
    let s₀ : Session Memory := ofStore {} ⟨⟨[]⟩, ⟨"a1", "r1"⟩⟩
    let s := s₀.run [.start (.send (.ok order) .any), .answer 0 (.cutOff .unauthorized)]
    order.isPublic = false ∧ s.lifecycle.journal.asked = [] ∧
      s.lifecycle.journal.faults = [(0, .transport (some 401)
        "error decoding response body for url (http://localhost:8000/api/v1/orders)")] := by
  decide +kernel

end Session

end ShopClient
