import ShopClient.Proofs.Ledger.Failures

/-!
# What is counted of requests

A call is counted once, when it is over, by how it ended. Its caller sees the same end, with one
exception: the payload is brought into the expected shape after the call was counted, so one that
cannot be is counted as a success. No call is ever counted as undecodable.

A sign-in that brings tokens is over as a call then, and is counted; the request for the profile that
follows is a call of its own. An operation that merely renews the access token makes no call, and
neither does one whose request could not be built, nor one that asks for the profile without a token.

* `RequestResult.counted`: as what a call is counted, by what its caller sees;
* `Adds`, `Counts`: what is counted while no operation ends, and while some may;
* `counts_step`: each step counts the calls that end in it (`countedWith`);
* `isOwn_or_exists_answer`: the errors that an answer brings, and those that are the client's own;
* `requests_counted`: what follows for any run, also for operations that are dropped.
-/

namespace ShopClient

namespace RequestResult

/-- How a call ended, as its caller sees it. -/
def of : Except SessionError Outcome → RequestResult
  | .ok _ => .ok
  | .error e => e.requestResult

/-- How a call ended, as it is counted. -/
def counted (result : Except SessionError Outcome) : RequestResult :=
  if of result = .decodeError then .ok else of result

/-- The two differ when the payload is not what the caller expects, and only then. -/
theorem counted_eq_of_iff (result : Except SessionError Outcome) :
    counted result = of result ↔ ∀ reason, result ≠ .error (.undecodable reason) := by
  rcases result with (_ | _ | _ | reason | _) | outcome
  case error.undecodable =>
    have hne : RequestResult.ok ≠ .decodeError := by decide
    exact iff_of_false hne fun h => h reason rfl
  all_goals exact iff_of_true rfl (by rintro reason ⟨⟩)

theorem counted_ne_decodeError (result : Except SessionError Outcome) :
    counted result ≠ .decodeError := by
  unfold counted
  split
  · rintro ⟨⟩
  · assumption

end RequestResult

/-! ### Errors of a call -/

/-- The shop refuses a request in an envelope, or not at all. -/
theorem Envelope.exists_business {envelope : Envelope} {e : SessionError}
    (h : envelope.payload = .error e) : ∃ code message, e = .business code message := by
  cases envelope with
  | enveloped code message data =>
    rw [payload] at h
    split at h
    · cases h
    · exact ⟨_, _, (Except.error.inj h).symm⟩
  | raw v => cases h

/-- Nothing that became of the request is behind the error: it could not be sent, or there is no token to
    send it with. -/
inductive SessionError.IsUnanswered : SessionError → Prop
  | abandoned : IsUnanswered (.transport none abandonedMessage)
  | unsendable (u : Url) : IsUnanswered (Outgoing.builderError u)
  | expired : IsUnanswered .sessionExpired
  | invalid (reason : String) : IsUnanswered (.invalidRequest reason)

namespace SessionError

variable {e : SessionError}

/-- The client comes to the error by itself: no exchange fails with it. -/
def IsOwn (e : SessionError) : Prop := e.IsUnanswered ∨ ∃ reason, e = .undecodable reason

theorem IsUnanswered.requestResult_ne (h : e.IsUnanswered) : e.requestResult ≠ .decodeError := by
  cases h <;> rintro ⟨⟩

theorem IsOwn.status?_eq (h : e.IsOwn) : e.status? = none := by
  rcases h with h | ⟨reason, rfl⟩
  · cases h <;> rfl
  · rfl

theorem isUnanswered_of_ofRequest {base : String} {bearer : Option String} {id : Nat} {r : Request}
    (h : Outgoing.ofRequest base bearer id r = .error e) : e.IsUnanswered := by
  have hparts {method : String} {url : Url} {headers : Http.Headers} {body : Option Json.Value}
      (h : Outgoing.ofParts method url headers body = .error e) : e.IsUnanswered := by
    simp only [Outgoing.ofParts] at h
    split at h
    · cases h
    · obtain rfl := Except.error.inj h
      exact .unsendable _
  cases hu : r.url base with
  | error reason =>
    simp only [Outgoing.ofRequest, hu] at h
    obtain rfl := Except.error.inj h
    exact .invalid _
  | ok u =>
    cases bearer with
    | none =>
      simp only [Outgoing.ofRequest, hu] at h
      exact hparts h
    | some token =>
      by_cases hv : Http.Header.isValue (Http.Header.bearer token) = true
      · simp only [Outgoing.ofRequest, hu, if_pos hv] at h
        exact hparts h
      · simp only [Outgoing.ofRequest, hu, if_neg hv] at h
        obtain rfl := Except.error.inj h
        exact .invalid _

theorem isUnanswered_of_isRenewalFailure (h : Journal.IsRenewalFailure e) : e.IsUnanswered := by
  rcases h with rfl | rfl
  · exact .expired
  · exact .abandoned

/-- What comes back is an error of the transport or of the shop. -/
theorem requestResult_ne_of_callResult {x : Exchange} {o : Outgoing} {timeout : Nat}
    (h : callResult (x.received o timeout) = .error e) : e.requestResult ≠ .decodeError := by
  cases x with
  | answered status body =>
    rw [Exchange.received] at h
    split at h
    · obtain rfl := Except.error.inj h
      rintro ⟨⟩
    · split at h
      · obtain ⟨code, message, rfl⟩ := Envelope.exists_business h
        rintro ⟨⟩
      · obtain rfl := Except.error.inj h
        rintro ⟨⟩
  | _ =>
    obtain rfl := Except.error.inj h
    rintro ⟨⟩

end SessionError

/-! ### Scores of a journal -/

namespace Journal

/-- As what the calls were counted. -/
def requestResults (j : Journal) : List RequestResult :=
  j.filterMap fun | .counted (.request result) => some result | _ => none

@[simp] theorem requestResults_append (j k : Journal) :
    requestResults (j ++ k) = requestResults j ++ requestResults k :=
  List.filterMap_append

/-- After those that were counted `ahead`, the calls that ended are counted in that order; operations
    that merely renew are left out. All errors that are not the client's own are among `errs`. -/
structure Scores (mere : TaskId → Bool) (errs : TaskId → SessionError → Prop)
    (ahead : List RequestResult) (j : Journal) : Prop where
  requests : j.requestResults =
    ahead ++ (j.results.filter (!mere ·.1)).map (RequestResult.counted ·.2)
  errors : ∀ i e, (i, .error e) ∈ j.results → e.IsOwn ∨ errs i e

variable {mere : TaskId → Bool} {errs : TaskId → SessionError → Prop} {ahead : List RequestResult}
  {j k : Journal}

theorem Scores.append (h : j.Scores mere errs ahead) (h' : k.Scores mere errs []) :
    Scores mere errs ahead (j ++ k) where
  requests := by
    rw [requestResults_append, results_append, h.requests, h'.requests, List.filter_append,
      List.map_append, List.nil_append, List.append_assoc]
  errors i e he := by
    rw [results_append, List.mem_append] at he
    exact he.elim (h.errors i e) (h'.errors i e)

end Journal

namespace Session

open Journal

variable {σ : Type} {s s₁ s' : Session σ} {mere : TaskId → Bool}
  {errs : TaskId → SessionError → Prop} {rs rs' ahead : List RequestResult} {id : TaskId}

/-- The calls that are counted between `s` and `s'` are counted as `rs`, and no operation ends. -/
def Adds (rs : List RequestResult) (s s' : Session σ) : Prop :=
  ∃ news, s'.lifecycle.journal = s.lifecycle.journal ++ news ∧ news.requestResults = rs ∧
    news.results = []

/-- Between `s` and `s'` each call that ends is counted, after those that are counted `ahead`. -/
def Counts (mere : TaskId → Bool) (errs : TaskId → SessionError → Prop) (ahead : List RequestResult)
    (s s' : Session σ) : Prop :=
  ∃ news, s'.lifecycle.journal = s.lifecycle.journal ++ news ∧ news.Scores mere errs ahead

theorem adds_of_eq (h : s'.lifecycle.journal = s.lifecycle.journal) : Adds [] s s' :=
  ⟨[], by rw [h, List.append_nil], rfl, rfl⟩

theorem Adds.trans (h : Adds rs s s₁) (h' : Adds rs' s₁ s') :
    Adds (rs ++ rs') s s' := by
  obtain ⟨news, hj, hc, hr⟩ := h
  obtain ⟨news', hj', hc', hr'⟩ := h'
  refine ⟨news ++ news', by rw [hj', hj, List.append_assoc], ?_, ?_⟩
  · rw [requestResults_append, hc, hc']
  · rw [results_append, hr, hr', List.append_nil]

/-- Nothing is counted in what is done next. -/
theorem Adds.then (h : Adds rs s s₁) (h' : Adds [] s₁ s') : Adds rs s s' :=
  List.append_nil rs ▸ h.trans h'

theorem Adds.log (h : Adds rs s s₁) {e : Entry} (hc : requestResults [e] = [])
    (hr : Journal.results [e] = []) : Adds rs s (s₁.log e) :=
  h.then ⟨[e], rfl, hc, hr⟩

theorem adds_count (result : RequestResult) (s : Session σ) :
    Adds [result] s (s.count (.request result)) :=
  ⟨[.counted (.request result)], rfl, rfl, rfl⟩

theorem Adds.counts (h : Adds rs s s') : Counts mere errs rs s s' := by
  obtain ⟨news, hj, hc, hr⟩ := h
  refine ⟨news, hj, ?_, ?_⟩
  · rw [hc, hr, List.filter_nil, List.map_nil, List.append_nil]
  · rw [hr]
    rintro i e ⟨⟩

theorem Counts.trans (h : Counts mere errs ahead s s₁) (h' : Counts mere errs [] s₁ s') :
    Counts mere errs ahead s s' := by
  obtain ⟨news, hj, hn⟩ := h
  obtain ⟨news', hj', hn'⟩ := h'
  exact ⟨news ++ news', by rw [hj', hj, List.append_assoc], hn.append hn'⟩

/-- An operation ends, and its call was counted, if it made one. -/
theorem Adds.ends {result : Except SessionError Outcome} (h : Adds rs s s₁)
    (hrs : rs = ([(id, result)].filter (!mere ·.1)).map (RequestResult.counted ·.2))
    (herrs : ∀ e, result = .error e → e.IsOwn ∨ errs id e) :
    Counts mere errs [] s (s₁.finish id result) := by
  obtain ⟨news, hj, hc, hr⟩ := h
  have hresults : Journal.results (news ++ [.finished id result]) = [(id, result)] := by
    rw [results_append, hr, List.nil_append, results_singleton]
  refine ⟨news ++ [.finished id result], ?_, ?_, ?_⟩
  · rw [← List.append_assoc, ← hj]
    rfl
  · rw [hresults, requestResults_append, hc, hrs, List.nil_append]
    exact List.append_nil _
  · intro i e he
    rw [hresults, List.mem_singleton, Prod.mk.injEq] at he
    obtain ⟨rfl, he⟩ := he
    exact herrs e he.symm

theorem Adds.finish {result : Except SessionError Outcome}
    (h : Adds [RequestResult.counted result] s s₁) (hid : mere id = false)
    (herrs : ∀ e, result = .error e → e.IsOwn ∨ errs id e) :
    Counts mere errs [] s (s₁.finish id result) :=
  h.ends (by simp [hid]) herrs

/-- An operation ends that merely renewed the access token. -/
theorem Adds.finish_mere {result : Except SessionError Outcome} (h : Adds [] s s₁)
    (hid : mere id = true) (herrs : ∀ e, result = .error e → e.IsOwn) :
    Counts mere errs [] s (s₁.finish id result) :=
  h.ends (by simp [hid]) fun e he => .inl (herrs e he)

variable [Storage σ]

theorem adds_logout (s : Session σ) : Adds [] s (s.update (·.logout.2)) := by
  refine ⟨_, Lifecycle.journal_logout s.lifecycle, ?_, ?_⟩ <;> split <;> rfl

theorem adds_expire (s : Session σ) : Adds [] s (s.update (·.expire)) :=
  (adds_logout s).log rfl rfl

/-! ### Calls -/

omit [Storage σ] in
theorem adds_reported (e : SessionError) (s : Session σ) :
    Adds [e.requestResult] s (s.reported (.error e)) := by
  refine ⟨_, journal_reported e s, ?_, ?_⟩ <;> cases e <;> rfl

theorem adds_whenFailed (goal : Goal) (s : Session σ) : Adds [] s (s.update goal.whenFailed) := by
  obtain ⟨bye, hbye, rfl | rfl⟩ := Lifecycle.journal_whenFailed goal s.lifecycle
  · exact ⟨_, hbye, rfl, rfl⟩
  · exact ⟨_, hbye, rfl, rfl⟩

theorem counts_fail (hid : mere id = false) {e : SessionError} (he : e.requestResult ≠ .decodeError)
    (herrs : e.IsOwn ∨ errs id e) (call : Call) (s : Session σ) :
    Counts mere errs [] s (s.fail id call e) := by
  have hcounted : RequestResult.counted (.error e) = e.requestResult := if_neg he
  have hfail : s.fail id call e =
      ((s.reported (.error e)).update call.goal.whenFailed).finish id (.error e) :=
    fail_eq id call e s
  have hadds := (adds_reported e s).then (adds_whenFailed call.goal _)
  rw [hfail]
  refine Adds.finish (hcounted ▸ hadds) hid fun e' he' => ?_
  obtain rfl := Except.error.inj he'
  exact herrs

theorem counts_fail_unanswered (hid : mere id = false) {e : SessionError} (he : e.IsUnanswered)
    (call : Call) (s : Session σ) : Counts mere errs [] s (s.fail id call e) :=
  counts_fail hid he.requestResult_ne (.inl (.inl he)) call s

theorem counts_issue (hid : mere id = false) (call : Call) (again : Bool) (bearer : Option String)
    (s : Session σ) : Counts mere errs [] s (s.issue id call again bearer) := by
  cases ho : Outgoing.ofRequest s.settings.baseUrl bearer s.dispatched call.request with
  | error e =>
    rw [issue_of_error ho]
    exact counts_fail_unanswered hid (SessionError.isUnanswered_of_ofRequest ho) call s
  | ok o =>
    have hsent : Adds [] s { s with dispatched := s.dispatched + 1 } := adds_of_eq rfl
    rw [issue_of_ok ho]
    exact (hsent.log (e := .sent (.task id) o) rfl rfl).counts

/-- A payload ends its call, and is counted as a success whatever it holds. -/
theorem counts_succeed (hid : mere id = false) {call : Call} {payload : Json.Value}
    (h : call.goal = .signIn → tokens? payload = none) (s : Session σ) :
    Counts mere errs [] s (s.succeed id call payload) := by
  have hcount : Adds [.ok] s (s.count (.request .ok)) := adds_count .ok s
  have hprofile (p : Profile) :
      Adds [.ok] s ((s.count (.request .ok)).update (·.setProfile (some p))) :=
    hcount.then (adds_of_eq rfl)
  have hyields {s₁ : Session σ} (h : Adds [.ok] s s₁) (outcome : Outcome) :
      Counts mere errs [] s (s₁.finish id (.ok outcome)) := by
    have hcounted : Adds [RequestResult.counted (.ok outcome)] s s₁ := h
    exact hcounted.finish hid (by rintro e ⟨⟩)
  have hrejects {s₁ : Session σ} (h : Adds [.ok] s s₁) (m : Json.Mismatch) :
      Counts mere errs [] s (s₁.reject id m) := by
    have hcounted : Adds [RequestResult.counted (.error (.undecodable m.message))] s s₁ := h
    refine hcounted.finish hid fun e he => ?_
    obtain rfl := Except.error.inj he
    exact .inl (.inr ⟨_, rfl⟩)
  simp only [succeed]
  split
  · split
    · exact hyields hcount _
    · exact hrejects hcount _
  · rename_i hgoal
    split
    · rename_i reply hreply
      split
      · exact hyields hcount _
      · rename_i haccess
        cases (h hgoal).symm.trans (tokens?_eq_some_iff.2 ⟨hreply, haccess⟩)
    · exact hrejects hcount _
  · split
    · exact hyields (hprofile _) _
    · exact hrejects (hcount.then (adds_logout _)) _
  · split
    · exact hyields (hprofile _) _
    · exact hrejects hcount _

/-- A sign-in that brings tokens is counted at once. What ends its operation is the call for the
    profile. -/
theorem counts_signIn (hid : mere id = false) {call : Call} {payload : Json.Value}
    {reply : SignInReply} (hgoal : call.goal = .signIn) (ht : tokens? payload = some reply)
    (s : Session σ) : Counts mere errs [.ok] s (s.succeed id call payload) := by
  have hsigned : Adds [.ok] s (s.signedIn reply) := (adds_count .ok s).then (adds_of_eq rfl)
  rw [succeed_signIn hgoal ht]
  exact hsigned.counts.trans (counts_issue hid profileCall false _ _)

/-! ### Renewals -/

theorem counts_grant {want : Want} (hid : want.isMere = mere id) {granted : Granted}
    (hg : ∀ e, granted = .error e → IsRenewalFailure e) (s : Session σ) :
    Counts mere errs [] s (s.grant id want granted) := by
  have hlog : Adds [] s (s.log (.granted id granted)) := (adds_of_eq rfl).log rfl rfl
  have hmere (hid : mere id = true) (f : String → Outcome) :
      Counts mere errs [] s ((s.log (.granted id granted)).finish id (granted.map f)) := by
    refine hlog.finish_mere hid fun e he => ?_
    cases granted with
    | ok token => cases he
    | error e' =>
      obtain rfl := Except.error.inj he
      exact .inl (SessionError.isUnanswered_of_isRenewalFailure (hg _ rfl))
  rcases want with call | _ | _
  · have hid : mere id = false := hid.symm
    cases granted with
    | ok token =>
      have hcount : Adds [] s ((s.log (.granted id (.ok token))).count .replay) := hlog.log rfl rfl
      exact hcount.counts.trans (counts_issue hid call true (some token) _)
    | error e =>
      have he := SessionError.isUnanswered_of_isRenewalFailure (hg e rfl)
      exact hlog.counts.trans (counts_fail_unanswered hid he call _)
  · exact hmere hid.symm .token
  · exact hmere hid.symm fun _ => .renewed true

theorem counts_renewThen {want : Want} (hid : want.isMere = mere id) (s : Session σ) :
    Counts mere errs [] s (s.renewThen id want) := by
  have hasked : Adds [] s (s.log (.asked id)) := (adds_of_eq rfl).log rfl rfl
  cases hf : s.flight with
  | some f =>
    rw [renewThen_of_flight hf]
    exact (hasked.then (adds_of_eq rfl)).counts
  | none =>
    by_cases hr : s.lifecycle.store.current.refresh = ""
    · have hexpired : ∀ e, (Except.error .sessionExpired : Granted) = .error e →
          IsRenewalFailure e := fun e he => .inl (Except.error.inj he).symm
      have hrefuses : Adds [] s (((s.log (.asked id)).count (.renewal .noRefreshToken)).update
          (·.expire)) := (hasked.log rfl rfl).then (adds_expire _)
      rw [renewThen_of_refresh_eq hf hr]
      exact hrefuses.counts.trans (counts_grant hid hexpired _)
    · let flight : Flight := {
        driver := id, refresh := s.lifecycle.store.current.refresh, epoch := s.lifecycle.epoch }
      have hdrives : Adds [] s ({ s.log (.asked id) with flight := some flight }.await id
          (.renewal want)) := hasked.then (adds_of_eq rfl)
      have hlaunched : Adds [] s (s.launched id want) := hdrives.log rfl rfl
      rw [renewThen_of_idle hf hr]
      split
      · exact (hlaunched.log rfl rfl).counts
      · exact hlaunched.counts

theorem counts_goOn (hs : s.Sorts mere) (id : TaskId) {granted : Granted}
    (hg : ∀ e, granted = .error e → IsRenewalFailure e) :
    Counts mere errs [] s (s.goOn id granted) := by
  unfold goOn
  split
  · rename_i want ht
    exact counts_grant (hs id _ ht) hg s
  · exact (adds_of_eq rfl).counts

theorem adds_settled (f : Flight) (result : Except RenewalError Renewed) (s : Session σ) :
    Adds [] s (s.settled f result) := by
  have hlands {s₁ : Session σ} {r : RenewalResult} (h : Adds [] s s₁)
      (heq : (s.settled f result).lifecycle = (s₁.count (.renewal r)).lifecycle) :
      Adds [] s (s.settled f result) :=
    (h.log (e := .counted (.renewal r)) rfl rfl).then (adds_of_eq (congrArg _ heq))
  cases result with
  | ok renewed =>
    by_cases hepoch : s.lifecycle.epoch = f.epoch
    · have hstores : Adds [] s (s.update (·.storeCredentials renewed.access renewed.refresh)) :=
        adds_of_eq rfl
      exact hlands hstores (settled_stored hepoch renewed).2
    · exact hlands (adds_of_eq (s := s) rfl) (settled_discarded hepoch renewed).2
  | error error => exact hlands (adds_expire s) (settled_failed f error s).2

theorem counts_resolve (hs : s.Sorts mere) (result : Except RenewalError Renewed) :
    Counts mere errs [] s (s.resolve result) := by
  cases hf : s.flight with
  | none =>
    simp only [resolve, hf]
    exact (adds_of_eq rfl).counts
  | some f =>
    have hsorts : (s.settled f result).Sorts mere := (enters_settled f result s).sorts hs
    rw [resolve_of_flight hf]
    exact (adds_settled f result s).counts.trans
      (counts_goOn hsorts f.driver fun e => error_of_verdict)

theorem counts_resume (hs : s.Sorts mere) (hh : s.HandsOut) : Counts mere errs [] s s.resume := by
  unfold resume
  split
  · exact (adds_of_eq rfl).counts
  · rename_i id granted rest hhanded
    have hpops : Adds [] s { s with handed := rest } := adds_of_eq rfl
    refine hpops.counts.trans (counts_goOn (s := { s with handed := rest }) hs id ?_)
    rintro e rfl
    exact hh id e (hhanded ▸ List.mem_cons_self)

omit [Storage σ] in
/-- Nothing is counted of an operation that is dropped. -/
theorem adds_abort (id : TaskId) (s : Session σ) : Adds [] s (s.abort id) := by
  have hleaves : Adds [] s (s.dismiss id) := adds_of_eq rfl
  simp only [abort]
  split
  · split
    · exact (hleaves.log (e := .counted (.renewal .abandoned)) rfl rfl).then (adds_of_eq rfl)
    · exact hleaves
  · exact hleaves

/-! ### Steps -/

/-- With `e` an operation is started that is over without a call: its request could not be built, or
    there is no access token to ask for the profile with. -/
def isWithoutCall (s : Session σ) : Event → Bool
  | .start (.send (.error _) _) => true
  | .start .fetchProfile => !s.lifecycle.store.current.hasAccess
  | _ => false

/-- The answer that `e` brings to the operation `i` is this failure, and its call does not ask for a
    renewal because of it. -/
def Fails (s : Session σ) (e : Event) (i : TaskId) (error : SessionError) : Prop :=
  ∃ d, s.delivery? e = some d ∧ d.id = i ∧ callResult d.answer = .error error ∧
    ∀ body, d.answer = .ok (.unauthorized body) → d.again = false ∧ d.call.request.isPublic = true

/-- The call of a sign-in to which `e` brings tokens, as it is counted. The operation goes on. -/
def passing (s : Session σ) (e : Event) : List RequestResult := (s.signIn? e).toList.map fun _ => .ok

omit [Storage σ] in
theorem exists_of_delivery? {e : Event} {d : Delivery} (h : s.delivery? e = some d) :
    ∃ x o, e = .answer d.id x ∧ d.answer = x.received o s.settings.requestTimeout ∧
      s.task? d.id = some (if d.again then .replayed d.call o else .first d.call o) := by
  cases e with
  | answer id x =>
    rw [delivery?] at h
    split at h
    · rename_i o ht
      obtain rfl := Option.some.inj h
      exact ⟨x, o, rfl, rfl, ht⟩
    · rename_i o ht
      obtain rfl := Option.some.inj h
      exact ⟨x, o, rfl, rfl, ht⟩
    · cases h
  | _ => cases h

omit [Storage σ] in
theorem passing_of_none {e : Event} (h : s.signIn? e = none) : s.passing e = [] := by
  rw [passing, h]
  rfl

omit [Storage σ] in
/-- Only the answer to a sign-in brings tokens. -/
theorem passing_of_delivery? {e : Event} {d : Delivery} (hd : s.delivery? e = some d)
    (h : d.call.goal = .signIn → (payload? d.answer).bind tokens? = none) : s.passing e = [] := by
  refine passing_of_none ?_
  by_cases hgoal : d.call.goal = .signIn
  · rw [signIn?_of_delivery? hd hgoal, h hgoal]
  · obtain ⟨id, ⟨request, goal⟩, again, answer⟩ := d
    cases goal with
    | signIn => exact absurd rfl hgoal
    | _ => rw [signIn?, hd]

theorem counts_delivery (hs : s.Sorts mere) {e : Event} {d : Delivery}
    (hd : s.delivery? e = some d) : Counts mere (s.Fails e) (s.passing e) s (s.step e) := by
  obtain ⟨x, o, -, hanswer, ht⟩ := exists_of_delivery? hd
  have hid : mere d.id = false := by
    rw [← hs d.id _ ht]
    split <;> rfl
  have hfails {error : SessionError} (herror : callResult d.answer = .error error)
      (hasks : ∀ body, d.answer = .ok (.unauthorized body) →
        d.again = false ∧ d.call.request.isPublic = true) :
      Counts mere (s.Fails e) [] s (s.fail d.id d.call error) :=
    counts_fail hid (SessionError.requestResult_ne_of_callResult (hanswer ▸ herror))
      (.inr ⟨d, hd, rfl, herror, hasks⟩) d.call s
  have hnone (h : payload? d.answer = none) : s.passing e = [] :=
    passing_of_delivery? hd fun _ => by rw [h, Option.bind_none]
  rw [(step_of_delivery? hd).1]
  cases hreceived : d.answer with
  | error error =>
    rw [hreceived] at hfails hnone
    rw [hnone rfl]
    exact hfails rfl fun _ h => by cases h
  | ok received =>
    rw [hreceived] at hfails hnone
    cases received with
    | body body =>
      cases hp : (Envelope.ofBytes body).payload with
      | error error =>
        have hpayload : payload? (.ok (.body body)) = none := by rw [payload?, hp]; rfl
        simp only [receive, hp]
        rw [hnone hpayload]
        exact hfails hp fun _ h => by cases h
      | ok payload =>
        have hpayload : payload? d.answer = some payload := by
          rw [hreceived, payload?, hp]
          rfl
        simp only [receive, hp]
        -- What matters is whether somebody is signed in by the payload.
        by_cases hsigns : d.call.goal = .signIn ∧ (tokens? payload).isSome
        · obtain ⟨hgoal, htokens⟩ := hsigns
          obtain ⟨reply, htokens⟩ := Option.isSome_iff_exists.1 htokens
          have hsignIn : s.signIn? e = some reply := by
            rw [signIn?_of_delivery? hd hgoal, hpayload, Option.bind_some, htokens]
          rw [passing, hsignIn]
          exact counts_signIn hid hgoal htokens s
        · have htokens (hgoal : d.call.goal = .signIn) : tokens? payload = none := by
            rw [← Option.not_isSome_iff_eq_none]
            exact fun h => hsigns ⟨hgoal, h⟩
          rw [passing_of_delivery? hd fun hgoal => by
            rw [hpayload, Option.bind_some, htokens hgoal]]
          exact counts_succeed hid htokens s
    | unauthorized body =>
      rw [hnone rfl]
      cases hagain : d.again with
      | true =>
        exact (adds_expire s).counts.trans
          (counts_fail_unanswered hid .expired d.call _)
      | false =>
        simp only [receive, Bool.false_eq_true, if_false]
        split
        · rename_i hpublic
          exact hfails rfl fun _ _ => ⟨hagain, hpublic⟩
        · have hwant : (Want.replay d.call).isMere = mere d.id := hid.symm
          exact counts_renewThen hwant s

theorem counts_start {operation : Operation} (hid : mere s.started = operation.isMere)
    (hcall : s.isWithoutCall (.start operation) = false) :
    Counts mere errs [] s (s.start operation) := by
  have hopens : Counts mere errs [] s { s with started := s.started + 1 } := (adds_of_eq rfl).counts
  have hbegins (hid : mere s.started = false) (call : Call) :
      Counts mere errs [] s (({ s with started := s.started + 1 } : Session σ).begin s.started call) :=
    hopens.trans (counts_issue hid call false _ _)
  cases operation with
  | send request shape =>
    cases request with
    | ok request => exact hbegins hid _
    | error e => cases hcall
  | signIn c => exact hbegins hid _
  | register c => exact hbegins hid _
  | fetchProfile =>
    have haccess : s.lifecycle.store.current.hasAccess = true := by
      simpa [isWithoutCall] using hcall
    simp only [start, fetchProfile, if_pos haccess]
    exact hbegins hid _
  | changeProfile change => exact hbegins hid _
  | renewNow =>
    have hwant : Want.acknowledgement.isMere = mere s.started := hid.symm
    simp only [start]
    split
    · exact hopens.trans (counts_renewThen hwant _)
    · exact (adds_of_eq rfl).finish_mere hid fun e he => by cases he
  | renew =>
    have hwant : Want.token.isMere = mere s.started := hid.symm
    exact hopens.trans (counts_renewThen hwant _)

/-- What is over without a call is not counted. -/
theorem step_of_isWithoutCall {e : Event} (h : s.isWithoutCall e = true) :
    ∃ result, s.step e =
        ({ s with started := s.started + 1 } : Session σ).finish s.started result ∧
      ∀ error, result = .error error → error.IsOwn := by
  unfold isWithoutCall at h
  split at h
  · rename_i reason _
    refine ⟨.error (.invalidRequest reason.message), rfl, fun error herror => ?_⟩
    rw [← Except.error.inj herror]
    exact .inl (.invalid _)
  · have haccess : s.lifecycle.store.current.hasAccess = false := by simpa using h
    exact ⟨.ok (.profile none), if_neg (by simp [haccess]), by rintro error ⟨⟩⟩
  · cases h

/-- Each step counts the calls that end in it. -/
theorem counts_step (h : s.Sound mere) {e : Event}
    (hstart : ∀ operation, e = .start operation → mere s.started = operation.isMere)
    (hcall : s.isWithoutCall e = false) : Counts mere (s.Fails e) (s.passing e) s (s.step e) := by
  cases e with
  | start operation => exact counts_start (hstart operation rfl) hcall
  | answer id x =>
    cases hd : s.delivery? (.answer id x) with
    | some d => exact counts_delivery h.sorts hd
    | none =>
      have hsignIn : s.signIn? (.answer id x) = none := by rw [signIn?, hd]
      rw [passing_of_none hsignIn, step, delivery?_answer hd]
      exact (adds_of_eq rfl).counts
  | answerRenewal x =>
    obtain ⟨result, heq⟩ := exists_answerRenewal_eq x s
    rw [step, heq]
    exact counts_resolve h.sorts result
  | resolve result => exact counts_resolve h.sorts result
  | resume => exact counts_resume h.sorts h.handsOut
  | abort id => exact (adds_abort id s).counts
  | reset =>
    simp only [step, reset]
    split <;> exact (adds_of_eq rfl).counts
  | act action =>
    cases action with
    | storeRenewed epoch renewed =>
      exact (adds_of_eq (s.lifecycle.journal_storeRenewed epoch renewed)).counts
    | logout => exact (adds_logout s).counts
    | expire => exact (adds_expire s).counts
    | notify message =>
      exact Adds.counts (Adds.log (e := .told (.error message)) (adds_of_eq (s := s) rfl) rfl rfl)
    | _ => exact (adds_of_eq rfl).counts

omit [Storage σ] in
theorem mem_completed_iff : id ∈ s.completed ↔ ∃ result, .finished id result ∈ s.deeds id := by
  simp only [completed, Journal.results, deeds, List.mem_map, List.mem_filterMap, List.mem_filter]
  constructor
  · rintro ⟨⟨i, result⟩, ⟨e, he, heq⟩, rfl⟩
    cases e with
    | finished i' result' =>
      obtain ⟨rfl, rfl⟩ := Prod.mk.inj (Option.some.inj heq)
      exact ⟨_, he, by simp [Entry.isOf]⟩
    | _ => cases heq
  · rintro ⟨result, he, -⟩
    exact ⟨(id, result), ⟨_, he, rfl⟩, rfl⟩

/-- An operation that is dropped never ends. -/
theorem not_mem_completed_abort (hin : s.InOrder []) (hends : s.EndsOnce) (hid : id ∈ s.ids)
    (later : List Event) : id ∉ ((s.step (.abort id)).run later).completed := by
  rw [mem_completed_iff, deeds_run_abort hin (hin.ids_lt id hid), ← mem_completed_iff]
  exact fun hlast => hends.gone id hlast hid

/-! ### Runs -/

omit [Storage σ] in
theorem Knows.of_append {events rest : List Event} (h : s.Knows mere (events ++ rest)) :
    s.Knows mere events := by
  intro k operation hk
  refine h k operation ?_
  rw [operations, List.filterMap_append]
  exact (List.getElem?_append_left (List.getElem?_eq_some_iff.1 hk).1).trans hk

/-- What is kept on the way is kept in the course of some first events. -/
theorem Sound.run {events rest : List Event} (h : s.Sound mere)
    (hknows : s.Knows mere (events ++ rest)) :
    (s.run events).Sound mere ∧ (s.run events).Knows mere rest := by
  induction events generalizing s with
  | nil => exact ⟨h, hknows⟩
  | cons e events ih => exact ih (h.step hknows.of_append) (hknows.step h.inOrder)

/-- As what the calls are counted that end with `e`, when the operations end as `results` tells. -/
def countedWith (mere : TaskId → Bool) (e : Event)
    (results : List (TaskId × Except SessionError Outcome)) (s : Session σ) : List RequestResult :=
  if s.isWithoutCall e then []
  else s.passing e ++ (results.filter (!mere ·.1)).map (RequestResult.counted ·.2)

omit [Storage σ] in
theorem decodeError_not_mem_countedWith (mere : TaskId → Bool) (e : Event)
    (results : List (TaskId × Except SessionError Outcome)) (s : Session σ) :
    .decodeError ∉ s.countedWith mere e results := by
  unfold countedWith
  split
  · exact List.not_mem_nil
  · rw [List.mem_append, not_or]
    constructor
    · intro h
      obtain ⟨_, -, ⟨⟩⟩ := List.mem_map.1 h
    · intro h
      obtain ⟨r, -, hr⟩ := List.mem_map.1 h
      exact RequestResult.counted_ne_decodeError r.2 hr

/-- In any run, a step counts the calls that end in it, and an operation that ends in an error was brought
    it by an answer, unless the error is the client's own. -/
theorem scores_step (settings : Settings) (store : CredentialStore σ) (events : List Event)
    (e : Event) : let s := (ofStore settings store).run events
    ∃ news, (s.step e).lifecycle.journal = s.lifecycle.journal ++ news ∧
      news.requestResults = s.countedWith (merely (events ++ [e])) e news.results ∧
      ∀ i error, (i, .error error) ∈ news.results → error.IsOwn ∨ s.Fails e i error := by
  intro s
  unfold countedWith
  -- An operation that makes no call ends when it starts, and is not counted then.
  cases hcall : s.isWithoutCall e with
  | false =>
    obtain ⟨hsound, hknows⟩ := (sound_ofStore settings store).run
      (knows_ofStore settings store (events ++ [e]))
    obtain ⟨news, hj, hscores⟩ := counts_step hsound (fun _ he => hknows.start he) hcall
    exact ⟨news, hj, hscores.requests, hscores.errors⟩
  | true =>
    obtain ⟨result, hresult, herror⟩ := step_of_isWithoutCall hcall
    rw [hresult]
    refine ⟨[.finished s.started result], rfl, rfl, fun i error hi => ?_⟩
    rw [results_singleton, List.mem_singleton, Prod.mk.injEq] at hi
    exact .inl (herror error hi.2.symm)

/-- In any run, an operation that ended in an error was brought it by an answer, unless the error is the
    client's own. -/
theorem isOwn_or_exists_answer (settings : Settings) (store : CredentialStore σ) {events : List Event}
    {e : SessionError}
    (h : (id, .error e) ∈ ((ofStore settings store).run events).lifecycle.journal.results) :
    e.IsOwn ∨ ∃ before event after, events = before ++ event :: after ∧
      ((ofStore settings store).run before).Fails event id e := by
  induction events using List.reverseRecOn with
  | nil => cases h
  | append_singleton events event ih =>
    obtain ⟨news, hj, -, hnews⟩ := scores_step settings store events event
    rw [run_concat, hj, Journal.results_append, List.mem_append] at h
    rcases h with h | h
    · refine (ih h).imp_right ?_
      rintro ⟨before, event', after, rfl, hfails⟩
      exact ⟨before, event', after ++ [event], by simp, hfails⟩
    · exact (hnews id e h).imp_right fun hfails => ⟨events, event, [], rfl, hfails⟩

theorem decodeError_not_mem_run (settings : Settings) (store : CredentialStore σ)
    (events : List Event) :
    .decodeError ∉ ((ofStore settings store).run events).lifecycle.journal.requestResults := by
  induction events using List.reverseRecOn with
  | nil => exact List.not_mem_nil
  | append_singleton events e ih =>
    obtain ⟨news, hj, hcounted, -⟩ := scores_step settings store events e
    rw [run_concat, hj, requestResults_append, hcounted, List.mem_append, not_or]
    exact ⟨ih, decodeError_not_mem_countedWith _ e _ _⟩

/-- Whatever happened to a session, from its beginning on:

    * no operation ended twice;
    * whatever happens next, the calls that end are counted in that order, each once, and nothing else
      is counted of requests; what is counted is what the caller sees, unless the payload is not what
      the caller expects, and never otherwise;
    * no call was counted as one whose payload is not what its caller expects;
    * of an operation that is dropped nothing is counted, then or later, as it never ends. -/
theorem requests_counted (settings : Settings) (store : CredentialStore σ) (events : List Event) :
    let s := (ofStore settings store).run events
    s.completed.Nodup ∧
    (∀ e, ∃ news, (s.step e).lifecycle.journal = s.lifecycle.journal ++ news ∧
      news.requestResults = s.countedWith (merely (events ++ [e])) e news.results ∧
      ∀ r ∈ news.results, RequestResult.counted r.2 = RequestResult.of r.2 ↔
        ∀ reason, r.2 ≠ .error (.undecodable reason)) ∧
    .decodeError ∉ s.lifecycle.journal.requestResults ∧
    ∀ id ∈ s.ids, let s' := s.step (.abort id)
      s'.lifecycle.journal.requestResults = s.lifecycle.journal.requestResults ∧
        ∀ later, id ∉ (s'.run later).completed := by
  intro s
  have hin : s.InOrder [] := inOrder_run (inOrder_ofStore settings store) events
  have hends : s.EndsOnce :=
    (endsOnce_ofStore settings store).run (inOrder_ofStore settings store) events
  refine ⟨hends.nodup, fun e => ?_, decodeError_not_mem_run settings store events,
    fun id hid => ⟨?_, not_mem_completed_abort hin hends hid⟩⟩
  · obtain ⟨news, hj, hcounted, -⟩ := scores_step settings store events e
    exact ⟨news, hj, hcounted, fun r _ => RequestResult.counted_eq_of_iff r.2⟩
  · obtain ⟨news, hj, hcounts, -⟩ := adds_abort id s
    rw [step, hj, requestResults_append, hcounts, List.append_nil]

/-- An order is on its way and is dropped. Whatever happens then, it is not counted. -/
theorem requests_counted_dropped :
    let order : Request := { method := "POST", path := "/orders" }
    let events : List Event := [.start (.send (.ok order) .any)]
    let s₀ : Session Memory := ofStore {} ⟨⟨[]⟩, ⟨"a1", "r1"⟩⟩
    let s' := (s₀.run events).step (.abort 0)
    s'.lifecycle.journal.requestResults = [] ∧ ∀ later, 0 ∉ (s'.run later).completed := by
  intro order events s₀ s'
  have hid : 0 ∈ (s₀.run events).ids := by decide +kernel
  have hnone : (s₀.run events).lifecycle.journal.requestResults = [] := by decide +kernel
  -- From here on it does not matter which events these are.
  clear_value events
  obtain ⟨-, -, -, hdropped⟩ :=
    requests_counted {} (⟨⟨[]⟩, ⟨"a1", "r1"⟩⟩ : CredentialStore Memory) events
  obtain ⟨hsame, hnever⟩ := hdropped 0 hid
  exact ⟨hsame.trans hnone, hnever⟩

/-- A number is asked for and a text comes back. The caller is told that the payload cannot be decoded,
    and what is counted is a success. -/
theorem undecodable_counted_as_ok :
    let s₀ : Session Memory := ofStore {} ⟨⟨[]⟩, ⟨"a1", "r1"⟩⟩
    let s := s₀.run [.start (.send (.ok (.get "/orders/count")) .uint64),
      .answer 0 (.answered 200 (Text.Utf8.encode "\"many\""))]
    s.lifecycle.journal.results.map (fun r => (r.1, RequestResult.of r.2)) = [(0, .decodeError)] ∧
      s.lifecycle.journal.requestResults = [.ok] := by
  decide +kernel

end Session

end ShopClient
