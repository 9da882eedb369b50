import ShopClient.Proofs.Renewal.Steps
import ShopClient.Proofs.Session.Outgoing

/-!
# Inquiries

An *inquiry* is a request of a caller that expects a payload of some shape. This is its whole course:
it is sent with the current access token; if the token has expired it waits for a renewal, and is then
sent again with the new token; and what comes back then is its outcome.

* `start_inquiry`: an inquiry with a valid address is sent;
* `answer_unauthorized`: an inquiry whose token was not accepted asks for a renewal;
* `grant_token`, `grant_expired`: it is sent again with a new token, or ends without one;
* `receive_inquiry`: what comes back then is its outcome.
-/

namespace ShopClient

/-- A request of a caller, with the shape in which the payload is expected. -/
structure Inquiry where
  request : Request
  shape : Shape

namespace Inquiry

/-- The inquiry as a call. -/
def call (q : Inquiry) : Call := ⟨q.request, .payload q.shape⟩

/-- The inquiry needs a session, and has a valid address. -/
structure IsProper (base : String) (q : Inquiry) : Prop where
  not_public : q.request.isPublic = false
  sendable : q.request.IsSendable base

/-- What an inquiry comes to that was sent again, by what came back. -/
def outcome (q : Inquiry) : Except SessionError Received → Except SessionError Outcome
  | .error e => .error e
  | .ok (.unauthorized _) => .error .sessionExpired
  | .ok (.body body) => match (Envelope.ofBytes body).payload with
    | .error e => .error e
    | .ok payload => match q.shape.decode payload with
      | .ok v => .ok (.payload v)
      | .error m => .error (.undecodable m.message)

end Inquiry

/-- The answer refuses the access token. -/
def Exchange.IsUnauthorized : Exchange → Prop
  | .answered status _ => status = Http.Status.unauthorized
  | _ => False

instance : DecidablePred Exchange.IsUnauthorized
  | .answered status _ => inferInstanceAs (Decidable (status = Http.Status.unauthorized))
  | .unanswered | .timedOut | .cutOff _ => inferInstanceAs (Decidable False)

theorem Exchange.isUnauthorized_of_received {x : Exchange} {o : Outgoing} {timeout : Nat}
    {body : Text.Bytes} (h : x.received o timeout = .ok (.unauthorized body)) :
    x.IsUnauthorized := by
  cases x with
  | answered status b =>
    rw [received] at h
    split at h
    · assumption
    · split at h <;> cases h
  | _ => cases h

/-- The tokens are the same, and the front end was told of errors alone. -/
structure Lifecycle.KeepsTokens {σ : Type} (l l' : Lifecycle σ) : Prop where
  store : l'.store = l.store
  notices : ∃ more, l'.journal.notices = l.journal.notices ++ more ∧
    ∀ n ∈ more, ∃ message, n = .error message

namespace Lifecycle.KeepsTokens

variable {σ : Type} {l l' l'' : Lifecycle σ}

theorem refl (l : Lifecycle σ) : l.KeepsTokens l :=
  ⟨rfl, [], (List.append_nil _).symm, List.forall_mem_nil _⟩

theorem trans (h : l.KeepsTokens l') (h' : l'.KeepsTokens l'') : l.KeepsTokens l'' := by
  obtain ⟨more, hmore, he⟩ := h.notices
  obtain ⟨more', hmore', he'⟩ := h'.notices
  refine ⟨h'.store.trans h.store, more ++ more', ?_, List.forall_mem_append.2 ⟨he, he'⟩⟩
  rw [hmore', hmore, List.append_assoc]

theorem log (h : l.KeepsTokens l') {e : Entry}
    (he : ∀ n ∈ Journal.notices [e], ∃ message, n = .error message) : l.KeepsTokens (l'.log e) :=
  h.trans ⟨rfl, _, Journal.notices_append _ _, he⟩

end Lifecycle.KeepsTokens

namespace Session

variable {σ : Type} [Storage σ] {s : Session σ} {id : TaskId} {q : Inquiry}

/-! ### The first request -/

theorem start_inquiry (hq : q.IsProper s.settings.baseUrl)
    (ha : ∀ t, s.access? = some t → Http.Header.isValue (Http.Header.bearer t) = true) :
    ∃ o, s.start (.send (.ok q.request) q.shape) =
      (({ s with started := s.started + 1, dispatched := s.dispatched + 1 } : Session σ).await
        s.started (.first q.call o)).log (.sent (.task s.started) o) := by
  obtain ⟨o, ho⟩ := Outgoing.exists_ofRequest hq.sendable ha s.dispatched
  have hstart : s.start (.send (.ok q.request) q.shape) =
      ({ s with started := s.started + 1 } : Session σ).issue s.started q.call false s.access? := rfl
  have ho' : Outgoing.ofRequest ({ s with started := s.started + 1 } : Session σ).settings.baseUrl
      s.access? ({ s with started := s.started + 1 } : Session σ).dispatched q.call.request =
        .ok o := ho
  exact ⟨o, hstart.trans (issue_of_ok ho')⟩

/-- An inquiry whose access token was not accepted asks for a renewal. -/
theorem answer_unauthorized (hq : q.request.isPublic = false) {o : Outgoing}
    (ht : s.task? id = some (.first q.call o)) {x : Exchange} (hx : x.IsUnauthorized) :
    s.answer id x = s.renewThen id (.replay q.call) := by
  cases x with
  | answered status body =>
    have hstatus : status = Http.Status.unauthorized := hx
    simp only [answer, ht, Exchange.received, if_pos hstatus, receive]
    have hpublic : ¬q.call.request.isPublic = true := by
      rw [show q.call.request = q.request from rfl, hq]
      decide
    simp only [if_neg hpublic]
    rfl
  | _ => exact hx.elim

/-- An answer changes nothing for an operation that expects none. -/
theorem answer_of_not_outstanding (h : s.outstanding? id = none) (x : Exchange) :
    s.answer id x = s := by
  cases ht : s.task? id with
  | none => simp only [answer, ht]
  | some t =>
    rw [outstanding?, ht] at h
    cases t with
    | first => cases h
    | replayed => cases h
    | renewal want => simp only [answer, ht]

/-! ### The end of the renewal -/

/-- With a new access token an inquiry is sent again. -/
theorem grant_token (hq : q.request.IsSendable s.settings.baseUrl) {token : String}
    (ht : Http.Header.isValue (Http.Header.bearer token) = true) :
    ∃ o, Outgoing.ofRequest s.settings.baseUrl (some token) s.dispatched q.request = .ok o ∧
      s.grant id (.replay q.call) (.ok token) =
        (({ (s.log (.granted id (.ok token))).count .replay with
            dispatched := s.dispatched + 1 } : Session σ).await id (.replayed q.call o)).log
          (.sent (.task id) o) := by
  have ht' : ∀ t, some token = some t → Http.Header.isValue (Http.Header.bearer t) = true := by
    rintro t ⟨⟩
    exact ht
  obtain ⟨o, ho⟩ := Outgoing.exists_ofRequest hq ht' s.dispatched
  have ho' : Outgoing.ofRequest ((s.log (.granted id (.ok token))).count .replay).settings.baseUrl
      (some token) ((s.log (.granted id (.ok token))).count .replay).dispatched q.call.request =
        .ok o := ho
  have hgrant : s.grant id (.replay q.call) (.ok token) =
      ((s.log (.granted id (.ok token))).count .replay).issue id q.call true (some token) := rfl
  exact ⟨o, ho, hgrant.trans (issue_of_ok ho')⟩

/-- Without one it ends. -/
theorem grant_expired : s.grant id (.replay q.call) (.error .sessionExpired) =
    ((s.log (.granted id (.error .sessionExpired))).count (.request .sessionExpired)).finish id
      (.error .sessionExpired) :=
  rfl

/-! ### The second request -/

/-- An inquiry that fails of itself leaves the tokens alone. -/
theorem fail_inquiry (e : SessionError) : ∃ l, s.lifecycle.Becomes l ∧ s.lifecycle.KeepsTokens l ∧
    s.fail id q.call e = ({ s with lifecycle := l } : Session σ).finish id (.error e) := by
  have hb : s.lifecycle.Becomes (s.lifecycle.count (.request e.requestResult)) :=
    .log .refl trivial nofun
  have hk : s.lifecycle.KeepsTokens (s.lifecycle.count (.request e.requestResult)) :=
    .log (.refl _) (List.forall_mem_nil _)
  cases e with
  | transport status message =>
    have htell := hk.log (e := .told (.error message)) (List.forall_mem_singleton.2 ⟨message, rfl⟩)
    exact ⟨_, hb.tell (.error message), htell, rfl⟩
  | _ => exact ⟨_, hb, hk, rfl⟩

theorem answer_replayed {o : Outgoing} (ht : s.task? id = some (.replayed q.call o)) (x : Exchange) :
    s.answer id x = s.receive id q.call true (x.received o s.settings.requestTimeout) := by
  simp only [answer, ht]

/-- What comes back to an inquiry that was sent again is its outcome. It leaves the tokens alone, unless
    the new access token was not accepted either. -/
theorem receive_inquiry (answer : Except SessionError Received) :
    ∃ l, s.lifecycle.Becomes l ∧
      ((∀ body, answer ≠ .ok (.unauthorized body)) → s.lifecycle.KeepsTokens l) ∧
      s.receive id q.call true answer =
        ({ s with lifecycle := l } : Session σ).finish id (q.outcome answer) := by
  cases answer with
  | error e =>
    obtain ⟨l, hb, hk, heq⟩ := @fail_inquiry _ _ s id q e
    exact ⟨l, hb, fun _ => hk, heq⟩
  | ok received =>
    cases received with
    | unauthorized body =>
      -- The only outcome that ends the session.
      exact ⟨s.lifecycle.expire.count (.request .sessionExpired),
        (Lifecycle.Becomes.refl.expire).log trivial nofun, fun h => absurd rfl (h body), rfl⟩
    | body body =>
      simp only [receive, Inquiry.outcome]
      cases (Envelope.ofBytes body).payload with
      | error e =>
        obtain ⟨l, hb, hk, heq⟩ := @fail_inquiry _ _ s id q e
        exact ⟨l, hb, fun _ => hk, heq⟩
      | ok payload =>
        have hk : s.lifecycle.KeepsTokens (s.lifecycle.count (.request .ok)) :=
          .log (.refl _) (List.forall_mem_nil _)
        refine ⟨s.lifecycle.count (.request .ok), .log .refl trivial nofun, fun _ => hk, ?_⟩
        simp only [succeed, Inquiry.call]
        cases q.shape.decode payload <;> rfl

end Session

end ShopClient
