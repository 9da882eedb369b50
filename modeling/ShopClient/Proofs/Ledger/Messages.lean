import ShopClient.Proofs.Renewal.Answer
import ShopClient.Proofs.Replay.Unauthorized
import ShopClient.Proofs.Text.Blank

/-!
# What transport errors say

A request that fails on its way, or gets a status that is no success, ends in a transport error. Its
message is the best one there is: what the shop says about the failure, else what the sender says, else
something general (`BestMessage`). It is never empty, and what the shop says has no blanks around it.

Some transport errors have no exchange behind them. The renewal that an operation waited for was dropped,
or its request could not be sent. Each of these has a message of its own.

* `transportError_eq_iff`: the message of an error, for every body;
* `Exchange.bestMessage_of_callResult`: the message that an exchange comes to;
* `transport_messages`: the messages that the callers see, in any run.
-/

namespace ShopClient

open Json

variable {body : Text.Bytes} {own : Option String} {k m m' : String}

/-! ### The best message -/

/-- The body is an object with a text under `k`, of which `m` is left without the blanks around it. -/
def Tells (body : Text.Bytes) (k m : String) : Prop :=
  ∃ members text before after, parseBytes? body = some (.object members) ∧
    Keyed.get? k members = some (.string text) ∧ text.toList = before ++ m.toList ++ after ∧
    (∀ c ∈ before, Text.isBlank c = true) ∧ (∀ c ∈ after, Text.isBlank c = true) ∧
    Text.IsTrim m.toList ∧ m ≠ ""

/-- The best message about a failure: the `error` of the body, else its `msg`, else the sender's own
    text, else a general one. -/
inductive BestMessage (body : Text.Bytes) (own : Option String) : String → Prop
  | error {m : String} (h : Tells body "error" m) : BestMessage body own m
  | msg {m : String} (hnone : ∀ m, ¬Tells body "error" m) (h : Tells body "msg" m) :
      BestMessage body own m
  | own {m : String} (hnone : ∀ m, ¬Tells body "error" m) (hnone' : ∀ m, ¬Tells body "msg" m)
      (h : own = some m) (hne : m ≠ "") : BestMessage body own m
  | fallback (hnone : ∀ m, ¬Tells body "error" m) (hnone' : ∀ m, ¬Tells body "msg" m)
      (h : ∀ m, own = some m → m = "") : BestMessage body own "service busy, please try again later"

theorem trimmed?_eq_some_iff {v : Value} : v.trimmed? k = some m ↔ ∃ members text,
    v = .object members ∧ Keyed.get? k members = some (.string text) ∧ Text.trim text = m ∧ m ≠ "" := by
  rw [Value.trimmed?, Option.filter_eq_some_iff, decide_eq_true_eq, Option.map_eq_some_iff]
  constructor
  · rintro ⟨⟨text, htext, htrim⟩, hne⟩
    obtain ⟨found, hfound, hstring⟩ := Option.bind_eq_some_iff.1 htext
    cases v with
    | object members =>
      cases found with
      | string text' =>
        obtain rfl := Option.some.inj hstring
        exact ⟨members, _, rfl, hfound, htrim, hne⟩
      | _ => cases hstring
    | _ => cases hfound
  · rintro ⟨members, text, rfl, hfound, htrim, hne⟩
    exact ⟨⟨text, Option.bind_eq_some_iff.2 ⟨_, hfound, rfl⟩, htrim⟩, hne⟩

theorem tells_iff : Tells body k m ↔ (parseBytes? body).bind (Value.trimmed? k) = some m := by
  have htrim (text : String) : Text.trim text = m ↔ Text.trimChars text.toList = m.toList := by
    rw [Text.trim, ← String.toList_inj, String.toList_ofList]
  rw [Option.bind_eq_some_iff]
  constructor
  · rintro ⟨members, text, before, after, hbody, htext, heq, hbefore, hafter, hm, hne⟩
    have htrimmed := Text.trimChars_eq_iff.2 ⟨before, after, heq, hbefore, hafter, hm⟩
    exact ⟨_, hbody, trimmed?_eq_some_iff.2 ⟨members, text, rfl, htext, (htrim text).2 htrimmed, hne⟩⟩
  · rintro ⟨v, hbody, hv⟩
    obtain ⟨members, text, rfl, htext, htrimmed, hne⟩ := trimmed?_eq_some_iff.1 hv
    obtain ⟨before, after, heq, hbefore, hafter, hm⟩ :=
      Text.trimChars_eq_iff.1 ((htrim text).1 htrimmed)
    exact ⟨members, text, before, after, hbody, htext, heq, hbefore, hafter, hm, hne⟩

theorem not_tells_iff :
    (∀ m, ¬Tells body k m) ↔ (parseBytes? body).bind (Value.trimmed? k) = none := by
  simp only [tells_iff, Option.eq_none_iff_forall_ne_some, ne_eq]

theorem serverMessage?_eq (body : Text.Bytes) : serverMessage? body =
    ((parseBytes? body).bind (Value.trimmed? "error")).or
      ((parseBytes? body).bind (Value.trimmed? "msg")) := by
  rw [serverMessage?]
  cases parseBytes? body <;> rfl

/-- The best message is told, and there is only one. -/
theorem bestMessage_iff : BestMessage body own m ↔
    ((serverMessage? body).or (own.filter (· ≠ ""))).getD fallbackMessage = m := by
  rw [serverMessage?_eq]
  constructor
  · rintro (h | ⟨hnone, h⟩ | ⟨hnone, hnone', h, hne⟩ | ⟨hnone, hnone', h⟩)
    · rw [tells_iff.1 h]
      rfl
    · rw [not_tells_iff.1 hnone, tells_iff.1 h]
      rfl
    · rw [not_tells_iff.1 hnone, not_tells_iff.1 hnone', token_eq_some_iff.2 ⟨h, hne⟩]
      rfl
    · have hown : own.filter (· ≠ "") = none := by
        rw [Option.eq_none_iff_forall_ne_some]
        intro m hm
        obtain ⟨hm, hne⟩ := token_eq_some_iff.1 hm
        exact hne (h m hm)
      rw [not_tells_iff.1 hnone, not_tells_iff.1 hnone', hown]
      rfl
  · rintro rfl
    cases herror : (parseBytes? body).bind (Value.trimmed? "error") with
    | some m => exact .error (tells_iff.2 herror)
    | none =>
      have hnone := not_tells_iff.2 herror
      cases hmsg : (parseBytes? body).bind (Value.trimmed? "msg") with
      | some m => exact .msg hnone (tells_iff.2 hmsg)
      | none =>
        have hnone' := not_tells_iff.2 hmsg
        cases hown : own.filter (· ≠ "") with
        | some m =>
          obtain ⟨h, hne⟩ := token_eq_some_iff.1 hown
          exact .own hnone hnone' h hne
        | none =>
          refine .fallback hnone hnone' fun m h => ?_
          by_contra hne
          rw [token_eq_some_iff.2 ⟨h, hne⟩] at hown
          cases hown

/-- The best message is never empty. -/
theorem BestMessage.ne_empty (h : BestMessage body own m) : m ≠ "" := by
  rcases h with h | ⟨-, h⟩ | ⟨-, -, -, hne⟩ | -
  · obtain ⟨_, _, _, _, _, _, _, _, _, _, hne⟩ := h
    exact hne
  · obtain ⟨_, _, _, _, _, _, _, _, _, _, hne⟩ := h
    exact hne
  · exact hne
  · decide

/-- A transport error has the status that it was given, and the best message. -/
theorem transportError_eq_iff {status : Option Http.Status} {e : SessionError} :
    transportError status body own = e ↔ ∃ m, e = .transport status m ∧ BestMessage body own m := by
  rw [transportError]
  constructor
  · rintro rfl
    exact ⟨_, rfl, bestMessage_iff.2 rfl⟩
  · rintro ⟨m, rfl, hm⟩
    rw [bestMessage_iff.1 hm]

/-! ### Exchanges -/

namespace Exchange

/-- The body of the answer, as far as it can be read. -/
def content : Exchange → Text.Bytes
  | answered _ body => body
  | _ => []

/-- What the sender of the request `o` says about the exchange, having waited up to `timeout`. -/
def ownText (o : Outgoing) (timeout : Nat) : Exchange → String
  | unanswered => o.unansweredText
  | timedOut => Outgoing.timedOutText timeout
  | cutOff _ => o.cutOffText
  | answered status _ => status.message

/-- A transport error that an exchange comes to has its status, and the best message about it. -/
theorem bestMessage_of_callResult {x : Exchange} {o : Outgoing} {timeout : Nat}
    {status : Option Http.Status}
    (h : callResult (x.received o timeout) = .error (.transport status m)) :
    status = x.status? ∧ BestMessage x.content (some (x.ownText o timeout)) m := by
  have herror (h : transportError x.status? x.content (some (x.ownText o timeout)) =
      .transport status m) : status = x.status? ∧ BestMessage x.content (some (x.ownText o timeout)) m := by
    obtain ⟨m', heq, hm'⟩ := transportError_eq_iff.1 h
    obtain ⟨rfl, rfl⟩ := SessionError.transport.inj heq
    exact ⟨rfl, hm'⟩
  cases x with
  | answered status' body =>
    rw [received] at h
    split at h
    next hstatus =>
      subst hstatus
      exact herror (Except.error.inj h)
    next =>
      split at h
      · obtain ⟨code, message, heq⟩ := Envelope.exists_business h
        cases heq
      · exact herror (Except.error.inj h)
  | _ => exact herror (Except.error.inj h)

end Exchange

/-- What a transport error says that no exchange is behind: the renewal that its operation waited for was
    dropped, or its request could not be sent. -/
inductive OwnMessage : String → Prop
  | abandoned : OwnMessage "token renewal was abandoned before completing"
  | unsendable (u : Url) : OwnMessage ("builder error for url (" ++ u.print ++ ")")

theorem OwnMessage.ne_empty (h : OwnMessage m) : m ≠ "" := by
  cases h with
  | abandoned => decide
  | unsendable u =>
    intro hempty
    have hlength := congrArg String.length hempty
    simp [String.length_append] at hlength

theorem SessionError.ownMessage_of_isOwn {status : Option Http.Status}
    (h : (transport status m).IsOwn) : status = none ∧ OwnMessage m := by
  rcases h with h | ⟨reason, hreason⟩
  · generalize he : transport status m = e at h
    cases h with
    | abandoned =>
      obtain ⟨rfl, rfl⟩ := transport.inj he
      exact ⟨rfl, .abandoned⟩
    | unsendable u =>
      obtain ⟨rfl, rfl⟩ := transport.inj he
      exact ⟨rfl, .unsendable u⟩
    | expired => cases he
    | invalid reason => cases he
  · cases hreason

/-! ### Runs -/

theorem Journal.mem_faults_iff {j : Journal} {id : TaskId} {e : SessionError} :
    (id, e) ∈ j.faults ↔ (id, .error e) ∈ j.results := by
  rw [faults, List.mem_filterMap]
  constructor
  · rintro ⟨⟨id', result⟩, hmem, hfault⟩
    cases result with
    | ok outcome => cases hfault
    | error e' =>
      obtain ⟨rfl, rfl⟩ := Prod.mk.inj (Option.some.inj hfault)
      exact hmem
  · exact fun hmem => ⟨_, hmem, rfl⟩

namespace Session

variable {σ : Type} [Storage σ] {settings : Settings} {store : CredentialStore σ} {events : List Event}
  {id : TaskId} {status : Option Http.Status}

theorem settings_run (settings : Settings) (store : CredentialStore σ) (events : List Event) :
    ((ofStore settings store).run events).settings = settings := by
  induction events using List.reverseRecOn with
  | nil => rfl
  | append_singleton events e ih =>
    rw [run_concat, settings_step (inOrder_run (inOrder_ofStore settings store) events), ih]

/-- In the course of the events, the exchange that the operation waited for ended with this status, and
    `m` is the best message about it. -/
def IsBrought (settings : Settings) (store : CredentialStore σ) (events : List Event) (id : TaskId)
    (status : Option Http.Status) (m : String) : Prop :=
  ∃ before x after call again o, events = before ++ .answer id x :: after ∧
    ((ofStore settings store).run before).Awaits id call again o ∧ status = x.status? ∧
    BestMessage x.content (some (x.ownText o settings.requestTimeout)) m

/-- A transport error is the client's own, or was brought by an exchange. -/
theorem ownMessage_or_isBrought
    (h : (id, .error (.transport status m)) ∈
      ((ofStore settings store).run events).lifecycle.journal.results) :
    (status = none ∧ OwnMessage m) ∨ IsBrought settings store events id status m := by
  refine (isOwn_or_exists_answer settings store h).imp SessionError.ownMessage_of_isOwn ?_
  rintro ⟨before, event, after, rfl, d, hd, rfl, hresult, -⟩
  obtain ⟨x, o, rfl, hanswer, ht⟩ := exists_of_delivery? hd
  rw [hanswer, settings_run] at hresult
  obtain ⟨hstatus, hbest⟩ := Exchange.bestMessage_of_callResult hresult
  exact ⟨before, x, after, d.call, d.again, o, rfl, ht, hstatus, hbest⟩

/-- A transport error has the status that it was given, and says what the shop says about the failure,
    without the blanks around it, else what the sender says, else something general. In any run, what a
    caller is told by a transport error is not empty: it is the best message about the exchange that the
    operation waited for, or the client's own when there was none. -/
theorem transport_messages (settings : Settings) (store : CredentialStore σ) (events : List Event) :
    (∀ (status : Option Http.Status) (body : Text.Bytes) (own : Option String) (e : SessionError),
      transportError status body own = e ↔ ∃ m, e = .transport status m ∧ BestMessage body own m) ∧
    ∀ id status m, (id, .error (.transport status m)) ∈
        ((ofStore settings store).run events).lifecycle.journal.results →
      m ≠ "" ∧ ((status = none ∧ OwnMessage m) ∨ IsBrought settings store events id status m) := by
  refine ⟨fun status body own e => transportError_eq_iff, fun id status m h => ?_⟩
  have hsource := ownMessage_or_isBrought h
  refine ⟨?_, hsource⟩
  rcases hsource with ⟨-, hown⟩ | ⟨_, _, _, _, _, _, -, -, -, hbest⟩
  · exact hown.ne_empty
  · exact hbest.ne_empty

/-- An order is refused with two texts, of which one is blank. The other one is what the caller is told. -/
theorem transport_messages_refused :
    let order : Request := { method := "POST", path := "/orders" }
    let events : List Event := [.start (.send (.ok order) .any), .answer 0 (.answered 409
      (Text.Utf8.encode "\x7b\"error\": \" \\u3000\", \"msg\": \" sold out\\n\"\x7d"))]
    let store : CredentialStore Memory := ⟨⟨[]⟩, ⟨"a1", "r1"⟩⟩
    (0, .error (.transport (some 409) "sold out")) ∈
        ((ofStore {} store).run events).lifecycle.journal.results ∧
      IsBrought {} store events 0 (some 409) "sold out" := by
  intro order events store
  have hfaults : ((ofStore {} store).run events).lifecycle.journal.faults =
      [(0, .transport (some 409) "sold out")] := by
    decide +kernel
  have hmem : (0, .error (.transport (some 409) "sold out")) ∈
      ((ofStore {} store).run events).lifecycle.journal.results :=
    Journal.mem_faults_iff.1 (hfaults ▸ List.mem_cons_self)
  obtain ⟨-, hsource⟩ := (transport_messages {} store events).2 0 _ _ hmem
  refine ⟨hmem, hsource.resolve_left ?_⟩
  rintro ⟨⟨⟩, -⟩

end Session

end ShopClient
