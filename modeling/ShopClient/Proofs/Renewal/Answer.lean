import ShopClient.Session.Basic

/-!
# Answers to a renewal

A renewal is a request like any other, but its sender makes less of the answer: it wants an access
token, and all else is a failure. The status is looked at first, then the envelope, then the payload,
and each of them has a failure of its own.

* `Envelope.payload_eq_ok_iff`, `Envelope.payload_eq_error_iff`: an envelope carries a payload, or
  it refuses;
* `Exchange.Yields`: what a renewal comes to, for every way in which its request can end;
* `Exchange.renewed_eq_iff`: that, and nothing else, is what is made of the answer.
-/

namespace ShopClient

open Json

theorem Http.Status.isSuccess_iff {status : Http.Status} :
    status.isSuccess = true ↔ 200 ≤ status ∧ status < 300 := by
  rw [isSuccess, Bool.and_eq_true, decide_eq_true_eq, decide_eq_true_eq]

/-! ### Envelopes -/

namespace Envelope

/-- The payload that an envelope carries: what is bare is the payload itself, and what is enveloped
    comes with a code of success. -/
inductive Carries : Envelope → Value → Prop
  | raw {v : Value} : Carries (.raw v) v
  | enveloped {code : Int64} {msg : String} {data : Value} :
    code ∈ successCodes → Carries (.enveloped code msg data) data

variable {e : Envelope}

theorem payload_eq_ok_iff {v : Value} : e.payload = .ok v ↔ e.Carries v := by
  constructor
  · intro h
    cases e with
    | raw v' =>
      obtain rfl := Except.ok.inj h
      exact .raw
    | enveloped code msg data =>
      rw [payload] at h
      split at h
      · rename_i hcode
        obtain rfl := Except.ok.inj h
        exact .enveloped (List.contains_iff_mem.1 hcode)
      · cases h
  · rintro (_ | hcode)
    · rfl
    · exact if_pos (List.contains_iff_mem.2 hcode)

theorem payload_eq_error_iff {error : SessionError} : e.payload = .error error ↔
    ∃ code msg data, e = .enveloped code msg data ∧ code ∉ successCodes ∧
      error = .business code (if msg = "" then defaultMessage else msg) := by
  constructor
  · intro h
    cases e with
    | raw v => cases h
    | enveloped code msg data =>
      rw [payload] at h
      split at h
      · cases h
      · rename_i hcode
        exact ⟨code, msg, data, rfl, mt List.contains_iff_mem.2 hcode, (Except.error.inj h).symm⟩
  · rintro ⟨code, msg, data, rfl, hcode, rfl⟩
    exact if_neg (mt List.contains_iff_mem.1 hcode)

end Envelope

/-! ### Tokens in a payload -/

/-- A token that an answer carries, if it is not empty. -/
theorem token_eq_some_iff {token : Option String} {s : String} :
    token.filter (· ≠ "") = some s ↔ token = some s ∧ s ≠ "" := by
  rw [Option.filter_eq_some_iff, decide_eq_true_eq]

/-- The tokens that a payload holds: an access token, and a refresh token if there is one. An empty
    token is none. -/
def Renewed.IsHeldBy (renewed : Renewed) (payload : Value) : Prop :=
  ∃ reply, RenewalReply.decode payload = .ok reply ∧
    reply.accessToken = some renewed.access ∧ renewed.access ≠ "" ∧
      ∀ refresh, renewed.refresh = some refresh ↔ reply.refreshToken = some refresh ∧ refresh ≠ ""

/-- What a payload holds is one pair of tokens at most. -/
theorem Renewed.IsHeldBy.unique {renewed renewed' : Renewed} {payload : Value}
    (h : renewed.IsHeldBy payload) (h' : renewed'.IsHeldBy payload) : renewed = renewed' := by
  obtain ⟨reply, hreply, haccess, -, hrefresh⟩ := h
  obtain ⟨reply', hreply', haccess', -, hrefresh'⟩ := h'
  obtain rfl := Except.ok.inj (hreply.symm.trans hreply')
  have hsame : renewed.access = renewed'.access := Option.some.inj (haccess.symm.trans haccess')
  have hsame' : renewed.refresh = renewed'.refresh :=
    Option.ext fun refresh => (hrefresh refresh).trans (hrefresh' refresh).symm
  cases renewed
  cases renewed'
  rw [Renewed.mk.injEq]
  exact ⟨hsame, hsame'⟩

namespace Exchange

/-- The status of the answer, if there is one. -/
def status? : Exchange → Option Http.Status
  | answered status _ | cutOff status => some status
  | unanswered | timedOut => none

/-- What a renewal comes to, by how its request `o` ends. A status that is no success decides by
    itself, whatever comes with it. -/
inductive Yields (o : Outgoing) : Exchange → Except RenewalError Renewed → Prop
  | unanswered : Yields o .unanswered (.error (.transport o.unansweredText))
  | timedOut : Yields o .timedOut (.error (.transport o.unansweredText))
  | rejected {x : Exchange} {status : Http.Status} :
    x.status? = some status → ¬(200 ≤ status ∧ status < 300) → Yields o x (.error (.rejected status))
  | cutOff {status : Http.Status} :
    200 ≤ status ∧ status < 300 → Yields o (.cutOff status)
      (.error (.transport ("reading renewal response: " ++ o.cutOffText)))
  /-- The envelope refuses the renewal. -/
  | refused {status : Http.Status} {body : Text.Bytes} {code : Int64} {msg : String}
    {data : Value} :
    200 ≤ status ∧ status < 300 → Envelope.ofBytes body = .enveloped code msg data →
      code ∉ Envelope.successCodes → Yields o (.answered status body)
        (.error (.business (if msg = "" then Envelope.defaultMessage else msg)))
  /-- There is a payload, and no access token in it. -/
  | missing {status : Http.Status} {body : Text.Bytes} {payload : Value} :
    200 ≤ status ∧ status < 300 → (Envelope.ofBytes body).Carries payload →
      (∀ renewed : Renewed, ¬renewed.IsHeldBy payload) →
        Yields o (.answered status body) (.error .missingAccessToken)
  /-- There is a payload with an access token in it. -/
  | renewed {status : Http.Status} {body : Text.Bytes} {payload : Value} {renewed : Renewed} :
    200 ≤ status ∧ status < 300 → (Envelope.ofBytes body).Carries payload →
      renewed.IsHeldBy payload → Yields o (.answered status body) (.ok renewed)

/-! ### What is made of an answer -/

/-- What is made of a body that refuses. -/
theorem renewedBy_of_error {body : Text.Bytes} {error : SessionError}
    (h : (Envelope.ofBytes body).payload = .error error) :
    renewedBy body = .error (.business error.message) := by
  rw [renewedBy, h]
  rfl

/-- What is made of a body with a payload: the tokens that it holds, if it holds any. -/
theorem renewedBy_of_ok {body : Text.Bytes} {payload : Value}
    (h : (Envelope.ofBytes body).payload = .ok payload) :
    (∃ renewed : Renewed, renewed.IsHeldBy payload ∧ renewedBy body = .ok renewed) ∨
      (∀ renewed : Renewed, ¬renewed.IsHeldBy payload) ∧
        renewedBy body = .error .missingAccessToken := by
  have hmapped (f : SessionError → RenewalError) :
      (Envelope.ofBytes body).payload.mapError f = .ok payload := by
    rw [h]
    rfl
  cases hreply : RenewalReply.decode payload with
  | error m =>
    refine .inr ⟨?_, ?_⟩
    · rintro renewed ⟨reply, hreply', -⟩
      cases hreply.symm.trans hreply'
    · simp only [renewedBy, hmapped, bind, Except.bind, hreply]
      rfl
  | ok reply =>
    cases haccess : reply.access? with
    | none =>
      refine .inr ⟨?_, ?_⟩
      · rintro renewed ⟨reply', hreply', haccess', hne, -⟩
        obtain rfl := Except.ok.inj (hreply.symm.trans hreply')
        cases haccess.symm.trans (token_eq_some_iff.2 ⟨haccess', hne⟩)
      · simp only [renewedBy, hmapped, bind, Except.bind, hreply, haccess]
        rfl
    | some access =>
      obtain ⟨haccess', hne⟩ := token_eq_some_iff.1 haccess
      have hheld : Renewed.IsHeldBy ⟨access, reply.refresh?⟩ payload :=
        ⟨reply, hreply, haccess', hne, fun _ => token_eq_some_iff⟩
      refine .inl ⟨_, hheld, ?_⟩
      simp only [renewedBy, hmapped, bind, Except.bind, hreply, haccess]
      rfl

theorem yields_renewed (o : Outgoing) (x : Exchange) : x.Yields o (x.renewed o) := by
  cases x with
  | unanswered => exact .unanswered
  | timedOut => exact .timedOut
  | cutOff status =>
    rw [Exchange.renewed]
    split
    · rename_i hstatus
      exact .cutOff (Http.Status.isSuccess_iff.1 hstatus)
    · rename_i hstatus
      exact .rejected rfl (mt Http.Status.isSuccess_iff.2 hstatus)
  | answered status body =>
    rw [Exchange.renewed]
    split
    · rename_i hstatus
      rw [Http.Status.isSuccess_iff] at hstatus
      cases hpayload : (Envelope.ofBytes body).payload with
      | error error =>
        obtain ⟨code, msg, data, henvelope, hcode, rfl⟩ := Envelope.payload_eq_error_iff.1 hpayload
        rw [renewedBy_of_error hpayload]
        exact .refused hstatus henvelope hcode
      | ok payload =>
        have hcarries := Envelope.payload_eq_ok_iff.1 hpayload
        rcases renewedBy_of_ok hpayload with ⟨renewed, hheld, heq⟩ | ⟨hnone, heq⟩
        · rw [heq]
          exact .renewed hstatus hcarries hheld
        · rw [heq]
          exact .missing hstatus hcarries hnone
    · rename_i hstatus
      exact .rejected rfl (mt Http.Status.isSuccess_iff.2 hstatus)

/-- What a renewal makes of an exchange is what it yields, and nothing else. -/
theorem renewed_eq_iff {o : Outgoing} {x : Exchange} {result : Except RenewalError Renewed} :
    x.renewed o = result ↔ x.Yields o result := by
  have hsuccess {status : Http.Status} (hstatus : 200 ≤ status ∧ status < 300)
      (body : Text.Bytes) : (answered status body).renewed o = renewedBy body :=
    if_pos (Http.Status.isSuccess_iff.2 hstatus)
  refine ⟨fun h => h ▸ yields_renewed o x, fun h => ?_⟩
  cases h with
  | unanswered => rfl
  | timedOut => rfl
  | @rejected _ status hx hstatus =>
    have hfails : ¬status.isSuccess = true := mt Http.Status.isSuccess_iff.1 hstatus
    cases x with
    | answered status' body =>
      obtain rfl := Option.some.inj hx
      exact if_neg hfails
    | cutOff status' =>
      obtain rfl := Option.some.inj hx
      exact if_neg hfails
    | _ => cases hx
  | cutOff hstatus => exact if_pos (Http.Status.isSuccess_iff.2 hstatus)
  | @refused status body code msg data hstatus henvelope hcode =>
    rw [hsuccess hstatus]
    exact renewedBy_of_error (Envelope.payload_eq_error_iff.2 ⟨_, _, _, henvelope, hcode, rfl⟩)
  | @missing status body payload hstatus hcarries hnone =>
    rw [hsuccess hstatus]
    have hpayload := Envelope.payload_eq_ok_iff.2 hcarries
    rcases renewedBy_of_ok hpayload with ⟨renewed, hheld, -⟩ | ⟨-, heq⟩
    · exact absurd hheld (hnone renewed)
    · exact heq
  | @renewed status body payload renewed hstatus hcarries hheld =>
    rw [hsuccess hstatus]
    have hpayload := Envelope.payload_eq_ok_iff.2 hcarries
    rcases renewedBy_of_ok hpayload with ⟨_, hheld', heq⟩ | ⟨hnone, -⟩
    · rw [heq, hheld.unique hheld']
    · exact absurd hheld (hnone renewed)

/-- A renewal is carried out if and only if the answer is usable: it is a success, its envelope
    carries a payload, and that holds the tokens. -/
theorem renewed_eq_ok_iff {o : Outgoing} {x : Exchange} {renewed : Renewed} :
    x.renewed o = .ok renewed ↔ ∃ status body payload, x = .answered status body ∧
      (200 ≤ status ∧ status < 300) ∧ (Envelope.ofBytes body).Carries payload ∧
        renewed.IsHeldBy payload := by
  rw [renewed_eq_iff]
  constructor
  · rintro ⟨⟩
    rename_i status body payload hstatus hcarries hheld
    exact ⟨status, body, payload, rfl, hstatus, hcarries, hheld⟩
  · rintro ⟨status, body, payload, rfl, hstatus, hcarries, hheld⟩
    exact .renewed hstatus hcarries hheld

/-- The access token that a renewal yields is one. -/
theorem access_ne_of_renewed {o : Outgoing} {x : Exchange} {renewed : Renewed}
    (h : x.renewed o = .ok renewed) : renewed.access ≠ "" := by
  obtain ⟨_, _, _, -, -, -, _, -, -, hne, -⟩ := renewed_eq_ok_iff.1 h
  exact hne

end Exchange

theorem Flight.access_ne_of_result {settings : Settings} {f : Flight} {x : Exchange}
    {renewed : Renewed} (h : f.result settings x = .ok renewed) : renewed.access ≠ "" := by
  unfold Flight.result at h
  generalize Session.renewalRequest settings f.refresh = request at h
  cases request with
  | ok o => exact Exchange.access_ne_of_renewed h
  | error e => cases h

end ShopClient
