import ShopClient.Session.Basic
import Mathlib.Data.List.Basic

/-!
# Requests on the network

What becomes of a request when it is sent.

* `Outgoing.exists_ofRequest`: a request with a valid address can be sent with any token that fits in a
  header field, any number of times;
* `Outgoing.authorization_ofRequest`: the token stands in the header of what is sent;
* `Session.renewalRequest_spec`: a renewal sends the refresh token and no access token.
-/

namespace ShopClient

/-- The address of a request is valid and can be sent to. -/
def Request.IsSendable (base : String) (r : Request) : Prop :=
  ∃ u, r.url base = .ok u ∧ Outgoing.isSendable u.takeUserInfo.1 = true

namespace Outgoing

variable {base : String} {r : Request} {o : Outgoing}

/-- The type of the body has a field of its own. -/
@[simp] theorem authorization_typed (body : Option Json.Value) (headers : Http.Headers) :
    Keyed.get? authorization (typed body headers) = Keyed.get? authorization headers := by
  unfold typed
  split
  · exact Keyed.get?_insert_of_ne (by decide) _ _
  · rfl

/-- A field that says who sends the request takes the place of a name and a password in the address. -/
theorem identified_of_some {info : Option (String × Option String)} {headers : Http.Headers}
    {v : String} (hv : Keyed.get? authorization headers = some v) :
    identified info headers = headers := by
  unfold identified
  split
  · rename_i hnone
    exact nomatch hv.symm.trans hnone
  · rfl

theorem ofParts_eq_ok_iff {method : String} {url : Url} {headers : Http.Headers}
    {body : Option Json.Value} : ofParts method url headers body = .ok o ↔
      isSendable url.takeUserInfo.1 = true ∧
      o = { method, url := url.takeUserInfo.1,
            headers := typed body (identified url.takeUserInfo.2 headers),
            body := body.map Json.Value.print } := by
  simp only [ofParts]
  constructor
  · intro h
    split at h
    · rename_i hs
      exact ⟨hs, (Except.ok.inj h).symm⟩
    · cases h
  · rintro ⟨hs, rfl⟩
    exact if_pos hs

theorem exists_ofRequest (hr : r.IsSendable base) {bearer : Option String}
    (hb : ∀ t, bearer = some t → Http.Header.isValue (Http.Header.bearer t) = true) (id : Nat) :
    ∃ o, ofRequest base bearer id r = .ok o := by
  obtain ⟨u, hu, hs⟩ := hr
  cases bearer with
  | none =>
    simp only [ofRequest, hu]
    exact ⟨_, ofParts_eq_ok_iff.2 ⟨hs, rfl⟩⟩
  | some t =>
    simp only [ofRequest, hu, hb t rfl]
    exact ⟨_, ofParts_eq_ok_iff.2 ⟨hs, rfl⟩⟩

/-- That a request cannot be sent does not mean that the session is over. -/
theorem ofRequest_ne_expired (bearer : Option String) (id : Nat) :
    ofRequest base bearer id r ≠ .error .sessionExpired := by
  have hparts (method : String) (url : Url) (headers : Http.Headers) (body : Option Json.Value) :
      ofParts method url headers body ≠ .error .sessionExpired := by
    simp only [ofParts]
    split <;> rintro ⟨⟩
  intro h
  cases hu : r.url base with
  | error e =>
    simp only [ofRequest, hu] at h
    cases h
  | ok u =>
    cases bearer with
    | none =>
      simp only [ofRequest, hu] at h
      exact hparts _ _ _ _ h
    | some token =>
      by_cases hv : Http.Header.isValue (Http.Header.bearer token) = true
      · simp only [ofRequest, hu, if_pos hv] at h
        exact hparts _ _ _ _ h
      · simp only [ofRequest, hu, if_neg hv] at h
        cases h

/-- The header fields, with the access token if there is one. -/
def carrying (bearer : Option String) (headers : Http.Headers) : Http.Headers :=
  match bearer with
  | none => headers
  | some token => Keyed.insert authorization (Http.Header.bearer token) headers

/-- What is sent, if anything is. -/
theorem eq_of_ofRequest {bearer : Option String} {id : Nat}
    (h : ofRequest base bearer id r = .ok o) : ∃ url, r.url base = .ok url ∧
      o = { method := r.method, url := url.takeUserInfo.1,
            headers := typed r.body (identified url.takeUserInfo.2
              (Keyed.insert requestId (idText id) (carrying bearer r.headers))),
            body := r.body.map Json.Value.print } := by
  cases hu : r.url base with
  | error e => simp [ofRequest, hu, Except.mapError, bind, Except.bind] at h
  | ok url =>
    refine ⟨url, rfl, ?_⟩
    cases bearer with
    | none =>
      simp only [ofRequest, hu] at h
      exact (ofParts_eq_ok_iff.1 h).2
    | some token =>
      by_cases hv : Http.Header.isValue (Http.Header.bearer token) = true
      · simp only [ofRequest, hu, if_pos hv] at h
        exact (ofParts_eq_ok_iff.1 h).2
      · simp [ofRequest, hu, if_neg hv, Except.mapError, bind, Except.bind] at h

/-- The field that carries the access token stands in the header of what is sent. -/
theorem authorization_ofRequest {token : String} {id : Nat}
    (h : ofRequest base (some token) id r = .ok o) :
    Keyed.get? authorization o.headers = some (Http.Header.bearer token) := by
  obtain ⟨url, -, rfl⟩ := eq_of_ofRequest h
  have hv : Keyed.get? authorization (Keyed.insert requestId (idText id)
      (carrying (some token) r.headers)) = some (Http.Header.bearer token) := by
    rw [Keyed.get?_insert_of_ne (by decide), carrying, Keyed.get?_insert_self]
  rw [authorization_typed, identified_of_some hv, hv]

theorem basic_ne_bearer (user : String) (password : Option String) (token : String) :
    basic user password ≠ Http.Header.bearer token := by
  intro h
  have h' := congrArg String.toList h
  simp [basic, Http.Header.bearer] at h'

end Outgoing

/-- A renewal sends the refresh token, and no access token. -/
theorem Session.renewalRequest_spec {settings : Settings} {refresh : String} {o : Outgoing}
    (h : renewalRequest settings refresh = .ok o) :
    o.body = some (Json.Value.object [("refresh_token", .string refresh)]).print ∧
      ∀ token, Keyed.get? Outgoing.authorization o.headers ≠ some (Http.Header.bearer token) := by
  unfold renewalRequest at h
  dsimp only at h
  split at h
  · rw [Outgoing.ofParts_eq_ok_iff] at h
    obtain ⟨-, rfl⟩ := h
    refine ⟨?_, fun token ht => ?_⟩
    · rfl
    · rw [Outgoing.authorization_typed] at ht
      unfold Outgoing.identified at ht
      split at ht
      · rw [Keyed.get?_insert_self] at ht
        exact Outgoing.basic_ne_bearer _ _ _ (Option.some.inj ht)
      · exact nomatch ht
  · exact nomatch h

end ShopClient
