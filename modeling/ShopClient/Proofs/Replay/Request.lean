import ShopClient.Proofs.Session.Outgoing
import ShopClient.Proofs.Text.Keys

/-!
# A request that is sent again

What two requests on the network have in common that were made of the same description, with whatever
tokens and numbers. A token that is taken along is the only one in the header, also when the caller
had put a field of that name there.

* `Request.IsBuilt`: the descriptions that a caller can give. Each field stands there once;
* `Outgoing.authorizations_ofRequest`: the token that is taken along is the only one;
* `Outgoing.repeats_ofRequest`: apart from the token and the number nothing differs.
-/

namespace ShopClient

/-- The requests that can be described, one step after the other. -/
inductive Request.IsBuilt : Request → Prop
  | new (method path : String) : IsBuilt { method, path }
  | withQuery {r : Request} (key value : String) : IsBuilt r → IsBuilt (r.withQuery key value)
  | withBody {r r' : Request} {body : Except Json.Unencodable Json.Value} :
    IsBuilt r → r.withBody body = .ok r' → IsBuilt r'
  | withHeader {r r' : Request} {name value : String} :
    IsBuilt r → r.withHeader name value = .ok r' → IsBuilt r'
  | asPublic {r : Request} : IsBuilt r → IsBuilt r.asPublic

/-- Each header field that was added stands there once, in its place. -/
theorem Request.IsBuilt.isSorted_headers {r : Request} (h : r.IsBuilt) : r.headers.IsSorted := by
  induction h with
  | new => exact .nil
  | withQuery _ _ _ ih => exact ih
  | @withBody r r' body _ hb ih =>
    cases body with
    | ok v =>
      obtain rfl := Except.ok.inj hb
      exact ih
    | error reason => cases hb
  | @withHeader r r' name value _ hh ih =>
    rw [Request.withHeader] at hh
    split at hh
    · cases hh
    · split at hh
      · obtain rfl := Except.ok.inj hh
        exact ih.insert _ _
      · cases hh
  | asPublic _ ih => exact ih

namespace Outgoing

/-- The values of the field that carries the access token. -/
def authorizations (o : Outgoing) : List String :=
  (o.headers.filter (·.1 = authorization)).map (·.2)

/-- Whether a field depends neither on the access token nor on the number of the request. -/
def isLasting (e : String × String) : Bool := e.1 ≠ authorization ∧ e.1 ≠ requestId

/-- The request `o'` is `o` again: nothing differs but the access token and the number. -/
structure Repeats (o' o : Outgoing) : Prop where
  method : o'.method = o.method
  url : o'.url = o.url
  body : o'.body = o.body
  headers : o'.headers.filter isLasting = o.headers.filter isLasting

/-! ### The fields that are added -/

section Fields

variable (info : Option (String × Option String)) (body : Option Json.Value) {headers : Http.Headers}

theorem isSorted_identified (h : headers.IsSorted) : (identified info headers).IsSorted := by
  unfold identified
  split
  · exact h.insert _ _
  · exact h

theorem isSorted_typed (h : headers.IsSorted) : (typed body headers).IsSorted := by
  unfold typed
  split
  · exact h.insert _ _
  · exact h

theorem filter_identified :
    (identified info headers).filter isLasting = headers.filter isLasting := by
  unfold identified
  split
  · exact Keyed.filter_insert_of_neg (fun _ => by simp [isLasting]) _ _
  · rfl

theorem filter_typed (h : headers.IsSorted) :
    (typed body headers).filter isLasting = typed body (headers.filter isLasting) := by
  have hlasting (v : String) : isLasting (contentType, v) = true :=
    decide_eq_true ⟨show contentType ≠ authorization by decide,
      show contentType ≠ requestId by decide⟩
  unfold typed
  rw [Keyed.get?_filter hlasting]
  split
  · exact h.filter_insert_of_pos hlasting _
  · rfl

end Fields

/-! ### Requests of one description -/

variable {base : String} {r : Request} {o o' : Outgoing} {id id' : Nat}

theorem isSorted_carrying (hr : r.headers.IsSorted) (bearer : Option String) :
    (carrying bearer r.headers).IsSorted := by
  cases bearer with
  | none => exact hr
  | some token => exact hr.insert _ _

/-- A token that is taken along is the only one in the header. -/
theorem authorizations_ofRequest (hr : r.headers.IsSorted) {token : String}
    (h : ofRequest base (some token) id r = .ok o) :
    o.authorizations = [Http.Header.bearer token] := by
  have hv := authorization_ofRequest h
  obtain ⟨url, -, rfl⟩ := eq_of_ofRequest h
  have hsorted := isSorted_typed r.body (isSorted_identified url.takeUserInfo.2
    ((isSorted_carrying hr (some token)).insert requestId (idText id)))
  rw [authorizations, hsorted.filter_eq, hv]
  rfl

/-- The fields that depend neither on the token nor on the number are those of the description, with
    the type of the body. -/
theorem filter_headers_ofRequest (hr : r.headers.IsSorted) {bearer : Option String}
    (h : ofRequest base bearer id r = .ok o) :
    o.headers.filter isLasting = typed r.body (r.headers.filter isLasting) := by
  obtain ⟨url, -, rfl⟩ := eq_of_ofRequest h
  have hsorted := isSorted_identified url.takeUserInfo.2
    ((isSorted_carrying hr bearer).insert requestId (idText id))
  have hcarrying : (carrying bearer r.headers).filter isLasting = r.headers.filter isLasting := by
    cases bearer with
    | none => rfl
    | some token => exact Keyed.filter_insert_of_neg (fun _ => by simp [isLasting]) _ _
  rw [filter_typed _ hsorted, filter_identified,
    Keyed.filter_insert_of_neg (fun _ => by simp [isLasting]), hcarrying]

/-- Apart from the token and the number nothing differs between two requests of one description. -/
theorem repeats_ofRequest (hr : r.headers.IsSorted) {bearer bearer' : Option String}
    (h : ofRequest base bearer id r = .ok o) (h' : ofRequest base bearer' id' r = .ok o') :
    o'.Repeats o := by
  have hheaders := filter_headers_ofRequest hr h
  have hheaders' := filter_headers_ofRequest hr h'
  obtain ⟨url, hu, rfl⟩ := eq_of_ofRequest h
  obtain ⟨url', hu', rfl⟩ := eq_of_ofRequest h'
  obtain rfl := Except.ok.inj (hu.symm.trans hu')
  exact ⟨rfl, rfl, rfl, hheaders'.trans hheaders.symm⟩

end Outgoing

end ShopClient
