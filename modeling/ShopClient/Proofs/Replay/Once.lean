import ShopClient.Proofs.Replay.Course
import ShopClient.Proofs.Replay.Request

/-!
# A request is sent again once

What a call does from its beginning to its end, in any run: it sends at most two requests and asks for
a renewal at most once. The first request takes along the token that was stored when the call began,
the second one the token that the renewal came to, whatever is stored by then; apart from that and
from their numbers they are the same. When the new token is refused too, the session ends and the call
with it.

* `Begins`: how a call begins. The request for the profile after a sign-in is a call of its own;
* `Faithful`: what holds of all that a call did;
* `bounded_replay`: whatever happens, that holds.
-/

namespace ShopClient.Session

variable {σ : Type} [Storage σ] {s s₁ : Session σ} {e : Event} {id : TaskId} {call : Call}

/-! ### Beginnings -/

/-- With the event `e` the operation `id` begins a call, in `s₁`: it was just started, or its sign-in
    has brought the tokens to ask for the profile with. -/
inductive Begins (s : Session σ) : Event → TaskId → Call → Session σ → Prop
  | send (request : Request) (shape : Shape) :
    Begins s (.start (.send (.ok request) shape)) s.started ⟨request, .payload shape⟩
      { s with started := s.started + 1 }
  | signIn (c : Credentials) :
    Begins s (.start (.signIn c)) s.started
      ⟨(Request.post Settings.loginPath c.toValue).asPublic, .signIn⟩
      { s with started := s.started + 1 }
  | register (c : Credentials) :
    Begins s (.start (.register c)) s.started
      ⟨(Request.post Settings.registerPath c.toValue).asPublic, .payload .any⟩
      { s with started := s.started + 1 }
  | fetchProfile :
    s.lifecycle.store.current.hasAccess = true →
      Begins s (.start .fetchProfile) s.started profileCall { s with started := s.started + 1 }
  | changeProfile (change : ProfileChange) :
    Begins s (.start (.changeProfile change)) s.started
      ⟨{ method := "PUT", path := Settings.profilePath, body := some change.toValue.keyed },
        .changedProfile⟩
      { s with started := s.started + 1 }
  | follows {e : Event} {d : Delivery} {payload : Json.Value} {reply : SignInReply} :
    s.delivery? e = some d → d.call.goal = .signIn → payload? d.answer = some payload →
      tokens? payload = some reply → Begins s e d.id profileCall (s.signedIn reply)

theorem Begins.step_eq (h : s.Begins e id call s₁) : s.step e = s₁.begin id call := by
  cases h with
  | fetchProfile haccess => exact if_pos haccess
  | follows hd hgoal hp ht =>
    rw [(step_of_delivery? hd).1, receive_of_payload hp, succeed_signIn hgoal ht]
  | _ => rfl

theorem Begins.hasBegun (h : s.Begins e id call s₁) (hin : s.InOrder []) :
    HasBegun s₁ id (s₁.begin id call) := by
  have hlt : id < (s.step e).started := by
    cases h with
    | follows hd =>
      exact Nat.lt_of_lt_of_le (hin.ids_lt _ (mem_ids_of_delivery? hd)) (started_le_step hin _)
    | _ =>
      rw [(turn_step hin _).fixed.2]
      exact Nat.lt_succ_self _
  have hsettings : s₁.settings = s.settings := by cases h <;> rfl
  rw [← h.step_eq]
  exact ⟨inOrder_step hin e, hlt, (settings_step hin e).trans hsettings.symm⟩

/-! ### What a call did -/

/-- What holds of all that the call `id` did since it began in `s`, when `rest` has happened. -/
structure Faithful (s : Session σ) (id : TaskId) (call : Call) (rest : List Event) (did : Journal) :
    Prop where
  requests_le : did.requests.length ≤ 2
  asked_le : did.asked.length ≤ 1
  /-- The first request is sent, if it can be sent. -/
  first : did.requests.head? = (s.opening call).toOption.map (.task id, ·)
  /-- It takes along the token that was stored when the call began. -/
  bearer : ∀ o, s.opening call = .ok o → s.lifecycle.store.current.access ≠ "" →
    o.authorizations = [Http.Header.bearer s.lifecycle.store.current.access]
  /-- The second one is sent after the token of the first was refused, with the new token. -/
  second : ∀ r, did.requests[1]? = some r → ∃ o t o' tail, r = (.task id, o') ∧
    did = .sent (.task id) o :: .asked id :: .granted id (.ok t) :: .sent (.task id) o' :: tail ∧
    s.Refuses id call o rest ∧ o'.authorizations = [Http.Header.bearer t] ∧ o'.Repeats o
  /-- It is sent when there is a new token, if it can be sent with it. -/
  again : ∀ t, .granted id (.ok t) ∈ did → did.requests.length = 2 ∨ ∃ e, s.Resends call t (.error e)

variable {rest : List Event} {did : Journal} {t? : Option Task} {o : Outgoing}

omit [Storage σ] in
/-- The token that is stored when a call begins is the only one that its request takes along. -/
theorem authorizations_opening (hr : call.request.IsBuilt) (ho : s.opening call = .ok o)
    (haccess : s.lifecycle.store.current.access ≠ "") :
    o.authorizations = [Http.Header.bearer s.lifecycle.store.current.access] := by
  have hbearer : s.access? = some s.lifecycle.store.current.access :=
    if_pos (decide_eq_true haccess)
  rw [opening, hbearer] at ho
  exact Outgoing.authorizations_ofRequest hr.isSorted_headers ho

theorem faithful_of_one (hr : call.request.IsBuilt) (ho : s.opening call = .ok o)
    (hrequests : did.requests = [(.task id, o)]) (hasked : did.asked.length ≤ 1)
    (hagain : ∀ t, .granted id (.ok t) ∈ did → ∃ e, s.Resends call t (.error e)) :
    s.Faithful id call rest did where
  requests_le := by simp [hrequests]
  asked_le := hasked
  first := by rw [hrequests, ho]; rfl
  bearer _ ho' := authorizations_opening hr ho'
  second r hsecond := by simp [hrequests] at hsecond
  again t ht := .inr (hagain t ht)

theorem faithful_of_two (hr : call.request.IsBuilt) {o' : Outgoing} {t : String} {tail : Journal}
    (ho : s.opening call = .ok o) (hrefuses : s.Refuses id call o rest)
    (hresends : s.Resends call t (.ok o')) (hrequests : tail.requests = [])
    (hasked : tail.asked = []) : s.Faithful id call rest
      (.sent (.task id) o :: .asked id :: .granted id (.ok t) :: .sent (.task id) o' :: tail) := by
  have hall : Journal.requests (.sent (.task id) o :: .asked id :: .granted id (.ok t) ::
      .sent (.task id) o' :: tail) = [(.task id, o), (.task id, o')] :=
    congrArg (_ :: _ :: ·) hrequests
  obtain ⟨n, hn⟩ := hresends
  exact {
    requests_le := by simp [hall]
    asked_le := Nat.le_of_eq (congrArg (fun l => List.length (id :: l)) hasked)
    first := by rw [hall, ho]; rfl
    bearer := fun _ ho' => authorizations_opening hr ho'
    second := fun r hsecond => by
      rw [hall] at hsecond
      exact ⟨o, t, o', tail, (Option.some.inj hsecond).symm, rfl, hrefuses,
        Outgoing.authorizations_ofRequest hr.isSorted_headers hn,
        Outgoing.repeats_ofRequest hr.isSorted_headers ho hn⟩
    again := fun _ _ => .inl (by rw [hall]; rfl) }

theorem Course.faithful (h : Course s id call rest did t?) (hr : call.request.IsBuilt) :
    s.Faithful id call rest did := by
  -- Only after the renewal there is a new token.
  induction h with
  | unsent ho =>
    exact {
      requests_le := Nat.zero_le 2
      asked_le := Nat.zero_le 1
      first := by rw [ho]; rfl
      bearer := fun _ ho' => authorizations_opening hr ho'
      second := fun r hsecond => by simp [Journal.requests] at hsecond
      again := fun t ht => by simp at ht }
  | waits ho => exact faithful_of_one hr ho rfl (Nat.zero_le 1) fun t ht => by simp at ht
  | answered ho => exact faithful_of_one hr ho rfl (Nat.zero_le 1) fun t ht => by simp at ht
  | asks ho => exact faithful_of_one hr ho rfl (Nat.le_refl 1) fun t ht => by simp at ht
  | denied ho => exact faithful_of_one hr ho rfl (Nat.le_refl 1) fun t ht => by simp at ht
  | unsentAgain ho _ hresends =>
    refine faithful_of_one hr ho rfl (Nat.le_refl 1) fun t ht => ?_
    obtain rfl : t = _ := by simpa using ht
    exact ⟨_, hresends⟩
  | waitsAgain ho hrefuses hresends => exact faithful_of_two hr ho hrefuses hresends rfl rfl
  | answeredAgain ho hrefuses hresends => exact faithful_of_two hr ho hrefuses hresends rfl rfl
  | dropped _ ih => exact ih

/-! ### When a token is refused -/

/-- A call that waited for the answer to its first request, and was refused the token, asks for a
    renewal, unless it needs none. -/
theorem asks_answer (ht : s.task? id = some (.first call o)) (hneeds : call.request.isPublic = false)
    (body : Text.Bytes) :
    ∃ more, (s.step (.answer id (.answered .unauthorized body))).deeds id =
      s.deeds id ++ .asked id :: more := by
  have hstep : s.step (.answer id (.answered .unauthorized body)) =
      s.renewThen id (.replay call) := by
    have hreceives : s.receive id call false (.ok (.unauthorized body)) =
        s.renewThen id (.replay call) := by
      simp only [receive, Bool.false_eq_true, if_false, hneeds]
    simp only [step, answer, ht]
    exact hreceives
  rw [hstep]
  rcases does_renewThen id call s with hdone | hdone
  · exact ⟨_, hdone.deeds⟩
  · exact ⟨_, hdone.deeds⟩

/-- The operation `id` yields that the session is over, and it is: nothing of it is left, and the user
    is asked to sign in. -/
structure EndsExpired (id : TaskId) (s s' : Session σ) : Prop where
  does : Does id [.finished id (.error .sessionExpired)] none s s'
  expires : s.lifecycle.expire.Agrees s'.lifecycle
  tells : s.lifecycle.expire.journal <+: s'.lifecycle.journal
  current : s'.lifecycle.store.current = {}
  profile : s'.lifecycle.profile = none

/-- The journal of a session only grows when a call fails. -/
theorem journal_prefix_fail (id : TaskId) (call : Call) (e : SessionError) (s : Session σ) :
    s.lifecycle.journal <+: (s.fail id call e).lifecycle.journal := by
  obtain ⟨s₁, ⟨l, hl, rfl⟩, heq⟩ := exists_fail_eq id call e s
  obtain ⟨news, hj, -⟩ := hl.journal
  refine ⟨news ++ [.finished id (.error e)], ?_⟩
  rw [heq, ← List.append_assoc, ← hj]
  rfl

/-- A call that waited for the answer to its second request, and was refused the new token. -/
theorem endsExpired_answer (ht : s.task? id = some (.replayed call o)) (body : Text.Bytes) :
    s.EndsExpired id (s.step (.answer id (.answered .unauthorized body))) := by
  have hstep : s.step (.answer id (.answered .unauthorized body)) =
      (s.update (·.expire)).fail id call .sessionExpired := by
    simp only [step, answer, ht]
    rfl
  have hcleared : s.lifecycle.expire.isCleared = true := by
    rw [(Lifecycle.agrees_expire s.lifecycle).isCleared_eq, Lifecycle.isCleared_logout]
  -- Even a call for the profile has nothing left to end.
  have hagrees : s.lifecycle.expire.Agrees
      ((s.update (·.expire)).fail id call .sessionExpired).lifecycle := by
    have hfails := agrees_fail id call .sessionExpired (s.update (·.expire))
    cases hgoal : call.goal with
    | profile =>
      rw [hgoal] at hfails
      have hlogout : s.lifecycle.expire.logout.2 = s.lifecycle.expire := by
        rw [Lifecycle.logout_of_isCleared hcleared]
      exact hlogout ▸ hfails
    | _ =>
      rw [hgoal] at hfails
      exact hfails
  have hended := (Lifecycle.agrees_expire s.lifecycle).trans hagrees
  rw [hstep]
  exact {
    does := (rests_expire s).spares.then (does_fail id call .sessionExpired _)
    expires := hagrees
    tells := journal_prefix_fail id call .sessionExpired (s.update (·.expire))
    current := by rw [hended.store, Lifecycle.current_logout]
    profile := by rw [hended.profile, Lifecycle.profile_logout] }

/-! ### All runs -/

/-- Whatever happens to a session, before a call begins in it and afterwards:

    * all that the call does is faithful;
    * when the token of its first request is refused, and it needs one, it asks for a renewal;
    * when the new token is refused too, the session ends with it, and it does nothing any more. -/
theorem bounded_replay (settings : Settings) (store : CredentialStore σ) {earlier : List Event}
    (hb : ((ofStore settings store).run earlier).Begins e id call s₁) (hr : call.request.IsBuilt)
    (hl : (s₁.begin id call).Lasts id call rest) :
    let s' := (ofStore settings store).run (earlier ++ e :: rest)
    (∃ did, s'.deeds id = s₁.deeds id ++ did ∧ s₁.Faithful id call rest did) ∧
      ∀ before body after o, rest = before ++ .answer id (.answered .unauthorized body) :: after →
        let s₂ := (s₁.begin id call).run before
        let s₃ := s₂.step (.answer id (.answered .unauthorized body))
        (s₂.task? id = some (.first call o) → call.request.isPublic = false →
          ∃ more, s₃.deeds id = s₂.deeds id ++ .asked id :: more) ∧
        (s₂.task? id = some (.replayed call o) →
          s₂.EndsExpired id s₃ ∧ s'.deeds id = s₃.deeds id) := by
  intro s'
  have hbegun := hb.hasBegun (inOrder_run (inOrder_ofStore settings store) earlier)
  have hs' : s' = (s₁.begin id call).run rest := by
    rw [← hb.step_eq]
    exact List.foldl_append
  constructor
  · obtain ⟨did, t?, hd, hc⟩ := course_run hbegun hl
    exact ⟨did, hs' ▸ hd.deeds, hc.faithful hr⟩
  · rintro before body after o rfl s₂ s₃
    refine ⟨fun ht hneeds => asks_answer ht hneeds body, fun ht => ?_⟩
    have hends : s₂.EndsExpired id s₃ := endsExpired_answer ht body
    have hrun : s' = s₃.run after := hs'.trans List.foldl_append
    have hspares := spares_run_of_none ((hbegun.run before).step _) hends.does.task after
    exact ⟨hends, by rw [hrun, hspares.deeds, List.append_nil]⟩

/-- An order with a credential of its own, which the tokens take the place of, is refused twice.
    Meanwhile somebody else changes the token that is stored. -/
theorem bounded_replay_refused_twice :
    let order : Request := { method := "POST", path := "/orders", body := some (.object []),
                             headers := [("authorization", "Basic dTpw"), ("x-trace", "7")] }
    let call : Call := ⟨order, .payload .any⟩
    let refused : Event := .answer 0 (.answered .unauthorized [])
    let rest : List Event :=
      [refused, .resolve (.ok ⟨"a2", none⟩), .act (.writeStore "b" none), refused]
    let s₀ : Session Memory := ofStore {} ⟨⟨[]⟩, ⟨"a1", "r1"⟩⟩
    let s₁ : Session Memory := { s₀ with started := 1 }
    let s' := s₀.run (.start (.send (.ok order) .any) :: rest)
    s₁.Faithful 0 call rest (s'.deeds 0) ∧
      (s'.deeds 0).requests.map (·.2.authorizations) = [["Bearer a1"], ["Bearer a2"]] ∧
      s'.lifecycle.store.current = {} := by
  intro order call refused rest s₀ s₁ s'
  have hbuilt : order.IsBuilt := by
    have hbody : Request.IsBuilt { method := "POST", path := "/orders", body := some (.object []) } :=
      (Request.IsBuilt.new "POST" "/orders").withBody
        (show Request.withBody (.ok (.object [])) _ = .ok _ from rfl)
    have hown : Request.IsBuilt { method := "POST", path := "/orders", body := some (.object []),
                                  headers := [("authorization", "Basic dTpw")] } :=
      hbody.withHeader (show Request.withHeader "Authorization" "Basic dTpw" _ = .ok _ from rfl)
    exact hown.withHeader (show Request.withHeader "X-Trace" "7" _ = .ok _ from rfl)
  have hbegins : (s₀.run []).Begins (.start (.send (.ok order) .any)) 0 call s₁ := .send order .any
  have hlasts : (s₁.begin 0 call).Lasts 0 call rest := nofun
  obtain ⟨⟨did, hdid, hfaithful⟩, -⟩ := bounded_replay {} ⟨⟨[]⟩, ⟨"a1", "r1"⟩⟩ hbegins hbuilt hlasts
  have hdeeds : s'.deeds 0 = did := hdid
  exact ⟨hdeeds ▸ hfaithful, by decide +kernel, by decide +kernel⟩

end ShopClient.Session
