import ShopClient.Proofs.Session.Lifecycle
import ShopClient.Proofs.Session.Tasks
import ShopClient.Session.Run

/-!
# The course of an operation

What one operation does of its own when it goes on. As long as no renewal is involved it changes
nothing but itself and the lifecycle: it ends, or it sends a request and waits for the answer
(`Advances`). Otherwise it asks for a renewal, which only an operation does whose request was not sent
again (`Proceeds`). All that an operation can do is shown to be one of these, once; what a run keeps
follows from them.

A sign-in is public, so its request is never sent again (`Call.IsSound`).
-/

namespace ShopClient

/-- What holds of a call that waits for the answer to its first request, or to one that was sent
    again: a sign-in is public and is sent once. -/
def Call.IsSound (again : Bool) (call : Call) : Prop :=
  call.goal = .signIn → again = false ∧ call.request.isPublic = true

/-- What holds of what a renewal is wanted for: a sign-in is not sent again. -/
def Want.IsSound : Want → Prop
  | .replay call => call.IsSound true
  | _ => True

namespace Session

variable {σ : Type} [Storage σ] {s s₁ s' : Session σ} {id : TaskId} {again : Bool}

theorem run_concat (done : List Event) (e : Event) (s : Session σ) :
    s.run (done ++ [e]) = (s.run done).step e :=
  List.foldl_concat ..

theorem answerRenewal_of_flight {f : Flight} (hf : s.flight = some f) (x : Exchange) :
    s.answerRenewal x = s.resolve (f.result s.settings x) := by
  rw [answerRenewal, hf]

/-- The end of a renewal's exchange is the end of the renewal, with some result. -/
theorem exists_answerRenewal_eq (x : Exchange) (s : Session σ) :
    ∃ result, s.answerRenewal x = s.resolve result := by
  cases hf : s.flight with
  | some f => exact ⟨_, answerRenewal_of_flight hf x⟩
  | none =>
    -- There is no renewal to end, whatever it comes to.
    refine ⟨.error .missingAccessToken, ?_⟩
    rw [answerRenewal, resolve, hf]

/-! ### Changes of the lifecycle alone -/

/-- `s'` is `s` with a lifecycle that its own has become. -/
def Rests (s s' : Session σ) : Prop :=
  ∃ l, s.lifecycle.Becomes l ∧ s' = { s with lifecycle := l }

theorem Rests.refl (s : Session σ) : s.Rests s := ⟨_, .refl, rfl⟩

theorem Rests.trans (h : s.Rests s₁) (h' : s₁.Rests s') : s.Rests s' := by
  obtain ⟨l, hl, rfl⟩ := h
  obtain ⟨l', hl', rfl⟩ := h'
  exact ⟨l', hl.trans hl', rfl⟩

theorem rests_update {f : Lifecycle σ → Lifecycle σ} (h : s.lifecycle.Becomes (f s.lifecycle)) :
    s.Rests (s.update f) :=
  ⟨_, h, rfl⟩

theorem rests_count {c : Counter} (h : (Entry.counted c).IsRemark) (hc : c ≠ .logout) :
    s.Rests (s.count c) :=
  rests_update (.log .refl h fun h' => hc (Entry.counted.inj h'))

theorem rests_logout (s : Session σ) : s.Rests (s.update (·.logout.2)) :=
  rests_update (.logout .refl)

theorem rests_expire (s : Session σ) : s.Rests (s.update (·.expire)) :=
  rests_update (.expire .refl)

theorem rests_act (action : Action) (s : Session σ) :
    s.Rests (s.update fun l => (l.act action).2) := by
  refine rests_update ?_
  cases action with
  | storeCredentials access refresh => exact .storeCredentials .refl _ _
  | writeStore access refresh => exact .write .refl
  | storeRenewed epoch renewed => exact .storeRenewed .refl _ _
  | setProfile profile => exact .setProfile .refl
  | logout => exact .logout .refl
  | expire => exact .expire .refl
  | notify message => exact .tell .refl _

/-- Nothing that concerns renewals differs between `s` and `s'`. -/
structure SameRenewals (s s' : Session σ) : Prop where
  flight : s'.flight = s.flight
  handed : s'.handed = s.handed
  asked : s'.lifecycle.journal.asked = s.lifecycle.journal.asked
  grants : s'.lifecycle.journal.grants = s.lifecycle.journal.grants
  renewals : s'.lifecycle.journal.renewals = s.lifecycle.journal.renewals
  requests : s'.lifecycle.journal.renewalRequests = s.lifecycle.journal.renewalRequests
  ended : s'.lifecycle.journal.ended = s.lifecycle.journal.ended

theorem Rests.sameRenewals (h : s.Rests s') : s.SameRenewals s' := by
  obtain ⟨l, hl, rfl⟩ := h
  exact ⟨rfl, rfl, hl.asked_eq, hl.grants_eq, hl.renewals_eq, hl.renewalRequests_eq, hl.ended_eq⟩

omit [Storage σ] in
theorem SameRenewals.log (h : s.SameRenewals s₁) {e : Entry} (ha : Journal.asked [e] = [])
    (hg : Journal.grants [e] = []) (hn : Journal.renewals [e] = [])
    (hr : Journal.renewalRequests [e] = []) (he : Journal.ended [e] = 0) :
    s.SameRenewals (s₁.log e) where
  flight := h.flight
  handed := h.handed
  asked := (Journal.view_append_of_nil ha).trans h.asked
  grants := (Journal.view_append_of_nil hg).trans h.grants
  renewals := (Journal.view_append_of_nil hn).trans h.renewals
  requests := (Journal.view_append_of_nil hr).trans h.requests
  ended := (Journal.ended_append _ _).trans (by rw [he, Nat.add_zero, h.ended])

/-! ### Steps without a renewal -/

/-- An operation goes on without a renewal: it ends, or it sends a request and waits. `again` says
    whether that request was sent before. -/
inductive Advances (id : TaskId) (again : Bool) (s : Session σ) : Session σ → Prop
  | ends {s₁ : Session σ} {result : Except SessionError Outcome} :
    s.Rests s₁ → Advances id again s (s₁.finish id result)
  | sends {s₁ : Session σ} {call : Call} {request : Outgoing} :
    s.Rests s₁ → call.IsSound again →
      Advances id again s ((({ s₁ with dispatched := s₁.dispatched + 1 }).await id
        (if again then .replayed call request else .first call request)).log
          (.sent (.task id) request))

theorem Advances.of_rests (h : s.Rests s₁) (h' : Advances id again s₁ s') :
    Advances id again s s' := by
  cases h' with
  | ends hr => exact .ends (h.trans hr)
  | sends hr hc => exact .sends (h.trans hr) hc

/-- The course of an operation between two renewals does not concern them. -/
theorem Advances.sameRenewals (h : Advances id again s s') : s.SameRenewals s' := by
  cases h with
  | @ends s₁ _ hr =>
    obtain ⟨hf, hh, ha, hg, hn, hq, he⟩ := hr.sameRenewals
    have hs : s.SameRenewals (s₁.dismiss id) := ⟨hf, hh, ha, hg, hn, hq, he⟩
    exact hs.log rfl rfl rfl rfl rfl
  | @sends s₁ call request hr _ =>
    obtain ⟨hf, hh, ha, hg, hn, hq, he⟩ := hr.sameRenewals
    have hs : s.SameRenewals (({ s₁ with dispatched := s₁.dispatched + 1 }).await id
        (if again then .replayed call request else .first call request)) :=
      ⟨hf, hh, ha, hg, hn, hq, he⟩
    exact hs.log rfl rfl rfl rfl rfl

theorem Rests.task?_eq (h : s.Rests s') (i : TaskId) : s'.task? i = s.task? i := by
  obtain ⟨l, -, rfl⟩ := h
  rfl

/-- An operation that goes on leaves the others alone. -/
theorem Advances.task?_eq (h : Advances id again s s') {i : TaskId} (hi : i ≠ id) :
    s'.task? i = s.task? i := by
  cases h with
  | @ends s₁ result hr =>
    rw [← hr.task?_eq i]
    exact (task?_dismiss s₁ id i).trans (if_neg hi)
  | @sends s₁ call request hr _ =>
    rw [← hr.task?_eq i]
    exact (task?_await _ id i _).trans (if_neg hi)

/-- An operation that sent its request again does not come to wait for the answer to a first one. -/
theorem Advances.not_first (h : Advances id true s s')
    (hs : ∀ i call o, s.task? i ≠ some (.first call o)) :
    ∀ i call o, s'.task? i ≠ some (.first call o) := by
  intro i call o ht
  by_cases hi : i = id
  · subst hi
    cases h with
    | @ends s₁ result hr =>
      rw [show (s₁.finish i result).task? i = none from
        (task?_dismiss s₁ i i).trans (if_pos rfl)] at ht
      cases ht
    | @sends s₁ call' o' hr _ =>
      have hnew := (task?_await_self _ i (.replayed call' o')).symm.trans ht
      cases hnew
  · rw [h.task?_eq hi] at ht
    exact hs i call o ht

/-- A call that fails ends its operation with its error. -/
theorem exists_fail_eq (id : TaskId) (call : Call) (e : SessionError) (s : Session σ) :
    ∃ s₁, s.Rests s₁ ∧ s.fail id call e = s₁.finish id (.error e) := by
  have hcount : s.Rests (s.count (.request e.requestResult)) := rests_count trivial nofun
  have htell (message : String) (s : Session σ) : s.Rests (s.update (·.tell (.error message))) :=
    rests_update (.tell .refl _)
  simp only [fail]
  split
  · -- Without its profile the session is over.
    split
    · exact ⟨_, (hcount.trans (htell _ _)).trans (rests_logout _), rfl⟩
    · exact ⟨_, hcount.trans (rests_logout _), rfl⟩
  · -- Otherwise, at most what failed on its way is told.
    split
    · exact ⟨_, hcount.trans (htell _ _), rfl⟩
    · exact ⟨_, hcount, rfl⟩

theorem advances_fail (call : Call) (e : SessionError) (s : Session σ) :
    Advances id again s (s.fail id call e) := by
  obtain ⟨s₁, hr, heq⟩ := exists_fail_eq id call e s
  rw [heq]
  exact .ends hr

/-- A request that can be sent is sent, and waited for. -/
theorem issue_of_ok {call : Call} {again : Bool} {bearer : Option String} {o : Outgoing}
    (h : Outgoing.ofRequest s.settings.baseUrl bearer s.dispatched call.request = .ok o) :
    s.issue id call again bearer = (({ s with dispatched := s.dispatched + 1 } : Session σ).await id
      (if again then .replayed call o else .first call o)).log (.sent (.task id) o) := by
  unfold issue
  rw [h]

/-- One that cannot be sent is the end of its operation. -/
theorem issue_of_error {call : Call} {again : Bool} {bearer : Option String} {e : SessionError}
    (h : Outgoing.ofRequest s.settings.baseUrl bearer s.dispatched call.request = .error e) :
    s.issue id call again bearer = s.fail id call e := by
  unfold issue
  rw [h]

theorem advances_issue {call : Call} (h : call.IsSound again) (bearer : Option String)
    (s : Session σ) : Advances id again s (s.issue id call again bearer) := by
  cases ho : Outgoing.ofRequest s.settings.baseUrl bearer s.dispatched call.request with
  | ok o =>
    rw [issue_of_ok ho]
    exact .sends (Rests.refl s) h
  | error e =>
    rw [issue_of_error ho]
    exact advances_fail call e s

theorem advances_fetchProfile (s : Session σ) : Advances id false s (s.fetchProfile id) := by
  unfold fetchProfile
  split
  · exact advances_issue (by rintro ⟨⟩) _ s
  · exact .ends (Rests.refl s)

theorem advances_succeed {call : Call} (h : call.IsSound again) (payload : Json.Value)
    (s : Session σ) : Advances id again s (s.succeed id call payload) := by
  refine Advances.of_rests (rests_count (c := .request .ok) trivial nofun) ?_
  simp only [succeed]
  split
  · -- A payload for the caller.
    split <;> exact .ends (Rests.refl _)
  · -- The tokens of a new session, with which the profile is fetched at once.
    rename_i hgoal
    obtain ⟨rfl, -⟩ := h hgoal
    split
    · split
      · exact .ends (Rests.refl _)
      · exact (advances_fetchProfile _).of_rests (rests_update (.storeCredentials .refl _ _))
    · exact .ends (Rests.refl _)
  · -- The profile, without which the session is over.
    split
    · exact .ends (rests_update (.setProfile .refl))
    · exact .ends (rests_logout _)
  · -- The changed profile.
    split
    · exact .ends (rests_update (.setProfile .refl))
    · exact .ends (Rests.refl _)

/-- An operation that was told what its renewal came to does not wait for another. -/
theorem advances_grant {want : Want} (h : want.IsSound) (granted : Granted) (s : Session σ) :
    Advances id true (s.log (.granted id granted)) (s.grant id want granted) := by
  unfold grant
  split
  · exact (advances_issue h _ _).of_rests (rests_count (c := .replay) trivial nofun)
  · exact advances_fail _ _ _
  · exact .ends (Rests.refl _)
  · exact .ends (Rests.refl _)

/-! ### Steps of an operation that waits for no renewal -/

/-- An operation goes on that waits for no renewal: without one, or by asking for one. -/
inductive Proceeds (id : TaskId) (again : Bool) (s : Session σ) : Session σ → Prop
  | advances {s' : Session σ} : Advances id again s s' → Proceeds id again s s'
  | asks {want : Want} :
    again = false → want.IsSound → Proceeds id again s (s.renewThen id want)

/-- An operation that sent its request again does not ask for a renewal. -/
theorem Proceeds.advances_of_again (h : Proceeds id true s s') : Advances id true s s' := by
  cases h with
  | advances ha => exact ha
  | asks hagain _ => cases hagain

theorem proceeds_receive {call : Call} (h : call.IsSound again)
    (answer : Except SessionError Received) (s : Session σ) :
    Proceeds id again s (s.receive id call again answer) := by
  unfold receive
  split
  · exact .advances (advances_fail _ _ _)
  · split
    · exact .advances (advances_succeed h _ _)
    · exact .advances (advances_fail _ _ _)
  · -- The token was refused. Only here an operation can come to ask for a renewal.
    split
    · exact .advances ((advances_fail _ _ _).of_rests (rests_expire s))
    · rename_i hagain
      split
      · exact .advances (advances_fail _ _ _)
      · rename_i hpublic
        exact .asks (Bool.eq_false_iff.2 hagain) fun hgoal => absurd (h hgoal).2 hpublic

/-- A new operation. -/
theorem proceeds_start (operation : Operation) (s : Session σ) :
    Proceeds s.started false { s with started := s.started + 1 } (s.start operation) := by
  simp only [start]
  split
  · exact .advances (advances_issue (by rintro ⟨⟩) _ _)
  · exact .advances (.ends (Rests.refl _))
  · exact .advances (advances_issue (fun _ => ⟨rfl, rfl⟩) _ _)
  · exact .advances (advances_issue (by rintro ⟨⟩) _ _)
  · exact .advances (advances_fetchProfile _)
  · exact .advances (advances_issue (by rintro ⟨⟩) _ _)
  · split
    · exact .asks rfl trivial
    · exact .advances (.ends (Rests.refl _))
  · exact .asks rfl trivial

end Session

end ShopClient
