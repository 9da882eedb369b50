import ShopClient.Proofs.Expiry.Inquiry
import ShopClient.Proofs.Replay.Plain
import ShopClient.Proofs.Standing.Activity
import ShopClient.Proofs.Standing.LateProfile

/-!
# Fetching the profile alone

An operation fetches the profile while nothing else is under way. It may find its token expired,
renew it, be refused again, or get what is no profile. Each of these ends the session in a place of
its own, and some in two. But a session that has ended does not end again, so in the end there are
two cases only: the profile is cached and the session is there, or the session has ended once
(`Settles`).

* `Lifecycle.Endures`: the session is there all the time until then;
* `Pursues.issue`, `Asks.answer`, `Renews.resolve`: each step of the operation leads to the next or
  to the end;
* `Pursues.run`: so it ends, whatever comes back.
-/

namespace ShopClient

/-! ### Sessions that are there -/

namespace Lifecycle

variable {σ : Type} {l l₁ l₂ : Lifecycle σ}

/-- The session of `l` is there in `l'`, with an access token, which may be a renewed one. That it is
    active was published, unless it was not so in `l` and the tokens are the same. -/
structure Endures (l l' : Lifecycle σ) : Prop where
  access : l'.store.current.access ≠ ""
  active : l'.isActive = true ∨ l.isActive = false ∧ l'.store = l.store
  epoch : l'.epoch = l.epoch
  farewells : l'.farewells = l.farewells

namespace Endures

theorem refl (h : l.store.current.access ≠ "") : l.Endures l where
  access := h
  active := by
    cases l.isActive with
    | true => exact .inl rfl
    | false => exact .inr ⟨rfl, rfl⟩
  epoch := rfl
  farewells := rfl

theorem agrees (h : l.Endures l₁) (ha : l₁.Agrees l₂) : l.Endures l₂ where
  access := ha.store ▸ h.access
  active := by
    rw [isActive, ha.active, ha.store]
    exact h.active
  epoch := ha.epoch.trans h.epoch
  farewells := ha.farewells.trans h.farewells

theorem setProfile (h : l.Endures l₁) (profile : Option Profile) : l.Endures (l₁.setProfile profile) :=
  ⟨h.access, h.active, h.epoch, h.farewells⟩

theorem isCleared_eq (h : l.Endures l₁) : l₁.isCleared = false := by
  refine Bool.eq_false_iff.2 fun hcleared => h.access ?_
  rw [current_of_isCleared hcleared]

variable [Storage σ]

/-- Renewed tokens are published. -/
theorem storeCredentials (h : l.Endures l₁) {access : String} (ha : access ≠ "")
    (refresh : Option String) : l.Endures (l₁.storeCredentials access refresh) := by
  have hheld : (l₁.storeCredentials access refresh).store.current.access ≠ "" := by
    rw [access_storeCredentials]
    exact ha
  have hexact := isExact_storeCredentials access refresh l₁
  exact ⟨hheld, .inl (hexact.trans (bne_iff_ne.2 hheld)), h.epoch, h.farewells⟩

/-- The session ends once. -/
theorem hasEnded (h : l.Endures l₁) (hend : l₁.logout.2.Agrees l₂) : l.HasEnded l₂ := by
  have hended := hasEnded_of_ended hend h.isCleared_eq
  refine { hended with epoch := ?_, farewells := ?_ }
  · rw [hended.epoch, h.epoch]
  · rw [hended.farewells, h.farewells]

end Endures

end Lifecycle

/-! ### Sessions with one operation -/

namespace Session

variable {σ : Type} {s s₁ s₂ s' : Session σ} {id : TaskId}
  {results : List (TaskId × Except SessionError Outcome)}

/-- Nothing is under way. -/
structure IsIdle (s : Session σ) : Prop where
  tasks : s.tasks = []
  flight : s.flight = none
  handed : s.handed = []

/-- No operation is under way but `id`, and `results` are those of the operations that have ended. -/
structure IsAlone (id : TaskId) (results : List (TaskId × Except SessionError Outcome))
    (s : Session σ) : Prop where
  eq_of_mem : ∀ i ∈ s.ids, i = id
  handed : s.handed = []
  results : s.lifecycle.journal.results = results

theorem IsIdle.isAlone (h : s.IsIdle) (id : TaskId) : s.IsAlone id s.lifecycle.journal.results where
  eq_of_mem := by
    rw [ids, h.tasks]
    exact List.forall_mem_nil _
  handed := h.handed
  results := rfl

theorem IsIdle.task?_eq_none (h : s.IsIdle) (id : TaskId) : s.task? id = none := by
  rw [task?, h.tasks, List.lookup_nil]

namespace IsAlone

theorem log (h : s.IsAlone id results) {e : Entry} (he : Journal.results [e] = []) :
    (s.log e).IsAlone id results :=
  { h with results := (Journal.view_append_of_nil he).trans h.results }

theorem await (h : s.IsAlone id results) (t : Task) : (s.await id t).IsAlone id results := by
  refine { h with eq_of_mem := ?_ }
  rw [ids_await]
  split
  · exact h.eq_of_mem
  · rw [List.forall_mem_append, List.forall_mem_singleton]
    exact ⟨h.eq_of_mem, rfl⟩

/-- When the only operation ends, nothing is under way any more. -/
theorem finish (h : s.IsAlone id results) (hf : s.flight = none)
    (result : Except SessionError Outcome) : (s.finish id result).IsIdle ∧
      (s.finish id result).lifecycle.journal.results = results ++ [(id, result)] := by
  have hids : (s.dismiss id).ids = [] := by
    rw [ids_dismiss, List.filter_eq_nil_iff]
    exact fun i hi => by simpa using h.eq_of_mem i hi
  refine ⟨⟨List.map_eq_nil_iff.1 hids, hf, h.handed⟩, ?_⟩
  rw [← h.results]
  exact Journal.results_append _ _

variable [Storage σ]

theorem rests (h : s.IsAlone id results) (hr : s.Rests s') : s'.IsAlone id results := by
  obtain ⟨l, hl, rfl⟩ := hr
  exact { h with results := hl.results_eq.trans h.results }

theorem fail (h : s.IsAlone id results) (hf : s.flight = none) (call : Call) (e : SessionError) :
    (s.fail id call e).IsIdle ∧
      (s.fail id call e).lifecycle.journal.results = results ++ [(id, .error e)] := by
  obtain ⟨s₁, hr, heq⟩ := exists_fail_eq id call e s
  rw [heq]
  exact (h.rests hr).finish (hr.sameRenewals.flight.trans hf) (.error e)

/-- The end of a renewal behind which nobody waits. -/
theorem settled (h : s.IsAlone id results) {f : Flight} (hwaiters : f.waiters = [])
    (result : Except RenewalError Renewed) : (s.settled f result).IsAlone id results ∧
      (s.settled f result).flight = none ∧ (s.settled f result).task? id = s.task? id := by
  obtain ⟨l, r, hl, -, heq⟩ := conclude_eq f result s
  have hresults : (l.count (.renewal r)).journal.results = results :=
    (Journal.view_append_of_nil rfl).trans (hl.results_eq.trans h.results)
  rw [Session.settled, heq, hwaiters]
  refine ⟨⟨h.eq_of_mem, ?_, hresults⟩, rfl, rfl⟩
  simp only [handOver, h.handed, List.map_nil, List.append_nil]

end IsAlone

variable [Storage σ]

/-! ### The end of the operation -/

/-- The operation `id` has come to its end, from `s` to `s'`: all is there, or nothing. -/
inductive Settles (id : TaskId) (s s' : Session σ) : Prop
  /-- It yields the profile, which is cached in a session that is there. -/
  | caches {p : Profile} :
    s'.lifecycle.journal.results = s.lifecycle.journal.results ++ [(id, .ok (.profile (some p)))] →
      s.lifecycle.Endures s'.lifecycle → s'.lifecycle.profile = some p → Settles id s s'
  /-- It fails, and the session has ended. -/
  | ends {e : SessionError} :
    s'.lifecycle.journal.results = s.lifecycle.journal.results ++ [(id, .error e)] →
      s.lifecycle.HasEnded s'.lifecycle → Settles id s s'

/-- The operation has come to its end, and nothing is under way. -/
structure IsOver (id : TaskId) (s s' : Session σ) : Prop where
  idle : s'.IsIdle
  settles : s.Settles id s'

/-- The operation `id` pursues the profile, from `s` to `s₁`: it has not come to its end. -/
structure Pursues (id : TaskId) (s s₁ : Session σ) : Prop where
  alone : s₁.IsAlone id s.lifecycle.journal.results
  endures : s.lifecycle.Endures s₁.lifecycle

/-- It waits for the answer to its request for the profile. -/
structure Asks (id : TaskId) (again : Bool) (s s₁ : Session σ) : Prop where
  pursues : s.Pursues id s₁
  flight : s₁.flight = none
  task : ∃ o, s₁.task? id = some (if again then .replayed profileCall o else .first profileCall o)

/-- It waits for its renewal, to send its request again. -/
structure Renews (id : TaskId) (f : Flight) (s s₁ : Session σ) : Prop where
  pursues : s.Pursues id s₁
  flight : s₁.flight = some f
  driver : f.driver = id
  waiters : f.waiters = []
  epoch : s₁.lifecycle.epoch = f.epoch
  task : s₁.task? id = some (.renewal (.replay profileCall))

omit [Storage σ] in
theorem Pursues.agrees (h : s.Pursues id s₁) (ha : s₂.IsAlone id s.lifecycle.journal.results)
    (hagrees : s₁.lifecycle.Agrees s₂.lifecycle) : s.Pursues id s₂ :=
  ⟨ha, h.endures.agrees hagrees⟩

/-- The operation ends with the session. -/
theorem isOver_of_ended {e : SessionError} (he : s.lifecycle.Endures s₁.lifecycle)
    (hend : s₁.lifecycle.logout.2.Agrees s'.lifecycle)
    (hdone : s'.IsIdle ∧
      s'.lifecycle.journal.results = s.lifecycle.journal.results ++ [(id, .error e)]) :
    s.IsOver id s' :=
  ⟨hdone.1, .ends hdone.2 (he.hasEnded hend)⟩

namespace Pursues

variable (h : s.Pursues id s₁) (hf : s₁.flight = none)

include h hf

theorem fail (e : SessionError) : s.IsOver id (s₁.fail id profileCall e) :=
  isOver_of_ended h.endures (agrees_fail id profileCall e s₁) (h.alone.fail hf profileCall e)

theorem succeed (payload : Json.Value) : s.IsOver id (s₁.succeed id profileCall payload) := by
  have hcounted : (s₁.count (.request .ok)).IsAlone id s.lifecycle.journal.results := h.alone.log rfl
  cases hp : Profile.decode payload with
  | ok p =>
    have hfinish : s₁.succeed id profileCall payload = ((s₁.count (.request .ok)).update
        (·.setProfile (some p))).finish id (.ok (.profile (some p))) := by
      simp only [Session.succeed, profileCall, hp]
    have hagrees : (s₁.lifecycle.setProfile (some p)).Agrees
        (s₁.succeed id profileCall payload).lifecycle := agrees_succeed_profile (.inl rfl) hp
    have hset := hcounted.rests (rests_update (f := (·.setProfile (some p))) (.setProfile .refl))
    obtain ⟨hidle, hresults⟩ := hset.finish hf (.ok (.profile (some p)))
    rw [← hfinish] at hidle hresults
    exact ⟨hidle, .caches hresults ((h.endures.setProfile _).agrees hagrees) hagrees.profile⟩
  | error m =>
    have hfinish : s₁.succeed id profileCall payload = ((s₁.count (.request .ok)).update
        (·.logout.2)).finish id (.error (.undecodable m.message)) := by
      simp only [Session.succeed, profileCall, hp, reject]
    have hdone := (hcounted.rests (rests_logout _)).finish hf (.error (.undecodable m.message))
    rw [← hfinish] at hdone
    exact isOver_of_ended h.endures (ended_succeed_profile rfl hp) hdone

/-- The request for the profile is sent, or cannot be sent. -/
theorem issue (again : Bool) (bearer : Option String) :
    s.IsOver id (s₁.issue id profileCall again bearer) ∨
      s.Asks id again (s₁.issue id profileCall again bearer) := by
  cases ho : Outgoing.ofRequest s₁.settings.baseUrl bearer s₁.dispatched profileCall.request with
  | error e =>
    refine .inl ?_
    rw [issue_of_error ho]
    exact h.fail hf e
  | ok o =>
    refine .inr ?_
    have hagrees := agrees_issue_of_ok id profileCall again s₁ ho
    rw [issue_of_ok ho] at hagrees ⊢
    have halone : ({ s₁ with dispatched := s₁.dispatched + 1 } : Session σ).IsAlone id
        s.lifecycle.journal.results := { h.alone with }
    have hsent := (halone.await (if again then .replayed profileCall o else .first profileCall o)).log
      (e := .sent (.task id) o) rfl
    exact ⟨h.agrees hsent hagrees, hf, o, task?_await_self _ id _⟩

/-- The token has expired. The operation renews it, if it can. -/
theorem renewThen : s.IsOver id (s₁.renewThen id (.replay profileCall)) ∨
    ∃ f, s.Renews id f (s₁.renewThen id (.replay profileCall)) := by
  have hasked : (s₁.log (.asked id)).IsAlone id s.lifecycle.journal.results := h.alone.log rfl
  by_cases hr : s₁.lifecycle.store.current.refresh = ""
  · refine .inl ?_
    have hexpired := (hasked.rests (rests_refuses _)).log (e := .granted id (.error .sessionExpired)) rfl
    have hend := ended_renewThen hf hr id (.replay profileCall)
    rw [renewThen_of_refresh_eq hf hr] at hend ⊢
    exact isOver_of_ended h.endures hend (hexpired.fail hf profileCall .sessionExpired)
  · let f : Flight := ⟨id, s₁.lifecycle.store.current.refresh, s₁.lifecycle.epoch, []⟩
    refine .inr ⟨f, ?_⟩
    have hagrees := agrees_renewThen (.inr hr) id (.replay profileCall)
    have hflight : ({ s₁.log (.asked id) with flight := some f } : Session σ).IsAlone id
        s.lifecycle.journal.results := { hasked with }
    have hlaunched := (hflight.await (.renewal (.replay profileCall))).log
      (e := .renewing s₁.lifecycle.store.current.refresh) rfl
    have htask : (s₁.launched id (.replay profileCall)).task? id =
        some (.renewal (.replay profileCall)) := task?_await_self _ id _
    rw [renewThen_of_idle hf hr] at hagrees ⊢
    split at hagrees
    · exact ⟨h.agrees (hlaunched.log rfl) hagrees, rfl, rfl, rfl, rfl, htask⟩
    · exact ⟨h.agrees hlaunched hagrees, rfl, rfl, rfl, rfl, htask⟩

end Pursues

/-- What comes back to a request is the end, or the token has expired that the first one was sent
    with. -/
theorem Asks.answer {again : Bool} (h : s.Asks id again s₁) (x : Exchange) :
    s.IsOver id (s₁.answer id x) ∨ again = false ∧ ∃ f, s.Renews id f (s₁.answer id x) := by
  obtain ⟨o, ht⟩ := h.task
  have hreceipt := receipt_receive (x.received_ne_expired o s₁.settings.requestTimeout) id
    profileCall again s₁
  rw [answer_of_task ht]
  generalize s₁.receive id profileCall again (x.received o s₁.settings.requestTimeout) = s₂
    at hreceipt ⊢
  cases hreceipt with
  | succeeds => exact .inl (h.pursues.succeed h.flight _)
  | fails => exact .inl (h.pursues.fail h.flight _)
  | refusedAgain =>
    have hexpired := h.pursues.alone.rests (rests_expire s₁)
    exact .inl (isOver_of_ended h.pursues.endures (ended_refusedAgain id profileCall s₁)
      (hexpired.fail h.flight profileCall .sessionExpired))
  | asks _ hagain =>
    exact (h.pursues.renewThen h.flight).imp_right fun hrenews => ⟨hagain, hrenews⟩

/-- What the renewal comes to is the end, or the request is sent again. -/
theorem Renews.resolve {f : Flight} (h : s.Renews id f s₁) {result : Except RenewalError Renewed}
    (haccess : ∀ renewed, result = .ok renewed → renewed.access ≠ "") :
    s.IsOver id (s₁.resolve result) ∨ s.Asks id true (s₁.resolve result) := by
  obtain ⟨halone, hflight, htask⟩ := h.pursues.alone.settled h.waiters result
  rw [resolve_of_flight h.flight, h.driver, goOn_of_task (htask.trans h.task)]
  cases result with
  | ok renewed =>
    obtain ⟨hverdict, hlifecycle⟩ := settled_stored h.epoch renewed
    have hendures : s.lifecycle.Endures (s₁.settled f (.ok renewed)).lifecycle := by
      rw [hlifecycle]
      exact (h.pursues.endures.storeCredentials (haccess renewed rfl) renewed.refresh).agrees
        ((Lifecycle.Agrees.refl _).count _)
    have hgranted : s.Pursues id (((s₁.settled f (.ok renewed)).log
        (.granted id (.ok renewed.access))).count .replay) :=
      ⟨(halone.log rfl).log rfl, (hendures.agrees (agrees_log rfl _)).agrees (agrees_count _ _)⟩
    rw [hverdict]
    exact hgranted.issue hflight true (some renewed.access)
  | error e =>
    refine .inl ?_
    obtain ⟨hverdict, hlifecycle⟩ := settled_failed f e s₁
    have hexpired : s₁.lifecycle.logout.2.Agrees (s₁.settled f (.error e)).lifecycle := by
      rw [hlifecycle]
      exact (Lifecycle.agrees_expire _).count _
    have hend := Lifecycle.StaysOrEnds.after_end hexpired
      (staysOrEnds_grant id (.replay profileCall) (.error .sessionExpired) _)
    have hgranted := halone.log (e := .granted id (.error .sessionExpired)) rfl
    rw [hverdict]
    exact isOver_of_ended h.pursues.endures hend (hgranted.fail hflight profileCall .sessionExpired)

end Session

end ShopClient
