import ShopClient.Proofs.Renewal.Steps

/-!
# Outcomes that are passed on

An operation that wants nothing but a renewal yields what the renewal came to for it: the new access
token, or the word that there is one, or why there is none. It does so when it goes on, and does nothing
else before or afterwards.

* `Operation.relays?`: the operations that do nothing else, and what they yield of a new token;
* `resultsStarted_run`: nothing has ended that was not started;
* `Relays`: what an operation has yielded is what it was granted;
* `relays_step`, `relays_run`: this is so at any time, from the start of the operation on.
-/

namespace ShopClient

/-- What is yielded of a new access token, if nothing else is to be done with it. -/
def Want.relays? : Want → Option (String → Outcome)
  | .replay _ => none
  | .token => some .token
  | .acknowledgement => some fun _ => .renewed true

/-- What an operation yields of a new access token that does nothing else but renew it. -/
def Operation.relays? {σ : Type} (s : Session σ) : Operation → Option (String → Outcome)
  | .renew => some .token
  | .renewNow => if s.lifecycle.store.current.hasRefresh then some fun _ => .renewed true else none
  | _ => none

namespace Journal

/-- What the operation `id` went on with. -/
def grantsOf (id : TaskId) (j : Journal) : List Granted := (j.grants.filter (·.1 = id)).map (·.2)

/-- How the operation `id` ended. -/
def resultsOf (id : TaskId) (j : Journal) : List (Except SessionError Outcome) :=
  (j.results.filter (·.1 = id)).map (·.2)

theorem grantsOf_append (id : TaskId) (j k : Journal) :
    grantsOf id (j ++ k) = grantsOf id j ++ grantsOf id k := by
  rw [grantsOf, grants_append, List.filter_append, List.map_append, grantsOf, grantsOf]

theorem resultsOf_append (id : TaskId) (j k : Journal) :
    resultsOf id (j ++ k) = resultsOf id j ++ resultsOf id k := by
  rw [resultsOf, results_append, List.filter_append, List.map_append, resultsOf, resultsOf]

/-- The operation `id` has yielded what it went on with, having made `out` of each token. -/
def Relays (id : TaskId) (out : String → Outcome) (j : Journal) : Prop :=
  j.resultsOf id = (j.grantsOf id).map (·.map out)

theorem Relays.append {id : TaskId} {out : String → Outcome} {j k : Journal} (hj : j.Relays id out)
    (hk : k.Relays id out) : (j ++ k).Relays id out := by
  rw [Relays, resultsOf_append, grantsOf_append, hj, hk, List.map_append]

end Journal

namespace Session

variable {σ : Type} {s s₁ s' : Session σ} {id i : TaskId} {out : String → Outcome} {want : Want}

/-! ### Operations that have ended -/

theorem results_finish (id : TaskId) (result : Except SessionError Outcome) (s : Session σ) :
    (s.finish id result).lifecycle.journal.results =
      s.lifecycle.journal.results ++ [(id, result)] :=
  Journal.results_append _ [.finished id result]

/-- All operations that have ended were started. -/
def ResultsStarted (s : Session σ) : Prop :=
  ∀ i result, (i, result) ∈ s.lifecycle.journal.results → i < s.started

theorem ResultsStarted.of_eq (h : s.ResultsStarted) (hstarted : s'.started = s.started)
    (hresults : s'.lifecycle.journal.results = s.lifecycle.journal.results) : s'.ResultsStarted := by
  intro i result hi
  rw [hresults] at hi
  exact hstarted ▸ h i result hi

theorem ResultsStarted.log (h : s.ResultsStarted) {e : Entry} (he : Journal.results [e] = []) :
    (s.log e).ResultsStarted :=
  h.of_eq rfl (Journal.view_append_of_nil he)

theorem resultsStarted_ofStore (settings : Settings) (store : CredentialStore σ) :
    (ofStore settings store).ResultsStarted :=
  fun _ _ h => absurd h List.not_mem_nil

variable [Storage σ]

theorem ResultsStarted.rests (h : s.ResultsStarted) (hr : s.Rests s') : s'.ResultsStarted := by
  obtain ⟨l, hl, rfl⟩ := hr
  exact h.of_eq rfl hl.results_eq

theorem ResultsStarted.advances (h : s.ResultsStarted) {again : Bool} (hid : id < s.started)
    (ha : Advances id again s s') : s'.ResultsStarted := by
  cases ha with
  | @ends s₁ result hr =>
    have hstarted : s₁.started = s.started := by
      obtain ⟨l, -, rfl⟩ := hr
      rfl
    intro i r hi
    rw [results_finish, List.mem_append, List.mem_singleton] at hi
    rcases hi with hi | hi
    · exact h.rests hr i r hi
    · obtain rfl := congrArg Prod.fst hi
      exact hstarted.symm ▸ hid
  | @sends s₁ call request hr _ =>
    exact (h.rests hr).of_eq rfl (Journal.view_append_of_nil rfl)

theorem ResultsStarted.turn (h : s.ResultsStarted) (hin : s.InOrder []) {lost : List TaskId}
    {dealt : List (TaskId × Granted)} (ht : Turn s lost dealt s') : s'.ResultsStarted := by
  have hwaiting (i : TaskId) (hi : i ∈ s.waiting) : i < s.started :=
    hin.asked_lt i (hin.line_asked i (List.mem_append_right _ hi))
  -- Only the turns in which an operation goes on add a result, and it was started.
  cases ht with
  | rests hr => exact h.rests hr
  | advances hp ha => exact h.advances hp.lt ha
  | parks => exact h.of_eq rfl (Journal.view_append_of_nil rfl)
  | @drives id want s' _ _ _ _ hs' =>
    have hlaunched : (s.launched id want).ResultsStarted :=
      ((h.log (e := .asked id) rfl).of_eq rfl rfl).log rfl
    rcases hs' with rfl | ⟨o, rfl⟩
    · exact hlaunched
    · exact hlaunched.log rfl
  | @denied id s₁ s' hp _ _ hr ha =>
    have hstarted : s₁.started = s.started := by
      obtain ⟨l, -, rfl⟩ := hr
      rfl
    have hasked := (h.log (e := .asked id) rfl).rests hr
    exact (hasked.log rfl).advances (hstarted.symm ▸ hp.lt) ha
  | @concludes f granted l r s' hf hl _ ha =>
    have hends : (({ s with flight := none, lifecycle := l.count (.renewal r) } :
        Session σ).handOver f.waiters granted).ResultsStarted :=
      h.of_eq rfl ((Journal.view_append_of_nil rfl).trans hl.results_eq)
    exact (hends.log rfl).advances (hwaiting f.driver (mem_waiting_of_flight hf)) ha
  | @picksUp id granted rest s' hh ha =>
    have hpops : ({ s with handed := rest } : Session σ).ResultsStarted := h.of_eq rfl rfl
    refine (hpops.log rfl).advances (hwaiting id ?_) ha
    simp [waiting, hh]
  | skips => exact h.of_eq rfl rfl
  | leaves => exact h.of_eq rfl rfl
  | abandons => exact h.of_eq rfl (Journal.view_append_of_nil rfl)
  | turnsAway => exact h.of_eq rfl rfl

theorem resultsStarted_run (h : s.ResultsStarted) (hin : s.InOrder []) (events : List Event) :
    (s.run events).ResultsStarted := by
  induction events generalizing s with
  | nil => exact h
  | cons e events ih =>
    have hopened : (s.opened e).ResultsStarted := by
      rcases opened_cases s e with heq | heq <;> rw [heq]
      · exact h
      · exact fun i result hi => Nat.lt_succ_of_lt (h i result hi)
    exact ih (hopened.turn (hin.opened e) (turn_step hin e)) (inOrder_step hin e)

/-! ### What is passed on -/

/-- The operation `id` wants nothing but a new access token, of which it yields `out`. It waits for a
    renewal, or for nothing any more, and what it has yielded is what it was granted. -/
structure Relays (id : TaskId) (out : String → Outcome) (s : Session σ) : Prop where
  lt : id < s.started
  task : ∀ t, s.task? id = some t → ∃ want, t = .renewal want ∧ want.relays? = some out
  results : s.lifecycle.journal.Relays id out

namespace Relays

omit [Storage σ] in
theorem of_eq (h : s.Relays id out) (hstarted : s'.started = s.started)
    (htask : ∀ t, s'.task? id = some t → s.task? id = some t)
    (hgrants : s'.lifecycle.journal.grants = s.lifecycle.journal.grants)
    (hresults : s'.lifecycle.journal.results = s.lifecycle.journal.results) : s'.Relays id out where
  lt := hstarted ▸ h.lt
  task t ht := h.task t (htask t ht)
  results := by
    rw [Journal.Relays, Journal.resultsOf, hresults, Journal.grantsOf, hgrants]
    exact h.results

omit [Storage σ] in
theorem log (h : s.Relays id out) {e : Entry} (he : Journal.Relays id out [e]) :
    (s.log e).Relays id out :=
  ⟨h.lt, h.task, h.results.append he⟩

omit [Storage σ] in
theorem dismiss (h : s.Relays id out) (i : TaskId) : (s.dismiss i).Relays id out := by
  refine h.of_eq rfl (fun t ht => ?_) rfl rfl
  rw [task?_dismiss] at ht
  split at ht
  · cases ht
  · exact ht

omit [Storage σ] in
theorem await (h : s.Relays id out) {t : Task}
    (ht : i = id → ∃ want, t = .renewal want ∧ want.relays? = some out) :
    (s.await i t).Relays id out where
  lt := h.lt
  task t' ht' := by
    rw [task?_await] at ht'
    split at ht'
    · rename_i hi
      obtain rfl := Option.some.inj ht'
      exact ht hi.symm
    · exact h.task t' ht'
  results := h.results

omit [Storage σ] in
/-- Another operation ends. -/
theorem finish_other (h : s.Relays id out) (hi : i ≠ id) (result : Except SessionError Outcome) :
    (s.finish i result).Relays id out :=
  (h.dismiss i).log (by simp [Journal.Relays, Journal.resultsOf, Journal.results, Journal.grantsOf,
    Journal.grants, hi])

omit [Storage σ] in
/-- It is granted something, and yields that. -/
theorem finish_granted (h : s.Relays id out) (granted : Granted) :
    ((s.log (.granted id granted)).finish id (granted.map out)).Relays id out where
  lt := h.lt
  task := (h.dismiss id).task
  results := by
    have hjournal : ((s.log (.granted id granted)).finish id (granted.map out)).lifecycle.journal =
        s.lifecycle.journal ++ [.granted id granted, .finished id (granted.map out)] :=
      List.append_assoc ..
    rw [hjournal]
    exact h.results.append (by simp [Journal.Relays, Journal.resultsOf, Journal.results,
      Journal.grantsOf, Journal.grants])

theorem rests (h : s.Relays id out) (hr : s.Rests s') : s'.Relays id out := by
  obtain ⟨l, hl, rfl⟩ := hr
  exact h.of_eq rfl (fun _ ht => ht) hl.grants_eq hl.results_eq

/-- Another operation goes on without a renewal. -/
theorem advances (h : s.Relays id out) (hi : i ≠ id) {again : Bool} (ha : Advances i again s s') :
    s'.Relays id out := by
  cases ha with
  | ends hr => exact (h.rests hr).finish_other hi _
  | @sends s₁ call request hr _ =>
    have hsent : ({ s₁ with dispatched := s₁.dispatched + 1 } : Session σ).Relays id out :=
      (h.rests hr).of_eq rfl (fun _ ht => ht) rfl rfl
    exact (hsent.await fun heq => absurd heq hi).log rfl

omit [Storage σ] in
theorem relays_of_task (h : s.Relays id out) (hid : i = id) (ht : s.task? i = some (.renewal want)) :
    want.relays? = some out := by
  obtain ⟨want', heq, hw⟩ := h.task _ (hid ▸ ht)
  cases heq
  exact hw

/-- What an operation is granted it yields, if it is the one. -/
theorem grant (h : s.Relays id out) (hw : want.IsSound) (hid : i = id → want.relays? = some out)
    (granted : Granted) : (s.grant i want granted).Relays id out := by
  by_cases hi : i = id
  · subst hi
    cases want with
    | replay call => cases hid rfl
    | token =>
      obtain rfl := Option.some.inj (hid rfl)
      exact h.finish_granted granted
    | acknowledgement =>
      obtain rfl := Option.some.inj (hid rfl)
      exact h.finish_granted granted
  · have hlog : (s.log (.granted i granted)).Relays id out :=
      h.log (by simp [Journal.Relays, Journal.resultsOf, Journal.results, Journal.grantsOf,
        Journal.grants, hi])
    exact hlog.advances hi (advances_grant hw granted s)

/-- An operation asks for a renewal, and may be the one. -/
theorem renewThen (h : s.Relays id out) (hw : want.IsSound)
    (hid : i = id → want.relays? = some out) : (s.renewThen i want).Relays id out := by
  have hasked : (s.log (.asked i)).Relays id out := h.log rfl
  have hflies (f : Flight) :
      ({ s.log (.asked i) with flight := some f } : Session σ).Relays id out :=
    hasked.of_eq rfl (fun _ ht => ht) rfl rfl
  have hwaits (heq : i = id) : ∃ want', Task.renewal want = .renewal want' ∧
      want'.relays? = some out := ⟨want, rfl, hid heq⟩
  cases hf : s.flight with
  | some f =>
    rw [renewThen_of_flight hf]
    exact (hflies _).await hwaits
  | none =>
    by_cases hr : s.lifecycle.store.current.refresh = ""
    · rw [renewThen_of_refresh_eq hf hr]
      exact (hasked.rests (rests_refuses _)).grant hw hid _
    · have hlaunched : (s.launched i want).Relays id out :=
        ((hflies _).await hwaits).log rfl
      rw [renewThen_of_idle hf hr]
      split
      · exact hlaunched.log rfl
      · exact hlaunched

/-- Another operation goes on that waits for no renewal. -/
theorem proceeds (h : s.Relays id out) (hi : i ≠ id) {again : Bool} (hp : Proceeds i again s s') :
    s'.Relays id out := by
  cases hp with
  | advances ha => exact h.advances hi ha
  | asks _ hw => exact h.renewThen hw fun heq => absurd heq hi

/-- An operation that waits for a renewal goes on with what it came to. -/
theorem goOn (h : s.Relays id out)
    (hsound : ∀ want, s.task? i = some (.renewal want) → want.IsSound) (granted : Granted) :
    (s.goOn i granted).Relays id out := by
  unfold Session.goOn
  split
  · rename_i want ht
    exact h.grant (hsound want ht) (fun hid => h.relays_of_task hid ht) granted
  · exact h

theorem resolve (h : s.Relays id out) (hin : s.InOrder []) (result : Except RenewalError Renewed) :
    (s.resolve result).Relays id out := by
  cases hf : s.flight with
  | none =>
    rw [Session.resolve, hf]
    exact h
  | some f =>
    obtain ⟨l, r, hl, -, heq⟩ := conclude_eq f result s
    obtain ⟨want, ht, hw, hresolve⟩ := resolve_eq hin hf result
    have hsettled : (s.settled f result).Relays id out := by
      rw [settled, heq]
      refine (h.rests ⟨l, hl, rfl⟩).of_eq rfl (fun _ ht => ht) ?_ ?_
      · exact Journal.view_append_of_nil rfl
      · exact Journal.view_append_of_nil rfl
    rw [hresolve]
    exact hsettled.grant hw (fun hid => h.relays_of_task hid ht) _

theorem resume (h : s.Relays id out) (hin : s.InOrder []) : s.resume.Relays id out := by
  unfold Session.resume
  split
  · exact h
  · rename_i i granted rest _
    have hpops : ({ s with handed := rest } : Session σ).Relays id out :=
      h.of_eq rfl (fun _ ht => ht) rfl rfl
    exact hpops.goOn (fun want ht => (hin.stage i _ List.not_mem_nil ht).2) granted

omit [Storage σ] in
theorem abort (h : s.Relays id out) (i : TaskId) : (s.abort i).Relays id out := by
  have hleaves := h.dismiss i
  simp only [Session.abort]
  split
  · split
    · refine hleaves.of_eq rfl (fun _ ht => ht) ?_ ?_
      · exact Journal.view_append_of_nil rfl
      · exact Journal.view_append_of_nil rfl
    · exact hleaves
  · exact hleaves

end Relays

/-! ### Steps and runs -/

/-- In a step that grants the operation something it yields that. -/
theorem relays_step (h : s.Relays id out) (hin : s.InOrder []) (e : Event) :
    (s.step e).Relays id out := by
  have hother {i : TaskId} {t : Task} (ht : s.task? i = some t) (hnot : ∀ want, t ≠ .renewal want) :
      i ≠ id := by
    rintro rfl
    obtain ⟨want, heq, -⟩ := h.task t ht
    exact hnot want heq
  cases e with
  | start operation =>
    have hopens : ({ s with started := s.started + 1 } : Session σ).Relays id out :=
      ⟨Nat.lt_succ_of_lt h.lt, h.task, h.results⟩
    exact hopens.proceeds (Nat.ne_of_gt h.lt) (proceeds_start operation s)
  | answer i x =>
    simp only [step, answer]
    split
    · rename_i call request ht
      have hs := hin.stage i _ List.not_mem_nil ht
      exact h.proceeds (hother ht (by rintro want ⟨⟩)) (proceeds_receive hs.2 _ s)
    · rename_i call request ht
      have hs := hin.stage i _ List.not_mem_nil ht
      exact h.proceeds (hother ht (by rintro want ⟨⟩)) (proceeds_receive hs.2 _ s)
    · exact h
  | answerRenewal x =>
    obtain ⟨result, heq⟩ := exists_answerRenewal_eq x s
    rw [step, heq]
    exact h.resolve hin result
  | resolve result => exact h.resolve hin result
  | resume => exact h.resume hin
  | abort i => exact h.abort i
  | reset =>
    simp only [step, reset]
    split <;> exact h.of_eq rfl (fun _ ht => ht) rfl rfl
  | act action => exact h.rests (rests_act action s)

theorem relays_run (h : s.Relays id out) (hin : s.InOrder []) (events : List Event) :
    (s.run events).Relays id out := by
  induction events generalizing s with
  | nil => exact h
  | cons e events ih => exact ih (relays_step h hin e) (inOrder_step hin e)

omit [Storage σ] in
/-- An operation that is still to be started has not gone on with anything, and has not ended. -/
theorem relays_started (hin : s.InOrder []) (hs : s.ResultsStarted) (out : String → Outcome) :
    s.lifecycle.journal.Relays s.started out := by
  have hresults : s.lifecycle.journal.resultsOf s.started = [] := by
    rw [Journal.resultsOf, List.map_eq_nil_iff, List.filter_eq_nil_iff]
    rintro ⟨i, result⟩ hi heq
    exact absurd (of_decide_eq_true heq) (Nat.ne_of_lt (hs i result hi))
  have hgrants : s.lifecycle.journal.grantsOf s.started = [] := by
    rw [Journal.grantsOf, List.map_eq_nil_iff, List.filter_eq_nil_iff]
    rintro ⟨i, granted⟩ hi heq
    have htold : i ∈ s.told := List.mem_map_of_mem hi
    have hasked := hin.line_asked i (List.mem_append_left _ htold)
    exact absurd (of_decide_eq_true heq) (Nat.ne_of_lt (hin.asked_lt i hasked))
  rw [Journal.Relays, hresults, hgrants, List.map_nil]

/-- An operation that does nothing else passes on what it is granted, as soon as it is started. -/
theorem relays_start (hin : s.InOrder []) (hs : s.ResultsStarted) {operation : Operation}
    (hop : operation.relays? s = some out) :
    (s.step (.start operation)).Relays s.started out := by
  have hopens : ({ s with started := s.started + 1 } : Session σ).Relays s.started out := by
    refine ⟨Nat.lt_succ_self _, fun t ht => ?_, relays_started hin hs out⟩
    exact absurd (hin.ids_lt _ (mem_ids_of_task? ht)) (Nat.lt_irrefl _)
  cases operation with
  | renew => exact hopens.renewThen trivial fun _ => hop
  | renewNow =>
    rw [Operation.relays?] at hop
    split at hop
    · rename_i hrefresh
      simp only [step, start, if_pos hrefresh]
      exact hopens.renewThen trivial fun _ => hop
    · cases hop
  | _ => cases hop

/-- Whatever happens to a session, what such an operation has yielded is what it was granted. -/
theorem relayed_run (hin : s.InOrder []) (hs : s.ResultsStarted) {operation : Operation}
    (hop : operation.relays? s = some out) (later : List Event) :
    let s' := (s.step (.start operation)).run later
    s'.lifecycle.journal.resultsOf s.started =
      (s'.lifecycle.journal.grantsOf s.started).map (·.map out) :=
  (relays_run (relays_start hin hs hop) (inOrder_step hin _) later).results

end Session

end ShopClient
