import ShopClient.Proofs.Ledger.Entering

/-!
# A session without one of its operations

What is left of a session when all that concerns one operation is taken out of it: the operation is not
under way, and nothing that it did of its own is in the journal. Whatever else a session does, it does
in the same way then. So all that others can see of a session goes on without the operation as it goes
on with it, as long as the operation waits for a renewal of which it merely wants to hear.

* `Session.without`: a session without an operation;
* `without_fail`, `without_succeed`, `without_renewThen` and the like: what other operations do;
* `without_goOn`: the operation hears of the renewal, and nothing else happens;
* `without_step`, `without_run`: a step of the session, and whatever happens to it.
-/

namespace ShopClient

namespace Lifecycle

variable {σ : Type} {id : TaskId}

/-- The lifecycle of a session without what the operation `id` did of its own. -/
def without (id : TaskId) (l : Lifecycle σ) : Lifecycle σ :=
  { l with journal := l.journal.filter (!·.isOf id) }

theorem without_log {e : Entry} (h : e.isOf id = false) (l : Lifecycle σ) :
    (l.log e).without id = (l.without id).log e := by
  have hj : (l.journal ++ [e]).filter (!·.isOf id) = l.journal.filter (!·.isOf id) ++ [e] := by
    rw [List.filter_append, List.filter_cons_of_pos (by simp [h]), List.filter_nil]
  simp only [without, log, hj]

theorem without_log_of_isOf {e : Entry} (h : e.isOf id = true) (l : Lifecycle σ) :
    (l.log e).without id = l.without id := by
  have hj : (l.journal ++ [e]).filter (!·.isOf id) = l.journal.filter (!·.isOf id) := by
    rw [List.filter_append, List.filter_cons_of_neg (by simp [h]), List.filter_nil, List.append_nil]
  simp only [without, log, hj]

variable [Storage σ] (l : Lifecycle σ)

theorem without_logout : l.logout.2.without id = (l.without id).logout.2 := by
  have hcleared : (l.without id).isCleared = l.isCleared := rfl
  unfold logout
  rw [hcleared]
  split
  · rfl
  · exact (without_log rfl _).trans (congrArg (log _) (without_log rfl _))

theorem without_expire : l.expire.without id = (l.without id).expire :=
  (without_log rfl _).trans (congrArg (log _) l.without_logout)

theorem without_storeRenewed (id : TaskId) (epoch : UInt64) (renewed : Renewed) :
    (l.without id).storeRenewed epoch renewed =
      ((l.storeRenewed epoch renewed).1, (l.storeRenewed epoch renewed).2.without id) := by
  have hepoch : (l.without id).epoch = l.epoch := rfl
  unfold storeRenewed
  rw [hepoch]
  split <;> rfl

theorem without_act (action : Action) : (l.act action).2.without id = ((l.without id).act action).2 := by
  cases action with
  | storeRenewed epoch renewed => exact (congrArg Prod.snd (l.without_storeRenewed _ epoch renewed)).symm
  | logout => exact l.without_logout
  | expire => exact l.without_expire
  | notify message => exact without_log rfl l
  | _ => rfl

end Lifecycle

namespace Session

variable {σ : Type} {s : Session σ} {id i : TaskId}

/-- The session without the operation `id` and what it did of its own. -/
def without (id : TaskId) (s : Session σ) : Session σ :=
  { s.dismiss id with lifecycle := s.lifecycle.without id }

/-! ### The parts of a session -/

theorem task?_without (id i : TaskId) (s : Session σ) :
    (s.without id).task? i = if i = id then none else s.task? i :=
  task?_dismiss s id i

theorem without_update {f : Lifecycle σ → Lifecycle σ}
    (h : (f s.lifecycle).without id = f (s.lifecycle.without id)) :
    (s.update f).without id = (s.without id).update f := by
  simp only [without, update, h]
  rfl

theorem without_log {e : Entry} (h : e.isOf id = false) (s : Session σ) :
    (s.log e).without id = (s.without id).log e :=
  without_update (Lifecycle.without_log h _)

theorem without_log_of_isOf {e : Entry} (h : e.isOf id = true) (s : Session σ) :
    (s.log e).without id = s.without id := by
  simp only [without, log, update, Lifecycle.without_log_of_isOf h]
  rfl

@[simp] theorem without_count (c : Counter) (s : Session σ) :
    (s.count c).without id = (s.without id).count c :=
  without_log rfl s

/-- Another operation that comes to wait. -/
theorem without_await (hi : i ≠ id) (t : Task) (s : Session σ) :
    (s.await i t).without id = (s.without id).await i t := by
  have hany : (s.tasks.filter (·.1 ≠ id)).any (·.1 = i) = s.tasks.any (·.1 = i) := by
    rw [Bool.eq_iff_iff, List.any_eq_true, List.any_eq_true]
    constructor
    · rintro ⟨e, he, heq⟩
      exact ⟨e, List.mem_of_mem_filter he, heq⟩
    · rintro ⟨e, he, heq⟩
      refine ⟨e, List.mem_filter.2 ⟨he, decide_eq_true fun hid => hi ?_⟩, heq⟩
      exact (of_decide_eq_true heq).symm.trans hid
  have hmap (l : List (TaskId × Task)) :
      (l.map fun e => if e.1 = i then (i, t) else e).filter (·.1 ≠ id) =
        (l.filter (·.1 ≠ id)).map fun e => if e.1 = i then (i, t) else e := by
    rw [List.filter_map]
    refine congrArg _ (List.filter_congr fun e _ => ?_)
    simp only [Function.comp]
    split
    · rename_i heq
      rw [heq]
    · rfl
  have htasks : (s.await i t).tasks.filter (·.1 ≠ id) = ((s.without id).await i t).tasks := by
    simp only [await, without, dismiss, hany]
    split
    · exact hmap _
    · rw [List.filter_append, List.filter_cons_of_pos (by simp [hi]), List.filter_nil]
  simp only [without, dismiss, htasks]
  rfl

theorem without_dismiss (id i : TaskId) (s : Session σ) :
    (s.dismiss i).without id = (s.without id).dismiss i := by
  have htasks : (s.tasks.filter (·.1 ≠ i)).filter (·.1 ≠ id) =
      (s.tasks.filter (·.1 ≠ id)).filter (·.1 ≠ i) := by
    rw [List.filter_filter, List.filter_filter]
    exact List.filter_congr fun e _ => Bool.and_comm _ _
  simp only [without, dismiss, htasks]

theorem dismiss_without (id : TaskId) (s : Session σ) : (s.without id).dismiss id = s.without id := by
  refine dismiss_of_not_mem ((task?_eq_none_iff _ id).1 ?_)
  rw [task?_without, if_pos rfl]

theorem without_finish (hi : i ≠ id) (result : Except SessionError Outcome) (s : Session σ) :
    (s.finish i result).without id = (s.without id).finish i result :=
  (without_log (by simp [Entry.isOf, hi]) _).trans (congrArg (log _) (without_dismiss id i s))

/-- The end of the operation is all its own. -/
theorem without_finish_self (result : Except SessionError Outcome) (s : Session σ) :
    (s.finish id result).without id = s.without id :=
  (without_log_of_isOf (by simp [Entry.isOf]) _).trans
    ((without_dismiss id id s).trans (dismiss_without id s))

variable [Storage σ]

/-! ### Other operations -/

@[simp] theorem without_logout (s : Session σ) :
    (s.update (·.logout.2)).without id = (s.without id).update (·.logout.2) :=
  without_update s.lifecycle.without_logout

@[simp] theorem without_expire (s : Session σ) :
    (s.update (·.expire)).without id = (s.without id).update (·.expire) :=
  without_update s.lifecycle.without_expire

omit [Storage σ] in
theorem without_reported (result : Except SessionError Json.Value) (s : Session σ) :
    (s.reported result).without id = (s.without id).reported result := by
  rcases result with (⟨status, message⟩ | _ | _ | _ | _) | payload
  · exact (without_log rfl _).trans (congrArg (log _) (without_count _ s))
  all_goals exact without_count _ s

theorem without_whenFailed (goal : Goal) (s : Session σ) :
    (s.update goal.whenFailed).without id = (s.without id).update goal.whenFailed := by
  cases goal with
  | profile => exact without_logout s
  | _ => rfl

theorem without_fail (hi : i ≠ id) (call : Call) (e : SessionError) (s : Session σ) :
    (s.fail i call e).without id = (s.without id).fail i call e := by
  have hfail (s : Session σ) : s.fail i call e =
      ((s.reported (.error e)).update call.goal.whenFailed).finish i (.error e) :=
    fail_eq i call e s
  rw [hfail, hfail, without_finish hi, without_whenFailed, without_reported]

theorem without_issue (hi : i ≠ id) (call : Call) (again : Bool) (bearer : Option String)
    (s : Session σ) :
    (s.issue i call again bearer).without id = (s.without id).issue i call again bearer := by
  cases ho : Outgoing.ofRequest s.settings.baseUrl bearer s.dispatched call.request with
  | error e =>
    have ho' : Outgoing.ofRequest (s.without id).settings.baseUrl bearer (s.without id).dispatched
        call.request = .error e := ho
    rw [issue_of_error ho, issue_of_error ho', without_fail hi]
  | ok o =>
    have ho' : Outgoing.ofRequest (s.without id).settings.baseUrl bearer (s.without id).dispatched
        call.request = .ok o := ho
    have hother : (Entry.sent (.task i) o).isOf id = false := by simp [Entry.isOf, hi]
    rw [issue_of_ok ho, issue_of_ok ho', without_log hother, without_await hi]
    rfl

theorem without_begin (hi : i ≠ id) (call : Call) (s : Session σ) :
    (s.begin i call).without id = (s.without id).begin i call :=
  without_issue hi call false s.access? s

theorem without_fetchProfile (hi : i ≠ id) (s : Session σ) :
    (s.fetchProfile i).without id = (s.without id).fetchProfile i := by
  have haccess : (s.without id).lifecycle.store.current.hasAccess =
      s.lifecycle.store.current.hasAccess := rfl
  unfold fetchProfile
  rw [haccess]
  split
  · exact without_begin hi _ s
  · exact without_finish hi _ s

theorem without_succeed (hi : i ≠ id) (call : Call) (payload : Json.Value) (s : Session σ) :
    (s.succeed i call payload).without id = (s.without id).succeed i call payload := by
  have hcount : (s.count (.request .ok)).without id = (s.without id).count (.request .ok) :=
    without_count _ s
  have hupdate (f : Lifecycle σ → Lifecycle σ)
      (hf : (f (s.count (.request .ok)).lifecycle).without id =
        f ((s.count (.request .ok)).lifecycle.without id)) :
      ((s.count (.request .ok)).update f).without id =
        ((s.without id).count (.request .ok)).update f := by
    rw [without_update hf, hcount]
  have hfinish (f : Lifecycle σ → Lifecycle σ) (result : Except SessionError Outcome)
      (hf : (f (s.count (.request .ok)).lifecycle).without id =
        f ((s.count (.request .ok)).lifecycle.without id)) :
      (((s.count (.request .ok)).update f).finish i result).without id =
        (((s.without id).count (.request .ok)).update f).finish i result := by
    rw [without_finish hi, hupdate f hf]
  simp only [succeed]
  split
  · split
    · exact hfinish (fun l => l) _ rfl
    · exact hfinish (fun l => l) _ rfl
  · split
    · split
      · exact hfinish (fun l => l) _ rfl
      · exact (without_fetchProfile hi _).trans
          (congrArg (fetchProfile i) (hupdate (·.storeCredentials _ (some _)) rfl))
    · exact hfinish (fun l => l) _ rfl
  · split
    · exact hfinish (·.setProfile _) _ rfl
    · exact hfinish (·.logout.2) _ (Lifecycle.without_logout _)
  · split
    · exact hfinish (·.setProfile _) _ rfl
    · exact hfinish (fun l => l) _ rfl

theorem without_grant (hi : i ≠ id) (want : Want) (granted : Granted) (s : Session σ) :
    (s.grant i want granted).without id = (s.without id).grant i want granted := by
  have hlog (g : Granted) : (s.log (.granted i g)).without id = (s.without id).log (.granted i g) :=
    without_log (by simp [Entry.isOf, hi]) s
  cases want with
  | replay call =>
    cases granted with
    | ok token =>
      simp only [grant]
      rw [without_issue hi, without_count, hlog]
    | error e =>
      simp only [grant]
      rw [without_fail hi, hlog]
  | token =>
    simp only [grant]
    rw [without_finish hi, hlog]
  | acknowledgement =>
    simp only [grant]
    rw [without_finish hi, hlog]

theorem without_renewThen (hi : i ≠ id) (want : Want) (s : Session σ) :
    (s.renewThen i want).without id = (s.without id).renewThen i want := by
  have hasked : (s.log (.asked i)).without id = (s.without id).log (.asked i) :=
    without_log (by simp [Entry.isOf, hi]) s
  cases hf : s.flight with
  | some f =>
    have hf' : (s.without id).flight = some f := hf
    rw [renewThen_of_flight hf, renewThen_of_flight hf', without_await hi, ← hasked]
    rfl
  | none =>
    have hf' : (s.without id).flight = none := hf
    by_cases hr : s.lifecycle.store.current.refresh = ""
    · have hr' : (s.without id).lifecycle.store.current.refresh = "" := hr
      rw [renewThen_of_refresh_eq hf hr, renewThen_of_refresh_eq hf' hr', without_grant hi,
        without_expire, without_count, hasked]
    · have hr' : (s.without id).lifecycle.store.current.refresh ≠ "" := hr
      have hlaunched : (s.launched i want).without id = (s.without id).launched i want := by
        refine (without_log rfl _).trans (congrArg (log _) ((without_await hi _ _).trans ?_))
        rw [← hasked]
        rfl
      have hset : (s.without id).settings = s.settings := rfl
      have hrefresh : (s.without id).lifecycle.store.current.refresh =
          s.lifecycle.store.current.refresh := rfl
      rw [renewThen_of_idle hf hr, renewThen_of_idle hf' hr', hset, hrefresh]
      split
      · exact (without_log rfl _).trans (congrArg (log _) hlaunched)
      · exact hlaunched

theorem without_receive (hi : i ≠ id) (call : Call) (again : Bool)
    (answer : Except SessionError Received) (s : Session σ) :
    (s.receive i call again answer).without id = (s.without id).receive i call again answer := by
  rcases answer with e | body | body
  · exact without_fail hi call e s
  · simp only [receive]
    split
    · exact without_succeed hi call _ s
    · exact without_fail hi call _ s
  · simp only [receive]
    split
    · rw [without_fail hi, without_expire]
    · split
      · exact without_fail hi call _ s
      · exact without_renewThen hi _ s

/-! ### The operation itself -/

/-- The operation was started, and waits for a renewal of which it merely wants to hear, or is over. -/
structure Listens (id : TaskId) (s : Session σ) : Prop where
  inOrder : s.InOrder []
  lt : id < s.started
  task : ∀ t, s.task? id = some t → t.isMere = true

omit [Storage σ] in
/-- What waits for an answer is no such operation. -/
theorem Listens.task_eq (h : s.Listens id) {t : Task} (ht : s.task? id = some t) :
    ∃ want, t = .renewal want ∧ want.isMere = true := by
  cases t with
  | renewal want => exact ⟨want, rfl, h.task _ ht⟩
  | _ => cases h.task _ ht

/-- No answer is for it. -/
theorem Listens.answer_eq (h : s.Listens id) (x : Exchange) : s.answer id x = s := by
  unfold answer
  split
  · rename_i ht
    obtain ⟨want, ⟨⟩, -⟩ := h.task_eq ht
  · rename_i ht
    obtain ⟨want, ⟨⟩, -⟩ := h.task_eq ht
  · rfl

theorem without_answer (h : s.Listens id) (i : TaskId) (x : Exchange) :
    (s.answer i x).without id = (s.without id).answer i x := by
  have hset : (s.without id).settings = s.settings := rfl
  by_cases hi : i = id
  · -- On the left it does not wait for an answer, on the right it is not there.
    subst hi
    have hright : (s.without i).answer i x = s.without i := by
      simp only [answer, task?_without, if_true]
    rw [h.answer_eq, hright]
  · simp only [answer, task?_without, if_neg hi, hset]
    split
    · exact without_receive hi _ _ _ s
    · exact without_receive hi _ _ _ s
    · rfl

/-- Whoever goes on with what a renewal came to. When it is the operation itself, it is over. -/
theorem without_goOn (ht : ∀ want, s.task? id = some (.renewal want) → want.isMere = true)
    (i : TaskId) (granted : Granted) :
    (s.goOn i granted).without id = (s.without id).goOn i granted := by
  by_cases hi : i = id
  · subst hi
    have hright : (s.without i).goOn i granted = s.without i := by
      simp only [goOn, task?_without, if_true]
    have hlog : (s.log (.granted i granted)).without i = s.without i :=
      without_log_of_isOf (by simp [Entry.isOf]) s
    rw [hright]
    unfold goOn
    split
    · rename_i want hwant
      cases want with
      | replay call => cases ht _ hwant
      | token => exact (without_finish_self _ _).trans hlog
      | acknowledgement => exact (without_finish_self _ _).trans hlog
    · rfl
  · simp only [goOn, task?_without, if_neg hi]
    split
    · exact without_grant hi _ granted s
    · rfl

theorem verdict_without (f : Flight) (result : Except RenewalError Renewed) (s : Session σ) :
    (s.without id).verdict f result = s.verdict f result := by
  cases result with
  | ok renewed =>
    have hstored : ((s.without id).lifecycle.storeRenewed f.epoch renewed).1 =
        (s.lifecycle.storeRenewed f.epoch renewed).1 :=
      (Prod.ext_iff.1 (s.lifecycle.without_storeRenewed id f.epoch renewed)).1
    simp only [verdict, hstored]
  | error e => rfl

theorem without_settled (f : Flight) (result : Except RenewalError Renewed) (s : Session σ) :
    (s.settled f result).without id = (s.without id).settled f result := by
  have hconclude : (s.conclude f result).2.without id = ((s.without id).conclude f result).2 := by
    cases result with
    | ok renewed =>
      have hstored : (s.without id).lifecycle.storeRenewed f.epoch renewed = _ :=
        s.lifecycle.without_storeRenewed id f.epoch renewed
      simp only [conclude, hstored]
      split
      · rename_i l hl
        rw [hl]
        exact without_count _ _
      · rename_i l hl
        rw [hl]
        exact without_count _ _
    | error e =>
      simp only [conclude]
      rw [without_count, without_expire]
      rfl
  rw [settled, settled, verdict_without, ← hconclude]
  rfl

theorem without_resolve (h : s.Listens id) (result : Except RenewalError Renewed) :
    (s.resolve result).without id = (s.without id).resolve result := by
  cases hf : s.flight with
  | none =>
    have hf' : (s.without id).flight = none := hf
    simp only [resolve, hf, hf']
  | some f =>
    have hf' : (s.without id).flight = some f := hf
    rw [resolve_of_flight hf, resolve_of_flight hf', verdict_without, ← without_settled]
    refine without_goOn (fun want hwant => ?_) f.driver _
    rw [(spares_settled f result s).task] at hwant
    exact h.task _ hwant

theorem without_resume (h : s.Listens id) : s.resume.without id = (s.without id).resume := by
  have hhanded : (s.without id).handed = s.handed := rfl
  simp only [resume, hhanded]
  split
  · rfl
  · rename_i i granted rest _
    exact without_goOn (s := { s with handed := rest }) (fun want hwant => h.task _ hwant) i granted

omit [Storage σ] in
theorem without_abort (id i : TaskId) (s : Session σ) :
    (s.abort i).without id = (s.without id).abort i := by
  have hleaves := without_dismiss id i s
  have hcounts : ({ s.dismiss i with flight := none }.count (.renewal .abandoned)).without id =
      { (s.without id).dismiss i with flight := none }.count (.renewal .abandoned) := by
    rw [without_count, ← hleaves]
    rfl
  have hflight : ((s.without id).dismiss i).flight = (s.dismiss i).flight := rfl
  simp only [abort, hflight]
  split
  · split
    · exact congrArg (handOver _ _) hcounts
    · exact hleaves
  · exact hleaves

theorem without_start (hi : s.started ≠ id) (operation : Operation) :
    (s.start operation).without id = (s.without id).start operation := by
  cases operation with
  | send request shape =>
    cases request with
    | ok request => exact without_begin hi _ _
    | error e => exact without_finish hi _ _
  | signIn c => exact without_begin hi _ _
  | register c => exact without_begin hi _ _
  | fetchProfile => exact without_fetchProfile hi _
  | changeProfile change => exact without_begin hi _ _
  | renewNow =>
    have hrefresh : (s.without id).lifecycle.store.current.hasRefresh =
        s.lifecycle.store.current.hasRefresh := rfl
    simp only [start, hrefresh]
    split
    · exact without_renewThen hi _ _
    · exact without_finish hi _ _
  | renew => exact without_renewThen hi _ _

/-- Whatever happens to a session happens in the same way without an operation that listens. -/
theorem without_step (h : s.Listens id) (e : Event) : (s.step e).without id = (s.without id).step e := by
  cases e with
  | start operation => exact without_start (Nat.ne_of_gt h.lt) operation
  | answer i x => exact without_answer h i x
  | answerRenewal x =>
    have hflight : (s.without id).flight = s.flight := rfl
    simp only [step, answerRenewal, hflight]
    split
    · exact without_resolve h _
    · rfl
  | resolve result => exact without_resolve h result
  | resume => exact without_resume h
  | abort i => exact without_abort id i s
  | reset =>
    have hflight : (s.without id).flight = s.flight := rfl
    simp only [step, reset, hflight]
    split <;> rfl
  | act action => exact without_update (f := fun l => (l.act action).2) (s.lifecycle.without_act action)

/-- It goes on listening, or is over. -/
theorem Listens.step (h : s.Listens id) (e : Event) : (s.step e).Listens id where
  inOrder := inOrder_step h.inOrder e
  lt := Nat.lt_of_lt_of_le h.lt (started_le_step h.inOrder e)
  task t ht := by
    rcases spares_or_turned h.inOrder h.lt e with hspares | hturned
    · exact h.task t (hspares.task.symm.trans ht)
    · generalize s.step e = s' at hturned ht
      cases hturned with
      | @answered x =>
        rw [h.answer_eq] at ht
        exact h.task t ht
      | aborted => cases (does_abort id s).task.symm.trans ht
      | @granted e s₁ want granted _ _ hwant =>
        have hmere := h.task _ hwant
        cases want with
        | replay call => cases hmere
        | _ => cases (task?_finish id _ _).symm.trans ht

theorem without_run (h : s.Listens id) (events : List Event) :
    (s.run events).without id = (s.without id).run events := by
  induction events generalizing s with
  | nil => rfl
  | cons e events ih =>
    refine (ih (h.step e)).trans ?_
    rw [without_step h]
    rfl

end Session

end ShopClient
