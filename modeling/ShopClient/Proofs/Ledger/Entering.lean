import ShopClient.Proofs.Ledger.Accounts
import ShopClient.Proofs.Renewal.Desk
import ShopClient.Proofs.Replay.Plain

/-!
# What is entered in the journal

Whatever a session does, what it enters in its journal adds up (`Enters`). That is seen for each thing
that an operation can do, from the passages that it enters; nothing is left over but the words to sign
in that are due to a token that was refused again, or to somebody outside.

For that it has to be known which operations merely renew the access token. They wait for a renewal
all the time, and no other operation waits for one in that way (`Sorts`).

* `enters_fail`, `enters_grant`, `enters_receive` and the like: what an operation enters;
* `enters_step`: what a step enters;
* `sorts_step`, `handsOut_step`: operations stay sorted, and are handed nothing else than a token or a
  failure of a renewal.
-/

namespace ShopClient

/-- Whether an operation wants nothing but the renewal. -/
def Want.isMere : Want → Bool
  | .replay _ => false
  | _ => true

/-- Whether an operation that waits for this wants nothing but a renewal. -/
def Task.isMere : Task → Bool
  | .renewal want => want.isMere
  | _ => false

/-- Whether an operation is asked for nothing but a renewal. -/
def Operation.isMere : Operation → Bool
  | .renewNow | .renew => true
  | _ => false

namespace Event

/-- The operation that `e` starts. -/
def operation? : Event → Option Operation
  | .start operation => some operation
  | _ => none

/-- Whether somebody outside ends the session. -/
def expires : Event → Bool
  | .act .expire => true
  | _ => false

/-- Whether somebody outside tells the user of an error. -/
def speaks : Event → Bool
  | .act (.notify _) => true
  | _ => false

theorem exists_of_speaks (e : Event) (h : e.speaks = true) : ∃ message, e = .act (.notify message) := by
  unfold speaks at h
  split at h
  · exact ⟨_, rfl⟩
  · cases h

end Event

/-- The operations that are started in the course of events. The place of an operation is its number. -/
def operations (events : List Event) : List Operation := events.filterMap Event.operation?

/-- Whether an operation that is started in the course of events is asked for nothing but a renewal. -/
def merely (events : List Event) (id : TaskId) : Bool := (operations events)[id]?.any (·.isMere)

/-- All that is handed over was handed over before, or is dealt by the move. -/
theorem Desk.Moves.mem_handed {d d' : Desk} {gone : List TaskId} {dealt : List (TaskId × Granted)}
    (h : d.Moves gone dealt d') {p : TaskId × Granted} (hp : p ∈ d'.handed) :
    p ∈ d.handed ∨ p ∈ dealt := by
  cases h with
  | concludes g =>
    rcases List.mem_append.1 hp with hp | hp
    · exact .inl hp
    · exact .inr (List.mem_cons_of_mem _ hp)
  | picksUp hh => exact .inl (hh ▸ List.mem_cons_of_mem _ hp)
  | skips hh => exact .inl (hh ▸ List.mem_cons_of_mem _ hp)
  | abandons g => exact List.mem_append.1 hp
  | turnsAway g => exact List.mem_append.1 hp
  | _ => exact .inl hp

namespace Lifecycle

variable {σ : Type} [Storage σ]

theorem journal_storeRenewed (epoch : UInt64) (renewed : Renewed) (l : Lifecycle σ) :
    (l.storeRenewed epoch renewed).2.journal = l.journal := by
  unfold storeRenewed
  split <;> rfl

theorem journal_whenFailed (goal : Goal) (l : Lifecycle σ) :
    ∃ bye, (goal.whenFailed l).journal = l.journal ++ bye ∧
      (bye = [] ∨ bye = [.counted .logout, .told .loggedOut]) := by
  cases goal with
  | profile =>
    refine ⟨_, journal_logout l, ?_⟩
    split
    · exact .inl rfl
    · exact .inr rfl
  | _ => exact ⟨[], (List.append_nil _).symm, .inl rfl⟩

end Lifecycle

namespace Session

open Journal

variable {σ : Type} {s s₁ s' : Session σ} {mere : TaskId → Bool} {due due' : Int} {id : TaskId}

/-- The operations under way that wait for nothing but a renewal are those that merely renew. -/
def Sorts (mere : TaskId → Bool) (s : Session σ) : Prop :=
  ∀ i t, s.task? i = some t → t.isMere = mere i

/-- What is entered in the journal between `s` and `s'` adds up, and operations stay sorted. -/
structure Enters (mere : TaskId → Bool) (due : Int) (s s' : Session σ) : Prop where
  journal : ∃ news, s'.lifecycle.journal = s.lifecycle.journal ++ news ∧ Accounts mere due news
  sorts : s.Sorts mere → s'.Sorts mere

theorem Enters.refl (s : Session σ) : s.Enters mere 0 s :=
  ⟨⟨[], (List.append_nil _).symm, accounts_nil⟩, id⟩

theorem Enters.trans (h : s.Enters mere due s₁) (h' : s₁.Enters mere due' s') :
    s.Enters mere (due + due') s' := by
  obtain ⟨news, hj, hn⟩ := h.journal
  obtain ⟨news', hj', hn'⟩ := h'.journal
  refine ⟨⟨news ++ news', ?_, hn.append hn'⟩, fun hs => h'.sorts (h.sorts hs)⟩
  rw [hj', hj, List.append_assoc]

/-- Nothing is left over by what is done next. -/
theorem Enters.then (h : s.Enters mere due s₁) (h' : s₁.Enters mere 0 s') : s.Enters mere due s' :=
  Int.add_zero due ▸ h.trans h'

/-- Neither the journal nor the operations change. -/
theorem Enters.of_eq (hj : s'.lifecycle.journal = s.lifecycle.journal) (ht : s'.tasks = s.tasks) :
    s.Enters mere 0 s' := by
  refine ⟨⟨[], by rw [hj, List.append_nil], accounts_nil⟩, fun hs i t hi => hs i t ?_⟩
  rwa [task?, ht] at hi

theorem Enters.log (h : s.Enters mere due s₁) {e : Entry} (he : Accounts mere due' [e]) :
    s.Enters mere (due + due') (s₁.log e) :=
  h.trans ⟨⟨[e], rfl, he⟩, id⟩

theorem Enters.update (h : s.Enters mere due s₁) {f : Lifecycle σ → Lifecycle σ}
    (hf : (f s₁.lifecycle).journal = s₁.lifecycle.journal) : s.Enters mere due (s₁.update f) :=
  h.then (.of_eq hf rfl)

theorem Enters.log_neutral (h : s.Enters mere due s₁) {e : Entry} (he : e.IsNeutral) :
    s.Enters mere due (s₁.log e) :=
  h.then ⟨⟨[e], rfl, accounts_of_neutral he⟩, id⟩

theorem Enters.await (h : s.Enters mere due s₁) {t : Task} (ht : t.isMere = mere id) :
    s.Enters mere due (s₁.await id t) :=
  ⟨h.journal, fun hs => forall_task?_await (h.sorts hs) ht⟩

theorem Enters.dismiss (h : s.Enters mere due s₁) (id : TaskId) : s.Enters mere due (s₁.dismiss id) := by
  refine ⟨h.journal, fun hs i t hi => ?_⟩
  rw [task?_dismiss] at hi
  split at hi
  · cases hi
  · exact h.sorts hs i t hi

theorem Enters.finish (h : s.Enters mere due s₁) {result : Except SessionError Outcome}
    (he : Accounts mere 0 [.finished id result]) : s.Enters mere due (s₁.finish id result) :=
  (h.dismiss id).then ⟨⟨_, rfl, he⟩, fun hs => hs⟩

variable [Storage σ]

theorem enters_logout (s : Session σ) : s.Enters mere 0 (s.update (·.logout.2)) := by
  refine ⟨⟨_, Lifecycle.journal_logout s.lifecycle, ?_⟩, id⟩
  split
  · exact accounts_nil
  · exact accounts_logout

/-- The end of a session that nobody asked for leaves the user to sign in. -/
theorem enters_expire (s : Session σ) : s.Enters mere 1 (s.update (·.expire)) :=
  (enters_logout s).log accounts_demand

/-! ### Calls -/

omit [Storage σ] in
theorem journal_reported (e : SessionError) (s : Session σ) :
    (s.reported (.error e)).lifecycle.journal =
      s.lifecycle.journal ++ (.counted (.request e.requestResult) :: report e) := by
  cases e with
  | transport status message => exact List.append_assoc _ [_] [_]
  | _ => rfl

omit [Storage σ] in
theorem tasks_reported (result : Except SessionError Json.Value) (s : Session σ) :
    (s.reported result).tasks = s.tasks := by
  rcases result with (_ | _ | _ | _ | _) | _ <;> rfl

theorem enters_fail (hid : mere id = false) (call : Call) (e : SessionError) (s : Session σ) :
    s.Enters mere 0 (s.fail id call e) := by
  obtain ⟨bye, hbye, hcases⟩ :=
    Lifecycle.journal_whenFailed call.goal (s.reported (.error e)).lifecycle
  have hfail : s.fail id call e =
      ((s.reported (.error e)).update call.goal.whenFailed).finish id (.error e) :=
    fail_eq id call e s
  have hsorts : s.Enters mere 0 (s.dismiss id) := (Enters.refl s).dismiss id
  have hnews := (accounts_of_neutral (e := .counted (.request e.requestResult)) trivial).append
    (accounts_failed hid e hcases)
  rw [hfail]
  refine ⟨⟨_, ?_, hnews⟩, fun hs i t hi => ?_⟩
  · refine (congrArg (· ++ _) hbye).trans ?_
    rw [journal_reported]
    simp only [List.append_assoc, List.cons_append, List.nil_append]
  · refine hsorts.sorts hs i t ?_
    rwa [task?, finish, log, update, dismiss, update, tasks_reported] at hi

theorem enters_issue (hid : mere id = false) (call : Call) (again : Bool) (bearer : Option String)
    (s : Session σ) : s.Enters mere 0 (s.issue id call again bearer) := by
  cases ho : Outgoing.ofRequest s.settings.baseUrl bearer s.dispatched call.request with
  | error e =>
    rw [issue_of_error ho]
    exact enters_fail hid call e s
  | ok o =>
    rw [issue_of_ok ho]
    have htask : (if again then Task.replayed call o else .first call o).isMere = mere id := by
      rw [hid]
      cases again <;> rfl
    have hcounts : s.Enters mere 0 { s with dispatched := s.dispatched + 1 } := .of_eq rfl rfl
    exact (hcounts.await htask).log_neutral trivial

theorem enters_begin (hid : mere id = false) (call : Call) (s : Session σ) :
    s.Enters mere 0 (s.begin id call) :=
  enters_issue hid call false s.access? s

theorem enters_fetchProfile (hid : mere id = false) (s : Session σ) :
    s.Enters mere 0 (s.fetchProfile id) := by
  unfold fetchProfile
  split
  · exact enters_begin hid _ s
  · exact (Enters.refl s).finish (accounts_finished hid rfl)

theorem enters_succeed (hid : mere id = false) (call : Call) (payload : Json.Value) (s : Session σ) :
    s.Enters mere 0 (s.succeed id call payload) := by
  have hcount : s.Enters mere 0 (s.count (.request .ok)) := (Enters.refl s).log_neutral trivial
  -- The lifecycle may change on the way, but of what it enters only a logout matters.
  have hends {s₁ : Session σ} (h : s.Enters mere 0 s₁) {result : Except SessionError Outcome}
      (hr : failures [.finished id result] = []) :
      s.Enters mere 0 (s₁.finish id result) := h.finish (accounts_finished hid hr)
  simp only [succeed]
  split
  · split
    · exact hends hcount rfl
    · exact hends hcount rfl
  · split
    · split
      · exact hends hcount rfl
      · exact (hcount.update rfl).then (enters_fetchProfile hid _)
    · exact hends hcount rfl
  · split
    · exact hends (hcount.update rfl) rfl
    · exact hends (hcount.then (enters_logout _)) rfl
  · split
    · exact hends (hcount.update rfl) rfl
    · exact hends hcount rfl

/-! ### Renewals -/

/-- An operation goes on with what a renewal came to. -/
theorem enters_grant {want : Want} (hid : want.isMere = mere id) {granted : Granted}
    (hg : ∀ e, granted = .error e → IsRenewalFailure e) (s : Session σ) :
    s.Enters mere 0 (s.grant id want granted) := by
  have hmere (hid : mere id = true) (f : String → Outcome) :
      s.Enters mere 0 ((s.log (.granted id granted)).finish id (granted.map f)) := by
    have hlog : s.Enters mere 0 (s.log (.granted id granted)) :=
      (Enters.refl s).log (accounts_granted (.inl hid))
    refine hlog.finish (accounts_finished_mere hid fun e he => ?_)
    cases granted with
    | ok token => cases he
    | error e' =>
      obtain rfl := Except.error.inj he
      exact hg _ rfl
  rcases want with call | _ | _
  · have hid : mere id = false := hid.symm
    cases granted with
    | ok token =>
      have hreplays : s.Enters mere 0 ((s.log (.granted id (.ok token))).count .replay) :=
        ⟨⟨_, List.append_assoc _ [_] [_], accounts_replayed hid token⟩, fun hs => hs⟩
      exact hreplays.then (enters_issue hid call true (some token) _)
    | error e =>
      have hlog : s.Enters mere 0 (s.log (.granted id (.error e))) :=
        (Enters.refl s).log (accounts_granted (.inr rfl))
      exact hlog.then (enters_fail hid call e _)
  · exact hmere hid.symm .token
  · exact hmere hid.symm fun _ => .renewed true

/-- An operation asks for a renewal. Without a refresh token the user is asked to sign in, and that is
    counted. -/
theorem enters_renewThen {want : Want} (hid : want.isMere = mere id) (s : Session σ) :
    s.Enters mere 0 (s.renewThen id want) := by
  have hwaits : (Task.renewal want).isMere = mere id := hid
  have hasked : s.Enters mere 0 (s.log (.asked id)) := (Enters.refl s).log_neutral trivial
  cases hf : s.flight with
  | some f =>
    have hqueues : s.Enters mere 0 { s.log (.asked id) with
        flight := some { f with waiters := f.waiters ++ [id] } } := hasked.then (.of_eq rfl rfl)
    rw [renewThen_of_flight hf]
    exact hqueues.await hwaits
  | none =>
    by_cases hr : s.lifecycle.store.current.refresh = ""
    · have hrefuses := (hasked.log (accounts_renewal .noRefreshToken)).trans (enters_expire _)
      have hexpired : ∀ e, (Except.error .sessionExpired : Granted) = .error e →
          IsRenewalFailure e := fun e he => .inl (Except.error.inj he).symm
      rw [renewThen_of_refresh_eq hf hr]
      exact Enters.then hrefuses (enters_grant hid hexpired _)
    · let flight : Flight := {
        driver := id, refresh := s.lifecycle.store.current.refresh, epoch := s.lifecycle.epoch }
      have hdrives : s.Enters mere 0 { s.log (.asked id) with flight := some flight } :=
        hasked.then (.of_eq rfl rfl)
      have hlaunched : s.Enters mere 0 (s.launched id want) :=
        (hdrives.await hwaits).log_neutral trivial
      rw [renewThen_of_idle hf hr]
      split
      · exact hlaunched.log_neutral trivial
      · exact hlaunched

/-! ### Answers -/

/-- How often an answer makes the user sign in: once, if it refuses the token of a request that was sent
    again. -/
def rebuffs (again : Bool) : Except SessionError Received → Int
  | .ok (.unauthorized _) => if again then 1 else 0
  | _ => 0

theorem enters_receive (hid : mere id = false) (call : Call) (again : Bool)
    (answer : Except SessionError Received) (s : Session σ) :
    s.Enters mere (rebuffs again answer) (s.receive id call again answer) := by
  rcases answer with e | body | body
  · exact enters_fail hid call e s
  · simp only [receive]
    split
    · exact enters_succeed hid call _ s
    · exact enters_fail hid call _ s
  · cases again with
    | true => exact (enters_expire s).then (enters_fail hid call .sessionExpired _)
    | false =>
      simp only [receive, Bool.false_eq_true, if_false]
      split
      · exact enters_fail hid call _ s
      · have hwant : (Want.replay call).isMere = mere id := hid.symm
        exact enters_renewThen hwant s

theorem rebuffs_received (x : Exchange) (o : Outgoing) (timeout : Nat) :
    rebuffs true (x.received o timeout) = if x.IsUnauthorized then 1 else 0 := by
  rcases x with _ | _ | ⟨status, body⟩ | status
  · rfl
  · rfl
  · by_cases hstatus : status = Http.Status.unauthorized
    · have hx : (Exchange.answered status body).IsUnauthorized := hstatus
      rw [if_pos hx, Exchange.received, if_pos hstatus]
      rfl
    · have hx : ¬(Exchange.answered status body).IsUnauthorized := hstatus
      rw [if_neg hx, Exchange.received, if_neg hstatus]
      split <;> rfl
  · rfl

/-- Whether `e` refuses the new token that a request was sent again with. -/
def refusesAgain (s : Session σ) : Event → Bool
  | .answer id x => match s.task? id with
    | some (.replayed _ _) => decide x.IsUnauthorized
    | _ => false
  | _ => false

theorem enters_answer (hs : s.Sorts mere) (id : TaskId) (x : Exchange) :
    s.Enters mere (if s.refusesAgain (.answer id x) then 1 else 0) (s.answer id x) := by
  rcases ht : s.task? id with _ | ⟨call, o⟩ | ⟨call, o⟩ | want
  · simp only [answer, refusesAgain, ht, Bool.false_eq_true, if_false]
    exact .refl s
  · have hnone (answer : Except SessionError Received) : rebuffs false answer = 0 := by
      rcases answer with e | body | body <;> rfl
    have hreceives := enters_receive (hs id _ ht).symm call false
      (x.received o s.settings.requestTimeout) s
    simp only [answer, refusesAgain, ht, Bool.false_eq_true, if_false]
    rwa [hnone] at hreceives
  · have hreceives := enters_receive (hs id _ ht).symm call true
      (x.received o s.settings.requestTimeout) s
    simp only [answer, refusesAgain, ht, decide_eq_true_eq]
    rwa [rebuffs_received] at hreceives
  · simp only [answer, refusesAgain, ht, Bool.false_eq_true, if_false]
    exact .refl s

/-! ### The end of a renewal -/

/-- What was handed over and not yet picked up is a token or a failure of a renewal. -/
def HandsOut (s : Session σ) : Prop := ∀ i e, (i, .error e) ∈ s.handed → IsRenewalFailure e

theorem enters_goOn (hs : s.Sorts mere) (id : TaskId) {granted : Granted}
    (hg : ∀ e, granted = .error e → IsRenewalFailure e) : s.Enters mere 0 (s.goOn id granted) := by
  unfold goOn
  split
  · rename_i want ht
    exact enters_grant (hs id _ ht) hg s
  · exact .refl s

theorem error_of_verdict {f : Flight} {result : Except RenewalError Renewed} {e : SessionError}
    (h : s.verdict f result = .error e) : IsRenewalFailure e := by
  unfold verdict at h
  split at h
  · split at h
    · cases h
    · exact .inl (Except.error.inj h).symm
  · exact .inl (Except.error.inj h).symm

/-- A renewal that is over is counted, and if it failed the user is asked to sign in. -/
theorem enters_settled (f : Flight) (result : Except RenewalError Renewed) (s : Session σ) :
    s.Enters mere 0 (s.settled f result) := by
  have htasks : (s.settled f result).tasks = s.tasks := tasks_landed f result s
  cases result with
  | ok renewed =>
    by_cases hepoch : s.lifecycle.epoch = f.epoch
    · have hstores : s.Enters mere 0 (s.update (·.storeCredentials renewed.access renewed.refresh)) :=
        (Enters.refl s).update rfl
      have hcounts := hstores.log (accounts_renewal .ok)
      exact hcounts.then (.of_eq (congrArg _ (settled_stored hepoch renewed).2) htasks)
    · have hcounts : s.Enters mere _ (s.count (.renewal .discarded)) :=
        (Enters.refl s).log (accounts_renewal .discarded)
      exact hcounts.then (.of_eq (congrArg _ (settled_discarded hepoch renewed).2) htasks)
  | error error =>
    have hcounts : s.Enters mere _ ((s.update (·.expire)).count (.renewal .failed)) :=
      (enters_expire s).log (accounts_renewal .failed)
    exact hcounts.then (.of_eq (congrArg _ (settled_failed f error s).2) htasks)

theorem enters_resolve (hs : s.Sorts mere) (result : Except RenewalError Renewed) :
    s.Enters mere 0 (s.resolve result) := by
  cases hf : s.flight with
  | none =>
    simp only [resolve, hf]
    exact .refl s
  | some f =>
    have hsettled : s.Enters mere 0 (s.settled f result) := enters_settled f result s
    rw [resolve_of_flight hf]
    exact hsettled.then (enters_goOn (hsettled.sorts hs) f.driver fun e => error_of_verdict)

theorem enters_resume (hs : s.Sorts mere) (hh : s.HandsOut) : s.Enters mere 0 s.resume := by
  unfold resume
  split
  · exact .refl s
  · rename_i id granted rest hhanded
    have hpops : s.Enters mere 0 { s with handed := rest } := .of_eq rfl rfl
    refine hpops.then (enters_goOn (hpops.sorts hs) id ?_)
    rintro e rfl
    exact hh id e (hhanded ▸ List.mem_cons_self)

omit [Storage σ] in
theorem enters_abort (id : TaskId) (s : Session σ) : s.Enters mere 0 (s.abort id) := by
  have hleaves : s.Enters mere 0 (s.dismiss id) := (Enters.refl s).dismiss id
  simp only [abort]
  split
  · split
    · exact (hleaves.log (accounts_renewal .abandoned)).then (.of_eq rfl rfl)
    · exact hleaves
  · exact hleaves

/-! ### Steps -/

/-- An operation is started, of which `mere` says whether it merely renews. -/
theorem enters_start {operation : Operation} (hid : mere s.started = operation.isMere) :
    s.Enters mere 0 (s.start operation) := by
  have hopens : s.Enters mere 0 { s with started := s.started + 1 } := .of_eq rfl rfl
  simp only [start]
  split
  · exact hopens.then (enters_begin hid _ _)
  · exact hopens.finish (accounts_finished hid rfl)
  · exact hopens.then (enters_begin hid _ _)
  · exact hopens.then (enters_begin hid _ _)
  · exact hopens.then (enters_fetchProfile hid _)
  · exact hopens.then (enters_begin hid _ _)
  · have hwant : Want.acknowledgement.isMere = mere s.started := hid.symm
    split
    · exact hopens.then (enters_renewThen hwant _)
    · exact hopens.finish (accounts_finished_mere hid fun e he => by cases he)
  · have hwant : Want.token.isMere = mere s.started := hid.symm
    exact hopens.then (enters_renewThen hwant _)

/-- How often the user is asked to sign in by `e`, although no renewal failed and no refresh token was
    missing. -/
def demanded (s : Session σ) (e : Event) : Nat :=
  (if s.refusesAgain e then 1 else 0) + if e.expires then 1 else 0

/-- What a step enters in the journal adds up, unless somebody outside speaks. -/
theorem enters_step (hs : s.Sorts mere) (hh : s.HandsOut) {e : Event}
    (hstart : ∀ operation, e = .start operation → mere s.started = operation.isMere)
    (hspeaks : e.speaks = false) : s.Enters mere (s.demanded e) (s.step e) := by
  cases e with
  | start operation => exact enters_start (hstart operation rfl)
  | answer id x =>
    have hanswer := enters_answer hs id x
    have hdue : (s.demanded (.answer id x) : Int) =
        if s.refusesAgain (.answer id x) then 1 else 0 := by
      rw [demanded]
      split <;> rfl
    rw [hdue]
    exact hanswer
  | answerRenewal x =>
    obtain ⟨result, heq⟩ := exists_answerRenewal_eq x s
    rw [step, heq]
    exact enters_resolve hs result
  | resolve result => exact enters_resolve hs result
  | resume => exact enters_resume hs hh
  | abort id => exact enters_abort id s
  | reset =>
    simp only [step, reset]
    split <;> exact .of_eq rfl rfl
  | act action =>
    cases action with
    | storeRenewed epoch renewed => exact .of_eq (s.lifecycle.journal_storeRenewed epoch renewed) rfl
    | logout => exact enters_logout s
    | expire => exact enters_expire s
    | notify => cases hspeaks
    | _ => exact .of_eq rfl rfl

theorem sorts_step (hs : s.Sorts mere) (hh : s.HandsOut) {e : Event}
    (hstart : ∀ operation, e = .start operation → mere s.started = operation.isMere) :
    (s.step e).Sorts mere := by
  cases hspeaks : e.speaks with
  | false => exact (enters_step hs hh hstart hspeaks).sorts hs
  | true =>
    obtain ⟨message, rfl⟩ := e.exists_of_speaks hspeaks
    exact hs

/-- A failure that a step deals is one of a renewal. -/
theorem error_of_deals {e : Event} {i : TaskId} {error : SessionError}
    (h : (i, .error error) ∈ s.deals e) : IsRenewalFailure error := by
  have hrefusals {s' : Session σ} (h : (i, .error error) ∈ s.refusals s') : IsRenewalFailure error := by
    rw [refusals] at h
    split at h
    · obtain ⟨j, -, heq⟩ := List.mem_map.1 h
      exact .inl (Except.error.inj (congrArg Prod.snd heq)).symm
    · cases h
  have hdealt {ids : List TaskId} {granted : Granted} (h : (i, .error error) ∈ ids.map (·, granted)) :
      granted = .error error := by
    obtain ⟨j, -, heq⟩ := List.mem_map.1 h
    exact congrArg Prod.snd heq
  cases e with
  | start operation => exact hrefusals h
  | answer id x => exact hrefusals h
  | answerRenewal x =>
    simp only [deals] at h
    split at h
    · exact error_of_verdict (hdealt h)
    · cases h
  | resolve result =>
    simp only [deals] at h
    split at h
    · exact error_of_verdict (hdealt h)
    · cases h
  | abort id =>
    simp only [deals] at h
    split at h
    · split at h
      · exact .inr (Except.error.inj (hdealt h)).symm
      · cases h
    · cases h
  | reset =>
    simp only [deals] at h
    split at h
    · exact .inl (Except.error.inj (hdealt h)).symm
    · cases h
  | resume => cases h
  | act => cases h

theorem handsOut_step (hin : s.InOrder []) (hh : s.HandsOut) (e : Event) : (s.step e).HandsOut := by
  obtain ⟨gone, hm, -⟩ := (turn_step hin e).moves
  rw [desk_opened] at hm
  intro i error hi
  rcases hm.mem_handed hi with hi | hi
  · exact hh i error hi
  · exact error_of_deals hi

end Session

end ShopClient
