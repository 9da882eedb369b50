import ShopClient.Proofs.Conversation.Events
import ShopClient.Proofs.Standing.Effect

/-!
# What operations yield

An operation that succeeds yields what it was asked for. A request yields a payload in its shape; a
sign-in yields a profile, or the word that there is none. Whether the profile can be fetched, and whether
the token can be renewed, depends on the tokens that are there at the start: without the one that is
needed an operation says so, and with it it never does.

* `Operation.Yields`: what an operation may yield that starts from a session;
* `Session.Fulfils`: what is under way, and what has ended, keeps what was promised;
* `fulfils_step`: no step breaks a promise;
* `yields_run`: what an operation yields in a run;
* `yields_converse`: and in a conversation.
-/

namespace ShopClient

/-- What may come of the payload of an answer. -/
def Goal.Yields : Goal → Outcome → Prop
  | .payload shape, .payload v => ∃ payload, shape.decode payload = .ok v
  | .signIn, .profile _ => True
  | .profile, .profile p => p.isSome = true
  | .changedProfile, .payload v => ∃ p : Profile, v = p.toValue
  | _, _ => False

/-- What may come of a renewed access token. -/
def Want.Yields : Want → Outcome → Prop
  | .replay call, o => call.goal.Yields o
  | .token, .token _ => True
  | .acknowledgement, .renewed done => done = true
  | _, _ => False

/-- What an operation may yield that waits for this. -/
def Task.Yields : Task → Outcome → Prop
  | .first call _, o | .replayed call _, o => call.goal.Yields o
  | .renewal want, o => want.Yields o

/-- What an operation may yield that starts from the session `s`. -/
def Operation.Yields {σ : Type} (s : Session σ) : Operation → Outcome → Prop
  | .send (.ok _) shape, o => (Goal.payload shape).Yields o
  | .signIn _, o => Goal.signIn.Yields o
  | .register _, o => (Goal.payload .any).Yields o
  | .fetchProfile, .profile p => p.isSome = s.lifecycle.store.current.hasAccess
  | .changeProfile _, o => Goal.changedProfile.Yields o
  | .renewNow, .renewed done => done = s.lifecycle.store.current.hasRefresh
  | .renew, o => Want.token.Yields o
  | _, _ => False

namespace Session

variable {σ : Type} {s s' : Session σ} {P Q : TaskId → Outcome → Prop} {id : TaskId}

/-- What each operation under way may yield, and what those have yielded that ended, is promised. -/
structure Fulfils (P : TaskId → Outcome → Prop) (s : Session σ) : Prop where
  tasks : ∀ i t, s.task? i = some t → ∀ o, t.Yields o → P i o
  results : ∀ i o, (i, .ok o) ∈ s.lifecycle.journal.results → P i o

namespace Fulfils

theorem mono (h : s.Fulfils P) (hPQ : ∀ i o, P i o → Q i o) : s.Fulfils Q where
  tasks i t ht o ho := hPQ i o (h.tasks i t ht o ho)
  results i o ho := hPQ i o (h.results i o ho)

theorem log (h : s.Fulfils P) {e : Entry} (he : Journal.results [e] = []) : (s.log e).Fulfils P where
  tasks := h.tasks
  results i o ho := by
    have hsame : (s.log e).lifecycle.journal.results = s.lifecycle.journal.results :=
      Journal.view_append_of_nil he
    exact h.results i o (hsame ▸ ho)

theorem await (h : s.Fulfils P) {t : Task} (ht : ∀ o, t.Yields o → P id o) :
    (s.await id t).Fulfils P where
  tasks := forall_task?_await (P := fun i t => ∀ o, t.Yields o → P i o) h.tasks ht
  results := h.results

theorem dismiss (h : s.Fulfils P) (id : TaskId) : (s.dismiss id).Fulfils P where
  tasks i t ht := by
    rw [task?_dismiss] at ht
    split at ht
    · cases ht
    · exact h.tasks i t ht
  results := h.results

theorem finish (h : s.Fulfils P) {result : Except SessionError Outcome}
    (hr : ∀ o, result = .ok o → P id o) : (s.finish id result).Fulfils P where
  tasks := (h.dismiss id).tasks
  results i o ho := by
    have hmem : (i, Except.ok o) ∈ s.lifecycle.journal.results ++ [(id, result)] :=
      Journal.results_append s.lifecycle.journal [.finished id result] ▸ ho
    rcases List.mem_append.1 hmem with hmem | hmem
    · exact h.results i o hmem
    · obtain ⟨rfl, rfl⟩ := Prod.mk.inj (List.mem_singleton.1 hmem)
      exact hr o rfl

/-- An operation that fails breaks no promise. -/
theorem finish_error (h : s.Fulfils P) (id : TaskId) (e : SessionError) :
    (s.finish id (.error e)).Fulfils P :=
  h.finish fun o ho => by cases ho

variable [Storage σ]

theorem rests (h : s.Fulfils P) (hr : s.Rests s') : s'.Fulfils P := by
  obtain ⟨l, hl, rfl⟩ := hr
  exact ⟨h.tasks, fun i o ho => h.results i o (hl.results_eq ▸ ho)⟩

/-! ### Calls -/

theorem fail (h : s.Fulfils P) (id : TaskId) (call : Call) (e : SessionError) :
    (s.fail id call e).Fulfils P := by
  obtain ⟨s₁, hr, heq⟩ := exists_fail_eq id call e s
  rw [heq]
  exact (h.rests hr).finish_error id e

theorem issue (h : s.Fulfils P) {call : Call} (hcall : ∀ o, call.goal.Yields o → P id o) (again : Bool)
    (bearer : Option String) : (s.issue id call again bearer).Fulfils P := by
  cases ho : Outgoing.ofRequest s.settings.baseUrl bearer s.dispatched call.request with
  | error e =>
    rw [issue_of_error ho]
    exact h.fail id call e
  | ok request =>
    have hsent : ({ s with dispatched := s.dispatched + 1 } : Session σ).Fulfils P :=
      ⟨h.tasks, h.results⟩
    rw [issue_of_ok ho]
    refine (hsent.await ?_).log rfl
    cases again <;> exact hcall

theorem begin (h : s.Fulfils P) {call : Call} (hcall : ∀ o, call.goal.Yields o → P id o) :
    (s.begin id call).Fulfils P :=
  h.issue hcall false s.access?

/-- Whether the profile is fetched depends on the token that is there. -/
theorem fetchProfile (h : s.Fulfils P)
    (hp : ∀ p : Option Profile, p.isSome = s.lifecycle.store.current.hasAccess → P id (.profile p)) :
    (s.fetchProfile id).Fulfils P := by
  unfold Session.fetchProfile
  split
  · rename_i haccess
    refine h.begin fun o ho => ?_
    cases o with
    | profile p => exact hp p (Eq.trans ho haccess.symm)
    | _ => exact ho.elim
  · rename_i haccess
    refine h.finish fun o ho => ?_
    obtain rfl := Except.ok.inj ho
    exact hp none (Bool.eq_false_iff.2 haccess).symm

theorem succeed (h : s.Fulfils P) {call : Call} (hcall : ∀ o, call.goal.Yields o → P id o)
    (payload : Json.Value) : (s.succeed id call payload).Fulfils P := by
  have hcount : (s.count (.request .ok)).Fulfils P :=
    h.rests (rests_count (c := .request .ok) trivial nofun)
  have hends {s₁ : Session σ} (h₁ : s₁.Fulfils P) {o : Outcome} (ho : call.goal.Yields o) :
      (s₁.finish id (.ok o)).Fulfils P :=
    h₁.finish fun o' ho' => hcall o' (Except.ok.inj ho' ▸ ho)
  simp only [Session.succeed]
  split
  · rename_i shape hgoal
    split
    · rename_i v hv
      exact hends hcount (hgoal ▸ ⟨payload, hv⟩)
    · exact hcount.finish_error id _
  · -- A sign-in yields the profile that is fetched after it, or says that there is none.
    rename_i hgoal
    have hprofile (p : Option Profile) : call.goal.Yields (.profile p) := hgoal ▸ trivial
    split
    · split
      · exact hends hcount (hprofile none)
      · exact (hcount.rests (rests_update (.storeCredentials .refl _ _))).fetchProfile
          fun p _ => hcall _ (hprofile p)
    · exact hcount.finish_error id _
  · rename_i hgoal
    split
    · exact hends (hcount.rests (rests_update (.setProfile .refl))) (hgoal ▸ rfl)
    · exact (hcount.rests (rests_logout _)).finish_error id _
  · rename_i hgoal
    split
    · rename_i p hp
      exact hends (hcount.rests (rests_update (.setProfile .refl))) (hgoal ▸ ⟨p, rfl⟩)
    · exact hcount.finish_error id _

/-! ### Renewals -/

theorem grant (h : s.Fulfils P) {want : Want} (hwant : ∀ o, want.Yields o → P id o)
    (granted : Granted) : (s.grant id want granted).Fulfils P := by
  have hlog : (s.log (.granted id granted)).Fulfils P := h.log rfl
  have hends (f : String → Outcome) (hf : ∀ token, P id (f token)) :
      ((s.log (.granted id granted)).finish id (granted.map f)).Fulfils P := by
    refine hlog.finish fun o ho => ?_
    cases granted with
    | ok token => exact Except.ok.inj ho ▸ hf token
    | error e => cases ho
  rcases want with call | _ | _
  · cases granted with
    | ok token => exact (hlog.rests (rests_count (c := .replay) trivial nofun)).issue hwant true _
    | error e => exact hlog.fail id call e
  · exact hends .token fun token => hwant (.token token) trivial
  · exact hends (fun _ => .renewed true) fun _ => hwant (.renewed true) rfl

theorem renewThen (h : s.Fulfils P) {want : Want} (hwant : ∀ o, want.Yields o → P id o) :
    (s.renewThen id want).Fulfils P := by
  have hasked : (s.log (.asked id)).Fulfils P := h.log rfl
  have hwaits : ∀ o, (Task.renewal want).Yields o → P id o := hwant
  cases hf : s.flight with
  | some f =>
    have hqueues : ({ s.log (.asked id) with
        flight := some { f with waiters := f.waiters ++ [id] } } : Session σ).Fulfils P :=
      ⟨hasked.tasks, hasked.results⟩
    rw [renewThen_of_flight hf]
    exact hqueues.await hwaits
  | none =>
    by_cases hr : s.lifecycle.store.current.refresh = ""
    · rw [renewThen_of_refresh_eq hf hr]
      exact (hasked.rests (rests_refuses _)).grant hwant _
    · have hdrives (flight : Flight) :
          ({ s.log (.asked id) with flight := some flight } : Session σ).Fulfils P :=
        ⟨hasked.tasks, hasked.results⟩
      have hlaunched : (s.launched id want).Fulfils P := ((hdrives _).await hwaits).log rfl
      rw [renewThen_of_idle hf hr]
      split
      · exact hlaunched.log rfl
      · exact hlaunched

theorem goOn (h : s.Fulfils P) (id : TaskId) (granted : Granted) : (s.goOn id granted).Fulfils P := by
  unfold Session.goOn
  split
  · rename_i want ht
    exact h.grant (h.tasks id _ ht) granted
  · exact h

theorem resolve (h : s.Fulfils P) (result : Except RenewalError Renewed) :
    (s.resolve result).Fulfils P := by
  cases hf : s.flight with
  | none =>
    rw [Session.resolve, hf]
    exact h
  | some f =>
    obtain ⟨l, r, hl, -, heq⟩ := conclude_eq f result s
    have hcounted : ({ s with lifecycle := l } : Session σ).Fulfils P := h.rests ⟨l, hl, rfl⟩
    have hsettled : (s.settled f result).Fulfils P := by
      rw [settled, heq]
      exact ⟨h.tasks, (hcounted.log (e := .counted (.renewal r)) rfl).results⟩
    rw [resolve_of_flight hf]
    exact hsettled.goOn f.driver _

theorem resume (h : s.Fulfils P) : s.resume.Fulfils P := by
  unfold Session.resume
  split
  · exact h
  · rename_i id granted rest _
    have hpops : ({ s with handed := rest } : Session σ).Fulfils P := ⟨h.tasks, h.results⟩
    exact hpops.goOn id granted

omit [Storage σ] in
theorem abort (h : s.Fulfils P) (id : TaskId) : (s.abort id).Fulfils P := by
  have hleaves : (s.dismiss id).Fulfils P := h.dismiss id
  simp only [Session.abort]
  split
  · split
    · exact ⟨hleaves.tasks, (hleaves.log (e := .counted (.renewal .abandoned)) rfl).results⟩
    · exact hleaves
  · exact hleaves

/-! ### Answers -/

theorem receive (h : s.Fulfils P) {call : Call} (hcall : ∀ o, call.goal.Yields o → P id o)
    (again : Bool) (answer : Except SessionError Received) : (s.receive id call again answer).Fulfils P := by
  unfold Session.receive
  split
  · exact h.fail id call _
  · split
    · exact h.succeed hcall _
    · exact h.fail id call _
  · split
    · exact (h.rests (rests_expire s)).fail id call _
    · split
      · exact h.fail id call _
      · exact h.renewThen hcall

theorem answer (h : s.Fulfils P) (id : TaskId) (x : Exchange) : (s.answer id x).Fulfils P := by
  simp only [Session.answer]
  split
  · rename_i call request ht
    exact h.receive (h.tasks id _ ht) false _
  · rename_i call request ht
    exact h.receive (h.tasks id _ ht) true _
  · exact h

/-! ### Steps -/

/-- An operation that starts keeps what it promises. -/
theorem start (h : s.Fulfils P) {operation : Operation}
    (hop : ∀ o, operation.Yields s o → P s.started o) : (s.start operation).Fulfils P := by
  have hopens : ({ s with started := s.started + 1 } : Session σ).Fulfils P := ⟨h.tasks, h.results⟩
  simp only [Session.start]
  split
  · exact hopens.begin hop
  · exact hopens.finish_error _ _
  · exact hopens.begin hop
  · exact hopens.begin hop
  · exact hopens.fetchProfile fun p hp => hop (.profile p) hp
  · exact hopens.begin hop
  · split
    · rename_i hrefresh
      refine hopens.renewThen fun o ho => hop o ?_
      cases o with
      | renewed done => exact Eq.trans ho hrefresh.symm
      | _ => exact ho.elim
    · rename_i hrefresh
      refine hopens.finish fun o ho => hop o ?_
      obtain rfl := Except.ok.inj ho
      exact (Bool.eq_false_iff.2 hrefresh).symm
  · exact hopens.renewThen hop

end Fulfils

variable [Storage σ]

/-- No step breaks a promise, if what it starts is promised. -/
theorem fulfils_step (h : s.Fulfils P) {e : Event}
    (hstart : ∀ operation, e = .start operation → ∀ o, operation.Yields s o → P s.started o) :
    (s.step e).Fulfils P := by
  cases e with
  | start operation => exact h.start (hstart operation rfl)
  | answer id x => exact h.answer id x
  | answerRenewal x =>
    obtain ⟨result, heq⟩ := exists_answerRenewal_eq x s
    rw [step, heq]
    exact h.resolve result
  | resolve result => exact h.resolve result
  | resume => exact h.resume
  | abort id => exact h.abort id
  | reset =>
    simp only [step, reset]
    split <;> exact ⟨h.tasks, h.results⟩
  | act action => exact h.rests (rests_act action s)

/-- In the course of events the operation `id` was started, and may yield `o`. -/
def Promised (events : List Event) (s : Session σ) (id : TaskId) (o : Outcome) : Prop :=
  ∃ done operation rest, events = done ++ .start operation :: rest ∧
    (s.run done).started = id ∧ operation.Yields (s.run done) o

theorem fulfils_run (settings : Settings) (store : CredentialStore σ) (events : List Event) :
    ((ofStore settings store).run events).Fulfils (Promised events (ofStore settings store)) := by
  induction events using List.reverseRecOn with
  | nil =>
    refine ⟨fun i t ht => ?_, fun i o ho => ?_⟩
    · rw [show ((ofStore settings store).run []).task? i = none from rfl] at ht
      cases ht
    · exact absurd ho List.not_mem_nil
  | append_singleton done e ih =>
    rw [run_concat]
    refine fulfils_step (ih.mono ?_) ?_
    · rintro i o ⟨done', operation, rest, rfl, hid, ho⟩
      exact ⟨done', operation, rest ++ [e], by simp, hid, ho⟩
    · rintro operation rfl o ho
      exact ⟨done, operation, [], rfl, rfl, ho⟩

/-- Whatever happens to a session, an operation that succeeds yields what it was asked for, as it was
    when it was started. -/
theorem yields_run (settings : Settings) (store : CredentialStore σ) (events : List Event)
    {id : TaskId} {o : Outcome}
    (h : (id, .ok o) ∈ ((ofStore settings store).run events).lifecycle.journal.results) :
    Promised events (ofStore settings store) id o :=
  (fulfils_run settings store events).results id o h

/-- What the first operation of a session yields after a conversation. -/
theorem yields_converse (settings : Settings) (store : CredentialStore σ) {operation : Operation}
    {link : Link} {exchanges : List Exchange} {o : Outcome}
    (h : (((ofStore settings store).start operation).converse link exchanges).result? 0 =
      some (.ok o)) : operation.Yields (ofStore settings store) o := by
  obtain ⟨events, hevents, heq⟩ :=
    responds_converse link exchanges ((ofStore settings store).start operation)
  obtain ⟨before, after, hcut, -⟩ := List.lookup_eq_some_iff.1 h
  have hmem : (0, .ok o) ∈ (((ofStore settings store).start operation).run
      events).lifecycle.journal.results := by
    rw [← heq, hcut]
    exact List.mem_append_right _ List.mem_cons_self
  obtain ⟨done, operation', rest, hcut, -, ho⟩ :=
    yields_run settings store (.start operation :: events) hmem
  cases done with
  | nil =>
    obtain ⟨hop, -⟩ := List.cons.inj hcut
    exact Event.start.inj hop ▸ ho
  | cons e done =>
    -- Nothing else is started in a conversation.
    obtain ⟨-, rfl⟩ := List.cons.inj hcut
    exact (hevents (.start operation') (by simp)).elim

end Session

end ShopClient
