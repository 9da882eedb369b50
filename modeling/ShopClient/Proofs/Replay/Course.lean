import ShopClient.Proofs.Replay.Deeds
import Mathlib.Data.List.Induction

/-!
# The course of a call

From its beginning on, a call takes one of few courses, whatever else happens to the session. It sends
its request. If the token is refused that the request took along, and the call needs one, it asks for a
renewal and goes on with what that came to. With a new token it sends the request once more, and there
is no way on from the answer to that one. It can be dropped wherever it waits.

* `Refuses`: the first request of a call is answered, and the token is refused;
* `Course`: what a call did so far, and what it waits for;
* `course_step`, `course_run`: that is all, in any run;
* `spares_run_of_none`, `deeds_run_abort`: an operation that is over, or was dropped, does nothing any
  more.
-/

namespace ShopClient

/-- Only an answer says that a token is refused. -/
theorem Exchange.eq_of_unauthorized {x : Exchange} {o : Outgoing} {timeout : Nat}
    {body : Text.Bytes} (h : x.received o timeout = .ok (.unauthorized body)) :
    x = .answered .unauthorized body := by
  cases x with
  | answered status body' =>
    rw [received] at h
    split at h
    · rename_i hstatus
      obtain rfl := Received.unauthorized.inj (Except.ok.inj h)
      rw [hstatus]
    · split at h <;> cases h
  | _ => cases h

namespace Session

variable {σ : Type} [Storage σ]

/-- The first request of a call that begins in `s`, with the token of that moment. -/
def opening (call : Call) (s : Session σ) : Except SessionError Outgoing :=
  Outgoing.ofRequest s.settings.baseUrl s.access? s.dispatched call.request

/-- In the course of `rest` the first request `o` was answered, which was all that the call `id` had
    done since it began in `s`, and its token was refused. The call needs a token. -/
structure Refuses (s : Session σ) (id : TaskId) (call : Call) (o : Outgoing) (rest : List Event) :
    Prop where
  needs : call.request.isPublic = false
  answered : ∃ before body after,
    rest = before ++ .answer id (.answered .unauthorized body) :: after ∧
      Does id [.sent (.task id) o] (some (.first call o)) s ((s.begin id call).run before)

/-- What comes of sending the request of a call again with the token `t`. -/
def Resends (s : Session σ) (call : Call) (t : String) (result : Except SessionError Outgoing) :
    Prop :=
  ∃ n, Outgoing.ofRequest s.settings.baseUrl (some t) n call.request = result

/-- What the call `id` did since it began in `s`, and what it waits for, when `rest` has happened. -/
inductive Course (s : Session σ) (id : TaskId) (call : Call) (rest : List Event) :
    Journal → Option Task → Prop
  /-- The request cannot be sent. -/
  | unsent {e : SessionError} :
    s.opening call = .error e → Course s id call rest [.finished id (.error e)] none
  | waits {o : Outgoing} :
    s.opening call = .ok o →
      Course s id call rest [.sent (.task id) o] (some (.first call o))
  | answered {o : Outgoing} {result : Except SessionError Outcome} :
    s.opening call = .ok o →
      Course s id call rest [.sent (.task id) o, .finished id result] none
  | asks {o : Outgoing} :
    s.opening call = .ok o → s.Refuses id call o rest →
      Course s id call rest [.sent (.task id) o, .asked id] (some (.renewal (.replay call)))
  /-- There is no new token. -/
  | denied {o : Outgoing} {e : SessionError} :
    s.opening call = .ok o → s.Refuses id call o rest →
      Course s id call rest
        [.sent (.task id) o, .asked id, .granted id (.error e), .finished id (.error e)] none
  /-- The request cannot be sent with the new token. -/
  | unsentAgain {o : Outgoing} {t : String} {e : SessionError} :
    s.opening call = .ok o → s.Refuses id call o rest → s.Resends call t (.error e) →
      Course s id call rest
        [.sent (.task id) o, .asked id, .granted id (.ok t), .finished id (.error e)] none
  | waitsAgain {o o' : Outgoing} {t : String} :
    s.opening call = .ok o → s.Refuses id call o rest → s.Resends call t (.ok o') →
      Course s id call rest
        [.sent (.task id) o, .asked id, .granted id (.ok t), .sent (.task id) o']
        (some (.replayed call o'))
  | answeredAgain {o o' : Outgoing} {t : String} {result : Except SessionError Outcome} :
    s.opening call = .ok o → s.Refuses id call o rest → s.Resends call t (.ok o') →
      Course s id call rest
        [.sent (.task id) o, .asked id, .granted id (.ok t), .sent (.task id) o',
          .finished id result] none
  | dropped {did : Journal} {t : Task} :
    Course s id call rest did (some t) → Course s id call rest did none

variable {s s' : Session σ} {id : TaskId} {call : Call} {o : Outgoing} {rest : List Event}
  {did : Journal} {t? : Option Task}

theorem Refuses.concat (h : s.Refuses id call o rest) (e : Event) :
    s.Refuses id call o (rest ++ [e]) := by
  obtain ⟨needs, before, body, after, rfl, hdone⟩ := h
  exact ⟨needs, before, body, after ++ [e], by simp, hdone⟩

theorem Course.concat (h : Course s id call rest did t?) (e : Event) :
    Course s id call (rest ++ [e]) did t? := by
  induction h with
  | unsent ho => exact .unsent ho
  | waits ho => exact .waits ho
  | answered ho => exact .answered ho
  | asks ho hr => exact .asks ho (hr.concat e)
  | denied ho hr => exact .denied ho (hr.concat e)
  | unsentAgain ho hr hs => exact .unsentAgain ho (hr.concat e) hs
  | waitsAgain ho hr hs => exact .waitsAgain ho (hr.concat e) hs
  | answeredAgain ho hr hs => exact .answeredAgain ho (hr.concat e) hs
  | dropped _ ih => exact .dropped ih

theorem Course.drop (h : Course s id call rest did t?) : Course s id call rest did none := by
  cases t? with
  | none => exact h
  | some t => exact .dropped h

/-! ### Steps -/

/-- A call begins. -/
theorem course_begin (s : Session σ) (id : TaskId) (call : Call) :
    ∃ did t?, Does id did t? s (s.begin id call) ∧ Course s id call [] did t? := by
  cases ho : s.opening call with
  | error e => exact ⟨_, _, does_issue_of_error ho id false, .unsent ho⟩
  | ok o => exact ⟨_, _, does_issue ho id false, .waits ho⟩

/-- A call goes on with what the renewal came to. -/
theorem course_granted {want : Want} (hc : Course s id call rest did (some (.renewal want)))
    {s₁ : Session σ} (hset : s₁.settings = s.settings) (granted : Granted) (e : Event) :
    ∃ did' t?', Does id did' t?' s₁ (s₁.grant id want granted) ∧
      Course s id call (rest ++ [e]) (did ++ did') t?' := by
  cases hc with
  | asks ho hr =>
    have hr' := hr.concat e
    cases granted with
    | error error =>
      exact ⟨_, _, does_grant_of_error id call error s₁, .denied ho hr'⟩
    | ok t =>
      rcases does_grant_of_ok id call t s₁ with ⟨error, ho', hd⟩ | ⟨o', ho', hd⟩
      · exact ⟨_, _, hd, .unsentAgain ho hr' ⟨_, hset ▸ ho'⟩⟩
      · exact ⟨_, _, hd, .waitsAgain ho hr' ⟨_, hset ▸ ho'⟩⟩

omit [Storage σ] in
theorem bind_tokens?_of_signIn? {x : Exchange} (again : Bool)
    (ht : s.task? id = some (if again then .replayed call o else .first call o))
    (hl : s.signIn? (.answer id x) = none) (hgoal : call.goal = .signIn) :
    (payload? (x.received o s.settings.requestTimeout)).bind tokens? = none := by
  have hd : s.delivery? (.answer id x) =
      some ⟨id, call, again, x.received o s.settings.requestTimeout⟩ := by
    cases again <;> simp [delivery?, ht]
  rw [← hl, signIn?_of_delivery? hd hgoal]

/-- A call goes on with the answer to its request. -/
theorem course_answered (hd : Does id did t? s ((s.begin id call).run rest))
    (hc : Course s id call rest did t?) (x : Exchange)
    (hl : call.goal = .signIn → ((s.begin id call).run rest).signIn? (.answer id x) = none) :
    ∃ did' t?', Does id did' t?' ((s.begin id call).run rest)
        (((s.begin id call).run rest).answer id x) ∧
      Course s id call (rest ++ [.answer id x]) (did ++ did') t?' := by
  have ht := hd.task
  have hstays := hc.concat (.answer id x)
  generalize hs' : (s.begin id call).run rest = s' at *
  cases hc with
  | @waits o ho =>
    have htokens (hgoal : call.goal = .signIn) := bind_tokens?_of_signIn? false ht (hl hgoal) hgoal
    have hanswer : s'.answer id x = s'.receive id call false
        (x.received o s'.settings.requestTimeout) := by simp only [answer, ht]
    rw [hanswer]
    rcases does_receive (x.received_ne_expired o _) htokens id false s' with
      ⟨result, hdone⟩ | ⟨body, hbody, -, hneeds, heq⟩
    · exact ⟨_, _, hdone, .answered ho⟩
    · -- The token was refused: this is what the course goes by from now on.
      have hr : s.Refuses id call o (rest ++ [.answer id x]) :=
        ⟨hneeds, rest, body, [], by rw [Exchange.eq_of_unauthorized hbody], hs' ▸ hd⟩
      rw [heq]
      rcases does_renewThen id call s' with hdone | hdone
      · exact ⟨_, _, hdone, .asks ho hr⟩
      · exact ⟨_, _, hdone, .denied ho hr⟩
  | @waitsAgain o o' t ho hr hs =>
    have htokens (hgoal : call.goal = .signIn) := bind_tokens?_of_signIn? true ht (hl hgoal) hgoal
    have hanswer : s'.answer id x = s'.receive id call true
        (x.received o' s'.settings.requestTimeout) := by simp only [answer, ht]
    rw [hanswer]
    rcases does_receive (x.received_ne_expired o' _) htokens id true s' with
      ⟨result, hdone⟩ | ⟨-, -, hagain, -⟩
    · exact ⟨_, _, hdone, .answeredAgain ho (hr.concat _) hs⟩
    · cases hagain
  | _ =>
    -- No request of the call waits for an answer.
    refine ⟨[], _, ?_, by rw [List.append_nil]; exact hstays⟩
    simp only [answer, ht]
    exact ⟨(List.append_nil _).symm, ht⟩

/-! ### Runs -/

/-- The call `id` lasts in the course of `rest`: no sign-in passes into the request for the profile,
    which is a call of its own. -/
def Lasts (s : Session σ) (id : TaskId) (call : Call) (rest : List Event) : Prop :=
  call.goal = .signIn → ∀ before x after, rest = before ++ .answer id x :: after →
    (s.run before).signIn? (.answer id x) = none

theorem Lasts.of_concat {e : Event} (h : s.Lasts id call (rest ++ [e])) : s.Lasts id call rest := by
  rintro hgoal before x after rfl
  exact h hgoal before x (after ++ [e]) (by simp)

/-- What holds of the session when a call has begun: it is in order, and the operation was started. -/
structure HasBegun (s₀ : Session σ) (id : TaskId) (s : Session σ) : Prop where
  inOrder : s.InOrder []
  lt : id < s.started
  settings : s.settings = s₀.settings

theorem HasBegun.step {s₀ : Session σ} (h : HasBegun s₀ id s) (e : Event) :
    HasBegun s₀ id (s.step e) where
  inOrder := inOrder_step h.inOrder e
  lt := Nat.lt_of_lt_of_le h.lt (started_le_step h.inOrder e)
  settings := (settings_step h.inOrder e).trans h.settings

theorem HasBegun.run {s₀ : Session σ} (h : HasBegun s₀ id s) (events : List Event) :
    HasBegun s₀ id (s.run events) := by
  induction events generalizing s with
  | nil => exact h
  | cons e events ih => exact ih (h.step e)

/-- One more event takes a call no further than to the next place in its course. -/
theorem course_step (hb : HasBegun s id ((s.begin id call).run rest))
    (hd : Does id did t? s ((s.begin id call).run rest)) (hc : Course s id call rest did t?)
    (e : Event) (hl : (s.begin id call).Lasts id call (rest ++ [e])) :
    ∃ did' t?', Does id did' t?' s ((s.begin id call).run (rest ++ [e])) ∧
      Course s id call (rest ++ [e]) did' t?' := by
  rw [run_concat]
  rcases spares_or_turned hb.inOrder hb.lt e with hspares | hturned
  · exact ⟨did, t?, hd.spared hspares, hc.concat e⟩
  · generalize hs' : ((s.begin id call).run rest).step e = s' at hturned ⊢
    cases hturned with
    | @answered x =>
      obtain ⟨did', t?', hdone, hc'⟩ :=
        course_answered hd hc x fun hgoal => hl hgoal rest x [] rfl
      exact ⟨_, _, hd.then hdone, hc'⟩
    | aborted =>
      have hdone := hd.then (does_abort id _)
      rw [List.append_nil] at hdone
      exact ⟨_, _, hdone, (hc.concat _).drop⟩
    | @granted e s₁ want granted hspares hset ht =>
      obtain rfl := hd.task.symm.trans ht
      obtain ⟨did', t?', hdone, hc'⟩ := course_granted hc (hset.trans hb.settings) granted e
      exact ⟨_, _, hd.then (hspares.then hdone), hc'⟩

/-- Whatever happens, a call takes one of its courses. -/
theorem course_run (hb : HasBegun s id (s.begin id call))
    (hl : (s.begin id call).Lasts id call rest) :
    ∃ did t?, Does id did t? s ((s.begin id call).run rest) ∧ Course s id call rest did t? := by
  induction rest using List.reverseRecOn with
  | nil =>
    rw [show (s.begin id call).run [] = s.begin id call from List.foldl_nil]
    exact course_begin s id call
  | append_singleton rest e ih =>
    obtain ⟨did, t?, hd, hc⟩ := ih hl.of_concat
    exact course_step (hb.run rest) hd hc e hl

/-- An operation that is over does nothing any more. -/
theorem spares_run_of_none {s₀ : Session σ} (hb : HasBegun s₀ id s) (ht : s.task? id = none)
    (events : List Event) : s.Spares id (s.run events) := by
  induction events generalizing s with
  | nil => exact .refl s
  | cons e events ih =>
    have hspares : s.Spares id (s.step e) := by
      rcases spares_or_turned hb.inOrder hb.lt e with hspares | hturned
      · exact hspares
      · generalize s.step e = s' at hturned ⊢
        cases hturned with
        | answered =>
          simp only [answer, ht]
          exact .refl s
        | aborted => exact ⟨(does_abort id s).deeds, ht ▸ (does_abort id s).task⟩
        | granted _ _ ht' => cases ht.symm.trans ht'
    exact hspares.spared (ih (hb.step e) (hspares.task.trans ht))

/-- An operation that was dropped does nothing any more. -/
theorem deeds_run_abort (hin : s.InOrder []) (hlt : id < s.started) (later : List Event) :
    ((s.step (.abort id)).run later).deeds id = s.deeds id := by
  have hdrops : Does id [] none s (s.step (.abort id)) := does_abort id s
  have hbegun : HasBegun s id (s.step (.abort id)) := {
    inOrder := inOrder_step hin _
    lt := Nat.lt_of_lt_of_le hlt (started_le_step hin _)
    settings := settings_step hin _ }
  rw [(spares_run_of_none hbegun hdrops.task later).deeds, hdrops.deeds, List.append_nil,
    List.append_nil]

end Session

end ShopClient
