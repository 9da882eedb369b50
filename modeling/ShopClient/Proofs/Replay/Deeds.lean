import ShopClient.Proofs.Standing.Effect

/-!
# What an operation does of its own

The journal tells what each operation did of its own: which requests it sent, when it asked for a
renewal, with what it went on, and how it ended. An operation does something only when it is its turn:
when it is started, when its request is answered, when it goes on after a renewal. All else spares it.

* `Does`: what an operation does, and what it waits for afterwards;
* `spares_or_turned`: in a step it is spared, or it comes to its turn (`Turned`);
* `does_issue`, `does_receive`, `does_renewThen`, `does_grant`: what it does then.
-/

namespace ShopClient

/-- Whether an entry tells of something that the operation `id` did of its own. -/
def Entry.isOf (id : TaskId) : Entry → Bool
  | .sent (.task i) _ | .asked i | .granted i _ | .finished i _ => i = id
  | _ => false

theorem Entry.IsRemark.isOf_eq {e : Entry} (h : e.IsRemark) (id : TaskId) : e.isOf id = false := by
  cases e with
  | told | counted => rfl
  | _ => exact h.elim

namespace Session

variable {σ : Type}

/-- What the operation `id` did of its own. -/
def deeds (id : TaskId) (s : Session σ) : Journal := s.lifecycle.journal.filter (·.isOf id)

theorem deeds_log_of_isOf {id : TaskId} {e : Entry} (h : e.isOf id = true) (s : Session σ) :
    (s.log e).deeds id = s.deeds id ++ [e] := by
  refine (List.filter_append s.lifecycle.journal [e]).trans ?_
  rw [List.filter_cons_of_pos h]
  rfl

theorem deeds_log_of_not_isOf {id : TaskId} {e : Entry} (h : e.isOf id = false) (s : Session σ) :
    (s.log e).deeds id = s.deeds id := by
  refine (List.filter_append s.lifecycle.journal [e]).trans ?_
  rw [List.filter_cons_of_neg (by simp [h]), List.filter_nil, List.append_nil]
  rfl

/-- The operation `id` did what `did` tells, and waits for `t?` now, if it is not over. -/
structure Does (id : TaskId) (did : Journal) (t? : Option Task) (s s' : Session σ) : Prop where
  deeds : s'.deeds id = s.deeds id ++ did
  task : s'.task? id = t?

/-- The operation `id` did nothing, and waits for what it waited for. -/
abbrev Spares (id : TaskId) (s s' : Session σ) : Prop := Does id [] (s.task? id) s s'

variable {s s₁ s' : Session σ} {id i : TaskId} {did did' : Journal} {t? t?' : Option Task}

/-! ### What is done, and what is not -/

theorem Does.then (h : Does id did t? s s₁) (h' : Does id did' t?' s₁ s') :
    Does id (did ++ did') t?' s s' :=
  ⟨by rw [h'.deeds, h.deeds, List.append_assoc], h'.task⟩

theorem Spares.refl (s : Session σ) : s.Spares id s := ⟨(List.append_nil _).symm, rfl⟩

/-- Who is spared afterwards did what it did before. -/
theorem Does.spared (h : Does id did t? s s₁) (h' : s₁.Spares id s') : Does id did t? s s' :=
  ⟨by rw [h'.deeds, h.deeds, List.append_nil], h'.task.trans h.task⟩

/-- To change neither the operations nor the journal spares everybody. -/
theorem spares_of_eq (htasks : s'.tasks = s.tasks) (hlifecycle : s'.lifecycle = s.lifecycle) :
    s.Spares id s' where
  deeds := by rw [deeds, deeds, hlifecycle, List.append_nil]
  task := by rw [task?, task?, htasks]

theorem Does.log (h : Does id did t? s s₁) {e : Entry} (he : e.isOf id = true) :
    Does id (did ++ [e]) t? s (s₁.log e) where
  deeds := by rw [deeds_log_of_isOf he, h.deeds, List.append_assoc]
  task := h.task

/-- What others did, or nobody, is no deed. -/
theorem Does.log_other (h : Does id did t? s s₁) {e : Entry} (he : e.isOf id = false) :
    Does id did t? s (s₁.log e) where
  deeds := (deeds_log_of_not_isOf he s₁).trans h.deeds
  task := h.task

theorem Does.await (h : Does id did t? s s₁) (t : Task) : Does id did (some t) s (s₁.await id t) :=
  ⟨h.deeds, task?_await_self s₁ id t⟩

theorem Does.await_other (h : Does id did t? s s₁) (hi : id ≠ i) (t : Task) :
    Does id did t? s (s₁.await i t) :=
  ⟨h.deeds, (task?_await s₁ i id t).trans ((if_neg hi).trans h.task)⟩

theorem Does.dismiss (h : Does id did t? s s₁) : Does id did none s (s₁.dismiss id) :=
  ⟨h.deeds, (task?_dismiss s₁ id id).trans (if_pos rfl)⟩

theorem Does.dismiss_other (h : Does id did t? s s₁) (hi : id ≠ i) :
    Does id did t? s (s₁.dismiss i) :=
  ⟨h.deeds, (task?_dismiss s₁ i id).trans ((if_neg hi).trans h.task)⟩

theorem Does.finish (h : Does id did t? s s₁) (result : Except SessionError Outcome) :
    Does id (did ++ [.finished id result]) none s (s₁.finish id result) :=
  h.dismiss.log (by simp [Entry.isOf])

variable [Storage σ]

/-! ### Those whose turn it is not -/

theorem Rests.spares (h : s.Rests s') : s.Spares id s' := by
  obtain ⟨l, hl, rfl⟩ := h
  obtain ⟨news, hj, hn⟩ := hl.journal
  refine ⟨?_, rfl⟩
  have hnil : news.filter (·.isOf id) = [] :=
    List.filter_eq_nil_iff.2 fun e he => by simp [(hn e he).isOf_eq id]
  rw [deeds, hj, List.filter_append, hnil]
  rfl

theorem Advances.spares {again : Bool} (h : Advances i again s s') (hi : id ≠ i) :
    s.Spares id s' := by
  cases h with
  | @ends s₁ result hr =>
    have hdrops : s.Spares id (s₁.dismiss i) := hr.spares.dismiss_other hi
    exact hdrops.log_other (by simp [Entry.isOf, Ne.symm hi])
  | @sends s₁ call request hr _ =>
    have hcounts : s.Spares id { s₁ with dispatched := s₁.dispatched + 1 } :=
      hr.spares.spared (spares_of_eq rfl rfl)
    exact (hcounts.await_other hi _).log_other (by simp [Entry.isOf, Ne.symm hi])

theorem spares_grant {want : Want} (hw : want.IsSound) (hi : id ≠ i) (granted : Granted)
    (s : Session σ) : s.Spares id (s.grant i want granted) := by
  have hlog : s.Spares id (s.log (.granted i granted)) :=
    (Spares.refl s).log_other (by simp [Entry.isOf, Ne.symm hi])
  exact hlog.spared ((advances_grant hw granted s).spares hi)

/-- Whoever asks for a renewal and can have one comes to wait for it, and does no more. -/
theorem spares_renewThen_of (h : s.flight ≠ none ∨ s.lifecycle.store.current.refresh ≠ "")
    (i : TaskId) (want : Want) :
    ((s.log (.asked i)).await i (.renewal want)).Spares id (s.renewThen i want) := by
  cases hf : s.flight with
  | some f =>
    rw [renewThen_of_flight hf]
    exact spares_of_eq rfl rfl
  | none =>
    have hlaunches : ((s.log (.asked i)).await i (.renewal want)).Spares id (s.launched i want) := by
      refine ⟨?_, rfl⟩
      rw [List.append_nil]
      exact deeds_log_of_not_isOf (e := .renewing _) rfl _
    rw [renewThen_of_idle hf (h.resolve_left (absurd hf))]
    split
    · exact hlaunches.log_other rfl
    · exact hlaunches

theorem spares_renewThen {want : Want} (hw : want.IsSound) (hi : id ≠ i) (s : Session σ) :
    s.Spares id (s.renewThen i want) := by
  have hasked : s.Spares id (s.log (.asked i)) :=
    (Spares.refl s).log_other (by simp [Entry.isOf, Ne.symm hi])
  by_cases h : s.flight ≠ none ∨ s.lifecycle.store.current.refresh ≠ ""
  · exact (hasked.await_other hi _).spared (spares_renewThen_of h i want)
  · rw [not_or, not_not, not_not] at h
    rw [renewThen_of_refresh_eq h.1 h.2]
    exact (hasked.spared (rests_refuses _).spares).spared (spares_grant hw hi _ _)

theorem Proceeds.spares {again : Bool} (h : Proceeds i again s s') (hi : id ≠ i) :
    s.Spares id s' := by
  cases h with
  | advances ha => exact ha.spares hi
  | asks _ hw => exact spares_renewThen hw hi s

theorem spares_settled (f : Flight) (result : Except RenewalError Renewed) (s : Session σ) :
    s.Spares id (s.settled f result) := by
  obtain ⟨l, r, hl, -, heq⟩ := conclude_eq f result s
  have hrests : s.Rests { s with lifecycle := l } := ⟨l, hl, rfl⟩
  have hspares : s.Spares id { s with lifecycle := l } := hrests.spares
  have hcounts := hspares.log_other (e := .counted (.renewal r)) rfl
  rw [settled, heq]
  exact ⟨hcounts.deeds, hcounts.task⟩

theorem settings_settled (f : Flight) (result : Except RenewalError Renewed) (s : Session σ) :
    (s.settled f result).settings = s.settings := by
  obtain ⟨l, r, -, -, heq⟩ := conclude_eq f result s
  rw [settled, heq]
  rfl

/-! ### Turns of an operation -/

/-- How an operation comes to its turn, once it was started: its request is answered, it is dropped,
    or it goes on with what a renewal came to. -/
inductive Turned (id : TaskId) (s : Session σ) : Event → Session σ → Prop
  | answered {x : Exchange} : Turned id s (.answer id x) (s.answer id x)
  | aborted : Turned id s (.abort id) (s.abort id)
  | granted {e : Event} {s₁ : Session σ} {want : Want} {granted : Granted} :
    s.Spares id s₁ → s₁.settings = s.settings → s.task? id = some (.renewal want) →
      Turned id s e (s₁.grant id want granted)

theorem spares_or_turned_goOn {e : Event} {granted : Granted} (hs : s.Spares id s₁)
    (hset : s₁.settings = s.settings)
    (hsound : ∀ want, s₁.task? i = some (.renewal want) → want.IsSound) :
    s.Spares id (s₁.goOn i granted) ∨ s.Turned id e (s₁.goOn i granted) := by
  unfold goOn
  split
  · rename_i want ht
    by_cases hi : id = i
    · subst hi
      exact .inr (.granted hs hset (hs.task.symm.trans ht))
    · exact .inl (hs.spared (spares_grant (hsound want ht) hi granted s₁))
  · exact .inl hs

theorem spares_or_turned_resolve (hin : s.InOrder []) (e : Event)
    (result : Except RenewalError Renewed) :
    s.Spares id (s.resolve result) ∨ s.Turned id e (s.resolve result) := by
  cases hf : s.flight with
  | none =>
    simp only [resolve, hf]
    exact .inl (.refl s)
  | some f =>
    rw [resolve_of_flight hf]
    refine spares_or_turned_goOn (spares_settled f result s) (settings_settled f result s) ?_
    intro want ht
    rw [(spares_settled f result s).task] at ht
    exact (hin.stage _ _ List.not_mem_nil ht).2

/-- It is the turn of an operation, or it is spared. -/
theorem spares_or_turned (hin : s.InOrder []) (hid : id < s.started) (e : Event) :
    s.Spares id (s.step e) ∨ s.Turned id e (s.step e) := by
  cases e with
  | start operation =>
    have hopens : s.Spares id { s with started := s.started + 1 } := spares_of_eq rfl rfl
    exact .inl (hopens.spared ((proceeds_start operation s).spares (Nat.ne_of_lt hid)))
  | answer i x =>
    by_cases hi : id = i
    · subst hi
      exact .inr .answered
    · -- Another operation goes on, if it waits for an answer at all.
      refine .inl ?_
      simp only [step, answer]
      split
      · rename_i ht
        exact (proceeds_receive (hin.stage _ _ List.not_mem_nil ht).2 _ s).spares hi
      · rename_i ht
        exact (proceeds_receive (hin.stage _ _ List.not_mem_nil ht).2 _ s).spares hi
      · exact .refl s
  | answerRenewal x =>
    obtain ⟨result, heq⟩ := exists_answerRenewal_eq x s
    rw [step, heq]
    exact spares_or_turned_resolve hin _ result
  | resolve result => exact spares_or_turned_resolve hin _ result
  | resume =>
    simp only [step, resume]
    split
    · exact .inl (.refl s)
    · rename_i i granted rest hh
      have hpops : s.Spares id { s with handed := rest } := spares_of_eq rfl rfl
      exact spares_or_turned_goOn hpops rfl fun want ht => (hin.stage _ _ List.not_mem_nil ht).2
  | abort i =>
    by_cases hi : id = i
    · subst hi
      exact .inr .aborted
    · have hleaves : s.Spares id (s.dismiss i) := (Spares.refl s).dismiss_other hi
      have hcounts := hleaves.log_other (e := .counted (.renewal .abandoned)) rfl
      refine .inl ?_
      simp only [step, abort]
      split
      · split
        · exact ⟨hcounts.deeds, hcounts.task⟩
        · exact hleaves
      · exact hleaves
  | reset =>
    simp only [step, reset]
    split
    · exact .inl (spares_of_eq rfl rfl)
    · exact .inl (.refl s)
  | act action => exact .inl (rests_act action s).spares

/-! ### What is done at a turn -/

variable {call : Call}

theorem does_fail (id : TaskId) (call : Call) (e : SessionError) (s : Session σ) :
    Does id [.finished id (.error e)] none s (s.fail id call e) := by
  obtain ⟨s₁, hr, heq⟩ := exists_fail_eq id call e s
  rw [heq]
  exact hr.spares.finish _

/-- A request is sent and waited for. -/
theorem does_issue {bearer : Option String} {o : Outgoing}
    (h : Outgoing.ofRequest s.settings.baseUrl bearer s.dispatched call.request = .ok o)
    (id : TaskId) (again : Bool) : Does id [.sent (.task id) o]
      (some (if again then .replayed call o else .first call o)) s (s.issue id call again bearer) := by
  have hcounts : s.Spares id { s with dispatched := s.dispatched + 1 } := spares_of_eq rfl rfl
  rw [issue_of_ok h]
  exact (hcounts.await _).log (by simp [Entry.isOf])

/-- A request that cannot be sent is the end of its operation. -/
theorem does_issue_of_error {bearer : Option String} {e : SessionError}
    (h : Outgoing.ofRequest s.settings.baseUrl bearer s.dispatched call.request = .error e)
    (id : TaskId) (again : Bool) :
    Does id [.finished id (.error e)] none s (s.issue id call again bearer) := by
  rw [issue_of_error h]
  exact does_fail id call e s

/-- A payload is the end of its operation, unless somebody is signed in by it. -/
theorem does_succeed {payload : Json.Value} (h : call.goal = .signIn → tokens? payload = none)
    (id : TaskId) : ∃ result, Does id [.finished id result] none s (s.succeed id call payload) := by
  have hcount : s.Rests (s.count (.request .ok)) := rests_count trivial nofun
  simp only [succeed]
  split
  · split <;> exact ⟨_, hcount.spares.finish _⟩
  · rename_i hgoal
    split
    · rename_i reply hreply
      split
      · exact ⟨_, hcount.spares.finish _⟩
      · rename_i haccess
        cases (h hgoal).symm.trans (tokens?_eq_some_iff.2 ⟨hreply, haccess⟩)
    · exact ⟨_, hcount.spares.finish _⟩
  · split
    · exact ⟨_, (hcount.trans (rests_update (.setProfile .refl))).spares.finish _⟩
    · exact ⟨_, (hcount.trans (rests_logout _)).spares.finish _⟩
  · split
    · exact ⟨_, (hcount.trans (rests_update (.setProfile .refl))).spares.finish _⟩
    · exact ⟨_, hcount.spares.finish _⟩

/-- An answer is the end of its operation, unless somebody is signed in by it, or it refuses the token
    of a first request that needs one. -/
theorem does_receive {answer : Except SessionError Received} (h : answer ≠ .error .sessionExpired)
    (hs : call.goal = .signIn → (payload? answer).bind tokens? = none) (id : TaskId)
    (again : Bool) (s : Session σ) :
    (∃ result, Does id [.finished id result] none s (s.receive id call again answer)) ∨
      ∃ body, answer = .ok (.unauthorized body) ∧ again = false ∧ call.request.isPublic = false ∧
        s.receive id call again answer = s.renewThen id (.replay call) := by
  have hreceipt := receipt_receive h id call again s
  generalize s.receive id call again answer = s' at hreceipt ⊢
  cases hreceipt with
  | @succeeds payload hp =>
    rw [hp, Option.bind_some] at hs
    exact .inl (does_succeed hs id)
  | @fails e => exact .inl ⟨_, does_fail id call e s⟩
  | refusedAgain =>
    exact .inl ⟨_, (rests_expire s).spares.then (does_fail id call .sessionExpired _)⟩
  | @asks body hbody hagain hpublic => exact .inr ⟨body, hbody, hagain, hpublic, rfl⟩

theorem does_grant_of_error (id : TaskId) (call : Call) (e : SessionError) (s : Session σ) :
    Does id [.granted id (.error e), .finished id (.error e)] none s
      (s.grant id (.replay call) (.error e)) := by
  have hlog : Does id [.granted id (.error e)] (s.task? id) s (s.log (.granted id (.error e))) :=
    (Spares.refl s).log (by simp [Entry.isOf])
  exact hlog.then (does_fail id call e _)

/-- With a new token the request is sent again, if it can be sent with it. -/
theorem does_grant_of_ok (id : TaskId) (call : Call) (t : String) (s : Session σ) :
    (∃ e, Outgoing.ofRequest s.settings.baseUrl (some t) s.dispatched call.request = .error e ∧
      Does id [.granted id (.ok t), .finished id (.error e)] none s
        (s.grant id (.replay call) (.ok t))) ∨
    ∃ o, Outgoing.ofRequest s.settings.baseUrl (some t) s.dispatched call.request = .ok o ∧
      Does id [.granted id (.ok t), .sent (.task id) o] (some (.replayed call o)) s
        (s.grant id (.replay call) (.ok t)) := by
  have hlog : Does id [.granted id (.ok t)] (s.task? id) s (s.log (.granted id (.ok t))) :=
    (Spares.refl s).log (by simp [Entry.isOf])
  let s₁ := (s.log (.granted id (.ok t))).count .replay
  have hcount : Does id [.granted id (.ok t)] (s.task? id) s s₁ := hlog.log_other rfl
  cases ho : Outgoing.ofRequest s.settings.baseUrl (some t) s.dispatched call.request with
  | error e => exact .inl ⟨e, rfl, hcount.then (does_issue_of_error (s := s₁) ho id true)⟩
  | ok o => exact .inr ⟨o, rfl, hcount.then (does_issue (s := s₁) ho id true)⟩

/-- Whoever asks for a renewal waits for it, or is told at once that the session is over. -/
theorem does_renewThen (id : TaskId) (call : Call) (s : Session σ) :
    Does id [.asked id] (some (.renewal (.replay call))) s (s.renewThen id (.replay call)) ∨
    Does id [.asked id, .granted id (.error .sessionExpired), .finished id (.error .sessionExpired)]
      none s (s.renewThen id (.replay call)) := by
  have hasked : Does id [.asked id] (s.task? id) s (s.log (.asked id)) :=
    (Spares.refl s).log (by simp [Entry.isOf])
  by_cases h : s.flight ≠ none ∨ s.lifecycle.store.current.refresh ≠ ""
  · exact .inl ((hasked.await _).spared (spares_renewThen_of h id (.replay call)))
  · rw [not_or, not_not, not_not] at h
    rw [renewThen_of_refresh_eq h.1 h.2]
    exact .inr (hasked.then ((rests_refuses _).spares.then (does_grant_of_error id call _ _)))

omit [Storage σ] in
theorem does_abort (id : TaskId) (s : Session σ) : Does id [] none s (s.abort id) := by
  have hdrops : Does id [] none s (s.dismiss id) := (Spares.refl s).dismiss
  have hcounts := hdrops.log_other (e := .counted (.renewal .abandoned)) rfl
  simp only [abort]
  split
  · split
    · exact ⟨hcounts.deeds, hcounts.task⟩
    · exact hdrops
  · exact hdrops

end Session

end ShopClient
