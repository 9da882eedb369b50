import ShopClient.Proofs.Renewal.Order

/-!
# Steps and runs

In a session in order every step is a turn, whatever happens; so a session stays in order along any run.

* `renewThen_of_flight`, `renewThen_of_idle`, `renewThen_of_refresh_eq`: the way into a renewal;
* `resolve_eq`: the way out of it, for its driver;
* `turn_step`: in a session in order, every step is a turn;
* `settings_step`, `started_le_step`: what no step changes;
* `inOrder_step`, `inOrder_run`: whatever happens to a session, it stays in order.
-/

namespace ShopClient.Session

variable {σ : Type} [Storage σ] {s s' : Session σ} {id : TaskId} {again : Bool}

omit [Storage σ] in
theorem refusals_of_asked (h : s'.lifecycle.journal.asked = s.lifecycle.journal.asked) :
    s.refusals s' = [] := by
  rw [refusals, asking, h, List.drop_length, List.map_nil, ite_self]

omit [Storage σ] in
theorem refusals_of_flight {f : Flight} (h : s.flight = some f) : s.refusals s' = [] := by
  rw [refusals, h]
  rfl

omit [Storage σ] in
theorem refusals_of_refresh (h : s.lifecycle.store.current.refresh ≠ "") : s.refusals s' = [] :=
  if_neg fun hc => h hc.2

/-- An operation that asks for a renewal comes into the queue of the one that is in flight. -/
theorem renewThen_of_flight {f : Flight} (hf : s.flight = some f) (id : TaskId) (want : Want) :
    s.renewThen id want = ({ s.log (.asked id) with
      flight := some { f with waiters := f.waiters ++ [id] } } : Session σ).await id
        (.renewal want) := by
  simp only [renewThen, show (s.log (.asked id)).flight = some f from hf]

/-- An operation that asks for a renewal starts one, if none is in flight and there is a refresh token.
    Its request is sent if it has an address. -/
theorem renewThen_of_idle (hf : s.flight = none) (hr : s.lifecycle.store.current.refresh ≠ "")
    (id : TaskId) (want : Want) :
    s.renewThen id want = match renewalRequest s.settings s.lifecycle.store.current.refresh with
      | .ok o => (s.launched id want).log (.sent .renewal o)
      | .error _ => s.launched id want := by
  have hr' : (s.log (.asked id)).lifecycle.store.current.refresh ≠ "" := hr
  simp only [renewThen, show (s.log (.asked id)).flight = none from hf, if_neg hr']
  split
  · rename_i o ho
    have ho' : renewalRequest s.settings s.lifecycle.store.current.refresh = .ok o := ho
    rw [ho']
    rfl
  · rename_i e he
    have he' : renewalRequest s.settings s.lifecycle.store.current.refresh = .error e := he
    rw [he']
    rfl

/-- Without a refresh token there is nothing to renew, and the session is over. -/
theorem rests_refuses (s : Session σ) :
    s.Rests ((s.count (.renewal .noRefreshToken)).update (·.expire)) :=
  (rests_count (c := .renewal .noRefreshToken) rfl nofun).trans (rests_expire _)

theorem renewThen_of_refresh_eq (hf : s.flight = none)
    (hr : s.lifecycle.store.current.refresh = "") (id : TaskId) (want : Want) :
    s.renewThen id want = (((s.log (.asked id)).count (.renewal .noRefreshToken)).update
      (·.expire)).grant id want (.error .sessionExpired) := by
  have hr' : (s.log (.asked id)).lifecycle.store.current.refresh = "" := hr
  simp only [renewThen, show (s.log (.asked id)).flight = none from hf, if_pos hr']

/-- An operation asks for a renewal, and is turned away unless one is in flight or can be started. -/
theorem turn_renewThen {want : Want} (hp : s.IsPlaced id false) (hw : want.IsSound) :
    Turn s [] (s.refusals (s.renewThen id want)) (s.renewThen id want) := by
  cases hf : s.flight with
  | some f =>
    rw [refusals_of_flight hf, renewThen_of_flight hf]
    exact .parks hp hw hf
  | none =>
    by_cases hr : s.lifecycle.store.current.refresh = ""
    · -- Nothing to renew with: it is told that the session is over, and is the only one who asked.
      have hrests := rests_refuses (s.log (.asked id))
      have hadv : Advances id true _ (s.renewThen id want) :=
        renewThen_of_refresh_eq hf hr id want ▸ advances_grant hw (.error .sessionExpired) _
      have hasked : (s.renewThen id want).lifecycle.journal.asked =
          s.lifecycle.journal.asked ++ [id] := by
        rw [hadv.sameRenewals.asked]
        refine (Journal.asked_append _ [.granted _ _]).trans ((List.append_nil _).trans ?_)
        exact hrests.sameRenewals.asked.trans (asked_log_asked id s)
      rw [refusals, hf, asking, hasked, List.drop_left, if_pos ⟨rfl, hr⟩]
      exact .denied hp hf hr hrests hadv
    · rw [refusals_of_refresh hr, renewThen_of_idle hf hr]
      refine .drives hp hw hf hr ?_
      split
      · exact .inr ⟨_, rfl⟩
      · exact .inl rfl

theorem turn_proceeds (hp : s.IsPlaced id again) (h : Proceeds id again s s') :
    Turn s [] (s.refusals s') s' := by
  cases h with
  | advances ha =>
    rw [refusals_of_asked ha.sameRenewals.asked]
    exact .advances hp ha
  | asks hagain hw =>
    obtain rfl := hagain
    exact turn_renewThen hp hw

/-- What the end of a renewal leaves behind, before anybody goes on. -/
theorem conclude_eq (f : Flight) (result : Except RenewalError Renewed) (s : Session σ) :
    ∃ l r, s.lifecycle.Becomes l ∧ r ≠ RenewalResult.noRefreshToken ∧
      s.conclude f result = (s.verdict f result,
        { s with flight := none, lifecycle := l.count (.renewal r) }) := by
  unfold conclude verdict
  cases result with
  | error e => exact ⟨_, .failed, .expire .refl, nofun, rfl⟩
  | ok renewed =>
    have hb := Lifecycle.Becomes.storeRenewed (l := s.lifecycle) .refl f.epoch renewed
    dsimp only
    split
    · rename_i l hl
      rw [hl] at hb ⊢
      exact ⟨l, .ok, hb, nofun, rfl⟩
    · rename_i l hl
      rw [hl] at hb ⊢
      exact ⟨l, .discarded, hb, nofun, rfl⟩

theorem goOn_of_task {want : Want} {granted : Granted} (h : s.task? id = some (.renewal want)) :
    s.goOn id granted = s.grant id want granted := by
  rw [goOn, h]

theorem goOn_of_dropped {granted : Granted} (h : ∀ want, s.task? id ≠ some (.renewal want)) :
    s.goOn id granted = s := by
  unfold goOn
  split
  · rename_i want ht
    exact absurd ht (h want)
  · rfl

/-- The session in which the renewal `f` is over and what it came to is handed over, before its driver
    goes on. -/
def settled (f : Flight) (result : Except RenewalError Renewed) (s : Session σ) : Session σ :=
  (s.conclude f result).2.handOver f.waiters (s.verdict f result)

/-- The driver of a renewal waits for its end, and goes on then. -/
theorem resolve_eq (h : s.InOrder []) {f : Flight} (hf : s.flight = some f)
    (result : Except RenewalError Renewed) :
    ∃ want, s.task? f.driver = some (.renewal want) ∧ want.IsSound ∧
      s.resolve result = (s.settled f result).grant f.driver want (s.verdict f result) := by
  obtain ⟨want, ht⟩ := h.driven f.driver (by simp [driver, hf]) List.not_mem_nil
  obtain ⟨l, r, -, -, heq⟩ := conclude_eq f result s
  refine ⟨want, ht, (h.stage _ _ List.not_mem_nil ht).2, ?_⟩
  simp only [resolve, settled, hf, heq]
  exact goOn_of_task ht

theorem turn_resolve (h : s.InOrder []) {f : Flight} (hf : s.flight = some f)
    (result : Except RenewalError Renewed) :
    Turn s [] ((f.driver :: f.waiters).map (·, s.verdict f result)) (s.resolve result) := by
  obtain ⟨l, r, hl, hr, heq⟩ := conclude_eq f result s
  obtain ⟨want, -, hw, hresolve⟩ := resolve_eq h hf result
  refine .concludes hf hl hr ?_
  rw [hresolve, settled, heq]
  exact advances_grant hw _ _

theorem turn_resume (h : s.InOrder []) : Turn s [] [] s.resume := by
  unfold resume
  split
  · exact .rests (Rests.refl s)
  · rename_i id granted rest hh
    by_cases ht : ∃ want, s.task? id = some (.renewal want)
    · obtain ⟨want, ht⟩ := ht
      rw [goOn_of_task (s := { s with handed := rest }) ht]
      exact .picksUp hh (advances_grant (h.stage _ _ List.not_mem_nil ht).2 _ _)
    · rw [not_exists] at ht
      rw [goOn_of_dropped (s := { s with handed := rest }) ht]
      exact .skips hh ht

theorem turn_abort (h : s.InOrder []) (id : TaskId) :
    Turn s (s.drops (.abort id)) (s.deals (.abort id)) (s.abort id) := by
  by_cases hid : id ∈ s.ids
  · rw [drops, if_pos hid]
    simp only [deals, abort, show (s.dismiss id).flight = s.flight from rfl]
    cases hf : s.flight with
    | some f =>
      dsimp only
      split
      · rename_i heq
        obtain rfl := heq
        exact .abandons hf
      · rename_i hne
        refine .leaves fun f' hf' => ?_
        obtain rfl := Option.some.inj (hf.symm.trans hf')
        exact hne
    | none =>
      refine .leaves fun f hf' => ?_
      rw [hf] at hf'
      cases hf'
  · -- No such operation is under way, and so none drives the renewal in flight.
    rw [drops, if_neg hid]
    simp only [deals, abort, dismiss_of_not_mem hid]
    cases hf : s.flight with
    | some f =>
      have hne : f.driver ≠ id := by
        rintro rfl
        obtain ⟨want, ht⟩ := h.driven f.driver (by simp [driver, hf]) List.not_mem_nil
        exact hid (mem_ids_of_task? ht)
      simp only [if_neg hne]
      exact .rests (Rests.refl s)
    | none => exact .rests (Rests.refl s)

/-- In a session in order, every step is a turn. -/
theorem turn_step (h : s.InOrder []) (e : Event) :
    Turn (s.opened e) (s.drops e) (s.deals e) (s.step e) := by
  cases e with
  | start operation =>
    have hp : ({ s with started := s.started + 1 } : Session σ).IsPlaced s.started false :=
      ⟨Nat.lt_succ_self _, fun _ hid => Nat.lt_irrefl _ (h.asked_lt _ hid), nofun⟩
    exact turn_proceeds hp (proceeds_start operation s)
  | answer id x =>
    simp only [opened, deals, step, answer]
    split
    · rename_i call request ht
      have hs := h.stage _ _ List.not_mem_nil ht
      -- Its first request is answered: it did not ask for a renewal yet.
      have hp : s.IsPlaced id false := ⟨h.ids_lt id (mem_ids_of_task? ht), fun _ => hs.1, nofun⟩
      exact turn_proceeds hp (proceeds_receive hs.2 _ s)
    · rename_i call request ht
      have hs := h.stage _ _ List.not_mem_nil ht
      -- Its second request is answered, before which it was told what the renewal came to.
      have hp : s.IsPlaced id true := ⟨h.ids_lt id (mem_ids_of_task? ht), nofun, fun _ => hs.1⟩
      exact turn_proceeds hp (proceeds_receive hs.2 _ s)
    · rw [refusals_of_asked rfl]
      exact .rests (Rests.refl s)
  | answerRenewal x =>
    simp only [opened, deals, step, answerRenewal]
    cases hf : s.flight with
    | some f => exact turn_resolve h hf (f.result s.settings x)
    | none => exact .rests (Rests.refl s)
  | resolve result =>
    simp only [opened, deals, step]
    cases hf : s.flight with
    | some f => exact turn_resolve h hf result
    | none =>
      simp only [resolve, hf]
      exact .rests (Rests.refl s)
  | resume => exact turn_resume h
  | abort id => exact turn_abort h id
  | reset =>
    simp only [opened, deals, step, reset]
    cases hf : s.flight with
    | some f => exact .turnsAway hf
    | none => exact .rests (Rests.refl s)
  | act action => exact .rests (rests_act action s)

/-! ### What no step changes -/

theorem Rests.fixed (h : s.Rests s') : s'.settings = s.settings ∧ s'.started = s.started := by
  obtain ⟨l, -, rfl⟩ := h
  exact ⟨rfl, rfl⟩

theorem Advances.fixed (h : Advances id again s s') :
    s'.settings = s.settings ∧ s'.started = s.started := by
  cases h with
  | ends hr => exact hr.fixed
  | sends hr _ => exact hr.fixed

/-- No turn changes the settings, and none starts an operation. -/
theorem Turn.fixed {lost : List TaskId} {dealt : List (TaskId × Granted)}
    (h : Turn s lost dealt s') : s'.settings = s.settings ∧ s'.started = s.started := by
  cases h with
  | rests hr => exact hr.fixed
  | advances _ ha => exact ha.fixed
  | drives _ _ _ _ hs' => rcases hs' with rfl | ⟨o, rfl⟩ <;> exact ⟨rfl, rfl⟩
  | denied _ _ _ hr ha => exact ⟨ha.fixed.1.trans hr.fixed.1, ha.fixed.2.trans hr.fixed.2⟩
  | concludes _ _ _ ha => exact ha.fixed
  | picksUp _ ha => exact ha.fixed
  | _ => exact ⟨rfl, rfl⟩

theorem settings_step (h : s.InOrder []) (e : Event) : (s.step e).settings = s.settings := by
  rw [(turn_step h e).fixed.1]
  rcases opened_cases s e with heq | heq <;> rw [heq]

/-- No operation that was started is forgotten. -/
theorem started_le_step (h : s.InOrder []) (e : Event) : s.started ≤ (s.step e).started := by
  rw [(turn_step h e).fixed.2]
  rcases opened_cases s e with heq | heq
  · exact Nat.le_of_eq (congrArg _ heq.symm)
  · rw [heq]
    exact Nat.le_succ _

/-! ### Runs -/

omit [Storage σ] in
theorem inOrder_ofStore (settings : Settings) (store : CredentialStore σ) :
    (ofStore settings store).InOrder [] where
  nodup_ids := List.nodup_nil
  ids_lt := List.forall_mem_nil _
  nodup_asked := List.nodup_nil
  asked_lt := List.forall_mem_nil _
  nodup_line := List.nodup_nil
  line_asked := List.forall_mem_nil _
  stage := fun _ t _ (ht : none = some t) => nomatch ht
  driven := List.forall_mem_nil _

omit [Storage σ] in
theorem InOrder.opened (h : s.InOrder []) (e : Event) : (s.opened e).InOrder [] := by
  rcases opened_cases s e with heq | heq
  · rw [heq]
    exact h
  · rw [heq]
    exact { h with
      ids_lt := fun i hi => Nat.lt_succ_of_lt (h.ids_lt i hi)
      asked_lt := fun i hi => Nat.lt_succ_of_lt (h.asked_lt i hi) }

/-- Whatever happens to a session, it stays in order. -/
theorem inOrder_step (h : s.InOrder []) (e : Event) : (s.step e).InOrder [] :=
  (h.opened e).turn (turn_step h e)

theorem inOrder_run (h : s.InOrder []) (events : List Event) : (s.run events).InOrder [] := by
  induction events generalizing s with
  | nil => exact h
  | cons e events ih => exact ih (inOrder_step h e)

end ShopClient.Session
