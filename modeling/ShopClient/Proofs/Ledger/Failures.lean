import ShopClient.Proofs.Ledger.Totals

/-!
# Failures that the user is told of

An operation that fails on its way comes to a transport error, and the user should see why. A request
tells the user when it fails, whether the failure is its own or that of a renewal that it waited for.
An operation that merely renews the access token tells nobody: when whoever drove the renewal is
dropped, it fails of that, and the user is not told.

* `EndsOnce`: each operation ends once at most, and does nothing afterwards;
* `accounts_run`: the user is told of all failures but those, each once, as they happen;
* `failures_told`: what follows for a session from its beginning on, and when no failure is left out.
-/

namespace ShopClient.Session

open Journal

variable {σ : Type}

/-! ### Operations end once -/

/-- The operations that have ended, in that order. -/
def completed (s : Session σ) : List TaskId := s.lifecycle.journal.results.map (·.1)

/-- Each operation has ended once at most, was started before, and is not under way any more. -/
structure EndsOnce (s : Session σ) : Prop where
  nodup : s.completed.Nodup
  lt : ∀ i ∈ s.completed, i < s.started
  gone : ∀ i ∈ s.completed, i ∉ s.ids

/-- Nothing that has to do with the end of an operation differs between `s` and `s'`. -/
structure Alike (s s' : Session σ) : Prop where
  ids : s'.ids = s.ids
  completed : s'.completed = s.completed
  started : s'.started = s.started

/-- The operation `id` does something between `s` and `s'`, and is over then, or may go on. -/
structure Acts (id : TaskId) (s s' : Session σ) : Prop where
  ids : ∀ i ∈ s'.ids, i ∈ s.ids ∨ i = id
  completed : s'.completed = s.completed ∨ s'.completed = s.completed ++ [id] ∧ id ∉ s'.ids
  started : s'.started = s.started

variable {s s₁ s' : Session σ} {id : TaskId}

theorem Alike.trans (h : s.Alike s₁) (h' : s₁.Alike s') : s.Alike s' :=
  ⟨h'.ids.trans h.ids, h'.completed.trans h.completed, h'.started.trans h.started⟩

theorem alike_log {e : Entry} (he : Journal.results [e] = []) (s : Session σ) : s.Alike (s.log e) :=
  ⟨rfl, congrArg (List.map Prod.fst) (Journal.view_append_of_nil he), rfl⟩

theorem Alike.acts (h : s.Alike s₁) (h' : Acts id s₁ s') : Acts id s s' where
  ids i hi := h.ids ▸ h'.ids i hi
  completed := h.completed ▸ h'.completed
  started := h'.started.trans h.started

theorem acts_await (id : TaskId) (t : Task) (s : Session σ) : Acts id s (s.await id t) where
  ids i hi := by
    rw [ids_await] at hi
    split at hi
    · exact .inl hi
    · exact (List.mem_append.1 hi).imp_right List.mem_singleton.1
  completed := .inl rfl
  started := rfl

theorem Acts.log (h : Acts id s s₁) {e : Entry} (he : Journal.results [e] = []) :
    Acts id s (s₁.log e) where
  ids := h.ids
  completed := (alike_log he s₁).completed ▸ h.completed
  started := h.started

theorem acts_finish (id : TaskId) (result : Except SessionError Outcome) (s : Session σ) :
    Acts id s (s.finish id result) where
  ids i hi := by
    have hi : i ∈ (s.dismiss id).ids := hi
    rw [ids_dismiss] at hi
    exact .inl (List.mem_of_mem_filter hi)
  completed := by
    refine .inr ⟨?_, ?_⟩
    · refine (congrArg (List.map Prod.fst) (Journal.results_append _ _)).trans ?_
      rw [List.map_append]
      rfl
    · change id ∉ (s.dismiss id).ids
      rw [ids_dismiss, List.mem_filter]
      exact fun h => of_decide_eq_true h.2 rfl
  started := rfl

/-- One more operation ends, or goes on. -/
theorem EndsOnce.acts (h : s.EndsOnce) (ha : Acts id s s') (hid : id < s.started)
    (hnot : id ∉ s.completed) : s'.EndsOnce := by
  have hgone (i : TaskId) (hi : i ∈ s.completed) : i ∉ s'.ids := by
    intro hmem
    rcases ha.ids i hmem with hmem | rfl
    · exact h.gone i hi hmem
    · exact hnot hi
  rcases ha.completed with hlast | ⟨hlast, hlast'⟩
  · refine ⟨hlast ▸ h.nodup, ?_, ?_⟩
    · rw [hlast, ha.started]
      exact h.lt
    · rw [hlast]
      exact hgone
  · refine ⟨?_, ?_, ?_⟩
    · rw [hlast, ← List.concat_eq_append]
      exact h.nodup.concat hnot
    · rw [hlast, ha.started, List.forall_mem_append, List.forall_mem_singleton]
      exact ⟨h.lt, hid⟩
    · rw [hlast, List.forall_mem_append, List.forall_mem_singleton]
      exact ⟨hgone, hlast'⟩

theorem EndsOnce.alike (h : s.EndsOnce) (ha : s.Alike s') : s'.EndsOnce where
  nodup := ha.completed ▸ h.nodup
  lt := by
    rw [ha.completed, ha.started]
    exact h.lt
  gone := by
    rw [ha.completed, ha.ids]
    exact h.gone

theorem endsOnce_ofStore (settings : Settings) (store : CredentialStore σ) :
    (ofStore settings store).EndsOnce :=
  ⟨List.nodup_nil, List.forall_mem_nil _, List.forall_mem_nil _⟩

variable [Storage σ] {again : Bool}

theorem Rests.alike (h : s.Rests s') : s.Alike s' := by
  obtain ⟨l, hl, rfl⟩ := h
  exact ⟨rfl, congrArg (List.map Prod.fst) hl.results_eq, rfl⟩

theorem Advances.acts (h : Advances id again s s') : Acts id s s' := by
  cases h with
  | ends hr => exact hr.alike.acts (acts_finish id _ _)
  | @sends s₁ call o hr _ =>
    have hcounts : s₁.Alike { s₁ with dispatched := s₁.dispatched + 1 } := ⟨rfl, rfl, rfl⟩
    exact (hr.alike.trans hcounts).acts ((acts_await id _ _).log rfl)

theorem acts_grant {want : Want} (hw : want.IsSound) (id : TaskId) (granted : Granted)
    (s : Session σ) : Acts id s (s.grant id want granted) :=
  (alike_log rfl s).acts (advances_grant hw granted s).acts

theorem acts_renewThen {want : Want} (hw : want.IsSound) (id : TaskId) (s : Session σ) :
    Acts id s (s.renewThen id want) := by
  have hasked : s.Alike (s.log (.asked id)) := alike_log rfl s
  cases hf : s.flight with
  | some f =>
    have hqueues : s.Alike { s.log (.asked id) with
        flight := some { f with waiters := f.waiters ++ [id] } } :=
      ⟨hasked.ids, hasked.completed, hasked.started⟩
    rw [renewThen_of_flight hf]
    exact hqueues.acts (acts_await id _ _)
  | none =>
    by_cases hr : s.lifecycle.store.current.refresh = ""
    · rw [renewThen_of_refresh_eq hf hr]
      exact (hasked.trans (rests_refuses _).alike).acts (acts_grant hw id _ _)
    · let flight : Flight := {
        driver := id, refresh := s.lifecycle.store.current.refresh, epoch := s.lifecycle.epoch }
      have hdrives : s.Alike { s.log (.asked id) with flight := some flight } :=
        ⟨hasked.ids, hasked.completed, hasked.started⟩
      have hlaunched : Acts id s (s.launched id want) := hdrives.acts ((acts_await id _ _).log rfl)
      rw [renewThen_of_idle hf hr]
      split
      · exact hlaunched.log rfl
      · exact hlaunched

theorem Proceeds.acts (h : Proceeds id again s s') : Acts id s s' := by
  cases h with
  | advances ha => exact ha.acts
  | asks _ hw => exact acts_renewThen hw id s

omit [Storage σ] in
/-- Who is under way has not ended. -/
theorem EndsOnce.proceeds (h : s.EndsOnce) (hin : s.InOrder []) (hid : id ∈ s.ids)
    (ha : Acts id s s') : s'.EndsOnce :=
  h.acts ha (hin.ids_lt id hid) fun hlast => h.gone id hlast hid

theorem EndsOnce.goOn (h : s.EndsOnce) (hin : s.InOrder []) (hs : s.Alike s₁)
    (htask : s₁.task? id = s.task? id) (granted : Granted) : (s₁.goOn id granted).EndsOnce := by
  unfold Session.goOn
  split
  · rename_i want ht
    have ht := htask.symm.trans ht
    have hw := (hin.stage _ _ List.not_mem_nil ht).2
    exact h.proceeds hin (mem_ids_of_task? ht) (hs.acts (acts_grant hw id granted s₁))
  · exact h.alike hs

theorem alike_settled (f : Flight) (result : Except RenewalError Renewed) (s : Session σ) :
    s.Alike (s.settled f result) := by
  obtain ⟨l, r, hl, -, heq⟩ := conclude_eq f result s
  rw [settled, heq]
  refine ⟨rfl, congrArg (List.map Prod.fst) ?_, rfl⟩
  exact (Journal.view_append_of_nil rfl).trans hl.results_eq

theorem EndsOnce.resolve (h : s.EndsOnce) (hin : s.InOrder []) (result : Except RenewalError Renewed) :
    (s.resolve result).EndsOnce := by
  cases hf : s.flight with
  | none =>
    simp only [Session.resolve, hf]
    exact h
  | some f =>
    rw [resolve_of_flight hf]
    exact h.goOn hin (alike_settled f result s) (spares_settled f result s).task _

/-- Whatever happens next, no operation ends again. -/
theorem EndsOnce.step (h : s.EndsOnce) (hin : s.InOrder []) (e : Event) : (s.step e).EndsOnce := by
  cases e with
  | start operation =>
    have hopens : ({ s with started := s.started + 1 } : Session σ).EndsOnce :=
      ⟨h.nodup, fun i hi => Nat.lt_succ_of_lt (h.lt i hi), h.gone⟩
    refine hopens.acts (proceeds_start operation s).acts (Nat.lt_succ_self _) fun hlast => ?_
    exact Nat.lt_irrefl _ (h.lt _ hlast)
  | answer id x =>
    simp only [Session.step, answer]
    split
    · rename_i ht
      have hsound := (hin.stage _ _ List.not_mem_nil ht).2
      exact h.proceeds hin (mem_ids_of_task? ht) (proceeds_receive hsound _ s).acts
    · rename_i ht
      have hsound := (hin.stage _ _ List.not_mem_nil ht).2
      exact h.proceeds hin (mem_ids_of_task? ht) (proceeds_receive hsound _ s).acts
    · exact h
  | answerRenewal x =>
    obtain ⟨result, heq⟩ := exists_answerRenewal_eq x s
    rw [Session.step, heq]
    exact h.resolve hin result
  | resolve result => exact h.resolve hin result
  | resume =>
    simp only [Session.step, resume]
    split
    · exact h
    · rename_i id granted rest _
      have hpops : s.Alike { s with handed := rest } := ⟨rfl, rfl, rfl⟩
      exact h.goOn hin hpops rfl granted
  | abort id =>
    have hleaves : (s.dismiss id).EndsOnce := by
      refine ⟨h.nodup, h.lt, fun i hi hmem => h.gone i hi ?_⟩
      rw [ids_dismiss] at hmem
      exact List.mem_of_mem_filter hmem
    simp only [Session.step, abort]
    split
    · split
      · have hcounts := alike_log (e := .counted (.renewal .abandoned)) rfl (s.dismiss id)
        exact hleaves.alike ⟨hcounts.ids, hcounts.completed, hcounts.started⟩
      · exact hleaves
    · exact hleaves
  | reset =>
    simp only [Session.step, reset]
    split
    · exact h.alike ⟨rfl, rfl, rfl⟩
    · exact h
  | act action => exact h.alike (rests_act action s).alike

theorem EndsOnce.run (h : s.EndsOnce) (hin : s.InOrder []) (events : List Event) :
    (s.run events).EndsOnce := by
  induction events generalizing s with
  | nil => exact h
  | cons e events ih => exact ih (h.step hin e) (inOrder_step hin e)

/-! ### What the user is told -/

variable {mere : TaskId → Bool} {due : Int} {events : List Event}

/-- As long as nobody outside speaks, all that the user is told of are failures. -/
theorem accounts_run (h : s.Sound mere) (hknows : s.Knows mere events)
    (hquiet : ∀ e ∈ events, e.speaks = false) (hs : Accounts mere due s.lifecycle.journal) :
    ∃ due', Accounts mere due' (s.run events).lifecycle.journal := by
  induction events generalizing s due with
  | nil => exact ⟨due, hs⟩
  | cons e events ih =>
    rw [List.forall_mem_cons] at hquiet
    obtain ⟨news, hj, hnews⟩ :=
      (enters_step h.sorts h.handsOut (fun _ he => hknows.start he) hquiet.1).journal
    exact ih (h.step hknows) (hknows.step h.inOrder) hquiet.2 (hj ▸ hs.append hnews)

/-- As long as nobody outside tells the user of errors, whatever happens to a session from its beginning
    on:

    * no operation ends twice;
    * the user is told of each failure once, in the order in which operations fail, and of nothing
      else; those that merely renew the access token are left out;
    * such an operation fails of two things only: the session is over, or whoever drove the renewal was
      dropped;
    * so no failure is left out if and only if no such operation fails on its way. -/
theorem failures_told (settings : Settings) (store : CredentialStore σ) (events : List Event)
    (hquiet : ∀ e ∈ events, e.speaks = false) :
    let j := ((ofStore settings store).run events).lifecycle.journal
    (j.results.map (·.1)).Nodup ∧
    j.errors = (j.failures.filter (!merely events ·.1)).map (·.2) ∧
    (∀ id e, merely events id = true → (id, .error e) ∈ j.results → IsRenewalFailure e) ∧
    (j.errors = j.failures.map (·.2) ↔ ∀ f ∈ j.failures, merely events f.1 = false) := by
  intro j
  obtain ⟨due, haccounts⟩ := accounts_run (sound_ofStore settings store)
    (knows_ofStore settings store events) hquiet accounts_nil
  have hends := (endsOnce_ofStore settings store).run (inOrder_ofStore settings store) events
  refine ⟨hends.nodup, haccounts.errors, haccounts.renewals, ?_⟩
  constructor
  · intro hall f hf
    -- If nothing was left out, there are as many errors as failures.
    have hlength := congrArg List.length (haccounts.errors.symm.trans hall)
    rw [List.length_map, List.length_map, List.length_filter_eq_length_iff] at hlength
    simpa using hlength f hf
  · intro hnone
    have hfilter : j.failures.filter (!merely events ·.1) = j.failures :=
      List.filter_eq_self.2 fun f hf => by rw [hnone f hf]; rfl
    exact haccounts.errors.trans (congrArg _ hfilter)

/-- An order waits for a renewal whose driver is dropped, and the user is told why it fails. -/
theorem failures_told_order :
    let order : Request := { method := "POST", path := "/orders" }
    let events : List Event := [.start (.send (.ok order) .any), .start .renewNow,
      .answer 0 (.answered .unauthorized []), .abort 1, .resume]
    let s₀ : Session Memory := ofStore {} ⟨⟨[]⟩, ⟨"a1", "r1"⟩⟩
    let j := (s₀.run events).lifecycle.journal
    j.errors = j.failures.map (·.2) ∧ j.failures = [(0, abandonedMessage)] := by
  intro order events s₀ j
  have hquiet : ∀ e ∈ events, e.speaks = false := by simp [events, Event.speaks]
  have hfailures : j.failures = [(0, abandonedMessage)] := by decide +kernel
  have hcalls : ∀ f ∈ j.failures, merely events f.1 = false := by
    rw [hfailures, List.forall_mem_singleton]
    rfl
  -- From here on it does not matter which events these are.
  clear_value events
  obtain ⟨-, -, -, hall⟩ :=
    failures_told {} (⟨⟨[]⟩, ⟨"a1", "r1"⟩⟩ : CredentialStore Memory) events hquiet
  exact ⟨hall.2 hcalls, hfailures⟩

/-- Somebody renews the token, and somebody else joins in. The first is dropped, and the second fails
    of that. The user is not told. -/
theorem untold_failure :
    let s₀ : Session Memory := ofStore {} ⟨⟨[]⟩, ⟨"a1", "r1"⟩⟩
    let j := (s₀.run [.start .renewNow, .start .renewNow, .abort 0, .resume]).lifecycle.journal
    j.failures = [(1, abandonedMessage)] ∧ j.errors ≠ j.failures.map (·.2) := by
  decide +kernel

end ShopClient.Session
