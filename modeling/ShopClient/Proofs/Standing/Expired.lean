import ShopClient.Proofs.Renewal.Relayed
import ShopClient.Proofs.Renewal.SingleFlight
import ShopClient.Proofs.Session.Outgoing
import ShopClient.Proofs.Standing.Effect
import Mathlib.Data.List.Infix

/-!
# Operations that are told that the session is over

An operation is told so when the tokens are gone, or when a renewal has ended whose session is over. In
the second case the tokens that are there may be others: those who came to wait for the renewal after
somebody signed in again are told that their session is over, and it is not.

* `IsTold`: an operation was told that the session is over, or was handed that;
* `told_step`: in which steps an operation is told;
* `told_only_when_empty`: an operation is told only if there were no tokens at some time since it was
  started, unless a renewal of an earlier session was in flight when it was started.
-/

namespace ShopClient.Session

variable {σ : Type} [Storage σ] {s s₁ s' : Session σ} {id i : TaskId}

omit [Storage σ] in
/-- The operation was told that the session is over, or was handed that. -/
def IsTold (i : TaskId) (s : Session σ) : Prop :=
  (i, .error .sessionExpired) ∈ s.handed ∨
    (i, .error .sessionExpired) ∈ s.lifecycle.journal.results

omit [Storage σ] in
/-- Nobody is told that the session is over between `s` and `s'`. -/
def Hushes (s s' : Session σ) : Prop := ∀ i, s'.IsTold i → s.IsTold i

/-! ### Steps in which nobody is told -/

omit [Storage σ] in
theorem Hushes.refl (s : Session σ) : s.Hushes s := fun _ => id

omit [Storage σ] in
theorem Hushes.trans (h : s.Hushes s₁) (h' : s₁.Hushes s') : s.Hushes s' := fun i hi => h i (h' i hi)

omit [Storage σ] in
theorem hushes_of_eq (hhanded : s'.handed = s.handed)
    (hresults : s'.lifecycle.journal.results = s.lifecycle.journal.results) : s.Hushes s' := by
  intro i hi
  rwa [IsTold, hhanded, hresults] at hi

omit [Storage σ] in
theorem hushes_log {e : Entry} (he : Journal.results [e] = []) (s : Session σ) : s.Hushes (s.log e) :=
  hushes_of_eq rfl (Journal.view_append_of_nil he)

theorem Rests.hushes (h : s.Rests s') : s.Hushes s' := by
  obtain ⟨l, hl, rfl⟩ := h
  exact hushes_of_eq rfl hl.results_eq

omit [Storage σ] in
/-- Whoever ends is told at most then. -/
theorem told_finish {result : Except SessionError Outcome} (h : (s.finish id result).IsTold i) :
    s.IsTold i ∨ i = id ∧ result = .error .sessionExpired := by
  rcases h with h | h
  · exact .inl (.inl h)
  · rw [results_finish, List.mem_append, List.mem_singleton] at h
    exact h.imp .inr fun heq => ⟨congrArg Prod.fst heq, (congrArg Prod.snd heq).symm⟩

omit [Storage σ] in
theorem hushes_finish {result : Except SessionError Outcome} (h : result ≠ .error .sessionExpired)
    (id : TaskId) (s : Session σ) : s.Hushes (s.finish id result) :=
  fun _ hi => (told_finish hi).resolve_right fun h' => h h'.2

omit [Storage σ] in
theorem hushes_finish_ok (id : TaskId) (outcome : Outcome) (s : Session σ) :
    s.Hushes (s.finish id (.ok outcome)) :=
  hushes_finish (by rintro ⟨⟩) id s

omit [Storage σ] in
theorem hushes_reject (id : TaskId) (m : Json.Mismatch) (s : Session σ) :
    s.Hushes (s.reject id m) :=
  hushes_finish (by rintro ⟨⟩) id s

theorem told_fail {call : Call} {e : SessionError} (h : (s.fail id call e).IsTold i) :
    s.IsTold i ∨ i = id ∧ e = .sessionExpired := by
  obtain ⟨s₁, hr, heq⟩ := exists_fail_eq id call e s
  rw [heq] at h
  exact (told_finish h).imp (hr.hushes i) fun ⟨hi, he⟩ => ⟨hi, Except.error.inj he⟩

theorem hushes_fail {e : SessionError} (h : e ≠ .sessionExpired) (id : TaskId) (call : Call)
    (s : Session σ) : s.Hushes (s.fail id call e) :=
  fun _ hi => (told_fail hi).resolve_right fun h' => h h'.2

theorem hushes_issue (id : TaskId) (call : Call) (again : Bool) (bearer : Option String)
    (s : Session σ) : s.Hushes (s.issue id call again bearer) := by
  cases ho : Outgoing.ofRequest s.settings.baseUrl bearer s.dispatched call.request with
  | error e =>
    rw [issue_of_error ho]
    exact hushes_fail (fun h => Outgoing.ofRequest_ne_expired bearer _ (h ▸ ho)) id call s
  | ok o =>
    rw [issue_of_ok ho]
    exact hushes_of_eq rfl (Journal.view_append_of_nil rfl)

theorem hushes_fetchProfile (id : TaskId) (s : Session σ) : s.Hushes (s.fetchProfile id) := by
  unfold fetchProfile
  split
  · exact hushes_issue id _ false s.access? s
  · exact hushes_finish_ok id _ s

theorem hushes_succeed (id : TaskId) (call : Call) (payload : Json.Value) (s : Session σ) :
    s.Hushes (s.succeed id call payload) := by
  have hcount : s.Hushes (s.count (.request .ok)) := hushes_log rfl s
  refine hcount.trans ?_
  simp only [succeed]
  -- The cases are the goals: a payload, a sign-in, the profile, and a profile that was changed.
  split
  · split
    · exact hushes_finish_ok _ _ _
    · exact hushes_reject _ _ _
  · split
    · split
      · exact hushes_finish_ok _ _ _
      · exact Hushes.trans (rests_update (.storeCredentials .refl _ _)).hushes
          (hushes_fetchProfile _ _)
    · exact hushes_reject _ _ _
  · split
    · exact Hushes.trans (rests_update (.setProfile .refl)).hushes (hushes_finish_ok _ _ _)
    · exact Hushes.trans (rests_logout _).hushes (hushes_reject _ _ _)
  · split
    · exact Hushes.trans (rests_update (.setProfile .refl)).hushes (hushes_finish_ok _ _ _)
    · exact hushes_reject _ _ _

/-- Whoever goes on with what a renewal came to is told at most what that was. -/
theorem told_grant {want : Want} {granted : Granted} (h : (s.grant id want granted).IsTold i) :
    s.IsTold i ∨ i = id ∧ granted = .error .sessionExpired := by
  have hlog : s.Hushes (s.log (.granted id granted)) := hushes_log rfl s
  cases want with
  | replay call =>
    cases granted with
    | ok token =>
      have hcount : s.Hushes ((s.log (.granted id (.ok token))).count .replay) :=
        hlog.trans (hushes_log rfl _)
      have hissue := hushes_issue id call true (some token)
        ((s.log (.granted id (.ok token))).count .replay)
      exact .inl (hcount i (hissue i h))
    | error e => exact (told_fail h).imp (hlog i) fun ⟨hi, he⟩ => ⟨hi, congrArg _ he⟩
  | token =>
    refine (told_finish h).imp (hlog i) fun ⟨hi, he⟩ => ⟨hi, ?_⟩
    cases granted with
    | ok token => cases he
    | error e => rw [Except.error.inj he]
  | acknowledgement =>
    refine (told_finish h).imp (hlog i) fun ⟨hi, he⟩ => ⟨hi, ?_⟩
    cases granted with
    | ok token => cases he
    | error e => rw [Except.error.inj he]

/-! ### Steps -/

/-- Nobody is told who comes into the queue, or starts a renewal. -/
theorem hushes_renewThen (h : s.flight ≠ none ∨ s.lifecycle.store.current.refresh ≠ "")
    (id : TaskId) (want : Want) : s.Hushes (s.renewThen id want) := by
  have hlog : s.Hushes (s.log (.asked id)) := hushes_log rfl s
  cases hf : s.flight with
  | some f =>
    rw [renewThen_of_flight hf]
    exact hlog.trans (hushes_of_eq rfl rfl)
  | none =>
    have hlaunched : s.Hushes (s.launched id want) :=
      (hlog.trans (hushes_of_eq rfl rfl)).trans (hushes_log rfl _)
    rw [renewThen_of_idle hf (h.resolve_left (absurd hf))]
    split
    · exact hlaunched.trans (hushes_log rfl _)
    · exact hlaunched

/-- Whoever asks for a renewal is not told, unless the tokens are gone then. -/
theorem hushes_or_empties_renewThen (id : TaskId) (want : Want) (s : Session σ) :
    s.Hushes (s.renewThen id want) ∨ (s.renewThen id want).lifecycle.store.current = {} := by
  by_cases hr : s.flight = none ∧ s.lifecycle.store.current.refresh = ""
  · have hended := ended_renewThen hr.1 hr.2 id want
    exact .inr (hended.store ▸ Lifecycle.current_logout _)
  · exact .inl (hushes_renewThen (not_and_or.1 hr) id want)

theorem hushes_or_empties_start (operation : Operation) (s : Session σ) :
    s.Hushes (s.start operation) ∨ (s.start operation).lifecycle.store.current = {} := by
  have hopened : s.Hushes { s with started := s.started + 1 } := hushes_of_eq rfl rfl
  have hbegin (call : Call) :
      s.Hushes (({ s with started := s.started + 1 } : Session σ).begin s.started call) :=
    hopened.trans (hushes_issue _ _ _ _ _)
  have hrenew (want : Want) := (hushes_or_empties_renewThen s.started want
    { s with started := s.started + 1 }).imp_left hopened.trans
  cases operation with
  | send request shape =>
    cases request with
    | ok request => exact .inl (hbegin _)
    | error e => exact .inl (hopened.trans (hushes_finish (by rintro ⟨⟩) _ _))
  | signIn c => exact .inl (hbegin _)
  | register c => exact .inl (hbegin _)
  | fetchProfile => exact .inl (hopened.trans (hushes_fetchProfile _ _))
  | changeProfile change => exact .inl (hbegin _)
  | renewNow =>
    simp only [start]
    split
    · exact hrenew .acknowledgement
    · exact .inl (hopened.trans (hushes_finish_ok _ _ _))
  | renew => exact hrenew .token

/-- An answer tells nobody that the session is over, unless the tokens are gone then. -/
theorem hushes_or_empties_answer (x : Exchange) (id : TaskId) (s : Session σ) :
    s.Hushes (s.step (.answer id x)) ∨ (s.step (.answer id x)).lifecycle.store.current = {} := by
  cases hd : s.delivery? (.answer id x) with
  | none =>
    rw [step, delivery?_answer hd]
    exact .inl (.refl s)
  | some d =>
    have hreceipt := receipt_step hd
    generalize s.step (.answer id x) = s' at hreceipt ⊢
    cases hreceipt with
    | succeeds => exact .inl (hushes_succeed d.id d.call _ s)
    | fails _ _ he => exact .inl (hushes_fail he d.id d.call s)
    | refusedAgain =>
      have hended := ended_refusedAgain d.id d.call s
      exact .inr (hended.store ▸ Lifecycle.current_logout _)
    | asks => exact hushes_or_empties_renewThen d.id (.replay d.call) s

theorem told_goOn {granted : Granted} (h : (s.goOn id granted).IsTold i) :
    s.IsTold i ∨ i = id ∧ granted = .error .sessionExpired := by
  unfold goOn at h
  split at h
  · exact told_grant h
  · exact .inl h

/-- Whoever picks up that the session is over was handed that before. -/
theorem hushes_resume (s : Session σ) : s.Hushes s.resume := by
  intro i hi
  unfold resume at hi
  split at hi
  · exact hi
  · rename_i id granted rest hh
    have hmem (g : Granted) (h : (i, g) = (id, granted) ∨ (i, g) ∈ rest) : (i, g) ∈ s.handed := by
      rw [hh]
      exact List.mem_cons.2 h
    -- Who is told now was handed that in `s`, or is `id`, who was handed it first.
    rcases told_goOn hi with (h | h) | ⟨rfl, rfl⟩
    · exact .inl (hmem _ (.inr h))
    · exact .inr h
    · exact .inl (hmem _ (.inl rfl))

theorem told_settled {f : Flight} {result : Except RenewalError Renewed}
    (h : (s.settled f result).IsTold i) :
    s.IsTold i ∨ i ∈ f.waiters ∧ s.verdict f result = .error .sessionExpired := by
  obtain ⟨l, r, hl, -, heq⟩ := conclude_eq f result s
  rw [settled, heq] at h
  rcases h with h | h
  · rcases List.mem_append.1 h with h | h
    · exact .inl (.inl h)
    · obtain ⟨j, hj, heq⟩ := List.mem_map.1 h
      obtain rfl := congrArg Prod.fst heq
      exact .inr ⟨hj, congrArg Prod.snd heq⟩
  · have hresults : (l.count (.renewal r)).journal.results = s.lifecycle.journal.results :=
      (Journal.view_append_of_nil rfl).trans hl.results_eq
    exact .inl (.inr (hresults ▸ h))

/-- The end of a renewal tells nobody, unless the tokens are gone then, or it ends well and there was a
    logout since it was started. Then those are told who waited for it. -/
theorem told_resolve {result : Except RenewalError Renewed} (h : (s.resolve result).IsTold i) :
    s.IsTold i ∨ (s.resolve result).lifecycle.store.current = {} ∨
      ∃ f renewed, s.flight = some f ∧ result = .ok renewed ∧ f.epoch ≠ s.lifecycle.epoch ∧
        i ∈ f.driver :: f.waiters := by
  cases hf : s.flight with
  | none =>
    simp only [resolve, hf] at h
    exact .inl h
  | some f =>
    have hwaited : s.IsTold i ∨ i ∈ f.driver :: f.waiters ∧
        s.verdict f result = .error .sessionExpired := by
      rw [resolve_of_flight hf] at h
      rcases told_goOn h with h | ⟨rfl, hverdict⟩
      · exact (told_settled h).imp_right fun h => ⟨List.mem_cons_of_mem _ h.1, h.2⟩
      · exact .inr ⟨List.mem_cons_self, hverdict⟩
    rcases hwaited with htold | ⟨hi, hverdict⟩
    · exact .inl htold
    · cases result with
      | error e =>
        have hended : s.lifecycle.logout.2.Agrees (s.settled f (.error e)).lifecycle :=
          (Lifecycle.agrees_expire _).count (.renewal .failed)
        rw [resolve_of_flight hf]
        refine .inr (.inl ((staysOrEnds_goOn _ _ _).current_eq ?_))
        rw [hended.store, Lifecycle.current_logout]
      | ok renewed =>
        refine .inr (.inr ⟨f, renewed, rfl, rfl, fun hepoch => ?_, hi⟩)
        rw [(settled_stored hepoch.symm renewed).1] at hverdict
        cases hverdict

omit [Storage σ] in
theorem hushes_abort (id : TaskId) (s : Session σ) : s.Hushes (s.abort id) := by
  have hdismiss : s.Hushes (s.dismiss id) := hushes_of_eq rfl rfl
  simp only [abort]
  split
  · rename_i f hf
    split
    · -- Those who wait are handed something else.
      rintro i (h | h)
      · rcases List.mem_append.1 h with h | h
        · exact .inl h
        · obtain ⟨j, -, heq⟩ := List.mem_map.1 h
          cases heq
      · exact (hushes_log (e := .counted (.renewal .abandoned)) rfl s) i (.inr h)
    · exact hdismiss
  · exact hdismiss

/-- In a step that is no reset, nobody is told that the session is over, unless the tokens are gone
    then, or the step ends a renewal well since whose start there was a logout. -/
theorem told_step {e : Event} (he : e ≠ .reset) (h : (s.step e).IsTold i) :
    s.IsTold i ∨ (s.step e).lifecycle.store.current = {} ∨
      ∃ f renewed, s.flight = some f ∧ e.renewal? s = some (.ok renewed) ∧
        f.epoch ≠ s.lifecycle.epoch ∧ i ∈ f.driver :: f.waiters := by
  cases e with
  | start operation =>
    exact (hushes_or_empties_start operation s).elim (fun hs => .inl (hs i h)) fun hs => .inr (.inl hs)
  | answer id x =>
    exact (hushes_or_empties_answer x id s).elim (fun hs => .inl (hs i h)) fun hs => .inr (.inl hs)
  | answerRenewal x =>
    cases hf : s.flight with
    | some f =>
      have hresolve := answerRenewal_of_flight hf x
      rw [step, hresolve] at h ⊢
      refine (told_resolve h).imp_right (.imp_right ?_)
      rintro ⟨f', renewed, hf', hresult, hepoch, hi⟩
      refine ⟨f', renewed, hf.symm.trans hf', ?_, hepoch, hi⟩
      rw [Event.renewal?, hf, Option.map_some, hresult]
    | none =>
      rw [step, answerRenewal, hf] at h
      exact .inl h
  | resolve result =>
    refine (told_resolve h).imp_right (.imp_right ?_)
    rintro ⟨f, renewed, hf, hresult, hepoch, hi⟩
    exact ⟨f, renewed, hf, congrArg some hresult, hepoch, hi⟩
  | resume => exact .inl (hushes_resume s i h)
  | abort id => exact .inl (hushes_abort id s i h)
  | reset => exact absurd rfl he
  | act action => exact .inl ((rests_act action s).hushes i h)

/-! ### Runs -/

/-- There were tokens all the time from `s₀` to `s`, and nobody told the operation that the session is
    over. A renewal in flight was started in the meantime, or is the one that was in flight in `s₀`. -/
structure Bears (s₀ : Session σ) (i : TaskId) (s : Session σ) : Prop where
  epoch : s.lifecycle.epoch = s₀.lifecycle.epoch
  flight : ∀ f, s.flight = some f →
    f.epoch = s₀.lifecycle.epoch ∨ s₀.flight.map (·.bare) = some f.bare
  untold : ¬s.IsTold i

/-- The event `e` ends the renewal `f` well, and the operation `i` has waited for that. -/
structure Misleads (f : Flight) (i : TaskId) (e : Event) (s : Session σ) : Prop where
  flight : s.flight.map (·.bare) = some f.bare
  ends : ∃ renewed, e.renewal? s = some (.ok renewed)
  waits : i ∈ s.driver ++ s.parked

theorem bears_step {s₀ : Session σ} (h : s₀.Bears i s) (hin : s.InOrder []) {e : Event}
    (he : e ≠ .reset) :
    s₀.Bears i (s.step e) ∨ (s.step e).lifecycle.store.current = {} ∨
      ∃ f, s₀.flight = some f ∧ f.epoch ≠ s₀.lifecycle.epoch ∧ s.Misleads f i e := by
  by_cases hempty : (s.step e).lifecycle.store.current = {}
  · exact .inr (.inl hempty)
  have hepoch := ((epoch_or_current_step s e).resolve_right hempty).trans h.epoch
  by_cases htold : (s.step e).IsTold i
  · -- Who is told has waited for a renewal of an earlier epoch, which was in flight all the time.
    obtain ⟨f', renewed, hf', hresult, hne, hi⟩ :=
      ((told_step he htold).resolve_left h.untold).resolve_left hempty
    have hold := (h.flight f' hf').resolve_left fun heq => hne (heq.trans h.epoch.symm)
    obtain ⟨f, hf, hbare⟩ := Option.map_eq_some_iff.1 hold
    have hsame := congrArg Flight.epoch hbare
    refine .inr (.inr ⟨f, hf, fun heq => hne ?_, ?_, ⟨renewed, hresult⟩, ?_⟩)
    · rw [h.epoch, ← heq]
      exact hsame.symm
    · rw [hf', hbare]
      rfl
    · rwa [driver_of_flight hf', parked_of_flight hf', List.singleton_append]
  · refine .inl ⟨hepoch, fun f hf => ?_, htold⟩
    rcases flights_step hin e with hc | hs | hends
    · -- It was in flight before.
      have hbare := hc.flight
      rw [hf] at hbare
      obtain ⟨f₁, hf₁, heq⟩ := Option.map_eq_some_iff.1 hbare.symm
      refine (h.flight f₁ hf₁).imp (fun h' => ?_) fun h' => h'.trans (congrArg some heq)
      exact (congrArg Flight.epoch heq.symm).trans h'
    · -- It has just been started.
      obtain ⟨f₁, hf₁, -, hstarted⟩ := hs.flight
      obtain rfl := Option.some.inj (hf.symm.trans hf₁)
      exact .inl (hstarted.trans hepoch)
    · exact nomatch hends.idle.symm.trans hf

omit [Storage σ] in
theorem Bears.refl (h : ¬s.IsTold i) : s.Bears i s :=
  ⟨rfl, fun _ hf => .inr (congrArg (Option.map _) hf), h⟩

theorem told_run {s₀ : Session σ} (hin : s₀.InOrder []) {done rest : List Event}
    (h : s₀.Bears i (s₀.run done)) (hreset : Event.reset ∉ rest)
    (htold : (s₀.run (done ++ rest)).IsTold i) :
    (∃ p, p <+: done ++ rest ∧ (s₀.run p).lifecycle.store.current = {}) ∨
      ∃ f p e, s₀.flight = some f ∧ f.epoch ≠ s₀.lifecycle.epoch ∧ p ++ [e] <+: done ++ rest ∧
        (s₀.run p).Misleads f i e := by
  induction rest generalizing done with
  | nil =>
    rw [List.append_nil] at htold
    exact absurd htold h.untold
  | cons e rest ih =>
    have hprefix : done ++ [e] <+: done ++ e :: rest := ⟨rest, (List.append_cons done e rest).symm⟩
    have hne : e ≠ .reset := fun heq => hreset (heq ▸ List.mem_cons_self)
    rcases bears_step h (inOrder_run hin done) hne with hbears | hempty | ⟨f, hf, hepoch, hmisleads⟩
    · rw [← run_concat] at hbears
      rw [List.append_cons] at htold ⊢
      exact ih hbears (fun hmem => hreset (List.mem_cons_of_mem _ hmem)) htold
    · exact .inl ⟨done ++ [e], hprefix, (run_concat done e s₀).symm ▸ hempty⟩
    · exact .inr ⟨f, done, e, hf, hepoch, hprefix, hmisleads⟩

/-- An operation that ends with the word that the session is over was not told without cause. At
    some time since it was started there were no tokens; or else there was, when it was started, a
    renewal in flight from before a logout, and it waited for that renewal until this ended well.

    The operation is started in `s₀` and has ended after `rest`, in which there was no reset. -/
theorem told_only_when_empty (settings : Settings) (store : CredentialStore σ)
    (before rest : List Event) (operation : Operation) (s₀ : Session σ) (h₀ : s₀ = (ofStore settings store).run before)
    (hreset : Event.reset ∉ rest)
    (hend : (s₀.started, .error .sessionExpired) ∈
      (s₀.run (.start operation :: rest)).lifecycle.journal.results) :
    (∃ p, p <+: .start operation :: rest ∧ (s₀.run p).lifecycle.store.current = {}) ∨
      ∃ f p e, s₀.flight = some f ∧ f.epoch ≠ s₀.lifecycle.epoch ∧
        p ++ [e] <+: .start operation :: rest ∧ (s₀.run p).Misleads f s₀.started e := by
  have hin₀ : s₀.InOrder [] := h₀ ▸ inOrder_run (inOrder_ofStore settings store) before
  have huntold : ¬s₀.IsTold s₀.started := by
    rintro (h | h)
    · refine Nat.lt_irrefl _ (hin₀.asked_lt s₀.started (hin₀.line_asked _ ?_))
      have hhanded : s₀.started ∈ s₀.handed.map (·.1) := List.mem_map_of_mem h
      exact List.mem_append_right _ (List.mem_append_right _ (List.mem_append_left _ hhanded))
    · have hresults : s₀.ResultsStarted :=
        h₀ ▸ resultsStarted_run (resultsStarted_ofStore settings store)
          (inOrder_ofStore settings store) before
      exact Nat.lt_irrefl _ (hresults _ _ h)
  have hreset' : Event.reset ∉ Event.start operation :: rest := by
    rw [List.mem_cons, not_or]
    exact ⟨nofun, hreset⟩
  exact @told_run _ _ _ _ hin₀ [] _ (Bears.refl huntold) hreset' (.inr hend)

/-- Whether an operation ended with the word that the session is over. -/
def isExpiry : Except SessionError Outcome → Bool
  | .error .sessionExpired => true
  | _ => false

theorem isExpiry_iff {result : Except SessionError Outcome} :
    isExpiry result = true ↔ result = .error .sessionExpired := by
  constructor
  · intro h
    unfold isExpiry at h
    split at h
    · rfl
    · cases h
  · rintro rfl
    rfl

/-- It can be computed who ended with that word, although results cannot be compared. -/
instance decidableMemResults (i : TaskId) (j : Journal) :
    Decidable ((i, .error .sessionExpired) ∈ j.results) :=
  decidable_of_iff (∃ r ∈ j.results, r.1 = i ∧ isExpiry r.2 = true) <| by
    constructor
    · rintro ⟨⟨k, r⟩, hmem, rfl, hr⟩
      exact isExpiry_iff.1 hr ▸ hmem
    · exact fun hmem => ⟨_, hmem, rfl, rfl⟩

/-- A renewal is started, and the session is logged out while it is in flight. Somebody signs in,
    and the token of a new request is refused: it waits for the old renewal, and is told when this
    ends well. -/
theorem told_because_of_old_renewal :
    let s₀ : Session Memory := (ofStore {} ⟨⟨[]⟩, ⟨"a1", "r1"⟩⟩).run
      (.start .renewNow :: .act .logout :: signingIn 1 "r2")
    let operation : Operation := .send (.ok (.get "/orders")) .any
    let rest : List Event :=
      [.answer 2 (.answered 401 []), .resolve (.ok ⟨"b1", none⟩), .resume]
    ∃ f p e, s₀.flight = some f ∧ f.epoch ≠ s₀.lifecycle.epoch ∧ p ++ [e] <+: .start operation :: rest ∧
      (s₀.run p).Misleads f 2 e := by
  intro s₀ operation rest
  obtain ⟨hstarted, hstore, hend⟩ : s₀.started = 2 ∧
      (∀ p ∈ (.start operation :: rest).inits, (s₀.run p).lifecycle.store.current ≠ {}) ∧
      (s₀.started, .error .sessionExpired) ∈
        (s₀.run (.start operation :: rest)).lifecycle.journal.results := by
    decide +kernel
  have htold := told_only_when_empty {} (⟨⟨[]⟩, ⟨"a1", "r1"⟩⟩ : CredentialStore Memory)
    (.start .renewNow :: .act .logout :: signingIn 1 "r2") rest operation s₀ rfl (by simp [rest]) hend
  rw [hstarted] at htold
  refine htold.resolve_left ?_
  rintro ⟨p, hp, hempty⟩
  exact hstore p ((List.mem_inits p (.start operation :: rest)).2 hp) hempty

/-- An operation is told that the session is over although the tokens that its request was sent with
    were there all the time. -/
theorem told_at_new_session :
    let s₀ : Session Memory := (ofStore {} ⟨⟨[]⟩, ⟨"a1", "r1"⟩⟩).run
      (.start .renewNow :: .act .logout :: signingIn 1 "r2")
    let events : List Event := [.start (.send (.ok (.get "/orders")) .any),
      .answer 2 (.answered 401 []), .resolve (.ok ⟨"b1", none⟩), .resume]
    (∀ p ∈ events.inits, (s₀.run p).lifecycle.store.current = ⟨"a2", "r2"⟩ ∧
      (s₀.run p).lifecycle.isActive = true) ∧
      (2, .error .sessionExpired) ∈ (s₀.run events).lifecycle.journal.results := by
  decide +kernel

end ShopClient.Session
