import ShopClient.Proofs.Leaving.Without
import ShopClient.Proofs.Renewal.Logout
import ShopClient.Proofs.Replay.Course

/-!
# Operations that are dropped while they wait

A caller who waits for a renewal can give up. If it merely waits, nobody else can tell: it keeps its
place in the queue, what is handed to it is thrown away, and the session goes on as if it still waited,
whatever happens next. If it drives the renewal, the renewal ends with it. Those in the queue are handed
that, and apart from this and from its count nothing changes; whoever asks next can start a renewal anew.
To turn the queue away changes nothing but the queue.

* `Unseen`: nobody but one operation can tell two sessions apart;
* `unseen_abort`: that is so when an operation is dropped that merely waits, and stays so;
* `abort_driver`: what is left when the driver of a renewal is dropped;
* `flight_renewThen`: who asks for a renewal when none is in flight starts one;
* `dropping_unseen`: what follows for any run.
-/

namespace ShopClient.Session

variable {σ : Type} {s s' t : Session σ} {id : TaskId}

/-! ### What others can see -/

/-- Nobody but the operation `id` can tell `s` and `s'` apart: the tokens and what is persisted of them,
    the profile, the epoch, the observable, the renewal in flight with its queue and what was handed over
    are the same; the other operations wait for the same; and the same happened, in the same order, but
    for what the operation did of its own. -/
structure Unseen (id : TaskId) (s s' : Session σ) : Prop where
  store : s'.lifecycle.store = s.lifecycle.store
  profile : s'.lifecycle.profile = s.lifecycle.profile
  epoch : s'.lifecycle.epoch = s.lifecycle.epoch
  active : s'.lifecycle.active = s.lifecycle.active
  flight : s'.flight = s.flight
  handed : s'.handed = s.handed
  others : ∀ i, i ≠ id → s'.task? i = s.task? i
  journal : s'.lifecycle.journal.filter (!·.isOf id) = s.lifecycle.journal.filter (!·.isOf id)
  notices : s'.lifecycle.journal.notices = s.lifecycle.journal.notices
  counters : s'.lifecycle.journal.counters = s.lifecycle.journal.counters
  results : s'.lifecycle.journal.results.filter (·.1 ≠ id) =
    s.lifecycle.journal.results.filter (·.1 ≠ id)

/-- A view that shows nothing of what an operation did of its own. -/
theorem view_filter_isOf {α : Type*} {f : Entry → Option α}
    (hf : ∀ e, e.isOf id = true → f e = none) (j : Journal) :
    (j.filter (!·.isOf id)).filterMap f = j.filterMap f := by
  rw [List.filterMap_filter]
  refine List.filterMap_congr fun e _ => ?_
  cases he : e.isOf id with
  | true => simp [hf e he]
  | false => simp

theorem results_filter_isOf (id : TaskId) (j : Journal) :
    Journal.results (j.filter (!·.isOf id)) = j.results.filter (·.1 ≠ id) := by
  rw [Journal.results, Journal.results, List.filterMap_filter, List.filter_filterMap]
  refine List.filterMap_congr fun e _ => ?_
  cases e with
  | finished i result => by_cases hi : i = id <;> simp [Entry.isOf, Option.filter, hi]
  | told | counted | renewing => rfl
  | _ => simp

/-- Sessions that are the same without an operation. -/
theorem unseen_of_without (h : s'.without id = s.without id) : s.Unseen id s' := by
  have hlifecycle : s'.lifecycle.without id = s.lifecycle.without id :=
    congrArg Session.lifecycle h
  have hjournal : s'.lifecycle.journal.filter (!·.isOf id) =
      s.lifecycle.journal.filter (!·.isOf id) := congrArg Lifecycle.journal hlifecycle
  have hview {α : Type} {f : Entry → Option α} (hf : ∀ e, e.isOf id = true → f e = none) :
      s'.lifecycle.journal.filterMap f = s.lifecycle.journal.filterMap f := by
    rw [← view_filter_isOf hf, hjournal, view_filter_isOf hf]
  have hstore := congrArg Lifecycle.store hlifecycle
  have hprofile := congrArg Lifecycle.profile hlifecycle
  have hepoch := congrArg Lifecycle.epoch hlifecycle
  have hactive := congrArg Lifecycle.active hlifecycle
  have hflight := congrArg Session.flight h
  have hhanded := congrArg Session.handed h
  refine ⟨hstore, hprofile, hepoch, hactive, hflight, hhanded, fun i hi => ?_, hjournal, ?_, ?_, ?_⟩
  · have htask := congrArg (task? i) h
    rwa [task?_without, task?_without, if_neg hi, if_neg hi] at htask
  · refine hview fun e he => ?_
    cases e with
    | told => cases he
    | _ => rfl
  · refine hview fun e he => ?_
    cases e with
    | counted => cases he
    | _ => rfl
  · rw [← results_filter_isOf, hjournal, results_filter_isOf]

variable [Storage σ]

/-! ### Who merely waits -/

omit [Storage σ] in
/-- To drop an operation that drives no renewal is to drop it, and nothing else. -/
theorem abort_of_not_mem_driver (h : id ∉ s.driver) : s.abort id = s.dismiss id := by
  have hflight : (s.dismiss id).flight = s.flight := rfl
  simp only [abort, hflight]
  split
  · rename_i f hf
    rw [driver_of_flight hf, List.mem_singleton] at h
    exact if_neg (Ne.symm h)
  · rfl

/-- An operation that listens, and drives no renewal, is dropped. -/
theorem unseen_abort (h : s.Listens id) (hdriver : id ∉ s.driver) (later : List Event) :
    (s.run later).Unseen id ((s.step (.abort id)).run later) := by
  -- Without the operation it makes no difference that it was dropped, now or after any events.
  have hsame : (s.step (.abort id)).without id = s.without id := by
    rw [step, abort_of_not_mem_driver hdriver, without_dismiss, dismiss_without]
  refine unseen_of_without ?_
  rw [without_run (h.step (.abort id)), without_run h, hsame]

/-! ### Who drives -/

omit [Storage σ] in
/-- The renewal ends with its driver, and those in the queue are handed that. -/
theorem abort_driver {f : Flight} (hf : s.flight = some f) :
    s.abort f.driver = { s.dismiss f.driver with
      lifecycle := s.lifecycle.count (.renewal .abandoned)
      flight := none
      handed := s.handed ++ f.waiters.map (·, abandoned) } := by
  have hflight : (s.dismiss f.driver).flight = some f := hf
  simp only [abort, hflight, if_true]
  rfl

/-- Who asks for a renewal when none is in flight starts one with the tokens of that moment. -/
theorem flight_renewThen (hidle : t.flight = none)
    (hrefresh : t.lifecycle.store.current.refresh ≠ "") (id : TaskId) (want : Want) :
    (t.renewThen id want).flight = some {
        driver := id, refresh := t.lifecycle.store.current.refresh, epoch := t.lifecycle.epoch } ∧
      (t.renewThen id want).lifecycle.journal.renewals =
        t.lifecycle.journal.renewals ++ [t.lifecycle.store.current.refresh] := by
  have hlaunched := (starts_launched hidle hrefresh id want).renewals
  rw [renewThen_of_idle hidle hrefresh]
  split
  · exact ⟨rfl, (Journal.view_append_of_nil rfl).trans hlaunched⟩
  · exact ⟨rfl, hlaunched⟩

theorem flight_start_mere {operation : Operation} (hmere : operation.isMere = true)
    (hidle : t.flight = none) (hrefresh : t.lifecycle.store.current.refresh ≠ "") :
    (t.step (.start operation)).flight = some {
        driver := t.started, refresh := t.lifecycle.store.current.refresh,
        epoch := t.lifecycle.epoch } ∧
      (t.step (.start operation)).lifecycle.journal.renewals =
        t.lifecycle.journal.renewals ++ [t.lifecycle.store.current.refresh] := by
  let s₁ : Session σ := { t with started := t.started + 1 }
  have hasks (want : Want) := flight_renewThen (t := s₁) hidle hrefresh t.started want
  cases operation with
  | renew => exact hasks .token
  | renewNow =>
    have hhas : t.lifecycle.store.current.hasRefresh = true := by
      simp [CredentialPair.hasRefresh, hrefresh]
    simp only [step, start, if_pos hhas]
    exact hasks .acknowledgement
  | _ => cases hmere

/-- To turn the queue away changes the queue, and hands those in it what became of it. -/
theorem step_reset (s : Session σ) : s.step .reset = { s with
    flight := s.flight.map (·.bare)
    handed := s.handed ++ s.parked.map (·, .error .sessionExpired) } := by
  obtain ⟨settings, lifecycle, tasks, flight, handed, started, dispatched⟩ := s
  cases flight with
  | some f => rfl
  | none =>
    have hnobody : handed ++ [] = handed := List.append_nil handed
    simp only [step, reset, parked, Option.map_none, Option.getD_none, List.map_nil, hnobody]

/-! ### Runs -/

/-- Whatever happened to a session, from its beginning on:

    * when an operation is dropped that merely waits for a renewal and does not drive it, nobody else can
      tell, then or at any time later, and nothing is heard of it any more;
    * when the driver of a renewal is dropped, that is counted, and apart from the count the lifecycle
      stays as it is; no renewal is in flight, nobody is queued, and those who were are handed that the
      renewal was abandoned. What comes back for the renewal changes nothing any more. Whoever next asks
      merely for a renewal, with a refresh token at hand, starts one with the token of that moment;
    * to turn away the queue changes nothing else, and hands those in it that their session is over. -/
theorem dropping_unseen (settings : Settings) (store : CredentialStore σ) (events : List Event) :
    let s := (ofStore settings store).run events
    (∀ id want, s.task? id = some (.renewal want) → want.isMere = true → id ∉ s.driver →
      ∀ later, (s.run later).Unseen id ((s.step (.abort id)).run later) ∧
        ((s.step (.abort id)).run later).deeds id = s.deeds id) ∧
    (∀ f, s.flight = some f → let s' := s.step (.abort f.driver)
      s'.lifecycle = s.lifecycle.count (.renewal .abandoned) ∧ s'.flight = none ∧ s'.queued = 0 ∧
      s'.handed = s.handed ++ f.waiters.map (·, abandoned) ∧
      (∀ i, s'.task? i = if i = f.driver then none else s.task? i) ∧
      (∀ result, s'.step (.resolve result) = s') ∧
      ∀ later operation, let t := s'.run later
        t.lifecycle.journal.renewals = s'.lifecycle.journal.renewals →
        operation.isMere = true → t.lifecycle.store.current.refresh ≠ "" →
          (t.step (.start operation)).flight = some {
            driver := t.started, refresh := t.lifecycle.store.current.refresh,
            epoch := t.lifecycle.epoch } ∧
          (t.step (.start operation)).lifecycle.journal.renewals =
            t.lifecycle.journal.renewals ++ [t.lifecycle.store.current.refresh]) ∧
    s.step .reset = { s with
      flight := s.flight.map (·.bare)
      handed := s.handed ++ s.parked.map (·, .error .sessionExpired) } := by
  intro s
  have hin : s.InOrder [] := inOrder_run (inOrder_ofStore settings store) events
  refine ⟨?_, ?_, ?_⟩
  · intro id want ht hmere hdriver later
    have hlt : id < s.started := hin.ids_lt id (mem_ids_of_task? ht)
    have hlistens : s.Listens id := ⟨hin, hlt, fun t ht' => by
      obtain rfl := Option.some.inj (ht.symm.trans ht')
      exact hmere⟩
    exact ⟨unseen_abort hlistens hdriver later, deeds_run_abort hin hlt later⟩
  · intro f hf s'
    have hs' : s' = _ := abort_driver hf
    have hidle : s'.flight = none := by rw [hs']
    refine ⟨by rw [hs'], hidle, ?_, by rw [hs'], fun i => ?_, fun result => ?_, ?_⟩
    · rw [queued, hidle]
      rfl
    · rw [hs']
      exact task?_dismiss s f.driver i
    · simp only [step, resolve, hidle]
    · intro later operation t hsame hmere hrefresh
      -- No renewal was started since, so that none is in flight.
      have hnone : t.flight = none := by
        rcases flight_run (inOrder_step hin _) hsame with h | h
        · exact h
        · rw [hidle] at h
          exact Option.map_eq_none_iff.1 h
      exact flight_start_mere hmere hnone hrefresh
  · exact step_reset s

/-- Three ask for a renewal, and the second one gives up. The others come to the same as if it had
    waited. -/
theorem dropping_unseen_waiter :
    let events : List Event := [.start .renew, .start .renew, .start .renewNow]
    let later : List Event := [.resolve (.ok ⟨"a2", none⟩), .resume, .resume]
    let s₀ : Session Memory := ofStore {} ⟨⟨[]⟩, ⟨"a1", "r1"⟩⟩
    let s := s₀.run events
    let s' := (s.step (.abort 1)).run later
    (s.run later).Unseen 1 s' ∧ s'.told = [0, 2] ∧ (s.run later).told = [0, 1, 2] := by
  intro events later s₀ s s'
  have hwaits : (s.task? 1).any (·.isMere) = true := by decide +kernel
  have hdriver : 1 ∉ s.driver := by decide +kernel
  have htold : s'.told = [0, 2] ∧ (s.run later).told = [0, 1, 2] := by decide +kernel
  obtain ⟨want, ht, hmere⟩ : ∃ want, s.task? 1 = some (.renewal want) ∧ want.isMere = true := by
    obtain ⟨t, ht, hmere⟩ := (Option.any_eq_true _ _).1 hwaits
    cases t with
    | renewal want => exact ⟨want, ht, hmere⟩
    | _ => cases hmere
  -- From here on it does not matter which events these are.
  clear_value events later
  obtain ⟨hwaiters, -, -⟩ :=
    dropping_unseen {} (⟨⟨[]⟩, ⟨"a1", "r1"⟩⟩ : CredentialStore Memory) events
  obtain ⟨hunseen, -⟩ := hwaiters 1 want ht hmere hdriver later
  exact ⟨hunseen, htold⟩

end ShopClient.Session
