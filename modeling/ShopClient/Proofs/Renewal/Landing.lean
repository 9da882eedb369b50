import ShopClient.Proofs.Renewal.Steps

/-!
# The end of a renewal

What a renewal leaves behind when it is over, by its result. To go on at once, as its driver does, is to
be handed the outcome before all others and to pick it up first (`landed`), so that from there on all who
waited are alike.

* `settled_stored`, `settled_discarded`, `settled_failed`: what the session is like then, before anybody
  goes on;
* `resume_landed`: the end of a renewal is the first step after it has landed;
* `InOrder.landed`: nobody loses its place by that.
-/

namespace ShopClient

/-- The result of a renewal that `e` brings in the session `s`. -/
def Event.renewal? {σ : Type} (s : Session σ) : Event → Option (Except RenewalError Renewed)
  | .resolve result => some result
  | .answerRenewal x => s.flight.map (·.result s.settings x)
  | _ => none

namespace Session

variable {σ : Type} [Storage σ] {s : Session σ} {f : Flight}

theorem step_of_renewal? {e : Event} {result : Except RenewalError Renewed}
    (h : e.renewal? s = some result) : s.step e = s.resolve result := by
  cases e with
  | resolve r => exact congrArg s.resolve (Option.some.inj h)
  | answerRenewal x =>
    obtain ⟨f, hf, rfl⟩ := Option.map_eq_some_iff.1 h
    exact answerRenewal_of_flight hf x
  | _ => cases h

theorem fst_storeRenewed_iff {l : Lifecycle σ} {epoch : UInt64} {renewed : Renewed} :
    (l.storeRenewed epoch renewed).1 = true ↔ l.epoch = epoch := by
  rw [Lifecycle.storeRenewed]
  split <;> simp [*]

/-- A result that is stored. -/
theorem settled_stored {f : Flight} (h : s.lifecycle.epoch = f.epoch) (renewed : Renewed) :
    s.verdict f (.ok renewed) = .ok renewed.access ∧
      (s.settled f (.ok renewed)).lifecycle =
        (s.lifecycle.storeCredentials renewed.access renewed.refresh).count (.renewal .ok) := by
  refine ⟨if_pos (fst_storeRenewed_iff.2 h), ?_⟩
  simp only [settled, conclude, Lifecycle.storeRenewed, if_pos h]
  rfl

/-- A result that is thrown away. -/
theorem settled_discarded {f : Flight} (h : s.lifecycle.epoch ≠ f.epoch) (renewed : Renewed) :
    s.verdict f (.ok renewed) = .error .sessionExpired ∧
      (s.settled f (.ok renewed)).lifecycle = s.lifecycle.count (.renewal .discarded) := by
  refine ⟨if_neg fun hs => h (fst_storeRenewed_iff.1 hs), ?_⟩
  simp only [settled, conclude, Lifecycle.storeRenewed, if_neg h]
  rfl

/-- A failure ends the session. -/
theorem settled_failed (f : Flight) (e : RenewalError) (s : Session σ) :
    s.verdict f (.error e) = .error .sessionExpired ∧
      (s.settled f (.error e)).lifecycle = s.lifecycle.expire.count (.renewal .failed) :=
  ⟨rfl, rfl⟩

/-- The session in which the renewal `f` is over and what it came to is handed over, to its driver
    first. -/
def landed (f : Flight) (result : Except RenewalError Renewed) (s : Session σ) : Session σ :=
  let s' := s.settled f result
  { s' with handed := (f.driver, s.verdict f result) :: s'.handed }

theorem landed_eq (f : Flight) (result : Except RenewalError Renewed) (s : Session σ) :
    ∃ l r, s.lifecycle.Becomes l ∧ s.landed f result = { s with
      flight := none
      lifecycle := l.count (.renewal r)
      handed := (f.driver, s.verdict f result) ::
        (s.handed ++ f.waiters.map (·, s.verdict f result)) } := by
  obtain ⟨l, r, hl, -, heq⟩ := conclude_eq f result s
  refine ⟨l, r, hl, ?_⟩
  rw [landed, settled, heq]
  rfl

@[simp] theorem settings_landed (f : Flight) (result : Except RenewalError Renewed) (s : Session σ) :
    (s.landed f result).settings = s.settings := by
  obtain ⟨l, r, -, heq⟩ := landed_eq f result s
  rw [heq]

@[simp] theorem tasks_landed (f : Flight) (result : Except RenewalError Renewed) (s : Session σ) :
    (s.landed f result).tasks = s.tasks := by
  obtain ⟨l, r, -, heq⟩ := landed_eq f result s
  rw [heq]

@[simp] theorem flight_landed (f : Flight) (result : Except RenewalError Renewed) (s : Session σ) :
    (s.landed f result).flight = none := by
  obtain ⟨l, r, -, heq⟩ := landed_eq f result s
  rw [heq]

theorem handed_landed (hh : s.handed = []) (f : Flight) (result : Except RenewalError Renewed) :
    (s.landed f result).handed = (f.driver :: f.waiters).map (·, s.verdict f result) := by
  obtain ⟨l, r, -, heq⟩ := landed_eq f result s
  rw [heq, hh]
  rfl

theorem renewals_landed (f : Flight) (result : Except RenewalError Renewed) (s : Session σ) :
    (s.landed f result).lifecycle.journal.renewals = s.lifecycle.journal.renewals := by
  obtain ⟨l, r, hl, heq⟩ := landed_eq f result s
  rw [heq]
  exact (Journal.view_append_of_nil rfl).trans hl.renewals_eq

theorem renewalRequests_landed (f : Flight) (result : Except RenewalError Renewed) (s : Session σ) :
    (s.landed f result).lifecycle.journal.renewalRequests = s.lifecycle.journal.renewalRequests := by
  obtain ⟨l, r, hl, heq⟩ := landed_eq f result s
  rw [heq]
  exact (Journal.view_append_of_nil rfl).trans hl.renewalRequests_eq

theorem resume_landed (hf : s.flight = some f) (result : Except RenewalError Renewed) :
    (s.landed f result).resume = s.resolve result := by
  obtain ⟨l, r, -, -, heq⟩ := conclude_eq f result s
  simp only [landed, settled, resume, resolve, hf, heq]

theorem InOrder.landed (h : s.InOrder []) (hf : s.flight = some f)
    (result : Except RenewalError Renewed) : (s.landed f result).InOrder [] := by
  obtain ⟨l, r, hl, heq⟩ := landed_eq f result s
  rw [heq]
  have hasked := (Lifecycle.asked_count (.renewal r) l).trans hl.asked_eq
  have hgrants := (Lifecycle.grants_count (.renewal r) l).trans hl.grants_eq
  have hwaiting : ({ s with
      flight := none
      lifecycle := l.count (.renewal r)
      handed := (f.driver, s.verdict f result) ::
        (s.handed ++ f.waiters.map (·, s.verdict f result)) } : Session σ).waiting = s.waiting := by
    rw [waiting_of_idle rfl, waiting_of_flight hf, List.map_cons, List.map_append, map_fst_map]
  refine h.thin rfl rfl hasked (congrArg (List.map Prod.fst) hgrants)
    (hwaiting ▸ List.Sublist.refl _) (fun _ _ _ _ hi => hwaiting ▸ hi) ?_
  exact fun _ hi => absurd hi List.not_mem_nil

end Session

end ShopClient
