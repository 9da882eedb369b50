import ShopClient.Proofs.Renewal.Logout
import ShopClient.Proofs.Standing.Effect
import Mathlib.Data.Nat.ModEq

/-!
# The late end of a renewal

A renewal that ends after a logout belongs to a session that is over. Its tokens are thrown away, so
a success leaves the session that came after as it is. A failure does not ask to which session it
belongs: it ends the one that is there.

* `Flight.Spans`: the time from the start of a renewal to its end;
* `Flight.Spans.epoch_eq_iff`: the epoch tells whether there was a logout in that time, unless the
  logouts make it come round;
* `late_renewal`: what the end of a renewal does to a session that is newer than the renewal.
-/

namespace ShopClient

/-- The epoch is the same as before if and only if the logouts in between have made it come round. -/
theorem Lifecycle.epoch_eq_iff_dvd {σ : Type} [Storage σ] {l l' : Lifecycle σ} (hl : l.CountsLogouts)
    (hg : l.Goes l') : l'.epoch = l.epoch ↔ UInt64.size ∣ l'.logouts - l.logouts := by
  have hl' := hg.countsLogouts hl
  calc
    l'.epoch = l.epoch ↔ UInt64.ofNat l'.logouts = UInt64.ofNat l.logouts := by rw [hl, hl']
    _ ↔ Nat.ModEq UInt64.size l.logouts l'.logouts := by
      rw [← UInt64.toNat_inj, UInt64.toNat_ofNat', UInt64.toNat_ofNat']
      exact eq_comm
    _ ↔ UInt64.size ∣ l'.logouts - l.logouts := Nat.modEq_iff_dvd' hg.logouts_le

/-- The renewal `f` was started in a run from the beginning, by the event `first` with which the session
    became `s₁`, and is still in flight in `s₂`. -/
inductive Flight.Spans {σ : Type} [Storage σ] (f : Flight) (s₁ s₂ : Session σ) : Prop
  | intro (settings : Settings) (store : CredentialStore σ) (before : List Event) (first : Event)
      (during : List Event) (s₀ : Session σ) :
    s₀ = (Session.ofStore settings store).run before → s₀.flight = none → s₁ = s₀.step first →
      s₁.flight ≠ none → s₂ = s₁.run during →
      s₂.lifecycle.journal.renewals = s₁.lifecycle.journal.renewals → s₂.flight = some f → Spans f s₁ s₂

namespace Flight.Spans

variable {σ : Type} [Storage σ] {s₁ s₂ : Session σ} {f : Flight} (h : f.Spans s₁ s₂)

include h

theorem inOrder : s₂.InOrder [] := by
  obtain ⟨settings, store, before, first, during, s₀, rfl, -, rfl, -, rfl, -, -⟩ := h
  exact Session.inOrder_run (Session.inOrder_step
    (Session.inOrder_run (Session.inOrder_ofStore settings store) before) first) during

theorem flight : s₂.flight = some f := by
  obtain ⟨_, _, _, _, _, _, _, _, _, _, _, _, hf⟩ := h
  exact hf

/-- The epoch of the session is that of the renewal if and only if there was no logout in between,
    unless the logouts have made it come round. -/
theorem epoch_eq_iff :
    s₂.lifecycle.epoch = f.epoch ↔ UInt64.size ∣ s₂.lifecycle.logouts - s₁.lifecycle.logouts := by
  obtain ⟨settings, store, before, first, during, s₀, rfl, hidle, rfl, hstarts, rfl, hsame, hf⟩ := h
  have hin := Session.inOrder_ofStore settings store
  have hin₀ := Session.inOrder_run hin before
  have hcounts := (Session.goes_step hin₀ first).countsLogouts ((Session.goes_run hin
    before).countsLogouts (Lifecycle.countsLogouts_ofStore store))
  rw [Session.epoch_of_flight hin₀ hidle hstarts hsame hf]
  exact Lifecycle.epoch_eq_iff_dvd hcounts
    (Session.goes_run (Session.inOrder_step hin₀ first) during)

end Flight.Spans

namespace Session

variable {σ : Type} {s : Session σ} {id : TaskId} {want : Want}

/-- Whether the operation waits for a renewal to fetch the profile with the new token. -/
def fetches (id : TaskId) (s : Session σ) : Bool :=
  match s.task? id with
  | some (.renewal (.replay ⟨_, .profile⟩)) => true
  | _ => false

variable [Storage σ]

/-- Whoever waits to fetch the profile ends the session when it cannot. -/
theorem whenFailed_of_fetches (ht : s.task? id = some (.renewal want)) (h : s.fetches id = true)
    (l : Lifecycle σ) : want.whenFailed l = l.logout.2 := by
  rw [fetches, ht] at h
  split at h
  · rename_i heq
    cases heq
    rfl
  · cases h

theorem whenFailed_of_not_fetches (ht : s.task? id = some (.renewal want))
    (h : s.fetches id = false) (l : Lifecycle σ) : want.whenFailed l = l := by
  rw [fetches, ht] at h
  cases want with
  | replay call =>
    obtain ⟨request, goal⟩ := call
    cases goal with
    | profile => cases h
    | _ => rfl
  | _ => rfl

/-- What the end of a renewal does to a session that is newer than the renewal, there having been
    logouts since it was started (and not so many that the epoch has come round). A success leaves
    the session as it is, unless the driver wants to fetch the profile. A failure ends it, and so
    does a driver that cannot fetch the profile, if there is anything to end. -/
theorem late_renewal {s₁ s₂ : Session σ} {f : Flight} (hspan : f.Spans s₁ s₂)
    (hlate : ¬UInt64.size ∣ s₂.lifecycle.logouts - s₁.lifecycle.logouts) {last : Event}
    {result : Except RenewalError Renewed} (hlast : last.renewal? s₂ = some result) :
    let spared := s₂.lifecycle.isCleared = true ∨
      (∃ renewed, result = .ok renewed) ∧ s₂.fetches f.driver = false
    (s₂.lifecycle.Agrees (s₂.step last).lifecycle ↔ spared) ∧
      (¬spared → s₂.lifecycle.HasEnded (s₂.step last).lifecycle) := by
  intro spared
  obtain ⟨want, ht, -, hresolve⟩ := resolve_eq hspan.inOrder hspan.flight result
  have hstep := (step_of_renewal? hlast).trans hresolve
  -- Whatever the result, those who wait are told that the session is over.
  have hepoch : s₂.lifecycle.epoch ≠ f.epoch := fun h => hlate (hspan.epoch_eq_iff.1 h)
  have hverdict : s₂.verdict f result = .error .sessionExpired := by
    cases result with
    | ok renewed => exact (settled_discarded hepoch renewed).1
    | error e => rfl
  rw [hverdict] at hstep
  have hgrant := agrees_grant_error f.driver want .sessionExpired (s₂.settled f result)
  rw [← hstep] at hgrant
  -- So the session stays as it is, or it ends.
  by_cases hkept : (∃ renewed, result = .ok renewed) ∧ s₂.fetches f.driver = false
  · have hspared : spared := .inr hkept
    obtain ⟨⟨renewed, rfl⟩, hfetches⟩ := hkept
    rw [whenFailed_of_not_fetches ht hfetches, (settled_discarded hepoch renewed).2] at hgrant
    have hsame := ((Lifecycle.Agrees.refl s₂.lifecycle).count (.renewal .discarded)).trans hgrant
    exact ⟨iff_of_true hsame hspared, absurd hspared⟩
  · have hended : s₂.lifecycle.logout.2.Agrees (s₂.step last).lifecycle := by
      cases result with
      | ok renewed =>
        have hfetches : s₂.fetches f.driver = true := by
          by_contra hnot
          exact hkept ⟨⟨renewed, rfl⟩, Bool.eq_false_iff.2 hnot⟩
        rw [whenFailed_of_fetches ht hfetches, (settled_discarded hepoch renewed).2] at hgrant
        exact ((Lifecycle.Agrees.refl s₂.lifecycle).count (.renewal .discarded)).logout.trans hgrant
      | error e =>
        have hsettled : s₂.lifecycle.logout.2.Agrees (s₂.settled f (.error e)).lifecycle :=
          (Lifecycle.agrees_expire _).count (.renewal .failed)
        refine Lifecycle.StaysOrEnds.after_end hsettled ?_
        rw [hstep]
        exact staysOrEnds_grant _ _ _ _
    refine ⟨(Lifecycle.agrees_iff_of_ended hended).trans (or_iff_left hkept).symm, fun hspared => ?_⟩
    refine Lifecycle.hasEnded_of_ended hended (Bool.eq_false_iff.2 fun hcleared => ?_)
    exact hspared (.inl hcleared)

/-- A renewal is started, the session is logged out, and somebody signs in. The late success of the
    renewal leaves the new session as it is, and its late failure ends it. -/
theorem late_renewal_at_new_session :
    let s₁ : Session Memory := (ofStore {} ⟨⟨[]⟩, ⟨"a1", "r1"⟩⟩).step (.start .renew)
    let s₂ := s₁.run [.act .logout, .act (.storeCredentials "a2" (some "r2"))]
    s₂.lifecycle.Agrees (s₂.step (.resolve (.ok ⟨"a3", none⟩))).lifecycle ∧
      s₂.lifecycle.HasEnded (s₂.step (.resolve (.error (.rejected 500)))).lifecycle := by
  intro s₁ s₂
  obtain ⟨hrefreshing, hcleared, hfetches⟩ :
      s₂.flight.isSome = true ∧ s₂.lifecycle.isCleared = false ∧ s₂.fetches 0 = false := by
    decide +kernel
  obtain ⟨f, hf⟩ := Option.isSome_iff_exists.1 hrefreshing
  have hdriver : f.driver = 0 := by
    have h : s₂.flight.map (·.driver) = some 0 := by decide +kernel
    rw [hf] at h
    exact Option.some.inj h
  have hspan : f.Spans s₁ s₂ := .intro {} ⟨⟨[]⟩, ⟨"a1", "r1"⟩⟩ [] (.start .renew)
    [.act .logout, .act (.storeCredentials "a2" (some "r2"))] _ rfl rfl rfl (by decide +kernel) rfl
    (by decide +kernel) hf
  have hlate : ¬UInt64.size ∣ s₂.lifecycle.logouts - s₁.lifecycle.logouts := by decide +kernel
  constructor
  · refine (late_renewal hspan hlate rfl).1.2 (.inr ⟨⟨_, rfl⟩, ?_⟩)
    rw [hdriver, hfetches]
  · refine (late_renewal hspan hlate rfl).2 ?_
    rintro (h | ⟨⟨_, h⟩, -⟩)
    · exact nomatch hcleared.symm.trans h
    · cases h

/-- A session that was begun after a logout, with a renewal from before still in flight, ends when that
    renewal fails. -/
theorem late_failure_ends_new_session :
    let s₂ : Session Memory := (ofStore {} ⟨⟨[]⟩, ⟨"a1", "r1"⟩⟩).run
      [.start .renew, .act .logout, .act (.storeCredentials "a2" (some "r2"))]
    let s₃ := s₂.step (.resolve (.error (.rejected 500)))
    s₂.isRefreshing = true ∧ s₂.lifecycle.logouts = 1 ∧
      s₂.lifecycle.store.current = ⟨"a2", "r2"⟩ ∧ s₂.lifecycle.isActive = true ∧
      s₃.lifecycle.store.current = {} ∧ s₃.lifecycle.isActive = false ∧
      s₃.lifecycle.farewells = s₂.lifecycle.farewells + 1 := by
  decide +kernel

end Session

end ShopClient
