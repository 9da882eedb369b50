import ShopClient.Proofs.Renewal.Steps

/-!
# Single flight

At most one renewal is in flight, and it is never without an operation that drives it. Who drives a
renewal can be read off the operations alone: it waits for a renewal, and neither stands in a queue nor
was handed an outcome (`drivers`). That there is such an operation if and only if the session says that
a renewal is in flight is what keeps the queue from being forgotten.

* `Turn.flights`: a turn starts a renewal, ends the one in flight, or does neither;
* `single_flight`: at any time, the renewals that were started and have not ended are those of the
  operations that drive one, and that is one at most.
-/

namespace ShopClient

/-- A renewal in flight, whoever waits behind it. -/
def Flight.bare (f : Flight) : Flight := { f with waiters := [] }

namespace Session

variable {σ : Type}

/-- Whether a renewal is in flight, as the session has it. -/
def isRefreshing (s : Session σ) : Bool := s.flight.isSome

/-- The operations under way that wait for a renewal, but neither stand in the queue nor were handed an
    outcome. -/
def drivers (s : Session σ) : List TaskId :=
  s.ids.filter fun id => match s.task? id with
    | some (.renewal _) => decide (id ∉ s.handed.map (·.1) ++ s.parked)
    | _ => false

theorem mem_drivers_iff {s : Session σ} {id : TaskId} : id ∈ s.drivers ↔
    (∃ want, s.task? id = some (.renewal want)) ∧ id ∉ s.handed.map (·.1) ++ s.parked := by
  rw [drivers, List.mem_filter]
  constructor
  · rintro ⟨-, hid⟩
    split at hid
    · rename_i want ht
      exact ⟨⟨want, ht⟩, of_decide_eq_true hid⟩
    · cases hid
  · rintro ⟨⟨want, ht⟩, hid⟩
    refine ⟨mem_ids_of_task? ht, ?_⟩
    rw [ht]
    exact decide_eq_true hid

/-- In a session in order, the driver of the renewal in flight is the one operation that drives one. -/
theorem InOrder.drivers_eq {s : Session σ} (h : s.InOrder []) : s.drivers = s.driver := by
  have hmem (id : TaskId) : id ∈ s.drivers ↔ id ∈ s.driver := by
    rw [mem_drivers_iff]
    constructor
    · -- Whoever waits is the driver, or was handed an outcome, or stands in the queue.
      rintro ⟨⟨want, ht⟩, hid⟩
      have hw := (h.stage id _ List.not_mem_nil ht).1
      exact (List.mem_append.1 hw).resolve_right hid
    · intro hid
      have hnodup : s.waiting.Nodup := h.nodup_line.of_append_right
      exact ⟨h.driven id hid List.not_mem_nil, List.disjoint_of_nodup_append hnodup hid⟩
  have hnodup : s.drivers.Nodup := h.nodup_ids.filter _
  cases hf : s.flight with
  | some f =>
    have hd := driver_of_flight hf
    rw [hd] at hmem ⊢
    exact List.perm_singleton.1
      ((List.perm_ext_iff_of_nodup hnodup (List.nodup_singleton _)).2 hmem)
  | none =>
    have hd := driver_of_idle hf
    rw [hd] at hmem ⊢
    exact List.eq_nil_iff_forall_not_mem.2 fun id hid => List.not_mem_nil ((hmem id).1 hid)

variable [Storage σ] {s s₁ s' : Session σ}

/-! ### Starts and ends -/

/-- Renewals go on as they were between `s` and `s'`. -/
structure Continues (s s' : Session σ) : Prop where
  flight : s'.flight.map (·.bare) = s.flight.map (·.bare)
  renewals : s'.lifecycle.journal.renewals = s.lifecycle.journal.renewals
  ended : s'.lifecycle.journal.ended = s.lifecycle.journal.ended

/-- A renewal is started between `s` and `s'`, with the refresh token that `s` holds. -/
structure Starts (s s' : Session σ) : Prop where
  idle : s.flight = none
  refresh_ne : s.lifecycle.store.current.refresh ≠ ""
  flight : ∃ f, s'.flight = some f ∧ f.refresh = s.lifecycle.store.current.refresh ∧
    f.epoch = s'.lifecycle.epoch
  renewals : s'.lifecycle.journal.renewals =
    s.lifecycle.journal.renewals ++ [s.lifecycle.store.current.refresh]
  ended : s'.lifecycle.journal.ended = s.lifecycle.journal.ended

/-- The renewal in flight ends between `s` and `s'`. -/
structure Ends (s s' : Session σ) : Prop where
  flight : ∃ f, s.flight = some f
  idle : s'.flight = none
  renewals : s'.lifecycle.journal.renewals = s.lifecycle.journal.renewals
  ended : s'.lifecycle.journal.ended = s.lifecycle.journal.ended + 1

omit [Storage σ] in
theorem SameRenewals.continues (h : s.SameRenewals s') : s.Continues s' :=
  ⟨by rw [h.flight], h.renewals, h.ended⟩

omit [Storage σ] in
theorem Continues.driver (h : s.Continues s') : s'.driver = s.driver := by
  have hd (s : Session σ) : s.driver = ((s.flight.map (·.bare)).map (·.driver)).toList := by
    rw [Session.driver, Option.map_map]
    rfl
  rw [hd, hd s, h.flight]

omit [Storage σ] in
theorem Continues.trans (h : s.Continues s₁) (h' : s₁.Continues s') : s.Continues s' :=
  ⟨h'.flight.trans h.flight, h'.renewals.trans h.renewals, h'.ended.trans h.ended⟩

omit [Storage σ] in
theorem Continues.log (h : s.Continues s₁) {e : Entry} (hn : Journal.renewals [e] = [])
    (he : Journal.ended [e] = 0) : s.Continues (s₁.log e) where
  flight := h.flight
  renewals := (Journal.view_append_of_nil hn).trans h.renewals
  ended := (Journal.ended_append _ _).trans (by rw [he, Nat.add_zero, h.ended])

omit [Storage σ] in
theorem Ends.sameRenewals (h : s.Ends s₁) (h' : s₁.SameRenewals s') : s.Ends s' :=
  ⟨h.flight, h'.flight.trans h.idle, h'.renewals.trans h.renewals, h'.ended.trans h.ended⟩

omit [Storage σ] in
theorem Ends.log (h : s.Ends s₁) {e : Entry} (hn : Journal.renewals [e] = [])
    (he : Journal.ended [e] = 0) : s.Ends (s₁.log e) where
  flight := h.flight
  idle := h.idle
  renewals := (Journal.view_append_of_nil hn).trans h.renewals
  ended := (Journal.ended_append _ _).trans (by rw [he, Nat.add_zero, h.ended])

omit [Storage σ] in
theorem starts_launched (hf : s.flight = none) (hr : s.lifecycle.store.current.refresh ≠ "")
    (id : TaskId) (want : Want) : s.Starts (s.launched id want) where
  idle := hf
  refresh_ne := hr
  flight := ⟨_, rfl, rfl, rfl⟩
  renewals := by
    refine (Journal.renewals_append _ [.renewing _]).trans (congrArg (· ++ _) ?_)
    exact Journal.view_append_of_nil rfl
  ended := by
    refine (Journal.ended_append _ [.renewing _]).trans (congrArg (· + 0) ?_)
    exact (Journal.ended_append _ [.asked id]).trans (Nat.add_zero _)

/-- A turn starts a renewal, ends the one in flight, or does neither. -/
theorem Turn.flights {lost : List TaskId} {dealt : List (TaskId × Granted)}
    (ht : Turn s lost dealt s') :
    s.Continues s' ∨ s.Starts s' ∨ s.Ends s' := by
  have hrefl : s.Continues s := ⟨rfl, rfl, rfl⟩
  cases ht with
  | rests hr => exact .inl hr.sameRenewals.continues
  | advances _ ha => exact .inl ha.sameRenewals.continues
  | @parks id want f _ _ hf =>
    have hasks : s.Continues (s.log (.asked id)) := hrefl.log rfl rfl
    refine .inl ⟨?_, hasks.renewals, hasks.ended⟩
    rw [hf]
    rfl
  | @drives id want s' _ _ hf hr hs' =>
    have hstarts := starts_launched hf hr id want
    rcases hs' with rfl | ⟨o, rfl⟩
    · exact .inr (.inl hstarts)
    · refine .inr (.inl ⟨hf, hr, hstarts.flight, ?_, ?_⟩)
      · exact (Journal.view_append_of_nil rfl).trans hstarts.renewals
      · exact (Journal.ended_append _ [.sent _ o]).trans ((Nat.add_zero _).trans hstarts.ended)
  | denied _ _ _ hr ha =>
    have hasks := (hrefl.log (e := .asked _) rfl rfl).trans hr.sameRenewals.continues
    exact .inl ((hasks.log rfl rfl).trans ha.sameRenewals.continues)
  | @concludes f granted l r s' hf hl hr ha =>
    -- The end is counted before the driver goes on, which does not concern renewals.
    have hends : s.Ends (({ s with flight := none, lifecycle := l.count (.renewal r) } :
        Session σ).handOver f.waiters granted) := by
      refine ⟨⟨f, hf⟩, rfl, ?_, ?_⟩
      · exact (Journal.view_append_of_nil rfl).trans hl.renewals_eq
      · exact (Journal.ended_append _ [.counted _]).trans
          (congrArg₂ (· + ·) hl.ended_eq (Journal.ended_counted hr))
    exact .inr (.inr ((hends.log rfl rfl).sameRenewals ha.sameRenewals))
  | @picksUp id granted rest s' hh ha =>
    have hpops : s.Continues { s with handed := rest } := ⟨rfl, rfl, rfl⟩
    exact .inl ((hpops.log rfl rfl).trans ha.sameRenewals.continues)
  | skips => exact .inl ⟨rfl, rfl, rfl⟩
  | leaves => exact .inl ⟨rfl, rfl, rfl⟩
  | @abandons f hf =>
    refine .inr (.inr ⟨⟨f, hf⟩, rfl, ?_, ?_⟩)
    · exact Journal.view_append_of_nil rfl
    · exact Journal.ended_append _ [.counted _]
  | turnsAway hf =>
    refine .inl ⟨?_, rfl, rfl⟩
    rw [hf]
    rfl

/-- A step starts a renewal, ends the one in flight, or does neither. -/
theorem flights_step (h : s.InOrder []) (e : Event) :
    s.Continues (s.step e) ∨ s.Starts (s.step e) ∨ s.Ends (s.step e) := by
  have ht := (turn_step h e).flights
  rcases opened_cases s e with heq | heq
  · rw [heq] at ht
    exact ht
  · rw [heq] at ht
    rcases ht with hc | hs | he
    · exact .inl ⟨hc.flight, hc.renewals, hc.ended⟩
    · exact .inr (.inl ⟨hs.idle, hs.refresh_ne, hs.flight, hs.renewals, hs.ended⟩)
    · exact .inr (.inr ⟨he.flight, he.idle, he.renewals, he.ended⟩)

/-! ### The renewals in flight -/

omit [Storage σ] in
theorem isRefreshing_iff (s : Session σ) : s.isRefreshing = true ↔ s.driver ≠ [] := by
  rw [isRefreshing, driver]
  cases s.flight <;> simp

omit [Storage σ] in
theorem length_driver_le (s : Session σ) : s.driver.length ≤ 1 := by
  rw [driver]
  cases s.flight <;> simp

/-- The renewals that were started are those that have ended, and the one in flight. -/
def Balances (s : Session σ) : Prop :=
  s.lifecycle.journal.renewals.length = s.lifecycle.journal.ended + s.driver.length

theorem balances_step (h : s.InOrder []) (hb : s.Balances) (e : Event) : (s.step e).Balances := by
  rw [Balances] at hb ⊢
  rcases flights_step h e with hc | hs | he
  · rw [hc.renewals, hc.ended, hc.driver, hb]
  · obtain ⟨f, hf, -⟩ := hs.flight
    rw [driver_of_idle hs.idle] at hb
    rw [hs.renewals, hs.ended, driver_of_flight hf, List.length_append, hb]
    rfl
  · obtain ⟨f, hf⟩ := he.flight
    rw [driver_of_flight hf] at hb
    rw [he.renewals, he.ended, driver_of_idle he.idle, hb]
    rfl

theorem balances_run (h : s.InOrder []) (hb : s.Balances) (events : List Event) :
    (s.run events).Balances := by
  induction events generalizing s with
  | nil => exact hb
  | cons e events ih => exact ih (inOrder_step h e) (balances_step h hb e)

/-- Whatever happens to a session from its beginning on, at most one renewal has been started that has
    not ended. The session says that one is in flight if and only if there is an operation under way
    that drives it, and only then does anybody stand in the queue. A renewal is started when the
    session comes to say so, and only then, with the refresh token that is stored at that moment. -/
theorem single_flight (settings : Settings) (store : CredentialStore σ) (events : List Event) :
    let s := (ofStore settings store).run events
    s.lifecycle.journal.renewals.length = s.lifecycle.journal.ended + s.drivers.length ∧
    s.drivers.length ≤ 1 ∧
    (s.isRefreshing = true ↔ ∃ f, s.flight = some f ∧ s.drivers = [f.driver]) ∧
    (s.parked ≠ [] → s.isRefreshing = true) ∧
    ∀ e, (s.step e).lifecycle.journal.renewals = s.lifecycle.journal.renewals ++
        (if s.isRefreshing = false ∧ (s.step e).isRefreshing = true then
          [s.lifecycle.store.current.refresh] else []) ∧
      (s.isRefreshing = false → (s.step e).isRefreshing = true →
        s.lifecycle.store.current.refresh ≠ "") := by
  intro s
  have h : s.InOrder [] := inOrder_run (inOrder_ofStore settings store) events
  refine ⟨?_, ?_, ?_, ?_, fun e => ?_⟩
  · rw [h.drivers_eq]
    exact balances_run (inOrder_ofStore settings store) rfl events
  · rw [h.drivers_eq]
    exact length_driver_le s
  · rw [h.drivers_eq, isRefreshing, Option.isSome_iff_exists]
    exact exists_congr fun f => ⟨fun hf => ⟨hf, driver_of_flight hf⟩, And.left⟩
  · intro hp
    rw [isRefreshing, Option.isSome_iff_ne_none]
    exact fun hf => hp (parked_of_idle hf)
  · rcases flights_step h e with hc | hs | he
    · have hsame : (s.step e).isRefreshing = s.isRefreshing := by
        rw [Bool.eq_iff_iff, isRefreshing_iff, isRefreshing_iff, hc.driver]
      rw [hsame, hc.renewals]
      refine ⟨?_, fun hidle hrefreshing => ?_⟩
      · simp
      · exact absurd (hidle.symm.trans hrefreshing) nofun
    · obtain ⟨f, hf, -⟩ := hs.flight
      rw [isRefreshing, isRefreshing, hs.idle, hf, hs.renewals]
      exact ⟨rfl, fun _ _ => hs.refresh_ne⟩
    · rw [isRefreshing, isRefreshing, he.idle, he.renewals]
      simp

end Session

end ShopClient
