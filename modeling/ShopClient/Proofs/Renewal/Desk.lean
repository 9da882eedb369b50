import ShopClient.Proofs.Renewal.Order

/-!
# The desk

What a session knows of those who ask for renewals: who asked, who was told what, who was handed what,
who drives the renewal in flight, and who stands in the queue. A turn moves operations from one of
these lists to another, and that is all that outcomes depend on.

* `Desk.Moves`: what one turn can do to the desk, whom it takes from the desk without an outcome to
  pick up, and what it deals;
* `Turn.moves`: a turn moves the desk.
-/

namespace ShopClient

/-- What concerns those who ask for renewals. -/
structure Desk where
  /-- The operations that asked for a renewal. -/
  asked : List TaskId
  /-- The operations that went on with what a renewal came to, and what that was. -/
  grants : List (TaskId × Granted)
  /-- What was handed over and not yet picked up. -/
  handed : List (TaskId × Granted)
  /-- The operation that drives the renewal in flight. -/
  driver : List TaskId
  /-- The operations that stand in the queue behind it. -/
  queue : List TaskId

namespace Desk

/-- What one turn can do to a desk, the operation that it takes away, and the outcomes that it deals. -/
inductive Moves (d : Desk) : List TaskId → List (TaskId × Granted) → Desk → Prop
  | rests (gone : List TaskId) : Moves d gone [] d
  | parks (id : TaskId) :
    Moves d [] [] { d with asked := d.asked ++ [id], queue := d.queue ++ [id] }
  | drives (id : TaskId) : d.driver = [] → d.queue = [] →
    Moves d [] [] { d with asked := d.asked ++ [id], driver := [id] }
  | denied (id : TaskId) (g : Granted) :
    Moves d [] [(id, g)] { d with asked := d.asked ++ [id], grants := d.grants ++ [(id, g)] }
  | concludes {id : TaskId} (g : Granted) : d.driver = [id] →
    Moves d [] ((id :: d.queue).map (·, g))
      { d with
        grants := d.grants ++ [(id, g)]
        handed := d.handed ++ d.queue.map (·, g)
        driver := []
        queue := [] }
  | picksUp {id : TaskId} {g : Granted} {rest : List (TaskId × Granted)} :
    d.handed = (id, g) :: rest →
      Moves d [] [] { d with grants := d.grants ++ [(id, g)], handed := rest }
  | skips {id : TaskId} {g : Granted} {rest : List (TaskId × Granted)} :
    d.handed = (id, g) :: rest → Moves d [id] [] { d with handed := rest }
  | abandons {id : TaskId} (g : Granted) : d.driver = [id] →
    Moves d [id] (d.queue.map (·, g))
      { d with handed := d.handed ++ d.queue.map (·, g), driver := [], queue := [] }
  | turnsAway (g : Granted) :
    Moves d [] (d.queue.map (·, g)) { d with handed := d.handed ++ d.queue.map (·, g), queue := [] }

end Desk

namespace Session

variable {σ : Type}

/-- The desk of a session. -/
def desk (s : Session σ) : Desk where
  asked := s.lifecycle.journal.asked
  grants := s.lifecycle.journal.grants
  handed := s.handed
  driver := s.driver
  queue := s.parked

theorem desk_log_asked (id : TaskId) (s : Session σ) :
    (s.log (.asked id)).desk = { s.desk with asked := s.desk.asked ++ [id] } := by
  refine Desk.mk.injEq .. |>.mpr ⟨Journal.asked_append _ _, ?_, rfl, rfl, rfl⟩
  exact Journal.view_append_of_nil rfl

theorem desk_log_granted (id : TaskId) (g : Granted) (s : Session σ) :
    (s.log (.granted id g)).desk = { s.desk with grants := s.desk.grants ++ [(id, g)] } := by
  refine Desk.mk.injEq .. |>.mpr ⟨?_, Journal.grants_append _ _, rfl, rfl, rfl⟩
  exact Journal.view_append_of_nil rfl

/-- The journal concerns the desk by what it says of who asked and who was told. -/
theorem desk_congr {s s' : Session σ} (hflight : s'.flight = s.flight) (hhanded : s'.handed = s.handed)
    (hasked : s'.lifecycle.journal.asked = s.lifecycle.journal.asked)
    (hgrants : s'.lifecycle.journal.grants = s.lifecycle.journal.grants) : s'.desk = s.desk := by
  rw [desk, desk, driver, driver, parked, parked, hflight, hhanded, hasked, hgrants]

theorem SameRenewals.desk {s s' : Session σ} (h : s.SameRenewals s') : s'.desk = s.desk :=
  desk_congr h.flight h.handed h.asked h.grants

@[simp] theorem desk_opened (s : Session σ) (e : Event) : (s.opened e).desk = s.desk := by
  cases e <;> rfl

theorem desk_driver_of_flight {s : Session σ} {f : Flight} (h : s.flight = some f) :
    s.desk.driver = [f.driver] :=
  driver_of_flight h

theorem desk_queue_of_flight {s : Session σ} {f : Flight} (h : s.flight = some f) :
    s.desk.queue = f.waiters :=
  parked_of_flight h

/-- When a renewal is over, its queue is handed what it came to. -/
theorem desk_lands {s : Session σ} {f : Flight} (h : s.flight = some f) {l : Lifecycle σ}
    (hasked : l.journal.asked = s.lifecycle.journal.asked)
    (hgrants : l.journal.grants = s.lifecycle.journal.grants) (g : Granted) :
    (({ s with flight := none, lifecycle := l } : Session σ).handOver f.waiters g).desk =
      { s.desk with
        handed := s.desk.handed ++ s.desk.queue.map (·, g)
        driver := []
        queue := [] } := by
  rw [desk_queue_of_flight h]
  exact Desk.mk.injEq .. |>.mpr ⟨hasked, hgrants, rfl, rfl, rfl⟩

theorem desk_launched {s : Session σ} (h : s.flight = none) (id : TaskId) (want : Want) :
    (s.launched id want).desk =
      { s.desk with asked := s.desk.asked ++ [id], driver := [id] } := by
  have hqueue : s.desk.queue = [] := parked_of_idle h
  have hasked : (s.launched id want).desk = { (s.log (.asked id)).desk with
      driver := [id], queue := [] } := by
    refine Desk.mk.injEq .. |>.mpr ⟨?_, ?_, rfl, rfl, rfl⟩
    · exact Journal.view_append_of_nil rfl
    · exact Journal.view_append_of_nil rfl
  rw [hasked, desk_log_asked, ← hqueue]

variable [Storage σ] {s s' : Session σ}

/-- A turn moves the desk. Whom it takes away is dropped by it, or was dropped before. -/
theorem Turn.moves {lost : List TaskId} {dealt : List (TaskId × Granted)}
    (ht : Turn s lost dealt s') : ∃ gone, s.desk.Moves gone dealt s'.desk ∧
      ∀ i ∈ gone, i ∈ lost ∨ i ∈ s.waiting ∧ ∀ want, s.task? i ≠ some (.renewal want) := by
  cases ht with
  | rests hr =>
    rw [hr.sameRenewals.desk]
    exact ⟨[], .rests [], List.forall_mem_nil _⟩
  | advances _ ha =>
    rw [ha.sameRenewals.desk]
    exact ⟨[], .rests [], List.forall_mem_nil _⟩
  | @parks id want f _ _ hf =>
    have heq : (({ s.log (.asked id) with
        flight := some { f with waiters := f.waiters ++ [id] } } : Session σ).await id
          (.renewal want)).desk =
        { (s.log (.asked id)).desk with driver := [f.driver], queue := f.waiters ++ [id] } := rfl
    rw [heq, desk_log_asked, ← desk_driver_of_flight hf, ← desk_queue_of_flight hf]
    exact ⟨[], .parks id, List.forall_mem_nil _⟩
  | @drives id want s' _ _ hf hr hs' =>
    have heq : s'.desk = (s.launched id want).desk := by
      rcases hs' with rfl | ⟨o, rfl⟩
      · rfl
      · refine desk_congr rfl rfl ?_ ?_
        · exact Journal.view_append_of_nil rfl
        · exact Journal.view_append_of_nil rfl
    rw [heq, desk_launched hf]
    exact ⟨[], .drives id (driver_of_idle hf) (parked_of_idle hf), List.forall_mem_nil _⟩
  | @denied id s₁ s' _ _ _ hr ha =>
    rw [ha.sameRenewals.desk, desk_log_granted, hr.sameRenewals.desk, desk_log_asked]
    exact ⟨[], .denied id _, List.forall_mem_nil _⟩
  | @concludes f granted l r s' hf hl hr ha =>
    have hasked := (Lifecycle.asked_count (.renewal r) l).trans hl.asked_eq
    have hgrants := (Lifecycle.grants_count (.renewal r) l).trans hl.grants_eq
    rw [ha.sameRenewals.desk, desk_log_granted, desk_lands hf hasked hgrants,
      ← desk_queue_of_flight hf]
    exact ⟨[], .concludes granted (desk_driver_of_flight hf), List.forall_mem_nil _⟩
  | @picksUp id granted rest s' hh ha =>
    rw [ha.sameRenewals.desk, desk_log_granted]
    exact ⟨[], .picksUp hh, List.forall_mem_nil _⟩
  | @skips id granted rest hh hid =>
    -- It was dropped by an earlier turn, while it waited.
    refine ⟨[id], .skips hh, ?_⟩
    rw [List.forall_mem_singleton]
    refine .inr ⟨?_, hid⟩
    simp [waiting, hh]
  | @leaves id =>
    -- It keeps its place in the queue, so the desk does not move, but it is not there to be served.
    exact ⟨[id], .rests [id], fun i hi => .inl hi⟩
  | @abandons f hf =>
    have hm := Desk.Moves.abandons abandoned (desk_driver_of_flight hf)
    rw [← desk_lands hf (Lifecycle.asked_count (.renewal .abandoned) _)
      (Lifecycle.grants_count (.renewal .abandoned) _) abandoned, desk_queue_of_flight hf] at hm
    exact ⟨[f.driver], hm, fun i hi => .inl hi⟩
  | @turnsAway f hf =>
    have heq : (({ s with flight := some { f with waiters := [] } } : Session σ).handOver f.waiters
        (.error .sessionExpired)).desk =
        { s.desk with
          handed := s.desk.handed ++ f.waiters.map (·, .error .sessionExpired)
          driver := [f.driver]
          queue := [] } := rfl
    rw [heq, ← desk_driver_of_flight hf, ← desk_queue_of_flight hf]
    exact ⟨[], .turnsAway _, List.forall_mem_nil _⟩

end Session

end ShopClient
