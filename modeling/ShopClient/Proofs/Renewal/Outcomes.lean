import ShopClient.Proofs.Renewal.Desk
import ShopClient.Proofs.Renewal.Relayed
import ShopClient.Proofs.Renewal.SingleFlight

/-!
# Outcomes of a renewal

Whoever asks for a renewal is dealt one outcome, by the end of the renewal that it drove or waited
behind, unless it is dropped before. An outcome is dealt to the driver by going on with it, to the others
by handing it over; those pick it up in the order in which they came.

* `Desk.Moves.mem_outcomes_iff`: a move deals just what it says;
* `Desk.Moves.settles`: whoever asked was dealt an outcome, drives a renewal, or stands in the queue;
* `Desk.Moves.sublist_row`: nobody in the queue overtakes another;
* `outcomes_run`: what follows from that for a session from its beginning on.
-/

namespace ShopClient

namespace Desk

variable {d d' : Desk} {gone : List TaskId} {dealt : List (TaskId × Granted)} {i : TaskId}

/-- The outcomes that were dealt, picked up or not. -/
def outcomes (d : Desk) : List (TaskId × Granted) := d.grants ++ d.handed

/-- The operations that drive a renewal or stand in the queue. -/
def pending (d : Desk) : List TaskId := d.driver ++ d.queue

/-- The operations that were dealt an outcome, in the order in which they go on with it, and after them
    the queue. -/
def row (d : Desk) : List TaskId := d.outcomes.map (·.1) ++ d.queue

/-- A move deals just what it says. -/
theorem Moves.mem_outcomes_iff (h : d.Moves gone dealt d') (hi : i ∉ gone) (g : Granted) :
    (i, g) ∈ d'.outcomes ↔ (i, g) ∈ d.outcomes ∨ (i, g) ∈ dealt := by
  cases h with
  | rests => simp [outcomes]
  | parks => simp [outcomes]
  | drives => simp [outcomes]
  | denied => simp [outcomes, or_left_comm, or_comm]
  | concludes => simp [outcomes, or_assoc, or_left_comm]
  | picksUp hh => simp [outcomes, hh]
  | @skips id _ rest hh =>
    have hne : i ≠ id := List.mem_singleton.not.1 hi
    simp [outcomes, hh, hne]
  | abandons => simp [outcomes, or_assoc]
  | turnsAway => simp [outcomes, or_assoc]

/-- Whoever asks for a renewal is dealt an outcome, drives one, or stands in the queue. -/
theorem Moves.deals_or_pending (h : d.Moves gone dealt d') (hi : i ∉ gone) (hasked : i ∈ d'.asked)
    (hd : i ∈ d.asked → i ∈ d.pending) : (∃ g, (i, g) ∈ dealt) ∨ i ∈ d'.pending := by
  cases h with
  | rests => exact .inr (hd hasked)
  | parks id =>
    obtain hi | rfl := by simpa using hasked
    · exact .inr (by simpa [pending, or_assoc] using Or.inl (hd hi))
    · exact .inr (by simp [pending])
  | drives id hdriver hqueue =>
    obtain hi | rfl := by simpa using hasked
    · have hnil : i ∈ [] := by simpa [pending, hdriver, hqueue] using hd hi
      cases hnil
    · exact .inr (by simp [pending])
  | denied id g =>
    obtain hi | rfl := by simpa using hasked
    · exact .inr (hd hi)
    · exact .inl ⟨g, List.mem_singleton_self _⟩
  | concludes g hdriver =>
    -- All who are pending are dealt the outcome.
    have hp : i ∈ d.driver ++ d.queue := hd hasked
    rw [hdriver] at hp
    exact .inl ⟨g, List.mem_map_of_mem hp⟩
  | picksUp => exact .inr (hd hasked)
  | skips => exact .inr (hd hasked)
  | abandons g hdriver =>
    -- The driver is gone, and so `i` is one of the queue.
    have hp : i ∈ d.driver ++ d.queue := hd hasked
    rw [hdriver] at hp
    exact .inl ⟨g, List.mem_map_of_mem ((List.mem_append.1 hp).resolve_left hi)⟩
  | turnsAway g =>
    rcases List.mem_append.1 (hd hasked) with hp | hp
    · exact .inr (List.mem_append_left _ hp)
    · exact .inl ⟨g, List.mem_map_of_mem hp⟩

/-- Whoever asked for a renewal was dealt an outcome, drives one, or stands in the queue. -/
theorem Moves.settles (h : d.Moves gone dealt d') (hi : i ∉ gone) (hasked : i ∈ d'.asked)
    (hd : i ∈ d.asked → (∃ g, (i, g) ∈ d.outcomes) ∨ i ∈ d.pending) :
    (∃ g, (i, g) ∈ d'.outcomes) ∨ i ∈ d'.pending := by
  by_cases ho : ∃ g, (i, g) ∈ d.outcomes
  · obtain ⟨g, hg⟩ := ho
    exact .inl ⟨g, (h.mem_outcomes_iff hi g).2 (.inl hg)⟩
  · -- Without an outcome so far, it gets one by this move, or is still pending after it.
    rcases h.deals_or_pending hi hasked (fun ha => (hd ha).resolve_left ho) with ⟨g, hg⟩ | hp
    · exact .inl ⟨g, (h.mem_outcomes_iff hi g).2 (.inr hg)⟩
    · exact .inr hp

/-- The queue stays in the order in which its operations asked. -/
theorem Moves.queue_sublist (h : d.Moves gone dealt d') (hd : d.queue.Sublist d.asked) :
    d'.queue.Sublist d'.asked := by
  cases h with
  | parks id => exact hd.append (List.Sublist.refl [id])
  | drives id => exact hd.trans (List.sublist_append_left _ _)
  | denied id => exact hd.trans (List.sublist_append_left _ _)
  | concludes => exact List.nil_sublist _
  | abandons => exact List.nil_sublist _
  | turnsAway => exact List.nil_sublist _
  | _ => exact hd

/-- A move keeps the row in order, and takes nobody out of it but whom it takes away. -/
theorem Moves.row_sublist (h : d.Moves gone dealt d') :
    (d.row.filter (· ∉ gone)).Sublist d'.row := by
  cases h with
  | rests => exact List.filter_sublist
  | parks id =>
    refine List.filter_sublist.trans ?_
    rw [row, row, ← List.append_assoc]
    exact List.sublist_append_left _ _
  | drives => exact List.filter_sublist
  | denied id g =>
    refine List.filter_sublist.trans ?_
    simp only [row, outcomes, List.map_append, List.append_assoc]
    exact (List.sublist_append_right _ _).append_left _
  | concludes g =>
    -- The driver comes in before those who were handed an outcome and the queue.
    refine List.filter_sublist.trans ?_
    simp only [row, outcomes, List.map_append, List.append_assoc, Session.map_fst_map, List.append_nil]
    exact (List.sublist_append_right _ _).append_left _
  | picksUp hh =>
    refine List.filter_sublist.trans ?_
    simp [row, outcomes, hh]
  | @skips id g rest hh =>
    -- The only move that takes anybody out of the row.
    simp only [row, outcomes, hh, List.map_append, List.map_cons, List.filter_append]
    rw [List.filter_cons_of_neg (by simp)]
    exact (List.filter_sublist.append List.filter_sublist).append List.filter_sublist
  | abandons g =>
    refine List.filter_sublist.trans ?_
    simp only [row, outcomes, List.map_append, List.append_assoc, Session.map_fst_map, List.append_nil]
    exact List.Sublist.refl _
  | turnsAway g =>
    refine List.filter_sublist.trans ?_
    simp only [row, outcomes, List.map_append, List.append_assoc, Session.map_fst_map, List.append_nil]
    exact List.Sublist.refl _

/-- Nobody in the row overtakes another. -/
theorem Moves.sublist_row (h : d.Moves gone dealt d') {l : List TaskId} (hl : l.Sublist d.row)
    (hgone : ∀ i ∈ l, i ∉ gone) : l.Sublist d'.row := by
  have hfilter : l.filter (· ∉ gone) = l :=
    List.filter_eq_self.2 fun i hi => decide_eq_true (hgone i hi)
  rw [← hfilter]
  exact (hl.filter _).trans h.row_sublist

end Desk

namespace Session

variable {σ : Type} [Storage σ] {s s' : Session σ}

/-- The operations that are dropped in the course of events. -/
def dropped : List Event → Session σ → List TaskId
  | [], _ => []
  | e :: events, s => s.drops e ++ dropped events (s.step e)

/-- The session serves everybody but those who were dropped: whoever asked for a renewal was dealt an
    outcome or is pending, whoever waits is under way, and the queue stands in the order of arrival. -/
structure Serves (lost : List TaskId) (s : Session σ) : Prop where
  inOrder : s.InOrder []
  settled : ∀ i ∈ s.desk.asked, i ∉ lost → (∃ g, (i, g) ∈ s.desk.outcomes) ∨ i ∈ s.desk.pending
  live : ∀ i ∈ s.waiting, i ∉ lost → ∃ want, s.task? i = some (.renewal want)
  arrival : s.desk.queue.Sublist s.desk.asked

omit [Storage σ] in
theorem serves_ofStore (settings : Settings) (store : CredentialStore σ) :
    (ofStore settings store).Serves [] where
  inOrder := inOrder_ofStore settings store
  settled := List.forall_mem_nil _
  live := List.forall_mem_nil _
  arrival := List.nil_sublist _

/-- Whom a turn takes away was dropped. -/
theorem Serves.moves {before lost : List TaskId} {dealt : List (TaskId × Granted)}
    (h : s.Serves before) (ht : Turn s lost dealt s') :
    ∃ gone, s.desk.Moves gone dealt s'.desk ∧ ∀ i ∈ gone, i ∈ before ++ lost := by
  obtain ⟨gone, hm, hgone⟩ := ht.moves
  refine ⟨gone, hm, fun i hi => ?_⟩
  rcases hgone i hi with hl | ⟨hw, hdead⟩
  · exact List.mem_append_right _ hl
  · refine List.mem_append_left _ (by_contra fun hb => ?_)
    obtain ⟨want, ht⟩ := h.live i hw hb
    exact hdead want ht

/-- Whoever waits after a turn is under way, unless it was dropped. -/
theorem Turn.live {lost : List TaskId} {dealt : List (TaskId × Granted)} (h : s.InOrder [])
    (ht : Turn s lost dealt s') {i : TaskId} (hi : i ∉ lost) (hw : i ∈ s'.waiting)
    (hlive : i ∈ s.waiting → ∃ want, s.task? i = some (.renewal want)) :
    ∃ want, s'.task? i = some (.renewal want) := by
  cases ht with
  | rests hr =>
    rw [hr.task?_eq]
    exact hlive (hr.sameRenewals.waiting ▸ hw)
  | @advances id again s' hp ha =>
    have hw : i ∈ s.waiting := ha.sameRenewals.waiting ▸ hw
    rw [ha.task?_eq fun heq => h.not_mem_waiting hp (heq ▸ hw)]
    exact hlive hw
  | @parks id want f hp _ hf =>
    by_cases heq : i = id
    · exact ⟨want, heq ▸ task?_await_self _ _ _⟩
    · have hw : i ∈ s.waiting ++ [id] := waiting_parks (s := s.log (.asked id)) id hf ▸ hw
      rw [task?_await, if_neg heq]
      exact hlive ((List.mem_append.1 hw).resolve_right (List.mem_singleton.not.2 heq))
  | @drives id want s' hp _ hf hr hs' =>
    -- Whether the request could be sent does not matter for who waits.
    have htasks : s'.task? i = (s.launched id want).task? i := by
      rcases hs' with rfl | ⟨o, rfl⟩ <;> rfl
    have hsame : s'.waiting = (s.launched id want).waiting := by
      rcases hs' with rfl | ⟨o, rfl⟩ <;> rfl
    rw [htasks]
    by_cases heq : i = id
    · exact ⟨want, heq ▸ task?_await_self _ _ _⟩
    · have hw : i ∈ id :: s.waiting :=
        waiting_drives (s := s.log (.asked id)) id _ _ hf ▸ (hsame ▸ hw)
      have hframe : (s.launched id want).task? i = s.task? i :=
        (task?_await _ id i _).trans (if_neg heq)
      rw [hframe]
      exact hlive ((List.mem_cons.1 hw).resolve_left heq)
  | @denied id s₁ s' hp _ _ hr ha =>
    have hw : i ∈ s.waiting := by
      rw [ha.sameRenewals.waiting] at hw
      exact hr.sameRenewals.waiting ▸ hw
    rw [ha.task?_eq fun heq => h.not_mem_waiting hp (heq ▸ hw)]
    exact hr.task?_eq i ▸ hlive hw
  | @concludes f granted l r s' hf hl hr ha =>
    -- The driver waits no more, and all others wait for what they were handed.
    have hlands := waiting_lands (l.count (.renewal r)) granted hf
    have hnodup : s.waiting.Nodup := h.nodup_line.of_append_right
    rw [← hlands, List.nodup_cons] at hnodup
    have hw := ha.sameRenewals.waiting ▸ hw
    rw [ha.task?_eq fun heq => hnodup.1 (heq ▸ hw)]
    exact hlive (hlands ▸ List.mem_cons_of_mem _ hw)
  | @picksUp id granted rest s' hh ha =>
    -- Whoever picks up its outcome stood in the line once, and so waits no more.
    have hpops := waiting_of_handed hh
    have hnodup : s.waiting.Nodup := h.nodup_line.of_append_right
    rw [hpops, List.nodup_middle, List.nodup_cons] at hnodup
    have hw := ha.sameRenewals.waiting ▸ hw
    rw [ha.task?_eq fun heq => hnodup.1 (heq ▸ hw)]
    exact hlive (hpops ▸ List.perm_middle.mem_iff.2 (List.mem_cons_of_mem _ hw))
  | @skips id granted rest hh hid =>
    have hpops := waiting_of_handed hh
    exact hlive (hpops ▸ List.perm_middle.mem_iff.2 (List.mem_cons_of_mem _ hw))
  | @leaves id hd =>
    rw [task?_dismiss, if_neg (List.mem_singleton.not.1 hi)]
    exact hlive hw
  | @abandons f hf =>
    have hw : i ∈ s.waiting :=
      waiting_lands (s.lifecycle.count (.renewal .abandoned)) abandoned hf ▸
        List.mem_cons_of_mem _ hw
    have hframe : (s.dismiss f.driver).task? i = s.task? i :=
      (task?_dismiss s f.driver i).trans (if_neg (List.mem_singleton.not.1 hi))
    exact hframe ▸ hlive hw
  | @turnsAway f hf =>
    rw [waiting_turnsAway _ hf] at hw
    exact hlive hw

/-! ### Runs -/

theorem Serves.turn {before lost : List TaskId} {dealt : List (TaskId × Granted)}
    (h : s.Serves before) (ht : Turn s lost dealt s') : s'.Serves (before ++ lost) := by
  obtain ⟨gone, hm, hgone⟩ := h.moves ht
  refine ⟨h.inOrder.turn ht, fun i hasked hi => ?_, fun i hw hi => ?_, hm.queue_sublist h.arrival⟩
  · refine hm.settles (fun hg => hi (hgone i hg)) hasked fun ha => ?_
    exact h.settled i ha fun hb => hi (List.mem_append_left _ hb)
  · refine ht.live h.inOrder (fun hl => hi (List.mem_append_right _ hl)) hw fun hw => ?_
    exact h.live i hw fun hb => hi (List.mem_append_left _ hb)

omit [Storage σ] in
theorem Serves.opened {lost : List TaskId} (h : s.Serves lost) (e : Event) :
    (s.opened e).Serves lost := by
  have ho := h.inOrder.opened e
  rcases opened_cases s e with heq | heq
  · rw [heq]
    exact h
  · rw [heq] at ho ⊢
    exact ⟨ho, h.settled, h.live, h.arrival⟩

theorem serves_step {lost : List TaskId} (h : s.Serves lost) (e : Event) :
    (s.step e).Serves (lost ++ s.drops e) :=
  (h.opened e).turn (turn_step h.inOrder e)

theorem serves_run {lost : List TaskId} (h : s.Serves lost) (events : List Event) :
    (s.run events).Serves (lost ++ s.dropped events) := by
  induction events generalizing s lost with
  | nil => exact (List.append_nil lost).symm ▸ h
  | cons e events ih =>
    have hrun := ih (serves_step h e)
    rw [List.append_assoc] at hrun
    exact hrun

/-- A step moves the desk, and takes away nobody but who was dropped. -/
theorem moves_step {lost : List TaskId} (h : s.Serves lost) (e : Event) :
    ∃ gone, s.desk.Moves gone (s.deals e) (s.step e).desk ∧ ∀ i ∈ gone, i ∈ lost ++ s.drops e := by
  have hm := (h.opened e).moves (turn_step h.inOrder e)
  rwa [desk_opened] at hm

theorem sublist_row_run {lost l : List TaskId} (h : s.Serves lost) {events : List Event}
    (hl : l.Sublist s.desk.row) (hlost : ∀ i ∈ l, i ∉ lost ++ s.dropped events) :
    l.Sublist (s.run events).desk.row := by
  induction events generalizing s lost with
  | nil => exact hl
  | cons e events ih =>
    obtain ⟨gone, hm, hgone⟩ := moves_step h e
    rw [dropped, ← List.append_assoc] at hlost
    refine ih (serves_step h e) (hm.sublist_row hl fun i hi hg => ?_) hlost
    exact hlost i hi (List.mem_append_left _ (hgone i hg))

/-- Two in order of whom the second stands in the first part of a list both stand there. -/
theorem sublist_of_mem_left {a b : List TaskId} {i j : TaskId} (hab : (a ++ b).Nodup)
    (h : [i, j].Sublist (a ++ b)) (hj : j ∈ a) : [i, j].Sublist a := by
  obtain ⟨l₁, l₂, heq, h₁, h₂⟩ := List.sublist_append_iff.1 h
  have hl₂ : j ∉ l₂ := fun hmem => List.disjoint_of_nodup_append hab hj (h₂.subset hmem)
  rcases List.eq_nil_or_concat l₂ with rfl | ⟨l, x, rfl⟩
  · rw [List.append_nil] at heq
    exact heq ▸ h₁
  · have hlast := congrArg List.getLast? heq
    rw [List.concat_eq_append, ← List.append_assoc, List.getLast?_append] at hlast
    obtain rfl : j = x := by simpa using hlast
    exact absurd (by simp) hl₂

omit [Storage σ] in
/-- Nobody is dealt two outcomes, and nobody who is pending was dealt one. -/
theorem InOrder.nodup_settled (h : s.InOrder []) :
    (s.desk.outcomes.map (·.1) ++ s.desk.pending).Nodup := by
  refine (List.Perm.nodup_iff ?_).1 h.nodup_line
  rw [Desk.outcomes, List.map_append, List.append_assoc]
  exact (List.perm_append_comm_assoc _ _ _).append_left _

/-- Whatever happens to a session from its beginning on, whoever asks for a renewal is dealt at most one
    outcome, and has been dealt one if and only if it neither drives a renewal nor stands in the queue,
    unless it was dropped; so nobody is left without when no renewal is in flight. Each step deals just
    what `deals` says. The queue stands in the order in which its operations asked, and in that order
    they go on. An operation that does nothing but renew yields what it went on with, and yields nothing
    else. -/
theorem outcomes_run (settings : Settings) (store : CredentialStore σ) (events : List Event) :
    let s := (ofStore settings store).run events
    let lost := (ofStore settings store).dropped events
    (s.desk.outcomes.map (·.1)).Nodup ∧
    (∀ id ∈ s.desk.asked, id ∉ lost →
      ((∃ g, (id, g) ∈ s.desk.outcomes) ↔ id ∉ s.desk.pending)) ∧
    (s.isRefreshing = false →
      ∀ id ∈ s.desk.asked, id ∉ lost → ∃ g, (id, g) ∈ s.desk.outcomes) ∧
    (∀ e id g, id ∉ lost ++ s.drops e →
      ((id, g) ∈ (s.step e).desk.outcomes ↔ (id, g) ∈ s.desk.outcomes ∨ (id, g) ∈ s.deals e)) ∧
    s.desk.queue.Sublist s.desk.asked ∧
    (∀ i j later, [i, j].Sublist s.desk.queue → i ∉ lost ++ s.dropped later →
      j ∉ lost ++ s.dropped later → j ∈ (s.run later).told → [i, j].Sublist (s.run later).told) ∧
    ∀ operation out later, Operation.relays? s operation = some out →
      let s' := (s.step (.start operation)).run later
      s'.lifecycle.journal.resultsOf s.started =
        (s'.lifecycle.journal.grantsOf s.started).map (·.map out) := by
  intro s lost
  have h : s.Serves lost := serves_run (serves_ofStore settings store) events
  have hsettled (id : TaskId) (hasked : id ∈ s.desk.asked) (hid : id ∉ lost) :
      (∃ g, (id, g) ∈ s.desk.outcomes) ↔ id ∉ s.desk.pending := by
    refine ⟨?_, (h.settled id hasked hid).resolve_right⟩
    rintro ⟨g, hg⟩ hp
    exact List.disjoint_of_nodup_append h.inOrder.nodup_settled (List.mem_map_of_mem hg) hp
  refine ⟨h.inOrder.nodup_settled.of_append_left, hsettled, fun hidle id hasked hid => ?_,
    fun e id g hid => ?_, h.arrival, fun i j later hq hi hj htold => ?_,
    fun operation out later hop => ?_⟩
  · refine (hsettled id hasked hid).2 ?_
    have hf : s.flight = none := by simpa [isRefreshing] using hidle
    rw [Desk.pending, show s.desk.driver = [] from driver_of_idle hf,
      show s.desk.queue = [] from parked_of_idle hf]
    exact List.not_mem_nil
  · obtain ⟨gone, hm, hgone⟩ := moves_step h e
    exact hm.mem_outcomes_iff (fun hg => hid (hgone id hg)) g
  · -- Both stay in the row in their order, and those who were told are its first part.
    have hrun := serves_run h later
    have hpair : ∀ k ∈ [i, j], k ∉ lost ++ s.dropped later := by
      intro k hk
      obtain rfl | rfl : k = i ∨ k = j := by simpa using hk
      · exact hi
      · exact hj
    have hrow := sublist_row_run h (hq.trans (List.sublist_append_right _ _)) hpair
    have hnodup : (s.run later).desk.row.Nodup :=
      hrun.inOrder.nodup_settled.sublist ((List.sublist_append_right _ _).append_left _)
    rw [Desk.row, Desk.outcomes, List.map_append, List.append_assoc] at hrow hnodup
    exact sublist_of_mem_left hnodup hrow htold
  · have hresults : s.ResultsStarted := resultsStarted_run (resultsStarted_ofStore settings store)
      (inOrder_ofStore settings store) events
    exact relayed_run h.inOrder hresults hop later

end Session

end ShopClient
