import ShopClient.Proofs.Alone.Fetching
import ShopClient.Proofs.Conversation.Events
import ShopClient.Proofs.Ledger.Failures

/-!
# The end of a conversation

After a conversation nothing is under way. What can end by itself ends, until only requests are left that
the shop holds (`isSettled_settle`). The shop ends their exchanges one by one, and then it is out of reach.
No operation is dropped on the way, so each one has come to a result.

* `Remembers`: an operation is under way, or has ended;
* `Turn.remembers`: an operation that is not dropped is not forgotten;
* `IsSettled`: nothing is left that ends by itself;
* `InOrder.converse`: nothing is under way after a conversation;
* `exists_result_converse`: so there is a result.
-/

namespace ShopClient.Session

variable {σ : Type} {s s₁ s' : Session σ} {id i : TaskId} {link : Link} {again : Bool}

/-! ### No operation is forgotten -/

/-- An operation is under way, or has ended. -/
def Remembers (s : Session σ) (id : TaskId) : Prop := id ∈ s.ids ∨ id ∈ s.completed

theorem Alike.remembers (h : s.Alike s') (hi : s.Remembers i) : s'.Remembers i := by
  rw [Remembers, h.ids, h.completed]
  exact hi

theorem remembers_await (hi : i = id ∨ s.Remembers i) (t : Task) : (s.await id t).Remembers i := by
  rcases hi with rfl | hids | hcompleted
  · exact .inl (mem_ids_of_task? (task?_await_self s i t))
  · left
    rw [ids_await]
    split
    · exact hids
    · exact List.mem_append_left _ hids
  · exact .inr hcompleted

theorem remembers_finish (hi : i = id ∨ s.Remembers i) (result : Except SessionError Outcome) :
    (s.finish id result).Remembers i := by
  have hcompleted : (s.finish id result).completed = s.completed ++ [id] :=
    (congrArg (List.map Prod.fst) (Journal.results_append _ _)).trans List.map_append
  have hself : (s.finish id result).Remembers id :=
    .inr (hcompleted ▸ List.mem_append_right _ List.mem_cons_self)
  rcases hi with rfl | hids | hlast
  · exact hself
  · by_cases hi : i = id
    · exact hi ▸ hself
    · left
      change i ∈ (s.dismiss id).ids
      rw [ids_dismiss, List.mem_filter]
      exact ⟨hids, decide_eq_true hi⟩
  · exact .inr (hcompleted ▸ List.mem_append_left _ hlast)

variable [Storage σ]

theorem Advances.remembers (h : Advances id again s s') (hi : i = id ∨ s.Remembers i) :
    s'.Remembers i := by
  cases h with
  | ends hr => exact remembers_finish (hi.imp_right hr.alike.remembers) _
  | @sends s₁ call request hr _ =>
    have hcounts : s.Alike { s₁ with dispatched := s₁.dispatched + 1 } :=
      hr.alike.trans ⟨rfl, rfl, rfl⟩
    exact (alike_log rfl _).remembers (remembers_await (hi.imp_right hcounts.remembers) _)

/-- The operation that goes on is not forgotten. -/
theorem Proceeds.remembers (h : Proceeds id again s s') : s'.Remembers id := by
  cases h with
  | advances ha => exact ha.remembers (.inl rfl)
  | @asks want _ hw =>
    cases hf : s.flight with
    | some f =>
      rw [renewThen_of_flight hf]
      exact remembers_await (.inl rfl) _
    | none =>
      by_cases hr : s.lifecycle.store.current.refresh = ""
      · rw [renewThen_of_refresh_eq hf hr]
        exact (advances_grant hw _ _).remembers (.inl rfl)
      · have hlaunched : (s.launched id want).Remembers id :=
          (alike_log rfl _).remembers (remembers_await (.inl rfl) _)
        rw [renewThen_of_idle hf hr]
        split
        · exact (alike_log rfl _).remembers hlaunched
        · exact hlaunched

/-- Whatever happens, an operation that is not dropped is not forgotten. -/
theorem Turn.remembers {dealt : List (TaskId × Granted)} (h : Turn s [] dealt s')
    (hi : s.Remembers i) : s'.Remembers i := by
  generalize hlost : ([] : List TaskId) = lost at h
  -- The operations and their ends are the same, except for one that goes on.
  have hlog {s₁ : Session σ} (hs₁ : s₁.Remembers i) {e : Entry} (he : Journal.results [e] = []) :
      (s₁.log e).Remembers i := (alike_log he s₁).remembers hs₁
  have hasked (id : TaskId) : (s.log (.asked id)).Remembers i := hlog hi rfl
  cases h with
  | rests hr => exact hr.alike.remembers hi
  | advances _ ha => exact ha.remembers (.inr hi)
  | @parks id => exact remembers_await (.inr (hasked id)) _
  | @drives id _ _ _ _ _ _ hs' =>
    have hlaunched (want : Want) : (s.launched id want).Remembers i :=
      hlog (remembers_await (.inr (hasked id)) _) rfl
    rcases hs' with rfl | ⟨o, rfl⟩
    · exact hlaunched _
    · exact hlog (hlaunched _) rfl
  | denied _ _ _ hr ha =>
    exact ha.remembers (.inr (hlog (hr.alike.remembers (hasked _)) rfl))
  | @concludes _ _ l r _ _ hl _ ha =>
    have hrests : s.Rests { s with lifecycle := l } := ⟨l, hl, rfl⟩
    have hcounts : ({ s with lifecycle := l.count (.renewal r) } : Session σ).Remembers i :=
      hlog (hrests.alike.remembers hi) rfl
    exact ha.remembers (.inr (hlog hcounts rfl))
  | picksUp _ ha => exact ha.remembers (.inr (hlog hi rfl))
  | skips => exact hi
  | leaves => cases hlost
  | abandons => cases hlost
  | turnsAway => exact hi

/-- Nobody is forgotten in the course of responses, and the session stays in order. -/
theorem Responds.inOrder (h : s.Responds s') (hin : s.InOrder []) :
    s'.InOrder [] ∧ ∀ i, s.Remembers i → s'.Remembers i := by
  obtain ⟨events, hevents, rfl⟩ := h
  refine ⟨inOrder_run hin events, fun i hi => ?_⟩
  induction events generalizing s with
  | nil => exact hi
  | cons e events ih =>
    obtain ⟨he, hevents⟩ := List.forall_mem_cons.1 hevents
    have hturn := turn_step hin e
    have hopened : s.opened e = s ∧ s.drops e = [] := by
      cases e with
      | answer | answerRenewal | resolve | resume => exact ⟨rfl, rfl⟩
      | _ => exact he.elim
    rw [hopened.1, hopened.2] at hturn
    exact ih (inOrder_step hin e) hevents (hturn.remembers hi)

/-! ### What ends by itself -/

/-- Nothing is left in `s'` of `s` that `s` did not have, and there is the same renewal. -/
structure Thins (s s' : Session σ) : Prop where
  settings : s'.settings = s.settings
  flight : s'.flight = s.flight
  handed : s'.handed = s.handed
  outstanding : ∀ i o, s'.outstanding? i = some o → s.outstanding? i = some o

omit [Storage σ] in
theorem Thins.refl (s : Session σ) : s.Thins s := ⟨rfl, rfl, rfl, fun _ _ h => h⟩

omit [Storage σ] in
theorem Thins.trans (h : s.Thins s₁) (h' : s₁.Thins s') : s.Thins s' where
  settings := h'.settings.trans h.settings
  flight := h'.flight.trans h.flight
  handed := h'.handed.trans h.handed
  outstanding i o hi := h.outstanding i o (h'.outstanding i o hi)

omit [Storage σ] in
/-- The shop holds the request of the same renewal. -/
theorem Thins.heldRenewal?_eq (h : s.Thins s') (link : Link) :
    s'.heldRenewal? link = s.heldRenewal? link := by
  rw [heldRenewal?, heldRenewal?, h.flight, h.settings]

omit [Storage σ] in
theorem exists_task_of_outstanding {o : Outgoing} (h : s.outstanding? id = some o) :
    ∃ (call : Call) (again : Bool),
      s.task? id = some (if again then .replayed call o else .first call o) := by
  rw [outstanding?] at h
  split at h
  · rename_i call request ht
    obtain rfl := Option.some.inj h
    exact ⟨call, false, ht⟩
  · rename_i call request ht
    obtain rfl := Option.some.inj h
    exact ⟨call, true, ht⟩
  · cases h

/-- An operation ends whose request is not answered. -/
theorem thins_answer {o : Outgoing} (h : s.outstanding? id = some o) :
    s.Thins (s.answer id .unanswered) ∧ (s.answer id .unanswered).outstanding? id = none := by
  let e := transportError none [] (some o.unansweredText)
  obtain ⟨call, again, ht⟩ := exists_task_of_outstanding h
  obtain ⟨s₁, hr, hfail⟩ := exists_fail_eq id call e s
  have heq : s.answer id .unanswered = s₁.finish id (.error e) :=
    (answer_of_task ht .unanswered).trans hfail
  have hnone : (s₁.finish id (.error e)).task? id = none := task?_finish id _ s₁
  rw [heq]
  refine ⟨⟨?_, ?_, ?_, fun i o ho => ?_⟩, by rw [outstanding?, hnone]⟩
  · obtain ⟨l, -, rfl⟩ := hr
    rfl
  · exact hr.sameRenewals.flight
  · exact hr.sameRenewals.handed
  · have hne : i ≠ id := by
      rintro rfl
      rw [outstanding?, hnone] at ho
      cases ho
    have hsame : (s₁.finish id (.error e)).task? i = s.task? i :=
      ((task?_dismiss s₁ id i).trans (if_neg hne)).trans (hr.task?_eq i)
    rwa [outstanding?, hsame] at ho

/-- The operation `id` ends, if its request does not reach the shop. -/
def settleTask (link : Link) (id : TaskId) (s : Session σ) : Session σ :=
  match s.outstanding? id with
  | some request => if link.carries request then s else s.answer id .unanswered
  | none => s

theorem settleTasks_eq (link : Link) (s : Session σ) :
    s.settleTasks link = s.ids.foldl (fun s id => s.settleTask link id) s := by
  rw [settleTasks, ids, List.foldl_map]
  rfl

theorem thins_settleTask (link : Link) (id : TaskId) (s : Session σ) :
    s.Thins (s.settleTask link id) ∧
      ∀ o, (s.settleTask link id).outstanding? id = some o → link.carries o = true := by
  rw [settleTask]
  split
  · rename_i request hrequest
    split
    · rename_i hcarries
      refine ⟨.refl s, fun o ho => ?_⟩
      obtain rfl := Option.some.inj (hrequest.symm.trans ho)
      exact hcarries
    · obtain ⟨hthins, hnone⟩ := thins_answer hrequest
      refine ⟨hthins, fun o ho => ?_⟩
      rw [hnone] at ho
      cases ho
  · rename_i hnone
    refine ⟨.refl s, fun o ho => ?_⟩
    rw [hnone] at ho
    cases ho

theorem thins_foldl_settleTask (link : Link) (ids : List TaskId) (s : Session σ) :
    s.Thins (ids.foldl (fun s id => s.settleTask link id) s) ∧
      ∀ id ∈ ids, ∀ o, (ids.foldl (fun s id => s.settleTask link id) s).outstanding? id = some o →
        link.carries o = true := by
  induction ids generalizing s with
  | nil => exact ⟨.refl s, nofun⟩
  | cons id ids ih =>
    obtain ⟨hfirst, hcarries⟩ := thins_settleTask link id s
    obtain ⟨hrest, hcarriesRest⟩ := ih (s.settleTask link id)
    refine ⟨hfirst.trans hrest, fun i hi o ho => ?_⟩
    rcases List.mem_cons.1 hi with rfl | hi
    · exact hcarries o (hrest.outstanding i o ho)
    · exact hcarriesRest i hi o ho

/-- The operations end whose requests do not reach the shop, and nothing else happens. -/
theorem thins_settleTasks (link : Link) (s : Session σ) : s.Thins (s.settleTasks link) ∧
    ∀ id o, (s.settleTasks link).outstanding? id = some o → link.carries o = true := by
  rw [settleTasks_eq]
  obtain ⟨hthins, hcarries⟩ := thins_foldl_settleTask link s.ids s
  refine ⟨hthins, fun id o ho => ?_⟩
  have hid : id ∈ s.ids := by
    have hout := hthins.outstanding id o ho
    by_contra hid
    rw [outstanding?, (task?_eq_none_iff s id).2 hid] at hout
    cases hout
  exact hcarries id hid o ho

/-- When a renewal has ended, there is none. -/
theorem InOrder.flight_resolve (h : s.InOrder []) (result : Except RenewalError Renewed) :
    (s.resolve result).flight = none := by
  cases hf : s.flight with
  | none =>
    rw [resolve, hf]
    exact hf
  | some f =>
    obtain ⟨l, r, -, -, heq⟩ := conclude_eq f result s
    obtain ⟨want, -, hw, hresolve⟩ := resolve_eq h hf result
    rw [hresolve, (advances_grant hw _ _).sameRenewals.flight, settled, heq]
    rfl

/-- An operation picks up what it was handed, and no renewal begins. -/
theorem InOrder.resume_eq (h : s.InOrder []) : s.resume.settings = s.settings ∧
    s.resume.flight = s.flight ∧ s.resume.handed = s.handed.tail := by
  refine ⟨settings_step h .resume, ?_⟩
  unfold resume
  split
  · rename_i hhanded
    rw [hhanded]
    exact ⟨rfl, rfl⟩
  · rename_i id granted rest hhanded
    rw [hhanded]
    by_cases ht : ∃ want, s.task? id = some (.renewal want)
    · obtain ⟨want, ht⟩ := ht
      let popped : Session σ := { s with handed := rest }
      have hgoes : Advances id true (popped.log (.granted id granted))
          (popped.grant id want granted) :=
        advances_grant (h.stage _ _ List.not_mem_nil ht).2 granted popped
      rw [goOn_of_task (s := { s with handed := rest }) ht]
      exact ⟨hgoes.sameRenewals.flight, hgoes.sameRenewals.handed⟩
    · rw [not_exists] at ht
      rw [goOn_of_dropped (s := { s with handed := rest }) ht]
      exact ⟨rfl, rfl⟩

/-- All that was handed over is picked up, and no renewal begins. -/
theorem InOrder.resumeAll_eq (h : s.InOrder []) : s.resumeAll.settings = s.settings ∧
    s.resumeAll.flight = s.flight ∧ s.resumeAll.handed = [] := by
  rw [resumeAll]
  generalize hrow : s.handed = row
  induction row generalizing s with
  | nil => exact ⟨rfl, rfl, hrow⟩
  | cons p row ih =>
    obtain ⟨hsettings, hflight, hhanded⟩ := h.resume_eq
    rw [hrow, List.tail_cons] at hhanded
    obtain ⟨hsettings', hflight', hhanded'⟩ := ih (inOrder_step h .resume) hhanded
    exact ⟨hsettings'.trans hsettings, hflight'.trans hflight, hhanded'⟩

/-- Nothing is left that ends by itself: the shop holds all requests, and nothing is to be picked up. -/
structure IsSettled (link : Link) (s : Session σ) : Prop where
  renewal : s.heldRenewal? link = none → s.flight = none
  handed : s.handed = []
  requests : ∀ id o, s.outstanding? id = some o → link.carries o = true

theorem InOrder.renewal_settleRenewal (h : s.InOrder []) (link : Link) :
    (s.settleRenewal link).heldRenewal? link = none → (s.settleRenewal link).flight = none := by
  unfold settleRenewal
  split
  · rename_i hf
    exact fun _ => hf
  · rename_i f hf
    split
    · rename_i request hrequest
      split
      · rename_i hcarries
        intro hheld
        rw [heldRenewal?, hf, Option.bind_some, hrequest] at hheld
        simp only [if_pos hcarries] at hheld
        cases hheld
      · obtain ⟨result, hresolve⟩ := exists_answerRenewal_eq .unanswered s
        rw [hresolve]
        exact fun _ => h.flight_resolve result
    · exact fun _ => h.flight_resolve _

/-- After all that can end by itself has ended, nothing of that kind is left. -/
theorem InOrder.isSettled_settle (h : s.InOrder []) (link : Link) : (s.settle link).IsSettled link := by
  have hrenewal := h.renewal_settleRenewal link
  have hin := ((responds_settleRenewal link s).inOrder h).1
  obtain ⟨hsettings, hflight, hhanded⟩ := hin.resumeAll_eq
  obtain ⟨hthins, hcarries⟩ := thins_settleTasks link (s.settleRenewal link).resumeAll
  refine ⟨fun hheld => ?_, hthins.handed.trans hhanded, hcarries⟩
  rw [settle, hthins.heldRenewal?_eq, heldRenewal?, hsettings, hflight] at hheld
  exact hthins.flight.trans (hflight.trans (hrenewal hheld))

/-! ### Conversations -/

theorem IsIdle.settle (h : s.IsIdle) (link : Link) : s.settle link = s := by
  have hrenewal : s.settleRenewal link = s := by rw [settleRenewal, h.flight]
  have hresume : s.resumeAll = s := by rw [resumeAll, h.handed, List.foldl_nil]
  rw [Session.settle, hrenewal, hresume, settleTasks, h.tasks, List.foldl_nil]

/-- Nothing comes of a conversation when nothing is under way. -/
theorem IsIdle.converse (h : s.IsIdle) (link : Link) (exchanges : List Exchange) :
    s.converse link exchanges = s := by
  cases exchanges with
  | nil => exact h.settle .down
  | cons x rest =>
    have hnext : s.endNext? link x = none := by
      rw [endNext?, heldRenewal?, h.flight, h.tasks]
      rfl
    rw [Session.converse, h.settle link, hnext]

omit [Storage σ] in
/-- Nothing is under way if the shop holds nothing of what is left. -/
theorem IsSettled.isIdle (h : s.IsSettled link) (hin : s.InOrder [])
    (hrenewal : s.heldRenewal? link = none) (hheld : ∀ id ∈ s.ids, s.held? link id = none) :
    s.IsIdle := by
  have hflight := h.renewal hrenewal
  refine ⟨hin.tasks_eq_nil hflight h.handed ?_, hflight, h.handed⟩
  refine s.forall_outstanding?_eq_none_iff.2 fun id hid => ?_
  have hnone := hheld id hid
  rw [held?] at hnone
  cases hout : s.outstanding? id with
  | none => rfl
  | some o =>
    rw [hout, Option.filter_some, if_pos (h.requests id o hout)] at hnone
    cases hnone

omit [Storage σ] in
/-- A shop that is out of reach holds nothing. -/
theorem held_down (s : Session σ) :
    s.heldRenewal? .down = none ∧ ∀ id, s.held? .down id = none := by
  constructor
  · rw [heldRenewal?, Option.bind_eq_none_iff]
    intro f _
    split
    · rfl
    · rfl
  · intro id
    rw [held?, Option.filter_eq_none_iff]
    exact fun o _ hcarries => Bool.noConfusion hcarries

theorem held_of_endNext {x : Exchange} (h : s.endNext? link x = none) :
    s.heldRenewal? link = none ∧ ∀ id ∈ s.ids, s.held? link id = none := by
  rw [endNext?] at h
  split at h
  · cases h
  · rename_i hrenewal
    rw [Option.map_eq_none_iff, List.find?_eq_none] at h
    refine ⟨hrenewal, fun id hid => ?_⟩
    obtain ⟨entry, hentry, rfl⟩ := List.mem_map.1 hid
    exact Option.not_isSome_iff_eq_none.1 (h entry hentry)

/-- Nothing is under way after a conversation. -/
theorem InOrder.converse (h : s.InOrder []) (link : Link) (exchanges : List Exchange) :
    (s.converse link exchanges).IsIdle := by
  induction exchanges generalizing s with
  | nil =>
    have hin := ((responds_settle .down s).inOrder h).1
    obtain ⟨hrenewal, hheld⟩ := (s.settle .down).held_down
    exact (h.isSettled_settle .down).isIdle hin hrenewal fun id _ => hheld id
  | cons x rest ih =>
    have hin := ((responds_settle link s).inOrder h).1
    rw [Session.converse]
    split
    · rename_i s₁ hs₁
      exact ih ((responds_endNext hs₁).inOrder hin).1
    · rename_i hnone
      obtain ⟨hrenewal, hheld⟩ := held_of_endNext hnone
      exact (h.isSettled_settle link).isIdle hin hrenewal hheld

/-- However the exchanges end, the first operation of a session comes to a result. -/
theorem exists_result_converse (settings : Settings) (store : CredentialStore σ)
    (operation : Operation) (link : Link) (exchanges : List Exchange) :
    ∃ result, (((ofStore settings store).start operation).converse link exchanges).result? 0 =
      some result := by
  have hin : ((ofStore settings store).start operation).InOrder [] :=
    inOrder_step (inOrder_ofStore settings store) (.start operation)
  have hstarts : ((ofStore settings store).start operation).Remembers 0 :=
    (proceeds_start operation (ofStore settings store)).remembers
  have hends := ((responds_converse link exchanges _).inOrder hin).2 0 hstarts
  have hidle := hin.converse link exchanges
  rw [Remembers, ids, hidle.tasks] at hends
  obtain ⟨r, hr, hid⟩ := List.mem_map.1 (hends.resolve_left List.not_mem_nil)
  refine Option.isSome_iff_exists.1 (List.lookup_isSome_iff.2 ⟨r, hr, ?_⟩)
  rw [hid]
  rfl

end ShopClient.Session
