import ShopClient.Proofs.Expiry.Inquiry

/-!
# Inquiries gather

The access token of a quiet session has expired. Inquiries are sent with it, one after the other, and
one after the other they are refused, in any order. The first to be refused starts a renewal, and all
others come into the queue behind it; the session stays otherwise as it was.

* `Gathers`: what the session is like in the meantime;
* `gathers_quiet`, `gathers_run`: it is so at any time;
* `Gathers.perm`: in the end all inquiries wait for the one renewal.
-/

namespace ShopClient

/-- The inquiry that an event starts. -/
def Event.inquiry? : Event → Option Inquiry
  | .start (.send (.ok request) shape) => some ⟨request, shape⟩
  | _ => none

/-- What happens while an expired token is in use: proper inquiries are sent, and answers refuse the
    token. -/
def Event.Expires (base : String) : Event → Prop
  | .start (.send (.ok request) shape) => Inquiry.IsProper base ⟨request, shape⟩
  | .answer _ x => x.IsUnauthorized
  | _ => False

namespace Session

variable {σ : Type} [Storage σ]

/-- The inquiry that `e` starts, with the number of its operation. -/
def inquiry (s : Session σ) (e : Event) : List (TaskId × Inquiry) :=
  (e.inquiry?.map (s.started, ·)).toList

/-- The inquiries that are started in the course of events, with the numbers of their operations. -/
def inquiries : List Event → Session σ → List (TaskId × Inquiry)
  | [], _ => []
  | e :: events, s => s.inquiry e ++ inquiries events (s.step e)

/-- The inquiries `calls` were started in the quiet session `s₀`. Those that were refused drive a renewal
    or wait for it. Nothing else has happened but what the journal says: requests were sent, and a
    renewal was started if anybody asked for it. -/
structure Gathers (s₀ : Session σ) (calls : List (TaskId × Inquiry)) (news : Journal)
    (s : Session σ) : Prop where
  settings_eq : s.settings = s₀.settings
  lifecycle : s.lifecycle = { s₀.lifecycle with journal := s₀.lifecycle.journal ++ news }
  handed : s.handed = []
  ids : s.ids = calls.map (·.1)
  proper : ∀ c ∈ calls, c.2.IsProper s₀.settings.baseUrl
  tasks : ∀ id t, s.task? id = some t → ∃ q, (id, q) ∈ calls ∧
    ((∃ o, t = .first q.call o) ∨ t = .renewal (.replay q.call))
  queue : ∀ f, s.flight = some f →
    f.epoch = s₀.lifecycle.epoch ∧ ∀ id ∈ f.driver :: f.waiters, id ∈ s.ids
  renewals : news.renewals = s.flight.toList.map fun _ => s₀.lifecycle.store.current.refresh
  requests : news.renewalRequests = s.flight.toList.flatMap fun _ =>
    (renewalRequest s₀.settings s₀.lifecycle.store.current.refresh).toOption.toList
  notices : news.notices = []
  results : news.results = []

variable {s₀ s : Session σ} {calls : List (TaskId × Inquiry)} {news : Journal}

namespace Gathers

omit [Storage σ] in
theorem log_eq (hg : s₀.Gathers calls news s) (entries : Journal) :
    { s.lifecycle with journal := s.lifecycle.journal ++ entries } =
      { s₀.lifecycle with journal := s₀.lifecycle.journal ++ (news ++ entries) } := by
  rw [hg.lifecycle, List.append_assoc]

omit [Storage σ] in
theorem access?_eq (hg : s₀.Gathers calls news s) : s.access? = s₀.access? := by
  rw [access?, access?, hg.lifecycle]

/-- Another inquiry is sent. -/
theorem start (hg : s₀.Gathers calls news s) (h : s.InOrder []) {q : Inquiry}
    (hq : q.IsProper s₀.settings.baseUrl)
    (ha : ∀ t, s₀.access? = some t → Http.Header.isValue (Http.Header.bearer t) = true) :
    ∃ more, s₀.Gathers (calls ++ [(s.started, q)]) (news ++ more)
      (s.start (.send (.ok q.request) q.shape)) := by
  obtain ⟨o, ho⟩ := start_inquiry (hg.settings_eq ▸ hq) (hg.access?_eq ▸ ha)
  have hfresh : s.started ∉ s.ids := fun hid => Nat.lt_irrefl _ (h.ids_lt _ hid)
  have hids : (s.start (.send (.ok q.request) q.shape)).ids = s.ids ++ [s.started] := by
    rw [ho]
    exact (ids_await _ _ _).trans (if_neg hfresh)
  refine ⟨[.sent (.task s.started) o], ?_⟩
  constructor
  · rw [ho]
    exact hg.settings_eq
  · rw [ho]
    exact hg.log_eq _
  · rw [ho]
    exact hg.handed
  · rw [hids, hg.ids, List.map_append]
    rfl
  · rw [List.forall_mem_append, List.forall_mem_singleton]
    exact ⟨hg.proper, hq⟩
  · rw [ho]
    refine forall_task?_await (s := { s with
      started := s.started + 1, dispatched := s.dispatched + 1 }) (fun i t ht => ?_) ?_
    · obtain ⟨q', hq', ht'⟩ := hg.tasks i t ht
      exact ⟨q', List.mem_append_left _ hq', ht'⟩
    · exact ⟨q, List.mem_append_right _ (List.mem_singleton_self _), .inl ⟨o, rfl⟩⟩
  · intro f hf
    rw [ho] at hf
    obtain ⟨hepoch, hqueue⟩ := hg.queue f hf
    rw [hids]
    exact ⟨hepoch, fun id hid => List.mem_append_left _ (hqueue id hid)⟩
  · rw [ho, Journal.renewals_append, hg.renewals]
    exact List.append_nil _
  · rw [ho, Journal.renewalRequests_append, hg.requests]
    exact List.append_nil _
  · rw [Journal.notices_append, hg.notices]
    rfl
  · rw [Journal.results_append, hg.results]
    rfl

omit [Storage σ] in
/-- An inquiry comes to wait for a renewal. -/
theorem waits (hg : s₀.Gathers calls news s) {s' : Session σ} {id : TaskId} {q : Inquiry}
    (hq : (id, q) ∈ calls) {more : Journal} (hsettings : s'.settings = s.settings)
    (hlifecycle : s'.lifecycle = { s.lifecycle with journal := s.lifecycle.journal ++ more })
    (hhanded : s'.handed = s.handed)
    (htasks : s'.tasks = (s.await id (.renewal (.replay q.call))).tasks)
    (hqueue : ∀ f, s'.flight = some f →
      f.epoch = s₀.lifecycle.epoch ∧ ∀ i ∈ f.driver :: f.waiters, i ∈ s.ids)
    (hrenewals : news.renewals ++ more.renewals =
      s'.flight.toList.map fun _ => s₀.lifecycle.store.current.refresh)
    (hrequests : news.renewalRequests ++ more.renewalRequests = s'.flight.toList.flatMap fun _ =>
      (renewalRequest s₀.settings s₀.lifecycle.store.current.refresh).toOption.toList)
    (hnotices : more.notices = []) (hresults : more.results = []) :
    s₀.Gathers calls (news ++ more) s' := by
  have hid : id ∈ s.ids := by
    rw [hg.ids]
    exact List.mem_map_of_mem hq
  have hids : s'.ids = s.ids := by
    rw [Session.ids, htasks]
    exact (ids_await s id _).trans (if_pos hid)
  constructor
  · exact hsettings.trans hg.settings_eq
  · exact hlifecycle.trans (hg.log_eq more)
  · exact hhanded.trans hg.handed
  · exact hids.trans hg.ids
  · exact hg.proper
  · intro i t ht
    rw [task?, htasks] at ht
    exact forall_task?_await hg.tasks ⟨q, hq, .inr rfl⟩ i t ht
  · rw [hids]
    exact hqueue
  · rw [Journal.renewals_append, hrenewals]
  · rw [Journal.renewalRequests_append, hrequests]
  · rw [Journal.notices_append, hg.notices, hnotices]
    rfl
  · rw [Journal.results_append, hg.results, hresults]
    rfl

/-- An inquiry is refused. -/
theorem refuse (hg : s₀.Gathers calls news s) (hr : s₀.lifecycle.store.current.refresh ≠ "")
    {id : TaskId} {q : Inquiry} (hq : (id, q) ∈ calls) :
    ∃ more, s₀.Gathers calls (news ++ more) (s.renewThen id (.replay q.call)) := by
  have hid : id ∈ s.ids := by
    rw [hg.ids]
    exact List.mem_map_of_mem hq
  have hstore : s.lifecycle.store = s₀.lifecycle.store := by rw [hg.lifecycle]
  have hepoch : s.lifecycle.epoch = s₀.lifecycle.epoch := by rw [hg.lifecycle]
  cases hf : s.flight with
  | some f =>
    -- It comes into the queue.
    rw [renewThen_of_flight hf]
    refine ⟨[.asked id], hg.waits hq rfl rfl rfl rfl ?_ ?_ ?_ rfl rfl⟩
    · rintro _ ⟨⟩
      obtain ⟨hf, hqueue⟩ := hg.queue f hf
      refine ⟨hf, fun i hi => ?_⟩
      rw [← List.cons_append, List.mem_append, List.mem_singleton] at hi
      rcases hi with hi | rfl
      · exact hqueue i hi
      · exact hid
    · rw [hg.renewals, hf]
      rfl
    · rw [hg.requests, hf]
      exact List.append_nil _
  | none =>
    -- It is the first, and starts the renewal.
    have hqueue : ∀ f, (s.launched id (.replay q.call)).flight = some f →
        f.epoch = s₀.lifecycle.epoch ∧ ∀ i ∈ f.driver :: f.waiters, i ∈ s.ids := by
      rintro _ ⟨⟩
      refine ⟨hepoch, fun i hi => ?_⟩
      obtain rfl := List.mem_singleton.1 hi
      exact hid
    have hnone : news.renewals = [] := by
      rw [hg.renewals, hf]
      rfl
    have hnone' : news.renewalRequests = [] := by
      rw [hg.requests, hf]
      rfl
    rw [renewThen_of_idle hf (hstore ▸ hr), hg.settings_eq, hstore]
    have hlog (e : Entry) : (s.log (.asked id)).lifecycle.log e =
        { s.lifecycle with journal := s.lifecycle.journal ++ [.asked id, e] } :=
      congrArg (fun journal => { s.lifecycle with journal }) (List.append_assoc _ [_] [_])
    cases hrequest : renewalRequest s₀.settings s₀.lifecycle.store.current.refresh with
    | error e =>
      refine ⟨[.asked id, .renewing s.lifecycle.store.current.refresh],
        hg.waits hq rfl (hlog _) rfl rfl hqueue ?_ ?_ rfl rfl⟩
      · rw [hnone, hstore]
        rfl
      · rw [hnone', hrequest]
        rfl
    | ok o =>
      refine ⟨[.asked id, .renewing s.lifecycle.store.current.refresh, .sent .renewal o],
        hg.waits hq rfl ?_ rfl rfl hqueue ?_ ?_ rfl rfl⟩
      · refine congrArg (fun journal => { s.lifecycle with journal }) ?_
        simp only [launched, log, update, Lifecycle.log, await, List.append_assoc]
        rfl
      · rw [hnone, hstore]
        rfl
      · rw [hnone', hrequest]
        rfl

end Gathers

/-- An answer refuses an inquiry that waits for it, and changes nothing for others. -/
theorem gathers_answer (hg : s₀.Gathers calls news s) (hr : s₀.lifecycle.store.current.refresh ≠ "")
    (id : TaskId) {x : Exchange} (hx : x.IsUnauthorized) :
    ∃ more, s₀.Gathers calls (news ++ more) (s.answer id x) := by
  by_cases hout : s.outstanding? id = none
  · rw [answer_of_not_outstanding hout]
    exact ⟨[], (List.append_nil news).symm ▸ hg⟩
  · cases ht : s.task? id with
    | none => exact absurd (by rw [outstanding?, ht]) hout
    | some t =>
      rcases hg.tasks id t ht with ⟨q, hq, ⟨o, rfl⟩ | rfl⟩
      · rw [answer_unauthorized (hg.proper _ hq).not_public ht hx]
        exact hg.refuse hr hq
      · -- It was refused already, and waits for the renewal.
        exact absurd (by rw [outstanding?, ht]) hout

theorem gathers_step (hg : s₀.Gathers calls news s) (h : s.InOrder [])
    (hr : s₀.lifecycle.store.current.refresh ≠ "")
    (ha : ∀ t, s₀.access? = some t → Http.Header.isValue (Http.Header.bearer t) = true) {e : Event}
    (he : e.Expires s₀.settings.baseUrl) :
    ∃ more, s₀.Gathers (calls ++ s.inquiry e) (news ++ more) (s.step e) := by
  cases e with
  | start operation =>
    cases operation with
    | send request shape =>
      cases request with
      | ok request => exact hg.start h (q := ⟨request, shape⟩) he ha
      | error e => exact he.elim
    | _ => exact he.elim
  | answer id x =>
    obtain ⟨more, hg'⟩ := gathers_answer hg hr id he
    exact ⟨more, (List.append_nil calls).symm ▸ hg'⟩
  | _ => exact he.elim

theorem gathers_run (hg : s₀.Gathers calls news s) (h : s.InOrder [])
    (hr : s₀.lifecycle.store.current.refresh ≠ "")
    (ha : ∀ t, s₀.access? = some t → Http.Header.isValue (Http.Header.bearer t) = true)
    {events : List Event} (he : ∀ e ∈ events, e.Expires s₀.settings.baseUrl) :
    ∃ more, s₀.Gathers (calls ++ s.inquiries events) (news ++ more) (s.run events) := by
  induction events generalizing s calls news with
  | nil =>
    refine ⟨[], ?_⟩
    rw [inquiries, List.append_nil, List.append_nil]
    exact hg
  | cons e events ih =>
    rw [List.forall_mem_cons] at he
    obtain ⟨more, hg'⟩ := gathers_step hg h hr ha he.1
    obtain ⟨more', hg''⟩ := ih hg' (inOrder_step h e) he.2
    refine ⟨more ++ more', ?_⟩
    rw [inquiries, ← List.append_assoc, ← List.append_assoc]
    exact hg''

omit [Storage σ] in
/-- A session without operations is quiet. -/
theorem gathers_quiet (h : s.InOrder []) (htasks : s.tasks = []) (hhanded : s.handed = []) :
    s.Gathers [] [] s := by
  have hnone (id : TaskId) : s.task? id = none := by rw [task?, htasks]; rfl
  -- A renewal in flight would have its driver under way.
  have hidle : s.flight = none := by
    refine Option.eq_none_iff_forall_ne_some.2 fun f hf => ?_
    obtain ⟨want, ht⟩ := h.driven f.driver (by simp [driver, hf]) List.not_mem_nil
    rw [hnone] at ht
    cases ht
  refine ⟨rfl, ?_, hhanded, ?_, List.forall_mem_nil _, ?_, ?_, ?_, ?_, rfl, rfl⟩
  · rw [List.append_nil]
  · rw [ids, htasks]
    rfl
  · intro id t ht
    rw [hnone] at ht
    cases ht
  · intro f hf
    rw [hidle] at hf
    cases hf
  · rw [hidle]
    rfl
  · rw [hidle]
    rfl

namespace Gathers

omit [Storage σ] in
/-- When nobody waits for an answer any more, everybody waits for a renewal. -/
theorem task?_eq (hg : s₀.Gathers calls news s) (hout : ∀ id, s.outstanding? id = none)
    {id : TaskId} {t : Task} (ht : s.task? id = some t) :
    ∃ q, (id, q) ∈ calls ∧ t = .renewal (.replay q.call) := by
  rcases hg.tasks id t ht with ⟨q, hq, ⟨o, rfl⟩ | rfl⟩
  · have hsome := hout id
    rw [outstanding?, ht] at hsome
    cases hsome
  · exact ⟨q, hq, rfl⟩

omit [Storage σ] in
/-- In the end all inquiries wait for the one renewal. -/
theorem perm (hg : s₀.Gathers calls news s) (h : s.InOrder []) (hcalls : calls ≠ [])
    (hout : ∀ id, s.outstanding? id = none) :
    ∃ f, s.flight = some f ∧ (f.driver :: f.waiters).Perm s.ids := by
  have hwaiting (id : TaskId) (hid : id ∈ s.ids) : id ∈ s.waiting := by
    obtain ⟨t, ht⟩ := Option.isSome_iff_exists.1 ((s.isSome_task?_iff id).2 hid)
    obtain ⟨q, -, rfl⟩ := hg.task?_eq hout ht
    exact (h.stage id _ List.not_mem_nil ht).1
  obtain ⟨c, hc⟩ := List.exists_mem_of_ne_nil calls hcalls
  have hc' : c.1 ∈ s.waiting := hwaiting c.1 (hg.ids ▸ List.mem_map_of_mem hc)
  cases hf : s.flight with
  | none =>
    rw [waiting_of_idle hf, hg.handed] at hc'
    cases hc'
  | some f =>
    have hline : s.waiting = f.driver :: f.waiters := by
      rw [waiting_of_flight hf, hg.handed]
      rfl
    have hnodup : (f.driver :: f.waiters).Nodup :=
      hline ▸ h.nodup_line.sublist (List.sublist_append_right _ _)
    -- Nobody stands twice on either side, so it is enough that the same stand there.
    refine ⟨f, rfl, (List.perm_ext_iff_of_nodup hnodup h.nodup_ids).2 fun id => ?_⟩
    exact ⟨(hg.queue f hf).2 id, fun hid => hline ▸ hwaiting id hid⟩

end Gathers

end Session

end ShopClient
