import ShopClient.Proofs.Expiry.Inquiry

/-!
# Inquiries disperse

A renewal is over, and all who waited for it were handed what it came to. They pick it up one by one.
With a new access token each sends its request again, answers come back in between, and what comes back
is the outcome; without one each of them ends.

* `coasts_run`: nobody asks for a renewal again;
* `Disperses`: what the session is like in the meantime;
* `Replays`, `replays_run`: with a new token every inquiry is sent again, once, with that token, and
  comes to what was answered then;
* `Lapses`, `lapses_run`: without one nothing is sent, and every inquiry ends with the session;
* `Replays.drained`, `Lapses.drained`: what that comes to in the end.
-/

namespace ShopClient

/-- Outcomes are picked up, and requests are answered. -/
def Event.Drains : Event → Prop
  | .resume | .answer .. => True
  | _ => False

namespace Session

variable {σ : Type}

/-- What `e` answers: the operation and its request, with the answer. -/
def answered (s : Session σ) : Event → List (TaskId × Outgoing × Exchange)
  | .answer id x => (s.outstanding? id).toList.map fun o => (id, o, x)
  | _ => []

/-- The requests that are answered in the course of events, with the answers. -/
def answers [Storage σ] : List Event → Session σ → List (TaskId × Outgoing × Exchange)
  | [], _ => []
  | e :: events, s => s.answered e ++ answers events (s.step e)

/-- No renewal is in flight, and all that was handed over is `granted`, for those of the inquiries
    `calls` that still wait for it. -/
structure Disperses (calls : List (TaskId × Inquiry)) (granted : Granted) (s : Session σ) :
    Prop where
  idle : s.flight = none
  handed : ∀ h ∈ s.handed, h.2 = granted ∧
    ∃ q, (h.1, q) ∈ calls ∧ s.task? h.1 = some (.renewal (.replay q.call))

variable {s s' : Session σ} {calls : List (TaskId × Inquiry)} {granted : Granted} {id : TaskId}
  {rest : List (TaskId × Granted)}

namespace Disperses

theorem mono (hd : s.Disperses calls granted) (hflight : s'.flight = s.flight)
    (hhanded : ∀ h ∈ s'.handed, h ∈ s.handed ∧ s'.task? h.1 = s.task? h.1) :
    s'.Disperses calls granted := by
  refine ⟨hflight.trans hd.idle, fun h hh => ?_⟩
  obtain ⟨hmem, htask⟩ := hhanded h hh
  obtain ⟨hgranted, q, hq, ht⟩ := hd.handed h hmem
  exact ⟨hgranted, q, hq, htask.trans ht⟩

/-- The next operation picked up what it was handed. -/
theorem next (hd : s.Disperses calls granted) (h : s.InOrder [])
    (hh : s.handed = (id, granted) :: rest) (hflight : s'.flight = s.flight)
    (hhanded : s'.handed = rest) (htask : ∀ i, i ≠ id → s'.task? i = s.task? i) :
    s'.Disperses calls granted := by
  have hnodup : (s.handed.map (·.1)).Nodup := by
    have hline := h.nodup_line.sublist (List.sublist_append_right _ _)
    rwa [waiting_of_idle hd.idle] at hline
  rw [hh, List.map_cons, List.nodup_cons] at hnodup
  refine hd.mono hflight fun e he => ?_
  rw [hhanded] at he
  refine ⟨hh ▸ List.mem_cons_of_mem _ he, htask _ fun heq => hnodup.1 ?_⟩
  exact heq ▸ List.mem_map_of_mem (f := (·.1)) he

/-- An operation went on that was told already. -/
theorem past (hd : s.Disperses calls granted) (hid : ∀ want, s.task? id ≠ some (.renewal want))
    (hflight : s'.flight = s.flight) (hhanded : s'.handed = s.handed)
    (htask : ∀ i, i ≠ id → s'.task? i = s.task? i) : s'.Disperses calls granted := by
  refine hd.mono hflight fun e he => ?_
  rw [hhanded] at he
  refine ⟨he, htask _ fun heq => ?_⟩
  obtain ⟨-, q, -, ht⟩ := hd.handed e he
  exact hid _ (heq ▸ ht)

end Disperses

/-! ### No other renewal -/

/-- No operation is under way that waits for the answer to its first request. -/
def HasNoFirst (s : Session σ) : Prop := ∀ i call o, s.task? i ≠ some (.first call o)

/-- What is so from `s` to `s'` when no renewal is started in between, and none ends. -/
structure Coasts (s s' : Session σ) : Prop where
  flight : s'.flight = s.flight
  renewals : s'.lifecycle.journal.renewals = s.lifecycle.journal.renewals
  requests : s'.lifecycle.journal.renewalRequests = s.lifecycle.journal.renewalRequests
  hasNoFirst : s'.HasNoFirst

theorem coasts_advance [Storage σ] (hs : s.HasNoFirst) (ha : Advances id true s s') :
    s.Coasts s' :=
  ⟨ha.sameRenewals.flight, ha.sameRenewals.renewals, ha.sameRenewals.requests, ha.not_first hs⟩

/-- Who was answered or told does not ask for a renewal again. -/
theorem coasts_step [Storage σ] (h : s.InOrder []) (hs : s.HasNoFirst) {e : Event}
    (he : e.Drains) : s.Coasts (s.step e) := by
  have hrefl : s.Coasts s := ⟨rfl, rfl, rfl, hs⟩
  cases e with
  | resume =>
    simp only [step, resume]
    split
    · exact hrefl
    · rename_i id granted rest hh
      by_cases ht : ∃ want, s.task? id = some (.renewal want)
      · obtain ⟨want, ht⟩ := ht
        have hw := (h.stage _ _ List.not_mem_nil ht).2
        rw [goOn_of_task (s := { s with handed := rest }) ht]
        have hc := coasts_advance (s := { s with handed := rest }.log (.granted id granted)) hs
          (advances_grant hw granted _)
        refine ⟨hc.flight, ?_, ?_, hc.hasNoFirst⟩
        · exact hc.renewals.trans (Journal.view_append_of_nil rfl)
        · exact hc.requests.trans (Journal.view_append_of_nil rfl)
      · rw [not_exists] at ht
        rw [goOn_of_dropped (s := { s with handed := rest }) ht]
        exact ⟨rfl, rfl, rfl, hs⟩
  | answer id x =>
    simp only [step, answer]
    split
    · rename_i ht
      exact absurd ht (hs id _ _)
    · -- A second request was answered, after which nobody asks.
      rename_i ht
      have hsound := (h.stage _ _ List.not_mem_nil ht).2
      exact coasts_advance hs (proceeds_receive hsound _ s).advances_of_again
    · exact hrefl
  | _ => exact he.elim

theorem coasts_run [Storage σ] (h : s.InOrder []) (hs : s.HasNoFirst) {events : List Event}
    (he : ∀ e ∈ events, e.Drains) : s.Coasts (s.run events) := by
  induction events generalizing s with
  | nil => exact ⟨rfl, rfl, rfl, hs⟩
  | cons e events ih =>
    rw [List.forall_mem_cons] at he
    have hc := coasts_step h hs he.1
    obtain ⟨hflight, hrenewals, hrequests, hs'⟩ := ih (inOrder_step h e) hc.hasNoFirst he.2
    exact ⟨hflight.trans hc.flight, hrenewals.trans hc.renewals, hrequests.trans hc.requests, hs'⟩

/-! ### With a new token -/

/-- A request of one of the inquiries, sent with the token. -/
def IsReplay (settings : Settings) (calls : List (TaskId × Inquiry)) (token : String)
    (r : Sender × Outgoing) : Prop :=
  ∃ id q n, (id, q) ∈ calls ∧ r.1 = .task id ∧
    Outgoing.ofRequest settings.baseUrl (some token) n q.request = .ok r.2

/-- The result of an inquiry is what the answer to its request comes to, which is one of `requests`. -/
def IsDictated (settings : Settings) (calls : List (TaskId × Inquiry))
    (requests : List (Sender × Outgoing)) (r : TaskId × Except SessionError Outcome)
    (a : TaskId × Outgoing × Exchange) : Prop :=
  r.1 = a.1 ∧ (.task a.1, a.2.1) ∈ requests ∧ ∃ q, (a.1, q) ∈ calls ∧
    r.2 = q.outcome (a.2.2.received a.2.1 settings.requestTimeout)

/-- The inquiries `calls` go on with the new token. Each was sent again with it, or has yet to pick it
    up; each has ended as its answer dictates, or is still under way. Unless an answer refuses the new
    token too, it stays. -/
structure Replays (settings : Settings) (calls : List (TaskId × Inquiry)) (token : String)
    (l : Lifecycle σ) (answers : List (TaskId × Outgoing × Exchange)) (news : Journal)
    (s : Session σ) : Prop extends s.Disperses calls (.ok token) where
  settings_eq : s.settings = settings
  journal : s.lifecycle.journal = l.journal ++ news
  tasks : ∀ id t, s.task? id = some t → ∃ q, (id, q) ∈ calls ∧
    (t = .renewal (.replay q.call) ∨
      ∃ o, t = .replayed q.call o ∧ (.task id, o) ∈ news.requests)
  requests : (news.requests.map (·.1) ++ (s.handed.map (·.1)).map Sender.task).Perm
    ((calls.map (·.1)).map Sender.task)
  replays : ∀ r ∈ news.requests, IsReplay settings calls token r
  results : (news.results.map (·.1) ++ s.ids).Perm (calls.map (·.1))
  dictated : List.Forall₂ (IsDictated settings calls news.requests) news.results answers
  kept : (∀ a ∈ answers, ¬a.2.2.IsUnauthorized) → l.KeepsTokens s.lifecycle

variable [Storage σ] {settings : Settings} {token : String}
  {l : Lifecycle σ} {answers : List (TaskId × Outgoing × Exchange)} {news : Journal}

omit [Storage σ] in
theorem IsDictated.mono {requests : List (Sender × Outgoing)} (more : List (Sender × Outgoing))
    {r : TaskId × Except SessionError Outcome} {a : TaskId × Outgoing × Exchange}
    (h : IsDictated settings calls requests r a) :
    IsDictated settings calls (requests ++ more) r a :=
  ⟨h.1, List.mem_append_left _ h.2.1, h.2.2⟩

/-- The next operation picks up what it was handed, and goes on with it. -/
theorem Disperses.resume_eq (hd : s.Disperses calls granted) {g : Granted}
    (hh : s.handed = (id, g) :: rest) : ∃ q, (id, q) ∈ calls ∧
      s.task? id = some (.renewal (.replay q.call)) ∧ g = granted ∧
      s.resume = ({ s with handed := rest } : Session σ).grant id (.replay q.call) granted := by
  obtain ⟨hg, q, hq, ht⟩ := hd.handed (id, g) (hh ▸ List.mem_cons_self)
  obtain rfl : g = granted := hg
  refine ⟨q, hq, ht, rfl, ?_⟩
  simp only [resume, hh]
  exact goOn_of_task (s := { s with handed := rest }) ht

/-- An inquiry is sent again. -/
theorem replays_resume (hr : s.Replays settings calls token l answers news) (h : s.InOrder [])
    (hcalls : ∀ c ∈ calls, c.2.request.IsSendable settings.baseUrl)
    (hv : Http.Header.isValue (Http.Header.bearer token) = true) :
    ∃ more, s.resume.Replays settings calls token l answers (news ++ more) := by
  cases hh : s.handed with
  | nil =>
    have heq : s.resume = s := by simp only [resume, hh]
    refine ⟨[], ?_⟩
    rw [heq, List.append_nil]
    exact hr
  | cons e rest =>
    obtain ⟨id, g⟩ := e
    obtain ⟨q, hq, ht, rfl, heq⟩ := hr.resume_eq hh
    have hsend : q.request.IsSendable s.settings.baseUrl := by
      rw [hr.settings_eq]
      exact hcalls (id, q) hq
    obtain ⟨o, ho, hgrant⟩ := @grant_token _ _ { s with handed := rest } id _ hsend _ hv
    rw [hgrant] at heq
    replace ho : Outgoing.ofRequest settings.baseUrl (some token) s.dispatched q.request = .ok o := by
      rw [← hr.settings_eq]
      exact ho
    have hid : id ∈ s.ids := mem_ids_of_task? ht
    -- Nothing that concerns others changes but what the journal shows.
    have htask (i : TaskId) (hi : i ≠ id) : s.resume.task? i = s.task? i := by
      rw [heq]
      exact (task?_await _ id i _).trans (if_neg hi)
    have hids : s.resume.ids = s.ids := by
      rw [heq]
      exact (ids_await _ id _).trans (if_pos hid)
    have hhanded : s.resume.handed = rest := by
      rw [heq]
      rfl
    let more : Journal := [.granted id (.ok token), .counted .replay, .sent (.task id) o]
    have hrequests : Journal.requests (news ++ more) = news.requests ++ [(.task id, o)] :=
      Journal.requests_append _ _
    have hresults : Journal.results (news ++ more) = news.results :=
      Journal.view_append_of_nil rfl
    refine ⟨more, hr.next h hh ?_ hhanded htask, ?_, ?_, ?_, ?_, ?_, ?_, ?_, ?_⟩
    · rw [heq]
      rfl
    · rw [heq]
      exact hr.settings_eq
    · rw [heq, ← List.append_assoc, ← hr.journal]
      simp [more, Session.log, Session.count, Session.update, Lifecycle.log, Lifecycle.count, await]
    · rw [heq, hrequests]
      refine forall_task?_await (fun i t ht => ?_) ?_
      · rcases hr.tasks i t ht with ⟨q, hq, hq' | ⟨o', hq', ho'⟩⟩
        · exact ⟨q, hq, .inl hq'⟩
        · exact ⟨q, hq, .inr ⟨o', hq', List.mem_append_left _ ho'⟩⟩
      · exact ⟨q, hq, .inr ⟨o, rfl, List.mem_append_right _ (List.mem_singleton_self _)⟩⟩
    · -- The request takes the place of what was handed over.
      have hperm := hr.requests
      rw [hh] at hperm
      rw [hrequests, hhanded, List.map_append, List.append_assoc]
      exact hperm
    · rw [hrequests, List.forall_mem_append, List.forall_mem_singleton]
      exact ⟨hr.replays, id, q, s.dispatched, hq, rfl, ho⟩
    · rw [hresults, hids]
      exact hr.results
    · rw [hrequests, hresults]
      exact hr.dictated.imp fun _ _ hd => hd.mono _
    · intro ha
      rw [heq]
      have hlog := (hr.kept ha).log (e := .granted id (.ok token)) (List.forall_mem_nil _)
      have hcount := hlog.log (e := .counted .replay) (List.forall_mem_nil _)
      exact hcount.log (e := .sent (.task id) o) (List.forall_mem_nil _)

omit [Storage σ] in
theorem answered_of_not_outstanding (h : s.outstanding? id = none) (x : Exchange) :
    s.answered (.answer id x) = [] := by
  rw [answered, h]
  rfl

/-- An inquiry that was sent again is answered. -/
theorem replays_answer (hr : s.Replays settings calls token l answers news) (h : s.InOrder [])
    (id : TaskId) (x : Exchange) : ∃ more, (s.answer id x).Replays settings calls token l
      (answers ++ s.answered (.answer id x)) (news ++ more) := by
  by_cases hout : s.outstanding? id = none
  · rw [answer_of_not_outstanding hout, answered_of_not_outstanding hout, List.append_nil]
    exact ⟨[], (List.append_nil news).symm ▸ hr⟩
  · -- It waits for the answer to the request that was sent again.
    obtain ⟨q, o, hq, ht, ho⟩ : ∃ q : Inquiry, ∃ o, (id, q) ∈ calls ∧
        s.task? id = some (.replayed q.call o) ∧ (.task id, o) ∈ news.requests := by
      cases ht : s.task? id with
      | none => exact absurd (by rw [outstanding?, ht]) hout
      | some t =>
        rcases hr.tasks id t ht with ⟨q, hq, rfl | ⟨o, rfl, ho⟩⟩
        · exact absurd (by rw [outstanding?, ht]) hout
        · exact ⟨q, o, hq, rfl, ho⟩
    have hanswered : s.answered (.answer id x) = [(id, o, x)] := by
      rw [answered, outstanding?, ht]
      rfl
    obtain ⟨l', hb, hk, heq⟩ :=
      @receive_inquiry _ _ s id q (x.received o s.settings.requestTimeout)
    rw [← answer_replayed ht] at heq
    obtain ⟨remarks, hjournal, hremarks⟩ := hb.journal
    let result := q.outcome (x.received o s.settings.requestTimeout)
    let more : Journal := remarks ++ [.finished id result]
    have hid : id ∈ s.ids := mem_ids_of_task? ht
    have htask (i : TaskId) : (s.answer id x).task? i = if i = id then none else s.task? i := by
      rw [heq]
      exact task?_dismiss s id i
    have hrequests : Journal.requests (news ++ more) = news.requests := by
      rw [Journal.requests_append, Journal.requests_append, Journal.requests_of_remarks hremarks]
      exact List.append_nil _
    have hresults : Journal.results (news ++ more) = news.results ++ [(id, result)] := by
      rw [Journal.results_append, Journal.results_append, Journal.results_of_remarks hremarks]
      rfl
    have hpast : (s.answer id x).Disperses calls (.ok token) := by
      refine hr.past (fun want hwant => ?_) ?_ ?_ fun i (hi : i ≠ id) => ?_
      · rw [ht] at hwant
        cases hwant
      · rw [heq]
        rfl
      · rw [heq]
        rfl
      · rw [htask, if_neg hi]
    rw [hanswered]
    refine ⟨more, hpast, ?_, ?_, ?_, ?_, ?_, ?_, ?_, ?_⟩
    · rw [heq]
      exact hr.settings_eq
    · rw [heq, ← List.append_assoc, ← hr.journal, ← List.append_assoc, ← hjournal]
      rfl
    · intro i t ht'
      rw [htask] at ht'
      split at ht'
      · cases ht'
      · rw [hrequests]
        exact hr.tasks i t ht'
    · rw [hrequests, heq]
      exact hr.requests
    · rw [hrequests]
      exact hr.replays
    · have hids : (s.answer id x).ids = (s.dismiss id).ids := by
        rw [heq]
        rfl
      rw [hresults, hids, List.map_append, List.append_assoc]
      exact ((perm_ids_dismiss h.nodup_ids hid).append_left _).trans hr.results
    · rw [hrequests, hresults]
      refine List.rel_append hr.dictated (.cons ⟨rfl, ho, q, hq, ?_⟩ .nil)
      exact congrArg (fun settings : Settings => q.outcome (x.received o settings.requestTimeout))
        hr.settings_eq
    · -- An answer that does not refuse the token leaves the tokens alone.
      intro ha
      rw [List.forall_mem_append, List.forall_mem_singleton] at ha
      rw [heq]
      refine ((hr.kept ha.1).trans (hk fun body hbody => ?_)).log (List.forall_mem_nil _)
      exact ha.2 (Exchange.isUnauthorized_of_received hbody)

theorem replays_run (hr : s.Replays settings calls token l answers news) (h : s.InOrder [])
    (hcalls : ∀ c ∈ calls, c.2.request.IsSendable settings.baseUrl)
    (hv : Http.Header.isValue (Http.Header.bearer token) = true) {events : List Event}
    (he : ∀ e ∈ events, e.Drains) :
    ∃ more, (s.run events).Replays settings calls token l (answers ++ s.answers events)
      (news ++ more) := by
  induction events generalizing s answers news with
  | nil =>
    refine ⟨[], ?_⟩
    rw [Session.answers, List.append_nil, List.append_nil]
    exact hr
  | cons e events ih =>
    rw [List.forall_mem_cons] at he
    have hstep : ∃ more, (s.step e).Replays settings calls token l (answers ++ s.answered e)
        (news ++ more) := by
      cases e with
      | resume =>
        rw [show s.answered .resume = [] from rfl, List.append_nil]
        exact replays_resume hr h hcalls hv
      | answer id x => exact replays_answer hr h id x
      | _ => exact he.1.elim
    obtain ⟨more, hr'⟩ := hstep
    obtain ⟨more', hr''⟩ := ih hr' (inOrder_step h e) he.2
    refine ⟨more ++ more', ?_⟩
    rw [Session.answers, ← List.append_assoc, ← List.append_assoc]
    exact hr''

omit [Storage σ] in
/-- When nobody is under way any more, all were sent again, and all have ended. -/
theorem Replays.drained (hr : s.Replays settings calls token l answers news) (htasks : s.tasks = [])
    (hhanded : s.handed = []) :
    (news.requests.map (·.1)).Perm ((calls.map (·.1)).map Sender.task) ∧
      (news.results.map (·.1)).Perm (calls.map (·.1)) := by
  have hids : s.ids = [] := List.map_eq_nil_iff.2 htasks
  have hrequests := hr.requests
  have hresults := hr.results
  rw [hhanded, List.map_nil, List.map_nil, List.append_nil] at hrequests
  rw [hids, List.append_nil] at hresults
  exact ⟨hrequests, hresults⟩

/-! ### Without a new token -/

/-- The inquiries `calls` end with the session, and change nothing. -/
structure Lapses (calls : List (TaskId × Inquiry)) (l : Lifecycle σ) (news : Journal)
    (s : Session σ) : Prop extends s.Disperses calls (.error .sessionExpired) where
  lifecycle : s.lifecycle = { l with journal := l.journal ++ news }
  tasks : ∀ id t, s.task? id = some t → ∃ q, (id, q) ∈ calls ∧ t = .renewal (.replay q.call)
  requests : news.requests = []
  notices : news.notices = []
  results : (news.results.map (·.1) ++ s.ids).Perm (calls.map (·.1))
  expired : ∀ r ∈ news.results, r.2 = .error .sessionExpired

/-- An inquiry ends. -/
theorem lapses_resume (he : s.Lapses calls l news) (h : s.InOrder []) :
    ∃ more, s.resume.Lapses calls l (news ++ more) := by
  cases hh : s.handed with
  | nil =>
    have heq : s.resume = s := by simp only [resume, hh]
    refine ⟨[], ?_⟩
    rw [heq, List.append_nil]
    exact he
  | cons e rest =>
    obtain ⟨id, g⟩ := e
    obtain ⟨q, -, ht, rfl, heq⟩ := he.resume_eq hh
    rw [grant_expired] at heq
    have htask (i : TaskId) : s.resume.task? i = if i = id then none else s.task? i := by
      rw [heq]
      exact task?_dismiss s id i
    let more : Journal := [.granted id (.error .sessionExpired),
      .counted (.request .sessionExpired), .finished id (.error .sessionExpired)]
    have hresults : Journal.results (news ++ more) =
        news.results ++ [(id, .error .sessionExpired)] := Journal.results_append _ _
    refine ⟨more, he.next h hh ?_ ?_ fun i hi => ?_, ?_, ?_, ?_, ?_, ?_, ?_⟩
    · rw [heq]
      rfl
    · rw [heq]
      rfl
    · rw [htask, if_neg hi]
    · have hlog : s.resume.lifecycle = ((s.lifecycle.log (.granted id (.error .sessionExpired))).count
          (.request .sessionExpired)).log (.finished id (.error .sessionExpired)) := by
        rw [heq]
        rfl
      rw [hlog, he.lifecycle]
      simp only [Lifecycle.log, Lifecycle.count, List.append_assoc]
      rfl
    · intro i t ht'
      rw [htask] at ht'
      split at ht'
      · cases ht'
      · exact he.tasks i t ht'
    · rw [Journal.requests_append, he.requests]
      rfl
    · rw [Journal.notices_append, he.notices]
      rfl
    · have hids : s.resume.ids = (s.dismiss id).ids := by
        rw [heq]
        rfl
      rw [hresults, hids, List.map_append, List.append_assoc]
      exact ((perm_ids_dismiss h.nodup_ids (mem_ids_of_task? ht)).append_left _).trans he.results
    · rw [hresults, List.forall_mem_append, List.forall_mem_singleton]
      exact ⟨he.expired, rfl⟩

omit [Storage σ] in
/-- When nobody is under way any more, all have ended. -/
theorem Lapses.drained (hl : s.Lapses calls l news) (htasks : s.tasks = []) :
    (news.results.map (·.1)).Perm (calls.map (·.1)) := by
  have hids : s.ids = [] := List.map_eq_nil_iff.2 htasks
  have hresults := hl.results
  rwa [hids, List.append_nil] at hresults

theorem lapses_run (hs : s.Lapses calls l news) (h : s.InOrder []) {events : List Event}
    (he : ∀ e ∈ events, e.Drains) : ∃ more, (s.run events).Lapses calls l (news ++ more) := by
  induction events generalizing s news with
  | nil =>
    refine ⟨[], ?_⟩
    rw [List.append_nil]
    exact hs
  | cons e events ih =>
    rw [List.forall_mem_cons] at he
    have hstep : ∃ more, (s.step e).Lapses calls l (news ++ more) := by
      cases e with
      | resume => exact lapses_resume hs h
      | answer id x =>
        -- No request was sent that could be answered.
        have hout : s.outstanding? id = none := by
          unfold outstanding?
          split
          · rename_i ht
            obtain ⟨q, -, ht'⟩ := hs.tasks _ _ ht
            cases ht'
          · rename_i ht
            obtain ⟨q, -, ht'⟩ := hs.tasks _ _ ht
            cases ht'
          · rfl
        refine ⟨[], ?_⟩
        rw [show s.step (.answer id x) = s from answer_of_not_outstanding hout x, List.append_nil]
        exact hs
      | _ => exact he.1.elim
    obtain ⟨more, hs'⟩ := hstep
    obtain ⟨more', hs''⟩ := ih hs' (inOrder_step h e) he.2
    refine ⟨more ++ more', ?_⟩
    rw [← List.append_assoc]
    exact hs''

end Session

end ShopClient
