import ShopClient.Proofs.Expiry.Dispersal
import ShopClient.Proofs.Expiry.Gathering
import ShopClient.Proofs.Renewal.Landing

/-!
# The expiry of an access token

The whole course of an expiry. Inquiries gather while the token is refused, one renewal is carried out
for all of them, and they disperse with what it came to.

* `replays_landed`, `lapses_landed`: when the renewal lands, those who gathered start to disperse;
* `expiry_shared`: the whole course, in any order and for any number of inquiries.
-/

namespace ShopClient.Session

variable {σ : Type} [Storage σ] {s₀ s : Session σ} {calls : List (TaskId × Inquiry)}
  {news : Journal} {f : Flight}

/-! ### From one renewal on -/

/-- Those who gathered are handed what the renewal came to. -/
theorem disperses_landed (hg : s₀.Gathers calls news s) (hout : ∀ id, s.outstanding? id = none)
    (hperm : (f.driver :: f.waiters).Perm s.ids) (result : Except RenewalError Renewed) :
    (s.landed f result).Disperses calls (s.verdict f result) := by
  refine ⟨flight_landed f result s, ?_⟩
  rw [handed_landed hg.handed, List.forall_mem_map]
  intro id hid
  obtain ⟨t, ht⟩ := Option.isSome_iff_exists.1 ((s.isSome_task?_iff id).2 (hperm.mem_iff.1 hid))
  obtain ⟨q, hq, rfl⟩ := hg.task?_eq hout ht
  refine ⟨rfl, q, hq, ?_⟩
  rw [task?, tasks_landed]
  exact ht

/-- The renewal brought a new token. -/
theorem replays_landed (hg : s₀.Gathers calls news s) (hout : ∀ id, s.outstanding? id = none)
    (hf : s.flight = some f) (hperm : (f.driver :: f.waiters).Perm s.ids) (renewed : Renewed) :
    (s.landed f (.ok renewed)).Replays s₀.settings calls renewed.access
      (s.lifecycle.storeCredentials renewed.access renewed.refresh) []
      [.counted (.renewal .ok)] := by
  have hepoch : s.lifecycle.epoch = f.epoch := by
    rw [(hg.queue f hf).1, hg.lifecycle]
  obtain ⟨hverdict, hlifecycle⟩ := settled_stored hepoch renewed
  have hd := disperses_landed hg hout hperm (.ok renewed)
  rw [hverdict] at hd
  refine ⟨hd, ?_, congrArg Lifecycle.journal hlifecycle, ?_, ?_, List.forall_mem_nil _, ?_, .nil,
    fun _ => ?_⟩
  · rw [settings_landed]
    exact hg.settings_eq
  · intro id t ht
    rw [task?, tasks_landed] at ht
    obtain ⟨q, hq, rfl⟩ := hg.task?_eq hout ht
    exact ⟨q, hq, .inl rfl⟩
  · rw [handed_landed hg.handed, map_fst_map, ← hg.ids]
    exact hperm.map _
  · rw [ids, tasks_landed]
    exact .of_eq hg.ids
  · rw [show (s.landed f (.ok renewed)).lifecycle = _ from hlifecycle]
    exact .log (.refl _) (List.forall_mem_nil _)

/-- The renewal failed. -/
theorem lapses_landed (hg : s₀.Gathers calls news s) (hout : ∀ id, s.outstanding? id = none)
    (hperm : (f.driver :: f.waiters).Perm s.ids) (e : RenewalError) :
    (s.landed f (.error e)).Lapses calls s.lifecycle.expire [.counted (.renewal .failed)] := by
  refine ⟨disperses_landed hg hout hperm (.error e), rfl, ?_, rfl, rfl, ?_,
    List.forall_mem_nil _⟩
  · intro id t ht
    rw [task?, tasks_landed] at ht
    exact hg.task?_eq hout ht
  · rw [ids, tasks_landed]
    exact .of_eq hg.ids

/-! ### The whole course -/

omit [Storage σ] in
/-- What the gathering entered in the views of the journal. -/
theorem Gathers.journal (hg : s₀.Gathers calls news s) :
    s.lifecycle.journal = s₀.lifecycle.journal ++ news := by
  rw [hg.lifecycle]

/-- However many inquiries are refused with an expired token, and in whatever order, one renewal is
    carried out for them, with the refresh token and without the access token.

    * With a new access token that fits in a header field, every inquiry is sent again, once and with
      that token. Its result is what the answer to this second request comes to. Unless one of these
      answers refuses the new token as well, the session holds it, and the front end was told of errors
      alone.
    * If the renewal fails, nothing is sent again, every inquiry ends with the session, the tokens and the
      profile are gone, and the front end was told so once.

    The quiet session `s₀`, whose tokens can be sent, becomes `s₁` while the inquiries are started and
    refused, and ends up as `s₃` when what the renewal brought with `last` was picked up by all of them
    and no answer is missing. Nobody is under way then. -/
theorem expiry_shared (settings : Settings) (store : CredentialStore σ)
    (before first after : List Event) (last : Event) (result : Except RenewalError Renewed)
    (s₀ s₁ s₃ : Session σ) (h₀ : s₀ = (ofStore settings store).run before)
    (htasks : s₀.tasks = []) (hhanded : s₀.handed = [])
    (hrefresh : s₀.lifecycle.store.current.refresh ≠ "")
    (haccess : ∀ t, s₀.access? = some t → Http.Header.isValue (Http.Header.bearer t) = true)
    (hfirst : ∀ e ∈ first, e.Expires s₀.settings.baseUrl) (hcalls : s₀.inquiries first ≠ [])
    (h₁ : s₁ = s₀.run first) (hrefused : ∀ id, s₁.outstanding? id = none)
    (hlast : last.renewal? s₁ = some result) (hafter : ∀ e ∈ after, e.Drains)
    (h₃ : s₃ = (s₁.step last).run after) (hpicked : s₃.handed = [])
    (hanswered : ∀ id, s₃.outstanding? id = none) :
    let calls := s₀.inquiries first
    let answers := (s₁.step last).answers after
    let refresh := s₀.lifecycle.store.current.refresh
    s₃.tasks = [] ∧ (calls.map (·.1)).Nodup ∧
    s₃.lifecycle.journal.renewals = s₀.lifecycle.journal.renewals ++ [refresh] ∧
    s₃.lifecycle.journal.renewalRequests = s₀.lifecycle.journal.renewalRequests ++
      (renewalRequest s₀.settings refresh).toOption.toList ∧
    (∀ o, renewalRequest s₀.settings refresh = .ok o →
      o.body = some (Json.Value.object [("refresh_token", .string refresh)]).print ∧
      ∀ token, Keyed.get? Outgoing.authorization o.headers ≠ some (Http.Header.bearer token)) ∧
    (∀ renewed, result = .ok renewed →
      Http.Header.isValue (Http.Header.bearer renewed.access) = true →
      ∃ replays results,
        s₃.lifecycle.journal.requests = s₁.lifecycle.journal.requests ++ replays ∧
        s₃.lifecycle.journal.results = s₀.lifecycle.journal.results ++ results ∧
        (replays.map (·.1)).Perm ((calls.map (·.1)).map Sender.task) ∧
        (∀ r ∈ replays, IsReplay s₀.settings calls renewed.access r ∧
          Keyed.get? Outgoing.authorization r.2.headers =
            some (Http.Header.bearer renewed.access)) ∧
        (results.map (·.1)).Perm (calls.map (·.1)) ∧
        List.Forall₂ (IsDictated s₀.settings calls replays) results answers ∧
        ((∀ a ∈ answers, ¬a.2.2.IsUnauthorized) →
          s₃.lifecycle.store.current.access = renewed.access ∧
          ∃ errors, s₃.lifecycle.journal.notices = s₀.lifecycle.journal.notices ++ errors ∧
            ∀ n ∈ errors, ∃ message, n = .error message)) ∧
    (∀ e, result = .error e →
      s₃.lifecycle.journal.requests = s₁.lifecycle.journal.requests ∧
      (∃ results, s₃.lifecycle.journal.results = s₀.lifecycle.journal.results ++ results ∧
        (results.map (·.1)).Perm (calls.map (·.1)) ∧
        ∀ r ∈ results, r.2 = .error .sessionExpired) ∧
      s₃.lifecycle.store.current = {} ∧ s₃.lifecycle.profile = none ∧
      s₃.lifecycle.journal.notices =
        s₀.lifecycle.journal.notices ++ [.loggedOut, .loginRequired]) := by
  intro calls answers refresh
  have hin₀ : s₀.InOrder [] := h₀ ▸ inOrder_run (inOrder_ofStore settings store) before
  have hin₁ : s₁.InOrder [] := h₁ ▸ inOrder_run hin₀ first
  -- They gather behind one renewal.
  obtain ⟨news, hg⟩ : ∃ news, s₀.Gathers calls news s₁ := by
    obtain ⟨news, hg⟩ := gathers_run (gathers_quiet hin₀ htasks hhanded) hin₀ hrefresh haccess hfirst
    exact ⟨news, h₁ ▸ hg⟩
  obtain ⟨f, hf, hperm⟩ := hg.perm hin₁ hcalls hrefused
  -- Its end is the first step after it has landed.
  have hland : s₁.step last = (s₁.landed f result).resume :=
    (step_of_renewal? hlast).trans (resume_landed hf result).symm
  have hin : (s₁.landed f result).InOrder [] := hin₁.landed hf result
  have hdrains : ∀ e ∈ Event.resume :: after, e.Drains := List.forall_mem_cons.2 ⟨trivial, hafter⟩
  have hrun : s₃ = (s₁.landed f result).run (.resume :: after) := by
    rw [h₃, hland]
    rfl
  have hanswers : answers = (s₁.landed f result).answers (.resume :: after) :=
    congrArg (Session.answers after) hland
  have hfresh : (s₁.landed f result).HasNoFirst := by
    intro i call o ht
    rw [task?, tasks_landed] at ht
    obtain ⟨q, -, hq⟩ := hg.task?_eq hrefused ht
    cases hq
  have hcoasts := coasts_run hin hfresh hdrains
  rw [← hrun] at hcoasts
  have hidle : s₃.flight = none := hcoasts.flight.trans (flight_landed f result s₁)
  have hresults : s₁.lifecycle.journal.results = s₀.lifecycle.journal.results := by
    rw [hg.journal, Journal.results_append, hg.results, List.append_nil]
  have hnotices : s₁.lifecycle.journal.notices = s₀.lifecycle.journal.notices := by
    rw [hg.journal, Journal.notices_append, hg.notices, List.append_nil]
  have hin₃ : s₃.InOrder [] := hrun ▸ inOrder_run hin _
  have hdone : s₃.tasks = [] := hin₃.tasks_eq_nil hidle hpicked hanswered
  refine ⟨hdone, hg.ids ▸ hin₁.nodup_ids, ?_, ?_, fun o ho => renewalRequest_spec ho, ?_, ?_⟩
  · rw [hcoasts.renewals, renewals_landed, hg.journal, Journal.renewals_append, hg.renewals, hf]
    rfl
  · rw [hcoasts.requests, renewalRequests_landed, hg.journal, Journal.renewalRequests_append,
      hg.requests, hf]
    exact congrArg _ (List.append_nil _)
  · rintro renewed rfl hv
    obtain ⟨more, hr⟩ := replays_run (replays_landed hg hrefused hf hperm renewed) hin
      (fun c hc => (hg.proper c hc).sendable) hv hdrains
    rw [← hrun, ← hanswers, List.nil_append] at hr
    have hjournal : s₃.lifecycle.journal =
        s₁.lifecycle.journal ++ ([.counted (.renewal .ok)] ++ more) := hr.journal
    obtain ⟨hsent, hended⟩ := hr.drained hdone hpicked
    refine ⟨_, _, ?_, ?_, hsent, fun r hr' => ?_, hended, hr.dictated, fun ha => ?_⟩
    · rw [hjournal, Journal.requests_append]
    · rw [hjournal, Journal.results_append, hresults]
    · obtain ⟨id, q, n, hq, hid, ho⟩ := hr.replays r hr'
      exact ⟨⟨id, q, n, hq, hid, ho⟩, Outgoing.authorization_ofRequest ho⟩
    · obtain ⟨hstore, errors, herrors, he⟩ := hr.kept ha
      refine ⟨?_, errors, ?_, he⟩
      · rw [hstore]
        exact CredentialStore.access_set _ _ _
      · rw [herrors, ← hnotices]
        rfl
  · rintro e rfl
    obtain ⟨more, hl⟩ := lapses_run (lapses_landed hg hrefused hperm e) hin hdrains
    rw [← hrun] at hl
    obtain ⟨hstore, hprofile, hexpire⟩ := Lifecycle.expire_of_refresh (l := s₁.lifecycle) (by
      rw [hg.lifecycle]
      exact hrefresh)
    have hjournal : s₃.lifecycle.journal = s₁.lifecycle.journal ++
        ([.counted .logout, .told .loggedOut, .told .loginRequired] ++
          ([.counted (.renewal .failed)] ++ more)) := by
      rw [hl.lifecycle, hexpire, List.append_assoc]
    refine ⟨?_, ⟨_, ?_, hl.drained hdone, hl.expired⟩, ?_, ?_, ?_⟩
    · rw [hjournal, Journal.requests_append, Journal.requests_append, hl.requests]
      exact List.append_nil _
    · rw [hjournal, Journal.results_append, Journal.results_append, hresults]
      rfl
    · rw [hl.lifecycle]
      exact hstore
    · rw [hl.lifecycle]
      exact hprofile
    · rw [hjournal, Journal.notices_append, Journal.notices_append, hl.notices, hnotices]
      rfl

/-- Two inquiries, of which the second is refused first and answered last. -/
theorem expiry_shared_by_two :
    let q : Inquiry := ⟨.get "/x", .any⟩
    let s₀ : Session Memory := ofStore {} ⟨⟨[]⟩, ⟨"a", "r"⟩⟩
    let s₁ := s₀.run [.start (.send (.ok q.request) q.shape), .start (.send (.ok q.request) q.shape),
      .answer 1 (.answered 401 []), .answer 0 (.answered 401 [])]
    let s₃ := (s₁.step (.resolve (.ok ⟨"b", none⟩))).run
      [.resume, .answer 0 .timedOut, .answer 1 .unanswered]
    s₃.tasks = [] ∧ s₃.lifecycle.journal.renewals = ["r"] ∧
      s₃.lifecycle.store.current.access = "b" ∧
      ∃ replays, s₃.lifecycle.journal.requests = s₁.lifecycle.journal.requests ++ replays ∧
        (replays.map (·.1)).Perm [Sender.task 0, .task 1] ∧
        ∀ r ∈ replays, Keyed.get? Outgoing.authorization r.2.headers =
          some (Http.Header.bearer "b") := by
  intro q s₀ s₁ s₃
  have hq : q.IsProper s₀.settings.baseUrl :=
    ⟨rfl, { scheme := "http", authority := some { host := .domain "localhost", port := some 8000 },
            path := .rooted ["api", "v1", "x"] }, by decide +kernel, by decide +kernel⟩
  let first : List Event := [.start (.send (.ok q.request) q.shape),
    .start (.send (.ok q.request) q.shape), .answer 1 (.answered 401 []), .answer 0 (.answered 401 [])]
  have hfirst : ∀ e ∈ first, e.Expires s₀.settings.baseUrl := by
    simp only [first, List.forall_mem_cons]
    exact ⟨hq, hq, rfl, rfl, List.forall_mem_nil _⟩
  let after : List Event := [.resume, .answer 0 .timedOut, .answer 1 .unanswered]
  obtain ⟨hcalls, hrefused, hpicked, hanswered, hanswers⟩ :
      (s₀.inquiries first).map (·.1) = [0, 1] ∧ (∀ id ∈ s₁.ids, s₁.outstanding? id = none) ∧
        s₃.handed = [] ∧ (∀ id ∈ s₃.ids, s₃.outstanding? id = none) ∧
        ∀ a ∈ (s₁.step (.resolve (.ok ⟨"b", none⟩))).answers after, ¬a.2.2.IsUnauthorized := by
    decide +kernel
  obtain ⟨hdone, -, hrenewals, -, -, hrenewed, -⟩ := expiry_shared {} ⟨⟨[]⟩, ⟨"a", "r"⟩⟩ [] first
    after (.resolve (.ok ⟨"b", none⟩)) (.ok ⟨"b", none⟩) s₀ s₁ s₃ rfl rfl rfl (by decide)
    (by rintro t ⟨⟩; decide +kernel) hfirst (List.cons_ne_nil _ _) rfl
    (forall_outstanding?_eq_none_iff.2 hrefused) rfl (by simp [after, Event.Drains]) rfl hpicked
    (forall_outstanding?_eq_none_iff.2 hanswered)
  obtain ⟨replays, results, hreplays, -, hperm, hsent, -, -, hkept⟩ := hrenewed _ rfl (by decide +kernel)
  rw [hcalls] at hperm
  exact ⟨hdone, hrenewals, (hkept hanswers).1, replays, hreplays, hperm,
    fun r hr => (hsent r hr).2⟩

end ShopClient.Session
