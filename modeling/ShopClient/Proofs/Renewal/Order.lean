import ShopClient.Proofs.Renewal.Turn
import Mathlib.Data.List.Perm.Basic

/-!
# The order of those who wait for a renewal

What a step does to a renewal only moves operations forward in the line, or takes those out who were
dropped. So nobody stands in the line twice, and nobody who waits for a renewal is missing.

* `InOrder`: nobody stands in the line twice or asks twice, an operation that waits for a renewal
  stands in the line and was not told yet, and the driver of the renewal in flight is under way;
* `InOrder.turn`: a turn keeps a session in order.
-/

namespace ShopClient.Session

variable {σ : Type}

/-- What holds of an operation by what it waits for. -/
def Stage (s : Session σ) (id : TaskId) : Task → Prop
  | .first call _ => id ∉ s.lifecycle.journal.asked ∧ call.IsSound false
  | .renewal want => id ∈ s.waiting ∧ want.IsSound
  | .replayed call _ => id ∈ s.told ∧ call.IsSound true

/-- The session is in order, leaving aside the operations `moving`. -/
structure InOrder (moving : List TaskId) (s : Session σ) : Prop where
  nodup_ids : s.ids.Nodup
  ids_lt : ∀ i ∈ s.ids, i < s.started
  nodup_asked : s.lifecycle.journal.asked.Nodup
  asked_lt : ∀ i ∈ s.lifecycle.journal.asked, i < s.started
  nodup_line : s.line.Nodup
  line_asked : ∀ i ∈ s.line, i ∈ s.lifecycle.journal.asked
  stage : ∀ i t, i ∉ moving → s.task? i = some t → s.Stage i t
  driven : ∀ i ∈ s.driver, i ∉ moving → ∃ want, s.task? i = some (.renewal want)

section Views

variable {s : Session σ} {f : Flight}

theorem driver_of_flight (h : s.flight = some f) : s.driver = [f.driver] := by
  rw [driver, h]
  rfl

theorem parked_of_flight (h : s.flight = some f) : s.parked = f.waiters := by
  rw [parked, h]
  rfl

theorem mem_waiting_of_flight (h : s.flight = some f) : f.driver ∈ s.waiting := by
  rw [waiting, driver_of_flight h]
  exact List.mem_cons_self

theorem driver_of_idle (h : s.flight = none) : s.driver = [] := by
  rw [driver, h]
  rfl

theorem parked_of_idle (h : s.flight = none) : s.parked = [] := by
  rw [parked, h]
  rfl

theorem waiting_of_flight (h : s.flight = some f) :
    s.waiting = f.driver :: (s.handed.map (·.1) ++ f.waiters) := by
  rw [waiting, driver_of_flight h, parked_of_flight h, List.singleton_append]

theorem waiting_of_idle (h : s.flight = none) : s.waiting = s.handed.map (·.1) := by
  rw [waiting, driver_of_idle h, parked_of_idle h, List.append_nil, List.nil_append]

theorem waiting_of_handed {id : TaskId} {granted : Granted} {rest : List (TaskId × Granted)}
    (h : s.handed = (id, granted) :: rest) :
    s.waiting = s.driver ++ id :: (rest.map (·.1) ++ s.parked) := by
  rw [waiting, h, List.map_cons, List.cons_append]

theorem map_fst_map (l : List TaskId) (granted : Granted) :
    (l.map (·, granted)).map (·.1) = l := by
  rw [List.map_map]
  exact List.map_id _

/-- Who comes into the queue waits behind all others. -/
theorem waiting_parks (id : TaskId) (h : s.flight = some f) :
    ({ s with flight := some { f with waiters := f.waiters ++ [id] } } : Session σ).waiting =
      s.waiting ++ [id] := by
  rw [waiting_of_flight rfl, waiting_of_flight h, ← List.append_assoc, List.cons_append]

/-- Who drives a renewal waits before all others. -/
theorem waiting_drives (id : TaskId) (refresh : String) (epoch : UInt64) (h : s.flight = none) :
    ({ s with flight := some { driver := id, refresh, epoch } } : Session σ).waiting =
      id :: s.waiting := by
  rw [waiting_of_flight rfl, waiting_of_idle h, List.append_nil]

/-- When a renewal is over, its driver waits no more. -/
theorem waiting_lands (l : Lifecycle σ) (granted : Granted) (h : s.flight = some f) :
    f.driver :: (({ s with flight := none, lifecycle := l } : Session σ).handOver f.waiters
      granted).waiting = s.waiting := by
  rw [waiting_of_idle rfl, waiting_of_flight h, handOver, List.map_append, map_fst_map]

/-- Those who are turned away still have to pick up what they were handed. -/
theorem waiting_turnsAway (granted : Granted) (h : s.flight = some f) :
    (({ s with flight := some { f with waiters := [] } } : Session σ).handOver f.waiters
      granted).waiting = s.waiting := by
  rw [waiting_of_flight rfl, waiting_of_flight h, handOver, List.map_append, map_fst_map,
    List.append_nil]

theorem told_log_granted (id : TaskId) (granted : Granted) (s : Session σ) :
    (s.log (.granted id granted)).told = s.told ++ [id] := by
  refine (congrArg _ (Journal.grants_append _ _)).trans ?_
  rw [List.map_append]
  rfl

theorem told_log_of_not_granted {e : Entry} (he : Journal.grants [e] = []) (s : Session σ) :
    (s.log e).told = s.told := by
  refine (congrArg _ (Journal.grants_append _ _)).trans ?_
  rw [he, List.append_nil]
  rfl

theorem SameRenewals.waiting {s s' : Session σ} (h : s.SameRenewals s') :
    s'.waiting = s.waiting := by
  rw [Session.waiting, Session.waiting, driver, driver, parked, parked, h.flight, h.handed]

theorem SameRenewals.line {s s' : Session σ} (h : s.SameRenewals s') : s'.line = s.line := by
  rw [Session.line, Session.line, h.waiting, told, told, h.grants]

theorem asked_log_asked (id : TaskId) (s : Session σ) :
    (s.log (.asked id)).lifecycle.journal.asked = s.lifecycle.journal.asked ++ [id] :=
  Journal.asked_append _ _

end Views

namespace InOrder

variable {s s' : Session σ} {id : TaskId} {t : Task} {moving : List TaskId}

theorem mono (h : s.InOrder []) : s.InOrder moving :=
  { h with
    stage := fun i t _ ht => h.stage i t List.not_mem_nil ht
    driven := fun i hi _ => h.driven i hi List.not_mem_nil }

/-- The line is arranged anew. Whoever waits in it and stays is still there, and whoever is put into it
    has asked. -/
theorem reline (h : s.InOrder moving) (htasks : s'.tasks = s.tasks) (hstarted : s'.started = s.started)
    (hasked : s'.lifecycle.journal.asked = s.lifecycle.journal.asked) (hnodup : s'.line.Nodup)
    (hline : ∀ i ∈ s'.line, i ∈ s.lifecycle.journal.asked) (htold : ∀ i ∈ s.told, i ∈ s'.told)
    (hwaiting : ∀ i want, i ∉ moving → s.task? i = some (.renewal want) →
      i ∈ s.waiting → i ∈ s'.waiting)
    (hdriver : ∀ i ∈ s'.driver, i ∉ moving → i ∈ s.driver) : s'.InOrder moving := by
  have htask (i : TaskId) : s'.task? i = s.task? i := by rw [task?, task?, htasks]
  have hids : s'.ids = s.ids := by rw [ids, ids, htasks]
  refine ⟨hids ▸ h.nodup_ids, ?_, hasked ▸ h.nodup_asked, ?_, hnodup, hasked ▸ hline, ?_, ?_⟩
  · rw [hids, hstarted]
    exact h.ids_lt
  · rw [hasked, hstarted]
    exact h.asked_lt
  · intro i t hi ht
    rw [htask] at ht
    have hs := h.stage i t hi ht
    cases t with
    | first call _ => exact ⟨hasked ▸ hs.1, hs.2⟩
    | renewal want => exact ⟨hwaiting i want hi ht hs.1, hs.2⟩
    | replayed call _ => exact ⟨htold i hs.1, hs.2⟩
  · intro i hi hm
    rw [htask]
    exact h.driven i (hdriver i hi hm) hm

/-- Some who waited leave the line. -/
theorem thin (h : s.InOrder moving) (htasks : s'.tasks = s.tasks) (hstarted : s'.started = s.started)
    (hasked : s'.lifecycle.journal.asked = s.lifecycle.journal.asked) (htold : s'.told = s.told)
    (hsub : s'.waiting.Sublist s.waiting)
    (hwaiting : ∀ i want, i ∉ moving → s.task? i = some (.renewal want) →
      i ∈ s.waiting → i ∈ s'.waiting)
    (hdriver : ∀ i ∈ s'.driver, i ∉ moving → i ∈ s.driver) : s'.InOrder moving := by
  have hline : s'.line.Sublist s.line := by
    rw [line, line, htold]
    exact hsub.append_left _
  exact h.reline htasks hstarted hasked (h.nodup_line.sublist hline)
    (fun i hi => h.line_asked i (hline.subset hi)) (fun i hi => htold ▸ hi) hwaiting hdriver

/-- Order depends on the operations, the renewal, what was handed over, and who asked and was told. -/
theorem congr (h : s.InOrder moving) (htasks : s'.tasks = s.tasks)
    (hstarted : s'.started = s.started) (hflight : s'.flight = s.flight)
    (hhanded : s'.handed = s.handed)
    (hasked : s'.lifecycle.journal.asked = s.lifecycle.journal.asked)
    (hgrants : s'.lifecycle.journal.grants = s.lifecycle.journal.grants) : s'.InOrder moving := by
  have hdriver : s'.driver = s.driver := by rw [driver, driver, hflight]
  have hwaiting : s'.waiting = s.waiting := by
    rw [waiting, waiting, hdriver, parked, parked, hflight, hhanded]
  have htold : s'.told = s.told := by rw [told, told, hgrants]
  exact h.thin htasks hstarted hasked htold (hwaiting ▸ List.Sublist.refl _)
    (fun i _ _ _ hi => hwaiting ▸ hi) fun i hi _ => hdriver ▸ hi

/-- An operation that is no driver leaves. -/
theorem dismiss (h : s.InOrder [id]) (hd : id ∉ s.driver) : (s.dismiss id).InOrder [] := by
  refine { h with nodup_ids := nodup_dismiss h.nodup_ids, ids_lt := ?_, stage := ?_, driven := ?_ }
  · intro i hi
    rw [ids_dismiss] at hi
    exact h.ids_lt i (List.mem_of_mem_filter hi)
  · intro i t _ ht
    rw [task?_dismiss] at ht
    split at ht
    · cases ht
    · rename_i hne
      exact h.stage i t (List.mem_singleton.not.2 hne) ht
  · intro i hi _
    have hne : i ≠ id := fun heq => hd (heq ▸ hi)
    rw [task?_dismiss, if_neg hne]
    exact h.driven i hi (List.mem_singleton.not.2 hne)

/-- An operation comes to wait for what its stage allows. -/
theorem await (h : s.InOrder [id]) (hlt : id < s.started) (hstage : s.Stage id t)
    (hd : id ∈ s.driver → ∃ want, t = .renewal want) : (s.await id t).InOrder [] := by
  refine { h with nodup_ids := nodup_await h.nodup_ids, ids_lt := ?_, stage := ?_, driven := ?_ }
  · intro i hi
    obtain ⟨t', ht'⟩ := Option.isSome_iff_exists.1 ((isSome_task?_iff _ i).2 hi)
    rw [task?_await] at ht'
    split at ht'
    · rename_i heq
      exact heq ▸ hlt
    · exact h.ids_lt i (mem_ids_of_task? ht')
  · intro i t' _ ht'
    rw [task?_await] at ht'
    split at ht'
    · rename_i heq
      obtain rfl := heq
      obtain rfl := Option.some.inj ht'
      exact hstage
    · rename_i hne
      exact h.stage i t' (List.mem_singleton.not.2 hne) ht'
  · intro i hi _
    rw [task?_await]
    split
    · rename_i heq
      obtain ⟨want, rfl⟩ := hd (heq ▸ hi)
      exact ⟨want, rfl⟩
    · rename_i hne
      exact h.driven i hi (List.mem_singleton.not.2 hne)

/-- Where nobody waits for an answer or for a renewal, nobody is under way. -/
theorem tasks_eq_nil (h : s.InOrder []) (hidle : s.flight = none) (hhanded : s.handed = [])
    (hout : ∀ id, s.outstanding? id = none) : s.tasks = [] := by
  have hids : s.ids = [] := by
    refine List.eq_nil_iff_forall_not_mem.2 fun id hid => ?_
    obtain ⟨t, ht⟩ := Option.isSome_iff_exists.1 ((s.isSome_task?_iff id).2 hid)
    have hnone := hout id
    rw [outstanding?, ht] at hnone
    cases t with
    | first => cases hnone
    | replayed => cases hnone
    | renewal want =>
      have hw := (h.stage id _ List.not_mem_nil ht).1
      rw [waiting_of_idle hidle, hhanded] at hw
      cases hw
  exact List.map_eq_nil_iff.1 hids

/-- An operation that goes on without a renewal does not wait for one. -/
theorem not_mem_waiting (h : s.InOrder moving) {again : Bool} (hp : s.IsPlaced id again) :
    id ∉ s.waiting := by
  intro hid
  cases again with
  | false => exact hp.fresh rfl (h.line_asked id (List.mem_append_right _ hid))
  | true => exact List.disjoint_of_nodup_append h.nodup_line (hp.told rfl) hid

/-! ### What a turn keeps -/

variable [Storage σ]

theorem rests (h : s.InOrder moving) (hr : s.Rests s') : s'.InOrder moving := by
  obtain ⟨l, hl, rfl⟩ := hr
  exact h.congr rfl rfl rfl rfl hl.asked_eq hl.grants_eq

theorem advances (h : s.InOrder [id]) {again : Bool} (hp : s.IsPlaced id again)
    (ha : Advances id again s s') : s'.InOrder [] := by
  have hd : id ∉ s.driver := fun hid => h.not_mem_waiting hp (List.mem_append_left _ hid)
  cases ha with
  | @ends s₁ result hr =>
    obtain ⟨l, hl, rfl⟩ := hr
    refine ((h.rests ⟨l, hl, rfl⟩).dismiss hd).congr rfl rfl rfl rfl ?_ ?_
    · exact Journal.view_append_of_nil rfl
    · exact Journal.view_append_of_nil rfl
  | @sends s₁ call request hr hc =>
    obtain ⟨l, hl, rfl⟩ := hr
    have h₁ : ({ s with lifecycle := l, dispatched := s.dispatched + 1 } : Session σ).InOrder [id] :=
      h.congr rfl rfl rfl rfl hl.asked_eq hl.grants_eq
    refine (h₁.await (t := if again then .replayed call request else .first call request)
      hp.lt ?_ fun hid => absurd hid hd).congr rfl rfl rfl rfl ?_ ?_
    · cases again with
      | false => exact ⟨fun hid => hp.fresh rfl (hl.asked_eq ▸ hid), hc⟩
      | true =>
        refine ⟨?_, hc⟩
        rw [told, show _ = s.lifecycle.journal.grants from hl.grants_eq]
        exact hp.told rfl
    · exact Journal.view_append_of_nil rfl
    · exact Journal.view_append_of_nil rfl

omit [Storage σ] in
/-- An operation asks for a renewal. It does not stand in the line yet. -/
theorem asks (h : s.InOrder [id]) (hp : s.IsPlaced id false) :
    (s.log (.asked id)).InOrder [id] ∧ id ∉ (s.log (.asked id)).line := by
  have hid := hp.fresh rfl
  have hasked := asked_log_asked id s
  have htold : (s.log (.asked id)).told = s.told := told_log_of_not_granted rfl s
  have hline : (s.log (.asked id)).line = s.line := congrArg (· ++ s.waiting) htold
  refine ⟨⟨h.nodup_ids, h.ids_lt, ?_, ?_, hline ▸ h.nodup_line, ?_, ?_, h.driven⟩, ?_⟩
  · rw [hasked, ← List.concat_eq_append]
    exact h.nodup_asked.concat hid
  · rw [hasked, List.forall_mem_append, List.forall_mem_singleton]
    exact ⟨h.asked_lt, hp.lt⟩
  · rw [hline, hasked]
    exact fun i hi => List.mem_append_left _ (h.line_asked i hi)
  · intro i t hi ht
    have hs := h.stage i t hi ht
    cases t with
    | first call _ =>
      -- Another than `id`, and so it did not ask.
      refine ⟨?_, hs.2⟩
      rw [hasked, List.mem_append]
      exact fun hmem => hmem.elim hs.1 hi
    | renewal want => exact hs
    | replayed call _ => exact ⟨htold ▸ hs.1, hs.2⟩
  · rw [hline]
    exact fun hmem => hid (h.line_asked id hmem)

omit [Storage σ] in
/-- An operation is told what the renewal came to that it had asked for. -/
theorem tells (h : s.InOrder [id]) (hid : id ∈ s.lifecycle.journal.asked) (hline : id ∉ s.line)
    (granted : Granted) : (s.log (.granted id granted)).InOrder [id] := by
  have htold := told_log_granted id granted s
  have hline' : (s.log (.granted id granted)).line = s.told ++ [id] ++ s.waiting :=
    congrArg (· ++ s.waiting) htold
  have hperm : (id :: s.line).Perm (s.log (.granted id granted)).line := by
    rw [hline', List.append_assoc]
    exact List.perm_middle.symm
  refine h.reline rfl rfl ?_ ?_ ?_ ?_ (fun _ _ _ _ hi => hi) fun _ hi _ => hi
  · exact Journal.view_append_of_nil rfl
  · exact hperm.nodup_iff.1 (List.nodup_cons.2 ⟨hline, h.nodup_line⟩)
  · intro i hi
    rcases List.mem_cons.1 (hperm.mem_iff.2 hi) with rfl | hi
    · exact hid
    · exact h.line_asked i hi
  · intro i hi
    rw [htold]
    exact List.mem_append_left _ hi

omit [Storage σ] in
/-- An operation comes into the line, and waits for a renewal. -/
theorem joins (h : s.InOrder [id]) (hid : id ∈ s.lifecycle.journal.asked) (hline : id ∉ s.line)
    {want : Want} (hw : want.IsSound) {flight : Option Flight}
    (hperm : ({ s with flight } : Session σ).waiting.Perm (id :: s.waiting))
    (hdriver : ∀ i ∈ ({ s with flight } : Session σ).driver, i ≠ id → i ∈ s.driver) :
    (({ s with flight } : Session σ).await id (.renewal want)).InOrder [] := by
  have hperm' : ({ s with flight } : Session σ).line.Perm (id :: s.line) :=
    (hperm.append_left _).trans List.perm_middle
  have h₁ : ({ s with flight } : Session σ).InOrder [id] := by
    refine h.reline rfl rfl rfl ?_ ?_ (fun _ hi => hi) ?_ ?_
    · exact hperm'.nodup_iff.2 (List.nodup_cons.2 ⟨hline, h.nodup_line⟩)
    · intro i hi
      rcases List.mem_cons.1 (hperm'.mem_iff.1 hi) with rfl | hi
      · exact hid
      · exact h.line_asked i hi
    · exact fun i _ _ _ hi => hperm.mem_iff.2 (List.mem_cons_of_mem _ hi)
    · exact fun i hi hne => hdriver i hi (List.mem_singleton.not.1 hne)
  exact h₁.await (t := .renewal want) (h.asked_lt id hid)
    ⟨hperm.mem_iff.2 List.mem_cons_self, hw⟩ fun _ => ⟨want, rfl⟩

omit [Storage σ] in
/-- An operation comes into the queue. -/
theorem parks (h : s.InOrder [id]) (hid : id ∈ s.lifecycle.journal.asked) (hline : id ∉ s.line)
    {want : Want} (hw : want.IsSound) {f : Flight} (hf : s.flight = some f) :
    (({ s with flight := some { f with waiters := f.waiters ++ [id] } } : Session σ).await id
      (.renewal want)).InOrder [] := by
  refine h.joins hid hline hw ?_ fun i hi _ => ?_
  · rw [waiting_parks id hf]
    exact List.perm_append_singleton _ _
  · rw [driver_of_flight hf]
    exact hi

omit [Storage σ] in
/-- An operation drives a renewal. -/
theorem drives (h : s.InOrder [id]) (hid : id ∈ s.lifecycle.journal.asked) (hline : id ∉ s.line)
    {want : Want} (hw : want.IsSound) (hf : s.flight = none) (refresh : String) (epoch : UInt64) :
    (({ s with flight := some { driver := id, refresh, epoch } } : Session σ).await id
      (.renewal want)).InOrder [] := by
  refine h.joins hid hline hw ?_ fun i hi hne => ?_
  · rw [waiting_drives id refresh epoch hf]
  · exact absurd (List.mem_singleton.1 hi) hne

omit [Storage σ] in
/-- The renewal in flight is over, and those in the queue are handed what it came to. Its driver is
    about to go on, or was dropped. -/
theorem lands (h : s.InOrder moving) {f : Flight} (hf : s.flight = some f) (hd : f.driver ∈ moving)
    {l : Lifecycle σ} (hasked : l.journal.asked = s.lifecycle.journal.asked)
    (hgrants : l.journal.grants = s.lifecycle.journal.grants) (granted : Granted) :
    (({ s with flight := none, lifecycle := l } : Session σ).handOver f.waiters granted).InOrder
        moving ∧
      f.driver ∉ (({ s with flight := none, lifecycle := l } : Session σ).handOver f.waiters
        granted).line := by
  have hw := waiting_lands l granted hf
  have htold : (({ s with flight := none, lifecycle := l } : Session σ).handOver f.waiters
      granted).told = s.told := congrArg (List.map Prod.fst) hgrants
  constructor
  · refine h.thin rfl rfl hasked htold ?_ ?_ (fun _ hi _ => absurd hi List.not_mem_nil)
    · rw [← hw]
      exact List.sublist_cons_self _ _
    · intro i _ hi _ hmem
      rw [← hw] at hmem
      exact (List.mem_cons.1 hmem).resolve_left fun heq => hi (heq ▸ hd)
  · have hnodup := h.nodup_line
    rw [line, ← hw, List.nodup_middle, List.nodup_cons] at hnodup
    rw [line, htold]
    exact hnodup.1

omit [Storage σ] in
/-- Those in the queue are handed an outcome, and the renewal goes on. -/
theorem turnsAway (h : s.InOrder moving) {f : Flight} (hf : s.flight = some f) (granted : Granted) :
    (({ s with flight := some { f with waiters := [] } } : Session σ).handOver f.waiters
      granted).InOrder moving := by
  have hw := waiting_turnsAway granted hf
  refine h.thin rfl rfl rfl rfl (hw ▸ List.Sublist.refl _) (fun _ _ _ _ hi => hw ▸ hi) ?_
  intro i hi _
  rw [driver_of_flight hf]
  exact hi

omit [Storage σ] in
/-- What was handed to the next operation is taken away. It is about to go on, or was dropped. -/
theorem pops (h : s.InOrder moving) {granted : Granted} {rest : List (TaskId × Granted)}
    (hh : s.handed = (id, granted) :: rest)
    (hid : id ∉ moving → ∀ want, s.task? id ≠ some (.renewal want)) :
    ({ s with handed := rest } : Session σ).InOrder moving ∧
      id ∉ ({ s with handed := rest } : Session σ).line := by
  have hw := waiting_of_handed hh
  constructor
  · refine h.thin rfl rfl rfl rfl ?_ ?_ fun _ hi _ => hi
    · rw [hw]
      exact (List.sublist_cons_self _ _).append_left _
    · intro i want hi ht hmem
      have hne : i ≠ id := fun heq => hid (heq ▸ hi) want (heq ▸ ht)
      rw [hw, List.mem_append, List.mem_cons, or_iff_right hne] at hmem
      exact List.mem_append.2 hmem
  · have hnodup := h.nodup_line
    rw [line, hw, ← List.append_assoc, List.nodup_middle, List.nodup_cons, List.append_assoc]
      at hnodup
    exact hnodup.1

omit [Storage σ] in
/-- Whoever is told what a renewal came to can go on from there. -/
theorem isPlaced_told (h : s.InOrder [id]) (hid : id ∈ s.lifecycle.journal.asked)
    (granted : Granted) : (s.log (.granted id granted)).IsPlaced id true := by
  refine ⟨h.asked_lt id hid, nofun, fun _ => ?_⟩
  rw [told_log_granted]
  exact List.mem_append_right _ (List.mem_singleton_self id)

/-- An operation that is told what a renewal came to goes on. -/
theorem goesOn (h : s.InOrder [id]) (hid : id ∈ s.lifecycle.journal.asked) (hline : id ∉ s.line)
    {granted : Granted} (ha : Advances id true (s.log (.granted id granted)) s') :
    s'.InOrder [] :=
  (h.tells hid hline granted).advances (h.isPlaced_told hid granted) ha

/-- A turn keeps a session in order. -/
theorem turn (h : s.InOrder []) {lost : List TaskId} {dealt : List (TaskId × Granted)}
    (ht : Turn s lost dealt s') :
    s'.InOrder [] := by
  have hasked_self (id : TaskId) : id ∈ (s.log (.asked id)).lifecycle.journal.asked := by
    rw [asked_log_asked]
    exact List.mem_append_right _ (List.mem_singleton_self id)
  cases ht with
  | rests hr => exact h.rests hr
  | advances hp ha => exact h.mono.advances hp ha
  | parks hp hw hf =>
    obtain ⟨h₁, hid⟩ := h.mono.asks hp
    exact h₁.parks (hasked_self _) hid hw hf
  | @drives id want s' hp hw hf _ hs' =>
    obtain ⟨h₁, hid⟩ := h.mono.asks hp
    have h₂ : (s.launched id want).InOrder [] := by
      refine (h₁.drives (hasked_self _) hid hw hf _ _).congr rfl rfl rfl rfl ?_ ?_
      · exact Journal.view_append_of_nil rfl
      · exact Journal.view_append_of_nil rfl
    rcases hs' with rfl | ⟨o, rfl⟩
    · exact h₂
    · refine h₂.congr rfl rfl rfl rfl ?_ ?_
      · exact Journal.view_append_of_nil rfl
      · exact Journal.view_append_of_nil rfl
  | @denied id s₁ s' hp _ _ hr ha =>
    -- It asks and is told at once, without waiting in between.
    obtain ⟨h₁, hid⟩ := h.mono.asks hp
    have hsame := hr.sameRenewals
    refine (h₁.rests hr).goesOn ?_ ?_ ha
    · rw [hsame.asked]
      exact hasked_self id
    · rw [hsame.line]
      exact hid
  | @concludes f granted l r s' hf hl _ ha =>
    -- The driver leaves the front of the line and is told; then it goes on from there.
    have hasked := (Lifecycle.asked_count (.renewal r) l).trans hl.asked_eq
    have hgrants := (Lifecycle.grants_count (.renewal r) l).trans hl.grants_eq
    obtain ⟨h₁, hid⟩ := h.mono.lands hf (List.mem_singleton_self _) hasked hgrants granted
    have hd : f.driver ∈ s.lifecycle.journal.asked :=
      h.line_asked _ (List.mem_append_right _ (mem_waiting_of_flight hf))
    exact h₁.goesOn (hasked ▸ hd) hid ha
  | @picksUp id granted rest s' hh ha =>
    obtain ⟨h₁, hid⟩ := h.mono.pops hh (absurd (List.mem_singleton_self _))
    refine h₁.goesOn (h.line_asked id (List.mem_append_right _ ?_)) hid ha
    simp [waiting, hh]
  | skips hh hid => exact (h.pops hh fun _ => hid).1
  | @leaves id hd =>
    -- Its place in the line may stay, as nobody who is under way has it.
    refine h.mono.dismiss fun hid => ?_
    obtain ⟨f, hf, rfl⟩ : ∃ f, s.flight = some f ∧ f.driver = id := by
      simpa [driver] using hid
    exact hd f hf rfl
  | @abandons f hf =>
    obtain ⟨h₁, -⟩ := h.mono.lands hf (List.mem_singleton_self _)
      (Lifecycle.asked_count (.renewal .abandoned) _)
      (Lifecycle.grants_count (.renewal .abandoned) _) abandoned
    exact h₁.dismiss List.not_mem_nil
  | turnsAway hf => exact h.turnsAway hf _

end InOrder

end ShopClient.Session
