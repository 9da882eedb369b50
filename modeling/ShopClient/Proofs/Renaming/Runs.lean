import ShopClient.Proofs.Ledger.Entering
import ShopClient.Proofs.Renaming.Tokens
import ShopClient.Proofs.Renewal.SingleFlight
import Mathlib.Data.List.Forall2

/-!
# Runs with renamed tokens

The same happens to two sessions, but for the names of the tokens, of which at most the empty one has to
be told from the others. Then the two do the same, step by step, but for the names of the tokens: no
token is compared with another, cut or put in the place of another. What they do depends on which
tokens are empty, and on nothing else about them.

That is so as long as no request of an operation's own is sent. A token that cannot stand in a header
field is not sent, and so depends on more.

* `Lifecycle.Mirrors`, `Session.Mirrors`: one session is the other with renamed tokens;
* `Session.Mirrors.step`: it is so after any step, if it was so before;
* `Session.view_run_renamed`: what can be seen of a session with renamed tokens.
-/

namespace ShopClient

/-- What happens to a session whose operations want nothing but a renewal. -/
def Event.IsMere : Event → Prop
  | .start operation => operation.isMere = true
  | .answer .. | .answerRenewal _ => False
  | _ => True

instance : DecidablePred Event.IsMere := fun e =>
  match e with
  | .start operation => inferInstanceAs (Decidable (operation.isMere = true))
  | .answer .. | .answerRenewal _ => .isFalse id
  | .resolve _ | .resume | .abort _ | .reset | .act _ => .isTrue trivial

/-! ### What holds tokens -/

namespace Renaming

variable (f : Renaming)

/-- What a renewal comes to. -/
def granted (g : Granted) : Granted := g.map f

/-- What an operation yields. -/
def outcome : Outcome → Outcome
  | .token access => .token (f access)
  | o => o

/-- How an operation ends. -/
def result (r : Except SessionError Outcome) : Except SessionError Outcome := r.map f.outcome

/-- The tokens that a renewal yields. -/
def renewed (r : Renewed) : Renewed := ⟨f r.access, r.refresh.map f⟩

/-- A renewal in flight. -/
def flight (g : Flight) : Flight := { g with refresh := f g.refresh }

/-- A change of a session from outside. -/
def action : Action → Action
  | .storeCredentials access refresh => .storeCredentials (f access) (refresh.map f)
  | .writeStore access refresh => .writeStore (f access) (refresh.map f)
  | .storeRenewed epoch r => .storeRenewed epoch (f.renewed r)
  | a => a

/-- Something that happens to a session. -/
def event : Event → Event
  | .resolve result => .resolve (result.map f.renewed)
  | .act a => .act (f.action a)
  | e => e

/-- The second entry is the first with renamed tokens. A request is the one that renews the token. -/
inductive Renames (settings : Settings) : Entry → Entry → Prop
  | told (notice : Notice) : Renames settings (.told notice) (.told notice)
  | counted (counter : Counter) : Renames settings (.counted counter) (.counted counter)
  | renewing (refresh : String) : Renames settings (.renewing refresh) (.renewing (f refresh))
  | sent {refresh : String} {o o' : Outgoing} :
    Session.renewalRequest settings refresh = .ok o →
      Session.renewalRequest settings (f refresh) = .ok o' →
        Renames settings (.sent .renewal o) (.sent .renewal o')
  | asked (id : TaskId) : Renames settings (.asked id) (.asked id)
  | granted (id : TaskId) (g : Granted) :
    Renames settings (.granted id g) (.granted id (f.granted g))
  | finished (id : TaskId) (r : Except SessionError Outcome) :
    Renames settings (.finished id r) (.finished id (f.result r))

variable {f} {settings : Settings} {j j' : Journal}

/-- What a view shows of renamed entries. -/
theorem view_eq {α : Type} {view : Entry → Option α} {g : α → α}
    (hview : ∀ e e', f.Renames settings e e' → view e' = (view e).map g)
    (h : List.Forall₂ (f.Renames settings) j j') : j'.filterMap view = (j.filterMap view).map g := by
  induction h with
  | nil => rfl
  | cons he _ ih =>
    rw [List.filterMap_cons, List.filterMap_cons, hview _ _ he, ih]
    cases view _ with
    | none => rfl
    | some a => rfl

variable (h : List.Forall₂ (f.Renames settings) j j')

include h

theorem notices_eq : j'.notices = j.notices := by
  refine (view_eq (g := id) (fun e e' he => ?_) h).trans (List.map_id _)
  cases he <;> rfl

theorem counters_eq : j'.counters = j.counters := by
  refine (view_eq (g := id) (fun e e' he => ?_) h).trans (List.map_id _)
  cases he <;> rfl

theorem renewals_eq : j'.renewals = j.renewals.map f :=
  view_eq (fun e e' he => by cases he <;> rfl) h

theorem results_eq : j'.results = j.results.map (Prod.map id f.result) :=
  view_eq (fun e e' he => by cases he <;> rfl) h

end Renaming

/-! ### Between requests -/

namespace Lifecycle

variable {f : Renaming} {settings : Settings} {l l' : Lifecycle Memory}

/-- `l'` is `l` with renamed tokens. -/
structure Mirrors (f : Renaming) (settings : Settings) (l l' : Lifecycle Memory) : Prop where
  store : l'.store = f.store l.store
  profile : l'.profile = l.profile
  epoch : l'.epoch = l.epoch
  active : l'.active = l.active
  journal : List.Forall₂ (f.Renames settings) l.journal l'.journal

namespace Mirrors

theorem ofStore (f : Renaming) (settings : Settings) (store : CredentialStore Memory) :
    (Lifecycle.ofStore store).Mirrors f settings (.ofStore (f.store store)) where
  store := rfl
  profile := rfl
  epoch := rfl
  active := congrArg (fun value => ({ value } : Observable)) (f.hasAccess_pair store.current)
  journal := .nil

variable (h : l.Mirrors f settings l')

include h

theorem current : l'.store.current = f.pair l.store.current :=
  congrArg CredentialStore.current h.store

theorem refresh_eq_empty_iff :
    l'.store.current.refresh = "" ↔ l.store.current.refresh = "" := by
  rw [h.current]
  exact f.eq_empty_iff _

theorem log {e e' : Entry} (he : f.Renames settings e e') :
    (l.log e).Mirrors f settings (l'.log e') :=
  { h with journal := List.rel_append h.journal (.cons he .nil) }

theorem tell (notice : Notice) : (l.tell notice).Mirrors f settings (l'.tell notice) :=
  h.log (.told notice)

theorem count (counter : Counter) : (l.count counter).Mirrors f settings (l'.count counter) :=
  h.log (.counted counter)

theorem publish : l.publish.Mirrors f settings l'.publish := by
  refine { h with active := ?_ }
  rw [Lifecycle.publish, Lifecycle.publish, h.active, h.current, f.hasAccess_pair]

theorem setProfile (profile : Option Profile) :
    (l.setProfile profile).Mirrors f settings (l'.setProfile profile) :=
  { h with profile := rfl }

theorem writeStore (access : String) (refresh : Option String) :
    (l.writeStore access refresh).Mirrors f settings (l'.writeStore (f access) (refresh.map f)) := by
  refine { h with store := ?_ }
  rw [Lifecycle.writeStore, Lifecycle.writeStore, h.store]
  exact (f.store_set access refresh l.store).symm

theorem storeCredentials (access : String) (refresh : Option String) :
    (l.storeCredentials access refresh).Mirrors f settings
      (l'.storeCredentials (f access) (refresh.map f)) :=
  (h.writeStore access refresh).publish

theorem storeRenewed (epoch : UInt64) (renewed : Renewed) :
    (l'.storeRenewed epoch (f.renewed renewed)).1 = (l.storeRenewed epoch renewed).1 ∧
      (l.storeRenewed epoch renewed).2.Mirrors f settings
        (l'.storeRenewed epoch (f.renewed renewed)).2 := by
  rw [Lifecycle.storeRenewed, Lifecycle.storeRenewed, h.epoch]
  split
  · exact ⟨rfl, h.storeCredentials renewed.access renewed.refresh⟩
  · exact ⟨rfl, h⟩

theorem logout : l'.logout.1 = l.logout.1 ∧ l.logout.2.Mirrors f settings l'.logout.2 := by
  have hcleared : l'.isCleared = l.isCleared := by
    rw [isCleared, isCleared, h.current, h.profile, f.isEmpty_pair]
  rw [Lifecycle.logout, Lifecycle.logout, hcleared]
  split
  · exact ⟨rfl, h⟩
  · have hcleared : Mirrors f settings
        { l with store := l.store.clear, profile := none, epoch := l.epoch + 1 }
        { l' with store := l'.store.clear, profile := none, epoch := l'.epoch + 1 } := {
      store := by rw [h.store, f.store_clear]
      profile := rfl
      epoch := by rw [h.epoch]
      active := h.active
      journal := h.journal }
    exact ⟨rfl, (hcleared.publish.count .logout).tell .loggedOut⟩

theorem expire : l.expire.Mirrors f settings l'.expire := h.logout.2.tell .loginRequired

/-- A change from outside takes effect with renamed tokens if it does so with the tokens. -/
theorem act (a : Action) : (l'.act (f.action a)).1 = (l.act a).1 ∧
    (l.act a).2.Mirrors f settings (l'.act (f.action a)).2 := by
  cases a with
  | storeCredentials access refresh => exact ⟨rfl, h.storeCredentials access refresh⟩
  | writeStore access refresh => exact ⟨rfl, h.writeStore access refresh⟩
  | storeRenewed epoch renewed => exact h.storeRenewed epoch renewed
  | setProfile profile => exact ⟨rfl, h.setProfile profile⟩
  | logout => exact h.logout
  | expire => exact ⟨rfl, h.expire⟩
  | notify message => exact ⟨rfl, h.tell (.error message)⟩

end Mirrors

end Lifecycle

/-! ### Operations -/

/-- The address of a request depends on its path and its query alone. -/
theorem Request.url_congr {r r' : Request} (base : String) (hpath : r.path = r'.path)
    (hquery : r.query = r'.query) : r.url base = r'.url base := by
  have htext : r.urlText base = r'.urlText base := by
    have habsolute : r.isAbsolute = r'.isAbsolute := congrArg (fun path : String =>
      "http://".toList.isPrefixOf path.toList || "https://".toList.isPrefixOf path.toList) hpath
    change (if r.isAbsolute then r.path else Settings.below base r.path) =
      if r'.isAbsolute then r'.path else Settings.below base r'.path
    rw [habsolute, hpath]
  unfold url
  rw [htext, hquery]

namespace Session

variable {f : Renaming} {s s' : Session Memory}

/-- `s'` is `s` with renamed tokens, and no operation waits for a renewal to send its request again. -/
structure Mirrors (f : Renaming) (s s' : Session Memory) : Prop where
  settings : s'.settings = s.settings
  lifecycle : s.lifecycle.Mirrors f s.settings s'.lifecycle
  tasks : s'.tasks = s.tasks
  flight : s'.flight = s.flight.map f.flight
  handed : s'.handed = s.handed.map (Prod.map id f.granted)
  started : s'.started = s.started
  plain : ∀ id call, s.task? id ≠ some (.renewal (.replay call))

/-- Whether the request of a renewal can be sent does not depend on the token. -/
theorem renewalRequest_cases (settings : Settings) (refresh refresh' : String) :
    (∃ o o', renewalRequest settings refresh = .ok o ∧ renewalRequest settings refresh' = .ok o') ∨
      ∃ e e', renewalRequest settings refresh = .error e ∧
        renewalRequest settings refresh' = .error e' := by
  have hurl : (Request.post Settings.renewalPath (RenewalRequest.mk refresh').toValue).url
      settings.baseUrl = (Request.post Settings.renewalPath (RenewalRequest.mk refresh).toValue).url
        settings.baseUrl := Request.url_congr settings.baseUrl rfl rfl
  unfold renewalRequest
  dsimp only
  rw [hurl]
  generalize (Request.post Settings.renewalPath (RenewalRequest.mk refresh).toValue).url
    settings.baseUrl = address
  cases address with
  | error e => exact .inr ⟨_, _, rfl, rfl⟩
  | ok url =>
    by_cases hsendable : Outgoing.isSendable url.takeUserInfo.1 = true
    · simp only [Outgoing.ofParts, if_pos hsendable]
      exact .inl ⟨_, _, rfl, rfl⟩
    · simp only [Outgoing.ofParts, if_neg hsendable]
      exact .inr ⟨_, _, rfl, rfl⟩

namespace Mirrors

theorem ofStore (f : Renaming) (settings : Settings) (store : CredentialStore Memory) :
    (Session.ofStore settings store).Mirrors f (.ofStore settings (f.store store)) where
  settings := rfl
  lifecycle := .ofStore f settings store
  tasks := rfl
  flight := rfl
  handed := rfl
  started := rfl
  plain := fun _ _ h => by cases h

variable (h : s.Mirrors f s')

include h

theorem withLifecycle {l l' : Lifecycle Memory} (hl : l.Mirrors f s.settings l') :
    Mirrors f { s with lifecycle := l } { s' with lifecycle := l' } :=
  { h with lifecycle := hl }

theorem withFlight (g : Option Flight) :
    Mirrors f { s with flight := g } { s' with flight := g.map f.flight } :=
  { h with flight := rfl }

theorem withHanded (handed : List (TaskId × Granted)) :
    Mirrors f { s with handed } { s' with handed := handed.map (Prod.map id f.granted) } :=
  { h with handed := rfl }

theorem log {e e' : Entry} (he : f.Renames s.settings e e') : (s.log e).Mirrors f (s'.log e') :=
  h.withLifecycle (h.lifecycle.log he)

theorem count (counter : Counter) : (s.count counter).Mirrors f (s'.count counter) :=
  h.log (.counted counter)

theorem expire : (s.update (·.expire)).Mirrors f (s'.update (·.expire)) :=
  h.withLifecycle h.lifecycle.expire

variable {id : TaskId}

theorem await {t : Task} (ht : ∀ call, t ≠ .renewal (.replay call)) :
    (s.await id t).Mirrors f (s'.await id t) := by
  refine { h with tasks := ?_, plain := fun i call hi => ?_ }
  · rw [Session.await, Session.await, h.tasks]
  · exact forall_task?_await (P := fun _ t => ∀ call, t ≠ .renewal (.replay call))
      (fun i t hi call hcall => h.plain i call (hcall ▸ hi)) ht i _ hi call rfl

theorem dismiss (id : TaskId) : (s.dismiss id).Mirrors f (s'.dismiss id) := by
  refine { h with tasks := ?_, plain := fun i call hi => ?_ }
  · rw [Session.dismiss, Session.dismiss, h.tasks]
  · rw [task?_dismiss] at hi
    split at hi
    · cases hi
    · exact h.plain i call hi

theorem finish (r : Except SessionError Outcome) :
    (s.finish id r).Mirrors f (s'.finish id (f.result r)) :=
  (h.dismiss id).log (.finished id r)

theorem grant {want : Want} (hw : ∀ call, want ≠ .replay call) (g : Granted) :
    (s.grant id want g).Mirrors f (s'.grant id want (f.granted g)) := by
  have hlog := h.log (.granted id g)
  cases want with
  | replay call => exact absurd rfl (hw call)
  | token =>
    cases g with
    | ok token => exact hlog.finish (.ok (.token token))
    | error e => exact hlog.finish (.error e)
  | acknowledgement =>
    cases g with
    | ok token => exact hlog.finish (.ok (.renewed true))
    | error e => exact hlog.finish (.error e)

theorem renewThen {want : Want} (hw : ∀ call, want ≠ .replay call) :
    (s.renewThen id want).Mirrors f (s'.renewThen id want) := by
  have hask := h.log (.asked id)
  have ht : ∀ call, Task.renewal want ≠ .renewal (.replay call) :=
    fun call heq => hw call (Task.renewal.inj heq)
  have hflight := h.flight
  cases hf : s.flight with
  | some g =>
    rw [hf] at hflight
    rw [renewThen_of_flight hf, renewThen_of_flight hflight]
    exact (hask.withFlight (some { g with waiters := g.waiters ++ [id] })).await ht
  | none =>
    rw [hf] at hflight
    by_cases hr : s.lifecycle.store.current.refresh = ""
    · have hr' := h.lifecycle.refresh_eq_empty_iff.2 hr
      rw [renewThen_of_refresh_eq hf hr, renewThen_of_refresh_eq hflight hr']
      exact (hask.count (.renewal .noRefreshToken)).expire.grant hw (.error .sessionExpired)
    · have hr' := mt h.lifecycle.refresh_eq_empty_iff.1 hr
      have hrefresh : s'.lifecycle.store.current.refresh = f s.lifecycle.store.current.refresh :=
        congrArg CredentialPair.refresh h.lifecycle.current
      have hlaunched : (s.launched id want).Mirrors f (s'.launched id want) := by
        rw [launched, launched, hrefresh, h.lifecycle.epoch]
        exact ((hask.withFlight (some _)).await ht).log (.renewing _)
      rw [renewThen_of_idle hf hr, renewThen_of_idle hflight hr', hrefresh, h.settings]
      rcases renewalRequest_cases s.settings s.lifecycle.store.current.refresh
        (f s.lifecycle.store.current.refresh) with ⟨o, o', ho, ho'⟩ | ⟨e, e', he, he'⟩
      · rw [ho, ho']
        exact hlaunched.log (.sent ho ho')
      · rw [he, he']
        exact hlaunched

theorem handOver (ids : List TaskId) (g : Granted) :
    (s.handOver ids g).Mirrors f (s'.handOver ids (f.granted g)) := by
  refine { h with handed := ?_ }
  simp only [Session.handOver, h.handed, List.map_append, List.map_map]
  rfl

theorem goOn (id : TaskId) (g : Granted) :
    (s.goOn id g).Mirrors f (s'.goOn id (f.granted g)) := by
  by_cases ht : ∃ want, s.task? id = some (.renewal want)
  · obtain ⟨want, ht⟩ := ht
    have ht' : s'.task? id = some (.renewal want) := by rw [task?, h.tasks, ← task?, ht]
    rw [goOn_of_task ht, goOn_of_task ht']
    exact h.grant (fun call hw => h.plain id call (hw ▸ ht)) g
  · rw [not_exists] at ht
    have ht' : ∀ want, s'.task? id ≠ some (.renewal want) := by
      rw [task?, h.tasks, ← task?]
      exact ht
    rw [goOn_of_dropped ht, goOn_of_dropped ht']
    exact h

theorem conclude (g : Flight) (result : Except RenewalError Renewed) :
    (s'.conclude (f.flight g) (result.map f.renewed)).1 = f.granted (s.conclude g result).1 ∧
      (s.conclude g result).2.Mirrors f (s'.conclude (f.flight g) (result.map f.renewed)).2 := by
  have hidle := h.withFlight none
  cases result with
  | error e => exact ⟨rfl, hidle.expire.count (.renewal .failed)⟩
  | ok renewed =>
    have hstore := h.lifecycle.storeCredentials renewed.access renewed.refresh
    simp only [Session.conclude, Except.map, Lifecycle.storeRenewed, h.lifecycle.epoch,
      Renaming.flight]
    by_cases hepoch : s.lifecycle.epoch = g.epoch
    · simp only [if_pos hepoch]
      exact ⟨rfl, (hidle.withLifecycle hstore).count (.renewal .ok)⟩
    · simp only [if_neg hepoch]
      exact ⟨rfl, hidle.count (.renewal .discarded)⟩

theorem resolve (result : Except RenewalError Renewed) :
    (s.resolve result).Mirrors f (s'.resolve (result.map f.renewed)) := by
  have hflight := h.flight
  cases hf : s.flight with
  | none =>
    rw [hf] at hflight
    simp only [Session.resolve, hf, hflight]
    exact h
  | some g =>
    rw [hf] at hflight
    obtain ⟨hgranted, hconclude⟩ := h.conclude g result
    have hgoOn := (hconclude.handOver g.waiters (s.conclude g result).1).goOn g.driver
      (s.conclude g result).1
    rw [← hgranted] at hgoOn
    simp only [Session.resolve, hf, hflight]
    exact hgoOn

theorem resume : s.resume.Mirrors f s'.resume := by
  have hhanded := h.handed
  cases hd : s.handed with
  | nil =>
    rw [hd] at hhanded
    simp only [Session.resume, hd, hhanded]
    exact h
  | cons d rest =>
    rw [hd] at hhanded
    simp only [Session.resume, hd, hhanded]
    exact (h.withHanded rest).goOn d.1 d.2

theorem abort (id : TaskId) : (s.abort id).Mirrors f (s'.abort id) := by
  have hdismiss := h.dismiss id
  have hflight := hdismiss.flight
  cases hf : (s.dismiss id).flight with
  | none =>
    rw [hf] at hflight
    simp only [Session.abort, hf, hflight]
    exact hdismiss
  | some g =>
    rw [hf, Option.map_some] at hflight
    simp only [Session.abort, hf, hflight, Renaming.flight]
    by_cases hdriver : g.driver = id
    · simp only [if_pos hdriver]
      exact ((hdismiss.withFlight none).count (.renewal .abandoned)).handOver g.waiters
        (.error (.transport none abandonedMessage))
    · simp only [if_neg hdriver]
      exact hdismiss

theorem reset : s.reset.Mirrors f s'.reset := by
  have hflight := h.flight
  cases hf : s.flight with
  | none =>
    rw [hf] at hflight
    simp only [Session.reset, hf, hflight]
    exact h
  | some g =>
    rw [hf] at hflight
    simp only [Session.reset, hf, hflight]
    exact (h.withFlight (some { g with waiters := [] })).handOver g.waiters (.error .sessionExpired)

theorem start {operation : Operation} (hmere : operation.isMere = true) :
    (s.start operation).Mirrors f (s'.start operation) := by
  have hstarted : Mirrors f { s with started := s.started + 1 } { s' with started := s.started + 1 } :=
    { h with started := rfl }
  cases operation with
  | renew =>
    simp only [Session.start, h.started]
    exact hstarted.renewThen (fun _ hw => by cases hw)
  | renewNow =>
    have hrefresh := f.hasRefresh_pair s.lifecycle.store.current
    rw [← h.lifecycle.current] at hrefresh
    simp only [Session.start, h.started, hrefresh]
    split
    · exact hstarted.renewThen (fun _ hw => by cases hw)
    · exact hstarted.finish (.ok (.renewed false))
  | _ => cases hmere

/-- Two sessions that are alike but for the names of their tokens stay so. -/
theorem step {e : Event} (he : e.IsMere) : (s.step e).Mirrors f (s'.step (f.event e)) := by
  cases e with
  | start operation => exact h.start he
  | resolve result => exact h.resolve result
  | resume => exact h.resume
  | abort id => exact h.abort id
  | reset => exact h.reset
  | act a => exact h.withLifecycle (h.lifecycle.act a).2
  | _ => exact he.elim

theorem run {events : List Event} (he : ∀ e ∈ events, e.IsMere) :
    (s.run events).Mirrors f (s'.run (events.map f.event)) := by
  induction events generalizing s s' with
  | nil => exact h
  | cons e events ih =>
    exact ih (h.step (he e List.mem_cons_self)) fun e' h' => he e' (List.mem_cons_of_mem e h')

end Mirrors

/-! ### What can be seen -/

/-- What can be seen of a session. -/
structure View where
  notices : List Notice
  counters : List Counter
  epoch : UInt64
  active : Observable
  profile : Option Profile
  isRefreshing : Bool
  queued : Nat
  results : List (TaskId × Except SessionError Outcome)
  current : CredentialPair
  /-- What is persisted. -/
  entries : Json.Entries
  /-- The refresh tokens that renewals were started with. -/
  renewals : List String

/-- What can be seen of a session. -/
def view (s : Session Memory) : View where
  notices := s.lifecycle.journal.notices
  counters := s.lifecycle.journal.counters
  epoch := s.lifecycle.epoch
  active := s.lifecycle.active
  profile := s.lifecycle.profile
  isRefreshing := s.isRefreshing
  queued := s.queued
  results := s.lifecycle.journal.results
  current := s.lifecycle.store.current
  entries := s.lifecycle.store.storage.entries
  renewals := s.lifecycle.journal.renewals

/-- What is seen then, with renamed tokens. -/
def View.renamed (f : Renaming) (v : View) : View :=
  { v with
    results := v.results.map (Prod.map id f.result)
    current := f.pair v.current
    entries := f.entries v.entries
    renewals := v.renewals.map f }

theorem Mirrors.view_eq (h : s.Mirrors f s') : s'.view = s.view.renamed f := by
  have hrefreshing : s'.isRefreshing = s.isRefreshing := by
    rw [isRefreshing, isRefreshing, h.flight, Option.isSome_map]
  have hqueued : s'.queued = s.queued := by
    rw [queued, queued, h.flight, Option.map_map]
    rfl
  simp only [view, View.renamed, Renaming.notices_eq h.lifecycle.journal,
    Renaming.counters_eq h.lifecycle.journal, Renaming.renewals_eq h.lifecycle.journal,
    Renaming.results_eq h.lifecycle.journal, h.lifecycle.epoch, h.lifecycle.active,
    h.lifecycle.profile, hrefreshing, hqueued, h.lifecycle.store, Renaming.store, Renaming.memory]

/-- A session over a memory depends on its tokens only as far as they are empty or not. When all tokens
    are renamed, those that are persisted at first and those that come later, what is seen of the
    session is the same, but for the names of the tokens; and what is done to it from outside takes
    effect as before. -/
theorem view_run_renamed (f : Renaming) (settings : Settings) (entries : Json.Entries)
    {events : List Event} (h : ∀ e ∈ events, e.IsMere) :
    let s := (ofStore settings (.restore (Memory.mk entries))).run events
    let s' := (ofStore settings (.restore (Memory.mk (f.entries entries)))).run (events.map f.event)
    s'.view = s.view.renamed f ∧
      ∀ a, (s'.lifecycle.act (f.action a)).1 = (s.lifecycle.act a).1 := by
  intro s s'
  have hofStore := Mirrors.ofStore f settings (.restore (Memory.mk entries))
  rw [← f.store_restore] at hofStore
  have hrun : s.Mirrors f s' := hofStore.run h
  exact ⟨hrun.view_eq, fun a => (hrun.lifecycle.act a).1⟩

end Session

/-- All tokens but the empty one get the same name. -/
def Renaming.alike : Renaming where
  toFun token := if token = "" then "" else "x"
  eq_empty_iff token := by
    split
    · rename_i h
      exact iff_of_true rfl h
    · rename_i h
      exact iff_of_false (by decide) h

namespace Session

/-- Two callers wait for a renewal, while the store is written to; it brings a new access token, and
    after a logout there is a late one that is thrown away. With one name for all tokens the same is
    seen. -/
theorem view_run_alike :
    let entries : Json.Entries := [("access_token", "a1"), ("refresh_token", "r1"), ("theme", "dark")]
    let events : List Event := [.start .renew, .start .renewNow, .act (.writeStore "a2" (some "r2")),
      .resolve (.ok ⟨"a3", none⟩), .resume, .start .renew, .abort 2, .start .renew, .reset, .act .logout,
      .act (.storeCredentials "a4" (some "")), .resolve (.ok ⟨"a5", some "r5"⟩)]
    let s := (ofStore {} (.restore (Memory.mk entries))).run events
    let s' := (ofStore {} (.restore (Memory.mk (Renaming.alike.entries entries)))).run
      (events.map Renaming.alike.event)
    (∀ e ∈ events, e.IsMere) ∧ s.view.current = ⟨"a4", ""⟩ ∧ s.view.renewals = ["r1", "r2", "r2"] ∧
      s'.view = s.view.renamed .alike := by
  intro entries events s s'
  have hmere : ∀ e ∈ events, e.IsMere := by decide
  have hcurrent : s.view.current = ⟨"a4", ""⟩ := by decide +kernel
  have hrenewals : s.view.renewals = ["r1", "r2", "r2"] := by decide +kernel
  clear_value events
  exact ⟨hmere, hcurrent, hrenewals, (view_run_renamed .alike {} entries hmere).1⟩

end Session

end ShopClient
