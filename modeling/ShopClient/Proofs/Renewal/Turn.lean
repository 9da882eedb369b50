import ShopClient.Proofs.Session.Course

/-!
# Turns of the renewal

All that one step can do to the renewal in flight, to those who wait for it, and to what they were
handed (`Turn`). An operation that asks for a renewal drives it or stands in the queue behind it; when
the renewal ends, the driver goes on, and the others are handed what it came to, which they pick up
one by one. The *line* holds all of them in the order in which they are served: those who went on, the
driver, those who were handed an outcome, the queue.

* `Session.deals`: whom an event hands which outcome;
* `Turn`: what becomes of a session by one step.
-/

namespace ShopClient.Session

variable {σ : Type}

/-! ### The line -/

/-- The operations in the queue behind the renewal in flight, in the order in which they came. -/
def parked (s : Session σ) : List TaskId := (s.flight.map (·.waiters)).getD []

/-- The operation that drives the renewal in flight. -/
def driver (s : Session σ) : List TaskId := (s.flight.map (·.driver)).toList

/-- The operations that wait for a renewal or have yet to pick up what it came to. -/
def waiting (s : Session σ) : List TaskId := s.driver ++ (s.handed.map (·.1) ++ s.parked)

/-- The operations that went on with what a renewal came to. -/
def told (s : Session σ) : List TaskId := s.lifecycle.journal.grants.map (·.1)

/-- All operations that asked for a renewal, but for those who were dropped. -/
def line (s : Session σ) : List TaskId := s.told ++ s.waiting

/-- An operation is where it can go on from: it did not ask for a renewal before it sent its first
    request, and was told what the renewal came to before it sent its request again. -/
structure IsPlaced (id : TaskId) (again : Bool) (s : Session σ) : Prop where
  lt : id < s.started
  fresh : again = false → id ∉ s.lifecycle.journal.asked
  told : again = true → id ∈ s.told

/-! ### Outcomes -/

variable [Storage σ]

/-- What the renewal `f` comes to for those who wait for it: the new access token, if the result was
    stored. -/
def verdict (f : Flight) (result : Except RenewalError Renewed) (s : Session σ) : Granted :=
  match result with
  | .ok renewed =>
    if (s.lifecycle.storeRenewed f.epoch renewed).1 then .ok renewed.access
    else .error .sessionExpired
  | .error _ => .error .sessionExpired

/-- What those are told who waited for a renewal whose driver was dropped. -/
def abandoned : Granted := .error (.transport none abandonedMessage)

/-- The operations that ask for a renewal between `s` and `s'`. -/
def asking (s s' : Session σ) : List TaskId :=
  s'.lifecycle.journal.asked.drop s.lifecycle.journal.asked.length

/-- Those who ask for a renewal between `s` and `s'` are turned away, if none is in flight and there is
    no refresh token to start one with. -/
def refusals (s s' : Session σ) : List (TaskId × Granted) :=
  if s.flight.isNone ∧ s.lifecycle.store.current.refresh = "" then
    (s.asking s').map (·, .error .sessionExpired)
  else []

/-- Whom `e` deals an outcome. The end of a renewal deals it to its driver and to the queue, the end of
    its driver to the queue, and so does a reset; who asks without a refresh token is turned away. -/
def deals (s : Session σ) : Event → List (TaskId × Granted)
  | .start operation => s.refusals (s.start operation)
  | .answer id x => s.refusals (s.answer id x)
  | .resolve result => match s.flight with
    | some f => (f.driver :: f.waiters).map (·, s.verdict f result)
    | none => []
  | .answerRenewal x => match s.flight with
    | some f => (f.driver :: f.waiters).map (·, s.verdict f (f.result s.settings x))
    | none => []
  | .abort id => match s.flight with
    | some f => if f.driver = id then f.waiters.map (·, abandoned) else []
    | none => []
  | .reset => match s.flight with
    | some f => f.waiters.map (·, .error .sessionExpired)
    | none => []
  | .resume | .act _ => []

/-- The operation that `e` drops, if it is under way. -/
def drops (s : Session σ) : Event → List TaskId
  | .abort id => if id ∈ s.ids then [id] else []
  | _ => []

/-! ### Turns -/

/-- The session when an event comes in: a new operation has its number. -/
def opened (s : Session σ) : Event → Session σ
  | .start _ => { s with started := s.started + 1 }
  | _ => s

omit [Storage σ] in
theorem opened_cases (s : Session σ) (e : Event) :
    s.opened e = s ∨ s.opened e = { s with started := s.started + 1 } := by
  cases e with
  | start => exact .inr rfl
  | _ => exact .inl rfl

omit [Storage σ] in
@[simp] theorem lifecycle_opened (s : Session σ) (e : Event) :
    (s.opened e).lifecycle = s.lifecycle := by
  cases e <;> rfl

/-- The session in which the operation `id` has started a renewal. -/
def launched (id : TaskId) (want : Want) (s : Session σ) : Session σ :=
  let refresh := s.lifecycle.store.current.refresh
  let flight : Flight := { driver := id, refresh, epoch := s.lifecycle.epoch }
  ({ s.log (.asked id) with flight := some flight }.await id (.renewal want)).log (.renewing refresh)

/-- What one step can do to a session, with the operation that it drops and the outcomes that it
    deals. -/
inductive Turn (s : Session σ) :
    List TaskId → List (TaskId × Granted) → Session σ → Prop
  /-- Nothing changes but the lifecycle. -/
  | rests {s' : Session σ} : s.Rests s' → Turn s [] [] s'
  /-- An operation goes on without a renewal. -/
  | advances {id : TaskId} {again : Bool} {s' : Session σ} :
    s.IsPlaced id again → Advances id again s s' → Turn s [] [] s'
  /-- An operation comes into the queue. -/
  | parks {id : TaskId} {want : Want} {f : Flight} :
    s.IsPlaced id false → want.IsSound → s.flight = some f →
      Turn s [] [] ({ s.log (.asked id) with
        flight := some { f with waiters := f.waiters ++ [id] } }.await id (.renewal want))
  /-- An operation starts a renewal, whose request is sent if it has an address. -/
  | drives {id : TaskId} {want : Want} {s' : Session σ} :
    s.IsPlaced id false → want.IsSound → s.flight = none →
      s.lifecycle.store.current.refresh ≠ "" →
      (s' = s.launched id want ∨ ∃ o, s' = (s.launched id want).log (.sent .renewal o)) → Turn s [] [] s'
  /-- An operation asks for a renewal without a refresh token. -/
  | denied {id : TaskId} {s₁ s' : Session σ} :
    s.IsPlaced id false → s.flight = none → s.lifecycle.store.current.refresh = "" →
      (s.log (.asked id)).Rests s₁ →
      Advances id true (s₁.log (.granted id (.error .sessionExpired))) s' →
      Turn s [] [(id, .error .sessionExpired)] s'
  /-- The renewal ends, and its driver goes on. -/
  | concludes {f : Flight} {granted : Granted} {l : Lifecycle σ} {r : RenewalResult}
    {s' : Session σ} :
    s.flight = some f → s.lifecycle.Becomes l → r ≠ .noRefreshToken →
      Advances f.driver true ((({ s with flight := none, lifecycle := l.count (.renewal r) }).handOver
        f.waiters granted).log (.granted f.driver granted)) s' →
      Turn s [] ((f.driver :: f.waiters).map (·, granted)) s'
  /-- An operation goes on with what it was handed. -/
  | picksUp {id : TaskId} {granted : Granted} {rest : List (TaskId × Granted)} {s' : Session σ} :
    s.handed = (id, granted) :: rest →
      Advances id true ({ s with handed := rest }.log (.granted id granted)) s' → Turn s [] [] s'
  /-- What was handed to an operation that was dropped is thrown away. -/
  | skips {id : TaskId} {granted : Granted} {rest : List (TaskId × Granted)} :
    s.handed = (id, granted) :: rest → (∀ want, s.task? id ≠ some (.renewal want)) →
      Turn s [] [] { s with handed := rest }
  /-- An operation is dropped that drives no renewal. -/
  | leaves {id : TaskId} : (∀ f, s.flight = some f → f.driver ≠ id) → Turn s [id] [] (s.dismiss id)
  /-- The driver is dropped. -/
  | abandons {f : Flight} :
    s.flight = some f → Turn s [f.driver] (f.waiters.map (·, abandoned))
      ((({ s.dismiss f.driver with flight := none }).count (.renewal .abandoned)).handOver f.waiters
        abandoned)
  /-- The queue is turned away. -/
  | turnsAway {f : Flight} :
    s.flight = some f → Turn s [] (f.waiters.map (·, .error .sessionExpired))
      (({ s with flight := some { f with waiters := [] } }).handOver f.waiters
        (.error .sessionExpired))

end ShopClient.Session
