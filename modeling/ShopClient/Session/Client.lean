import ShopClient.Session.Basic

/-!
# Operations of a session

How an operation goes on when what it waits for has happened. Every request passes through the same
steps: it takes the current access token along; an answer that refuses the token makes the operation
renew it, or wait for the renewal that is in flight, and send the request once more; any other
failure is the operation's own and leaves the session as it is.

* `receive`: what an answer comes to;
* `renewThen`: the way into a renewal. The first to come drives it;
* `resolve`: the end of a renewal. The driver goes on at once, the others are handed the outcome;
* `abort`, `reset`: the other ends of waiting.
-/

namespace ShopClient

/-- What those are told who waited for a renewal whose driver was dropped. -/
def abandonedMessage : String := "token renewal was abandoned before completing"

namespace Session

variable {σ : Type} [Storage σ]

/-- Ends an operation with an error of its request. The user is told of what failed on its way, and a
    profile that cannot be had ends the session. -/
def fail (id : TaskId) (call : Call) (e : SessionError) (s : Session σ) : Session σ :=
  let s := s.count (.request e.requestResult)
  let s := match e with
    | .transport _ message => s.update (·.tell (.error message))
    | _ => s
  let s := match call.goal with
    | .profile => s.update (·.logout.2)
    | _ => s
  s.finish id (.error e)

/-- Sends the request of a call, with an access token if there is one. -/
def issue (id : TaskId) (call : Call) (again : Bool) (bearer : Option String) (s : Session σ) :
    Session σ :=
  match Outgoing.ofRequest s.settings.baseUrl bearer s.dispatched call.request with
  | .error e => s.fail id call e
  | .ok request =>
    let task := if again then Task.replayed call request else Task.first call request
    (({ s with dispatched := s.dispatched + 1 }).await id task).log (.sent (.task id) request)

/-- Starts a call with the current access token. -/
def begin (id : TaskId) (call : Call) (s : Session σ) : Session σ :=
  s.issue id call false s.access?

/-- Fetches the profile, if there is an access token to fetch it with. -/
def fetchProfile (id : TaskId) (s : Session σ) : Session σ :=
  if s.lifecycle.store.current.hasAccess then s.begin id ⟨.get Settings.profilePath, .profile⟩
  else s.finish id (.ok (.profile none))

/-- Ends an operation whose payload is not what it expects. -/
def reject (id : TaskId) (m : Json.Mismatch) (s : Session σ) : Session σ :=
  s.finish id (.error (.undecodable m.message))

/-- Goes on with the payload of an answer. -/
def succeed (id : TaskId) (call : Call) (payload : Json.Value) (s : Session σ) : Session σ :=
  let s := s.count (.request .ok)
  match call.goal with
  | .payload shape => match shape.decode payload with
    | .ok v => s.finish id (.ok (.payload v))
    | .error m => s.reject id m
  | .signIn => match SignInReply.decode payload with
    | .ok reply =>
      if reply.access = "" then s.finish id (.ok (.profile none))
      else (s.update (·.storeCredentials reply.access (some reply.refresh))).fetchProfile id
    | .error m => s.reject id m
  | .profile => match Profile.decode payload with
    | .ok p => (s.update (·.setProfile (some p))).finish id (.ok (.profile (some p)))
    | .error m => (s.update (·.logout.2)).reject id m
  | .changedProfile => match Profile.decode payload with
    | .ok p => (s.update (·.setProfile (some p))).finish id (.ok (.payload p.toValue))
    | .error m => s.reject id m

/-- An operation goes on with what a renewal came to. -/
def grant (id : TaskId) (want : Want) (granted : Granted) (s : Session σ) : Session σ :=
  let s := s.log (.granted id granted)
  match want, granted with
  | .replay call, .ok token => (s.count .replay).issue id call true (some token)
  | .replay call, .error e => s.fail id call e
  | .token, granted => s.finish id (granted.map .token)
  | .acknowledgement, granted => s.finish id (granted.map fun _ => .renewed true)

/-- An operation needs a new access token: it waits behind the renewal in flight, or drives one of
    its own. Without a refresh token the session is over. -/
def renewThen (id : TaskId) (want : Want) (s : Session σ) : Session σ :=
  let s := s.log (.asked id)
  match s.flight with
  | some f =>
    { s with flight := some { f with waiters := f.waiters ++ [id] } }.await id (.renewal want)
  | none =>
    let refresh := s.lifecycle.store.current.refresh
    if refresh = "" then
      ((s.count (.renewal .noRefreshToken)).update (·.expire)).grant id want (.error .sessionExpired)
    else
      let s := { s with flight := some { driver := id, refresh, epoch := s.lifecycle.epoch } }
      let s := (s.await id (.renewal want)).log (.renewing refresh)
      match renewalRequest s.settings refresh with
      | .ok request => s.log (.sent .renewal request)
      | .error _ => s

/-- What an answer comes to. `again` says whether the request had been sent before. -/
def receive (id : TaskId) (call : Call) (again : Bool) (answer : Except SessionError Received)
    (s : Session σ) : Session σ :=
  match answer with
  | .error e => s.fail id call e
  | .ok (.body body) => match (Envelope.ofBytes body).payload with
    | .ok payload => s.succeed id call payload
    | .error e => s.fail id call e
  | .ok (.unauthorized body) =>
    if again then (s.update (·.expire)).fail id call .sessionExpired
    else if call.request.isPublic then
      s.fail id call (transportError (some .unauthorized) body
        (some Http.Status.unauthorized.message))
    else s.renewThen id (.replay call)

/-- The exchange of an operation's request has ended. -/
def answer (id : TaskId) (x : Exchange) (s : Session σ) : Session σ :=
  let timeout := s.settings.requestTimeout
  match s.task? id with
  | some (.first call request) => s.receive id call false (x.received request timeout)
  | some (.replayed call request) => s.receive id call true (x.received request timeout)
  | _ => s

/-! ### The end of a renewal -/

/-- Hands an outcome over to operations. -/
def handOver (ids : List TaskId) (granted : Granted) (s : Session σ) : Session σ :=
  { s with handed := s.handed ++ ids.map (·, granted) }

/-- An operation that waits for a renewal goes on. One that was dropped does not. -/
def goOn (id : TaskId) (granted : Granted) (s : Session σ) : Session σ :=
  match s.task? id with
  | some (.renewal want) => s.grant id want granted
  | _ => s

/-- The renewal `f` is over: its result is stored, unless there was a logout since it was started; a
    failure ends the session. With what that comes to for those who wait. -/
def conclude (f : Flight) (result : Except RenewalError Renewed) (s : Session σ) :
    Granted × Session σ :=
  let s := { s with flight := none }
  match result with
  | .ok renewed => match s.lifecycle.storeRenewed f.epoch renewed with
    | (true, lifecycle) => (.ok renewed.access, { s with lifecycle }.count (.renewal .ok))
    | (false, lifecycle) =>
      (.error .sessionExpired, { s with lifecycle }.count (.renewal .discarded))
  | .error _ => (.error .sessionExpired, (s.update (·.expire)).count (.renewal .failed))

/-- The renewal in flight has ended. Those who wait behind it are handed what it comes to, and its
    driver goes on. -/
def resolve (result : Except RenewalError Renewed) (s : Session σ) : Session σ :=
  match s.flight with
  | none => s
  | some f =>
    let (granted, s) := s.conclude f result
    (s.handOver f.waiters granted).goOn f.driver granted

/-- The exchange of the renewal in flight has ended. -/
def answerRenewal (x : Exchange) (s : Session σ) : Session σ :=
  match s.flight with
  | some f => s.resolve (f.result s.settings x)
  | none => s

/-- The next operation picks up what it was handed. -/
def resume (s : Session σ) : Session σ :=
  match s.handed with
  | [] => s
  | (id, granted) :: rest => { s with handed := rest }.goOn id granted

/-- All operations pick up what they were handed. -/
def resumeAll (s : Session σ) : Session σ :=
  s.handed.foldl (fun s _ => s.resume) s

/-- Drops an operation. If it drives the renewal in flight, that ends for those who wait. -/
def abort (id : TaskId) (s : Session σ) : Session σ :=
  let s := s.dismiss id
  match s.flight with
  | some f =>
    if f.driver = id then
      (({ s with flight := none }).count (.renewal .abandoned)).handOver f.waiters
        (.error (.transport none abandonedMessage))
    else s
  | none => s

/-- Turns away the operations that wait behind the renewal in flight. The renewal goes on. -/
def reset (s : Session σ) : Session σ :=
  match s.flight with
  | some f =>
    ({ s with flight := some { f with waiters := [] } }).handOver f.waiters (.error .sessionExpired)
  | none => s

end Session

end ShopClient
