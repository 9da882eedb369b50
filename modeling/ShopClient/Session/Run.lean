import ShopClient.Account.SignIn
import ShopClient.Session.Client

/-!
# Runs of a session

All that can happen to a session, one event after the other: operations are started and dropped,
exchanges end, a renewal ends, outcomes are picked up, and the session is changed from outside.

A *link* says which requests reach the shop at all: all of them, none, or those to some addresses. What
does not reach it is never answered, and so comes to its end by itself (`settle`).
-/

namespace ShopClient

/-- An operation that a session is asked for. -/
inductive Operation
  /-- To send a request, if it could be built, and to decode the payload. -/
  | send (request : Except InvalidRequest Request) (shape : Shape)
  | signIn (credentials : Credentials)
  | register (credentials : Credentials)
  | fetchProfile
  | changeProfile (change : ProfileChange)
  /-- To renew the access token, if there is a refresh token, and to say whether it was done. -/
  | renewNow
  /-- To renew the access token. -/
  | renew

/-- A change of a session from outside. -/
inductive Action
  | storeCredentials (access : String) (refresh : Option String)
  /-- To change the tokens without publishing. -/
  | writeStore (access : String) (refresh : Option String)
  | storeRenewed (epoch : UInt64) (renewed : Renewed)
  | setProfile (profile : Option Profile)
  | logout
  | expire
  | notify (message : String)

/-- Something that happens to a session. -/
inductive Event
  | start (operation : Operation)
  | answer (id : TaskId) (x : Exchange)
  | answerRenewal (x : Exchange)
  | resolve (result : Except RenewalError Renewed)
  | resume
  | abort (id : TaskId)
  | reset
  | act (action : Action)

variable {σ : Type} [Storage σ]

/-- A session changed from outside. Says whether the change took effect, where that is in question. -/
def Lifecycle.act (action : Action) (l : Lifecycle σ) : Bool × Lifecycle σ :=
  match action with
  | .storeCredentials access refresh => (true, l.storeCredentials access refresh)
  | .writeStore access refresh => (true, l.writeStore access refresh)
  | .storeRenewed epoch renewed => l.storeRenewed epoch renewed
  | .setProfile profile => (true, l.setProfile profile)
  | .logout => l.logout
  | .expire => (true, l.expire)
  | .notify message => (true, l.tell (.error message))

namespace Session

/-- Starts an operation. -/
def start (operation : Operation) (s : Session σ) : Session σ :=
  let id := s.started
  let s := { s with started := id + 1 }
  let post (path : String) (c : Credentials) : Request := (Request.post path c.toValue).asPublic
  match operation with
  | .send (.ok request) shape => s.begin id ⟨request, .payload shape⟩
  | .send (.error e) _ => s.finish id (.error (.invalidRequest e.message))
  | .signIn c => s.begin id ⟨post Settings.loginPath c, .signIn⟩
  | .register c => s.begin id ⟨post Settings.registerPath c, .payload .any⟩
  | .fetchProfile => s.fetchProfile id
  | .changeProfile change =>
    let request : Request :=
      { method := "PUT", path := Settings.profilePath, body := some change.toValue.keyed }
    s.begin id ⟨request, .changedProfile⟩
  | .renewNow =>
    if s.lifecycle.store.current.hasRefresh then s.renewThen id .acknowledgement
    else s.finish id (.ok (.renewed false))
  | .renew => s.renewThen id .token

/-- What becomes of a session. -/
def step (s : Session σ) : Event → Session σ
  | .start operation => s.start operation
  | .answer id x => s.answer id x
  | .answerRenewal x => s.answerRenewal x
  | .resolve result => s.resolve result
  | .resume => s.resume
  | .abort id => s.abort id
  | .reset => s.reset
  | .act action => s.update fun l => (l.act action).2

/-- What becomes of a session in the course of events. -/
def run (events : List Event) (s : Session σ) : Session σ := events.foldl step s

end Session

/-! ### Links -/

/-- The way to the shop. -/
structure Link where
  /-- Whether a request reaches the shop. -/
  carries : Outgoing → Bool

/-- Every request reaches the shop. -/
def Link.up : Link := ⟨fun _ => true⟩

/-- No request reaches the shop. -/
def Link.down : Link := ⟨fun _ => false⟩

namespace Session

/-- The renewal in flight ends, if its request does not reach the shop. -/
def settleRenewal (link : Link) (s : Session σ) : Session σ :=
  match s.flight with
  | none => s
  | some f => match renewalRequest s.settings f.refresh with
    | .ok request => if link.carries request then s else s.answerRenewal .unanswered
    | .error e => s.resolve (.error (.transport e.message))

/-- The operations end whose requests do not reach the shop. -/
def settleTasks (link : Link) (s : Session σ) : Session σ :=
  s.tasks.foldl (fun s e => match s.outstanding? e.1 with
    | some request => if link.carries request then s else s.answer e.1 .unanswered
    | none => s) s

/-- All ends that can end by itself: the renewal, then what was handed over, then the requests. -/
def settle (link : Link) (s : Session σ) : Session σ :=
  ((s.settleRenewal link).resumeAll).settleTasks link

/-- The request that the shop holds for an operation. -/
def held? (link : Link) (id : TaskId) (s : Session σ) : Option Outgoing :=
  (s.outstanding? id).filter link.carries

/-- The request that the shop holds for the renewal in flight. -/
def heldRenewal? (link : Link) (s : Session σ) : Option Outgoing :=
  s.flight.bind fun f => match renewalRequest s.settings f.refresh with
    | .ok request => if link.carries request then some request else none
    | .error _ => none

end Session

end ShopClient
