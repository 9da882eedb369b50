import ShopClient.Session.Lifecycle
import ShopClient.Session.Payload

/-!
# Sessions

A session with the operations that are under way. An operation waits for one thing at a time: for the
answer to a request of its own, or for a renewal of the access token.

At most one renewal is in flight. The operation that found the token expired drives it; operations
that come later wait behind it, in the order in which they came, and are handed its outcome when it
ends. What was handed over is picked up afterwards, one operation at a time.
-/

namespace ShopClient

/-- What becomes of the payload of an answer. -/
inductive Goal
  /-- It goes to the caller, in the expected shape. -/
  | payload (shape : Shape)
  /-- It holds the tokens of a new session. -/
  | signIn
  /-- It is the profile to cache. Without it the session is of no use. -/
  | profile
  /-- It is the changed profile. -/
  | changedProfile

/-- A request with what it is for. -/
structure Call where
  request : Request
  goal : Goal

/-- What an operation does with a renewed access token. -/
inductive Want
  /-- It sends its request again. -/
  | replay (call : Call)
  /-- It yields the token. -/
  | token
  /-- It yields the word that the token was renewed. -/
  | acknowledgement

/-- What an operation waits for. -/
inductive Task
  /-- The answer to the first request of a call. -/
  | first (call : Call) (request : Outgoing)
  /-- The answer to the request that was sent again. -/
  | replayed (call : Call) (request : Outgoing)
  /-- The outcome of a renewal, its own or another's. -/
  | renewal (want : Want)

/-- A renewal in flight. -/
structure Flight where
  /-- The operation that drives it. -/
  driver : TaskId
  /-- The refresh token it was started with. -/
  refresh : String
  /-- The epoch in which it was started. -/
  epoch : UInt64
  /-- The operations that wait behind it. One that was dropped keeps its place. -/
  waiters : List TaskId := []

/-- A session with its operations. -/
structure Session (σ : Type) where
  settings : Settings := {}
  lifecycle : Lifecycle σ
  /-- The operations under way, in the order in which they were started. -/
  tasks : List (TaskId × Task) := []
  flight : Option Flight := none
  /-- Outcomes that were handed over and not yet picked up. -/
  handed : List (TaskId × Granted) := []
  /-- The number of operations that were started. -/
  started : Nat := 0
  /-- The number of requests that were sent. -/
  dispatched : Nat := 0

namespace Session

variable {σ : Type}

/-- The session of a store. -/
def ofStore (settings : Settings) (store : CredentialStore σ) : Session σ :=
  { settings, lifecycle := .ofStore store }

/-- The session after a change of what it is between requests. -/
def update (f : Lifecycle σ → Lifecycle σ) (s : Session σ) : Session σ :=
  { s with lifecycle := f s.lifecycle }

/-- Enters what was done. -/
def log (entry : Entry) (s : Session σ) : Session σ := s.update (·.log entry)

/-- Counts. -/
def count (counter : Counter) (s : Session σ) : Session σ := s.update (·.count counter)

/-- The access token, if there is one. -/
def access? (s : Session σ) : Option String :=
  some s.lifecycle.store.current.access |>.filter (· ≠ "")

/-- The number of operations that wait behind the renewal. -/
def queued (s : Session σ) : Nat := (s.flight.map (·.waiters.length)).getD 0

/-- What an operation waits for. -/
def task? (id : TaskId) (s : Session σ) : Option Task := s.tasks.lookup id

/-- Lets an operation wait for `t`. -/
def await (id : TaskId) (t : Task) (s : Session σ) : Session σ :=
  { s with tasks :=
      if s.tasks.any (·.1 = id) then s.tasks.map fun e => if e.1 = id then (id, t) else e
      else s.tasks ++ [(id, t)] }

/-- The session without an operation. -/
def dismiss (id : TaskId) (s : Session σ) : Session σ :=
  { s with tasks := s.tasks.filter (·.1 ≠ id) }

/-- Ends an operation. -/
def finish (id : TaskId) (result : Except SessionError Outcome) (s : Session σ) : Session σ :=
  (s.dismiss id).log (.finished id result)

/-- The request of an operation that has no answer yet. -/
def outstanding? (id : TaskId) (s : Session σ) : Option Outgoing :=
  match s.task? id with
  | some (.first _ request) => some request
  | some (.replayed _ request) => some request
  | _ => none

/-- The request that renews the access token. -/
def renewalRequest (settings : Settings) (refresh : String) : Except SessionError Outgoing :=
  let request := Request.post Settings.renewalPath (RenewalRequest.mk refresh).toValue
  match request.url settings.baseUrl with
  | .ok url => Outgoing.ofParts request.method url [] request.body
  | .error e => .error (.invalidRequest e.message)

end Session

/-- What the exchange of the renewal `f` comes to. Without a request there is none that could end well. -/
def Flight.result (settings : Settings) (f : Flight) (x : Exchange) : Except RenewalError Renewed :=
  match Session.renewalRequest settings f.refresh with
  | .ok request => x.renewed request
  | .error e => .error (.transport e.message)

end ShopClient
