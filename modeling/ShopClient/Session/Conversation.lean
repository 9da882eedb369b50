import ShopClient.Session.Run

/-!
# Conversations

A session with a shop of which it is known how the exchanges end, one after the other: the first
exchange is that of the first request that reaches the shop, that of a renewal going before those of
the operations. When nothing more is known, the shop closes the connection to whoever asks.

* `Session.converse`: the session after its conversation with the shop.
-/

namespace ShopClient.Session

variable {σ : Type} [Storage σ]

/-- Ends the first exchange that the shop holds, if there is any. -/
def endNext? (link : Link) (x : Exchange) (s : Session σ) : Option (Session σ) :=
  match s.heldRenewal? link with
  | some _ => some (s.answerRenewal x)
  | none => (s.tasks.find? fun e => (s.held? link e.1).isSome).map fun e => s.answer e.1 x

/-- The session after its conversation with the shop. -/
def converse (link : Link) : (exchanges : List Exchange) → Session σ → Session σ
  | [], s => s.settle .down
  | x :: rest, s =>
    match (s.settle link).endNext? link x with
    | some s => converse link rest s
    | none => s.settle link

/-- How an operation ended. -/
def result? (id : TaskId) (s : Session σ) : Option (Except SessionError Outcome) :=
  s.lifecycle.journal.results.lookup id

end ShopClient.Session
