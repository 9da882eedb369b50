/-!
# Observable values

A truth value that others watch. Publishing the value it already has is no change. A watcher
remembers the last change it has seen, so it can tell that there was one since, even if the value has
changed back.
-/

namespace ShopClient

/-- A truth value, and how often it has changed. -/
structure Observable where
  value : Bool
  changes : Nat := 0
  deriving DecidableEq

namespace Observable

/-- The value after `now` was published. -/
def publish (now : Bool) (o : Observable) : Observable :=
  if o.value = now then o else ⟨now, o.changes + 1⟩

end Observable

/-- One who watches, and the number of changes that were seen. -/
structure Watcher where
  seen : Nat
  deriving DecidableEq

namespace Watcher

/-- A new watcher has seen all changes so far. -/
def of (o : Observable) : Watcher := ⟨o.changes⟩

/-- Whether there was a change that was not seen. -/
def hasChanged (o : Observable) (w : Watcher) : Bool := w.seen != o.changes

end Watcher

end ShopClient
