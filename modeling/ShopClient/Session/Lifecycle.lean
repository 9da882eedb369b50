import ShopClient.Credential.Store
import ShopClient.Guard
import ShopClient.Session.Exchange
import ShopClient.Session.Journal
import ShopClient.Session.Observable

/-!
# Session lifecycle

What it means to be signed in and to be logged out. A session holds the credentials, the cached
profile, and the observable that says whether an access token is held; a logout clears the first two,
publishes the third, and tells the front end.

The *epoch* counts the logouts. A renewal takes the epoch along when it starts, and its result counts
only if the epoch is still the same (`storeRenewed`).
-/

namespace ShopClient

/-- The state of a session between requests. -/
structure Lifecycle (σ : Type) where
  store : CredentialStore σ
  profile : Option Profile := none
  /-- The number of logouts. -/
  epoch : UInt64 := 0
  /-- Whether an access token is held, as it was last published. -/
  active : Observable
  journal : Journal := []

namespace Lifecycle

variable {σ : Type}

/-- The session of a store. -/
def ofStore (store : CredentialStore σ) : Lifecycle σ :=
  { store, active := { value := store.current.hasAccess } }

/-- Whether the session is active, as it was last published. -/
def isActive (l : Lifecycle σ) : Bool := l.active.value

/-- The decision on a navigation. -/
def guard (requiresAuth : Bool) (target : String) (l : Lifecycle σ) : Access :=
  .check requiresAuth target l.isActive

/-- Enters what was done. -/
def log (entry : Entry) (l : Lifecycle σ) : Lifecycle σ :=
  { l with journal := l.journal ++ [entry] }

/-- Tells the front end. -/
def tell (notice : Notice) (l : Lifecycle σ) : Lifecycle σ := l.log (.told notice)

/-- Counts. -/
def count (counter : Counter) (l : Lifecycle σ) : Lifecycle σ := l.log (.counted counter)

/-- Publishes whether an access token is held. -/
def publish (l : Lifecycle σ) : Lifecycle σ :=
  { l with active := l.active.publish l.store.current.hasAccess }

/-- Caches a profile, or drops it. -/
def setProfile (profile : Option Profile) (l : Lifecycle σ) : Lifecycle σ := { l with profile }

variable [Storage σ]

/-- Changes the tokens without publishing. -/
def writeStore (access : String) (refresh : Option String) (l : Lifecycle σ) : Lifecycle σ :=
  { l with store := l.store.set access refresh }

/-- Changes the tokens. -/
def storeCredentials (access : String) (refresh : Option String) (l : Lifecycle σ) : Lifecycle σ :=
  (l.writeStore access refresh).publish

/-- Stores renewed tokens, unless there was a logout since the epoch was `epoch`. Says whether they
    were stored. -/
def storeRenewed (epoch : UInt64) (renewed : Renewed) (l : Lifecycle σ) : Bool × Lifecycle σ :=
  if l.epoch = epoch then (true, l.storeCredentials renewed.access renewed.refresh) else (false, l)

/-- Whether there is nothing that a logout would clear. -/
def isCleared (l : Lifecycle σ) : Bool := l.store.current.isEmpty && l.profile.isNone

/-- Clears the credentials and the profile. Says whether there was anything to clear. -/
def logout (l : Lifecycle σ) : Bool × Lifecycle σ :=
  if l.isCleared then (false, l)
  else
    let cleared := { l with store := l.store.clear, profile := none, epoch := l.epoch + 1 }
    (true, (cleared.publish.count .logout).tell .loggedOut)

/-- Ends a session that cannot be renewed: logs out, and asks the user to sign in. -/
def expire (l : Lifecycle σ) : Lifecycle σ := l.logout.2.tell .loginRequired

end Lifecycle

end ShopClient
