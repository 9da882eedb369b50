import ShopClient.Credential.Pair
import ShopClient.Credential.Storage

/-!
# Credential store

The owner of the current pair of tokens. Each token is persisted under a key of its own; what the
storage makes of it does not matter for the pair that is held.

Older clients kept a single token under a key of their own (`legacyKey`). It is read as the access
token where there is no other, and goes when the access token is cleared.
-/

namespace ShopClient

/-- The key of the access token. -/
def accessKey : String := "access_token"

/-- The key of the refresh token. -/
def refreshKey : String := "refresh_token"

/-- The key under which older clients kept their only token. -/
def legacyKey : String := "jwt_token"

/-- The current pair and the storage behind it. -/
structure CredentialStore (σ : Type) where
  storage : σ
  current : CredentialPair

namespace CredentialStore

variable {σ : Type} [Storage σ]

/-- The pair that a storage holds. -/
def restored (storage : σ) : CredentialPair where
  access := (((Storage.get? storage accessKey).filter (· ≠ "")).or
    (Storage.get? storage legacyKey)).getD ""
  refresh := (Storage.get? storage refreshKey).getD ""

/-- The store over a storage, with the pair that the storage holds. -/
def restore (storage : σ) : CredentialStore σ := ⟨storage, restored storage⟩

/-- The storage after an attempt to set an entry. -/
def persist (k v : String) (storage : σ) : σ := (Storage.set storage k v).2

/-- The storage after an attempt to remove an entry. -/
def forget (k : String) (storage : σ) : σ := (Storage.remove storage k).2

/-- Replaces the access token, and the refresh token if there is a new one. Without a new one, the
    refresh token goes when the access token is cleared, and stays otherwise. -/
def set (access : String) (refresh : Option String) (s : CredentialStore σ) : CredentialStore σ :=
  let storage :=
    if access = "" then forget legacyKey (forget accessKey s.storage)
    else persist accessKey access s.storage
  match refresh.filter (· ≠ "") with
  | some refresh => ⟨persist refreshKey refresh storage, ⟨access, refresh⟩⟩
  | none =>
    if access = "" then ⟨forget refreshKey storage, ⟨access, ""⟩⟩
    else ⟨storage, { s.current with access }⟩

@[simp] theorem access_set (access : String) (refresh : Option String) (s : CredentialStore σ) :
    (s.set access refresh).current.access = access := by
  simp only [set]
  split
  · rfl
  · split <;> rfl

/-- A new refresh token replaces the old one. -/
theorem refresh_set_some {refresh : String} (h : refresh ≠ "") (access : String)
    (s : CredentialStore σ) : (s.set access (some refresh)).current.refresh = refresh := by
  have hfilter : (some refresh).filter (· ≠ "") = some refresh := if_pos (decide_eq_true h)
  simp only [set, hfilter]

/-- Drops both tokens. -/
def clear (s : CredentialStore σ) : CredentialStore σ := s.set "" (some "")

@[simp] theorem current_clear (s : CredentialStore σ) : s.clear.current = {} := rfl

/-- The store in a log. -/
def shown (s : CredentialStore σ) : String :=
  "CredentialStore \x7b current: " ++ s.current.shown ++ ", .. \x7d"

end CredentialStore

end ShopClient
