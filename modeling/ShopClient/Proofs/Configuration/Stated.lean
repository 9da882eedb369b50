import ShopClient.Config
import Mathlib.Data.Option.Basic

/-!
# What a configuration file states

A configuration file states some values of a configuration and leaves the others open. What it leaves
open has a default, and the address may be given by the environment instead.

A document is read by two kinds of values: texts and 64-bit numbers without a sign. Its sections are
tables as a rule, in which a value stands under its name. But an array will do as well, in which it
stands at its place (`Toml.Value.Gives`).

* `Stated.IsOf`: what a document states;
* `ofDocument?_eq_some_iff`: a document is read as what it states, with the defaults;
* `Stated.merged`: what all sources come to.
-/

namespace ShopClient

namespace Toml.Value

variable {α : Type} {v : Value} {name : String} {place : Nat}

/-- The section is a record, and gives `x?` for a field: a value, or none. -/
def Gives (name : String) (place : Nat) : (part : Value) → (x? : Option Value) → Prop
  | table _ es, x? => x? = es.lookup name
  | tables latest, x? => x? = latest.reverse[place]?.map (.table .header)
  | array items, x? => x? = items[place]?
  | moment _, x? => x? = none
  | _, _ => False

/-- A number of seconds. -/
def seconds (n : UInt64) : Value := .integer n.toNat

theorem string?_eq_some_iff {s : String} : v.string? = some s ↔ v = .string s := by
  cases v <;> simp [string?]

theorem uint64?_eq_some_iff {n : UInt64} : v.uint64? = some n ↔ v = seconds n := by
  cases v with
  | integer m =>
    rw [uint64?, seconds, integer.injEq]
    constructor
    · intro h
      split at h
      · rename_i hm
        rw [← Option.some.inj h, UInt64.toNat_ofNat_of_lt' (by omega)]
        exact (Int.toNat_of_nonneg hm.1).symm
      · cases h
    · rintro rfl
      have hn : (n.toNat : Int) < UInt64.size := Int.ofNat_lt.2 n.toNat_lt_size
      rw [if_pos ⟨Int.natCast_nonneg _, hn⟩, Int.toNat_natCast, UInt64.ofNat_toNat]
  | _ => simp [uint64?, seconds]

/-- A field is read as the value that is given, which has to be of the right kind, or as its default. -/
theorem field?_eq_some_iff {decode : Value → Option α} {embed : α → Value} {missing a : α}
    (hdecode : ∀ x a, decode x = some a ↔ x = embed a) :
    v.field? name place decode missing = some a ↔
      ∃ a? : Option α, v.Gives name place (a?.map embed) ∧ a = a?.getD missing := by
  have hread (x? : Option Value) : field?.read decode missing x? = some a ↔
      ∃ a? : Option α, a?.map embed = x? ∧ a = a?.getD missing := by
    rw [Option.exists]
    cases x? with
    | none => simp [field?.read, eq_comm]
    | some x => simp [field?.read, hdecode, eq_comm]
  cases v with
  | table origin es => exact hread _
  | tables latest => exact hread _
  | array items => exact hread _
  | moment text => exact hread none
  | _ => exact ⟨nofun, fun ⟨_, h, _⟩ => h.elim⟩

end Toml.Value

namespace Config

/-- What a file states of a configuration. -/
structure Stated where
  baseUrl : Option String := none
  requestTimeout : Option UInt64 := none
  renewalTimeout : Option UInt64 := none
  storagePath : Option String := none

/-- A section of a document. One that is left out is empty. -/
def part (name : String) (document : Toml.Entries) : Toml.Value :=
  (document.lookup name).getD (.table .header [])

namespace Stated

/-- This is what a document states. -/
structure IsOf (document : Toml.Entries) (s : Stated) : Prop where
  baseUrl : (part "api" document).Gives "base_url" 0 (s.baseUrl.map .string)
  requestTimeout : (part "api" document).Gives "timeout_secs" 1 (s.requestTimeout.map .seconds)
  renewalTimeout :
    (part "api" document).Gives "refresh_timeout_secs" 2 (s.renewalTimeout.map .seconds)
  storagePath : (part "storage" document).Gives "path" 0 (s.storagePath.map .string)

/-- The address that the environment gives: one that is blank is none. -/
def given (override : Option String) : Option String :=
  (override.map Text.trim).filter (· ≠ "")

/-- The configuration that the environment, a file and the defaults come to, in this order. -/
def merged (override : Option String) (s : Stated) : Config where
  baseUrl := ((given override).or s.baseUrl).getD "http://localhost:8000/api/v1"
  requestTimeout := s.requestTimeout.getD 10
  renewalTimeout := s.renewalTimeout.getD 5
  storagePath := s.storagePath.getD "credentials.json"

theorem withBaseUrl_merged (override : Option String) (s : Stated) :
    (s.merged none).withBaseUrl override = s.merged override := by
  have hnone : given none = none := rfl
  simp only [withBaseUrl, merged, hnone, Option.none_or]
  rw [← given.eq_def]
  cases given override <;> rfl

theorem merged_empty : ({} : Stated).merged none = {} := rfl

end Stated

/-- A document is read as what it states, with defaults for what it leaves open. -/
theorem ofDocument?_eq_some_iff {document : Toml.Entries} {c : Config} :
    ofDocument? document = some c ↔ ∃ s : Stated, s.IsOf document ∧ c = s.merged none := by
  have hstring := fun x s => @Toml.Value.string?_eq_some_iff x s
  have huint64 := fun x n => @Toml.Value.uint64?_eq_some_iff x n
  simp only [ofDocument?, Option.bind_eq_bind, Option.bind_eq_some_iff, Option.pure_def,
    Option.some.injEq, Toml.Value.field?_eq_some_iff hstring, Toml.Value.field?_eq_some_iff huint64]
  constructor
  · rintro ⟨_, ⟨baseUrl, hbaseUrl, rfl⟩, _, ⟨requestTimeout, hrequest, rfl⟩, _,
      ⟨renewalTimeout, hrenewal, rfl⟩, _, ⟨storagePath, hstorage, rfl⟩, rfl⟩
    exact ⟨⟨baseUrl, requestTimeout, renewalTimeout, storagePath⟩,
      ⟨hbaseUrl, hrequest, hrenewal, hstorage⟩, rfl⟩
  · rintro ⟨s, hs, rfl⟩
    exact ⟨_, ⟨_, hs.baseUrl, rfl⟩, _, ⟨_, hs.requestTimeout, rfl⟩, _,
      ⟨_, hs.renewalTimeout, rfl⟩, _, ⟨_, hs.storagePath, rfl⟩, rfl⟩

end Config

end ShopClient
