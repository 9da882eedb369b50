import ShopClient.Json.Mismatch

/-!
# Decoding values

A decoder takes a value to what the value stands for, or says why it stands for nothing.

A record is decoded by its fields, each of which knows its names and how its value enters the
record. There are two routes:

* from an object, member by member in the order of the keys. Members that no field answers to are
  passed over, and no field may be given twice (`Record.ofMembers`);
* from an array that holds the values of the fields in their order (`Record.ofItems`). It may stop
  early, but may not go on after the last field.

Fields that are not given keep their defaults.
-/

namespace ShopClient.Json

/-- What a value stands for, or why it stands for nothing. -/
abbrev Decoder (α : Type) := Value → Except Mismatch α

namespace Decoder

variable {α : Type}

/-- Any value, as it is. -/
def value : Decoder Value := .ok

/-- A string. -/
def string : Decoder String
  | .string s => .ok s
  | v => .error (.kind v.found "a string")

/-- A whole number from `lo` to `hi`, the range of the type that messages call `type`. -/
def whole (type : String) (lo hi : Int) : Decoder Int
  | .number (.int n) => if lo ≤ n ∧ n ≤ hi then .ok n else .error (.range (.int n) type)
  | v => .error (.kind v.found type)

/-- A whole number of 64 bits without a sign. -/
def uint64 : Decoder UInt64 := fun v =>
  (whole "u64" 0 0xFFFFFFFFFFFFFFFF v).map fun n => .ofNat n.toNat

/-- A whole number of 64 bits with a sign. -/
def int64 : Decoder Int64 := fun v =>
  (whole "i64" Int64.minValue.toInt Int64.maxValue.toInt v).map .ofInt

/-- A whole number of 32 bits with a sign. -/
def int32 : Decoder Int32 := fun v =>
  (whole "i32" Int32.minValue.toInt Int32.maxValue.toInt v).map .ofInt

/-- A binary64 number. A whole number stands for the nearest one. -/
def binary64 : Decoder Binary64
  | .number (.int n) => .ok (.ofInt n)
  | .number (.real x) => .ok x
  | v => .error (.kind v.found "f64")

/-- Nothing, written as null. -/
def unit : Decoder Unit
  | .null => .ok ()
  | v => .error (.kind v.found "unit")

/-- A value that may be absent, which is written as null. -/
def optional (decode : Decoder α) : Decoder (Option α)
  | .null => .ok none
  | v => (decode v).map some

/-- An array of values of one kind. -/
def list (decode : Decoder α) : Decoder (List α)
  | .array vs => vs.mapM decode
  | v => .error (.kind v.found "a sequence")

end Decoder

/-- A field of the record type `ρ`. -/
structure Field (ρ : Type) where
  name : String
  /-- Other names of the field in an object. -/
  aliases : List String := []
  /-- Puts the field's value into the record. -/
  put : Value → ρ → Except Mismatch ρ

/-- Whether members under `key` belong to the field. -/
def Field.answersTo {ρ : Type} (f : Field ρ) (key : String) : Bool :=
  key == f.name || f.aliases.contains key

/-- How the record type `ρ` is decoded. -/
structure Record (ρ : Type) where
  /-- What messages call the record. -/
  title : String
  fields : List (Field ρ)
  /-- The record of which no field is given. -/
  blank : ρ

namespace Record

variable {ρ : Type}

/-- Puts the values `vs` into the fields `fs`, in their order, as far as both go. -/
def ofItems : (fs : List (Field ρ)) → (vs : List Value) → ρ → Except Mismatch ρ
  | f :: fs, v :: vs, x => do ofItems fs vs (← f.put v x)
  | _, _, x => .ok x

/-- Puts the members `ms` into the fields `fs` they belong to; the fields called `given` were given
    before. -/
def ofMembers (fs : List (Field ρ)) :
    (given : List String) → (ms : List (String × Value)) → ρ → Except Mismatch ρ
  | _, [], x => .ok x
  | given, (k, v) :: ms, x =>
    match fs.find? (·.answersTo k) with
    | none => ofMembers fs given ms x
    | some f =>
      if given.contains f.name then .error (.duplicate f.name)
      else do ofMembers fs (f.name :: given) ms (← f.put v x)

/-- The record that a value stands for. -/
def decode (r : Record ρ) : Decoder ρ
  | .array vs => do
    let x ← ofItems r.fields vs r.blank
    if vs.length ≤ r.fields.length then return x else throw (.length vs.length)
  | .object ms => ofMembers r.fields [] ms r.blank
  | v => .error (.kind v.found r.title)

end Record

end ShopClient.Json
