import ShopClient.Json.Decode

/-!
# Account profiles

The profile of a signed-in user, and a partial change of it.
-/

namespace ShopClient

open Json

/-- The profile of an account. -/
structure Profile where
  id : UInt64 := 0
  userName : String := ""
  balance : Binary64 := .zero false
  avatar : String := ""
  totalSpentCents : Int64 := 0
  growthLevel : Int32 := 0
  deriving DecidableEq

namespace Profile

/-- How a profile is decoded. The account number has two names. -/
def record : Record Profile where
  title := "struct User"
  fields := [
    { name := "id", aliases := ["ID"],
      put := fun v x => do return { x with id := ← Decoder.uint64 v } },
    { name := "username", put := fun v x => do return { x with userName := ← Decoder.string v } },
    { name := "balance", put := fun v x => do return { x with balance := ← Decoder.binary64 v } },
    { name := "avatar", put := fun v x => do return { x with avatar := ← Decoder.string v } },
    { name := "total_spent_cents",
      put := fun v x => do return { x with totalSpentCents := ← Decoder.int64 v } },
    { name := "growth_level",
      put := fun v x => do return { x with growthLevel := ← Decoder.int32 v } }]
  blank := {}

/-- The profile that a value stands for. -/
def decode : Decoder Profile := record.decode

/-- A profile as a value. -/
def toValue (p : Profile) : Value :=
  .object [("id", .int p.id.toNat), ("username", .string p.userName),
    ("balance", .number (.real p.balance)), ("avatar", .string p.avatar),
    ("total_spent_cents", .int p.totalSpentCents.toInt), ("growth_level", .int p.growthLevel.toInt)]

/-- Whether two profiles agree in all fields, the balances as numbers. -/
def agrees (p q : Profile) : Bool :=
  p.id == q.id && p.userName == q.userName && p.balance.sameValue q.balance &&
    p.avatar == q.avatar && p.totalSpentCents == q.totalSpentCents && p.growthLevel == q.growthLevel

end Profile

/-- A change of a profile. What is not given stays as it is. -/
structure ProfileChange where
  userName : Option String := none
  avatar : Option String := none
  deriving DecidableEq

/-- The body of a change of the profile: only what is given is written. -/
def ProfileChange.toValue (c : ProfileChange) : Value :=
  .object ((c.userName.map fun s => ("user_name", Value.string s)).toList ++
    (c.avatar.map fun s => ("avatar", Value.string s)).toList)

end ShopClient
