import ShopClient.Text.Digit

/-!
# Whole numbers in text

Reading a text that holds a whole number in decimal digits and nothing else, with a sign or without.
-/

namespace ShopClient.Decimal

/-- The number that the digits `cs` stand for. There has to be at least one. -/
def natural? (cs : List Char) : Option Nat :=
  if cs.isEmpty || !cs.all Char.isDigit then none
  else some (Text.numberIn 10 cs)

/-- The number that digits stand for, after a sign if there is one. -/
def integer? : List Char → Option Int
  | '-' :: cs => (natural? cs).map fun n => -(n : Int)
  | '+' :: cs => (natural? cs).map fun n => (n : Int)
  | cs => (natural? cs).map fun n => (n : Int)

/-- The 64-bit number that `n` fits. -/
def int64? (n : Int) : Option Int64 :=
  if Int64.minValue.toInt ≤ n ∧ n ≤ Int64.maxValue.toInt then some (.ofInt n) else none

end ShopClient.Decimal
