/-!
# Binary64 numbers

The finite numbers of the 64-bit binary format, as sign, mantissa and exponent: `±m · 2 ^ q`. All
arithmetic is exact on natural numbers, followed by one rounding to the nearest number of the
format, a tie going to the even mantissa (`ofRatio?`). A result beyond the largest number is none.

* `ofRatio?`: the number nearest to a quotient;
* `mul?`, `div?`: product and quotient, rounded;
* `ofDecimal?`: the number read from decimal digits and a power of ten.
-/

namespace ShopClient

/-- The mantissas and exponents of the format: every number has just one of them. Numbers with the
    least exponent are spaced evenly down to zero; all others have a full mantissa. -/
def Binary64.IsCanonical (m : Nat) (q : Int) : Prop :=
  m < Nat.pow 2 53 ∧ (q = -1074 ∨ Nat.pow 2 52 ≤ m) ∧ -1074 ≤ q ∧ q ≤ 971

instance (m : Nat) (q : Int) : Decidable (Binary64.IsCanonical m q) :=
  inferInstanceAs (Decidable (_ ∧ _ ∧ _ ∧ _))

/-- A finite binary64 number, `±mantissa · 2 ^ exponent`. Zero has a sign. -/
structure Binary64 where
  negative : Bool
  mantissa : Nat
  exponent : Int
  canonical : Binary64.IsCanonical mantissa exponent
  deriving DecidableEq

namespace Binary64

/-- Zero with the given sign. -/
def zero (negative : Bool) : Binary64 := ⟨negative, 0, -1074, by decide⟩

instance : Inhabited Binary64 := ⟨zero false⟩

/-- The number with these parts, unless its exponent is too large for the format. -/
def ofParts? (negative : Bool) (m : Nat) (q : Int) : Option Binary64 :=
  if h : IsCanonical m q then some ⟨negative, m, q, h⟩ else none

/-- Whether the number is zero, of either sign. -/
def isZero (x : Binary64) : Bool := x.mantissa == 0

/-- Equality as numbers: the two zeros are equal. -/
def sameValue (x y : Binary64) : Bool := x == y || (x.isZero && y.isZero)

/-- The number with the opposite sign. -/
def neg (x : Binary64) : Binary64 := { x with negative := !x.negative }

/-- `num / den` as a whole number of units, rounded to nearest, a tie to even. -/
def roundDiv (num den : Nat) : Nat :=
  let d := num / den
  let r := num % den
  if den < 2 * r || (den == 2 * r && d % 2 == 1) then d + 1 else d

/-- `num / den · 2 ^ -q`, as a quotient of natural numbers. -/
def scaled (num den : Nat) (q : Int) : Nat × Nat :=
  if 0 ≤ q then (num, den * Nat.pow 2 q.toNat) else (num * Nat.pow 2 (-q).toNat, den)

/-- The exponent at which `num / den` has a mantissa of 53 bits, but not less than the least one. -/
def targetExponent (num den : Nat) : Int :=
  let q : Int := (num.log2 : Int) - den.log2 - 53
  let s := scaled num den q
  let q := if s.1 / s.2 < Nat.pow 2 53 then q else q + 1
  max q (-1074)

/-- The number nearest to `±num / den`, a tie going to the even mantissa. -/
def ofRatio? (negative : Bool) (num den : Nat) : Option Binary64 :=
  if num == 0 then some (zero negative)
  else
    let q := targetExponent num den
    let s := scaled num den q
    let m := roundDiv s.1 s.2
    if m == Nat.pow 2 53 then ofParts? negative (Nat.pow 2 52) (q + 1) else ofParts? negative m q

/-- The number as a quotient of natural numbers, without its sign. -/
def ratio (x : Binary64) : Nat × Nat :=
  if 0 ≤ x.exponent then (x.mantissa * Nat.pow 2 x.exponent.toNat, 1)
  else (x.mantissa, Nat.pow 2 (-x.exponent).toNat)

/-- The product, rounded. -/
def mul? (x y : Binary64) : Option Binary64 :=
  ofRatio? (x.negative != y.negative) (x.ratio.1 * y.ratio.1) (x.ratio.2 * y.ratio.2)

/-- The quotient by a number other than zero, rounded. -/
def div? (x y : Binary64) : Option Binary64 :=
  ofRatio? (x.negative != y.negative) (x.ratio.1 * y.ratio.2) (x.ratio.2 * y.ratio.1)

/-- The number nearest to a natural number below `2 ^ 64`. -/
def ofNat (n : Nat) : Binary64 := (ofRatio? false n 1).getD (zero false)

/-- The number nearest to an integer of at most 64 bits. -/
def ofInt (n : Int) : Binary64 := if 0 ≤ n then ofNat n.toNat else (ofNat (-n).toNat).neg

/-- The number nearest to `10 ^ k`, for `k ≤ 308`. -/
def powerOfTen (k : Nat) : Binary64 := (ofRatio? false (Nat.pow 10 k) 1).getD (zero false)

/-- `x` scaled by `10 ^ e`, rounding after every step: a positive power is one product, a negative
    one is as many quotients by powers of at most `10 ^ 308` as it takes. -/
def scaleByTen? (x : Binary64) (e : Int) : Option Binary64 :=
  if 0 ≤ e then
    if e ≤ 308 then x.mul? (powerOfTen e.toNat)
    else if x.isZero then some x else none
  else if h : -308 ≤ e then x.div? (powerOfTen (-e).toNat)
  else if x.isZero then some x
  else (x.div? (powerOfTen 308)).bind fun y => scaleByTen? y (e + 308)
termination_by (-e).toNat
decreasing_by omega

/-- The number read from the decimal `±digits · 10 ^ e`: the number nearest to `digits`, scaled. The
    two roundings may miss the nearest number by a unit when `digits` is not exact or the power of
    ten is not. -/
def ofDecimal? (negative : Bool) (digits : Nat) (e : Int) : Option Binary64 :=
  ((ofNat digits).scaleByTen? e).map fun x => { x with negative := negative }

end Binary64

end ShopClient
