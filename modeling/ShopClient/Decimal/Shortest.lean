import ShopClient.Decimal.Binary64

/-!
# Shortest decimals

The fewest decimal digits that still read back as a given number, and among those with that many
digits the nearest one. The numbers that read back as `m · 2 ^ q` form an interval around it, from
halfway to the number below to halfway to the number above, with both ends if `m` is even. If a grid
of decimals has a point in that interval, one of the two neighbours of the number on the grid is in
it; so it is enough to look at those, on finer and finer grids.

`render` writes the digits out: with a point from `10 ^ -5` up to `10 ^ 16`, with an exponent
elsewhere.
-/

namespace ShopClient.Decimal

/-- Decimal digits and the power of ten they are multiplied with. -/
structure Digits where
  digits : Nat
  exponent : Int
  deriving DecidableEq

/-- Without the zeros that the digits end in. -/
def Digits.strip : Nat → Digits → Digits
  | 0, d => d
  | n + 1, d =>
    if d.digits != 0 && d.digits % 10 == 0 then strip n ⟨d.digits / 10, d.exponent + 1⟩ else d

/-- How many decimal digits `n` has, for `n ≠ 0`. -/
def digitCount (n : Nat) : Nat := (Nat.toDigits 10 n).length

/-- The power `p` with `10 ^ (p - 1) ≤ num / den < 10 ^ p`. -/
def magnitude (num den : Nat) : Int :=
  if den ≤ num then digitCount (num / den)
  else
    -- `den / num` lies between `10 ^ (k - 1)` and `10 ^ k`, so the inverse needs `k` more places.
    let k := digitCount (den / num)
    if den ≤ num * Nat.pow 10 (k - 1) then -(k : Int) + 2 else -(k : Int) + 1

/-- `num / den · 10 ^ -e`, as a quotient of natural numbers. -/
def onGrid (num den : Nat) (e : Int) : Nat × Nat :=
  if 0 ≤ e then (num, den * Nat.pow 10 e.toNat) else (num * Nat.pow 10 (-e).toNat, den)

/-- Whether `d · 10 ^ e` reads back as `m · 2 ^ q`: it lies between the halfway points to the
    neighbours, and on one of them only if `m` is even. All is compared in units of a quarter of
    `2 ^ q`, as the gap below a power of two is half of the gap above it. -/
def readsBack (m : Nat) (q : Int) (d : Nat) (e : Int) : Bool :=
  let low := if m == Nat.pow 2 52 && q != -1074 then 4 * m - 1 else 4 * m - 2
  let high := 4 * m + 2
  -- `d · 10 ^ e · 4 / 2 ^ q = num / den`
  let (n₁, d₁) := if 0 ≤ e then (d * Nat.pow 10 e.toNat, 1) else (d, Nat.pow 10 (-e).toNat)
  let (num, den) :=
    if 0 ≤ q then (4 * n₁, d₁ * Nat.pow 2 q.toNat) else (4 * n₁ * Nat.pow 2 (-q).toNat, d₁)
  if m % 2 == 0 then low * den ≤ num && num ≤ high * den
  else low * den < num && num < high * den

/-- The nearest of the neighbours on the grid `10 ^ e` that read back, if there is one. -/
def hit? (m : Nat) (q : Int) (num den : Nat) (e : Int) : Option Nat :=
  let s := onGrid num den e
  let d := s.1 / s.2
  let r := s.1 % s.2
  match readsBack m q d e, readsBack m q (d + 1) e with
  | true, true => if 2 * r < s.2 || (2 * r == s.2 && d % 2 == 0) then some d else some (d + 1)
  | true, false => some d
  | false, true => some (d + 1)
  | false, false => none

/-- The first grid with a hit, starting from `10 ^ (p - n)`, on at most `fuel` grids. -/
def search (m : Nat) (q : Int) (num den : Nat) (p : Int) : (fuel n : Nat) → Digits
  | 0, n => ⟨(onGrid num den (p - n)).1 / (onGrid num den (p - n)).2, p - n⟩
  | fuel + 1, n =>
    match hit? m q num den (p - n) with
    | some d => ⟨d, p - n⟩
    | none => search m q num den p fuel (n + 1)

/-- The shortest decimal that reads back as the size of `x`; seventeen digits always do. -/
def shortest (x : Binary64) : Digits :=
  if x.isZero then ⟨0, 0⟩
  else
    let (num, den) := x.ratio
    (search x.mantissa x.exponent num den (magnitude num den) 17 1).strip 17

/-- The powers of ten between which a number is written without an exponent. -/
structure Style where
  leastPlain : Int
  endPlain : Int

/-- Numbers from `10 ^ -5` up to but not including `10 ^ 16` are written without an exponent. -/
def Style.json : Style := ⟨-5, 16⟩

/-- `n` zeros. -/
def zeros (n : Nat) : String := String.ofList (List.replicate n '0')

/-- The text of a number: with a point and a digit after it, or with a signed exponent. -/
def render (style : Style) (x : Binary64) : String :=
  let sign := if x.negative then "-" else ""
  let d := shortest x
  let cs := Nat.toDigits 10 d.digits
  -- the number of digits before the point
  let p : Int := cs.length + d.exponent
  sign ++
    if x.isZero then "0.0"
    else if style.leastPlain < p && p ≤ style.endPlain then
      if 0 ≤ d.exponent then String.ofList cs ++ zeros d.exponent.toNat ++ ".0"
      else if 0 < p then
        String.ofList (cs.take p.toNat) ++ "." ++ String.ofList (cs.drop p.toNat)
      else "0." ++ zeros (-p).toNat ++ String.ofList cs
    else
      let e := p - 1
      String.ofList (cs.take 1) ++ (if cs.length == 1 then "" else "." ++ String.ofList (cs.drop 1))
        ++ "e" ++ (if e < 0 then "-" else "+") ++ toString e.natAbs

end ShopClient.Decimal
