/-!
# Punycode

A label of a domain name in the letters, digits and hyphens of ASCII. The ASCII characters of the
label come first. What follows says, for the other characters in increasing order, where each is to
be inserted: as the distance from the insertion before, a number in base 36 whose digits adapt to
the size of the distances so far.
-/

namespace ShopClient.Url.Punycode

/-- The digit of value `n`: a letter, or from 26 on a decimal digit. -/
def digit (n : Nat) : Char := .ofNat (if n < 26 then n + 97 else n + 22)

/-- The value of a digit. -/
def digitValue? (c : Char) : Option Nat :=
  if c.isLower then some (c.toNat - 97)
  else if c.isUpper then some (c.toNat - 65)
  else if c.isDigit then some (c.toNat - 22)
  else none

/-- The value below which the digit at place `k` is the last one. -/
def threshold (k bias : Nat) : Nat := min 26 (max 1 (36 * k - bias))

theorem one_le_threshold (k bias : Nat) : 1 ≤ threshold k bias := by unfold threshold; omega

/-- How often a distance is divided until its digits are balanced, and what is left. -/
def settle (d : Nat) : Nat × Nat :=
  if d ≤ 455 then (0, d) else ((settle (d / 35)).1 + 1, (settle (d / 35)).2)
termination_by d

/-- The bias after the distance `d`, the `points`-th character being the one inserted. -/
def adapt (d points : Nat) (first : Bool) : Nat :=
  let d := if first then d / 700 else d / 2
  let r := settle (d + d / points)
  36 * r.1 + 36 * r.2 / (r.2 + 38)

/-- The digits of a distance from place `k` on. -/
def distance (bias k d : Nat) : List Char :=
  let t := threshold k bias
  if d < t then [digit d]
  else digit (t + (d - t) % (36 - t)) :: distance bias (k + 1) ((d - t) / (36 - t))
termination_by d
decreasing_by
  have := one_le_threshold k bias
  have := Nat.div_le_self (d - threshold k bias) (36 - threshold k bias)
  omega

/-- The state of the writer: the distance to where it stands, the bias and the number of characters
    written. -/
structure Writer where
  distance : Nat
  bias : Nat
  written : Nat

/-- Passes over the character `c` of the label, or writes it, if it is `m`. -/
def Writer.step (basic m : Nat) (s : Writer × List Char) (c : Char) : Writer × List Char :=
  let w := s.1
  if c.toNat < m then ({ w with distance := w.distance + 1 }, s.2)
  else if c.toNat = m then
    (⟨0, adapt w.distance (w.written + 1) (w.written == basic), w.written + 1⟩,
      s.2 ++ Punycode.distance w.bias 1 w.distance)
  else s

/-- Writes the characters with the code points `ms`, in increasing order, from `n` on. -/
def writeAll (label : List Char) (basic : Nat) :
    (ms : List Nat) → (n : Nat) → Writer × List Char → List Char
  | [], _, s => s.2
  | m :: ms, n, s =>
    let w := { s.1 with distance := s.1.distance + (m - n) * (s.1.written + 1) }
    let s := label.foldl (Writer.step basic m) (w, s.2)
    writeAll label basic ms (m + 1) ({ s.1 with distance := s.1.distance + 1 }, s.2)

/-- The ASCII form of a label. -/
def encode (label : List Char) : List Char :=
  let basic := label.filter (·.toNat < 0x80)
  let others := ((label.map Char.toNat).filter (0x80 ≤ ·)).mergeSort.eraseDups
  basic ++ (if basic.isEmpty then [] else ['-']) ++
    writeAll label basic.length others 0x80 (⟨0, 72, basic.length⟩, [])

/-- Adds the distance that comes next, from place `k` of weight `w` on, to `i`. -/
def readDistance (bias : Nat) : (s : List Char) → (k w i : Nat) →
    Option (Nat × { r : List Char // r.length < s.length })
  | [], _, _, _ => none
  | c :: r, k, w, i =>
    match digitValue? c with
    | none => none
    | some d =>
      let t := threshold k bias
      if d < t then some (i + d * w, ⟨r, Nat.lt_succ_self _⟩)
      else (readDistance bias r (k + 1) (w * (36 - t)) (i + d * w)).map fun x =>
        (x.1, ⟨x.2.1, Nat.lt_succ_of_lt x.2.2⟩)

/-- Inserts the characters that `s` describes into `label`, from position `i` and code point `n` on. -/
def insertAll (s : List Char) (bias n i : Nat) (label : List Char) : Option (List Char) :=
  if s.isEmpty then some label
  else match readDistance bias s 1 1 i with
    | none => none
    | some (j, ⟨r, _⟩) =>
      let points := label.length + 1
      let n := n + j / points
      if n.isValidChar then
        insertAll r (adapt (j - i) points (i == 0)) n (j % points + 1)
          (label.insertIdx (j % points) (.ofNat n))
      else none
termination_by s.length

/-- The label that an ASCII form stands for. -/
def decode? (s : List Char) : Option (List Char) :=
  let tail := (s.reverse.takeWhile (· != '-')).reverse
  insertAll tail 72 0x80 0 (s.take (s.length - tail.length - 1))

end ShopClient.Url.Punycode
