import ShopClient.Decimal.Binary64
import ShopClient.Text.Digit
import ShopClient.Toml.Value

/-!
# Words that are values

The values that are written as one word without quotes: truth values, whole numbers, numbers with a
point or an exponent, and points in time.

* A whole number has a sign if it is decimal, and may be hexadecimal, octal or binary without one.
  Underscores may stand between its digits, and zeros may not lead it. It has at most 128 bits.
* A number with a point or an exponent has digits on both sides of the point, and its size has to be
  that of a binary64 number.
* A point in time is a date, a time, or both, and then perhaps its distance from universal time.
  Seconds may be left out.
-/

namespace ShopClient.Toml

open Text (isDigitIn numberIn)

/-- The digits of a row without its underscores, each of which stands between two digits. -/
def digits? (base : Nat) (cs : List Char) : Option (List Char) :=
  let groups := cs.splitOn '_'
  if groups.all fun g => !g.isEmpty && g.all (isDigitIn base) then some groups.flatten else none

/-- The decimal digits of a row that no needless zero leads. -/
def wholeDigits? (cs : List Char) : Option (List Char) :=
  (digits? 10 cs).filter fun ds => ds.length = 1 || ds.head? != some '0'

/-- A word without its sign. -/
def withoutSign : List Char → List Char
  | '+' :: cs => cs
  | '-' :: cs => cs
  | cs => cs

/-! ### Numbers -/

/-- The whole number that a word stands for. -/
def integer? : List Char → Option Int
  | '+' :: cs => (wholeDigits? cs).map fun ds => numberIn 10 ds
  | '-' :: cs => (wholeDigits? cs).map fun ds => -(numberIn 10 ds : Int)
  | '0' :: 'x' :: cs => (digits? 16 cs).map fun ds => numberIn 16 ds
  | '0' :: 'o' :: cs => (digits? 8 cs).map fun ds => numberIn 8 ds
  | '0' :: 'b' :: cs => (digits? 2 cs).map fun ds => numberIn 2 ds
  | cs => (wholeDigits? cs).map fun ds => numberIn 10 ds

/-- Whether a whole number has at most 128 bits, with a sign or without. -/
def isInRange (n : Int) : Bool := -(Nat.pow 2 127 : Int) ≤ n && n < Nat.pow 2 128

/-- Whether the digits, scaled by `10 ^ e`, are a number of the size of binary64. -/
def fitsBinary64 (digits : List Char) (e : Int) : Bool :=
  let digits := digits.dropWhile (· == '0')
  let size := digits.length + e
  if digits.isEmpty || size ≤ 308 then true
  else if 310 < size then false
  else
    (Binary64.ofRatio? false (numberIn 10 digits * Nat.pow 10 e.toNat) (Nat.pow 10 (-e).toNat)).isSome

/-- The exponent after its letter. -/
def exponent? (cs : List Char) : Option Int :=
  (digits? 10 (withoutSign cs)).map fun ds =>
    if cs.head? == some '-' then -(numberIn 10 ds : Int) else numberIn 10 ds

/-- Whether a character is the letter of an exponent. -/
def isExponentLetter (c : Char) : Bool := c == 'e' || c == 'E'

/-- The exponent, if there is one, after the digits before it. -/
def optionalExponent? : List Char → Option Int
  | [] => some 0
  | _ :: cs => exponent? cs

/-- Whether a word is a number with a point or an exponent. -/
def isReal (word : List Char) : Bool :=
  let cs := withoutSign word
  if cs = "inf".toList ∨ cs = "nan".toList then true
  else
    let whole := cs.takeWhile fun c => c != '.' && !isExponentLetter c
    let rest := cs.dropWhile fun c => c != '.' && !isExponentLetter c
    let (fraction, scale) := match rest with
      | '.' :: r => (digits? 10 (r.takeWhile (!isExponentLetter ·)), r.dropWhile (!isExponentLetter ·))
      | r => (some [], r)
    match wholeDigits? whole, fraction, optionalExponent? scale with
    | some ds, some fs, some e => !rest.isEmpty && fitsBinary64 (ds ++ fs) (e - fs.length)
    | _, _, _ => false

/-! ### Points in time -/

/-- The number of the first `n` characters, which have to be digits, and the rest. -/
def firstDigits? (n : Nat) (cs : List Char) : Option (Nat × List Char) :=
  let ds := cs.take n
  if ds.length = n && ds.all Char.isDigit then some (numberIn 10 ds, cs.drop n) else none

/-- What follows the character `c`, which has to come next. -/
def after? (c : Char) : List Char → Option (List Char)
  | [] => none
  | d :: cs => if d = c then some cs else none

/-- The number of days of a month. -/
def daysIn (year month : Nat) : Nat :=
  if month = 2 then
    if year % 4 = 0 && (year % 100 != 0 || year % 400 = 0) then 29 else 28
  else if month ∈ [4, 6, 9, 11] then 30 else 31

/-- What follows a date. -/
def afterDate? (cs : List Char) : Option (List Char) := do
  let (year, cs) ← firstDigits? 4 cs
  let (month, cs) ← firstDigits? 2 (← after? '-' cs)
  let (day, cs) ← firstDigits? 2 (← after? '-' cs)
  if 1 ≤ month && month ≤ 12 && 1 ≤ day && day ≤ daysIn year month then some cs else none

/-- What follows hours and minutes. -/
def afterMinutes? (cs : List Char) : Option (List Char) := do
  let (hour, cs) ← firstDigits? 2 cs
  let (minute, cs) ← firstDigits? 2 (← after? ':' cs)
  if hour ≤ 23 && minute ≤ 59 then some cs else none

/-- What follows the seconds and their fraction, as far as they are given. -/
def afterSeconds? : List Char → Option (List Char)
  | ':' :: cs => do
    let (second, cs) ← firstDigits? 2 cs
    if 60 < second then none
    else match cs with
      | '.' :: r => if r.head?.any Char.isDigit then some (r.dropWhile Char.isDigit) else none
      | r => some r
  | cs => some cs

/-- What follows a time. -/
def afterTime? (cs : List Char) : Option (List Char) := (afterMinutes? cs).bind afterSeconds?

/-- Whether a word is nothing or a distance from universal time. -/
def isOffset : List Char → Bool
  | [] => true
  | ['Z'] => true
  | ['z'] => true
  | '+' :: cs => afterMinutes? cs = some []
  | '-' :: cs => afterMinutes? cs = some []
  | _ => false

/-- Whether a word is a date and nothing else. -/
def isDate (word : List Char) : Bool := afterDate? word = some []

/-- Whether a word is a point in time. -/
def isMoment (word : List Char) : Bool :=
  match afterDate? word with
  | none => afterTime? word = some []
  | some [] => true
  | some (c :: cs) => (c == 'T' || c == 't' || c == ' ') && (afterTime? cs).any isOffset

/-! ### Words -/

/-- The value that a word stands for. -/
def scalar? (word : List Char) : Option Value :=
  if word = "true".toList then some (.bool true)
  else if word = "false".toList then some (.bool false)
  else match integer? word with
    | some n => if isInRange n then some (.integer n) else none
    | none =>
      if isReal word then some (.real (String.ofList word))
      else if isMoment word then some (.moment (String.ofList word))
      else none

end ShopClient.Toml
