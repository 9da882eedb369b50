import ShopClient.Json.Mismatch
import ShopClient.Text.Digit
import ShopClient.Text.Read
import ShopClient.Text.Utf8

/-!
# Reading JSON text

The parts of the grammar that all readers share: blanks, words, strings and numbers. A reader takes
the characters that are left and answers with what it read and what is left after it (`Read`), or
with a failure that says why and where.

A failure remembers the characters that were left when it arose, and how many bytes of them had
already been looked at; its place is a line and a column in bytes (`Failure.place`).

* `string`: a string after its opening quote;
* `number`: a number. Whole numbers stay whole as long as they fit 64 bits. Other numbers collect
  digits while those fit 64 bits, ignore the rest of the digits, and are scaled at the end
  (`Binary64.ofDecimal?`).
-/

namespace ShopClient.Json

open Text (Read digitValue dropWhile_length_le hexValue?)

/-- Why a text is not the JSON that its reader expects. -/
inductive Fault
  | endInList
  | endInObject
  | endInString
  | endInValue
  | noColon
  | noListSeparator
  | noObjectSeparator
  | badWord
  | noValue
  | badEscape
  | badNumber
  | numberOutOfRange
  | controlCharacter
  | keyNotString
  | loneSurrogate
  | unpairedSurrogate
  | trailingComma
  | trailingCharacters
  | tooDeep
  | mismatch (m : Mismatch)

/-- The message for a fault, without its place. -/
def Fault.message : Fault → String
  | .endInList => "EOF while parsing a list"
  | .endInObject => "EOF while parsing an object"
  | .endInString => "EOF while parsing a string"
  | .endInValue => "EOF while parsing a value"
  | .noColon => "expected `:`"
  | .noListSeparator => "expected `,` or `]`"
  | .noObjectSeparator => "expected `,` or `\x7d`"
  | .badWord => "expected ident"
  | .noValue => "expected value"
  | .badEscape => "invalid escape"
  | .badNumber => "invalid number"
  | .numberOutOfRange => "number out of range"
  | .controlCharacter => "control character (\\u0000-\\u001F) found while parsing a string"
  | .keyNotString => "key must be a string"
  | .loneSurrogate => "lone leading surrogate in hex escape"
  | .unpairedSurrogate => "unexpected end of hex escape"
  | .trailingComma => "trailing comma"
  | .trailingCharacters => "trailing characters"
  | .tooDeep => "recursion limit exceeded"
  | .mismatch m => m.message

/-- A fault, the characters left when it arose, and the number of their bytes already looked at. -/
structure Failure where
  fault : Fault
  rest : List Char
  seen : Nat

/-- The fault stands before the characters `rest`. -/
def Fault.before (f : Fault) (rest : List Char) : Failure := ⟨f, rest, 0⟩

/-- The fault stands at the first byte of `rest`. -/
def Fault.at (f : Fault) (rest : List Char) : Failure := ⟨f, rest, 1⟩

/-- The line, from 1, and the column, in bytes, at which the failure arose in `text`. -/
def Failure.place (e : Failure) (text : String) : Nat × Nat :=
  let bytes := Text.Utf8.encode text
  let left := (Text.Utf8.encode (String.ofList e.rest)).length
  let before := bytes.take (bytes.length - left + e.seen)
  let line := before.reverse.takeWhile (· != 0x0A)
  (1 + before.count 0x0A, line.length)

/-- The message for a failure in `text`. -/
def Failure.message (e : Failure) (text : String) : String :=
  let (line, column) := e.place text
  e.fault.message ++ " at line " ++ toString line ++ " column " ++ toString column

/-- A reader: from the characters that are left to what it read. -/
abbrev Reader (α : Type) := (s : List Char) → Except Failure (Read α s)

/-- The blanks between the parts of a text. -/
def isSpace (c : Char) : Bool := c == ' ' || c == '\n' || c == '\t' || c == '\r'

/-- The characters after the blanks. -/
def skipSpace (s : List Char) : List Char := s.dropWhile isSpace

theorem skipSpace_length_le (s : List Char) : (skipSpace s).length ≤ s.length :=
  dropWhile_length_le _ s

theorem length_le_of_skipSpace_eq {s t : List Char} (h : skipSpace s = t) : t.length ≤ s.length :=
  h ▸ skipSpace_length_le s

theorem length_lt_of_skipSpace_eq {s t : List Char} {c : Char} (h : skipSpace s = c :: t) :
    t.length < s.length :=
  length_le_of_skipSpace_eq h

/-! ### Words -/

/-- The rest of a word of which the first character was read. -/
def word : List Char → Reader Unit
  | [], s => .ok ⟨(), s, Nat.le_refl _⟩
  | _ :: _, [] => .error (Fault.endInValue.before [])
  | w :: ws, c :: r =>
    if c == w then (word ws r).map (·.widen (Nat.le_succ _)) else .error (Fault.badWord.at (c :: r))

/-! ### Strings -/

/-- Four hexadecimal digits. -/
def hexFour : Reader Nat
  | a :: b :: c :: d :: r =>
    match hexValue? a, hexValue? b, hexValue? c, hexValue? d with
    | some a', some b', some c', some d' =>
      .ok ⟨((a' * 16 + b') * 16 + c') * 16 + d', r, by simp only [List.length_cons]; omega⟩
    | _, _, _, _ => .error ⟨.badEscape, a :: b :: c :: d :: r, 4⟩
  | s =>
    -- Fewer characters may still be four bytes.
    if 4 ≤ (Text.Utf8.encode (String.ofList s)).length then .error ⟨.badEscape, s, 4⟩
    else .error (Fault.endInString.before [])

/-- The character of an escape by code point. A code point beyond the first plane is two escapes,
    and half of one is no character. -/
def escapedCodePoint : Reader Char := fun s => do
  let hi ← hexFour s
  if 0xDC00 ≤ hi.value && hi.value ≤ 0xDFFF then .error (Fault.loneSurrogate.before hi.rest)
  else if hi.value < 0xD800 || 0xDBFF < hi.value then
    return ⟨Char.ofNat hi.value, hi.rest, hi.le⟩
  else
    match h : hi.rest with
    | '\\' :: 'u' :: r =>
      let lo ← hexFour r
      if lo.value < 0xDC00 || 0xDFFF < lo.value then .error (Fault.loneSurrogate.before lo.rest)
      else
        return ⟨Char.ofNat ((hi.value - 0xD800) * 0x400 + (lo.value - 0xDC00) + 0x10000), lo.rest, by
          have := lo.le; have := hi.le; simp_all only [List.length_cons]; omega⟩
    | [] => .error (Fault.endInString.before [])
    | '\\' :: [] => .error (Fault.endInString.before [])
    | '\\' :: r => .error (Fault.unpairedSurrogate.at r)
    | r => .error (Fault.unpairedSurrogate.at r)

/-- The character of an escape after its backslash. -/
def escaped : Reader Char
  | [] => .error (Fault.endInString.before [])
  | '"' :: r => .ok ⟨'"', r, Nat.le_succ _⟩
  | '\\' :: r => .ok ⟨'\\', r, Nat.le_succ _⟩
  | '/' :: r => .ok ⟨'/', r, Nat.le_succ _⟩
  | 'b' :: r => .ok ⟨'\x08', r, Nat.le_succ _⟩
  | 'f' :: r => .ok ⟨'\x0c', r, Nat.le_succ _⟩
  | 'n' :: r => .ok ⟨'\n', r, Nat.le_succ _⟩
  | 'r' :: r => .ok ⟨'\r', r, Nat.le_succ _⟩
  | 't' :: r => .ok ⟨'\t', r, Nat.le_succ _⟩
  | 'u' :: r => (escapedCodePoint r).map (·.widen (Nat.le_succ _))
  | c :: r => .error (Fault.badEscape.at (c :: r))

/-- The characters of a string after its opening quote, up to and with the closing one. -/
def stringTail : Reader (List Char)
  | [] => .error (Fault.endInString.before [])
  | c :: r =>
    if c == '"' then .ok ⟨[], r, Nat.le_succ _⟩
    else if c == '\\' then
      match escaped r with
      | .error e => .error e
      | .ok x =>
        have : x.rest.length < (c :: r).length := Nat.lt_succ_of_le x.le
        (stringTail x.rest).map fun y =>
          ⟨x.value :: y.value, y.rest, Nat.le_trans y.le (Nat.le_of_lt this)⟩
    else if c.toNat < 0x20 then .error (Fault.controlCharacter.before r)
    else (stringTail r).map fun y => ⟨c :: y.value, y.rest, Nat.le_succ_of_le y.le⟩
termination_by s => s.length
decreasing_by
  · exact Nat.lt_succ_of_le x.le
  · exact Nat.lt_succ_self _

/-- A string after its opening quote. -/
def string : Reader String := fun s =>
  (stringTail s).map fun r => ⟨String.ofList r.value, r.rest, r.le⟩

/-! ### Numbers -/

/-- Whether a digit comes next. -/
def startsWithDigit : List Char → Bool
  | c :: _ => c.isDigit
  | [] => false

/-- Appends the digits that come next to the number `acc`, as long as it stays below `limit`. -/
def absorb (limit : Nat) (acc : Nat) : (s : List Char) → Read Nat s
  | [] => ⟨acc, [], Nat.le_refl _⟩
  | c :: r =>
    if c.isDigit && acc * 10 + digitValue c < limit then
      (absorb limit (acc * 10 + digitValue c) r).widen (Nat.le_succ _)
    else ⟨acc, c :: r, Nat.le_refl _⟩

/-- The characters after the digits that come next. -/
def skipDigits (s : List Char) : List Char := s.dropWhile Char.isDigit

theorem skipDigits_length_le (s : List Char) : (skipDigits s).length ≤ s.length :=
  dropWhile_length_le _ s

/-- A binary64 number of the given digits and power of ten, which ends before `s`. -/
def scaledNumber (negative : Bool) (digits : Nat) (e : Int) : Reader Number := fun s =>
  match Binary64.ofDecimal? negative digits e with
  | some x => .ok ⟨.real x, s, Nat.le_refl _⟩
  | none => .error (Fault.numberOutOfRange.before s)

/-- Exponents are collected up to this bound; beyond it a number is zero or out of range. -/
def exponentLimit : Nat := 0x80000000

/-- The digits of an exponent, of which the first comes next. -/
def exponentDigits (negative : Bool) (digits : Nat) (e : Int) (down : Bool) : Reader Number := fun s =>
  let x := absorb exponentLimit 0 s
  if startsWithDigit x.rest then
    if digits != 0 && !down then .error (Fault.numberOutOfRange.at x.rest)
    else .ok ⟨.real (.zero negative), skipDigits x.rest,
      Nat.le_trans (skipDigits_length_le _) x.le⟩
  else
    (scaledNumber negative digits (if down then e - x.value else e + x.value) x.rest).map
      (·.widen x.le)

/-- An exponent after its letter. -/
def exponent (negative : Bool) (digits : Nat) (e : Int) : Reader Number := fun s =>
  let down := s.head? == some '-'
  let signed := down || s.head? == some '+'
  let t := if signed then s.drop 1 else s
  have ht : t.length ≤ s.length := by
    simp only [t]; split
    · simp
    · exact Nat.le_refl _
  match t with
  | [] => .error (Fault.endInValue.before [])
  | c :: r =>
    if c.isDigit then (exponentDigits negative digits e down (c :: r)).map (·.widen ht)
    else .error (Fault.badNumber.at (c :: r))

/-- An exponent, if its letter comes next, or else the end of the number. -/
def optionalExponent (negative : Bool) (digits : Nat) (e : Int) : Reader Number
  | 'e' :: r => (exponent negative digits e r).map (·.widen (Nat.le_succ _))
  | 'E' :: r => (exponent negative digits e r).map (·.widen (Nat.le_succ _))
  | s => scaledNumber negative digits e s

/-- The digits after the point. -/
def fraction (negative : Bool) (digits : Nat) (e : Int) : Reader Number := fun s =>
  let x := absorb UInt64.size digits s
  let e := e - (s.length - x.rest.length : Nat)
  if startsWithDigit x.rest then
    -- No further digit fits.
    (optionalExponent negative x.value e (skipDigits x.rest)).map
      (·.widen (Nat.le_trans (skipDigits_length_le _) x.le))
  else if x.rest.length == s.length then
    if s.isEmpty then .error (Fault.endInValue.before []) else .error (Fault.badNumber.at s)
  else (optionalExponent negative x.value e x.rest).map (·.widen x.le)

/-- What may follow the whole part of a number that has a point or an exponent. -/
def afterWhole (negative : Bool) (digits : Nat) (e : Int) : Reader Number
  | '.' :: r => (fraction negative digits e r).map (·.widen (Nat.le_succ _))
  | s => optionalExponent negative digits e s

/-- A whole number that fits 64 bits. A negative one that does not fit, and minus zero, are binary64
    numbers. -/
def wholeNumber (negative : Bool) (n : Nat) : Number :=
  if !negative then .int n
  else if n != 0 && n ≤ 0x8000000000000000 then .int (-n)
  else .real (Binary64.ofNat n).neg

/-- Whether a point or the letter of an exponent comes next. -/
def startsFraction : List Char → Bool
  | c :: _ => c == '.' || c == 'e' || c == 'E'
  | [] => false

/-- A number after its sign. -/
def unsigned (negative : Bool) : Reader Number
  | [] => .error (Fault.endInValue.before [])
  | c :: r =>
    if c == '0' then
      if startsWithDigit r then .error (Fault.badNumber.at r)
      else if startsFraction r then (afterWhole negative 0 0 r).map (·.widen (Nat.le_succ _))
      else .ok ⟨wholeNumber negative 0, r, Nat.le_succ _⟩
    else if c.isDigit then
      let x := absorb UInt64.size (digitValue c) r
      if startsWithDigit x.rest then
        let t := skipDigits x.rest
        (afterWhole negative x.value (x.rest.length - t.length : Nat) t).map
          (·.widen (Nat.le_succ_of_le (Nat.le_trans (skipDigits_length_le _) x.le)))
      else if startsFraction x.rest then
        (afterWhole negative x.value 0 x.rest).map (·.widen (Nat.le_succ_of_le x.le))
      else .ok ⟨wholeNumber negative x.value, x.rest, Nat.le_succ_of_le x.le⟩
    else .error (Fault.badNumber.at (c :: r))

/-- A number. -/
def number : Reader Number
  | '-' :: r => (unsigned true r).map (·.widen (Nat.le_succ _))
  | s => unsigned false s

end ShopClient.Json
