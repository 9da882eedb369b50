import ShopClient.Text.Digit
import ShopClient.Text.Read
import ShopClient.Text.Utf8

/-!
# Reading TOML text

The parts of the grammar that stand between and below the values: blanks, comments and line breaks,
strings of the four kinds, and keys. A reader takes the characters that are left and answers with
what it read and what is left after it (`Read`), or with nothing where the text is no TOML.

A line ends in a line feed, perhaps after a carriage return. A carriage return stands nowhere else,
and no other control character but the tab stands anywhere.
-/

namespace ShopClient.Toml

open Text (Read dropWhile_length_le hexValue?)

/-- A reader: from the characters that are left to what it read. -/
abbrev Reader (α : Type) := (s : List Char) → Option (Read α s)

/-! ### Between values -/

/-- The blanks within a line. -/
def isBlank (c : Char) : Bool := c == ' ' || c == '\t'

/-- The characters after the blanks. -/
def skipBlanks (s : List Char) : List Char := s.dropWhile isBlank

theorem skipBlanks_length_le (s : List Char) : (skipBlanks s).length ≤ s.length :=
  dropWhile_length_le _ s

/-- Whether a character may stand in a comment or a string. -/
def isPlain (c : Char) : Bool := c == '\t' || (0x20 ≤ c.toNat && c.toNat != 0x7F)

/-- The characters after a comment whose sign was read. It goes as far as the characters allow. -/
def skipComment (s : List Char) : List Char := s.dropWhile isPlain

theorem skipComment_length_le (s : List Char) : (skipComment s).length ≤ s.length :=
  dropWhile_length_le _ s

/-- The characters after a comment whose sign was read and the line break after it. Only the end of
    the text may stand there instead of the line break. -/
def afterComment? (s : List Char) : Option (List Char) :=
  match skipComment s with
  | [] => some []
  | '\n' :: r => some r
  | '\r' :: '\n' :: r => some r
  | _ => none

theorem length_le_of_afterComment? {s t : List Char} (h : afterComment? s = some t) :
    t.length ≤ s.length := by
  have le := skipComment_length_le s
  unfold afterComment? at h
  split at h <;> simp_all <;> omega

/-- Passes over blanks, comments and line breaks. -/
def filler : Reader Unit := fun s =>
  match s with
  | '\r' :: '\n' :: r => (filler r).map (·.widen (Nat.le_add_right r.length 2))
  | c :: r =>
    if isBlank c || c == '\n' then (filler r).map (·.widen (Nat.le_succ _))
    else if c == '#' then
      match h : afterComment? r with
      | some t => (filler t).map (·.widen (Nat.le_succ_of_le (length_le_of_afterComment? h)))
      | none => none
    else some ⟨(), c :: r, Nat.le_refl _⟩
  | [] => some ⟨(), [], Nat.le_refl _⟩
termination_by s => s.length
decreasing_by
  · exact Nat.lt_succ_of_lt (Nat.lt_succ_self _)
  · exact Nat.lt_succ_self _
  · exact Nat.lt_succ_of_le (length_le_of_afterComment? h)

/-- Passes over the blanks and the comment at the end of a line. -/
def lineTail : Reader Unit := fun s =>
  have hs := skipBlanks_length_le s
  match h : skipBlanks s with
  | '#' :: r => some ⟨(), skipComment r, by
      rw [h] at hs; exact Nat.le_trans (skipComment_length_le r) (Nat.le_of_succ_le hs)⟩
  | t => some ⟨(), t, h ▸ hs⟩

/-! ### Strings -/

/-- The character with a given code point. -/
def character? (n : Nat) : Option Char := if n.isValidChar then some (.ofNat n) else none

/-- The character whose code point is written in `n` hexadecimal digits. -/
def codePoint (n : Nat) : Reader Char := fun s => do
  let ds ← (s.take n).mapM hexValue?
  if ds.length = n then
    let c ← character? (ds.foldl (· * 16 + ·) 0)
    return ⟨c, s.drop n, by simp⟩
  else none

/-- The character of an escape after its backslash. -/
def escaped : Reader Char
  | 'b' :: r => some ⟨'\x08', r, Nat.le_succ _⟩
  | 't' :: r => some ⟨'\t', r, Nat.le_succ _⟩
  | 'n' :: r => some ⟨'\n', r, Nat.le_succ _⟩
  | 'f' :: r => some ⟨'\x0c', r, Nat.le_succ _⟩
  | 'r' :: r => some ⟨'\r', r, Nat.le_succ _⟩
  | 'e' :: r => some ⟨'\x1b', r, Nat.le_succ _⟩
  | '"' :: r => some ⟨'"', r, Nat.le_succ _⟩
  | '\\' :: r => some ⟨'\\', r, Nat.le_succ _⟩
  | 'x' :: r => (codePoint 2 r).map (·.widen (Nat.le_succ _))
  | 'u' :: r => (codePoint 4 r).map (·.widen (Nat.le_succ _))
  | 'U' :: r => (codePoint 8 r).map (·.widen (Nat.le_succ _))
  | _ => none

/-- A string with escapes, after its opening quote. -/
def basicTail : Reader (List Char)
  | [] => none
  | c :: r =>
    if c == '"' then some ⟨[], r, Nat.le_succ _⟩
    else if c == '\\' then
      (escaped r).bind fun x => (basicTail x.rest).map fun y =>
        ⟨x.value :: y.value, y.rest, Nat.le_succ_of_le (Nat.le_trans y.le x.le)⟩
    else if isPlain c then
      (basicTail r).map fun y => ⟨c :: y.value, y.rest, Nat.le_succ_of_le y.le⟩
    else none
termination_by s => s.length
decreasing_by
  · exact Nat.lt_succ_of_le x.le
  · exact Nat.lt_succ_self _

/-- A string as it stands, after its opening quote. -/
def literalTail : Reader (List Char)
  | [] => none
  | c :: r =>
    if c == '\'' then some ⟨[], r, Nat.le_succ _⟩
    else if isPlain c then
      (literalTail r).map fun y => ⟨c :: y.value, y.rest, Nat.le_succ_of_le y.le⟩
    else none

/-- The quotes at the front, of which the last three close a string of many lines. No more than two
    others may stand before them. -/
def closing (quote : Char) : Reader (List Char) := fun s =>
  let n := ((s.take 5).takeWhile (· == quote)).length
  if 3 ≤ n then some ⟨List.replicate (n - 3) quote, s.drop n, by simp⟩ else none

/-- The characters after the blanks and line breaks. -/
def skipLines (s : List Char) : List Char :=
  s.dropWhile fun c => isBlank c || c == '\n' || c == '\r'

/-- What a backslash at the end of a line is followed by: the characters after the blanks and line
    breaks, of which there has to be one. -/
def continued? (s : List Char) : Option (List Char) :=
  match skipBlanks s with
  | '\n' :: _ => some (skipLines s)
  | '\r' :: '\n' :: _ => some (skipLines s)
  | _ => none

theorem length_le_of_continued? {s t : List Char} (h : continued? s = some t) :
    t.length ≤ s.length := by
  have hs : (skipLines s).length ≤ s.length := dropWhile_length_le _ s
  unfold continued? at h
  split at h <;> simp_all

/-- A string of many lines with escapes, after its opening quotes. A backslash at the end of a line
    takes the blanks and line breaks after it away. -/
def linesTail : Reader (List Char) := fun s =>
  match closing '"' s with
  | some x => some x
  | none =>
    match s with
    | [] => none
    | '\r' :: '\n' :: r =>
      (linesTail r).map fun y =>
        ⟨'\r' :: '\n' :: y.value, y.rest, Nat.le_succ_of_le (Nat.le_succ_of_le y.le)⟩
    | c :: r =>
      if c == '\\' then
        match h : continued? r with
        | some t => (linesTail t).map (·.widen (Nat.le_succ_of_le (length_le_of_continued? h)))
        | none =>
          (escaped r).bind fun x => (linesTail x.rest).map fun y =>
            ⟨x.value :: y.value, y.rest, Nat.le_succ_of_le (Nat.le_trans y.le x.le)⟩
      else if isPlain c || c == '\n' then
        (linesTail r).map fun y => ⟨c :: y.value, y.rest, Nat.le_succ_of_le y.le⟩
      else none
termination_by s => s.length
decreasing_by
  · exact Nat.lt_succ_of_lt (Nat.lt_succ_self _)
  · exact Nat.lt_succ_of_le (length_le_of_continued? h)
  · exact Nat.lt_succ_of_le x.le
  · exact Nat.lt_succ_self _

/-- A string of many lines as they stand, after its opening quotes. -/
def literalLinesTail : Reader (List Char) := fun s =>
  match closing '\'' s with
  | some x => some x
  | none =>
    match s with
    | [] => none
    | '\r' :: '\n' :: r =>
      (literalLinesTail r).map fun y =>
        ⟨'\r' :: '\n' :: y.value, y.rest, Nat.le_succ_of_le (Nat.le_succ_of_le y.le)⟩
    | c :: r =>
      if isPlain c || c == '\n' then
        (literalLinesTail r).map fun y => ⟨c :: y.value, y.rest, Nat.le_succ_of_le y.le⟩
      else none
termination_by s => s.length
decreasing_by
  · exact Nat.lt_succ_of_lt (Nat.lt_succ_self _)
  · exact Nat.lt_succ_self _

/-- The characters after a line break, if one comes next. -/
def skipLineBreak : List Char → List Char
  | '\n' :: r => r
  | '\r' :: '\n' :: r => r
  | s => s

theorem skipLineBreak_length_le (s : List Char) : (skipLineBreak s).length ≤ s.length := by
  unfold skipLineBreak
  split
  · exact Nat.le_succ _
  · simp only [List.length_cons]; omega
  · exact Nat.le_refl _

/-- A string of many lines after its opening quotes; a line break right after them does not count. -/
def manyLines (tail : Reader (List Char)) : Reader (List Char) := fun s =>
  (tail (skipLineBreak s)).map (·.widen (skipLineBreak_length_le s))

/-- A string, of which the opening quote comes next. -/
def string : Reader String
  | '"' :: '"' :: '"' :: r => (manyLines linesTail r).map fun x =>
      ⟨String.ofList x.value, x.rest, Nat.le_trans x.le (Nat.le_add_right r.length 3)⟩
  | '\'' :: '\'' :: '\'' :: r => (manyLines literalLinesTail r).map fun x =>
      ⟨String.ofList x.value, x.rest, Nat.le_trans x.le (Nat.le_add_right r.length 3)⟩
  | '"' :: r => (basicTail r).map fun x => ⟨String.ofList x.value, x.rest, Nat.le_succ_of_le x.le⟩
  | '\'' :: r => (literalTail r).map fun x => ⟨String.ofList x.value, x.rest, Nat.le_succ_of_le x.le⟩
  | _ => none

/-! ### Keys -/

/-- The characters of a key without quotes. -/
def isKeyChar (c : Char) : Bool := c.isAlphanum || c == '_' || c == '-'

/-- One part of a dotted key. -/
def keyPart : Reader String := fun s =>
  match s with
  | '"' :: r => (basicTail r).map fun x => ⟨String.ofList x.value, x.rest, Nat.le_succ_of_le x.le⟩
  | '\'' :: r => (literalTail r).map fun x => ⟨String.ofList x.value, x.rest, Nat.le_succ_of_le x.le⟩
  | s =>
    let name := s.takeWhile isKeyChar
    if name.isEmpty then none
    else some ⟨String.ofList name, s.dropWhile isKeyChar, dropWhile_length_le _ s⟩

/-- A dotted key. Blanks may stand around its parts. -/
def key : Reader (List String) := fun s => do
  let x ← keyPart (skipBlanks s)
  have hx : (skipBlanks x.rest).length ≤ s.length :=
    Nat.le_trans (skipBlanks_length_le _) (Nat.le_trans x.le (skipBlanks_length_le s))
  match h : skipBlanks x.rest with
  | '.' :: r =>
    have hr : r.length < s.length := by rw [h] at hx; exact hx
    (key r).map fun y => ⟨x.value :: y.value, y.rest, Nat.le_trans y.le (Nat.le_of_lt hr)⟩
  | t => return ⟨[x.value], t, h ▸ hx⟩
termination_by s => s.length

end ShopClient.Toml
