import ShopClient.Toml.Reader
import ShopClient.Toml.Scalar

/-!
# Statements of a TOML document

A document is a row of statements, one a line: a pair of a key and a value, or a header that says
where the pairs after it belong. Values may be nested up to a given number of levels (`depthLimit`);
the reader of one level is made from the reader of the level below it (`level`).

* `statements`: the statements of a document.
-/

namespace ShopClient.Toml

open Text (Read)

/-- Arrays and tables may be nested this deep. -/
def depthLimit : Nat := 80

/-- A line of a document. -/
inductive Statement
  | pair (key : List String) (value : Value)
  /-- The pairs that follow belong to the table of this name. -/
  | table (key : List String)
  /-- The pairs that follow belong to a new table in the array of this name. -/
  | item (key : List String)

/-! ### Values -/

/-- The characters that a word may hold. -/
def isWordChar (c : Char) : Bool :=
  c.isAlphanum || c == '_' || c == '-' || c == '+' || c == '.' || c == ':'

/-- The word that comes next. A date may go on with a time after a space. -/
def nextWord (s : List Char) : List Char :=
  let word := s.takeWhile isWordChar
  match s.drop word.length with
  | ' ' :: c :: r =>
    if isDate word && c.isDigit then word ++ ' ' :: (c :: r).takeWhile isWordChar else word
  | _ => word

/-- A value that is one word. -/
def word : Reader Value := fun s =>
  (scalar? (nextWord s)).map fun v => ⟨v, s.drop (nextWord s).length, by simp⟩

/-- A key and its value, with an equals sign between them. -/
def pair (value : Reader Value) : Reader (List String × Value) := fun s => do
  let k ← key s
  match h : k.rest with
  | '=' :: r =>
    let v ← value (skipBlanks r)
    return ⟨(k.value, v.value), v.rest, by
      have := k.le; have := v.le; have := skipBlanks_length_le r
      simp_all only [List.length_cons]; omega⟩
  | _ => none

/-- What stands between brackets, up to and with the closing one: parts of one kind with commas
    between them, and perhaps a comma after the last. -/
def parts {α : Type} (part : Reader α) (close : Char) : Reader (List α) := fun s => do
  let f ← filler s
  match hf : f.rest with
  | [] => none
  | c :: r =>
    if c == close then return ⟨[], r, Nat.le_of_lt (f.length_lt_of_rest_eq hf)⟩
    else
      let x ← part f.rest
      let g ← filler x.rest
      match hg : g.rest with
      | [] => none
      | d :: t =>
        have ht : t.length < s.length :=
          Nat.lt_of_lt_of_le (g.length_lt_of_rest_eq hg) (Nat.le_trans x.le f.le)
        if d == close then return ⟨[x.value], t, Nat.le_of_lt ht⟩
        else if d == ',' then
          (parts part close t).map fun y =>
            ⟨x.value :: y.value, y.rest, Nat.le_trans y.le (Nat.le_of_lt ht)⟩
        else none
termination_by s => s.length

/-- A value, given the reader for what is nested in it, if anything may be. -/
def level (nested : Option (Reader Value)) : Reader Value
  | '[' :: r => do
    let xs ← parts (← nested) ']' r
    return ⟨.array xs.value, xs.rest, Nat.le_succ_of_le xs.le⟩
  | '{' :: r => do
    let xs ← parts (pair (← nested)) '}' r
    let es ← Entries.ofPairs? xs.value
    return ⟨.table .inline es, xs.rest, Nat.le_succ_of_le xs.le⟩
  | '"' :: r => (string ('"' :: r)).map (·.map .string)
  | '\'' :: r => (string ('\'' :: r)).map (·.map .string)
  | s => word s

/-- A value nested up to `depth` levels. -/
def value : (depth : Nat) → Reader Value
  | 0 => level none
  | depth + 1 => level (some (value depth))

/-! ### Lines -/

/-- The key in a header, up to its brackets. -/
def headerKey (close : List Char) : Reader (List String) := fun s => do
  let k ← key s
  if close.isPrefixOf k.rest then
    return ⟨k.value, k.rest.drop close.length, by have := k.le; simp only [List.length_drop]; omega⟩
  else none

/-- A statement. -/
def statement : Reader Statement
  | '[' :: '[' :: r => (headerKey [']', ']'] r).map fun k =>
      ⟨.item k.value, k.rest, Nat.le_succ_of_le (Nat.le_succ_of_le k.le)⟩
  | '[' :: r => (headerKey [']'] r).map fun k => ⟨.table k.value, k.rest, Nat.le_succ_of_le k.le⟩
  | s => (pair (value depthLimit) s).map (·.map fun p => .pair p.1 p.2)

/-- The statements up to the end of the document. -/
def statements (s : List Char) : Option (List Statement) := do
  let f ← filler s
  if f.rest.isEmpty then return []
  let x ← statement f.rest
  let e ← lineTail x.rest
  have hx : x.rest.length ≤ s.length := Nat.le_trans x.le f.le
  match h : e.rest with
  | [] => return [x.value]
  | '\n' :: r =>
    have : r.length < s.length := Nat.lt_of_lt_of_le (e.length_lt_of_rest_eq h) hx
    return x.value :: (← statements r)
  | '\r' :: '\n' :: r =>
    have : r.length < s.length :=
      Nat.lt_of_succ_lt (Nat.lt_of_lt_of_le (e.length_lt_of_rest_eq h) hx)
    return x.value :: (← statements r)
  | _ => none
termination_by s.length

end ShopClient.Toml
