import ShopClient.Json.Reader

/-!
# Reading JSON values

A value may be nested up to a given number of levels. The reader of one level is made from the
reader of the level below it (`level`); the items of an array and the members of an object are read
by loops that take the reader of their values as an argument (`items`, `members`).

* `parse`: the value that a whole text stands for;
* `parseBytes?`: the same for bytes, which have to be UTF-8.
-/

namespace ShopClient.Json

open Text (Read)

/-- Arrays and objects may be nested this deep. -/
def depthLimit : Nat := 127

section

variable {α : Type}

/-- The items of an array from the first one on, and the closing bracket. -/
def items (item : Reader α) : Reader (List α) := fun s =>
  match item s with
  | .error e => .error e
  | .ok x =>
    match h : skipSpace x.rest with
    | ']' :: r =>
      .ok ⟨[x.value], r, Nat.le_of_lt (Nat.lt_of_lt_of_le (length_lt_of_skipSpace_eq h) x.le)⟩
    | ',' :: r =>
      have hr : r.length < s.length := Nat.lt_of_lt_of_le (length_lt_of_skipSpace_eq h) x.le
      match skipSpace r with
      | [] => .error (Fault.endInValue.before [])
      | ']' :: t => .error (Fault.trailingComma.at (']' :: t))
      | _ => (items item r).map fun y =>
          ⟨x.value :: y.value, y.rest, Nat.le_trans y.le (Nat.le_of_lt hr)⟩
    | [] => .error (Fault.endInList.before [])
    | t => .error (Fault.noListSeparator.at t)
termination_by s => s.length

/-- The items of an array after its opening bracket. -/
def array (item : Reader α) : Reader (List α) := fun s =>
  match h : skipSpace s with
  | ']' :: r => .ok ⟨[], r, Nat.le_of_lt (length_lt_of_skipSpace_eq h)⟩
  | [] => .error (Fault.endInList.before [])
  | _ => items item s

/-- A member: its key, of which the opening quote comes next, and its value. -/
def member (value : Reader α) : Reader (String × α) := fun s =>
  match s with
  | [] => .error (Fault.endInObject.before [])
  | '"' :: r => do
    let k ← string r
    match h : skipSpace k.rest with
    | ':' :: t =>
      let v ← value t
      have ht : t.length < r.length := Nat.lt_of_lt_of_le (length_lt_of_skipSpace_eq h) k.le
      return ⟨(k.value, v.value), v.rest, Nat.le_trans v.le (Nat.le_of_lt (Nat.lt_succ_of_lt ht))⟩
    | [] => .error (Fault.endInObject.before [])
    | t => .error (Fault.noColon.at t)
  | s => .error (Fault.keyNotString.at s)

/-- The members of an object from the first one on, and the closing brace. -/
def members (value : Reader α) : Reader (List (String × α)) := fun s =>
  match member value s with
  | .error e => .error e
  | .ok x =>
    match h : skipSpace x.rest with
    | '}' :: r =>
      .ok ⟨[x.value], r, Nat.le_of_lt (Nat.lt_of_lt_of_le (length_lt_of_skipSpace_eq h) x.le)⟩
    | ',' :: r =>
      have hr : (skipSpace r).length < s.length :=
        Nat.lt_of_le_of_lt (skipSpace_length_le r)
          (Nat.lt_of_lt_of_le (length_lt_of_skipSpace_eq h) x.le)
      match skipSpace r with
      | [] => .error (Fault.endInValue.before [])
      | '}' :: t => .error (Fault.trailingComma.at ('}' :: t))
      | _ => (members value (skipSpace r)).map fun y =>
          ⟨x.value :: y.value, y.rest, Nat.le_trans y.le (Nat.le_of_lt hr)⟩
    | [] => .error (Fault.endInObject.before [])
    | t => .error (Fault.noObjectSeparator.at t)
termination_by s => s.length

/-- The members of an object after its opening brace, as they are written. -/
def object (value : Reader α) : Reader (List (String × α)) := fun s =>
  match h : skipSpace s with
  | '}' :: r => .ok ⟨[], r, Nat.le_of_lt (length_lt_of_skipSpace_eq h)⟩
  | [] => .error (Fault.endInObject.before [])
  | t => (members value t).map (·.widen (length_le_of_skipSpace_eq h))

end

/-- A value, given the reader for what is nested in it, if anything may be. -/
def level (nested : Option (Reader Value)) : Reader Value := fun s =>
  match h : skipSpace s with
  | [] => .error (Fault.endInValue.before [])
  | c :: r =>
    have hc : (c :: r).length ≤ s.length := length_le_of_skipSpace_eq h
    have hr : r.length ≤ s.length := Nat.le_of_succ_le hc
    if c == '"' then (string r).map fun x => ⟨.string x.value, x.rest, Nat.le_trans x.le hr⟩
    else if c == '[' then
      match nested with
      | none => .error (Fault.tooDeep.at (c :: r))
      | some value => (array value r).map fun x => ⟨.array x.value, x.rest, Nat.le_trans x.le hr⟩
    else if c == '{' then
      match nested with
      | none => .error (Fault.tooDeep.at (c :: r))
      | some value => (object value r).map fun x =>
          ⟨.object (Keyed.ofList x.value), x.rest, Nat.le_trans x.le hr⟩
    else if c == 'n' then
      (word "ull".toList r).map fun x => ⟨.null, x.rest, Nat.le_trans x.le hr⟩
    else if c == 't' then
      (word "rue".toList r).map fun x => ⟨.bool true, x.rest, Nat.le_trans x.le hr⟩
    else if c == 'f' then
      (word "alse".toList r).map fun x => ⟨.bool false, x.rest, Nat.le_trans x.le hr⟩
    else if c == '-' || c.isDigit then
      (number (c :: r)).map fun x => ⟨.number x.value, x.rest, Nat.le_trans x.le hc⟩
    else .error (Fault.noValue.at (c :: r))

/-- A value nested up to `depth` levels. -/
def value : (depth : Nat) → Reader Value
  | 0 => level none
  | depth + 1 => level (some (value depth))

/-- Nothing but blanks may be left. -/
def finish {α : Type} {s : List Char} (r : Read α s) : Except Failure α :=
  match skipSpace r.rest with
  | [] => .ok r.value
  | t => .error (Fault.trailingCharacters.at t)

/-- The value that the characters stand for. -/
def parseChars (s : List Char) : Except Failure Value := do
  finish (← value depthLimit s)

/-- The value that a text stands for. -/
def parse (text : String) : Except Failure Value := parseChars text.toList

/-- The value that bytes stand for; they have to be UTF-8. -/
def parseBytes? (body : Text.Bytes) : Option Value :=
  (Text.Utf8.decode? body).bind fun text => (parse text).toOption

end ShopClient.Json
