/-!
# TOML values

The values of a TOML document, and the rules by which its tables grow. A table remembers how it came
to be (`Origin`), because that decides what may be added to it later:

* a key is never given twice (`Entries.put?`);
* the tables on the way of a dotted key are made by dotted keys, and the one that receives the value
  by no other means;
* a header names a table that is new, or that was so far only on the way to others (`open?`);
* a header on an array of tables adds a table to it (`add?`), and the way of a header through such
  an array goes through its latest table (`within?`).
-/

namespace ShopClient.Toml

/-- How a table came to be. -/
inductive Origin
  /-- A header names it. -/
  | header
  /-- It is on the way to a table that a header names. -/
  | implied
  /-- It is on the way of a dotted key. -/
  | dotted
  /-- It is written between braces. -/
  | inline
  deriving DecidableEq

/-- A value. Numbers with a point and points in time stay as they are written. -/
inductive Value
  | string (s : String)
  | integer (n : Int)
  | real (text : String)
  | bool (b : Bool)
  | moment (text : String)
  | array (items : List Value)
  | table (origin : Origin) (entries : List (String × Value))
  /-- An array of tables that grows by headers; the latest table comes first. -/
  | tables (latest : List (List (String × Value)))

/-- The keys of a table and their values. -/
abbrev Entries := List (String × Value)

namespace Entries

/-- Changes what stands under a key, if `f` allows it. -/
def alter? (f : Option Value → Option Value) (key : String) : Entries → Option Entries
  | [] => (f none).map fun v => [(key, v)]
  | (k, v) :: rest =>
    if k = key then (f (some v)).map fun v => (k, v) :: rest
    else (alter? f key rest).map ((k, v) :: ·)

/-- Puts `v` under a dotted key. -/
def put? (v : Value) : (key : List String) → Entries → Option Entries
  | [], _ => none
  | [name], es => es.alter? (fun | none => some v | some _ => none) name
  | name :: key, es =>
    es.alter? (fun
      | none => (put? v key []).map (.table .dotted)
      | some (.table .dotted es) => (put? v key es).map (.table .dotted)
      | some (.table .implied es) =>
        if key.length = 1 then none else (put? v key es).map (.table .implied)
      | some _ => none) name

/-- Changes the table at the end of a header's way. -/
def within? (f : Entries → Option Entries) : (way : List String) → Entries → Option Entries
  | [], es => f es
  | name :: way, es =>
    es.alter? (fun
      | none => (within? f way []).map (.table .implied)
      | some (.table .inline _) => none
      | some (.table origin es) => (within? f way es).map (.table origin)
      | some (.tables (es :: earlier)) => (within? f way es).map fun es => .tables (es :: earlier)
      | some _ => none) name

/-- Makes the table that a header names. -/
def open? (name : String) (es : Entries) : Option Entries :=
  es.alter? (fun
    | none => some (.table .header [])
    | some (.table .implied es) => some (.table .header es)
    | some _ => none) name

/-- Adds a table to the array of tables that a header names. -/
def add? (name : String) (es : Entries) : Option Entries :=
  es.alter? (fun
    | none => some (.tables [[]])
    | some (.tables ts) => some (.tables ([] :: ts))
    | some _ => none) name

/-- The table with the given dotted keys and no others. -/
def ofPairs? (pairs : List (List String × Value)) : Option Entries :=
  pairs.foldlM (fun es p => es.put? p.2 p.1) []

end Entries

namespace Value

/-- The string that a value is. -/
def string? : Value → Option String
  | string s => some s
  | _ => none

/-- The 64-bit number without a sign that a value is. -/
def uint64? : Value → Option UInt64
  | integer n => if 0 ≤ n ∧ n < UInt64.size then some (.ofNat n.toNat) else none
  | _ => none

/-- Reads a field of a record. A table gives it by its name and an array by its place; where it is
    not given, it has a value all the same. A point in time is a record that gives no field. -/
def field? {α : Type} (name : String) (place : Nat) (decode : Value → Option α) (missing : α) :
    Value → Option α
  | table _ es => read (es.lookup name)
  | tables latest => read (latest.reverse[place]?.map (.table .header))
  | array items => read items[place]?
  | moment _ => read none
  | _ => none
where
  /-- What the field's value stands for. -/
  read : Option Value → Option α
    | none => some missing
    | some v => decode v

end Value

end ShopClient.Toml
