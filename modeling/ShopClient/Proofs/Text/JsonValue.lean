import ShopClient.Json.Printer
import ShopClient.Proofs.Text.JsonNumber
import ShopClient.Proofs.Text.Utf8
import Mathlib.Tactic.MkIffOfInductiveProp

/-!
# Values, read back

The compact text of a value is read back as the value, with the members of its objects in the order
of their keys (`Value.ordered`), which is what a reader makes of an object. A value whose objects
are in that order already is read back as it is. It takes numbers that are whole (`Value.IsPlain`),
and no more levels of arrays and objects than a reader allows.

The reader of one level calls the reader of the level below it, and so the induction is on how a
plain value is built.

* `reads_value`: a plain value is read back, and nothing after it;
* `parseBytes?_eq_some_iff`: what a whole text stands for is what is read in it;
* `parseBytes?_print`: the whole text of a plain value stands for it;
* `Value.IsOrdered.ordered_eq`: what is in order stays as it is.
-/

namespace ShopClient.Json

open Text (Read)

variable {s u rest : List Char} {depth : Nat} {v : Value}

/-! ### Plain values, and values in order -/

/-- The value has whole numbers only, and arrays and objects are nested in it up to `depth` levels.
    -/
inductive Value.IsPlain : Nat → Value → Prop
  | null {depth : Nat} : IsPlain depth .null
  | bool {depth : Nat} (b : Bool) : IsPlain depth (.bool b)
  | int {depth : Nat} {n : Int} : IsWhole n → IsPlain depth (.number (.int n))
  | string {depth : Nat} (s : String) : IsPlain depth (.string s)
  | array {depth : Nat} {vs : List Value} :
    (∀ v ∈ vs, IsPlain depth v) → IsPlain (depth + 1) (.array vs)
  | object {depth : Nat} {ms : List (String × Value)} :
    (∀ m ∈ ms, IsPlain depth m.2) → IsPlain (depth + 1) (.object ms)

/-- The members of each object in the value are in the order of their keys, each key once. -/
inductive Value.IsOrdered : Value → Prop
  | null : IsOrdered .null
  | bool (b : Bool) : IsOrdered (.bool b)
  | number (n : Number) : IsOrdered (.number n)
  | string (s : String) : IsOrdered (.string s)
  | array {vs : List Value} : (∀ v ∈ vs, IsOrdered v) → IsOrdered (.array vs)
  | object {ms : List (String × Value)} :
    Keyed.IsSorted ms → (∀ m ∈ ms, IsOrdered m.2) → IsOrdered (.object ms)

mutual

/-- The value with the members of each object in the order of their keys; the last one of a key
    counts. -/
def Value.ordered : Value → Value
  | .null => .null
  | .bool b => .bool b
  | .number n => .number n
  | .string s => .string s
  | .array vs => .array (orderedItems vs)
  | .object ms => .object (Keyed.ofList (orderedMembers ms))

/-- Items, each of them in order. -/
def orderedItems : List Value → List Value
  | [] => []
  | v :: vs => v.ordered :: orderedItems vs

/-- Members, as they are written, each value in order. -/
def orderedMembers : List (String × Value) → List (String × Value)
  | [] => []
  | (k, v) :: ms => (k, v.ordered) :: orderedMembers ms

end

theorem orderedItems_eq_map (vs : List Value) : orderedItems vs = vs.map Value.ordered := by
  induction vs with
  | nil => rfl
  | cons v vs ih => rw [orderedItems, ih, List.map_cons]

theorem orderedMembers_eq_map (ms : List (String × Value)) :
    orderedMembers ms = ms.map fun m => (m.1, m.2.ordered) := by
  induction ms with
  | nil => rfl
  | cons m ms ih => rw [orderedMembers, ih, List.map_cons]

theorem Value.IsOrdered.ordered_eq (h : v.IsOrdered) : v.ordered = v := by
  induction h with
  | null => rfl
  | bool => rfl
  | number => rfl
  | string => rfl
  | array _ ih => rw [ordered, orderedItems_eq_map, List.map_congr_left ih, List.map_id']
  | object hsorted _ ih =>
    rename_i ms _
    have hsame : ms.map (fun m => (m.1, m.2.ordered)) = ms.map id :=
      List.map_congr_left fun m hm => Prod.ext rfl (ih m hm)
    rw [ordered, orderedMembers_eq_map, hsame, List.map_id, Keyed.ofList_of_isSorted hsorted]

/-- A member of an object is a member of it in order, if there is no other one of its key. -/
theorem member?_ordered {k : String} {ms : List (String × Value)} (hmem : (k, v) ∈ ms)
    (honly : ∀ w, (k, w) ∈ ms → w = v) : (Value.object ms).ordered.member? k = some v.ordered := by
  rw [Value.ordered, Value.member?, orderedMembers_eq_map, Keyed.get?_ofList]
  refine Keyed.get?_eq_some ?_ fun w hw => ?_
  · rw [List.mem_reverse]
    exact List.mem_map_of_mem (f := fun m : String × Value => (m.1, m.2.ordered)) hmem
  · obtain ⟨m, hm, heq⟩ := List.mem_map.1 (List.mem_reverse.1 hw)
    obtain ⟨rfl, rfl⟩ := Prod.mk.inj heq
    rw [honly m.2 hm]

/-! ### One level -/

/-- What is found by a reader that makes something of what another one finds. -/
theorem exists_map_eq_ok_iff {α β : Type} {reader : Reader α} {f : α → β} {r : List Char} {y : β}
    (hle : r.length ≤ s.length) :
    (∃ le, ((reader r).map fun x => (⟨f x.value, x.rest, Nat.le_trans x.le hle⟩ : Read β s)) =
      .ok ⟨y, rest, le⟩) ↔ ∃ x, Reads reader r x rest ∧ y = f x := by
  constructor
  · rintro ⟨le, h⟩
    cases hx : reader r with
    | error e =>
      rw [hx] at h
      cases h
    | ok x =>
      rw [hx] at h
      have heq := Except.ok.inj h
      obtain rfl : x.rest = rest := congrArg Read.rest heq
      exact ⟨x.value, ⟨x.le, hx⟩, (congrArg Read.value heq).symm⟩
  · rintro ⟨x, ⟨le, h⟩, rfl⟩
    refine ⟨Nat.le_trans le hle, ?_⟩
    rw [h]
    rfl

/-- The value `v` is read, of which `c` is the first character and `r` comes after it. The first
    character tells what kind of value it is. -/
@[mk_iff]
inductive ReadsFrom (nested : Option (Reader Value)) (c : Char) (r rest : List Char) : Value → Prop
  | string {x : String} : c = '"' → Reads string r x rest → ReadsFrom nested c r rest (.string x)
  | array {reader : Reader Value} {vs : List Value} : c = '[' → nested = some reader →
    Reads (array reader) r vs rest → ReadsFrom nested c r rest (.array vs)
  | object {reader : Reader Value} {ms : List (String × Value)} : c = '{' → nested = some reader →
    Reads (object reader) r ms rest → ReadsFrom nested c r rest (.object (Keyed.ofList ms))
  | null : c = 'n' → Reads (word "ull".toList) r () rest → ReadsFrom nested c r rest .null
  | true : c = 't' → Reads (word "rue".toList) r () rest → ReadsFrom nested c r rest (.bool true)
  | false : c = 'f' → Reads (word "alse".toList) r () rest → ReadsFrom nested c r rest (.bool false)
  | number {n : Number} : c = '-' ∨ c.isDigit = true → Reads number (c :: r) n rest →
    ReadsFrom nested c r rest (.number n)

theorem reads_level_iff {nested : Option (Reader Value)} {c : Char} {r : List Char}
    (h : skipSpace s = c :: r) : Reads (level nested) s v rest ↔ ReadsFrom nested c r rest v := by
  rw [Reads, readsFrom_iff]
  unfold level
  split
  · rename_i hnil
    cases hnil.symm.trans h
  · rename_i c' r' hcons
    obtain ⟨rfl, rfl⟩ := List.cons.inj (hcons.symm.trans h)
    have hle : (c' :: r').length ≤ s.length := length_le_of_skipSpace_eq h
    have hle' : r'.length ≤ s.length := Nat.le_of_succ_le hle
    simp only [beq_iff_eq, Bool.or_eq_true]
    -- The kinds in the order in which the reader tries them.
    split_ifs with hquote hbracket hbrace hnull htrue hfalse hnumber
    · subst hquote
      rw [exists_map_eq_ok_iff hle']
      simp
    · subst hbracket
      cases nested with
      | none => simp
      | some reader =>
        dsimp only
        rw [exists_map_eq_ok_iff hle']
        simp
    · subst hbrace
      cases nested with
      | none => simp
      | some reader =>
        refine (exists_map_eq_ok_iff (f := fun ms => Value.object (Keyed.ofList ms)) hle').trans ?_
        simp
    · subst hnull
      refine (exists_map_eq_ok_iff (f := fun _ => Value.null) hle').trans ?_
      simp [Unique.exists_iff]
    · subst htrue
      refine (exists_map_eq_ok_iff (f := fun _ => Value.bool true) hle').trans ?_
      simp [Unique.exists_iff]
    · subst hfalse
      refine (exists_map_eq_ok_iff (f := fun _ => Value.bool false) hle').trans ?_
      simp [Unique.exists_iff]
    · rw [exists_map_eq_ok_iff hle]
      simp [hquote, hbracket, hbrace, hnull, htrue, hfalse, hnumber]
    · simp [hquote, hbracket, hbrace, hnull, htrue, hfalse, hnumber]

/-- There is no value where nothing is left but blanks. -/
theorem exists_skipSpace_eq {nested : Option (Reader Value)} (h : Reads (level nested) s v rest) :
    ∃ c r, skipSpace s = c :: r := by
  obtain ⟨le, h⟩ := h
  unfold level at h
  split at h
  · cases h
  · rename_i c r hs
    exact ⟨c, r, hs⟩

theorem reads_word (w rest : List Char) : Reads (word w) (w ++ rest) () rest := by
  induction w with
  | nil => exact ⟨Nat.le_refl _, rfl⟩
  | cons c w ih =>
    obtain ⟨le, h⟩ := ih
    rw [List.cons_append]
    refine ⟨Nat.le_succ_of_le le, ?_⟩
    rw [word, if_pos (beq_self_eq_true c), h]
    rfl

/-! ### Items -/

section

variable {α : Type} {item : Reader α} {t : List Char} {c : Char} {x : α} {xs : List α}

theorem reads_items_last (hx : Reads item s x t) (hbracket : skipSpace t = ']' :: rest) :
    Reads (items item) s [x] rest := by
  obtain ⟨le, hx⟩ := hx
  have hlt := length_lt_of_skipSpace_eq hbracket
  refine ⟨by omega, ?_⟩
  rw [items]
  simp only [hx]
  split
  · rename_i r hr
    obtain ⟨-, rfl⟩ := List.cons.inj (hr.symm.trans hbracket)
    rfl
  · rename_i hcomma
    cases hcomma.symm.trans hbracket
  · rename_i hnil
    cases hnil.symm.trans hbracket
  · rename_i hne _ _
    exact (hne _ hbracket).elim

theorem reads_items_cons {r : List Char} (hx : Reads item s x t) (hcomma : skipSpace t = ',' :: u)
    (hu : skipSpace u = c :: r) (hc : c ≠ ']') (hxs : Reads (items item) u xs rest) :
    Reads (items item) s (x :: xs) rest := by
  obtain ⟨le, hx⟩ := hx
  obtain ⟨le', hxs⟩ := hxs
  have hlt := length_lt_of_skipSpace_eq hcomma
  refine ⟨by omega, ?_⟩
  rw [items]
  simp only [hx]
  split
  · rename_i hbracket
    cases hbracket.symm.trans hcomma
  · rename_i r' hr
    obtain ⟨-, rfl⟩ := List.cons.inj (hr.symm.trans hcomma)
    split
    · rename_i hnil
      cases hnil.symm.trans hu
    · rename_i hbracket
      exact absurd (List.cons.inj (hu.symm.trans hbracket)).1 hc
    · simp only [hxs, Except.map]
  · rename_i hnil
    cases hnil.symm.trans hcomma
  · rename_i hne _
    exact (hne _ hcomma).elim

theorem reads_array_nil (item : Reader α) (h : skipSpace s = ']' :: rest) :
    Reads (array item) s [] rest := by
  refine ⟨Nat.le_of_lt (length_lt_of_skipSpace_eq h), ?_⟩
  unfold array
  split
  · rename_i r hr
    obtain ⟨-, rfl⟩ := List.cons.inj (hr.symm.trans h)
    rfl
  · rename_i hnil
    cases hnil.symm.trans h
  · rename_i hne _
    exact (hne _ h).elim

theorem reads_array (h : skipSpace s = c :: u) (hc : c ≠ ']') (hxs : Reads (items item) s xs rest) :
    Reads (array item) s xs rest := by
  obtain ⟨le, hxs⟩ := hxs
  refine ⟨le, ?_⟩
  unfold array
  split
  · rename_i hbracket
    exact absurd (List.cons.inj (h.symm.trans hbracket)).1 hc
  · rename_i hnil
    cases hnil.symm.trans h
  · exact hxs

end

/-! ### Values -/

/-- The text of a plain value starts with a character that is not blank and closes nothing. -/
theorem exists_chars_eq (h : v.IsPlain depth) :
    ∃ c cs, v.chars = c :: cs ∧ isSpace c = false ∧ c ≠ ']' := by
  cases h with
  | null => exact ⟨_, _, rfl, rfl, by decide⟩
  | bool b => cases b <;> exact ⟨_, _, rfl, rfl, by decide⟩
  | @int _ n _ =>
    obtain ⟨c, cs, heq, hc⟩ := exists_intChars_eq n
    refine ⟨c, cs, heq, ?_⟩
    rcases hc with rfl | hc
    · exact ⟨rfl, by decide⟩
    · constructor
      · by_contra hspace
        simp only [isSpace, Bool.not_eq_false, Bool.or_eq_true, beq_iff_eq] at hspace
        rcases hspace with ((rfl | rfl) | rfl) | rfl <;> cases hc
      · rintro rfl
        cases hc
  | string s => exact ⟨_, _, rfl, rfl, by decide⟩
  | array => exact ⟨_, _, rfl, rfl, by decide⟩
  | object => exact ⟨_, _, rfl, rfl, by decide⟩

theorem skipSpace_chars (h : v.IsPlain depth) (rest : List Char) :
    skipSpace (v.chars ++ rest) = v.chars ++ rest := by
  obtain ⟨c, cs, hv, hspace, -⟩ := exists_chars_eq h
  rw [hv]
  exact skipSpace_of_not_isSpace hspace

/-- So do the texts of items, with commas between them. -/
theorem exists_itemsChars_eq (w : Value) (vs : List Value) (h : ∀ v ∈ w :: vs, v.IsPlain depth)
    (rest : List Char) : ∃ c u, itemsChars (w :: vs) ++ ']' :: rest = c :: u ∧ isSpace c = false ∧
      c ≠ ']' := by
  obtain ⟨c, cs, hc, hspace, hbracket⟩ := exists_chars_eq (h w List.mem_cons_self)
  obtain ⟨u, hu⟩ : ∃ u, itemsChars (w :: vs) ++ ']' :: rest = c :: u := by
    cases vs <;> simp [itemsChars, hc]
  exact ⟨c, u, hu, hspace, hbracket⟩

/-- Those of members start with the quote before the first key. -/
theorem exists_membersChars_eq (m : String × Value) (ms : List (String × Value))
    (rest : List Char) : ∃ u, membersChars (m :: ms) ++ '}' :: rest = '"' :: u := by
  cases ms <;> simp [membersChars, stringChars]

/-- The items of an array are read back up to the closing bracket. -/
theorem reads_itemsChars {reader : Reader Value} (w : Value) (vs : List Value)
    (hplain : ∀ v ∈ w :: vs, v.IsPlain depth)
    (hread : ∀ v ∈ w :: vs, ∀ rest, EndsNumber rest → Reads reader (v.chars ++ rest) v.ordered rest)
    (rest : List Char) :
    Reads (items reader) (itemsChars (w :: vs) ++ ']' :: rest) ((w :: vs).map Value.ordered)
      rest := by
  induction vs generalizing w with
  | nil =>
    -- Neither the bracket nor a comma goes on with a number.
    exact reads_items_last (hread w List.mem_cons_self _ ⟨rfl, rfl⟩) (skipSpace_of_not_isSpace rfl)
  | cons w' vs ih =>
    rw [List.forall_mem_cons] at hplain hread
    have htext : itemsChars (w :: w' :: vs) ++ ']' :: rest =
        w.chars ++ ',' :: (itemsChars (w' :: vs) ++ ']' :: rest) := by
      simp only [itemsChars, List.append_assoc, List.cons_append]
    obtain ⟨c, u, hu, hspace, hbracket⟩ := exists_itemsChars_eq w' vs hplain.2 rest
    rw [htext]
    refine reads_items_cons (hread.1 _ ⟨rfl, rfl⟩) (skipSpace_of_not_isSpace rfl) (c := c) (r := u)
      ?_ hbracket (ih w' hplain.2 hread.2)
    rw [hu, skipSpace_of_not_isSpace hspace]

/-- The key of a member is read back, and what its value is read as is the value. -/
theorem reads_memberChars {α : Type} {reader : Reader α} {k : String} {w : Value} {x : α}
    (h : Reads reader (w.chars ++ rest) x rest) :
    Reads (member reader) (stringChars k ++ ':' :: (w.chars ++ rest)) (k, x) rest := by
  have htext : stringChars k ++ ':' :: (w.chars ++ rest) =
      '"' :: (k.toList.flatMap escapeChar ++ '"' :: ':' :: (w.chars ++ rest)) := by
    simp only [stringChars, List.cons_append, List.append_assoc, List.nil_append]
  rw [htext]
  exact reads_member (reads_string k _) (skipSpace_of_not_isSpace rfl) h

/-- The members of an object are read back up to the closing brace. -/
theorem reads_membersChars {reader : Reader Value} (m : String × Value) (ms : List (String × Value))
    (hread : ∀ m' ∈ m :: ms, ∀ rest, EndsNumber rest →
      Reads reader (m'.2.chars ++ rest) m'.2.ordered rest) (rest : List Char) :
    Reads (members reader) (membersChars (m :: ms) ++ '}' :: rest)
      ((m :: ms).map fun m => (m.1, m.2.ordered)) rest := by
  induction ms generalizing m with
  | nil =>
    have htext : membersChars [m] ++ '}' :: rest =
        stringChars m.1 ++ ':' :: (m.2.chars ++ '}' :: rest) := by
      simp only [membersChars, List.append_assoc, List.cons_append]
    rw [htext]
    exact reads_members_last (reads_memberChars (hread m List.mem_cons_self _ ⟨rfl, rfl⟩))
      (skipSpace_of_not_isSpace rfl)
  | cons m' ms ih =>
    rw [List.forall_mem_cons] at hread
    have htext : membersChars (m :: m' :: ms) ++ '}' :: rest =
        stringChars m.1 ++ ':' :: (m.2.chars ++ ',' :: (membersChars (m' :: ms) ++ '}' :: rest)) := by
      simp only [membersChars, List.append_assoc, List.cons_append]
    obtain ⟨u, hu⟩ := exists_membersChars_eq m' ms rest
    rw [htext]
    have hskip := (congrArg skipSpace hu).trans (skipSpace_of_not_isSpace rfl)
    exact reads_members_cons (reads_memberChars (hread.1 _ ⟨rfl, rfl⟩)) (skipSpace_of_not_isSpace rfl)
      hskip (by decide) (hu ▸ ih m' hread.2)

theorem reads_arrayChars {reader : Reader Value} (vs : List Value)
    (hplain : ∀ v ∈ vs, v.IsPlain depth)
    (hread : ∀ v ∈ vs, ∀ rest, EndsNumber rest → Reads reader (v.chars ++ rest) v.ordered rest)
    (rest : List Char) :
    Reads (array reader) (itemsChars vs ++ ']' :: rest) (orderedItems vs) rest := by
  rw [orderedItems_eq_map]
  cases vs with
  | nil => exact reads_array_nil reader (skipSpace_of_not_isSpace rfl)
  | cons w vs =>
    obtain ⟨c, u, hu, hspace, hbracket⟩ := exists_itemsChars_eq w vs hplain rest
    have hskip := (congrArg skipSpace hu).trans (skipSpace_of_not_isSpace hspace)
    exact reads_array hskip hbracket (reads_itemsChars w vs hplain hread rest)

theorem reads_objectChars {reader : Reader Value} (ms : List (String × Value))
    (hread : ∀ m ∈ ms, ∀ rest, EndsNumber rest → Reads reader (m.2.chars ++ rest) m.2.ordered rest)
    (rest : List Char) :
    Reads (object reader) (membersChars ms ++ '}' :: rest) (orderedMembers ms) rest := by
  rw [orderedMembers_eq_map]
  cases ms with
  | nil => exact reads_object_nil reader (skipSpace_of_not_isSpace rfl)
  | cons m ms =>
    obtain ⟨u, hu⟩ := exists_membersChars_eq m ms rest
    have hskip := (congrArg skipSpace hu).trans (skipSpace_of_not_isSpace rfl)
    exact reads_object hskip (by decide) (hu ▸ reads_membersChars m ms hread rest)

theorem exists_value_eq_level (depth : Nat) : ∃ nested, value depth = level nested := by
  cases depth with
  | zero => exact ⟨none, rfl⟩
  | succ depth => exact ⟨some (value depth), rfl⟩

/-- What is nested in nothing is read on any level. -/
theorem reads_value_of_readsFrom {c : Char} {r : List Char} (hs : skipSpace s = c :: r)
    (h : ∀ nested, ReadsFrom nested c r rest v) (depth : Nat) : Reads (value depth) s v rest := by
  obtain ⟨nested, hlevel⟩ := exists_value_eq_level depth
  rw [hlevel]
  exact (reads_level_iff hs).2 (h nested)

/-- A plain value is read back from its text, and nothing after it. What comes next must not go on
    with a number. -/
theorem reads_value (h : v.IsPlain depth) :
    ∀ rest, EndsNumber rest → Reads (value depth) (v.chars ++ rest) v.ordered rest := by
  induction h with
  | null =>
    intro rest _
    exact reads_value_of_readsFrom (skipSpace_of_not_isSpace rfl)
      (fun _ => .null rfl (reads_word _ rest)) _
  | bool b =>
    intro rest _
    cases b with
    | true =>
      exact reads_value_of_readsFrom (skipSpace_of_not_isSpace rfl)
        (fun _ => .true rfl (reads_word _ rest)) _
    | false =>
      exact reads_value_of_readsFrom (skipSpace_of_not_isSpace rfl)
        (fun _ => .false rfl (reads_word _ rest)) _
  | @int depth n hn =>
    intro rest hrest
    obtain ⟨c, cs, hc, hfirst⟩ := exists_intChars_eq n
    have hskip := skipSpace_chars (.int hn : Value.IsPlain depth (.number (.int n))) rest
    have hread := reads_number hn hrest
    rw [hc, List.cons_append] at hread
    exact reads_value_of_readsFrom (hskip.trans (congrArg (· ++ rest) hc))
      (fun _ => .number hfirst hread) depth
  | string x =>
    intro rest _
    have htext : (Value.string x).chars ++ rest = '"' :: (x.toList.flatMap escapeChar ++ '"' :: rest) := by
      simp only [Value.chars, stringChars, List.cons_append, List.append_assoc, List.nil_append]
    rw [htext]
    exact reads_value_of_readsFrom (skipSpace_of_not_isSpace rfl)
      (fun _ => .string rfl (reads_string x rest)) _
  | @array depth vs hplain ih =>
    -- What is nested is read by the reader of the level below.
    intro rest _
    have htext : (Value.array vs).chars ++ rest = '[' :: (itemsChars vs ++ ']' :: rest) := by
      simp only [Value.chars, List.cons_append, List.append_assoc, List.nil_append]
    rw [htext]
    exact (reads_level_iff (skipSpace_of_not_isSpace rfl)).2
      (.array rfl rfl (reads_arrayChars vs hplain ih rest))
  | @object depth ms hplain ih =>
    intro rest _
    have htext : (Value.object ms).chars ++ rest = '{' :: (membersChars ms ++ '}' :: rest) := by
      simp only [Value.chars, List.cons_append, List.append_assoc, List.nil_append]
    rw [htext]
    exact (reads_level_iff (skipSpace_of_not_isSpace rfl)).2
      (.object rfl rfl (reads_objectChars ms ih rest))

/-! ### Whole texts -/

theorem Value.IsPlain.mono {depth' : Nat} (h : v.IsPlain depth) (hle : depth ≤ depth') :
    v.IsPlain depth' := by
  induction h generalizing depth' with
  | null => exact .null
  | bool b => exact .bool b
  | int hn => exact .int hn
  | string s => exact .string s
  | array _ ih =>
    cases depth' with
    | zero => cases hle
    | succ depth' => exact .array fun v hv => ih v hv (Nat.le_of_succ_le_succ hle)
  | object _ ih =>
    cases depth' with
    | zero => cases hle
    | succ depth' => exact .object fun m hm => ih m hm (Nat.le_of_succ_le_succ hle)

/-- What bytes stand for is what is read in their text, with nothing but blanks after it. -/
theorem parseBytes?_eq_some_iff {body : Text.Bytes} {v : Value} : parseBytes? body = some v ↔
    ∃ text rest, Text.Utf8.decode? body = some text ∧
      Reads (value depthLimit) text.toList v rest ∧ skipSpace rest = [] := by
  rw [parseBytes?, Option.bind_eq_some_iff]
  refine exists_congr fun text => ?_
  rw [exists_and_left]
  refine and_congr_right fun _ => ?_
  rw [parse, parseChars]
  cases hread : value depthLimit text.toList with
  | error e =>
    refine iff_of_false (fun h => by cases h) ?_
    rintro ⟨rest, ⟨le, h⟩, -⟩
    cases hread.symm.trans h
  | ok x =>
    change (finish x).toOption = some v ↔ _
    rw [finish]
    constructor
    · intro h
      split at h
      · rename_i hnil
        exact ⟨x.rest, ⟨x.le, hread.trans (by rw [← Option.some.inj h])⟩, hnil⟩
      · cases h
    · rintro ⟨rest, ⟨le, h⟩, hnil⟩
      obtain rfl := Except.ok.inj (hread.symm.trans h)
      rw [hnil]
      rfl

/-- The bytes of the text of a plain value are the value, with the members of each object in order.
    -/
theorem parseBytes?_print (h : v.IsPlain depthLimit) :
    parseBytes? (Text.Utf8.encode v.print) = some v.ordered := by
  have hread := reads_value h [] ⟨rfl, rfl⟩
  rw [List.append_nil] at hread
  refine parseBytes?_eq_some_iff.2 ⟨v.print, [], Text.Utf8.decode?_encode _, ?_, rfl⟩
  rwa [Value.print, String.toList_ofList]

end ShopClient.Json
