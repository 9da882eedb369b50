import ShopClient.Json.Entries
import ShopClient.Proofs.Text.Keys
import Mathlib.Data.List.Basic

/-!
# The text of a string map, read back

What is written as the text of a map is read back as that map, whatever its keys and values are. A
string comes back because each character does: what a string must not contain as it is, is written
as an escape, and the escape stands for that character. A map comes back because its keys are in
order.

* `reads_string`: a string between quotes is read back, and nothing after the closing quote;
* `reads_member`, `reads_members_cons`, `reads_members_last`: the members of an object are read one
  by one, whatever blanks are between them;
* `reads_lines`: so are the entries of a map, each on a line of its own;
* `Entries.parse_print`: and the whole text of a map.
-/

namespace ShopClient.Json

open Text (Read hexValue?)

/-- A reader finds `v` at the beginning of `s`, and leaves `rest`. -/
def Reads {α : Type} (reader : Reader α) (s : List Char) (v : α) (rest : List Char) : Prop :=
  ∃ le, reader s = .ok ⟨v, rest, le⟩

variable {s rest : List Char}

/-- There is one value at most that a reader finds. -/
theorem Reads.unique {α : Type} {reader : Reader α} {v v' : α} {rest' : List Char}
    (h : Reads reader s v rest) (h' : Reads reader s v' rest') : v = v' ∧ rest = rest' := by
  obtain ⟨_, h⟩ := h
  obtain ⟨_, h'⟩ := h'
  have heq := Except.ok.inj (h.symm.trans h')
  exact ⟨congrArg Read.value heq, congrArg Read.rest heq⟩

/-! ### Strings -/

theorem hexValue?_hexDigit {d : Nat} (h : d < 16) : hexValue? (hexDigit d) = some d := by
  have hall : ∀ d < 16, hexValue? (hexDigit d) = some d := by decide
  exact hall d h

/-- The escape of a control character stands for it. -/
theorem reads_escaped_control {c : Char} (h : c.toNat < 0x20) (rest : List Char) :
    Reads escaped ('u' :: '0' :: '0' :: hexDigit (c.toNat / 16) :: hexDigit (c.toNat % 16) :: rest) c
      rest := by
  have hzero : hexValue? '0' = some 0 := by decide
  have hhigh := hexValue?_hexDigit (d := c.toNat / 16) (by omega)
  have hlow := hexValue?_hexDigit (d := c.toNat % 16) (by omega)
  have hvalue : ((0 * 16 + 0) * 16 + c.toNat / 16) * 16 + c.toNat % 16 = c.toNat := by omega
  -- Such a character is no half of an escape for one beyond the first plane.
  have hsurrogate : ¬(decide (0xDC00 ≤ c.toNat) && decide (c.toNat ≤ 0xDFFF)) = true := by
    simp only [Bool.and_eq_true, decide_eq_true_eq]
    omega
  have hplain : (decide (c.toNat < 0xD800) || decide (0xDBFF < c.toNat)) = true := by
    simp only [Bool.or_eq_true, decide_eq_true_eq]
    omega
  refine ⟨by simp only [List.length_cons]; omega, ?_⟩
  simp only [escaped, escapedCodePoint, hexFour, hzero, hhigh, hlow, hvalue, bind, Except.bind,
    if_neg hsurrogate, if_pos hplain, pure, Except.pure, c.ofNat_toNat]
  rfl

/-- After a backslash comes an escape. -/
theorem reads_stringTail_escape {c : Char} {cs t rest' : List Char} (he : Reads escaped t c rest)
    (h : Reads stringTail rest cs rest') : Reads stringTail ('\\' :: t) (c :: cs) rest' := by
  obtain ⟨le, h⟩ := h
  obtain ⟨le', he⟩ := he
  refine ⟨Nat.le_succ_of_le (Nat.le_trans le le'), ?_⟩
  rw [stringTail]
  simp only [he, h, Except.map]
  rfl

/-- A character that needs no escape stands for itself. -/
theorem reads_stringTail_cons {c : Char} {cs rest' : List Char} (hquote : c ≠ '"')
    (hbackslash : c ≠ '\\') (hcontrol : ¬c.toNat < 0x20) (h : Reads stringTail rest cs rest') :
    Reads stringTail (c :: rest) (c :: cs) rest' := by
  obtain ⟨le, h⟩ := h
  refine ⟨Nat.le_succ_of_le le, ?_⟩
  rw [stringTail]
  simp only [beq_iff_eq, hquote, hbackslash, hcontrol, if_false, h, Except.map]

/-- What is written for a character is read as this character. -/
theorem reads_escapeChar {cs rest' : List Char} (c : Char) (h : Reads stringTail rest cs rest') :
    Reads stringTail (escapeChar c ++ rest) (c :: cs) rest' := by
  have hshort {c' : Char} (he : Reads escaped (c' :: rest) c rest) :
      Reads stringTail (['\\', c'] ++ rest) (c :: cs) rest' := reads_stringTail_escape he h
  simp only [escapeChar, beq_iff_eq]
  split_ifs with hquote hbackslash h₁ h₂ h₃ h₄ h₅ hcontrol
  · subst hquote
    exact hshort ⟨_, rfl⟩
  · subst hbackslash
    exact hshort ⟨_, rfl⟩
  · subst h₁
    exact hshort ⟨_, rfl⟩
  · subst h₂
    exact hshort ⟨_, rfl⟩
  · subst h₃
    exact hshort ⟨_, rfl⟩
  · subst h₄
    exact hshort ⟨_, rfl⟩
  · subst h₅
    exact hshort ⟨_, rfl⟩
  · exact reads_stringTail_escape (reads_escaped_control hcontrol rest) h
  · exact reads_stringTail_cons hquote hbackslash hcontrol h

/-- A string is read back up to its closing quote. -/
theorem reads_stringTail (cs : List Char) (rest : List Char) :
    Reads stringTail (cs.flatMap escapeChar ++ '"' :: rest) cs rest := by
  induction cs with
  | nil =>
    rw [List.flatMap_nil, List.nil_append]
    refine ⟨Nat.le_succ _, ?_⟩
    rw [stringTail]
    rfl
  | cons c cs ih =>
    rw [List.flatMap_cons, List.append_assoc]
    exact reads_escapeChar c ih

theorem reads_string (s : String) (rest : List Char) :
    Reads string (s.toList.flatMap escapeChar ++ '"' :: rest) s rest := by
  obtain ⟨le, h⟩ := reads_stringTail s.toList rest
  refine ⟨le, ?_⟩
  rw [string, h, Except.map]
  simp only [String.ofList_toList]

/-! ### Members

A member is read by what reads its value, and the members of an object one after the other, with any
blanks between them. -/

theorem skipSpace_of_isSpace {c : Char} (h : isSpace c = true) : skipSpace (c :: s) = skipSpace s :=
  List.dropWhile_cons_of_pos h

theorem skipSpace_of_not_isSpace {c : Char} (h : isSpace c = false) :
    skipSpace (c :: s) = c :: s :=
  List.dropWhile_cons_of_neg (by simp [h])

theorem isSpace_of_skipSpace_eq {c : Char} {r : List Char} (h : skipSpace s = c :: r) :
    isSpace c = false := by
  have hhead := List.head?_dropWhile_not isSpace s
  rwa [← skipSpace, h] at hhead

section

variable {α : Type} {reader : Reader α} {r t u u' : List Char} {c : Char} {k : String} {v : α}
  {m : String × α} {ms : List (String × α)}

theorem reads_member (hkey : Reads string r k t) (hcolon : skipSpace t = ':' :: u)
    (hvalue : Reads reader u v rest) : Reads (member reader) ('"' :: r) (k, v) rest := by
  obtain ⟨le, hkey⟩ := hkey
  obtain ⟨le', hvalue⟩ := hvalue
  have hlt := length_lt_of_skipSpace_eq hcolon
  refine ⟨?_, ?_⟩
  · simp only [List.length_cons] at le le' ⊢
    omega
  simp only [member, bind, Except.bind, hkey]
  split
  · rename_i t' ht
    obtain ⟨-, rfl⟩ := List.cons.inj (ht.symm.trans hcolon)
    simp only [hvalue]
    rfl
  · rename_i hnil
    cases hnil.symm.trans hcolon
  · rename_i hne _
    exact (hne _ hcolon).elim

theorem reads_members_last (hm : Reads (member reader) s m t) (hbrace : skipSpace t = '}' :: rest) :
    Reads (members reader) s [m] rest := by
  obtain ⟨le, hm⟩ := hm
  have hlt := length_lt_of_skipSpace_eq hbrace
  refine ⟨by omega, ?_⟩
  rw [members]
  simp only [hm]
  split
  · rename_i r hr
    obtain ⟨-, rfl⟩ := List.cons.inj (hr.symm.trans hbrace)
    rfl
  · rename_i hcomma
    cases hcomma.symm.trans hbrace
  · rename_i hnil
    cases hnil.symm.trans hbrace
  · rename_i hne _ _
    exact (hne _ hbrace).elim

theorem reads_members_cons (hm : Reads (member reader) s m t) (hcomma : skipSpace t = ',' :: u)
    (hu : skipSpace u = c :: u') (hc : c ≠ '}') (hms : Reads (members reader) (c :: u') ms rest) :
    Reads (members reader) s (m :: ms) rest := by
  obtain ⟨le, hm⟩ := hm
  rw [← hu] at hms
  obtain ⟨le', hms⟩ := hms
  have hlt := length_lt_of_skipSpace_eq hcomma
  have hle := skipSpace_length_le u
  refine ⟨by omega, ?_⟩
  rw [members]
  simp only [hm]
  split
  · rename_i hbrace
    cases hbrace.symm.trans hcomma
  · rename_i r hr
    obtain ⟨-, rfl⟩ := List.cons.inj (hr.symm.trans hcomma)
    split
    · rename_i hnil
      cases hnil.symm.trans hu
    · rename_i hbrace
      exact absurd (List.cons.inj (hu.symm.trans hbrace)).1 hc
    · simp only [hms, Except.map]
  · rename_i hnil
    cases hnil.symm.trans hcomma
  · rename_i hne _
    exact (hne _ hcomma).elim

theorem reads_object_nil (reader : Reader α) (h : skipSpace s = '}' :: rest) :
    Reads (object reader) s [] rest := by
  refine ⟨Nat.le_of_lt (length_lt_of_skipSpace_eq h), ?_⟩
  unfold object
  split
  · rename_i r hr
    obtain ⟨-, rfl⟩ := List.cons.inj (hr.symm.trans h)
    rfl
  · rename_i hnil
    cases hnil.symm.trans h
  · rename_i hne _
    exact (hne _ h).elim

theorem reads_object (h : skipSpace s = c :: u) (hc : c ≠ '}')
    (hms : Reads (members reader) (c :: u) ms rest) : Reads (object reader) s ms rest := by
  rw [← h] at hms
  obtain ⟨le, hms⟩ := hms
  have hle := skipSpace_length_le s
  refine ⟨by omega, ?_⟩
  unfold object
  split
  · rename_i hbrace
    exact absurd (List.cons.inj (h.symm.trans hbrace)).1 hc
  · rename_i hnil
    cases hnil.symm.trans h
  · simp only [hms, Except.map]
    rfl

end

/-! ### Entries -/

/-- The blanks before a line are skipped. -/
theorem skipSpace_indent (level : Nat) (s : List Char) : skipSpace (indent level ++ s) = skipSpace s := by
  have hblanks (n : Nat) : skipSpace (List.replicate n ' ' ++ s) = skipSpace s := by
    induction n with
    | zero => rfl
    | succ n ih => exact (skipSpace_of_isSpace rfl).trans ih
  exact (skipSpace_of_isSpace rfl).trans (hblanks _)

/-- A string is a value, also after a blank. -/
theorem reads_stringValue (v : String) (rest : List Char) :
    Reads Entries.stringValue (' ' :: (stringChars v ++ rest)) v rest := by
  obtain ⟨le, h⟩ := reads_string v rest
  have hskip : skipSpace (' ' :: (stringChars v ++ rest)) =
      '"' :: (v.toList.flatMap escapeChar ++ '"' :: rest) := by
    simp only [stringChars, List.cons_append, List.append_assoc]
    exact (skipSpace_of_isSpace rfl).trans (skipSpace_of_not_isSpace rfl)
  unfold Reads Entries.stringValue
  split
  · rename_i hnil
    cases hnil.symm.trans hskip
  · rename_i c r hcons
    obtain ⟨rfl, rfl⟩ := List.cons.inj (hcons.symm.trans hskip)
    refine ⟨Nat.le_trans le (Nat.le_of_lt (length_lt_of_skipSpace_eq hcons)), ?_⟩
    simp only [beq_self_eq_true, if_true, h, Except.map]
    rfl

/-- The line of an entry, without what is around it. -/
def entryChars (e : String × String) : List Char :=
  stringChars e.1 ++ ':' :: ' ' :: stringChars e.2

theorem entryChars_append (e : String × String) (rest : List Char) :
    entryChars e ++ rest =
      '"' :: (e.1.toList.flatMap escapeChar ++ '"' :: ':' :: ' ' :: (stringChars e.2 ++ rest)) := by
  simp only [entryChars, stringChars, List.cons_append, List.append_assoc, List.nil_append]

theorem reads_entry (e : String × String) (rest : List Char) :
    Reads (member Entries.stringValue) (entryChars e ++ rest) e rest := by
  rw [entryChars_append]
  exact reads_member (reads_string e.1 _) (skipSpace_of_not_isSpace rfl) (reads_stringValue e.2 rest)

/-- The lines of the entries after the blanks before the first one: there is a comma after each but
    the last. -/
def linesChars (e : String × String) : Entries → List Char
  | [] => entryChars e
  | e' :: es => entryChars e ++ ',' :: (indent 1 ++ linesChars e' es)

theorem prettyMembers_eq (e : String × String) (es : Entries) :
    prettyMembers 1 ((e :: es).map fun e => (e.1, .string e.2)) = indent 1 ++ linesChars e es := by
  induction es generalizing e with
  | nil => simp [prettyMembers, linesChars, entryChars, Value.prettyChars]
  | cons e' es ih =>
    have hrest := ih e'
    rw [List.map_cons] at hrest
    simp [prettyMembers, linesChars, entryChars, Value.prettyChars, hrest]

/-- They start with the quote before the first key. -/
theorem exists_linesChars_eq (e : String × String) (es : Entries) (rest : List Char) :
    ∃ t, linesChars e es ++ rest = '"' :: t := by
  cases es with
  | nil => exact ⟨_, entryChars_append e rest⟩
  | cons e' es =>
    rw [linesChars, List.append_assoc]
    exact ⟨_, entryChars_append e _⟩

theorem skipSpace_linesChars (e : String × String) (es : Entries) (rest : List Char) :
    skipSpace (indent 1 ++ (linesChars e es ++ rest)) = linesChars e es ++ rest := by
  obtain ⟨t, ht⟩ := exists_linesChars_eq e es rest
  rw [skipSpace_indent, ht]
  exact skipSpace_of_not_isSpace rfl

/-- The lines of the entries are read back up to the closing brace. -/
theorem reads_lines (e : String × String) (es : Entries) (rest : List Char) :
    Reads (members Entries.stringValue) (linesChars e es ++ (indent 0 ++ '}' :: rest)) (e :: es)
      rest := by
  induction es generalizing e with
  | nil =>
    exact reads_members_last (reads_entry e _)
      ((skipSpace_indent 0 _).trans (skipSpace_of_not_isSpace rfl))
  | cons e' es ih =>
    obtain ⟨t, ht⟩ := exists_linesChars_eq e' es (indent 0 ++ '}' :: rest)
    have htext : linesChars e (e' :: es) ++ (indent 0 ++ '}' :: rest) = entryChars e ++
        ',' :: (indent 1 ++ (linesChars e' es ++ (indent 0 ++ '}' :: rest))) := by
      simp only [linesChars, List.append_assoc, List.cons_append]
    rw [htext]
    exact reads_members_cons (reads_entry e _) (skipSpace_of_not_isSpace rfl)
      ((skipSpace_linesChars e' es _).trans ht) (by decide) (ht ▸ ih e')

theorem reads_entries (e : String × String) (es : Entries) (rest : List Char) :
    Reads (object Entries.stringValue)
      (indent 1 ++ (linesChars e es ++ (indent 0 ++ '}' :: rest))) (e :: es) rest := by
  obtain ⟨t, ht⟩ := exists_linesChars_eq e es (indent 0 ++ '}' :: rest)
  exact reads_object ((skipSpace_linesChars e es _).trans ht) (by decide)
    (ht ▸ reads_lines e es rest)

/-! ### Maps -/

theorem Entries.print_nil : (print []).toList = ['{', '}'] := rfl

theorem Entries.print_cons (e : String × String) (es : Entries) :
    (print (e :: es)).toList = '{' :: (indent 1 ++ (linesChars e es ++ (indent 0 ++ ['}']))) := by
  simp only [print, toValue, Value.pretty, List.map_cons, Value.prettyChars, String.toList_ofList,
    Nat.zero_add]
  rw [← List.map_cons (f := fun e : String × String => (e.1, Value.string e.2)), prettyMembers_eq]
  simp only [List.cons_append, List.append_assoc]

/-- The entries that are written are read back. -/
theorem Entries.readEntries_print (entries : Entries) :
    readEntries (print entries).toList = .ok entries := by
  cases entries with
  | nil => rfl
  | cons e es =>
    obtain ⟨le, h⟩ := reads_entries e es []
    have hskip : skipSpace ('{' :: (indent 1 ++ (linesChars e es ++ (indent 0 ++ ['}'])))) =
        '{' :: (indent 1 ++ (linesChars e es ++ (indent 0 ++ ['}']))) := skipSpace_of_not_isSpace rfl
    rw [print_cons, readEntries, hskip]
    simp only [beq_self_eq_true, if_true, bind, Except.bind, h]
    rfl

/-- A map in the order of its keys is read back from its text. -/
theorem Entries.parse_print {entries : Entries} (h : entries.IsSorted) :
    parse (print entries) = .ok entries := by
  rw [parse, readEntries_print, Except.map, Keyed.ofList_of_isSorted h]

end ShopClient.Json
