import ShopClient.Proofs.Text.JsonValue

/-!
# Where members stand

A value tells what its text says, but not how it says it: of an integer beyond 64 bits there is only
the nearest binary64 number left, which may as well have been written with a point. So a member is
read with its place, which is the text from the first character of its value on (`located`). This
finds the same members as reading them without (`exists_object_located`), each at a place where its
value is read (`reads_object_of_located`).

* `HasMemberAt`: the body is an object that has a value under a key, written from a place on;
* `exists_hasMemberAt_iff`: each member of an object that a body stands for is somewhere in it;
* `HasMemberAt.isReadAt`: its value is what is read there.
-/

namespace ShopClient.Json

variable {α : Type} {reader : Reader α} {s rest : List Char} {m : String × α}
  {ms : List (String × α)}

/-! ### What is read as members -/

theorem reads_member_iff : Reads (member reader) s m rest ↔ ∃ r t u, s = '"' :: r ∧
    Reads string r m.1 t ∧ skipSpace t = ':' :: u ∧ Reads reader u m.2 rest := by
  constructor
  · rintro ⟨le, h⟩
    unfold member at h
    split at h
    · cases h
    · rename_i _ r
      cases hk : string r with
      | error e =>
        rw [hk] at h
        cases h
      | ok k =>
        simp only [bind, Except.bind, hk] at h
        split at h
        · rename_i u hcolon
          cases hv : reader u with
          | error e =>
            rw [hv] at h
            cases h
          | ok v =>
            rw [hv] at h
            cases Except.ok.inj h
            exact ⟨r, k.rest, u, rfl, ⟨k.le, hk⟩, hcolon, v.le, hv⟩
        · cases h
        · cases h
    · cases h
  · rintro ⟨r, t, u, rfl, hkey, hcolon, hvalue⟩
    exact reads_member hkey hcolon hvalue

/-- Members are a last one, or one before others. -/
theorem cases_of_reads_members (h : Reads (members reader) s ms rest) :
    ∃ m t, Reads (member reader) s m t ∧ ((skipSpace t = '}' :: rest ∧ ms = [m]) ∨
      ∃ u c u' ms', skipSpace t = ',' :: u ∧ skipSpace u = c :: u' ∧ c ≠ '}' ∧
        Reads (members reader) (c :: u') ms' rest ∧ ms = m :: ms') := by
  obtain ⟨le, h⟩ := h
  rw [members] at h
  cases hm : member reader s with
  | error e =>
    rw [hm] at h
    cases h
  | ok x =>
    refine ⟨x.value, x.rest, ⟨x.le, hm⟩, ?_⟩
    simp only [hm] at h
    split at h
    · rename_i hbrace
      cases Except.ok.inj h
      exact .inl ⟨hbrace, rfl⟩
    · rename_i u hcomma
      split at h
      · cases h
      · cases h
      · rename_i hnil hbrace
        have hle : (skipSpace u).length ≤ s.length :=
          Nat.le_trans (skipSpace_length_le u)
            (Nat.le_of_lt (Nat.lt_of_lt_of_le (length_lt_of_skipSpace_eq hcomma) x.le))
        obtain ⟨ms', hms, rfl⟩ := (exists_map_eq_ok_iff (f := (x.value :: ·)) hle).1 ⟨le, h⟩
        cases hu : skipSpace u with
        | nil => exact (hnil hu).elim
        | cons c u' =>
          exact .inr ⟨u, c, u', ms', hcomma, hu, fun hc => hbrace u' (hc ▸ hu), hu ▸ hms, rfl⟩
    · cases h
    · cases h

/-- What holds of a last member, and of one before others if it holds of those, holds of all members
    that are read. -/
theorem reads_members_induction {P : List Char → List (String × α) → Prop}
    (hlast : ∀ s m t, Reads (member reader) s m t → skipSpace t = '}' :: rest → P s [m])
    (hcons : ∀ s m t u c u' ms, Reads (member reader) s m t → skipSpace t = ',' :: u →
      skipSpace u = c :: u' → c ≠ '}' → P (c :: u') ms → P s (m :: ms))
    (h : Reads (members reader) s ms rest) : P s ms := by
  induction ms generalizing s with
  | nil =>
    obtain ⟨m, t, -, ⟨-, hnil⟩ | ⟨u, c, u', ms', -, -, -, -, hnil⟩⟩ := cases_of_reads_members h
    · cases hnil
    · cases hnil
  | cons m ms ih =>
    obtain ⟨m', t, hm, ⟨hbrace, heq⟩ | ⟨u, c, u', ms', hcomma, hu, hc, hms, heq⟩⟩ :=
      cases_of_reads_members h
    · obtain ⟨rfl, rfl⟩ := List.cons.inj heq
      exact hlast s m t hm hbrace
    · obtain ⟨rfl, rfl⟩ := List.cons.inj heq
      exact hcons s m t u c u' ms hm hcomma hu hc (ih hms)

theorem reads_object_iff : Reads (object reader) s ms rest ↔ (skipSpace s = '}' :: rest ∧ ms = []) ∨
    ∃ c u, skipSpace s = c :: u ∧ c ≠ '}' ∧ Reads (members reader) (c :: u) ms rest := by
  constructor
  · rintro ⟨le, h⟩
    unfold object at h
    split at h
    · rename_i hbrace
      cases Except.ok.inj h
      exact .inl ⟨hbrace, rfl⟩
    · cases h
    · rename_i hbrace hnil
      obtain ⟨ms', hms, rfl⟩ := (exists_map_eq_ok_iff (f := id) (skipSpace_length_le s)).1 ⟨le, h⟩
      cases hs : skipSpace s with
      | nil => exact (hnil hs).elim
      | cons c u => exact .inr ⟨c, u, rfl, fun hc => hbrace u (hc ▸ hs), hs ▸ hms⟩
  · rintro (⟨hbrace, rfl⟩ | ⟨c, u, hs, hc, hms⟩)
    · exact reads_object_nil reader hbrace
    · exact reads_object hs hc hms

/-! ### Members with their places -/

/-- What a reader finds, with the characters from its first one on. -/
def located (reader : Reader α) : Reader (α × List Char) := fun s =>
  (reader s).map (·.map (·, skipSpace s))

theorem reads_located_iff {x : α × List Char} :
    Reads (located reader) s x rest ↔ Reads reader s x.1 rest ∧ x.2 = skipSpace s := by
  refine (exists_map_eq_ok_iff (f := (·, skipSpace s)) (Nat.le_refl s.length)).trans ?_
  constructor
  · rintro ⟨v, hv, rfl⟩
    exact ⟨hv, rfl⟩
  · rintro ⟨hv, hplace⟩
    exact ⟨x.1, hv, Prod.ext rfl hplace⟩

/-- Whether the value with its place is read somewhere. -/
def IsReadAt (reader : Reader α) (x : α × List Char) : Prop :=
  ∃ t u, x.2 = skipSpace t ∧ Reads reader t x.1 u

/-- Members with their places left out. -/
def withoutPlaces (ps : List (String × α × List Char)) : List (String × α) :=
  ps.map fun p => (p.1, p.2.1)

theorem exists_member_located (h : Reads (member reader) s m rest) :
    ∃ place, Reads (member (located reader)) s (m.1, m.2, place) rest := by
  obtain ⟨r, t, u, rfl, hkey, hcolon, hvalue⟩ := reads_member_iff.1 h
  exact ⟨skipSpace u, reads_member hkey hcolon (reads_located_iff.2 ⟨hvalue, rfl⟩)⟩

theorem reads_member_of_located {p : String × α × List Char}
    (h : Reads (member (located reader)) s p rest) :
    Reads (member reader) s (p.1, p.2.1) rest ∧ IsReadAt reader p.2 := by
  obtain ⟨r, t, u, rfl, hkey, hcolon, hvalue⟩ := reads_member_iff.1 h
  obtain ⟨hvalue, hplace⟩ := reads_located_iff.1 hvalue
  exact ⟨reads_member hkey hcolon hvalue, u, rest, hplace, hvalue⟩

/-- Members that are read without their places are read with them. -/
theorem exists_members_located (h : Reads (members reader) s ms rest) :
    ∃ ps, Reads (members (located reader)) s ps rest ∧ withoutPlaces ps = ms := by
  refine reads_members_induction (P := fun s ms =>
    ∃ ps, Reads (members (located reader)) s ps rest ∧ withoutPlaces ps = ms) ?_ ?_ h
  · intro s m t hm hbrace
    obtain ⟨place, hm⟩ := exists_member_located hm
    exact ⟨[(m.1, m.2, place)], reads_members_last hm hbrace, rfl⟩
  · rintro s m t u c u' ms hm hcomma hu hc ⟨ps, hps, rfl⟩
    obtain ⟨place, hm⟩ := exists_member_located hm
    exact ⟨(m.1, m.2, place) :: ps, reads_members_cons hm hcomma hu hc hps, rfl⟩

/-- Members that are read with their places are read without them, each where its place is. -/
theorem reads_members_of_located {ps : List (String × α × List Char)}
    (h : Reads (members (located reader)) s ps rest) :
    Reads (members reader) s (withoutPlaces ps) rest ∧ ∀ p ∈ ps, IsReadAt reader p.2 := by
  refine reads_members_induction (P := fun s ps =>
    Reads (members reader) s (withoutPlaces ps) rest ∧ ∀ p ∈ ps, IsReadAt reader p.2) ?_ ?_ h
  · intro s p t hp hbrace
    obtain ⟨hp, hplace⟩ := reads_member_of_located hp
    exact ⟨reads_members_last hp hbrace, List.forall_mem_singleton.2 hplace⟩
  · rintro s p t u c u' ps hp hcomma hu hc ⟨hps, hplaces⟩
    obtain ⟨hp, hplace⟩ := reads_member_of_located hp
    exact ⟨reads_members_cons hp hcomma hu hc hps, List.forall_mem_cons.2 ⟨hplace, hplaces⟩⟩

theorem exists_object_located (h : Reads (object reader) s ms rest) :
    ∃ ps, Reads (object (located reader)) s ps rest ∧ withoutPlaces ps = ms := by
  obtain ⟨hbrace, rfl⟩ | ⟨c, u, hs, hc, hms⟩ := reads_object_iff.1 h
  · exact ⟨[], reads_object_nil _ hbrace, rfl⟩
  · obtain ⟨ps, hps, hms⟩ := exists_members_located hms
    exact ⟨ps, reads_object hs hc hps, hms⟩

theorem reads_object_of_located {ps : List (String × α × List Char)}
    (h : Reads (object (located reader)) s ps rest) :
    Reads (object reader) s (withoutPlaces ps) rest ∧ ∀ p ∈ ps, IsReadAt reader p.2 := by
  obtain ⟨hbrace, rfl⟩ | ⟨c, u, hs, hc, hps⟩ := reads_object_iff.1 h
  · exact ⟨reads_object_nil _ hbrace, List.forall_mem_nil _⟩
  · obtain ⟨hms, hplaces⟩ := reads_members_of_located hps
    exact ⟨reads_object hs hc hms, hplaces⟩

/-! ### Members of a body -/

/-- The body is the text of an object, in which the last value under `k` is `v`, and the text from
    the first character of this value on is `place`. -/
def HasMemberAt (body : Text.Bytes) (k : String) (v : Value) (place : List Char) : Prop :=
  ∃ text r ps rest, Text.Utf8.decode? body = some text ∧ skipSpace text.toList = '{' :: r ∧
    Reads (object (located (value 126))) r ps rest ∧ skipSpace rest = [] ∧
    Keyed.get? k ps.reverse = some (v, place)

variable {body : Text.Bytes} {k : String} {v : Value} {place : List Char}

/-- A body stands for an object if the text of one is in it, with nothing but blanks around. -/
theorem parseBytes?_eq_object_iff {ms' : List (String × Value)} :
    parseBytes? body = some (.object ms') ↔ ∃ text r ms rest, Text.Utf8.decode? body = some text ∧
      skipSpace text.toList = '{' :: r ∧ Reads (object (value 126)) r ms rest ∧ skipSpace rest = [] ∧
      ms' = Keyed.ofList ms := by
  rw [parseBytes?_eq_some_iff]
  constructor
  · rintro ⟨text, rest, htext, hread, hrest⟩
    have hlevel : Reads (level (some (value 126))) text.toList (.object ms') rest := hread
    obtain ⟨c, r, hs⟩ := exists_skipSpace_eq hlevel
    cases (reads_level_iff hs).1 hlevel with
    | object hbrace hreader hms =>
      cases hreader
      exact ⟨text, r, _, rest, htext, hbrace ▸ hs, hms, hrest, rfl⟩
  · rintro ⟨text, r, ms, rest, htext, hs, hms, hrest, rfl⟩
    refine ⟨text, rest, htext, ?_, hrest⟩
    exact (reads_level_iff hs).2 (.object rfl rfl hms)

theorem get?_withoutPlaces (k : String) (ps : List (String × α × List Char)) :
    Keyed.get? k (withoutPlaces ps) = (Keyed.get? k ps).map (·.1) := by
  rw [Keyed.get?, Keyed.get?, withoutPlaces, List.find?_map, Option.map_map, Option.map_map]
  rfl

/-- Each member of an object that a body stands for is written somewhere in it. -/
theorem exists_hasMemberAt_iff : (∃ place, HasMemberAt body k v place) ↔
    ∃ ms, parseBytes? body = some (.object ms) ∧ Keyed.get? k ms = some v := by
  have hget (ps : List (String × Value × List Char)) :
      Keyed.get? k (Keyed.ofList (withoutPlaces ps)) = (Keyed.get? k ps.reverse).map (·.1) := by
    rw [Keyed.get?_ofList, ← get?_withoutPlaces, withoutPlaces, withoutPlaces, List.map_reverse]
  constructor
  · rintro ⟨place, text, r, ps, rest, htext, hs, hps, hrest, hplace⟩
    have hms := (reads_object_of_located hps).1
    refine ⟨_, parseBytes?_eq_object_iff.2 ⟨text, r, _, rest, htext, hs, hms, hrest, rfl⟩, ?_⟩
    rw [hget, hplace, Option.map_some]
  · rintro ⟨ms', hparse, hk⟩
    obtain ⟨text, r, ms, rest, htext, hs, hms, hrest, rfl⟩ := parseBytes?_eq_object_iff.1 hparse
    obtain ⟨ps, hps, rfl⟩ := exists_object_located hms
    rw [hget] at hk
    obtain ⟨x, hx, rfl⟩ := Option.map_eq_some_iff.1 hk
    exact ⟨x.2, text, r, ps, rest, htext, hs, hps, hrest, hx⟩

/-- The value of a member is what is read at its place. -/
theorem HasMemberAt.isReadAt (h : HasMemberAt body k v place) : IsReadAt (value 126) (v, place) := by
  obtain ⟨text, r, ps, rest, -, -, hps, -, hget⟩ := h
  obtain ⟨p, hp, heq⟩ := Option.map_eq_some_iff.1 hget
  have hmem := (reads_object_of_located hps).2 p (List.mem_reverse.1 (List.mem_of_find?_eq_some hp))
  rwa [heq] at hmem

/-- What starts like a number is read as one. -/
theorem exists_number_of_isReadAt {depth : Nat} {c : Char} {r : List Char}
    (h : IsReadAt (value depth) (v, c :: r)) (hc : c = '-' ∨ c.isDigit = true) :
    ∃ x rest, Reads number (c :: r) x rest ∧ v = .number x := by
  obtain ⟨t, u, ht, hread⟩ := h
  obtain ⟨nested, hlevel⟩ := exists_value_eq_level depth
  rw [hlevel, reads_level_iff ht.symm] at hread
  -- No other kind of value starts with this character.
  cases hread with
  | number _ hx => exact ⟨_, u, hx, rfl⟩
  | string h | array h | object h | null h | true h | false h => exact absurd hc (h ▸ by decide)

/-- Where the value stands in the text of an object with one member. -/
theorem hasMemberAt_print (h : v.IsPlain 126) (k : String) :
    HasMemberAt (Text.Utf8.encode (Value.object [(k, v)]).print) k v.ordered (v.chars ++ ['}']) := by
  have htext : (Value.object [(k, v)]).chars = '{' :: (stringChars k ++ ':' :: (v.chars ++ ['}'])) := by
    simp only [Value.chars, membersChars, List.cons_append, List.append_assoc]
  have hvalue : Reads (located (value 126)) (v.chars ++ ['}']) (v.ordered, v.chars ++ ['}']) ['}'] :=
    reads_located_iff.2 ⟨reads_value h _ ⟨rfl, rfl⟩, (skipSpace_chars h _).symm⟩
  have hmembers : Reads (members (located (value 126))) (stringChars k ++ ':' :: (v.chars ++ ['}']))
      [(k, v.ordered, v.chars ++ ['}'])] [] :=
    reads_members_last (reads_memberChars hvalue) (skipSpace_of_not_isSpace rfl)
  have hquote : skipSpace (stringChars k ++ ':' :: (v.chars ++ ['}'])) =
      '"' :: (k.toList.flatMap escapeChar ++ ['"'] ++ ':' :: (v.chars ++ ['}'])) :=
    skipSpace_of_not_isSpace rfl
  refine ⟨_, _, _, [], Text.Utf8.decode?_encode _, ?_, reads_object hquote (by decide) hmembers, rfl, ?_⟩
  · rw [Value.print, String.toList_ofList, htext]
    exact skipSpace_of_not_isSpace rfl
  · simp [Keyed.get?]

end ShopClient.Json
