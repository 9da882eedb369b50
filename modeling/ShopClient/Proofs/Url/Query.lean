import ShopClient.Proofs.Url.Form
import ShopClient.Session.Request

/-!
# The query of an address

An address may have a query of its own, in its base or in its path. The pairs that a request adds come
after those. What stands in the address is encoded when it is read, which changes none of its pairs.

* `Form.decodePairs_percentEncode`: the encoding of a query has the pairs of the query;
* `parse_eq_withTail`: a URL has for its query and its fragment what comes after the first of their signs;
* `pairs_of_parse`: the pairs of a URL are those in its text;
* `pairs_appendQuery`: pairs that are added come last.
-/

namespace ShopClient

namespace Url

variable {b : UInt8} {c x : Char} {cs rest : List Char} {set : Char → Bool} {e : Char → List Char}
  {p q : Char → Bool} {k : Kind} {text scheme : String} {u : Url}

/-! ### Queries in percent encoding -/

theorem hexDigit?_of_le (h : 0x80 ≤ b.toNat) : hexDigit? b = none := by
  have hb := toNat_ofNat_byte b
  have hdigit : ¬(Char.ofNat b.toNat).isDigit = true := by
    intro hdigit
    have := toNat_lt_of_isAlphanum (Bool.or_eq_true_iff.2 (.inr hdigit))
    omega
  have hle {d : Char} (hd : d.toNat < 0x80) : ¬Char.ofNat b.toNat ≤ d := by
    rw [Char.le_def, UInt32.le_iff_toNat_le]
    change ¬(Char.ofNat b.toNat).toNat ≤ d.toNat
    omega
  rw [hexDigit?, Text.hexValue?, if_neg hdigit]
  simp only [hle (show 'f'.toNat < 0x80 by decide), hle (show 'F'.toNat < 0x80 by decide),
    decide_false, Bool.and_false, Bool.false_eq_true, if_false]

/-- Characters beyond ASCII have no byte of ASCII. -/
theorem le_toNat_of_mem_encodeChar (h : 0x80 ≤ c.toNat) :
    ∀ b ∈ Text.Utf8.encodeChar c, 0x80 ≤ b.toNat := by
  have hvalid : c.toNat < 0x110000 := by
    rcases c.valid with hlow | ⟨-, hhigh⟩
    · exact Nat.lt_trans hlow (by decide)
    · exact hhigh
  rw [Text.Utf8.encodeChar, if_neg (Nat.not_lt.2 h)]
  split_ifs
  all_goals
    simp (disch := omega) only [List.forall_mem_cons, List.not_mem_nil, false_imp_iff, implies_true,
      and_true, Text.Utf8.toNat_byte]
    omega

theorem encodeChar_ne_nil (c : Char) : Text.Utf8.encodeChar c ≠ [] := by
  rw [Text.Utf8.encodeChar]
  split_ifs <;> exact List.cons_ne_nil _ _

/-- What is encoded in a query is no percent sign and no digit. -/
theorem plain_of_inSpecialQuerySet (h : inSpecialQuerySet c = true) :
    ∀ b ∈ Text.Utf8.encodeChar c, hexDigit? b = none ∧ b ≠ 0x25 := by
  have hascii : ∀ n < 0x80, inSpecialQuerySet (.ofNat n) = true →
      hexDigit? (.ofNat n) = none ∧ UInt8.ofNat n ≠ 0x25 := by decide
  intro b hb
  by_cases hlt : c.toNat < 0x80
  · rw [encodeChar_of_lt hlt, List.mem_singleton] at hb
    subst hb
    exact hascii _ hlt (by rwa [c.ofNat_toNat])
  · have hle := le_toNat_of_mem_encodeChar (Nat.not_lt.1 hlt) b hb
    refine ⟨hexDigit?_of_le hle, ?_⟩
    rintro rfl
    exact absurd hle (by decide)

/-- No more is encoded in the query of another URL than in that of a special one. -/
theorem inSpecialQuerySet_of_querySet
    (h : (if k.isSpecial then inSpecialQuerySet else inQuerySet) c = true) :
    inSpecialQuerySet c = true := by
  split at h
  · exact h
  · exact Bool.or_eq_true_iff.2 (.inl h)

/-- What stands for a character where the characters of a set are encoded. -/
def encodedChar (set : Char → Bool) (c : Char) : List Char :=
  if set c then (Text.Utf8.encodeChar c).flatMap percentByte else [c]

theorem encodedChar_ne_nil (set : Char → Bool) (c : Char) : encodedChar set c ≠ [] := by
  obtain ⟨b, bs, hbytes⟩ := List.exists_cons_of_ne_nil (encodeChar_ne_nil c)
  rw [encodedChar, hbytes]
  split <;> exact List.cons_ne_nil _ _

theorem percentEncode_eq (set : Char → Bool) (cs : List Char) :
    percentEncode set cs = String.ofList (cs.flatMap (encodedChar set)) := rfl

namespace Form

theorem percentDecode_flatMap_percentByte (bs bs' : Text.Bytes) :
    percentDecode ((bs.flatMap percentByte).flatMap charBytes ++ bs') = bs ++ percentDecode bs' := by
  induction bs with
  | nil => rfl
  | cons b bs ih =>
    rw [List.flatMap_cons, List.flatMap_append, List.append_assoc, percentDecode_percentByte, ih,
      List.cons_append]

/-- A query is read in the same way in percent encoding. -/
theorem percentDecode_flatMap_encodedChar (hset : ∀ c, set c = true → inSpecialQuerySet c = true)
    (front : Text.Bytes) (cs : List Char) :
    percentDecode (front ++ (cs.flatMap (encodedChar set)).flatMap charBytes) =
      percentDecode (front ++ cs.flatMap charBytes) := by
  -- A character that is encoded ends what was read before it, in either form. What comes before the
  -- first one is the same in both.
  induction cs generalizing front with
  | nil => rfl
  | cons c cs ih =>
    rw [List.flatMap_cons, List.flatMap_append, List.flatMap_cons, encodedChar]
    split
    next hc =>
      have hplain := plain_of_inSpecialQuerySet (hset c hc)
      have hne : c ≠ '+' := by
        rintro rfl
        exact absurd (hset _ hc) (by decide)
      obtain ⟨b, bs, hbytes⟩ := List.exists_cons_of_ne_nil (encodeChar_ne_nil c)
      have hencoded : ∀ d ∈ (((Text.Utf8.encodeChar c).flatMap percentByte).flatMap charBytes ++
          (cs.flatMap (encodedChar set)).flatMap charBytes).head?, hexDigit? d = none := by
        rw [hbytes]
        intro d hd
        obtain rfl : 0x25 = d := Option.some.inj hd
        decide
      have hraw : ∀ d ∈ (Text.Utf8.encodeChar c ++ cs.flatMap charBytes).head?,
          hexDigit? d = none := by
        rw [hbytes]
        intro d hd
        obtain rfl : b = d := Option.some.inj hd
        exact (hplain b (hbytes ▸ List.mem_cons_self)).1
      have hrest := ih []
      rw [List.nil_append, List.nil_append] at hrest
      rw [percentDecode_append _ hencoded, percentDecode_flatMap_percentByte, hrest,
        charBytes_of_ne hne, percentDecode_append _ hraw,
        percentDecode_append_of_forall_ne fun b hb => (hplain b hb).2]
    next =>
      rw [List.flatMap_singleton, ← List.append_assoc, ← List.append_assoc]
      exact ih (front ++ charBytes c)

/-- The characters of a text may be replaced without a change of where `x` stands. -/
def Spares (x : Char) (e : Char → List Char) : Prop := e x = [x] ∧ ∀ c, c ≠ x → x ∉ e c

theorem Spares.splitOn (h : Spares x e) (cs : List Char) :
    (cs.flatMap e).splitOn x = (cs.splitOn x).map (·.flatMap e) := by
  -- By length: what is before a sign and what is after it are both shorter.
  induction hlength : cs.length using Nat.strongRecOn generalizing cs with
  | ind n ih =>
    by_cases hmem : x ∈ cs
    · obtain ⟨front, rest, rfl, -⟩ := List.eq_append_cons_of_mem hmem
      rw [List.length_append, List.length_cons] at hlength
      rw [List.flatMap_append, List.flatMap_cons, h.1, List.singleton_append,
        List.splitOn_append_cons_self, List.splitOn_append_cons_self, List.map_append,
        ih _ (by omega) front rfl, ih _ (by omega) rest rfl]
    · have hnone : x ∉ cs.flatMap e := by
        rw [List.mem_flatMap]
        rintro ⟨c, hc, hx⟩
        exact h.2 c (fun heq => hmem (heq ▸ hc)) hx
      rw [List.splitOn_eq_singleton hmem, List.splitOn_eq_singleton hnone]
      rfl

theorem Spares.takeWhile (h : Spares x e) (cs : List Char) :
    (cs.flatMap e).takeWhile (· != x) = (cs.takeWhile (· != x)).flatMap e := by
  induction cs with
  | nil => rfl
  | cons c cs ih =>
    by_cases hc : c = x
    · subst hc
      simp [h.1]
    · have hall : ∀ d ∈ e c, (d != x) = true := fun d hd =>
        bne_iff_ne.2 fun heq => h.2 c hc (heq ▸ hd)
      rw [List.flatMap_cons, List.takeWhile_append_of_pos hall, ih,
        List.takeWhile_cons_of_pos (p := (· != x)) (bne_iff_ne.2 hc), List.flatMap_cons]

theorem Spares.drop_dropWhile (h : Spares x e) (cs : List Char) :
    ((cs.flatMap e).dropWhile (· != x)).drop 1 = ((cs.dropWhile (· != x)).drop 1).flatMap e := by
  induction cs with
  | nil => rfl
  | cons c cs ih =>
    by_cases hc : c = x
    · subst hc
      simp [h.1]
    · have hall : ∀ d ∈ e c, (d != x) = true := fun d hd =>
        bne_iff_ne.2 fun heq => h.2 c hc (heq ▸ hd)
      rw [List.flatMap_cons, List.dropWhile_append_of_pos hall, ih,
        List.dropWhile_cons_of_pos (p := (· != x)) (bne_iff_ne.2 hc)]

/-- Signs that are not encoded stand where they stood. -/
theorem spares_encodedChar (hx : set x = false) (hform : ¬IsFormChar x) :
    Spares x (encodedChar set) := by
  constructor
  · rw [encodedChar, hx]
    rfl
  · intro c hc hmem
    rw [encodedChar] at hmem
    split at hmem
    next =>
      obtain ⟨b, -, hb⟩ := List.mem_flatMap.1 hmem
      exact hform (isFormChar_percentByte x hb)
    next => exact hc (List.mem_singleton.1 hmem).symm

/-- A query has the same pairs in percent encoding. -/
theorem decodePairs_percentEncode (hset : ∀ c, set c = true → inSpecialQuerySet c = true)
    (cs : List Char) : decodePairs (percentEncode set cs) = decodePairs (String.ofList cs) := by
  have hspares {x : Char} (hx : inSpecialQuerySet x = false) (hform : ¬IsFormChar x) :=
    spares_encodedChar (Bool.eq_false_iff.2 (mt (hset x) (Bool.eq_false_iff.1 hx))) hform
  have hand : Spares '&' (encodedChar set) := hspares (by decide) (by unfold IsFormChar; decide)
  have hequals : Spares '=' (encodedChar set) := hspares (by decide) (by unfold IsFormChar; decide)
  have hdecode (cs : List Char) : decode (cs.flatMap (encodedChar set)) = decode cs := by
    have hbytes := percentDecode_flatMap_encodedChar hset [] cs
    rw [List.nil_append, List.nil_append] at hbytes
    rw [decode_eq, hbytes, decode_eq]
  have hpair (cs : List Char) : decodePair (cs.flatMap (encodedChar set)) = decodePair cs := by
    rw [decodePair, hequals.takeWhile, hequals.drop_dropWhile, hdecode, hdecode, decodePair]
  have hempty (cs : List Char) : (cs.flatMap (encodedChar set)).isEmpty = cs.isEmpty := by
    cases cs with
    | nil => rfl
    | cons c cs =>
      obtain ⟨d, ds, hcons⟩ := List.exists_cons_of_ne_nil (encodedChar_ne_nil set c)
      rw [List.flatMap_cons, hcons]
      rfl
  rw [percentEncode_eq, decodePairs, decodePairs, String.toList_ofList, String.toList_ofList,
    hand.splitOn, List.filter_map, List.map_map]
  simp only [Function.comp_def, hpair, hempty]

end Form

/-! ### What comes after a path -/

/-- What is dropped first may be dropped with the rest. -/
theorem dropWhile_dropWhile (h : ∀ c, p c = true → q c = true) (cs : List Char) :
    (cs.dropWhile p).dropWhile q = cs.dropWhile q := by
  induction cs with
  | nil => rfl
  | cons c cs ih =>
    by_cases hc : p c = true
    · rw [List.dropWhile_cons_of_pos hc, ih, List.dropWhile_cons_of_pos (h c hc)]
    · rw [List.dropWhile_cons_of_neg hc]

theorem beforeTail_of_isSlash (h : k.isSlash c = true) : beforeTail c = true := by
  simp only [Kind.isSlash, Bool.or_eq_true, Bool.and_eq_true, beq_iff_eq] at h
  rcases h with rfl | ⟨rfl, -⟩ <;> rfl

theorem beforeTail_of_isSchemeChar (h : isSchemeChar c = true) : beforeTail c = true := by
  rw [beforeTail, Bool.and_eq_true, bne_iff_ne, bne_iff_ne]
  constructor <;>
  · rintro rfl
    exact absurd h (by decide)

theorem dropWhile_isSchemeChar_of_scheme? (h : scheme? cs = some (scheme, rest)) :
    cs.dropWhile isSchemeChar = ':' :: rest := by
  unfold scheme? at h
  split at h
  next c rest' _ hrest =>
    split at h
    · obtain ⟨-, rfl⟩ := Prod.mk.inj (Option.some.inj h)
      exact hrest
    · cases h
  next => cases h

/-- The scheme and its colon come before the query. -/
theorem dropWhile_beforeTail_of_scheme? (h : scheme? cs = some (scheme, rest)) :
    cs.dropWhile beforeTail = rest.dropWhile beforeTail := by
  rw [← dropWhile_dropWhile (fun c => beforeTail_of_isSchemeChar) cs,
    dropWhile_isSchemeChar_of_scheme? h]
  rfl

theorem exists_scheme?_of_parse (h : parse text = .ok u) :
    ∃ scheme rest, scheme? (significant text) = some (scheme, rest) := by
  cases hscheme : scheme? (significant text) with
  | none =>
    unfold parse at h
    rw [hscheme] at h
    cases h
  | some found => exact ⟨found.1, found.2, rfl⟩

theorem parse_of_file (hscheme : scheme? (significant text) = some (scheme, rest))
    (hkind : Kind.ofScheme scheme = .file) : parse text = fileUrl rest := by
  unfold parse
  rw [hscheme]
  simp only [hkind]

theorem parse_of_special {port : Nat}
    (hscheme : scheme? (significant text) = some (scheme, rest))
    (hkind : Kind.ofScheme scheme = .special port) :
    parse text =
      withAuthority (.special port) scheme (rest.dropWhile (Kind.special port).isSlash) := by
  unfold parse
  rw [hscheme]
  simp only [hkind]

theorem parse_of_slashes
    (hscheme : scheme? (significant text) = some (scheme, '/' :: '/' :: rest))
    (hkind : Kind.ofScheme scheme = .plain) : parse text = withAuthority .plain scheme rest := by
  unfold parse
  rw [hscheme]
  simp only [hkind]

theorem parse_of_plain (hscheme : scheme? (significant text) = some (scheme, rest))
    (hkind : Kind.ofScheme scheme = .plain) (hrest : ∀ cs, rest ≠ '/' :: '/' :: cs) :
    parse text = .ok (withTail .plain scheme none
      (if (rest.takeWhile beforeTail).head? == some '/' then
        .rooted (segments .plain (rest.takeWhile beforeTail))
      else .bare (percentEncode isControl (rest.takeWhile beforeTail)))
      (rest.dropWhile beforeTail)) := by
  unfold parse
  rw [hscheme]
  simp only [hkind]

/-- A `file` URL with the host, from the first character after it on. -/
def fileUrlFrom (host : Host) (cs : List Char) : Url :=
  withTail .file "file" (some { host }) (.rooted (segments .file (cs.takeWhile beforeTail)))
    (cs.dropWhile beforeTail)

theorem fileUrl_of_not_slashes
    (h : ∀ a b r, cs = a :: b :: r → (Kind.file.isSlash a && Kind.file.isSlash b) = false) :
    fileUrl cs = .ok (fileUrlFrom (.domain "") cs) := by
  unfold fileUrl
  dsimp only
  split
  next a b r =>
    rw [h a b r rfl]
    rfl
  next => rfl

theorem fileUrl_of_slashes {a b : Char} (h : (Kind.file.isSlash a && Kind.file.isSlash b) = true)
    (r : List Char) :
    fileUrl (a :: b :: r) =
      if (r.takeWhile fun c => beforeTail c && !Kind.file.isSlash c).isEmpty ||
          isDrive (r.takeWhile fun c => beforeTail c && !Kind.file.isSlash c) then
        .ok (fileUrlFrom (.domain "") r)
      else (Host.ofChars? (r.takeWhile fun c => beforeTail c && !Kind.file.isSlash c)).map fun host =>
        fileUrlFrom (if host = .domain "localhost" then .domain "" else host)
          (r.dropWhile fun c => beforeTail c && !Kind.file.isSlash c) := by
  unfold fileUrl
  dsimp only
  rw [if_pos h]
  split
  · rfl
  · cases Host.ofChars? (r.takeWhile fun c => beforeTail c && !Kind.file.isSlash c) <;> rfl

theorem withAuthority_eq_withTail
    (h : withAuthority k scheme cs = .ok u) :
    ∃ authority path, u = withTail k scheme authority path (cs.dropWhile beforeTail) := by
  unfold withAuthority at h
  dsimp only at h
  have hinside : ∀ c, (beforeTail c && !k.isSlash c) = true → beforeTail c = true := fun c hc =>
    (Bool.and_eq_true_iff.1 hc).1
  cases hauthority : readAuthority k (cs.dropWhile fun c => beforeTail c && !k.isSlash c).isEmpty
      (cs.takeWhile fun c => beforeTail c && !k.isSlash c) with
  | error fault =>
    rw [hauthority] at h
    cases h
  | ok a =>
    rw [hauthority] at h
    rw [← Except.ok.inj h, dropWhile_dropWhile hinside]
    exact ⟨_, _, rfl⟩

theorem fileUrl_eq_withTail (h : fileUrl cs = .ok u) :
    ∃ authority path, u = withTail .file "file" authority path (cs.dropWhile beforeTail) := by
  have hinside : ∀ c, (beforeTail c && !Kind.file.isSlash c) = true → beforeTail c = true :=
    fun c hc => (Bool.and_eq_true_iff.1 hc).1
  by_cases hslashes : ∃ a b r, cs = a :: b :: r ∧ (Kind.file.isSlash a && Kind.file.isSlash b) = true
  · obtain ⟨a, b, r, rfl, hab⟩ := hslashes
    obtain ⟨ha, hb⟩ := Bool.and_eq_true_iff.1 hab
    rw [List.dropWhile_cons_of_pos (beforeTail_of_isSlash ha),
      List.dropWhile_cons_of_pos (beforeTail_of_isSlash hb)]
    rw [fileUrl_of_slashes hab] at h
    split at h
    · rw [← Except.ok.inj h]
      exact ⟨_, _, rfl⟩
    · cases hhost : Host.ofChars? (r.takeWhile fun c => beforeTail c && !Kind.file.isSlash c) with
      | error fault =>
        rw [hhost] at h
        cases h
      | ok host =>
        rw [hhost] at h
        rw [← Except.ok.inj h, ← dropWhile_dropWhile hinside r]
        exact ⟨_, _, rfl⟩
  · rw [fileUrl_of_not_slashes fun a b r hr =>
      Bool.eq_false_iff.2 fun hab => hslashes ⟨a, b, r, hr, hab⟩] at h
    rw [← Except.ok.inj h]
    exact ⟨_, _, rfl⟩

/-- A URL has for its query and its fragment what comes after the first of their signs, however its
    other parts are read. -/
theorem parse_eq_withTail (h : parse text = .ok u) :
    ∃ k scheme authority path,
      u = withTail k scheme authority path ((significant text).dropWhile beforeTail) := by
  obtain ⟨scheme, rest, hscheme⟩ := exists_scheme?_of_parse h
  rw [dropWhile_beforeTail_of_scheme? hscheme]
  -- Slashes and authorities end before the first sign, so it does not matter what is dropped with them.
  cases hkind : Kind.ofScheme scheme with
  | file =>
    rw [parse_of_file hscheme hkind] at h
    obtain ⟨authority, path, hu⟩ := fileUrl_eq_withTail h
    exact ⟨_, _, authority, path, hu⟩
  | special port =>
    rw [parse_of_special hscheme hkind] at h
    obtain ⟨authority, path, hu⟩ := withAuthority_eq_withTail h
    rw [dropWhile_dropWhile fun c => beforeTail_of_isSlash] at hu
    exact ⟨_, _, authority, path, hu⟩
  | plain =>
    by_cases hslashes : ∃ cs, rest = '/' :: '/' :: cs
    · obtain ⟨cs, rfl⟩ := hslashes
      rw [parse_of_slashes hscheme hkind] at h
      obtain ⟨authority, path, hu⟩ := withAuthority_eq_withTail h
      exact ⟨_, _, authority, path, hu⟩
    · rw [parse_of_plain hscheme hkind fun cs heq => hslashes ⟨cs, heq⟩] at h
      rw [← Except.ok.inj h]
      exact ⟨_, _, _, _, rfl⟩

/-! ### The pairs of a URL -/

/-- The pairs in the query of a URL. -/
def pairs (u : Url) : List (String × String) := Form.decodePairs (u.query.getD "")

/-- The query in the text of a URL, from the question mark to the number sign. -/
def queryText (text : String) : String :=
  String.ofList (((significant text).takeWhile (· != '#')).dropWhile (· != '?')).tail

theorem takeWhile_dropWhile_beforeTail (cs : List Char) :
    (cs.dropWhile beforeTail).takeWhile (· != '#') =
      (cs.takeWhile (· != '#')).dropWhile (· != '?') := by
  induction cs with
  | nil => rfl
  | cons c cs ih =>
    by_cases hquery : c = '?'
    · subst hquery
      rfl
    · by_cases hfragment : c = '#'
      · subst hfragment
        rfl
      · have hbefore : beforeTail c = true := by
          rw [beforeTail, Bool.and_eq_true, bne_iff_ne, bne_iff_ne]
          exact ⟨hquery, hfragment⟩
        rw [List.dropWhile_cons_of_pos hbefore, ih,
          List.takeWhile_cons_of_pos (p := (· != '#')) (bne_iff_ne.2 hfragment),
          List.dropWhile_cons_of_pos (p := (· != '?')) (bne_iff_ne.2 hquery)]

/-- The pairs of a URL are those in its text. -/
theorem pairs_of_parse (h : parse text = .ok u) :
    u.pairs = Form.decodePairs (queryText text) := by
  obtain ⟨k, scheme, authority, path, rfl⟩ := parse_eq_withTail h
  rw [pairs, queryText, ← takeWhile_dropWhile_beforeTail]
  unfold withTail
  dsimp only
  cases (List.dropWhile beforeTail (significant text)).takeWhile (· != '#') with
  | nil => rfl
  | cons _ query => exact Form.decodePairs_percentEncode (fun c => inSpecialQuerySet_of_querySet) query

/-- Pairs that are added come last. -/
theorem pairs_appendQuery (ps : List (String × String)) (u : Url) :
    (u.appendQuery ps).pairs = u.pairs ++ ps := by
  rw [appendQuery]
  split
  next hnone => rw [List.isEmpty_iff.1 hnone, List.append_nil]
  next =>
    dsimp only
    split
    next hquery =>
      rw [pairs, pairs, hquery]
      exact Form.decodePairs_encodePairs ps
    next query hquery =>
      rw [pairs, pairs, hquery]
      change Form.decodePairs (if query = "" then _ else _) = Form.decodePairs query ++ ps
      split
      next hempty =>
        rw [hempty]
        exact Form.decodePairs_encodePairs ps
      next => rw [Form.decodePairs_append, Form.decodePairs_encodePairs]

/-- Nothing but the query depends on the pairs that are added. -/
theorem appendQuery_eq (ps : List (String × String)) (u : Url) :
    u.appendQuery ps = { u with query := (u.appendQuery ps).query } := by
  rw [appendQuery]
  split
  · rfl
  · dsimp only
    split <;> rfl

end Url

/-! ### Requests -/

namespace Request

variable {base : String} {r : Request} {u : Url}

theorem url_of_parse (h : Url.parse (r.urlText base) = .ok u) :
    r.url base = .ok (u.appendQuery r.query) := by
  unfold url
  rw [h]

theorem foldl_withQuery (ps : List (String × String)) (r : Request) :
    ps.foldl (fun r p => r.withQuery p.1 p.2) r = { r with query := r.query ++ ps } := by
  induction ps generalizing r with
  | nil => rw [List.foldl_nil, List.append_nil]
  | cons p ps ih =>
    rw [List.foldl_cons, ih, withQuery]
    simp only [List.append_assoc, List.singleton_append]

/-- A text of slashes. -/
def slashes (n : Nat) : String := String.ofList (List.replicate n '/')

theorem trimEnd_append_slashes (base : String) (n : Nat) :
    Text.trimEnd '/' (base ++ slashes n) = Text.trimEnd '/' base := by
  have hall : ∀ c ∈ List.replicate n '/', (c == '/') = true := fun c hc =>
    beq_iff_eq.2 (List.eq_of_mem_replicate hc)
  rw [Text.trimEnd, slashes, String.toList_append, String.toList_ofList, Text.dropEndWhile,
    List.reverse_append, List.reverse_replicate, List.dropWhile_append_of_pos hall]
  rfl

theorem trimStart_slashes_append (path : String) (n : Nat) :
    Text.trimStart '/' (slashes n ++ path) = Text.trimStart '/' path := by
  have hall : ∀ c ∈ List.replicate n '/', (c == '/') = true := fun c hc =>
    beq_iff_eq.2 (List.eq_of_mem_replicate hc)
  rw [Text.trimStart, slashes, String.toList_append, String.toList_ofList,
    List.dropWhile_append_of_pos hall]
  rfl

theorem url_eq_of_urlText_eq {r' : Request} {base' : String} (hquery : r.query = r'.query)
    (htext : r.urlText base = r'.urlText base') : r.url base = r'.url base' := by
  rw [url, url, htext, hquery]

/-- Pairs that are added to a request come last in the query of its address, after those of the address
    and those that were added before, and nothing else of the address depends on them. Slashes where the
    path begins or the base ends make no difference, as long as the path is no address of its own. -/
theorem url_foldl_withQuery :
    (∀ (base : String) (r : Request) (ps : List (String × String)) (u : Url),
      Url.parse (r.urlText base) = .ok u →
      ∃ u' u'', r.url base = .ok u' ∧
        (ps.foldl (fun r p => r.withQuery p.1 p.2) r).url base = .ok u'' ∧
        u''.pairs = Url.Form.decodePairs (Url.queryText (r.urlText base)) ++ r.query ++ ps ∧
        u'' = { u' with query := u''.query }) ∧
    ∀ (base path : String) (r : Request) (k l m n : Nat),
      ({ r with path := slashes m ++ path } : Request).isAbsolute = false →
      ({ r with path := slashes n ++ path } : Request).isAbsolute = false →
      ({ r with path := slashes m ++ path } : Request).url (base ++ slashes k) =
        ({ r with path := slashes n ++ path } : Request).url (base ++ slashes l) := by
  refine ⟨?pairs, ?slashes⟩
  case pairs =>
    intro base r ps u hparse
    refine ⟨u.appendQuery r.query, u.appendQuery (r.query ++ ps), url_of_parse hparse, ?_, ?_, ?_⟩
    · rw [foldl_withQuery]
      exact url_of_parse hparse
    · rw [Url.pairs_appendQuery, Url.pairs_of_parse hparse, List.append_assoc]
    · rw [Url.appendQuery_eq r.query]
      exact Url.appendQuery_eq (r.query ++ ps) u
  case slashes =>
    intro base path r k l m n hm hn
    refine url_eq_of_urlText_eq rfl ?_
    unfold urlText
    rw [hm, hn]
    change Settings.below _ (slashes m ++ path) = Settings.below _ (slashes n ++ path)
    unfold Settings.below
    rw [trimEnd_append_slashes, trimEnd_append_slashes, trimStart_slashes_append,
      trimStart_slashes_append]

/-- A search below a base with two slashes at its end, with a query and a fragment in the path, to which
    are added a text of separators and an empty pair. -/
theorem url_foldl_withQuery_search :
    (∃ u' u'', (get "/search?q=%20a#top").url "http://shop.example/api//" = .ok u' ∧
      ([("a&b", "=+%#ä"), ("", "")].foldl (fun r p => r.withQuery p.1 p.2)
        (get "/search?q=%20a#top")).url "http://shop.example/api//" = .ok u'' ∧
      u''.pairs = [("q", " a"), ("a&b", "=+%#ä"), ("", "")] ∧ u'' = { u' with query := u''.query }) ∧
    (get (slashes 1 ++ "search")).url ("http://shop.example/api" ++ slashes 2) =
      (get (slashes 0 ++ "search")).url ("http://shop.example/api" ++ slashes 0) := by
  have hparse : (Url.parse ((get "/search?q=%20a#top").urlText "http://shop.example/api//")) =
      .ok ⟨"http", some { host := .domain "shop.example" }, .rooted ["api", "search"], some "q=%20a",
        some "top"⟩ := by
    decide +kernel
  obtain ⟨u', u'', hurl, hadded, hpairs, hrest⟩ :=
    url_foldl_withQuery.1 _ _ [("a&b", "=+%#ä"), ("", "")] _ hparse
  have hquery : Url.Form.decodePairs
      (Url.queryText ((get "/search?q=%20a#top").urlText "http://shop.example/api//")) =
        [("q", " a")] := by
    decide +kernel
  rw [hquery] at hpairs
  exact ⟨⟨u', u'', hurl, hadded, hpairs, hrest⟩,
    url_foldl_withQuery.2 "http://shop.example/api" "search" (get "") 2 0 1 0 (by decide +kernel)
      (by decide +kernel)⟩

end Request

end ShopClient
