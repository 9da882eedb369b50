import ShopClient.Guard
import ShopClient.Proofs.Url.Query
import Mathlib.Data.List.TakeWhile

/-!
# The way back from the sign-in page

Who has to sign in comes to an address that holds the place to come back to. Whatever this place is, it
stays one parameter of that address: on every origin the address has the path of the sign-in page, and
the place is read back from its query.

* `Url.parse_append_query`: a query put after the text of a URL is the query of the URL;
* `Access.redirectToLogin_location`: the address of the sign-in page, for every place to come back to.
-/

namespace ShopClient

namespace Url

variable {c x : Char} {cs rest query : List Char} {p : Char → Bool} {k : Kind} {scheme : String} {u : Url}

/-! ### A query after a text -/

theorem dropWhile_append_cons (h : p x = false) (cs rest : List Char) :
    (cs ++ x :: rest).dropWhile p = cs.dropWhile p ++ x :: rest := by
  have hx : (x :: rest).dropWhile p = x :: rest := List.dropWhile_cons_of_neg (by simp [h])
  rw [List.dropWhile_append, hx]
  split
  next hnone => rw [List.isEmpty_iff.1 hnone, List.nil_append]
  next => rfl

theorem takeWhile_append_cons (h : p x = false) (cs rest : List Char) :
    (cs ++ x :: rest).takeWhile p = cs.takeWhile p := by
  have hx : (x :: rest).takeWhile p = [] := List.takeWhile_cons_of_neg (by simp [h])
  rw [List.takeWhile_append, hx]
  split
  next hlength =>
    rw [List.append_nil]
    exact ((List.takeWhile_prefix p).eq_of_length hlength).symm
  next => rfl

/-- The characters that may stand in every query. -/
def IsQuery (query : List Char) : Prop := ∀ c ∈ query, inSpecialQuerySet c = false

/-- What may stand in every query is not encoded. -/
theorem IsQuery.percentEncode_eq (h : IsQuery query) {set : Char → Bool}
    (hset : ∀ c, set c = true → inSpecialQuerySet c = true) :
    percentEncode set query = String.ofList query := by
  have hchars : query.flatMap (encodedChar set) = query := by
    induction query with
    | nil => rfl
    | cons c cs ih =>
      rw [IsQuery, List.forall_mem_cons] at h
      have hc : set c = false := Bool.eq_false_iff.2 (mt (hset c) (Bool.eq_false_iff.1 h.1))
      rw [List.flatMap_cons, ih h.2, encodedChar, hc]
      rfl
  rw [Url.percentEncode_eq, hchars]

theorem IsQuery.withTail (h : IsQuery query) (k : Kind) (scheme : String)
    (authority : Option Authority) (path : Path) :
    withTail k scheme authority path ('?' :: query) =
      { withTail k scheme authority path [] with query := some (String.ofList query) } := by
  have hfragment : ∀ c ∈ '?' :: query, (c != '#') = true := by
    rw [List.forall_mem_cons]
    refine ⟨by decide, fun c hc => bne_iff_ne.2 ?_⟩
    rintro rfl
    exact absurd (h _ hc) (by decide)
  unfold Url.withTail
  rw [List.takeWhile_eq_self_iff.2 hfragment, List.dropWhile_eq_nil_iff.2 hfragment]
  simp only [h.percentEncode_eq fun c => inSpecialQuerySet_of_querySet]
  rfl

/-! ### Authorities before a query -/

/-- The characters of a text that has neither a query nor a fragment. -/
def IsBeforeTail (cs : List Char) : Prop := ∀ c ∈ cs, beforeTail c = true

/-- It matters only to an authority that starts with an at sign whether something comes after it. -/
theorem readAuthority_congr (h : cs.head? ≠ some '@') (last last' : Bool) :
    readAuthority k last cs = readAuthority k last' cs := by
  have hhead : (cs.head? == some '@') = false := beq_eq_false_iff_ne.2 h
  unfold readAuthority
  simp only [hhead, Bool.false_and]

theorem IsBeforeTail.dropWhile (h : IsBeforeTail cs) (p : Char → Bool) :
    (cs.dropWhile p).dropWhile beforeTail = [] :=
  List.dropWhile_eq_nil_iff.2 fun c hc => h c ((List.dropWhile_suffix p).subset hc)

theorem withAuthority_append (hcs : IsBeforeTail cs) (hlast : '/' ∈ cs ∨ '@' ∉ cs)
    (hquery : IsQuery query) (h : withAuthority k scheme cs = .ok u) :
    withAuthority k scheme (cs ++ '?' :: query) = .ok { u with query := some (String.ofList query) } := by
  unfold withAuthority at h ⊢
  dsimp only at h ⊢
  have hsign : (fun c => beforeTail c && !k.isSlash c) '?' = false := rfl
  have hslash : (beforeTail '/' && !k.isSlash '/') = false := rfl
  rw [dropWhile_append_cons hsign, takeWhile_append_cons hsign, takeWhile_append_cons rfl,
    dropWhile_append_cons rfl, hcs.dropWhile, List.nil_append]
  -- Whether something comes after the authority is asked only if the authority starts with an at sign.
  -- Then a slash comes after it, with the query as without.
  have hauthority : readAuthority k
      (cs.dropWhile (fun c => beforeTail c && !k.isSlash c) ++ '?' :: query).isEmpty
        (cs.takeWhile fun c => beforeTail c && !k.isSlash c) =
      readAuthority k (cs.dropWhile fun c => beforeTail c && !k.isSlash c).isEmpty
        (cs.takeWhile fun c => beforeTail c && !k.isSlash c) := by
    rcases hlast with hmem | hmem
    · have hrest : (cs.dropWhile fun c => beforeTail c && !k.isSlash c) ≠ [] := fun hnone =>
        absurd (List.dropWhile_eq_nil_iff.1 hnone _ hmem) (Bool.eq_false_iff.1 hslash)
      obtain ⟨c, rest, hcons⟩ := List.exists_cons_of_ne_nil hrest
      rw [hcons]
      rfl
    · refine readAuthority_congr (fun hhead => hmem ?_) _ _
      exact (List.takeWhile_prefix _).subset (List.mem_of_mem_head? hhead)
  rw [hauthority]
  rw [hcs.dropWhile] at h
  cases hok : readAuthority k (cs.dropWhile fun c => beforeTail c && !k.isSlash c).isEmpty
      (cs.takeWhile fun c => beforeTail c && !k.isSlash c) with
  | error fault =>
    rw [hok] at h
    cases h
  | ok a =>
    rw [hok] at h
    rw [← Except.ok.inj h]
    exact congrArg Except.ok (hquery.withTail _ _ _ _)

theorem fileUrlFrom_append (hcs : IsBeforeTail cs) (hquery : IsQuery query) (host : Host) :
    fileUrlFrom host (cs ++ '?' :: query) =
      { fileUrlFrom host cs with query := some (String.ofList query) } := by
  have hnone : cs.dropWhile beforeTail = [] := List.dropWhile_eq_nil_iff.2 hcs
  rw [fileUrlFrom, fileUrlFrom, takeWhile_append_cons rfl, dropWhile_append_cons rfl, hnone]
  exact hquery.withTail _ _ _ _

theorem fileUrl_append (hcs : IsBeforeTail cs) (hquery : IsQuery query) (h : fileUrl cs = .ok u) :
    fileUrl (cs ++ '?' :: query) = .ok { u with query := some (String.ofList query) } := by
  have hsign : (fun c => beforeTail c && !Kind.file.isSlash c) '?' = false := rfl
  by_cases hslashes : ∃ a b r, cs = a :: b :: r ∧ (Kind.file.isSlash a && Kind.file.isSlash b) = true
  · obtain ⟨a, b, r, rfl, hab⟩ := hslashes
    have hr : IsBeforeTail r := fun c hc => hcs c (List.mem_cons_of_mem _ (List.mem_cons_of_mem _ hc))
    rw [fileUrl_of_slashes hab] at h
    rw [List.cons_append, List.cons_append, fileUrl_of_slashes hab, takeWhile_append_cons hsign,
      dropWhile_append_cons hsign]
    split at h
    next hlocal =>
      rw [if_pos hlocal, fileUrlFrom_append hr hquery, ← Except.ok.inj h]
    next hlocal =>
      rw [if_neg hlocal]
      cases hhost : Host.ofChars? (r.takeWhile fun c => beforeTail c && !Kind.file.isSlash c) with
      | error fault =>
        rw [hhost] at h
        cases h
      | ok host =>
        rw [hhost] at h
        have hrest : IsBeforeTail (r.dropWhile fun c => beforeTail c && !Kind.file.isSlash c) :=
          fun c hc => hr c ((List.dropWhile_suffix _).subset hc)
        rw [← Except.ok.inj h]
        exact congrArg Except.ok (fileUrlFrom_append hrest hquery _)
  · have hnot (a b : Char) (r : List Char) (hr : cs = a :: b :: r) :
        (Kind.file.isSlash a && Kind.file.isSlash b) = false :=
      Bool.eq_false_iff.2 fun hab => hslashes ⟨a, b, r, hr, hab⟩
    rw [fileUrl_of_not_slashes hnot] at h
    rw [fileUrl_of_not_slashes, fileUrlFrom_append hcs hquery, ← Except.ok.inj h]
    intro a b r hr
    rcases cs with _ | ⟨a', _ | ⟨b', r'⟩⟩
    all_goals simp only [List.nil_append, List.cons_append, List.cons.injEq] at hr
    · obtain ⟨rfl, -⟩ := hr
      rfl
    · obtain ⟨-, rfl, -⟩ := hr
      exact Bool.and_false _
    · obtain ⟨rfl, rfl, -⟩ := hr
      exact hnot a' b' r' rfl

/-! ### A query after an address -/

theorem scheme?_append (h : scheme? cs = some (scheme, rest)) (query : List Char) :
    scheme? (cs ++ '?' :: query) = some (scheme, rest ++ '?' :: query) := by
  have hsign : isSchemeChar '?' = false := by decide
  unfold scheme? at h ⊢
  split at h
  next c rest' hhead hrest =>
    rw [takeWhile_append_cons hsign, dropWhile_append_cons hsign, List.head?_append, hhead, hrest]
    dsimp only [Option.some_or, List.cons_append]
    split at h
    next halpha =>
      obtain ⟨rfl, rfl⟩ := Prod.mk.inj (Option.some.inj h)
      exact if_pos halpha
    next => cases h
  next => cases h

theorem suffix_of_scheme? (h : scheme? cs = some (scheme, rest)) : rest <:+ cs := by
  have hsuffix := List.dropWhile_suffix isSchemeChar (l := cs)
  rw [dropWhile_isSchemeChar_of_scheme? h] at hsuffix
  exact (List.suffix_cons ':' rest).trans hsuffix

/-- Visible characters at the end of a text count, all of them. -/
theorem significant_append {tail : List Char} (hne : tail ≠ [])
    (htail : ∀ c ∈ tail, 0x20 < c.toNat) (front : List Char) :
    significant (String.ofList (front ++ tail)) =
      ((front.dropWhile fun c => c.toNat ≤ 0x20).filter
        fun c => c != '\t' && c != '\n' && c != '\r') ++ tail := by
  have houter : ∀ c ∈ tail, decide (c.toNat ≤ 0x20) = false := fun c hc =>
    decide_eq_false (Nat.not_le.2 (htail c hc))
  have hfilter : (tail.filter fun c => c != '\t' && c != '\n' && c != '\r') = tail := by
    refine List.filter_eq_self.2 fun c hc => ?_
    simp only [Bool.and_eq_true, bne_iff_ne]
    refine ⟨⟨?_, ?_⟩, ?_⟩
    all_goals
      rintro rfl
      exact absurd (htail _ hc) (by decide)
  have hdrop : (front ++ tail).dropWhile (fun c => decide (c.toNat ≤ 0x20)) =
      (front.dropWhile fun c => decide (c.toNat ≤ 0x20)) ++ tail := by
    obtain ⟨x, rest, rfl⟩ := List.exists_cons_of_ne_nil hne
    exact dropWhile_append_cons (houter x List.mem_cons_self) front rest
  have hend (cs : List Char) : (cs ++ tail).reverse.dropWhile (fun c => decide (c.toNat ≤ 0x20)) =
      (cs ++ tail).reverse := by
    obtain ⟨x, rest, hrev⟩ := List.exists_cons_of_ne_nil (mt List.reverse_eq_nil_iff.1 hne)
    have hx : x ∈ tail := List.mem_reverse.1 (hrev ▸ List.mem_cons_self)
    rw [List.reverse_append, hrev]
    exact List.dropWhile_cons_of_neg (Bool.eq_false_iff.1 (houter x hx))
  unfold significant
  dsimp only
  rw [String.toList_ofList, hdrop, hend, List.reverse_reverse, List.filter_append, hfilter]

/-- A URL without a query and a fragment has nothing in its text that starts one. -/
theorem isBeforeTail_of_parse {text : String} (h : parse text = .ok u) (hquery : u.query = none)
    (hfragment : u.fragment = none) : IsBeforeTail (significant text) := by
  obtain ⟨k, scheme, authority, path, rfl⟩ := parse_eq_withTail h
  refine List.dropWhile_eq_nil_iff.1 ?_
  generalize (significant text).dropWhile beforeTail = tail at hquery hfragment
  unfold withTail at hquery hfragment
  dsimp only at hquery hfragment
  rw [← List.takeWhile_append_dropWhile (p := (· != '#')) (l := tail)]
  cases htake : tail.takeWhile (· != '#') with
  | cons _ _ =>
    rw [htake] at hquery
    cases hquery
  | nil =>
    cases hdrop : tail.dropWhile (· != '#') with
    | cons _ _ =>
      rw [hdrop] at hfragment
      cases hfragment
    | nil => rfl

/-- A query put after the characters of a URL that count is the query of the URL. -/
theorem parse_append {text text' : String}
    (htext : significant text' = significant text ++ '?' :: query)
    (hlast : ∀ cs, cs <:+ significant text → '/' ∈ cs ∨ '@' ∉ cs) (hquery : IsQuery query)
    (h : parse text = .ok u) (hu : u.query = none) (hu' : u.fragment = none) :
    parse text' = .ok { u with query := some (String.ofList query) } := by
  have hbefore := isBeforeTail_of_parse h hu hu'
  obtain ⟨scheme, rest, hscheme⟩ := exists_scheme?_of_parse h
  have hsuffix := suffix_of_scheme? hscheme
  have hrest : IsBeforeTail rest := fun c hc => hbefore c (hsuffix.subset hc)
  have hscheme' : scheme? (significant text') = some (scheme, rest ++ '?' :: query) := by
    rw [htext]
    exact scheme?_append hscheme query
  cases hkind : Kind.ofScheme scheme with
  | file =>
    rw [parse_of_file hscheme hkind] at h
    rw [parse_of_file hscheme' hkind]
    exact fileUrl_append hrest hquery h
  | special port =>
    have hsign : (Kind.special port).isSlash '?' = false := rfl
    have hdrop := List.dropWhile_suffix (Kind.special port).isSlash (l := rest)
    rw [parse_of_special hscheme hkind] at h
    rw [parse_of_special hscheme' hkind, dropWhile_append_cons hsign]
    exact withAuthority_append (fun c hc => hrest c (hdrop.subset hc))
      (hlast _ (hdrop.trans hsuffix)) hquery h
  | plain =>
    by_cases hslashes : ∃ cs, rest = '/' :: '/' :: cs
    · obtain ⟨cs, rfl⟩ := hslashes
      have hcs : cs <:+ '/' :: '/' :: cs := (List.suffix_cons _ _).trans (List.suffix_cons _ _)
      rw [parse_of_slashes hscheme hkind] at h
      rw [parse_of_slashes hscheme' hkind]
      exact withAuthority_append (fun c hc => hrest c (hcs.subset hc))
        (hlast _ (hcs.trans hsuffix)) hquery h
    · have hnot (cs : List Char) : rest ≠ '/' :: '/' :: cs := fun heq => hslashes ⟨cs, heq⟩
      have hnot' (cs : List Char) : rest ++ '?' :: query ≠ '/' :: '/' :: cs := by
        rcases rest with _ | ⟨a, _ | ⟨b, r⟩⟩
        all_goals simp only [List.nil_append, List.cons_append, ne_eq, List.cons.injEq, not_and]
        · exact fun hsign => absurd hsign (by decide)
        · exact fun _ hsign => absurd hsign (by decide)
        · rintro rfl rfl
          exact absurd rfl (hnot r)
      have hnone : rest.dropWhile beforeTail = [] := List.dropWhile_eq_nil_iff.2 hrest
      rw [parse_of_plain hscheme hkind hnot, hnone] at h
      rw [parse_of_plain hscheme' hkind hnot', takeWhile_append_cons rfl, dropWhile_append_cons rfl,
        hnone, List.nil_append, hquery.withTail, ← Except.ok.inj h]

/-- A query put after a path is the query of the URL, whatever the path comes after. -/
theorem parse_append_query {front name : List Char} (hname : ∀ c ∈ name, 0x20 < c.toNat)
    (hsign : '@' ∉ name) (hquery : IsQuery query)
    (h : parse (String.ofList (front ++ '/' :: name)) = .ok u) (hu : u.query = none)
    (hu' : u.fragment = none) :
    parse (String.ofList (front ++ ('/' :: name ++ '?' :: query))) =
      .ok { u with query := some (String.ofList query) } := by
  have hpath : ∀ c ∈ '/' :: name, 0x20 < c.toNat :=
    List.forall_mem_cons.2 ⟨by decide, hname⟩
  have hvisible : ∀ c ∈ '?' :: query, 0x20 < c.toNat := by
    refine List.forall_mem_cons.2 ⟨by decide, fun c hc => ?_⟩
    by_contra hle
    have hnone := hquery c hc
    have hcontrol : ∀ n ≤ 0x20, inSpecialQuerySet (.ofNat n) = true := by decide
    rw [← c.ofNat_toNat, hcontrol _ (Nat.not_lt.1 hle)] at hnone
    cases hnone
  refine parse_append ?_ ?_ hquery h hu hu'
  · rw [significant_append (List.cons_ne_nil _ _) hpath, List.append_assoc]
    refine significant_append (List.cons_ne_nil _ _) (fun c hc => ?_) front
    rcases (List.mem_append (s := '/' :: name)).1 hc with hc | hc
    · exact hpath c hc
    · exact hvisible c hc
  · intro cs hcs
    rw [significant_append (List.cons_ne_nil _ _) hpath] at hcs
    -- The end of a text either lies within the path, which has no at sign, or holds the slash before it.
    rcases List.suffix_or_suffix_of_suffix hcs (List.suffix_append _ _) with hshort | hlong
    · rcases List.suffix_cons_iff.1 hshort with rfl | hin
      · exact .inl List.mem_cons_self
      · exact .inr fun hmem => hsign (hin.subset hmem)
    · exact .inl (hlong.subset List.mem_cons_self)

namespace Form

theorem isFormChar_encodePair (p : String × String) :
    ∀ c ∈ encodePair p, IsFormChar c ∨ c = '=' := by
  intro c hc
  rcases List.mem_append.1 hc with hname | hvalue
  · exact .inl (isFormChar_encode _ c hname)
  · rcases List.mem_cons.1 hvalue with rfl | hvalue
    · exact .inr rfl
    · exact .inl (isFormChar_encode _ c hvalue)

/-- One pair may stand in every query. -/
theorem isQuery_encodePair (p : String × String) : IsQuery (encodePair p) := by
  intro c hc
  have halphanum : ∀ n < 0x80, (Char.ofNat n).isAlphanum = true →
      inSpecialQuerySet (.ofNat n) = false := by decide
  have hmarks : ∀ c ∈ "*-._+%".toList, inSpecialQuerySet c = false := forall_mem_of_all (by decide)
  rcases isFormChar_encodePair p c hc with hform | rfl
  · rcases hform with hc | hc
    · rw [← c.ofNat_toNat] at hc ⊢
      exact halphanum _ (toNat_lt_of_isAlphanum (c.ofNat_toNat ▸ hc)) hc
    · exact hmarks c hc
  · decide

theorem toList_encodePairs_singleton (p : String × String) :
    (encodePairs [p]).toList = encodePair p := by
  rw [encodePairs, String.toList_ofList]
  simp [List.intercalate]

end Form

end Url

/-! ### The address of the sign-in page -/

namespace Access

variable {target target' origin : String} {u : Url}

theorem location?_eq (target : String) :
    (redirectToLogin target).location? =
      some ("/login?" ++ Url.Form.encodePairs [("redirect", target)]) := by
  have hroute : loginRoute ++ "?" = "/login?" := by decide
  rw [location?, hroute]

/-- Two places to come back to have two addresses. -/
theorem eq_of_location?_eq
    (h : (redirectToLogin target).location? = (redirectToLogin target').location?) :
    target = target' := by
  rw [location?_eq, location?_eq, Option.some.injEq, ← String.toList_inj, String.toList_append,
    String.toList_append, List.append_cancel_left_eq, String.toList_inj] at h
  have hpairs := Url.Form.decodePairs_encodePairs [("redirect", target)]
  rw [h, Url.Form.decodePairs_encodePairs] at hpairs
  exact (Prod.mk.inj (List.cons.inj hpairs).1).2.symm

/-- On an origin, the address is that of the sign-in page, with the place in its query. -/
theorem parse_append_location (h : Url.parse (origin ++ "/login") = .ok u) (hu : u.query = none)
    (hu' : u.fragment = none) (target : String) :
    Url.parse (origin ++ ("/login?" ++ Url.Form.encodePairs [("redirect", target)])) =
      .ok { u with query := some (Url.Form.encodePairs [("redirect", target)]) } := by
  have hname : ∀ c ∈ "login".toList, 0x20 < c.toNat := Url.forall_mem_of_all (by decide)
  have hsign : '@' ∉ "login".toList := by decide
  have hroute : "/login?".toList = '/' :: "login".toList ++ ['?'] := by decide
  have hlogin : origin ++ "/login" = String.ofList (origin.toList ++ '/' :: "login".toList) := by
    rw [String.ofList_append, String.ofList_toList]
    rfl
  have hlocation : origin ++ ("/login?" ++ Url.Form.encodePairs [("redirect", target)]) =
      String.ofList (origin.toList ++ ('/' :: "login".toList ++
        '?' :: Url.Form.encodePair ("redirect", target))) := by
    rw [← String.toList_inj, String.toList_append, String.toList_append,
      Url.Form.toList_encodePairs_singleton, hroute, List.append_assoc _ ['?'], List.singleton_append]
    exact String.toList_ofList.symm
  rw [hlogin] at h
  rw [hlocation, Url.parse_append_query hname hsign (Url.Form.isQuery_encodePair _) h hu hu',
    ← Url.Form.toList_encodePairs_singleton, String.ofList_toList]

/-- The address of the sign-in page with the place to come back to. The place is the only parameter of
    the address, whatever its text is, and two places have two addresses. On every origin, the address is
    that of the sign-in page with this parameter. -/
theorem redirectToLogin_location (target : String) :
    ∃ query, (redirectToLogin target).location? = some ("/login?" ++ query) ∧
      (∀ c ∈ query.toList, c.isAlphanum = true ∨ c ∈ "*-._+%=".toList) ∧
      Url.Form.decodePairs query = [("redirect", target)] ∧
      (∀ target', (redirectToLogin target).location? = (redirectToLogin target').location? →
        target = target') ∧
      ∀ (origin : String) (u : Url), Url.parse (origin ++ "/login") = .ok u → u.query = none →
        u.fragment = none →
        Url.parse (origin ++ ("/login?" ++ query)) = .ok { u with query := some query } := by
  refine ⟨Url.Form.encodePairs [("redirect", target)], location?_eq target, ?_,
    Url.Form.decodePairs_encodePairs _, fun _ => eq_of_location?_eq,
    fun _ _ h hu hu' => parse_append_location h hu hu' target⟩
  intro c hc
  rw [Url.Form.toList_encodePairs_singleton] at hc
  rcases Url.Form.isFormChar_encodePair _ c hc with (halphanum | hmark) | rfl
  · exact .inl halphanum
  · exact .inr (List.mem_append_left _ hmark)
  · exact .inr (by decide)

/-- A place that looks like more parameters, a fragment and another path. -/
theorem redirectToLogin_location_orders :
    ∃ query, (redirectToLogin "/orders?page=2&redirect=/x#ä").location? = some ("/login?" ++ query) ∧
      Url.Form.decodePairs query = [("redirect", "/orders?page=2&redirect=/x#ä")] ∧
      Url.parse ("http://shop.example" ++ ("/login?" ++ query)) =
        .ok ⟨"http", some { host := .domain "shop.example" }, .rooted ["login"], some query, none⟩ := by
  have hparse : Url.parse ("http://shop.example" ++ "/login") =
      .ok ⟨"http", some { host := .domain "shop.example" }, .rooted ["login"], none, none⟩ := by
    decide +kernel
  obtain ⟨query, hlocation, -, hpairs, -, horigin⟩ :=
    redirectToLogin_location "/orders?page=2&redirect=/x#ä"
  exact ⟨query, hlocation, hpairs, horigin _ _ hparse rfl rfl⟩

end Access

end ShopClient
