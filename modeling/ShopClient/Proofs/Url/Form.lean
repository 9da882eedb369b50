import ShopClient.Proofs.Text.Utf8
import ShopClient.Url.Form
import Mathlib.Data.List.Basic

/-!
# Pairs in a form

Every text can stand in a form. What would end a pair, or its name, is encoded, so that the pairs of a
form are found where they were put, and each part is read back byte by byte.

* `percentDecode_append`: encoded bytes are read piece by piece, as long as no piece starts with a digit;
* `Form.decode_encode`: a part of a pair is read back;
* `Form.decodePairs_encodePairs`: so are all pairs of a form;
* `Form.decodePairs_append`: and the pairs of two forms, one after the other.
-/

namespace ShopClient.Url

variable {b d d' : UInt8} {bs bs' : Text.Bytes} {c : Char} {cs : List Char}

/-! ### Encoded bytes -/

/-- A byte stands for itself, unless it is a percent sign before two digits. -/
theorem percentDecode_cons
    (h : b = 0x25 → ∀ d d' rest, bs = d :: d' :: rest → hexDigit? d = none ∨ hexDigit? d' = none) :
    percentDecode (b :: bs) = b :: percentDecode bs := by
  rcases bs with _ | ⟨d, _ | ⟨d', rest⟩⟩
  · rfl
  · rfl
  · rw [percentDecode]
    by_cases hb : b = 0x25
    · rcases h hb d d' rest rfl with hd | hd' <;> simp [*]
    · simp [hb]

theorem percentDecode_cons_of_ne (h : b ≠ 0x25) (bs : Text.Bytes) :
    percentDecode (b :: bs) = b :: percentDecode bs :=
  percentDecode_cons fun hb => absurd hb h

/-- Bytes without a percent sign stand for themselves. -/
theorem percentDecode_append_of_forall_ne (h : ∀ b ∈ bs, b ≠ 0x25) (bs' : Text.Bytes) :
    percentDecode (bs ++ bs') = bs ++ percentDecode bs' := by
  induction bs with
  | nil => rfl
  | cons b bs ih =>
    rw [List.forall_mem_cons] at h
    rw [List.cons_append, percentDecode_cons_of_ne h.1, ih h.2, List.cons_append]

/-- A percent sign and two digits stand for one byte. -/
theorem percentDecode_escape {m n : Nat} (hd : hexDigit? d = some m) (hd' : hexDigit? d' = some n)
    (bs : Text.Bytes) :
    percentDecode (0x25 :: d :: d' :: bs) = .ofNat (m * 16 + n) :: percentDecode bs := by
  simp [percentDecode, hd, hd']

/-- Encoded bytes are read piece by piece. Only a digit could belong to a percent sign before it. -/
theorem percentDecode_append (bs : Text.Bytes) (h : ∀ d ∈ bs'.head?, hexDigit? d = none) :
    percentDecode (bs ++ bs') = percentDecode bs ++ percentDecode bs' := by
  induction bs using percentDecode.induct with
  | case1 => rfl
  | case2 b =>
    refine percentDecode_cons fun _ d d' rest hbs' => .inl ?_
    obtain rfl : bs' = d :: d' :: rest := hbs'
    exact h d rfl
  | case3 b c =>
    have hrest : percentDecode (c :: bs') = c :: percentDecode bs' := by
      refine percentDecode_cons fun _ d d' rest hbs' => .inl ?_
      subst hbs'
      exact h d rfl
    change percentDecode (b :: c :: bs') = b :: c :: percentDecode bs'
    rw [percentDecode_cons, hrest]
    intro _ d d' rest hbs'
    obtain ⟨-, rfl⟩ := List.cons.inj hbs'
    exact .inr (h d' rfl)
  | case4 b d d' rest m n hd' hd hb ih =>
    obtain rfl := eq_of_beq hb
    simp only [List.cons_append]
    rw [percentDecode_escape hd hd', percentDecode_escape hd hd', ih]
    rfl
  | case5 b d d' rest hplain ih =>
    have hnone : b = 0x25 → hexDigit? d = none ∨ hexDigit? d' = none := by
      rintro rfl
      rw [Option.eq_none_iff_forall_ne_some, Option.eq_none_iff_forall_ne_some]
      by_contra! hsome
      obtain ⟨⟨m, hm⟩, n, hn⟩ := hsome
      exact hplain m n rfl hm hn
    have hcons (tail : Text.Bytes) :
        percentDecode (b :: d :: d' :: tail) = b :: percentDecode (d :: d' :: tail) := by
      refine percentDecode_cons fun hb e e' tail' heq => ?_
      obtain ⟨rfl, hrest⟩ := List.cons.inj heq
      obtain ⟨rfl, -⟩ := List.cons.inj hrest
      exact hnone hb
    rw [hcons]
    exact (hcons (rest ++ bs')).trans (congrArg (List.cons b) ih)

/-- The digits of an encoded byte are read. -/
theorem hexDigit?_upperHex : ∀ n < 16, hexDigit? (.ofNat (upperHex n).toNat) = some n := by
  decide

theorem isAlphanum_upperHex : ∀ n < 16, (upperHex n).isAlphanum = true := by
  decide

theorem toNat_lt_of_isAlphanum (h : c.isAlphanum = true) : c.toNat < 0x80 := by
  have hle {d : Char} (hd : c.val ≤ d.val) (hlt : d.toNat < 0x80) : c.toNat < 0x80 :=
    Nat.lt_of_le_of_lt (UInt32.le_iff_toNat_le.1 hd) hlt
  have hkinds : (c.isUpper || c.isLower || c.isDigit) = true := h
  rw [Bool.or_eq_true, Bool.or_eq_true] at hkinds
  rcases hkinds with (hupper | hlower) | hdigit
  · have hrange : c.val ≥ 'A'.val ∧ c.val ≤ 'Z'.val := of_decide_eq_true hupper
    exact hle hrange.2 (by decide)
  · have hrange : decide (c.val ≤ 'z'.val) = true := (Bool.and_eq_true_iff.1 hlower).2
    exact hle (of_decide_eq_true hrange) (by decide)
  · have hrange : decide (c.val ≤ '9'.val) = true := (Bool.and_eq_true_iff.1 hdigit).2
    exact hle (of_decide_eq_true hrange) (by decide)

/-- ASCII characters are one byte each. -/
theorem encodeChar_of_lt (h : c.toNat < 0x80) : Text.Utf8.encodeChar c = [.ofNat c.toNat] := by
  rw [Text.Utf8.encodeChar, if_pos h]

/-- What holds of each character of a closed text is evaluated character by character. -/
theorem forall_mem_of_all {P : Char → Prop} [DecidablePred P]
    (h : (cs.all fun c => decide (P c)) = true) : ∀ c ∈ cs, P c := fun c hc =>
  of_decide_eq_true (List.all_eq_true.1 h c hc)

theorem toNat_ofNat_byte (b : UInt8) : (Char.ofNat b.toNat).toNat = b.toNat := by
  have hlt := b.toNat_lt
  rw [Char.ofNat, dif_pos (Or.inl (by omega))]
  rfl

namespace Form

variable {p : String × String} {ps : List (String × String)}

/-! ### Parts of a pair -/

/-- The bytes of a character in a form, where a plus sign is a space. -/
def charBytes (c : Char) : Text.Bytes := Text.Utf8.encodeChar (if c == '+' then ' ' else c)

theorem decode_eq (cs : List Char) :
    decode cs = Text.Utf8.decodeLossy (percentDecode (cs.flatMap charBytes)) := by
  rw [decode, Text.Utf8.encode, String.toList_ofList, List.flatMap_map]
  rfl

theorem charBytes_of_ne (h : c ≠ '+') : charBytes c = Text.Utf8.encodeChar c := by
  rw [charBytes, if_neg (mt eq_of_beq h)]

theorem charBytes_of_isAlphanum (h : c.isAlphanum = true) : charBytes c = [.ofNat c.toNat] := by
  have hne : c ≠ '+' := by
    rintro rfl
    exact absurd h (by decide)
  rw [charBytes_of_ne hne, encodeChar_of_lt (toNat_lt_of_isAlphanum h)]

/-- A byte in percent encoding is read back. -/
theorem percentDecode_percentByte (b : UInt8) (bs : Text.Bytes) :
    percentDecode ((percentByte b).flatMap charBytes ++ bs) = b :: percentDecode bs := by
  have hlt := b.toNat_lt
  have hhigh : b.toNat / 16 < 16 := by omega
  have hlow : b.toNat % 16 < 16 := by omega
  have hbyte : b.toNat / 16 * 16 + b.toNat % 16 = b.toNat := by omega
  have hsign : charBytes '%' = [0x25] := rfl
  simp only [percentByte, List.flatMap_cons, List.flatMap_nil, hsign,
    charBytes_of_isAlphanum (isAlphanum_upperHex _ hhigh),
    charBytes_of_isAlphanum (isAlphanum_upperHex _ hlow)]
  change percentDecode (0x25 :: _ :: _ :: bs) = _
  rw [percentDecode_escape (hexDigit?_upperHex _ hhigh) (hexDigit?_upperHex _ hlow), hbyte,
    UInt8.ofNat_toNat]

/-- The characters of an encoded byte. -/
def IsFormChar (c : Char) : Prop := c.isAlphanum = true ∨ c ∈ "*-._+%".toList

theorem toNat_lt_of_isFormChar (h : IsFormChar c) : c.toNat < 0x80 := by
  rcases h with halphanum | hmark
  · exact toNat_lt_of_isAlphanum halphanum
  · have hmarks : ∀ c ∈ "*-._+%".toList, c.toNat < 0x80 := forall_mem_of_all (by decide)
    exact hmarks c hmark

theorem isFormChar_of_isPlain (h : isPlain b = true) : IsFormChar (Char.ofNat b.toNat) := by
  simp only [isPlain, Bool.or_eq_true, beq_iff_eq] at h
  rcases h with (((halphanum | hmark) | hmark) | hmark) | hmark
  · exact .inl halphanum
  all_goals
    rw [hmark]
    exact .inr (by decide)

theorem isFormChar_percentByte : ∀ c ∈ percentByte b, IsFormChar c := by
  have hlt := b.toNat_lt
  intro c hc
  simp only [percentByte, List.mem_cons, List.not_mem_nil, or_false] at hc
  rcases hc with rfl | rfl | rfl
  · exact .inr (by decide)
  · exact .inl (isAlphanum_upperHex _ (by omega))
  · exact .inl (isAlphanum_upperHex _ (by omega))

theorem isFormChar_encodeByte : ∀ c ∈ encodeByte b, IsFormChar c := by
  intro c hc
  rw [encodeByte] at hc
  split at hc
  next hplain =>
    obtain rfl := List.mem_singleton.1 hc
    exact isFormChar_of_isPlain hplain
  next =>
    split at hc
    · obtain rfl := List.mem_singleton.1 hc
      exact .inr (by decide)
    · exact isFormChar_percentByte c hc

theorem isFormChar_encode (s : String) : ∀ c ∈ encode s, IsFormChar c := by
  intro c hc
  obtain ⟨b, -, hb⟩ := List.mem_flatMap.1 hc
  exact isFormChar_encodeByte c hb

/-- An encoded byte is read back. -/
theorem percentDecode_encodeByte (b : UInt8) (bs : Text.Bytes) :
    percentDecode ((encodeByte b).flatMap charBytes ++ bs) = b :: percentDecode bs := by
  rw [encodeByte]
  split
  next hplain =>
    -- A plain byte is no percent sign, and as a character no plus sign.
    have hsign : b ≠ 0x25 := by
      rintro rfl
      exact absurd hplain (by decide)
    have hplus : Char.ofNat b.toNat ≠ '+' := by
      intro hplus
      rw [isPlain, hplus] at hplain
      exact absurd hplain (by decide)
    have hlt : (Char.ofNat b.toNat).toNat < 0x80 :=
      toNat_lt_of_isFormChar (isFormChar_of_isPlain hplain)
    rw [List.flatMap_singleton, charBytes_of_ne hplus, encodeChar_of_lt hlt, toNat_ofNat_byte,
      UInt8.ofNat_toNat]
    exact percentDecode_cons_of_ne hsign bs
  next =>
    split
    next hspace =>
      obtain rfl := eq_of_beq hspace
      exact percentDecode_cons_of_ne (by decide) bs
    next => exact percentDecode_percentByte b bs

/-- A text in a form is read back. -/
theorem decode_encode (s : String) : decode (encode s) = s := by
  have hbytes (bs : Text.Bytes) :
      percentDecode ((bs.flatMap encodeByte).flatMap charBytes) = bs := by
    induction bs with
    | nil => rfl
    | cons b bs ih => rw [List.flatMap_cons, List.flatMap_append, percentDecode_encodeByte, ih]
  rw [decode_eq, encode, hbytes]
  exact Text.Utf8.decodeLossy_eq_of_decode? (Text.Utf8.decode?_encode s)

/-! ### Pairs -/

/-- Neither separator stands in an encoded text. -/
theorem not_mem_encode (s : String) : '&' ∉ encode s ∧ '=' ∉ encode s := by
  have hsign {c : Char} (hc : ¬IsFormChar c) : c ∉ encode s := mt (isFormChar_encode s c) hc
  exact ⟨hsign (by unfold IsFormChar; decide), hsign (by unfold IsFormChar; decide)⟩

theorem not_mem_encodePair (p : String × String) : '&' ∉ encodePair p := by
  rw [encodePair, List.mem_append, List.mem_cons]
  rintro (hname | hsign | hvalue)
  · exact (not_mem_encode p.1).1 hname
  · exact absurd hsign (by decide)
  · exact (not_mem_encode p.2).1 hvalue

/-- A pair is read back. -/
theorem decodePair_encodePair (p : String × String) : decodePair (encodePair p) = p := by
  have hname : ∀ c ∈ encode p.1, (c != '=') = true := by
    intro c hc
    rw [bne_iff_ne]
    rintro rfl
    exact (not_mem_encode p.1).2 hc
  rw [decodePair, encodePair, List.takeWhile_append_of_pos hname, List.dropWhile_append_of_pos hname]
  simp only [bne_self_eq_false, Bool.false_eq_true, not_false_eq_true, List.takeWhile_cons_of_neg,
    List.dropWhile_cons_of_neg, List.append_nil, List.drop_one, List.tail_cons, decode_encode]

/-- The pairs of a form are read back. -/
theorem decodePairs_encodePairs (ps : List (String × String)) : decodePairs (encodePairs ps) = ps := by
  rcases ps with _ | ⟨p, ps⟩
  · rfl
  · have hnone : ∀ cs ∈ (p :: ps).map encodePair, '&' ∉ cs := by
      intro cs hcs
      obtain ⟨q, -, rfl⟩ := List.mem_map.1 hcs
      exact not_mem_encodePair q
    have hall : ∀ cs ∈ (p :: ps).map encodePair, (!cs.isEmpty) = true := by
      intro cs hcs
      obtain ⟨q, -, rfl⟩ := List.mem_map.1 hcs
      simp [encodePair]
    have hpair : decodePair ∘ encodePair = id := funext decodePair_encodePair
    rw [decodePairs, encodePairs, String.toList_ofList,
      List.splitOn_intercalate '&' hnone (List.cons_ne_nil _ _), List.filter_eq_self.2 hall,
      List.map_map, hpair, List.map_id]

/-- The pairs of two forms, one after the other, are those of the first and those of the second. -/
theorem decodePairs_append (q q' : String) :
    decodePairs (q ++ "&" ++ q') = decodePairs q ++ decodePairs q' := by
  have hchars : (q ++ "&" ++ q').toList = q.toList ++ '&' :: q'.toList := by
    rw [String.toList_append, String.toList_append, List.append_assoc]
    rfl
  rw [decodePairs, hchars, List.splitOn_append_cons_self, List.filter_append, List.map_append]
  rfl

end Form

end ShopClient.Url
