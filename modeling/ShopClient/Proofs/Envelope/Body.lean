import ShopClient.Envelope
import ShopClient.Proofs.Text.Blank
import ShopClient.Proofs.Text.JsonValue

/-!
# Bodies and codes

What a body that stands for a value is classified as, and which values stand for a code.

A body of blanks alone stands for no value; so it makes no difference that such bodies are told
apart before a reader looks at them (`ofBytes_of_parse`). A code is an integer of 64 bits with a
sign. A number stands for the code that it is, and a text for the one it holds, whatever blanks are
around it.

* `ofBytes_of_parse`: a body that stands for a value is classified as the value is;
* `payload_enveloped`: which codes refuse a request, and with what message;
* `int64?_eq_some_iff`, `int64?_eq_none_iff`: the integers that are codes, and those that are none;
* `integer?_trimChars`: the decimal text of an integer holds it, also with blanks around it.
-/

namespace ShopClient

open Json

/-! ### Bodies -/

theorem toNat_lt_of_isBlankByte {b : UInt8} (h : Text.isBlankByte b = true) : b.toNat < 0x80 := by
  simp only [Text.isBlankByte, Bool.or_eq_true, beq_iff_eq] at h
  rcases h with (((rfl | rfl) | rfl) | rfl) | rfl <;> decide

/-- A blank byte is a blank between the parts of a text, or a form feed, with which nothing starts.
    -/
theorem isSpace_of_isBlankByte {b : UInt8} (h : Text.isBlankByte b = true) :
    isSpace (Char.ofNat b.toNat) = true ∨ Char.ofNat b.toNat = '\x0c' := by
  simp only [Text.isBlankByte, Bool.or_eq_true, beq_iff_eq] at h
  rcases h with (((rfl | rfl) | rfl) | rfl) | rfl <;> decide

/-- Blanks alone stand for no value. -/
theorem parseBytes?_of_blank {body : Text.Bytes} (h : body.all Text.isBlankByte = true) :
    parseBytes? body = none := by
  rw [List.all_eq_true] at h
  by_contra hsome
  obtain ⟨v, hv⟩ := Option.ne_none_iff_exists'.1 hsome
  obtain ⟨text, rest, htext, hread, -⟩ := parseBytes?_eq_some_iff.1 hv
  have hlevel : Reads (level (some (value 126))) text.toList v rest := hread
  obtain ⟨c, r, hskip⟩ := exists_skipSpace_eq hlevel
  rw [Text.Utf8.decode?_of_ascii fun b hb => toNat_lt_of_isBlankByte (h b hb)] at htext
  obtain rfl := Option.some.inj htext
  rw [String.toList_ofList] at hskip hlevel
  -- The first character that is not passed over is one of the body.
  have hmem : c ∈ skipSpace (body.map fun b => Char.ofNat b.toNat) := hskip ▸ List.mem_cons_self
  obtain ⟨b, hb, rfl⟩ := List.mem_map.1 ((List.dropWhile_suffix _).subset hmem)
  rcases isSpace_of_isBlankByte (h b hb) with hspace | hfeed
  · exact absurd hspace (Bool.eq_false_iff.1 (isSpace_of_skipSpace_eq hskip))
  · rw [hfeed] at hskip
    simpa [readsFrom_iff] using (reads_level_iff hskip).1 hlevel

/-- A body that stands for a value is classified as the value is. -/
theorem Envelope.ofBytes_of_parse {body : Text.Bytes} {v : Value} (h : parseBytes? body = some v) :
    ofBytes body = classify v := by
  have hblank : ¬body.all Text.isBlankByte = true := by
    intro hblank
    rw [parseBytes?_of_blank hblank] at h
    cases h
  rw [ofBytes, if_neg hblank, h]

/-- Which codes refuse a request, and with what message. -/
theorem Envelope.payload_enveloped (code : Int64) (msg : String) (data : Value) :
    (enveloped code msg data).payload = if code = 0 ∨ code = 200 then .ok data
      else .error (.business code (if msg = "" then defaultMessage else msg)) := by
  simp [payload, successCodes]

/-! ### Codes -/

theorem isBlank_of_isDigit {c : Char} (h : c.isDigit = true) : Text.isBlank c = false := by
  simp only [Char.isDigit, Bool.and_eq_true, decide_eq_true_eq, ge_iff_le] at h
  have hlow : 48 ≤ c.toNat := h.1
  have hhigh : c.toNat ≤ 57 := h.2
  by_contra hblank
  simp only [Text.isBlank, Bool.not_eq_false, Bool.or_eq_true, Bool.and_eq_true, decide_eq_true_eq,
    beq_iff_eq] at hblank
  omega

theorem isBlank_of_mem_intChars {c : Char} {n : Int} (h : c ∈ intChars n) :
    Text.isBlank c = false := by
  rw [intChars] at h
  have hdigit : c ∈ Nat.toDigits 10 n.natAbs → Text.isBlank c = false := fun hc =>
    isBlank_of_isDigit (Nat.isDigit_of_mem_toDigits (by decide) (by decide) hc)
  split at h
  · rcases List.mem_cons.1 h with rfl | hc
    · decide
    · exact hdigit hc
  · exact hdigit h

namespace Decimal

theorem int64?_eq_some_iff {n : Int} {code : Int64} : int64? n = some code ↔ code.toInt = n := by
  rw [int64?]
  split
  · rename_i h
    rw [Option.some.injEq]
    constructor
    · rintro rfl
      rw [Int64.toInt_maxValue] at h
      exact Int64.toInt_ofInt_of_le h.1 (by omega)
    · rintro rfl
      exact Int64.ofInt_toInt code
  · rename_i h
    refine iff_of_false (fun hnone => by cases hnone) ?_
    rintro rfl
    exact h ⟨Int64.minValue_le_toInt code, Int64.toInt_le code⟩

theorem int64?_eq_none_iff {n : Int} :
    int64? n = none ↔ n < -9223372036854775808 ∨ 9223372036854775807 < n := by
  rw [int64?, Int64.toInt_minValue, Int64.toInt_maxValue]
  split
  · refine iff_of_false (fun h => by cases h) ?_
    omega
  · refine iff_of_true rfl ?_
    omega

theorem natural?_toDigits (m : Nat) : natural? (Nat.toDigits 10 m) = some m := by
  have hdigits : ∀ c ∈ Nat.toDigits 10 m, c.isDigit = true :=
    fun c hc => Nat.isDigit_of_mem_toDigits (by decide) (by decide) hc
  have hnumber : Text.numberIn 10 (Nat.toDigits 10 m) = Nat.ofDigitChars 10 (Nat.toDigits 10 m) 0 := by
    refine List.foldl_ext _ _ 0 fun n c hc => ?_
    rw [Text.hexValue?, if_pos (hdigits c hc), Nat.mul_comm]
    rfl
  have hwritten : ¬((Nat.toDigits 10 m).isEmpty || !(Nat.toDigits 10 m).all Char.isDigit) = true := by
    simpa [Nat.toDigits_ne_nil] using hdigits
  rw [natural?, if_neg hwritten, hnumber, Nat.ofDigitChars_ten_toDigits]

theorem integer?_intChars (n : Int) : integer? (intChars n) = some n := by
  rw [intChars]
  split
  · rename_i hn
    have hvalue : -(n.natAbs : Int) = n := by omega
    rw [integer?, natural?_toDigits]
    exact congrArg some hvalue
  · rename_i hn
    -- It starts with a digit, and so with no sign.
    have hunsigned : integer? (Nat.toDigits 10 n.natAbs) =
        (natural? (Nat.toDigits 10 n.natAbs)).map fun m => (m : Int) := by
      have hdigit : ∀ c cs, Nat.toDigits 10 n.natAbs = c :: cs → c.isDigit = true := by
        intro c cs hc
        exact Nat.isDigit_of_mem_toDigits (by decide) (by decide) (hc ▸ List.mem_cons_self)
      rw [integer?]
      · exact fun cs hc => by cases hdigit _ _ hc
      · exact fun cs hc => by cases hdigit _ _ hc
    have hvalue : (n.natAbs : Int) = n := by omega
    rw [hunsigned, natural?_toDigits]
    exact congrArg some hvalue

/-- The decimal text of an integer holds it, whatever blanks are around. -/
theorem integer?_trimChars {before after : List Char} (hbefore : ∀ c ∈ before, Text.isBlank c = true)
    (hafter : ∀ c ∈ after, Text.isBlank c = true) (n : Int) :
    integer? (Text.trimChars (before ++ intChars n ++ after)) = some n := by
  have htrim := Text.isTrim_of_forall fun c (hc : c ∈ intChars n) => isBlank_of_mem_intChars hc
  rw [Text.trimChars_append hbefore hafter htrim, integer?_intChars]

end Decimal

end ShopClient
