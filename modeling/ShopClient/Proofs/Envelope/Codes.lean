import ShopClient.Proofs.Envelope.Body
import ShopClient.Proofs.Text.JsonPlaces

/-!
# Codes of any size

The code of an envelope may be any integer, as far as its text goes. A reader keeps integers of at
most 64 bits, and a code is one of those that fit 64 bits with a sign. What is beyond them is no
code, and so the object that has it is no envelope, but a bare payload, which nothing refuses: the
request counts as carried out, as it does for a code of success. A body that has an integer beyond
binary64 in it is not even read, and passes as a text.

* `code?_of_holdsInteger`: of an integer that is written in a body, what is left is a code or
  nothing;
* `payload_of_integer`: which integers refuse a request;
* `failure_beyond_int64`: two that should, and do not.
-/

namespace ShopClient.Envelope

open Json

variable {body : Text.Bytes} {n : Int} {v : Value} {place : List Char}

/-- What is written at `place`, and read as `v`, is the integer `n`, of any size: a literal, or a
    string that holds the integer. -/
inductive HoldsInteger (n : Int) : Value → List Char → Prop
  | literal {v : Value} {u : List Char} : EndsNumber u → HoldsInteger n v (intChars n ++ u)
  | minusZero {v : Value} {u : List Char} : n = 0 → EndsNumber u → HoldsInteger n v ('-' :: '0' :: u)
  | text {s : String} {place : List Char} :
    Decimal.integer? (Text.trimChars s.toList) = some n → HoldsInteger n (.string s) place

/-- Of an integer that is written in a body, what is left is the code that it is, if it is one.
    Minus zero is none. -/
theorem code?_of_holdsInteger {depth : Nat} (h : HoldsInteger n v place)
    (hread : IsReadAt (value depth) (v, place)) :
    code? v = Decimal.int64? n ∨ n = 0 ∧ code? v = none := by
  cases h with
  | @literal v u hu =>
    left
    obtain ⟨c, cs, hc, hfirst⟩ := exists_intChars_eq n
    rw [hc, List.cons_append] at hread
    obtain ⟨x, rest, hx, rfl⟩ := exists_number_of_isReadAt hread hfirst
    rw [← List.cons_append, ← hc] at hx
    -- A literal of more than 64 bits leaves a binary64 number, which is no code.
    by_cases hwhole : IsWhole n
    · rw [((reads_number hwhole hu).unique hx).1.symm]
      rfl
    · obtain ⟨y, rfl⟩ := eq_real_of_reads_number hwhole hu hx
      have hbeyond : Decimal.int64? n = none := by
        simp only [Decimal.int64?_eq_none_iff, IsWhole] at hwhole ⊢
        omega
      rw [hbeyond]
      rfl
  | @minusZero v u hn hu =>
    right
    obtain ⟨x, rest, hx, rfl⟩ := exists_number_of_isReadAt hread (.inl rfl)
    obtain ⟨y, rfl⟩ := eq_real_of_reads_minus_zero hu hx
    exact ⟨hn, rfl⟩
  | text hs => exact .inl (by rw [code?, hs, Option.bind_some])

/-- An object without a code is passed on as it is, and one with a code is an envelope. -/
theorem ofBytes_of_code? {ms : List (String × Value)} (hparse : parseBytes? body = some (.object ms))
    (hcode : Keyed.get? "code" ms = some v) :
    (code? v = none → ofBytes body = .raw (.object ms)) ∧
      ∀ code, code? v = some code → ∃ msg data, ofBytes body = .enveloped code msg data := by
  have hmember : ((Value.object ms).member? "code").bind code? = code? v := by
    rw [Value.member?, hcode, Option.bind_some]
  rw [ofBytes_of_parse hparse, classify, hmember]
  constructor
  · intro hnone
    rw [hnone]
  · intro code hsome
    rw [hsome]
    exact ⟨_, _, rfl⟩

/-- Only the codes of success carry a payload. -/
theorem exists_payload_enveloped_iff (code : Int64) (msg : String) (data : Value) :
    (∃ w, (enveloped code msg data).payload = .ok w) ↔ code.toInt = 0 ∨ code.toInt = 200 := by
  have hzero : code = 0 ↔ code.toInt = 0 := Int64.toInt_inj.symm
  have hsuccess : code = 200 ↔ code.toInt = 200 := Int64.toInt_inj.symm
  rw [payload_enveloped, ← hzero, ← hsuccess]
  split
  · rename_i h
    exact iff_of_true ⟨data, rfl⟩ h
  · rename_i h
    exact iff_of_false (fun ⟨_, hw⟩ => by cases hw) h

/-- What is refused, is refused with the code and a message. -/
theorem eq_business_of_payload {code : Int64} {msg : String} {data : Value} {e : SessionError}
    (h : (enveloped code msg data).payload = .error e) : ∃ m, m ≠ "" ∧ e = .business code m := by
  rw [payload_enveloped] at h
  split at h
  · cases h
  · refine ⟨_, ?_, (Except.error.inj h).symm⟩
    split
    · decide
    · assumption

/-- A body with an integer as its code passes, if the integer is a code of success or does not fit
    64 bits with a sign; in the second case the whole object is the payload. A body that is not even
    read passes as a text. -/
theorem payload_of_integer (body : Text.Bytes) :
    (∀ n v place, HasMemberAt body "code" v place → HoldsInteger n v place →
      ((∃ w, (ofBytes body).payload = .ok w) ↔
        n = 0 ∨ n = 200 ∨ n < -9223372036854775808 ∨ 9223372036854775807 < n) ∧
      (∀ e, (ofBytes body).payload = .error e →
        ∃ code m, code.toInt = n ∧ m ≠ "" ∧ e = .business code m) ∧
      (n < -9223372036854775808 ∨ 9223372036854775807 < n →
        ∃ w, parseBytes? body = some w ∧ (ofBytes body).payload = .ok w)) ∧
    (parseBytes? body = none → (ofBytes body).payload =
      .ok (if body.all Text.isBlankByte then .null else .string (Text.Utf8.decodeLossy body))) := by
  constructor
  · intro n v place hmember hinteger
    obtain ⟨ms, hparse, hget⟩ := exists_hasMemberAt_iff.1 ⟨place, hmember⟩
    obtain ⟨hraw, henveloped⟩ := ofBytes_of_code? hparse hget
    have hpasses (hnone : code? v = none) : (ofBytes body).payload = .ok (.object ms) := by
      rw [hraw hnone]
      rfl
    rw [← Decimal.int64?_eq_none_iff]
    -- Minus zero is no code; it passes all the same, as zero does.
    obtain hcode | ⟨rfl, hnone⟩ := code?_of_holdsInteger hinteger hmember.isReadAt
    · cases hn : Decimal.int64? n with
      | none =>
        have hpayload := hpasses (hcode.trans hn)
        refine ⟨iff_of_true ⟨_, hpayload⟩ (.inr (.inr rfl)), ?_, fun _ => ⟨_, hparse, hpayload⟩⟩
        intro e he
        cases hpayload.symm.trans he
      | some code =>
        obtain ⟨msg, data, hbody⟩ := henveloped code (hcode.trans hn)
        obtain rfl := Decimal.int64?_eq_some_iff.1 hn
        rw [hbody]
        refine ⟨?_, ?_, fun hnone => by cases hnone⟩
        · rw [exists_payload_enveloped_iff]
          simp
        · intro e he
          obtain ⟨m, hm, rfl⟩ := eq_business_of_payload he
          exact ⟨code, m, rfl, hm, rfl⟩
    · have hpayload := hpasses hnone
      refine ⟨iff_of_true ⟨_, hpayload⟩ (.inl rfl), ?_, fun _ => ⟨_, hparse, hpayload⟩⟩
      intro e he
      cases hpayload.symm.trans he
  · intro hnone
    rw [ofBytes, hnone]
    split
    · rfl
    · rfl

/-- The payload is refused, if the code is neither of success nor beyond 64 bits. -/
theorem payload_of_integer_refused :
    HasMemberAt (Text.Utf8.encode "\x7b\"code\":\" +30002 \"\x7d") "code" (.string " +30002 ")
        "\" +30002 \"\x7d".toList ∧
      HoldsInteger 30002 (.string " +30002 ") "\" +30002 \"\x7d".toList ∧
      ¬(∃ w, (ofBytes (Text.Utf8.encode "\x7b\"code\":\" +30002 \"\x7d")).payload = .ok w) := by
  have hprint : (Value.object [("code", .string " +30002 ")]).print =
      "\x7b\"code\":\" +30002 \"\x7d" := by decide +kernel
  have hmember : HasMemberAt (Text.Utf8.encode "\x7b\"code\":\" +30002 \"\x7d") "code"
      (.string " +30002 ") "\" +30002 \"\x7d".toList := hprint ▸ hasMemberAt_print (.string _) "code"
  have hinteger : HoldsInteger 30002 (.string " +30002 ") "\" +30002 \"\x7d".toList :=
    .text (by decide +kernel)
  refine ⟨hmember, hinteger, ?_⟩
  rw [((payload_of_integer _).1 _ _ _ hmember hinteger).1]
  decide

/-- An object of which the code is none is its own payload. -/
theorem payload_print_of_code? {v : Value} (hplain : v.IsPlain 126) (hnone : code? v.ordered = none) :
    (ofBytes (Text.Utf8.encode (Value.object [("code", v)]).print)).payload =
      .ok (.object [("code", v.ordered)]) := by
  have hobject : (Value.object [("code", v)]).IsPlain depthLimit :=
    .object (List.forall_mem_singleton.2 hplain)
  have hget : Keyed.get? "code" [("code", v.ordered)] = some v.ordered := by simp [Keyed.get?]
  rw [(ofBytes_of_code? (parseBytes?_print hobject) hget).1 hnone]
  rfl

/-- A literal beyond 64 bits, and a text that holds one, are no codes, and what should be a refusal
    is a payload. -/
theorem failure_beyond_int64 :
    (HasMemberAt (Text.Utf8.encode "\x7b\"code\":9223372036854775808\x7d") "code"
        (.int 9223372036854775808) "9223372036854775808\x7d".toList ∧
      HoldsInteger 9223372036854775808 (.int 9223372036854775808) "9223372036854775808\x7d".toList ∧
      (ofBytes (Text.Utf8.encode "\x7b\"code\":9223372036854775808\x7d")).payload =
        .ok (.object [("code", .int 9223372036854775808)])) ∧
    HasMemberAt (Text.Utf8.encode "\x7b\"code\":\"-99999999999999999999\"\x7d") "code"
        (.string "-99999999999999999999") "\"-99999999999999999999\"\x7d".toList ∧
      HoldsInteger (-99999999999999999999) (.string "-99999999999999999999")
        "\"-99999999999999999999\"\x7d".toList ∧
      (ofBytes (Text.Utf8.encode "\x7b\"code\":\"-99999999999999999999\"\x7d")).payload =
        .ok (.object [("code", .string "-99999999999999999999")]) := by
  have hnumber : (Value.object [("code", .int 9223372036854775808)]).print =
      "\x7b\"code\":9223372036854775808\x7d" := by decide +kernel
  have htext : (Value.object [("code", .string "-99999999999999999999")]).print =
      "\x7b\"code\":\"-99999999999999999999\"\x7d" := by decide +kernel
  have hplain : (Value.int 9223372036854775808).IsPlain 126 := .int (by decide)
  have hplain' : (Value.string "-99999999999999999999").IsPlain 126 := .string _
  have hbeyond : code? (.int 9223372036854775808) = none :=
    Decimal.int64?_eq_none_iff.2 (by decide)
  have hinteger : Decimal.integer? (Text.trimChars "-99999999999999999999".toList) =
      some (-99999999999999999999) := by decide +kernel
  have hbeyond' : code? (.string "-99999999999999999999") = none := by
    rw [code?, hinteger, Option.bind_some, Decimal.int64?_eq_none_iff]
    decide
  rw [← hnumber, ← htext]
  refine ⟨⟨hasMemberAt_print hplain "code", .literal (u := ['\x7d']) ⟨rfl, rfl⟩,
    payload_print_of_code? hplain hbeyond⟩, ?_, .text hinteger,
    payload_print_of_code? hplain' hbeyond'⟩
  exact hasMemberAt_print hplain' "code"

end ShopClient.Envelope
