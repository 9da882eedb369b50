import ShopClient.Proofs.Envelope.Body

/-!
# Envelopes, read back

The compact text of an envelope is classified as this envelope, whatever its code, its message and
its data are: the members may come in any order and among any others, and the code may be written as
a text (`Wraps`). The text of any other value is a bare payload, namely that value.

The object of an envelope is one level deeper than its data, and a reader takes 127 levels; so the
data may be nested up to 126 levels.

* `ofBytes_print`: the text of an envelope, with the data as a reader has it;
* `round_trip`: what is read back, and the payload, for values in order, with and without an
  envelope.
-/

namespace ShopClient.Envelope

open Json

variable {code : Int64} {msg : String} {data : Value} {ms : List (String × Value)}

/-- The value is the code as a number, or as a text in decimal digits with any blanks around. -/
inductive WritesCode (code : Int64) : Value → Prop
  | number : WritesCode code (.int code.toInt)
  | text {before after : List Char} : (∀ c ∈ before, Text.isBlank c = true) →
    (∀ c ∈ after, Text.isBlank c = true) →
    WritesCode code (.string (String.ofList (before ++ intChars code.toInt ++ after)))

/-- The members of an envelope, in any order and among any others. -/
inductive Wraps (code : Int64) (msg : String) (data : Value) : List (String × Value) → Prop
  | intro {c : Value} {others members : List (String × Value)} : WritesCode code c →
    (∀ m ∈ others, m.1 ∉ ["code", "msg", "data"] ∧ m.2.IsPlain 126) →
    members.Perm (("code", c) :: ("msg", .string msg) :: ("data", data) :: others) →
    Wraps code msg data members

theorem WritesCode.isPlain {c : Value} (h : WritesCode code c) : c.IsPlain 126 := by
  cases h with
  | number =>
    have hlow := Int64.minValue_le_toInt code
    have hhigh := Int64.toInt_le code
    rw [Int64.toInt_minValue] at hlow
    rw [Int64.toInt_maxValue] at hhigh
    refine .int ⟨?_, ?_⟩ <;> omega
  | text => exact .string _

theorem WritesCode.code?_eq {c : Value} (h : WritesCode code c) : code? c.ordered = some code := by
  have hcode : Decimal.int64? code.toInt = some code := Decimal.int64?_eq_some_iff.2 rfl
  cases h with
  | number => exact hcode
  | text hbefore hafter =>
    rw [Value.ordered, code?, String.toList_ofList, Decimal.integer?_trimChars hbefore hafter,
      Option.bind_some, hcode]

theorem Wraps.isPlain (h : Wraps code msg data ms) (hdata : data.IsPlain 126) :
    (Value.object ms).IsPlain depthLimit := by
  obtain ⟨hcode, hothers, hperm⟩ := h
  refine .object fun m hm => ?_
  rw [hperm.mem_iff] at hm
  simp only [List.mem_cons] at hm
  rcases hm with rfl | rfl | rfl | hm
  · exact hcode.isPlain
  · exact .string msg
  · exact hdata
  · exact (hothers m hm).2

/-- Each of the three members of an envelope is the only one of its key. -/
theorem Wraps.member?_eq (h : Wraps code msg data ms) : ∃ c, WritesCode code c ∧
    (Value.object ms).ordered.member? "code" = some c.ordered ∧
    (Value.object ms).ordered.member? "msg" = some (.string msg) ∧
    (Value.object ms).ordered.member? "data" = some data.ordered := by
  obtain @⟨c, others, ms, hcode, hothers, hperm⟩ := h
  have hkeys (k : String) (hk : k ∈ ["code", "msg", "data"]) (w : Value) : (k, w) ∉ others :=
    fun hw => (hothers _ hw).1 hk
  refine ⟨c, hcode, member?_ordered ?_ ?_, member?_ordered (v := .string msg) ?_ ?_,
    member?_ordered ?_ ?_⟩
  all_goals simp [hperm.mem_iff, hkeys]

/-- The text of an envelope is classified as this envelope. -/
theorem ofBytes_print (h : Wraps code msg data ms) (hdata : data.IsPlain 126) :
    ofBytes (Text.Utf8.encode (Value.object ms).print) = .enveloped code msg data.ordered := by
  obtain ⟨c, hcode, hc, hmsg, hd⟩ := h.member?_eq
  rw [ofBytes_of_parse (parseBytes?_print (h.isPlain hdata)), classify, hc, Option.bind_some,
    hcode.code?_eq, hmsg, hd]
  rfl

/-- The text of an envelope is read back as this envelope, and its payload is the data, unless the
    code refuses the request. The text of a value without a code is read back as a bare payload. -/
theorem round_trip :
    (∀ (code : Int64) (msg : String) (data : Value) (ms : List (String × Value)),
      data.IsPlain 126 → data.IsOrdered → Wraps code msg data ms →
        ofBytes (Text.Utf8.encode (Value.object ms).print) = .enveloped code msg data ∧
        (ofBytes (Text.Utf8.encode (Value.object ms).print)).payload =
          if code = 0 ∨ code = 200 then .ok data
          else .error (.business code (if msg = "" then defaultMessage else msg))) ∧
    ∀ v : Value, v.IsPlain 126 → v.IsOrdered → v.member? "code" = none →
      ofBytes (Text.Utf8.encode v.print) = .raw v := by
  constructor
  · intro code msg data ms hdata hordered hwraps
    have henveloped := ofBytes_print hwraps hdata
    rw [hordered.ordered_eq] at henveloped
    exact ⟨henveloped, henveloped ▸ payload_enveloped code msg data⟩
  · intro v hplain hordered hcode
    have hparse := parseBytes?_print (hplain.mono (Nat.le_succ 126))
    rw [ofBytes_of_parse hparse, hordered.ordered_eq, classify, hcode]
    rfl

/-- A refusal with its members out of order and the code in a text with blanks around, and a bare
    payload. -/
theorem round_trip_refused :
    (Value.object [("a", .array [.int 18446744073709551615])]).IsPlain 126 ∧
      (Value.object [("a", .array [.int 18446744073709551615])]).IsOrdered ∧
      Wraps (-403) "" (.object [("a", .array [.int 18446744073709551615])])
        [("data", .object [("a", .array [.int 18446744073709551615])]), ("msg", .string ""),
          ("trace", .bool true), ("code", .string "\t-403\u00A0")] ∧
      (ofBytes (Text.Utf8.encode (Value.object
        [("data", .object [("a", .array [.int 18446744073709551615])]), ("msg", .string ""),
          ("trace", .bool true), ("code", .string "\t-403\u00A0")]).print)).payload =
        .error (.business (-403) "operation failed") ∧
      ofBytes (Text.Utf8.encode (Value.array [.int (-1)]).print) = .raw (.array [.int (-1)]) := by
  have hplain : (Value.object [("a", .array [.int 18446744073709551615])]).IsPlain 126 := by
    refine .object ?_
    rw [List.forall_mem_singleton]
    refine .array ?_
    rw [List.forall_mem_singleton]
    exact .int (by decide)
  have hordered : (Value.object [("a", .array [.int 18446744073709551615])]).IsOrdered := by
    refine .object (List.pairwise_singleton _ _) ?_
    rw [List.forall_mem_singleton]
    refine .array ?_
    rw [List.forall_mem_singleton]
    exact .number _
  have hwraps : Wraps (-403) "" (.object [("a", .array [.int 18446744073709551615])])
      [("data", .object [("a", .array [.int 18446744073709551615])]), ("msg", .string ""),
        ("trace", .bool true), ("code", .string "\t-403\u00A0")] := by
    have hcode : WritesCode (-403) (.string "\t-403\u00A0") :=
      @WritesCode.text (-403) ['\t'] ['\u00A0'] (List.forall_mem_singleton.2 rfl)
        (List.forall_mem_singleton.2 rfl)
    refine @Wraps.intro _ _ _ _ [("trace", .bool true)] _ hcode ?_ ?_
    · rw [List.forall_mem_singleton]
      exact ⟨by decide, .bool true⟩
    · refine (List.reverse_perm _).symm.trans ?_
      exact ((List.Perm.swap _ _ _).cons _).trans ((((List.Perm.swap _ _ _)).cons _).cons _)
  have harray : (Value.array [.int (-1)]).IsPlain 126 := by
    refine .array ?_
    rw [List.forall_mem_singleton]
    exact .int (by decide)
  have harrayOrdered : (Value.array [.int (-1)]).IsOrdered := by
    refine .array ?_
    rw [List.forall_mem_singleton]
    exact .number _
  refine ⟨hplain, hordered, hwraps, ?_, round_trip.2 _ harray harrayOrdered rfl⟩
  exact (round_trip.1 (-403) "" _ _ hplain hordered hwraps).2

end ShopClient.Envelope
