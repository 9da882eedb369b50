import ShopClient.Proofs.Text.JsonText

/-!
# Integers, read back

An integer is written in decimal digits, after a sign if it is negative. A reader collects the
digits as long as they fit 64 bits. So an integer of at most 64 bits is read as it is, and any other
one as a binary64 number, if it is not out of range for that, too. What comes next must not go on
with the number (`EndsNumber`).

* `reads_number`: an integer of at most 64 bits is read back;
* `eq_real_of_reads_number`: no other integer is;
* `eq_real_of_reads_minus_zero`: nor is minus zero.
-/

namespace ShopClient.Json

open Text (Read digitValue)

variable {ds s u rest : List Char} {limit acc m : Nat} {n : Int} {negative : Bool} {v : Number}

/-- No digit, point or exponent comes next. -/
def EndsNumber (s : List Char) : Prop := startsWithDigit s = false ∧ startsFraction s = false

/-! ### Digits -/

/-- The next digit is appended to a number. -/
theorem ofDigitChars_cons (c : Char) (ds : List Char) (acc : Nat) :
    Nat.ofDigitChars 10 (c :: ds) acc = Nat.ofDigitChars 10 ds (acc * 10 + digitValue c) := by
  rw [Nat.ofDigitChars_cons, Nat.mul_comm]
  rfl

theorem le_ofDigitChars (ds : List Char) (acc : Nat) : acc ≤ Nat.ofDigitChars 10 ds acc := by
  induction ds generalizing acc with
  | nil => exact Nat.le_refl _
  | cons c ds ih =>
    rw [Nat.ofDigitChars_cons]
    exact Nat.le_trans (by omega) (ih _)

theorem skipDigits_append (hds : ∀ c ∈ ds, c.isDigit = true) (hu : startsWithDigit u = false) :
    skipDigits (ds ++ u) = u := by
  induction ds with
  | nil =>
    cases u with
    | nil => rfl
    | cons c r => exact List.dropWhile_cons_of_neg (by simpa [startsWithDigit] using hu)
  | cons c ds ih =>
    rw [List.forall_mem_cons] at hds
    exact (List.dropWhile_cons_of_pos hds.1).trans (ih hds.2)

theorem skipDigits_absorb (limit acc : Nat) (s : List Char) :
    skipDigits (absorb limit acc s).rest = skipDigits s := by
  induction s generalizing acc with
  | nil => rfl
  | cons c r ih =>
    rw [absorb]
    split
    · rename_i h
      rw [Bool.and_eq_true] at h
      exact (ih _).trans (List.dropWhile_cons_of_pos h.1).symm
    · rfl

/-- All digits are appended to a number, if it stays below the limit. -/
theorem absorb_of_lt (hds : ∀ c ∈ ds, c.isDigit = true) (hu : startsWithDigit u = false)
    (h : Nat.ofDigitChars 10 ds acc < limit) : (absorb limit acc (ds ++ u)).value =
      Nat.ofDigitChars 10 ds acc ∧ (absorb limit acc (ds ++ u)).rest = u := by
  induction ds generalizing acc with
  | nil =>
    cases u with
    | nil => exact ⟨rfl, rfl⟩
    | cons c r =>
      have hc : c.isDigit = false := hu
      simp only [List.nil_append, absorb, hc, Bool.false_and, Bool.false_eq_true, if_false]
      exact ⟨rfl, trivial⟩
  | cons c ds ih =>
    rw [List.forall_mem_cons] at hds
    rw [ofDigitChars_cons] at h ⊢
    have hlt : (c.isDigit && decide (acc * 10 + digitValue c < limit)) = true := by
      rw [hds.1, Bool.true_and, decide_eq_true_eq]
      exact Nat.lt_of_le_of_lt (le_ofDigitChars ds _) h
    rw [List.cons_append, absorb, if_pos hlt]
    exact ih hds.2 h

/-- Of a number that does not stay below the limit, digits are left. -/
theorem startsWithDigit_absorb (hds : ∀ c ∈ ds, c.isDigit = true) (hacc : acc < limit)
    (h : limit ≤ Nat.ofDigitChars 10 ds acc) :
    startsWithDigit (absorb limit acc (ds ++ u)).rest = true := by
  induction ds generalizing acc with
  | nil => exact absurd hacc (Nat.not_lt.2 h)
  | cons c ds ih =>
    rw [List.forall_mem_cons] at hds
    rw [ofDigitChars_cons] at h
    rw [List.cons_append, absorb]
    split
    · rename_i hlt
      rw [Bool.and_eq_true, decide_eq_true_eq] at hlt
      exact ih hds.2 hlt.2 h
    · exact hds.1

/-! ### Whole numbers -/

theorem head?_toDigits_ne (h : m ≠ 0) : (Nat.toDigits 10 m).head? ≠ some '0' := by
  induction m using Nat.strongRecOn with
  | ind m ih =>
    by_cases hm : m < 10
    · have hall : ∀ m < 10, m ≠ 0 → (Nat.toDigits 10 m).head? ≠ some '0' := by decide
      exact hall m hm h
    · have hne : Nat.toDigits 10 (m / 10) ≠ [] := Nat.toDigits_ne_nil
      rw [Nat.toDigits_of_base_le (by decide) (Nat.le_of_not_lt hm), List.head?_append_of_ne_nil _ hne]
      exact ih (m / 10) (by omega) (by omega)

/-- The first digit of a number other than zero, and what the rest of them make of it. -/
theorem exists_toDigits_eq (h : m ≠ 0) : ∃ c ds, Nat.toDigits 10 m = c :: ds ∧ c ≠ '0' ∧
    c.isDigit = true ∧ (∀ d ∈ ds, d.isDigit = true) ∧ digitValue c < 10 ∧
      Nat.ofDigitChars 10 ds (digitValue c) = m := by
  have hdigits : ∀ d ∈ Nat.toDigits 10 m, d.isDigit = true :=
    fun d hd => Nat.isDigit_of_mem_toDigits (by decide) (by decide) hd
  have hvalue : Nat.ofDigitChars 10 (Nat.toDigits 10 m) 0 = m := Nat.ofDigitChars_ten_toDigits
  have hzero := head?_toDigits_ne h
  cases hm : Nat.toDigits 10 m with
  | nil => exact absurd hm Nat.toDigits_ne_nil
  | cons c ds =>
    rw [hm] at hdigits hvalue hzero
    rw [List.forall_mem_cons] at hdigits
    have hrange := hdigits.1
    rw [Nat.ofDigitChars_cons, Nat.mul_zero, Nat.zero_add] at hvalue
    simp only [Char.isDigit, Bool.and_eq_true, decide_eq_true_eq, ge_iff_le] at hrange
    refine ⟨c, ds, rfl, fun hc => hzero (congrArg some hc), hdigits.1, hdigits.2, ?_, hvalue⟩
    have hle : c.toNat ≤ 57 := hrange.2
    unfold digitValue
    omega

/-- A number of digits is read as it is, as long as it has at most 64 bits. -/
theorem reads_unsigned (hm : m < UInt64.size) (hu : EndsNumber u) (negative : Bool) :
    Reads (unsigned negative) (Nat.toDigits 10 m ++ u) (wholeNumber negative m) u := by
  by_cases h : m = 0
  · subst h
    refine ⟨Nat.le_succ _, ?_⟩
    change unsigned negative ('0' :: u) = _
    simp only [unsigned, beq_self_eq_true, if_true, hu.1, hu.2, Bool.false_eq_true, if_false]
    rfl
  · obtain ⟨c, ds, hc, hzero, hdigit, hds, -, hvalue⟩ := exists_toDigits_eq h
    have hlt : Nat.ofDigitChars 10 ds (digitValue c) < UInt64.size := by rwa [hvalue]
    obtain ⟨habsorb, hrest⟩ := absorb_of_lt hds hu.1 hlt
    rw [hvalue] at habsorb
    rw [hc, List.cons_append]
    refine ⟨?_, ?_⟩
    · simp only [List.length_cons, List.length_append]
      omega
    · simp only [unsigned, beq_iff_eq, hzero, if_false, hdigit, if_true, habsorb, hrest, hu.1, hu.2,
        Bool.false_eq_true]

/-- A point and an exponent apart, what is read after the digits is a binary64 number. -/
theorem afterWhole_eq (hu : startsFraction u = false) (negative : Bool) (digits : Nat) (e : Int) :
    afterWhole negative digits e u = scaledNumber negative digits e u := by
  cases u with
  | nil => rfl
  | cons c r =>
    simp only [startsFraction, Bool.or_eq_false_iff, beq_eq_false_iff_ne] at hu
    obtain ⟨⟨hpoint, he⟩, hE⟩ := hu
    rw [afterWhole, optionalExponent]
    · exact fun r' h => he (List.cons.inj h).1
    · exact fun r' h => hE (List.cons.inj h).1
    · exact fun r' h => hpoint (List.cons.inj h).1

theorem eq_real_of_scaledNumber {digits : Nat} {e : Int} {x : Read Number s}
    (h : scaledNumber negative digits e s = .ok x) : ∃ y, x.value = .real y := by
  unfold scaledNumber at h
  split at h
  · rename_i y _
    exact ⟨y, congrArg Read.value (Except.ok.inj h).symm⟩
  · cases h

/-- A number of digits that has more than 64 bits is read as a binary64 number, if at all. -/
theorem eq_real_of_reads_unsigned (hm : UInt64.size ≤ m) (hu : EndsNumber u)
    (h : Reads (unsigned negative) (Nat.toDigits 10 m ++ u) v rest) : ∃ x, v = .real x := by
  have hzero : m ≠ 0 := by
    rintro rfl
    exact absurd hm (by decide)
  obtain ⟨c, ds, hc, hzero, hdigit, hds, hlt, hvalue⟩ := exists_toDigits_eq hzero
  have hacc : digitValue c < UInt64.size := Nat.lt_trans hlt (by decide)
  have hstarts : startsWithDigit (absorb UInt64.size (digitValue c) (ds ++ u)).rest = true :=
    startsWithDigit_absorb hds hacc (hvalue.symm ▸ hm)
  have hskip : skipDigits (absorb UInt64.size (digitValue c) (ds ++ u)).rest = u := by
    rw [skipDigits_absorb, skipDigits_append hds hu.1]
  rw [hc, List.cons_append] at h
  obtain ⟨le, h⟩ := h
  simp only [unsigned, beq_iff_eq, hzero, if_false, hdigit, if_true, hstarts,
    afterWhole_eq (hskip.symm ▸ hu.2)] at h
  cases hx : scaledNumber negative (absorb UInt64.size (digitValue c) (ds ++ u)).value
      ((absorb UInt64.size (digitValue c) (ds ++ u)).rest.length -
        (skipDigits (absorb UInt64.size (digitValue c) (ds ++ u)).rest).length : Nat)
      (skipDigits (absorb UInt64.size (digitValue c) (ds ++ u)).rest) with
  | error e =>
    rw [hx] at h
    cases h
  | ok x =>
    rw [hx] at h
    obtain ⟨y, hy⟩ := eq_real_of_scaledNumber hx
    exact ⟨y, (congrArg Read.value (Except.ok.inj h)).symm.trans hy⟩

/-! ### Integers -/

/-- A whole number that a reader keeps as it is: one of at most 64 bits, signed or not. -/
def IsWhole (n : Int) : Prop := -0x8000000000000000 ≤ n ∧ n ≤ 0xFFFFFFFFFFFFFFFF

instance (n : Int) : Decidable (IsWhole n) := inferInstanceAs (Decidable (_ ∧ _))

theorem reads_number_negative_iff (s : List Char) :
    Reads number ('-' :: s) v rest ↔ Reads (unsigned true) s v rest := by
  have hnumber : number ('-' :: s) = (unsigned true s).map (·.widen (Nat.le_succ _)) := rfl
  rw [Reads, Reads, hnumber]
  cases hs : unsigned true s with
  | error e => exact iff_of_false (fun ⟨_, h⟩ => by cases h) (fun ⟨_, h⟩ => by cases h)
  | ok x =>
    constructor
    · rintro ⟨le, h⟩
      obtain rfl : x.value = v := congrArg Read.value (Except.ok.inj h)
      obtain rfl : x.rest = rest := congrArg Read.rest (Except.ok.inj h)
      exact ⟨x.le, rfl⟩
    · rintro ⟨le, h⟩
      obtain rfl := Except.ok.inj h
      exact ⟨Nat.le_succ_of_le le, rfl⟩

theorem reads_number_digits_iff (m : Nat) (u : List Char) :
    Reads number (Nat.toDigits 10 m ++ u) v rest ↔
      Reads (unsigned false) (Nat.toDigits 10 m ++ u) v rest := by
  have hminus : ∀ r, Nat.toDigits 10 m ++ u ≠ '-' :: r := by
    intro r hr
    cases hm : Nat.toDigits 10 m with
    | nil => exact Nat.toDigits_ne_nil hm
    | cons c ds =>
      have hc : c.isDigit = true :=
        Nat.isDigit_of_mem_toDigits (by decide) (by decide) (hm ▸ List.mem_cons_self)
      rw [hm, List.cons_append] at hr
      rw [(List.cons.inj hr).1] at hc
      cases hc
  have hnumber : number (Nat.toDigits 10 m ++ u) = unsigned false (Nat.toDigits 10 m ++ u) :=
    number.eq_2 _ hminus
  rw [Reads, Reads, hnumber]

theorem exists_intChars_eq (n : Int) :
    ∃ c cs, intChars n = c :: cs ∧ (c = '-' ∨ c.isDigit = true) := by
  rw [intChars]
  split
  · exact ⟨_, _, rfl, .inl rfl⟩
  · cases hn : Nat.toDigits 10 n.natAbs with
    | nil => exact absurd hn Nat.toDigits_ne_nil
    | cons c cs =>
      refine ⟨c, cs, rfl, .inr ?_⟩
      exact Nat.isDigit_of_mem_toDigits (by decide) (by decide) (hn ▸ List.mem_cons_self)

/-- An integer is read as it is, if it has at most 64 bits. -/
theorem reads_number (h : IsWhole n) (hu : EndsNumber u) :
    Reads number (intChars n ++ u) (.int n) u := by
  obtain ⟨hlow, hhigh⟩ := h
  have hsize : n.natAbs < UInt64.size := by
    simp only [UInt64.size]
    omega
  rw [intChars]
  split
  · rename_i hn
    have hwhole : wholeNumber true n.natAbs = .int n := by
      have hbound : (n.natAbs != 0 && decide (n.natAbs ≤ 0x8000000000000000)) = true := by
        rw [Bool.and_eq_true, bne_iff_ne, decide_eq_true_eq]
        omega
      rw [wholeNumber, if_neg (by decide), if_pos hbound]
      exact congrArg Number.int (by omega)
    have hread := reads_unsigned hsize hu true
    rw [hwhole] at hread
    exact (reads_number_negative_iff _).2 hread
  · have hread := reads_unsigned hsize hu false
    have hwhole : wholeNumber false n.natAbs = .int n := congrArg Number.int (by omega)
    rw [hwhole] at hread
    exact (reads_number_digits_iff _ u).2 hread

/-- An integer of more than 64 bits is read as a binary64 number, if at all. -/
theorem eq_real_of_reads_number (h : ¬IsWhole n) (hu : EndsNumber u)
    (hread : Reads number (intChars n ++ u) v rest) : ∃ x, v = .real x := by
  rw [intChars] at hread
  split at hread
  · rename_i hn
    replace hread := (reads_number_negative_iff _).1 hread
    by_cases hsize : n.natAbs < UInt64.size
    · -- It has 64 bits, but no sign fits beside them.
      have hbound : ¬(n.natAbs != 0 && decide (n.natAbs ≤ 0x8000000000000000)) = true := by
        simp only [IsWhole] at h
        rw [Bool.and_eq_true, decide_eq_true_eq]
        omega
      rw [((reads_unsigned hsize hu true).unique hread).1.symm, wholeNumber, if_neg (by decide),
        if_neg hbound]
      exact ⟨_, rfl⟩
    · exact eq_real_of_reads_unsigned (Nat.le_of_not_lt hsize) hu hread
  · rename_i hn
    have hsize : UInt64.size ≤ n.natAbs := by
      simp only [IsWhole, UInt64.size] at h ⊢
      omega
    exact eq_real_of_reads_unsigned hsize hu ((reads_number_digits_iff _ u).1 hread)

/-- Minus zero is a binary64 number. -/
theorem eq_real_of_reads_minus_zero (hu : EndsNumber u)
    (hread : Reads number ('-' :: '0' :: u) v rest) : ∃ x, v = .real x := by
  have hzero : Reads (unsigned true) ('0' :: u) (wholeNumber true 0) u :=
    reads_unsigned (m := 0) (by decide) hu true
  rw [(hzero.unique ((reads_number_negative_iff _).1 hread)).1.symm]
  exact ⟨_, rfl⟩

end ShopClient.Json
