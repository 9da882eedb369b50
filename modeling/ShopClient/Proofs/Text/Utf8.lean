import ShopClient.Text.Utf8
import Mathlib.Tactic.SplitIfs

/-!
# Texts in UTF-8

The bytes of a text are read back as the text. A character has one to four bytes, of which the first
tells how many there are; the range of the second one leaves out no character, only what is no
character, or has a shorter form.

* `pieces_encodeChar`: the bytes of a character are one piece, whatever comes after them;
* `decode?_encode`: the bytes of a text are the text;
* `decode?_of_ascii`: bytes of ASCII are the text with these characters.
-/

namespace ShopClient.Text.Utf8

variable {m n : Nat} {b b₁ b₂ b₃ : UInt8} {rest : Bytes}

/-- A byte after the first one, which carries six bits. -/
def IsTail (b : UInt8) : Prop := within 0x80 0xBF b = true

/-- A second byte after `b`. -/
def IsSecond (b b₁ : UInt8) : Prop := within (secondRange b).1 (secondRange b).2 b₁ = true

theorem toNat_byte (h : n < 256) : (UInt8.ofNat n).toNat = n := by
  rw [UInt8.toNat_ofNat', Nat.mod_eq_of_lt h]

theorem within_iff {lo hi : UInt8} :
    within lo hi b = true ↔ lo.toNat ≤ b.toNat ∧ b.toNat ≤ hi.toNat := by
  rw [within, Bool.and_eq_true, decide_eq_true_eq, decide_eq_true_eq, UInt8.le_iff_toNat_le,
    UInt8.le_iff_toNat_le]

theorem isTail_byte (h : m < 64) : IsTail (.ofNat (0x80 + m)) := by
  have hbyte : (UInt8.ofNat (0x80 + m)).toNat = 0x80 + m := toNat_byte (by omega)
  simp only [IsTail, within_iff, UInt8.reduceToNat, hbyte]
  omega

theorem tail_byte (h : m < 64) : tail (.ofNat (0x80 + m)) = m := by
  have hbyte : (UInt8.ofNat (0x80 + m)).toNat = 0x80 + m := toNat_byte (by omega)
  unfold tail
  omega

/-- What the range of the second byte leaves out. -/
theorem isSecond_byte (h : m < 64) (hE0 : b.toNat = 0xE0 → 32 ≤ m) (hED : b.toNat = 0xED → m < 32)
    (hF0 : b.toNat = 0xF0 → 16 ≤ m) (hF4 : b.toNat = 0xF4 → m < 16) :
    IsSecond b (.ofNat (0x80 + m)) := by
  have hbyte : (UInt8.ofNat (0x80 + m)).toNat = 0x80 + m := toNat_byte (by omega)
  rw [IsSecond, secondRange]
  simp only [beq_iff_eq, ← UInt8.toNat_inj, UInt8.reduceToNat]
  -- The first bytes after which the range is narrower, one after the other.
  split_ifs with h₀ h₁ h₂ h₃
  all_goals simp only [within_iff, UInt8.reduceToNat, hbyte]
  · have := hE0 h₀
    omega
  · have := hED h₁
    omega
  · have := hF0 h₂
    omega
  · have := hF4 h₃
    omega
  · omega

/-! ### Pieces of one to four bytes -/

theorem piece_one (h : b.toNat < 0x80) : piece b rest = (some (.ofNat b.toNat), 0) := by
  unfold piece
  rw [if_pos (UInt8.lt_iff_toNat_lt.2 h)]

theorem piece_two (h : within 0xC2 0xDF b = true) (h₁ : IsTail b₁) :
    piece b (b₁ :: rest) = (some (.ofNat ((b.toNat - 0xC0) * 64 + tail b₁)), 1) := by
  have hone : ¬b < 0x80 := by
    simp only [within_iff, UInt8.reduceToNat, UInt8.lt_iff_toNat_lt] at h ⊢
    omega
  unfold piece
  rw [if_neg hone, if_pos h]
  exact if_pos h₁

theorem piece_three (h : within 0xE0 0xEF b = true) (h₁ : IsSecond b b₁) (h₂ : IsTail b₂) :
    piece b (b₁ :: b₂ :: rest) =
      (some (.ofNat ((b.toNat - 0xE0) * 4096 + tail b₁ * 64 + tail b₂)), 2) := by
  have hone : ¬b < 0x80 := by
    simp only [within_iff, UInt8.reduceToNat, UInt8.lt_iff_toNat_lt] at h ⊢
    omega
  have htwo : ¬within 0xC2 0xDF b = true := by
    simp only [within_iff, UInt8.reduceToNat] at h ⊢
    omega
  unfold piece
  rw [if_neg hone, if_neg htwo, if_pos h]
  exact (if_pos h₁).trans (if_pos h₂)

theorem piece_four (h : within 0xF0 0xF4 b = true) (h₁ : IsSecond b b₁) (h₂ : IsTail b₂)
    (h₃ : IsTail b₃) :
    piece b (b₁ :: b₂ :: b₃ :: rest) =
      (some (.ofNat ((b.toNat - 0xF0) * 262144 + tail b₁ * 4096 + tail b₂ * 64 + tail b₃)), 3) := by
  have hone : ¬b < 0x80 := by
    simp only [within_iff, UInt8.reduceToNat, UInt8.lt_iff_toNat_lt] at h ⊢
    omega
  have htwo : ¬within 0xC2 0xDF b = true := by
    simp only [within_iff, UInt8.reduceToNat] at h ⊢
    omega
  have hthree : ¬within 0xE0 0xEF b = true := by
    simp only [within_iff, UInt8.reduceToNat] at h ⊢
    omega
  unfold piece
  rw [if_neg hone, if_neg htwo, if_neg hthree, if_pos h]
  exact (if_pos h₁).trans ((if_pos h₂).trans (if_pos h₃))

/-! ### Characters and texts -/

/-- The bytes of a character are a piece, and the character is what the piece spells. -/
theorem pieces_encodeChar (c : Char) (rest : Bytes) :
    pieces (encodeChar c ++ rest) = some c :: pieces rest := by
  have hvalid : c.toNat < 0xD800 ∨ 0xDFFF < c.toNat ∧ c.toNat < 0x110000 := c.valid
  have hc : Char.ofNat c.toNat = c := c.ofNat_toNat
  generalize hn : c.toNat = n at hvalid hc
  rw [encodeChar, hn]
  split_ifs with h₁ h₂ h₃
  · have hb : (UInt8.ofNat n).toNat = n := toNat_byte (by omega)
    rw [List.singleton_append, pieces, piece_one (by omega), hb, hc]
    rfl
  · have hb : (UInt8.ofNat (0xC0 + n / 64)).toNat = 0xC0 + n / 64 := toNat_byte (by omega)
    have hlead : within 0xC2 0xDF (.ofNat (0xC0 + n / 64)) = true := by
      simp only [within_iff, UInt8.reduceToNat, hb]
      omega
    have hm : n % 64 < 64 := Nat.mod_lt _ (by decide)
    have hnumber : (0xC0 + n / 64 - 0xC0) * 64 + n % 64 = n := by omega
    simp only [List.cons_append, List.nil_append]
    rw [pieces, piece_two hlead (isTail_byte hm), hb, tail_byte hm, hnumber, hc]
    rfl
  · have hb : (UInt8.ofNat (0xE0 + n / 4096)).toNat = 0xE0 + n / 4096 := toNat_byte (by omega)
    have hlead : within 0xE0 0xEF (.ofNat (0xE0 + n / 4096)) = true := by
      simp only [within_iff, UInt8.reduceToNat, hb]
      omega
    have hm : n / 64 % 64 < 64 := Nat.mod_lt _ (by decide)
    have hm' : n % 64 < 64 := Nat.mod_lt _ (by decide)
    have hsecond : IsSecond (.ofNat (0xE0 + n / 4096)) (.ofNat (0x80 + n / 64 % 64)) := by
      refine isSecond_byte hm ?_ ?_ ?_ ?_
      all_goals
        rw [hb]
        omega
    have hnumber : (0xE0 + n / 4096 - 0xE0) * 4096 + n / 64 % 64 * 64 + n % 64 = n := by omega
    simp only [List.cons_append, List.nil_append]
    rw [pieces, piece_three hlead hsecond (isTail_byte hm'), hb, tail_byte hm, tail_byte hm', hnumber,
      hc]
    rfl
  · have hb : (UInt8.ofNat (0xF0 + n / 262144)).toNat = 0xF0 + n / 262144 := toNat_byte (by omega)
    have hlead : within 0xF0 0xF4 (.ofNat (0xF0 + n / 262144)) = true := by
      simp only [within_iff, UInt8.reduceToNat, hb]
      omega
    have hm : n / 4096 % 64 < 64 := Nat.mod_lt _ (by decide)
    have hm' : n / 64 % 64 < 64 := Nat.mod_lt _ (by decide)
    have hm'' : n % 64 < 64 := Nat.mod_lt _ (by decide)
    have hsecond : IsSecond (.ofNat (0xF0 + n / 262144)) (.ofNat (0x80 + n / 4096 % 64)) := by
      refine isSecond_byte hm ?_ ?_ ?_ ?_
      all_goals
        rw [hb]
        omega
    have hnumber : (0xF0 + n / 262144 - 0xF0) * 262144 + n / 4096 % 64 * 4096 + n / 64 % 64 * 64 +
        n % 64 = n := by omega
    simp only [List.cons_append, List.nil_append]
    rw [pieces, piece_four hlead hsecond (isTail_byte hm') (isTail_byte hm''), hb, tail_byte hm,
      tail_byte hm', tail_byte hm'', hnumber, hc]
    rfl

theorem pieces_encode (cs : List Char) : pieces (cs.flatMap encodeChar) = cs.map some := by
  induction cs with
  | nil => rw [List.flatMap_nil, pieces, List.map_nil]
  | cons c cs ih => rw [List.flatMap_cons, pieces_encodeChar, ih, List.map_cons]

theorem mapM_map_some (cs : List Char) : (cs.map some).mapM id = some cs := by
  induction cs with
  | nil => rfl
  | cons c cs ih => simp [List.mapM_cons, ih]

/-- The bytes of a text are read back as the text. -/
theorem decode?_encode (s : String) : decode? (encode s) = some s := by
  rw [decode?, encode, pieces_encode, mapM_map_some]
  exact congrArg some s.ofList_toList

/-- Bytes of ASCII are one character each. -/
theorem decode?_of_ascii {bs : Bytes} (h : ∀ b ∈ bs, b.toNat < 0x80) :
    decode? bs = some (String.ofList (bs.map fun b => Char.ofNat b.toNat)) := by
  have hpieces : pieces bs = (bs.map fun b => Char.ofNat b.toNat).map some := by
    induction bs with
    | nil => rw [pieces, List.map_nil, List.map_nil]
    | cons b bs ih =>
      rw [List.forall_mem_cons] at h
      rw [pieces, piece_one h.1, List.drop_zero, ih h.2]
      rfl
  rw [decode?, hpieces, mapM_map_some, Option.map_some]

end ShopClient.Text.Utf8
