import ShopClient.Text.Blank
import Mathlib.Data.List.TakeWhile

/-!
# Blanks around a text

A text is trimmed to the part of it that neither begins nor ends with a blank and has nothing but blanks
around it. There is only one such part (`trimChars_eq_iff`).
-/

namespace ShopClient.Text

variable {cs before after : List Char}

/-- A text neither begins nor ends with a blank. -/
structure IsTrim (cs : List Char) : Prop where
  head : ∀ c ∈ cs.head?, isBlank c = false
  last : ∀ c ∈ cs.getLast?, isBlank c = false

theorem isTrim_of_forall (h : ∀ c ∈ cs, isBlank c = false) : IsTrim cs where
  head c hc := h c (List.mem_of_mem_head? hc)
  last c hc := h c (List.mem_of_mem_getLast? hc)

theorem dropWhile_isBlank_append (hbefore : ∀ c ∈ before, isBlank c = true)
    (hhead : ∀ c ∈ cs.head?, isBlank c = false) : (before ++ cs).dropWhile isBlank = cs := by
  rw [List.dropWhile_append_of_pos hbefore]
  cases cs with
  | nil => rfl
  | cons c cs => exact List.dropWhile_cons_of_neg (Bool.eq_false_iff.1 (hhead c rfl))

theorem isBlank_of_mem_head?_dropWhile {c : Char} (h : c ∈ (cs.dropWhile isBlank).head?) :
    isBlank c = false := by
  have hnot := List.head?_dropWhile_not isBlank cs
  rwa [Option.mem_def.1 h] at hnot

/-- Nothing is left before an end that is all there is. -/
theorem dropEndWhile_eq_nil_iff {α : Type} {p : α → Bool} {cs : List α} :
    dropEndWhile p cs = [] ↔ ∀ c ∈ cs, p c = true := by
  rw [dropEndWhile, List.reverse_eq_nil_iff, List.dropWhile_eq_nil_iff]
  exact forall_congr' fun c => imp_congr_left List.mem_reverse

/-- Trimming a text takes away the blanks around. -/
theorem trimChars_append (hbefore : ∀ c ∈ before, isBlank c = true)
    (hafter : ∀ c ∈ after, isBlank c = true) (hcs : IsTrim cs) :
    trimChars (before ++ cs ++ after) = cs := by
  have hback : ∀ c ∈ after.reverse, isBlank c = true := fun c hc => hafter c (List.mem_reverse.1 hc)
  rcases eq_or_ne cs [] with rfl | hne
  · have hall : ∀ c ∈ before ++ after, isBlank c = true := List.forall_mem_append.2 ⟨hbefore, hafter⟩
    rw [trimChars, List.append_nil, List.dropWhile_eq_nil_iff.2 hall]
    rfl
  · have hhead : ∀ c ∈ (cs ++ after).head?, isBlank c = false := by
      obtain ⟨d, ds, rfl⟩ := List.exists_cons_of_ne_nil hne
      exact hcs.head
    have hlast : ∀ c ∈ cs.reverse.head?, isBlank c = false := by
      rw [List.head?_reverse]
      exact hcs.last
    rw [trimChars, List.append_assoc, dropWhile_isBlank_append hbefore hhead, dropEndWhile,
      List.reverse_append, dropWhile_isBlank_append hback hlast, List.reverse_reverse]

/-- A text is trimmed to what neither begins nor ends with a blank, and has only blanks around it. -/
theorem trimChars_eq_iff {cs ds : List Char} :
    trimChars cs = ds ↔ ∃ before after, cs = before ++ ds ++ after ∧
      (∀ c ∈ before, isBlank c = true) ∧ (∀ c ∈ after, isBlank c = true) ∧ IsTrim ds := by
  constructor
  · rintro rfl
    refine ⟨cs.takeWhile isBlank, ((cs.dropWhile isBlank).reverse.takeWhile isBlank).reverse, ?_, ?_,
      ?_, ?_, ?_⟩
    · rw [trimChars, List.append_assoc, dropEndWhile_append_takeWhile,
        List.takeWhile_append_dropWhile]
    · exact fun c hc => List.mem_takeWhile_imp hc
    · exact fun c hc => List.mem_takeWhile_imp (List.mem_reverse.1 hc)
    · intro c hc
      -- Blanks are taken from the end last, which leaves the first character where it is.
      have hhead : c ∈ (cs.dropWhile isBlank).head? := by
        rw [← dropEndWhile_append_takeWhile isBlank (cs.dropWhile isBlank), List.head?_append]
        change c ∈ (trimChars cs).head?.or _
        rw [Option.mem_def.1 hc]
        rfl
      exact isBlank_of_mem_head?_dropWhile hhead
    · intro c hc
      rw [trimChars, dropEndWhile, List.getLast?_reverse] at hc
      exact isBlank_of_mem_head?_dropWhile hc
  · rintro ⟨before, after, rfl, hbefore, hafter, hds⟩
    exact trimChars_append hbefore hafter hds

/-- A text that starts with what is not blank has something left when it is trimmed. -/
theorem trimChars_ne_nil {c : Char} (h : isBlank c = false) : trimChars (c :: cs) ≠ [] := by
  intro hnil
  obtain ⟨before, after, hcs, hbefore, hafter, -⟩ := trimChars_eq_iff.1 hnil
  rw [List.append_nil] at hcs
  have hall : ∀ d ∈ c :: cs, isBlank d = true := hcs ▸ List.forall_mem_append.2 ⟨hbefore, hafter⟩
  exact Bool.eq_false_iff.1 h (hall c List.mem_cons_self)

end ShopClient.Text
