/-!
# Reading from the left

What a reader hands on when it has read the front of a text: the value it found, and the characters
that are left, of which there are no more than before. That is what bounds the loops of readers.
-/

namespace ShopClient.Text

/-- What was read from the characters `s`, and what is left of them. -/
structure Read (α : Type) (s : List Char) where
  value : α
  rest : List Char
  le : rest.length ≤ s.length

namespace Read

variable {α β : Type} {s t : List Char}

/-- Reading from what is left of `s` is reading from `s`. -/
def widen (h : t.length ≤ s.length) (r : Read α t) : Read α s :=
  ⟨r.value, r.rest, Nat.le_trans r.le h⟩

/-- What was read, in another form. -/
def map (f : α → β) (r : Read α s) : Read β s := ⟨f r.value, r.rest, r.le⟩

/-- After one more character there is less left than at the beginning. -/
theorem length_lt_of_rest_eq {c : Char} (r : Read α s) (h : r.rest = c :: t) : t.length < s.length := by
  have le := r.le
  rw [h] at le
  exact le

end Read

theorem dropWhile_length_le {α : Type} (p : α → Bool) (s : List α) :
    (s.dropWhile p).length ≤ s.length := by
  induction s with
  | nil => simp
  | cons c r ih =>
    rw [List.dropWhile_cons]
    split
    · exact Nat.le_trans ih (Nat.le_succ _)
    · exact Nat.le_refl _

end ShopClient.Text
