/-!
# Lists of keyed values

Finite maps from strings, as lists of pairs in increasing order of the keys. `insert` keeps the
order, so a list that was built with it has each key once, and two such lists with the same entries
are equal.

* `get?_insert`, `get?_erase`: what an entry reads after a change.
-/

namespace ShopClient

/-- Values under string keys. -/
abbrev Keyed (α : Type) := List (String × α)

namespace Keyed

variable {α : Type}

/-- Puts `v` under the key `k`, in place of what was there. -/
def insert (k : String) (v : α) : Keyed α → Keyed α
  | [] => [(k, v)]
  | (k', v') :: rest =>
    if k < k' then (k, v) :: (k', v') :: rest
    else if k = k' then (k, v) :: rest
    else (k', v') :: insert k v rest

/-- Removes the key `k`. -/
def erase (k : String) (entries : Keyed α) : Keyed α :=
  entries.filter (·.1 ≠ k)

/-- What stands under the key `k`. -/
def get? (k : String) (entries : Keyed α) : Option α :=
  (entries.find? (·.1 = k)).map (·.2)

/-- The entries in the order of their keys; the last one of a key counts. -/
def ofList (entries : List (String × α)) : Keyed α :=
  entries.foldl (fun acc e => insert e.1 e.2 acc) []

@[simp] theorem get?_insert_self (k : String) (v : α) (entries : Keyed α) :
    get? k (insert k v entries) = some v := by
  induction entries with
  | nil => simp [insert, get?]
  | cons e rest ih =>
    rw [insert]
    split
    · simp [get?]
    · split
      · simp [get?]
      · rename_i h
        have hne : e.1 ≠ k := fun h' => h h'.symm
        simpa [get?, List.find?_cons, hne] using ih

theorem get?_insert_of_ne {k k' : String} (h : k' ≠ k) (v : α) (entries : Keyed α) :
    get? k' (insert k v entries) = get? k' entries := by
  induction entries with
  | nil => simp [insert, get?, Ne.symm h]
  | cons e rest ih =>
    rw [insert]
    split
    · simp [get?, Ne.symm h]
    · split
      · rename_i h'
        have hne : e.1 ≠ k' := fun he => h (he.symm.trans h'.symm)
        simp [get?, Ne.symm h, hne]
      · by_cases he : e.1 = k'
        · simp [get?, he]
        · simpa [get?, List.find?_cons, he] using ih

theorem get?_insert (k k' : String) (v : α) (entries : Keyed α) :
    get? k' (insert k v entries) = if k' = k then some v else get? k' entries := by
  split
  · rename_i h; rw [h, get?_insert_self]
  · rename_i h; exact get?_insert_of_ne h v entries

theorem get?_erase (k k' : String) (entries : Keyed α) :
    get? k' (erase k entries) = if k' = k then none else get? k' entries := by
  induction entries with
  | nil => simp [erase, get?]
  | cons e rest ih =>
    simp only [erase, get?] at ih ⊢
    by_cases he : e.1 = k
    · rw [List.filter_cons_of_neg (by simpa using he), ih]
      split
      · rfl
      · rename_i h
        have : e.1 ≠ k' := fun h' => h (h'.symm.trans he)
        simp [this]
    · rw [List.filter_cons_of_pos (by simpa using he)]
      by_cases he' : e.1 = k'
      · have : k' ≠ k := fun h' => he (he'.trans h')
        simp [he', this]
      · simpa [List.find?_cons, he'] using ih

end Keyed

end ShopClient
