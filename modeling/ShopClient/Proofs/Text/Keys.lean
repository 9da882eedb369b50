import ShopClient.Keyed
import Mathlib.Data.List.Induction
import Mathlib.Data.String.Basic

/-!
# Lists in the order of their keys

What `Keyed.insert` and `Keyed.erase` build from nothing is in strictly increasing order of the keys.
Such a list is what is read back from its own entries, written one after the other.

* `IsSorted.insert`, `IsSorted.erase`: changes keep the order;
* `ofList_of_isSorted`: a list in order is built again from its entries;
* `get?_ofList`: of several entries of a key, the last one counts;
* `filter_insert_of_neg`, `IsSorted.filter_insert_of_pos`: what a change does to the entries of some of
  the keys;
* `IsSorted.filter_eq`: in a list in order, each key stands once.
-/

namespace ShopClient.Keyed

variable {α : Type} {k : String} {v : α} {entries before : Keyed α}

/-- Each entry has a smaller key than the ones after it. -/
def IsSorted (entries : Keyed α) : Prop := entries.Pairwise (·.1 < ·.1)

theorem mem_insert {e : String × α} (h : e ∈ insert k v entries) : e = (k, v) ∨ e ∈ entries := by
  induction entries with
  | nil => exact .inl (List.mem_singleton.1 h)
  | cons e' rest ih =>
    rw [insert] at h
    split at h
    · exact List.mem_cons.1 h
    · split at h
      · exact (List.mem_cons.1 h).imp_right (List.mem_cons_of_mem _)
      · rcases List.mem_cons.1 h with rfl | h
        · exact .inr List.mem_cons_self
        · exact (ih h).imp_right (List.mem_cons_of_mem _)

theorem IsSorted.insert (h : entries.IsSorted) (k : String) (v : α) :
    (insert k v entries).IsSorted := by
  induction entries with
  | nil => exact List.pairwise_singleton _ _
  | cons e rest ih =>
    obtain ⟨hfirst, hrest⟩ := List.pairwise_cons.1 h
    rw [Keyed.insert]
    split
    · rename_i hlt
      refine List.pairwise_cons.2 ⟨fun e' he' => ?_, h⟩
      rcases List.mem_cons.1 he' with rfl | he'
      · exact hlt
      · exact hlt.trans (hfirst e' he')
    · split
      · rename_i heq
        subst heq
        exact List.pairwise_cons.2 ⟨hfirst, hrest⟩
      · rename_i hlt hne
        refine List.pairwise_cons.2 ⟨fun e' he' => ?_, ih hrest⟩
        rcases mem_insert he' with rfl | he'
        · exact lt_of_le_of_ne (not_lt.1 hlt) (Ne.symm hne)
        · exact hfirst e' he'

theorem IsSorted.erase (h : entries.IsSorted) (k : String) : (erase k entries).IsSorted :=
  List.Pairwise.filter _ h

/-- A key beyond all that are there goes to the end. -/
theorem insert_of_forall_lt (h : ∀ e ∈ entries, e.1 < k) (v : α) :
    insert k v entries = entries ++ [(k, v)] := by
  induction entries with
  | nil => rfl
  | cons e rest ih =>
    have he : e.1 < k := h e List.mem_cons_self
    rw [insert, if_neg he.not_gt, if_neg he.ne', ih fun e' he' => h e' (List.mem_cons_of_mem _ he')]
    rfl

theorem foldl_insert_of_isSorted (h : (before ++ entries).IsSorted) :
    entries.foldl (fun acc e => insert e.1 e.2 acc) before = before ++ entries := by
  induction entries generalizing before with
  | nil => exact (List.append_nil before).symm
  | cons e rest ih =>
    have hlast : ∀ e' ∈ before, e'.1 < e.1 := fun e' he' =>
      (List.pairwise_append.1 h).2.2 e' he' e List.mem_cons_self
    rw [List.append_cons] at h ⊢
    rw [List.foldl_cons, insert_of_forall_lt hlast, ih h]

/-- A list in order is built again from its entries. -/
theorem ofList_of_isSorted (h : entries.IsSorted) : ofList entries = entries := by
  have hnil : IsSorted ([] ++ entries) := h
  exact foldl_insert_of_isSorted hnil

theorem isSorted_ofList (entries : List (String × α)) : (ofList entries).IsSorted := by
  suffices h : ∀ acc : Keyed α, acc.IsSorted →
      IsSorted (entries.foldl (fun acc e => Keyed.insert e.1 e.2 acc) acc) from
    h [] .nil
  induction entries with
  | nil => exact fun _ h => h
  | cons e rest ih => exact fun acc h => ih _ (h.insert e.1 e.2)

/-- The last entry of a key is what stands under it. -/
theorem get?_ofList (k : String) (entries : List (String × α)) :
    get? k (ofList entries) = get? k entries.reverse := by
  induction entries using List.reverseRecOn with
  | nil => rfl
  | append_singleton entries e ih =>
    have hlast : ofList (entries ++ [e]) = Keyed.insert e.1 e.2 (ofList entries) := by
      rw [ofList, List.foldl_append]
      rfl
    rw [hlast, get?_insert, ih, List.reverse_append, List.reverse_singleton, List.singleton_append]
    by_cases hk : e.1 = k
    · simp [get?, hk]
    · simp [get?, hk, Ne.symm hk]

/-- An entry is found under its key, if no other value has this key. -/
theorem get?_eq_some (hmem : (k, v) ∈ entries) (honly : ∀ w, (k, w) ∈ entries → w = v) :
    get? k entries = some v := by
  cases hfind : entries.find? (·.1 = k) with
  | none => simpa using List.find?_eq_none.1 hfind (k, v) hmem
  | some e =>
    have hkey : e.1 = k := by simpa using List.find?_some hfind
    have hvalue : e.2 = v := honly e.2 (hkey ▸ List.mem_of_find?_eq_some hfind)
    rw [get?, hfind, Option.map_some, hvalue]

/-! ### Some of the entries -/

/-- What is found among pairs in any order without those under `k`. -/
theorem lookup_filter_ne {κ β : Type} [BEq κ] [LawfulBEq κ] [DecidableEq κ] (k i : κ)
    (l : List (κ × β)) : (l.filter (·.1 ≠ k)).lookup i = if i = k then none else l.lookup i := by
  induction l with
  | nil => simp
  | cons e rest ih =>
    by_cases he : e.1 = k
    · rw [List.filter_cons_of_neg (by simpa using he), ih, List.lookup_cons]
      by_cases hi : i = k
      · rw [if_pos hi, if_pos hi]
      · rw [if_neg hi, if_neg hi, beq_false_of_ne (he ▸ hi)]
    · rw [List.filter_cons_of_pos (by simpa using he), List.lookup_cons, ih, List.lookup_cons]
      by_cases hi : i = k
      · have hne : i ≠ e.1 := fun h => he (h.symm.trans hi)
        rw [if_pos hi, if_pos hi, beq_false_of_ne hne]
      · rw [if_neg hi, if_neg hi]

variable {p : String × α → Bool}

/-- An entry under a key that is left out is not seen. -/
theorem filter_insert_of_neg (hk : ∀ v, p (k, v) = false) (v : α) (entries : Keyed α) :
    (insert k v entries).filter p = entries.filter p := by
  have hneg (v : α) : ¬p (k, v) = true := by simp [hk v]
  induction entries with
  | nil => exact List.filter_cons_of_neg (hneg v)
  | cons e rest ih =>
    obtain ⟨k', v'⟩ := e
    rw [insert]
    split
    · exact List.filter_cons_of_neg (hneg v)
    · split
      · rename_i heq
        subst heq
        rw [List.filter_cons_of_neg (hneg v), List.filter_cons_of_neg (hneg v')]
      · rw [List.filter_cons, List.filter_cons, ih]

/-- What stands under a key that is not left out is seen. -/
theorem get?_filter (hk : ∀ v, p (k, v) = true) (entries : Keyed α) :
    get? k (entries.filter p) = get? k entries := by
  induction entries with
  | nil => rfl
  | cons e rest ih =>
    obtain ⟨k', v'⟩ := e
    by_cases heq : k' = k
    · subst heq
      rw [List.filter_cons_of_pos (hk v')]
      simp [get?]
    · have hrest : get? k ((k', v') :: rest) = get? k rest := by simp [get?, heq]
      rw [List.filter_cons, hrest]
      split
      · rw [← ih]
        simp [get?, heq]
      · exact ih

/-- A key before all that are there goes to the front. -/
theorem insert_of_forall_gt (h : ∀ e ∈ entries, k < e.1) (v : α) :
    insert k v entries = (k, v) :: entries := by
  cases entries with
  | nil => rfl
  | cons e rest => exact if_pos (h e List.mem_cons_self)

/-- An entry under a key that is not left out goes to its place among those that are not. -/
theorem IsSorted.filter_insert_of_pos (h : entries.IsSorted) (hk : ∀ v, p (k, v) = true) (v : α) :
    (Keyed.insert k v entries).filter p = Keyed.insert k v (entries.filter p) := by
  induction entries with
  | nil => exact List.filter_cons_of_pos (hk v)
  | cons e rest ih =>
    obtain ⟨hfirst, hrest⟩ := List.pairwise_cons.1 h
    obtain ⟨k', v'⟩ := e
    rw [Keyed.insert]
    split
    · -- It comes first, also among those that are not left out.
      rename_i hlt
      have hgt : ∀ e ∈ ((k', v') :: rest).filter p, k < e.1 := by
        intro e he
        rcases List.mem_cons.1 (List.mem_filter.1 he).1 with rfl | he
        · exact hlt
        · exact hlt.trans (hfirst e he)
      rw [List.filter_cons_of_pos (hk v), insert_of_forall_gt hgt]
    · split
      · rename_i hlt heq
        subst heq
        rw [List.filter_cons_of_pos (hk v), List.filter_cons_of_pos (hk v'), Keyed.insert,
          if_neg hlt, if_pos rfl]
      · rename_i hlt hne
        rw [List.filter_cons, List.filter_cons, ih hrest]
        split
        · rw [Keyed.insert, if_neg hlt, if_neg hne]
        · rfl

/-- In a list in order, each key stands once. -/
theorem IsSorted.filter_eq (h : entries.IsSorted) (k : String) :
    entries.filter (·.1 = k) = ((get? k entries).map (k, ·)).toList := by
  induction entries with
  | nil => rfl
  | cons e rest ih =>
    obtain ⟨hfirst, hrest⟩ := List.pairwise_cons.1 h
    by_cases he : e.1 = k
    · -- All that come after it have greater keys.
      have hnone : rest.filter (·.1 = k) = [] := by
        refine List.filter_eq_nil_iff.2 fun e' he' => ?_
        simpa using (he ▸ hfirst e' he').ne'
      subst he
      simp [get?, hnone]
    · rw [List.filter_cons_of_neg (by simpa using he), ih hrest]
      simp [get?, he]

end ShopClient.Keyed
