import ShopClient.Json.Decode
import Mathlib.Data.List.Nodup
import Mathlib.Data.List.Perm.Basic

/-!
# Records by their fields

A record is what its fields hold, one value each (`Record.Consists`). A value that is put into a field
takes the place of what the field held, or the field does not take it; which of the two it is does not
depend on the record (`Field.HoldsAt`). And no two fields have a name in common. This is all that has to
be seen of a record type. It follows that the order in which fields are given does not matter, and that
it is the same to give them by their names or by their places.

* `ofMembers_perm`: the order of the members does not matter, but for which error comes first;
* `ofMembers_zip`: the fields by their names are the fields by their places;
* `ofMembers_twice`: no field can be given twice, under whichever of its names;
* `drop_ofItems`: fields that are not given stay as they were;
* `ofItems_values`: a record is read back from what its fields hold.
-/

namespace ShopClient.Json

variable {ρ : Type} {values : ρ → List Value} {r : Record ρ} {f g : Field ρ} {i j : Nat} {x y : ρ}
  {k : String} {v w : Value} {vs : List Value} {given : List String} {ms ms' : List (String × Value)}

/-- All names of a field. -/
def Field.names (f : Field ρ) : List String := f.name :: f.aliases

/-- The field is the `i`-th one of records that hold `values`: a value that it takes comes to stand
    there, whatever the record is, and it takes what it holds. -/
structure Field.HoldsAt (values : ρ → List Value) (i : Nat) (f : Field ρ) : Prop where
  puts : ∀ v, (∀ x, ∃ e, f.put v x = .error e) ∨
    ∃ w, ∀ x, ∃ y, f.put v x = .ok y ∧ values y = (values x).set i w
  rereads : ∀ x v, (values x)[i]? = some v →
    ∀ z, ∃ y, f.put v z = .ok y ∧ values y = (values z).set i v

/-- A record consists of the `values` that its fields hold, and its fields have different names. -/
structure Record.Consists (r : Record ρ) (values : ρ → List Value) : Prop where
  injective : Function.Injective values
  length : ∀ x, (values x).length = r.fields.length
  names : (r.fields.flatMap Field.names).Nodup
  holds : ∀ (i : Nat) (f : Field ρ), r.fields[i]? = some f → f.HoldsAt values i

theorem Field.answersTo_iff : f.answersTo k = true ↔ k ∈ f.names := by
  simp [answersTo, names]

/-! ### Values that are put into fields -/

/-- A field of which values are decoded by `read` and written by `write`, and which `get` and `set` find
    in a record. -/
theorem Field.holdsAt {α : Type} (read : Decoder α) (write : α → Value) (get : ρ → α)
    (set : α → ρ → ρ) (hput : ∀ v x, f.put v x = do return set (← read v) x)
    (hread : ∀ a, read (write a) = .ok a)
    (hset : ∀ a x, values (set a x) = (values x).set i (write a))
    (hget : ∀ x, (values x)[i]? = some (write (get x))) : f.HoldsAt values i := by
  constructor
  · intro v
    cases hv : read v with
    | error e => exact .inl fun x => ⟨e, by rw [hput, hv]; rfl⟩
    | ok a => exact .inr ⟨write a, fun x => ⟨set a x, by rw [hput, hv]; rfl, hset a x⟩⟩
  · intro x v hv z
    obtain rfl := Option.some.inj ((hget x).symm.trans hv)
    exact ⟨set (get x) z, by rw [hput, hread]; rfl, hset _ z⟩

/-- What is put into two fields comes to the same in either order. -/
theorem Field.HoldsAt.put_comm (hf : f.HoldsAt values i) (hg : g.HoldsAt values j) (hij : i ≠ j)
    (hinj : Function.Injective values) (v w : Value) (x : ρ) (rest : ρ → Except Mismatch ρ) :
    (f.put v x >>= fun y => g.put w y >>= rest).toOption =
      (g.put w x >>= fun y => f.put v y >>= rest).toOption := by
  -- A field that refuses its value does so before and after the other one took its own.
  rcases hf.puts v with hrefuses | ⟨v', htakes⟩
  · obtain ⟨e, he⟩ := hrefuses x
    rcases hg.puts w with hrefuses' | ⟨w', htakes'⟩
    · obtain ⟨e', he'⟩ := hrefuses' x
      rw [he, he']
      rfl
    · obtain ⟨y, hy, -⟩ := htakes' x
      obtain ⟨e', he'⟩ := hrefuses y
      rw [he, hy]
      change none = (f.put v y >>= rest).toOption
      rw [he']
      rfl
  · obtain ⟨y, hy, hyv⟩ := htakes x
    rcases hg.puts w with hrefuses' | ⟨w', htakes'⟩
    · obtain ⟨e, he⟩ := hrefuses' y
      obtain ⟨e', he'⟩ := hrefuses' x
      rw [hy, he']
      change (g.put w y >>= rest).toOption = none
      rw [he]
      rfl
    · obtain ⟨z, hz, hzv⟩ := htakes' y
      obtain ⟨y', hy', hyv'⟩ := htakes' x
      obtain ⟨z', hz', hzv'⟩ := htakes y'
      have heq : z = z' := hinj (by rw [hzv, hyv, hzv', hyv', List.set_comm _ _ hij])
      rw [hy, hy']
      change (g.put w y >>= rest).toOption = (f.put v y' >>= rest).toOption
      rw [hz, hz', heq]

namespace Record

/-! ### Members one by one -/

theorem ofMembers_of_none {fs : List (Field ρ)} (h : fs.find? (·.answersTo k) = none) (v : Value)
    (ms : List (String × Value)) (x : ρ) :
    ofMembers fs given ((k, v) :: ms) x = ofMembers fs given ms x := by
  simp only [ofMembers, h]

theorem ofMembers_of_given {fs : List (Field ρ)} (h : fs.find? (·.answersTo k) = some f)
    (hgiven : f.name ∈ given) (v : Value) (ms : List (String × Value)) (x : ρ) :
    ofMembers fs given ((k, v) :: ms) x = .error (.duplicate f.name) := by
  simp only [ofMembers, h, List.contains_iff_mem, if_pos hgiven]

theorem ofMembers_of_not_given {fs : List (Field ρ)} (h : fs.find? (·.answersTo k) = some f)
    (hgiven : f.name ∉ given) (v : Value) (ms : List (String × Value)) (x : ρ) :
    ofMembers fs given ((k, v) :: ms) x =
      (f.put v x >>= fun y => ofMembers fs (f.name :: given) ms y) := by
  simp only [ofMembers, h, List.contains_iff_mem, if_neg hgiven]

/-- Whatever becomes of what was read before, no field is given again. -/
theorem bind_ofMembers_of_given {fs : List (Field ρ)} (h : fs.find? (·.answersTo k) = some f)
    (hgiven : f.name ∈ given) (a : Except Mismatch ρ) (v : Value) (ms : List (String × Value)) :
    (a >>= ofMembers fs given ((k, v) :: ms)).toOption = none := by
  cases a with
  | error e => rfl
  | ok x => exact congrArg Except.toOption (ofMembers_of_given h hgiven v ms x)

/-- It does not matter in which order fields were given before. -/
theorem ofMembers_congr (fs : List (Field ρ)) {given given' : List String}
    (h : ∀ n, n ∈ given ↔ n ∈ given') (ms : List (String × Value)) (x : ρ) :
    ofMembers fs given ms x = ofMembers fs given' ms x := by
  induction ms generalizing given given' x with
  | nil => rfl
  | cons m ms ih =>
    obtain ⟨k, v⟩ := m
    cases hf : fs.find? (·.answersTo k) with
    | none => rw [ofMembers_of_none hf, ofMembers_of_none hf, ih h]
    | some f =>
      by_cases hgiven : f.name ∈ given
      · rw [ofMembers_of_given hf hgiven, ofMembers_of_given hf ((h _).1 hgiven)]
      · rw [ofMembers_of_not_given hf hgiven, ofMembers_of_not_given hf (mt (h _).2 hgiven)]
        congr
        funext y
        exact ih (fun n => by rw [List.mem_cons, List.mem_cons, h]) y

/-- A member that no field answers to makes no difference. -/
theorem ofMembers_append_cons_of_none {fs : List (Field ρ)} (h : fs.find? (·.answersTo k) = none)
    (v : Value) (given : List String) (ms ms' : List (String × Value)) (x : ρ) :
    ofMembers fs given (ms ++ (k, v) :: ms') x = ofMembers fs given (ms ++ ms') x := by
  induction ms generalizing given x with
  | nil => exact ofMembers_of_none h v ms' x
  | cons m ms ih =>
    obtain ⟨k', v'⟩ := m
    simp only [List.cons_append]
    cases hf : fs.find? (·.answersTo k') with
    | none => rw [ofMembers_of_none hf, ofMembers_of_none hf, ih]
    | some f =>
      by_cases hgiven : f.name ∈ given
      · rw [ofMembers_of_given hf hgiven, ofMembers_of_given hf hgiven]
      · rw [ofMembers_of_not_given hf hgiven, ofMembers_of_not_given hf hgiven]
        congr
        funext y
        exact ih _ y

namespace Consists

/-! ### Names -/

/-- A name is that of one field at most. -/
theorem eq_of_mem_names (h : r.Consists values) (hf : r.fields[i]? = some f)
    (hg : r.fields[j]? = some g) (hkf : k ∈ f.names) (hkg : k ∈ g.names) : i = j := by
  have hpairwise := List.pairwise_iff_getElem.1 (List.nodup_flatMap.1 h.names).2
  obtain ⟨hi, rfl⟩ := List.getElem?_eq_some_iff.1 hf
  obtain ⟨hj, rfl⟩ := List.getElem?_eq_some_iff.1 hg
  rcases Nat.lt_trichotomy i j with hlt | heq | hgt
  · exact absurd hkg (List.disjoint_left.1 (hpairwise i j hi hj hlt) hkf)
  · exact heq
  · exact absurd hkf (List.disjoint_left.1 (hpairwise j i hj hi hgt) hkg)

/-- The field that answers to a name is the one that has it. -/
theorem find?_eq_some_iff {f : Field ρ} (h : r.Consists values) :
    r.fields.find? (fun g => g.answersTo k) = some f ↔
      ∃ i : Nat, r.fields[i]? = some f ∧ k ∈ f.names := by
  have hof {g : Field ρ} (hg : r.fields.find? (fun g => g.answersTo k) = some g) :
      ∃ j : Nat, r.fields[j]? = some g ∧ k ∈ g.names := by
    obtain ⟨j, hj⟩ := List.mem_iff_getElem?.1 (List.mem_of_find?_eq_some hg)
    have hk := List.find?_some hg
    exact ⟨j, hj, Field.answersTo_iff.1 hk⟩
  refine ⟨hof, ?_⟩
  rintro ⟨i, hi, hk⟩
  have hsome : (r.fields.find? fun g => g.answersTo k).isSome := by
    rw [List.find?_isSome]
    exact ⟨f, List.mem_of_getElem? hi, Field.answersTo_iff.2 hk⟩
  obtain ⟨g, hg⟩ := Option.isSome_iff_exists.1 hsome
  obtain ⟨j, hj, hkg⟩ := hof hg
  obtain rfl := h.eq_of_mem_names hi hj hk hkg
  rw [hg, ← hi, hj]

/-! ### Members in any order -/

/-- Two members may change places. -/
theorem ofMembers_swap (h : r.Consists values) (k k' : String) (v v' : Value) (given : List String)
    (ms : List (String × Value)) (x : ρ) :
    (ofMembers r.fields given ((k, v) :: (k', v') :: ms) x).toOption =
      (ofMembers r.fields given ((k', v') :: (k, v) :: ms) x).toOption := by
  cases hk : r.fields.find? (fun g => g.answersTo k) with
  | none =>
    rw [ofMembers_of_none hk]
    exact congrArg _ (ofMembers_append_cons_of_none hk v given [(k', v')] ms x).symm
  | some f =>
    cases hk' : r.fields.find? (fun g => g.answersTo k') with
    | none =>
      rw [ofMembers_of_none hk']
      exact congrArg _ (ofMembers_append_cons_of_none hk' v' given [(k, v)] ms x)
    | some g =>
      by_cases hf : f.name ∈ given
      · rw [ofMembers_of_given hk hf]
        by_cases hg : g.name ∈ given
        · rw [ofMembers_of_given hk' hg]
          rfl
        · rw [ofMembers_of_not_given hk' hg]
          exact (bind_ofMembers_of_given hk (List.mem_cons_of_mem _ hf) _ v ms).symm
      · rw [ofMembers_of_not_given hk hf]
        by_cases hg : g.name ∈ given
        · rw [ofMembers_of_given hk' hg]
          exact bind_ofMembers_of_given hk' (List.mem_cons_of_mem _ hg) _ v' ms
        · rw [ofMembers_of_not_given hk' hg]
          obtain ⟨i, hi, -⟩ := h.find?_eq_some_iff.1 hk
          obtain ⟨j, hj, -⟩ := h.find?_eq_some_iff.1 hk'
          by_cases hname : f.name = g.name
          · -- Both belong to one field, which is given twice then.
            refine (bind_ofMembers_of_given hk' ?_ _ v' ms).trans
              (bind_ofMembers_of_given hk ?_ _ v ms).symm
            · rw [hname]
              exact List.mem_cons_self
            · rw [hname]
              exact List.mem_cons_self
          · have hij : i ≠ j := by
              rintro rfl
              rw [Option.some.inj (hi.symm.trans hj)] at hname
              exact hname rfl
            have hnot : g.name ∉ f.name :: given := by simp [Ne.symm hname, hg]
            have hnot' : f.name ∉ g.name :: given := by simp [hname, hf]
            simp only [ofMembers_of_not_given hk' hnot, ofMembers_of_not_given hk hnot']
            have hgiven (y : ρ) : ofMembers r.fields (f.name :: g.name :: given) ms y =
                ofMembers r.fields (g.name :: f.name :: given) ms y :=
              ofMembers_congr _ (fun n => by simp only [List.mem_cons, or_left_comm]) ms y
            simp only [hgiven]
            exact (h.holds i f hi).put_comm (h.holds j g hj) hij h.injective v v' x _

/-- The order of the members does not matter, but for which error comes first. -/
theorem ofMembers_perm (h : r.Consists values) (hms : ms.Perm ms') (given : List String) (x : ρ) :
    (ofMembers r.fields given ms x).toOption = (ofMembers r.fields given ms' x).toOption := by
  induction hms generalizing given x with
  | nil => rfl
  | @cons m ms ms' hms ih =>
    obtain ⟨k, v⟩ := m
    cases hk : r.fields.find? (fun g => g.answersTo k) with
    | none => rw [ofMembers_of_none hk, ofMembers_of_none hk, ih]
    | some f =>
      by_cases hf : f.name ∈ given
      · rw [ofMembers_of_given hk hf, ofMembers_of_given hk hf]
      · rw [ofMembers_of_not_given hk hf, ofMembers_of_not_given hk hf]
        cases f.put v x with
        | error e => rfl
        | ok y => exact ih _ y
  | swap m m' ms => exact h.ofMembers_swap _ _ _ _ given ms x
  | trans _ _ ih ih' => exact (ih given x).trans (ih' given x)

/-- No field can be given twice, under whichever of its names. -/
theorem ofMembers_twice (h : r.Consists values) (hf : f ∈ r.fields) {k k' : String} (hk : k ∈ f.names)
    (hk' : k' ∈ f.names) (v v' : Value) (hms : ms.Perm ((k, v) :: (k', v') :: ms')) (x : ρ) :
    (ofMembers r.fields [] ms x).toOption = none := by
  obtain ⟨i, hi⟩ := List.mem_iff_getElem?.1 hf
  have hfind := h.find?_eq_some_iff.2 ⟨i, hi, hk⟩
  have hfind' := h.find?_eq_some_iff.2 ⟨i, hi, hk'⟩
  rw [h.ofMembers_perm hms, ofMembers_of_not_given hfind List.not_mem_nil]
  exact bind_ofMembers_of_given hfind' List.mem_cons_self _ v' ms'

/-- It makes no difference by which of its names a field is given. -/
theorem ofMembers_renamed (h : r.Consists values) (hf : f ∈ r.fields) {k k' : String}
    (hk : k ∈ f.names) (hk' : k' ∈ f.names) (v : Value) (others : List (String × Value)) (x : ρ) :
    ofMembers r.fields [] ((k, v) :: others) x = ofMembers r.fields [] ((k', v) :: others) x := by
  obtain ⟨i, hi⟩ := List.mem_iff_getElem?.1 hf
  rw [ofMembers_of_not_given (h.find?_eq_some_iff.2 ⟨i, hi, hk⟩) List.not_mem_nil,
    ofMembers_of_not_given (h.find?_eq_some_iff.2 ⟨i, hi, hk'⟩) List.not_mem_nil]

/-! ### Items in their places -/

/-- The fields by their names are the fields by their places. -/
theorem ofMembers_zip (h : r.Consists values) (front : List (Field ρ)) {fs : List (Field ρ)}
    (hfields : r.fields = front ++ fs) (hgiven : ∀ n ∈ given, n ∈ front.map Field.name)
    (vs : List Value) (x : ρ) :
    ofMembers r.fields given ((fs.map Field.name).zip vs) x = ofItems fs vs x := by
  induction fs generalizing front given vs x with
  | nil => cases vs <;> rfl
  | cons f fs ih =>
    cases vs with
    | nil => rfl
    | cons v vs =>
      have hf : r.fields[front.length]? = some f := by simp [hfields]
      have hfind := h.find?_eq_some_iff.2 ⟨_, hf, List.mem_cons_self⟩
      -- Only fields before `f` were given, and none of them has its name.
      have hnot : f.name ∉ given := by
        intro hmem
        obtain ⟨g, hg, hname⟩ := List.mem_map.1 (hgiven _ hmem)
        obtain ⟨j, hj⟩ := List.mem_iff_getElem?.1 hg
        have hlt := (List.getElem?_eq_some_iff.1 hj).1
        have hg' : r.fields[j]? = some g := by rw [hfields, List.getElem?_append_left hlt, hj]
        have heq := h.eq_of_mem_names hg' hf (k := f.name) (hname ▸ List.mem_cons_self)
          List.mem_cons_self
        omega
      rw [List.map_cons, List.zip_cons_cons, ofMembers_of_not_given hfind hnot]
      change _ = (f.put v x >>= fun y => ofItems fs vs y)
      congr
      funext y
      refine ih (front ++ [f]) (by rw [hfields, List.append_assoc]; rfl) ?_ vs y
      rw [List.map_append, List.forall_mem_cons]
      exact ⟨List.mem_append_right _ List.mem_cons_self,
        fun n hn => List.mem_append_left _ (hgiven n hn)⟩

/-- Fields that are not given stay as they were. -/
theorem drop_ofItems (h : r.Consists values) (front : List (Field ρ)) {fs : List (Field ρ)}
    (hfields : r.fields = front ++ fs) (hy : ofItems fs vs x = .ok y) :
    (values y).drop (front.length + vs.length) = (values x).drop (front.length + vs.length) := by
  induction fs generalizing front vs x with
  | nil =>
    obtain rfl : x = y := by cases vs <;> exact Except.ok.inj hy
    rfl
  | cons f fs ih =>
    cases vs with
    | nil =>
      obtain rfl : x = y := Except.ok.inj hy
      rfl
    | cons v vs =>
      have hf : r.fields[front.length]? = some f := by simp [hfields]
      change (f.put v x >>= fun z => ofItems fs vs z) = .ok y at hy
      rcases (h.holds _ f hf).puts v with hrefuses | ⟨w, htakes⟩
      · obtain ⟨e, he⟩ := hrefuses x
        rw [he] at hy
        cases hy
      · obtain ⟨z, hz, hzv⟩ := htakes x
        rw [hz] at hy
        have hrest := ih (front ++ [f]) (by rw [hfields, List.append_assoc]; rfl) hy
        rw [List.length_append, List.length_singleton, hzv, Nat.add_assoc, Nat.add_comm 1] at hrest
        rw [List.length_cons, hrest, List.drop_set_of_lt (by omega)]

/-- A record is read back from what its fields hold. -/
theorem ofItems_values (h : r.Consists values) (front : List (Field ρ)) {fs : List (Field ρ)}
    (hfields : r.fields = front ++ fs) {z : ρ}
    (hz : (values z).take front.length = (values x).take front.length) :
    ofItems fs ((values x).drop front.length) z = .ok x := by
  -- The fields in `front` are read back already. With each field that is put, `z` agrees with `x` on
  -- one more, and after the last one it is `x`.
  induction fs generalizing front z with
  | nil =>
    have hlength : front.length = r.fields.length := by rw [hfields, List.append_nil]
    have heq : z = x := by
      rw [hlength, ← h.length x, List.take_length, h.length x, ← h.length z, List.take_length] at hz
      exact h.injective hz
    rw [heq]
    cases (values x).drop front.length <;> rfl
  | cons f fs ih =>
    have hf : r.fields[front.length]? = some f := by simp [hfields]
    have hlt : front.length < (values x).length := by
      rw [h.length, hfields, List.length_append, List.length_cons]
      omega
    obtain ⟨z', hput, hz'⟩ := (h.holds _ f hf).rereads x _ (List.getElem?_eq_getElem hlt) z
    have htake : (values z').take (front ++ [f]).length = (values x).take (front ++ [f]).length := by
      have hlt' : front.length < (values z).length := by rwa [h.length, ← h.length x]
      have hlt'' : front.length < ((values z).set front.length (values x)[front.length]).length := by
        rwa [List.length_set]
      rw [List.length_append, List.length_singleton, hz', List.take_succ_eq_append_getElem hlt'',
        List.getElem_set_self, List.take_set_of_le (Nat.le_refl _), hz,
        ← List.take_succ_eq_append_getElem hlt]
    have hrest := ih (front ++ [f]) (by rw [hfields, List.append_assoc]; rfl) htake
    rw [List.drop_eq_getElem_cons hlt]
    change (f.put _ z >>= fun y => ofItems fs _ y) = .ok x
    rw [hput]
    rw [List.length_append, List.length_singleton] at hrest
    exact hrest

end Consists

end Record

end ShopClient.Json
