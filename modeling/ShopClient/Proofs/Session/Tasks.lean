import ShopClient.Proofs.Text.Keys
import ShopClient.Session.Client
import Mathlib.Data.List.Nodup

/-!
# Operations under way

The operations of a session stand in a list, each with what it waits for. To let an operation wait
(`await`) or to drop it (`dismiss`) changes what is found under its number and nothing else.

* `task?_await`, `task?_dismiss`: what is found under a number afterwards;
* `nodup_await`, `nodup_dismiss`: each operation stands there once;
* `perm_ids_dismiss`: an operation that is dropped stands there no more.
-/

namespace ShopClient.Session

variable {σ : Type} (s : Session σ) (id i : TaskId) (t : Task)

/-- The numbers of the operations under way. -/
def ids (s : Session σ) : List TaskId := s.tasks.map (·.1)

theorem lookup_map_ite {l : List (TaskId × Task)} :
    (l.map fun e => if e.1 = id then (id, t) else e).lookup i =
      if i = id then (l.lookup id).map fun _ => t else l.lookup i := by
  induction l with
  | nil => simp
  | cons e rest ih =>
    rw [List.map_cons, List.lookup_cons, ih, List.lookup_cons, List.lookup_cons]
    by_cases he : e.1 = id
    · subst he
      by_cases hi : i = e.1
      · simp [hi]
      · simp [hi, beq_false_of_ne hi]
    · by_cases hi : i = id
      · simp [hi, he, beq_false_of_ne (Ne.symm he)]
      · simp [hi, he]

theorem isSome_task?_iff : (s.task? id).isSome ↔ id ∈ s.ids := by
  rw [task?, ids, List.lookup_isSome_iff, List.mem_map]
  exact exists_congr fun e => and_congr_right fun _ => beq_iff_eq.trans eq_comm

theorem task?_eq_none_iff : s.task? id = none ↔ id ∉ s.ids := by
  rw [← isSome_task?_iff, Option.not_isSome_iff_eq_none]

theorem any_eq_decide_mem_ids : s.tasks.any (·.1 = id) = decide (id ∈ s.ids) := by
  rw [Bool.eq_iff_iff, decide_eq_true_iff, List.any_eq_true, ids, List.mem_map]
  exact exists_congr fun e => and_congr_right fun _ => decide_eq_true_iff

theorem task?_await : (s.await id t).task? i = if i = id then some t else s.task? i := by
  rw [task?, await, any_eq_decide_mem_ids]
  by_cases h : id ∈ s.ids
  · -- The operation is there already: only what it waits for changes.
    obtain ⟨t', ht'⟩ := Option.isSome_iff_exists.1 ((s.isSome_task?_iff id).2 h)
    rw [task?] at ht'
    rw [if_pos (decide_eq_true h), lookup_map_ite, ht', Option.map_some, task?]
  · -- It is new, and comes last.
    have hn : s.tasks.lookup id = none := (s.task?_eq_none_iff id).2 h
    rw [if_neg (by simpa using h), List.lookup_append, List.lookup_cons, List.lookup_nil, task?]
    by_cases hi : i = id
    · rw [hi, hn, if_pos rfl, beq_self_eq_true]
      rfl
    · rw [if_neg hi, beq_false_of_ne hi]
      exact Option.or_none

@[simp] theorem task?_await_self : (s.await id t).task? id = some t := by
  rw [task?_await, if_pos rfl]

theorem task?_dismiss : (s.dismiss id).task? i = if i = id then none else s.task? i :=
  Keyed.lookup_filter_ne id i s.tasks

theorem ids_await : (s.await id t).ids = if id ∈ s.ids then s.ids else s.ids ++ [id] := by
  rw [ids, await, any_eq_decide_mem_ids]
  by_cases h : id ∈ s.ids
  · rw [if_pos (decide_eq_true h), if_pos h, List.map_map]
    refine List.map_congr_left fun e _ => ?_
    simp only [Function.comp]
    split <;> simp_all
  · rw [if_neg (by simpa using h), if_neg h, List.map_append]
    rfl

theorem ids_dismiss : (s.dismiss id).ids = s.ids.filter (· ≠ id) := by
  rw [ids, ids, List.filter_map]
  rfl

variable {s id i t}

theorem mem_ids_of_task? (h : s.task? id = some t) : id ∈ s.ids :=
  (s.isSome_task?_iff id).1 (h ▸ rfl)

/-- Only an operation under way can have a request that has no answer yet. -/
theorem forall_outstanding?_eq_none_iff :
    (∀ id, s.outstanding? id = none) ↔ ∀ id ∈ s.ids, s.outstanding? id = none := by
  refine ⟨fun h id _ => h id, fun h id => ?_⟩
  by_cases hid : id ∈ s.ids
  · exact h id hid
  · rw [outstanding?, (task?_eq_none_iff s id).2 hid]

/-- What holds of all operations and of a new one holds of them together. -/
theorem forall_task?_await {P : TaskId → Task → Prop} (h : ∀ i t, s.task? i = some t → P i t)
    (hid : P id t) : ∀ i t', (s.await id t).task? i = some t' → P i t' := by
  intro i t' ht'
  rw [task?_await] at ht'
  split at ht'
  · rename_i heq
    obtain rfl := heq
    obtain rfl := Option.some.inj ht'
    exact hid
  · exact h i t' ht'

/-- To drop an operation that is not under way changes nothing. -/
theorem dismiss_of_not_mem (h : id ∉ s.ids) : s.dismiss id = s := by
  have hall : ∀ e ∈ s.tasks, decide (e.1 ≠ id) = true := fun e he =>
    decide_eq_true fun heq => h (heq ▸ List.mem_map_of_mem he)
  rw [dismiss, List.filter_eq_self.2 hall]

theorem nodup_await (h : s.ids.Nodup) : (s.await id t).ids.Nodup := by
  rw [ids_await]
  split
  · exact h
  · rename_i hid
    rw [← List.concat_eq_append]
    exact h.concat hid

theorem nodup_dismiss (h : s.ids.Nodup) : (s.dismiss id).ids.Nodup := by
  rw [ids_dismiss]
  exact h.filter _

/-- The operations without one that was among them. -/
theorem perm_ids_dismiss (h : s.ids.Nodup) (hid : id ∈ s.ids) :
    (id :: (s.dismiss id).ids).Perm s.ids := by
  have hfilter : (s.dismiss id).ids = s.ids.erase id := by
    rw [ids_dismiss, h.erase_eq_filter]
    exact List.filter_congr fun i _ => by simp [bne, beq_eq_decide]
  rw [hfilter]
  exact (List.perm_cons_erase hid).symm

end ShopClient.Session
