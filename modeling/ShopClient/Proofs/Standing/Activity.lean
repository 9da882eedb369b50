import ShopClient.Proofs.Standing.Agreement
import ShopClient.Session.Run
import Mathlib.Data.List.Induction

/-!
# Those who watch a session

Any number of watchers can follow whether a session is active. All of them see the one value that was
published last; what each has for itself is the last change it has seen (`Watched`). A change of the
session publishes once at most, so the number of changes goes up just when the value does not stay the
same, and a watcher that compares it with what it has seen misses nothing: not even a value that has
changed back.

* `active_act`: a change of the session publishes the value that is held afterwards, once;
* `changes_run_ne_iff`: changes are counted if and only if there was one;
* `exists_look`: every watcher has looked, when it came at the latest;
* `observable_exact`: what follows for a session that is changed in public.
-/

namespace ShopClient

/-- Whether an action changes the tokens behind the back of those who watch. -/
def Action.isSilent : Action → Bool
  | .writeStore _ _ => true
  | _ => false

theorem Observable.value_publish (now : Bool) (o : Observable) : (o.publish now).value = now := by
  unfold publish
  split
  · assumption
  · rfl

namespace Lifecycle

variable {σ : Type} [Storage σ]

/-! ### What is published -/

/-- A logout publishes that nothing is held any more, if there was anything to clear. -/
theorem active_logout_eq (l : Lifecycle σ) : l.logout.2.active =
    if l.isCleared then l.active else l.active.publish false := by
  unfold logout
  split
  · rfl
  · have hcleared : l.store.clear.current.hasAccess = false := by
      rw [CredentialStore.current_clear]
      rfl
    exact congrArg (Observable.publish · l.active) hcleared

/-- A change publishes once at most. -/
theorem active_act (action : Action) (l : Lifecycle σ) :
    (l.act action).2.active = l.active.publish (l.act action).2.isActive := by
  have hkeeps : l.active = l.active.publish l.isActive := (if_pos rfl).symm
  have hpublishes (now : Bool) :
      l.active.publish now = l.active.publish (l.active.publish now).value := by
    rw [Observable.value_publish]
  have hlogout : l.logout.2.active = l.active.publish l.logout.2.isActive := by
    rw [isActive, active_logout_eq]
    split
    · exact hkeeps
    · exact hpublishes false
  cases action with
  | storeCredentials access refresh => exact hpublishes _
  | storeRenewed epoch renewed =>
    simp only [act, storeRenewed]
    split
    · exact hpublishes _
    · exact hkeeps
  | logout => exact hlogout
  | expire => exact hlogout
  | _ => exact hkeeps

/-- The observable says whether an access token is held. -/
def IsExact (l : Lifecycle σ) : Prop := l.isActive = l.store.current.hasAccess

omit [Storage σ] in
theorem isExact_ofStore (store : CredentialStore σ) : (ofStore store).IsExact := rfl

omit [Storage σ] in
theorem isExact_publish (l : Lifecycle σ) : l.publish.IsExact := Observable.value_publish _ l.active

theorem isExact_storeCredentials (access : String) (refresh : Option String) (l : Lifecycle σ) :
    (l.storeCredentials access refresh).IsExact :=
  isExact_publish (l.writeStore access refresh)

theorem IsExact.logout {l : Lifecycle σ} (h : l.IsExact) : l.logout.2.IsExact := by
  rw [IsExact, isActive, current_logout, active_logout_eq]
  split
  · -- There was nothing to clear, and no token in particular.
    rename_i hcleared
    exact h.trans (congrArg _ (current_of_isCleared hcleared))
  · exact Observable.value_publish _ _

theorem IsExact.act {l : Lifecycle σ} (h : l.IsExact) {action : Action}
    (ha : action.isSilent = false) : (l.act action).2.IsExact := by
  cases action with
  | storeCredentials access refresh => exact isExact_storeCredentials access refresh l
  | writeStore => cases ha
  | storeRenewed epoch renewed =>
    simp only [Lifecycle.act, storeRenewed]
    split
    · exact isExact_storeCredentials renewed.access renewed.refresh l
    · exact h
  | setProfile => exact h
  | logout => exact h.logout
  | expire => exact h.logout
  | notify => exact h

omit [Storage σ] in
theorem IsExact.guard_eq {l : Lifecycle σ} (h : l.IsExact) (requiresAuth : Bool) (target : String) :
    l.guard requiresAuth target =
      if requiresAuth = true ∧ l.store.current.hasAccess = false then .redirectToLogin target
      else .proceed := by
  rw [guard, h, Access.check]
  cases requiresAuth <;> cases l.store.current.hasAccess <;> rfl

end Lifecycle

/-! ### Watchers -/

/-- A session between requests, with those who watch whether it is active. -/
structure Watched (σ : Type) where
  lifecycle : Lifecycle σ
  watchers : List Watcher := []

/-- Something that happens to a session that is watched. -/
inductive Watched.Move
  | act (action : Action)
  /-- One more comes to watch. -/
  | subscribe
  /-- A watcher looks at the value, and has then seen all changes so far. -/
  | look (i : Nat)

namespace Watched

variable {σ : Type} [Storage σ]

/-- The session of a store, which nobody watches yet. -/
def ofStore (store : CredentialStore σ) : Watched σ := { lifecycle := .ofStore store }

def step (w : Watched σ) : Move → Watched σ
  | .act action => { w with lifecycle := (w.lifecycle.act action).2 }
  | .subscribe => { w with watchers := w.watchers ++ [.of w.lifecycle.active] }
  | .look i => { w with watchers := w.watchers.set i (.of w.lifecycle.active) }

def run (moves : List Move) (w : Watched σ) : Watched σ := moves.foldl step w

/-- With `m` the watcher `i` sees all changes so far. -/
def Looks (w : Watched σ) (i : Nat) : Move → Prop
  | .act _ => False
  | .subscribe => i = w.watchers.length
  | .look j => i = j ∧ i < w.watchers.length

/-- In the course of `moves` the session comes to be active or ceases to be, if only for a while. -/
def Flips (w : Watched σ) (moves : List Move) : Prop :=
  ∃ before m, before ++ [m] <+: moves ∧
    ((w.run before).step m).lifecycle.isActive ≠ (w.run before).lifecycle.isActive

variable {w : Watched σ} {moves since : List Move} {i : Nat}

theorem run_concat (moves : List Move) (m : Move) (w : Watched σ) :
    w.run (moves ++ [m]) = (w.run moves).step m :=
  List.foldl_concat ..

theorem run_append (moves since : List Move) (w : Watched σ) :
    w.run (moves ++ since) = (w.run moves).run since :=
  List.foldl_append

/-! ### Changes -/

/-- A step counts one change, if the value changes by it. -/
theorem active_step (w : Watched σ) (m : Move) :
    (w.step m).lifecycle.active = w.lifecycle.active.publish (w.step m).lifecycle.isActive := by
  cases m with
  | act action => exact w.lifecycle.active_act action
  | subscribe => exact (if_pos rfl).symm
  | look => exact (if_pos rfl).symm

theorem changes_step (w : Watched σ) (m : Move) :
    (w.step m).lifecycle.active.changes = w.lifecycle.active.changes +
      if (w.step m).lifecycle.isActive = w.lifecycle.isActive then 0 else 1 := by
  rw [active_step, Observable.publish]
  split
  · rename_i h
    have hsame : (w.step m).lifecycle.isActive = w.lifecycle.isActive := h.symm
    rw [if_pos hsame, Nat.add_zero]
  · rename_i h
    have hnew : (w.step m).lifecycle.isActive ≠ w.lifecycle.isActive := Ne.symm h
    rw [if_neg hnew]

theorem changes_le_run (w : Watched σ) (moves : List Move) :
    w.lifecycle.active.changes ≤ (w.run moves).lifecycle.active.changes := by
  induction moves using List.reverseRecOn with
  | nil => exact Nat.le_refl _
  | append_singleton moves m ih =>
    rw [run_concat, changes_step]
    exact Nat.le_add_right_of_le ih

theorem flips_concat_iff {m : Move} : w.Flips (moves ++ [m]) ↔ w.Flips moves ∨
    ((w.run moves).step m).lifecycle.isActive ≠ (w.run moves).lifecycle.isActive := by
  constructor
  · rintro ⟨before, m', hprefix, hne⟩
    rcases List.prefix_concat_iff.1 hprefix with heq | hprefix
    · obtain ⟨rfl, hm⟩ := List.append_inj' heq rfl
      obtain rfl := List.singleton_inj.1 hm
      exact .inr hne
    · exact .inl ⟨before, m', hprefix, hne⟩
  · rintro (⟨before, m', hprefix, hne⟩ | hne)
    · exact ⟨before, m', hprefix.trans (List.prefix_append _ _), hne⟩
    · exact ⟨moves, m, List.prefix_refl _, hne⟩

/-- Changes are counted if and only if there was one. -/
theorem changes_run_ne_iff (w : Watched σ) (moves : List Move) :
    (w.run moves).lifecycle.active.changes ≠ w.lifecycle.active.changes ↔ w.Flips moves := by
  induction moves using List.reverseRecOn with
  | nil =>
    refine iff_of_false (fun hne => hne rfl) ?_
    rintro ⟨before, m, hprefix, -⟩
    simp at hprefix
  | append_singleton moves m ih =>
    have hle := changes_le_run w moves
    rw [flips_concat_iff, ← ih, run_concat, changes_step]
    split
    · rename_i h
      simp [h]
    · -- One more than before, which is no less than there were at first.
      rename_i h
      exact iff_of_true (by omega) (.inr h)

/-! ### What a watcher has seen -/

theorem getElem?_step_of_looks {m : Move} (h : w.Looks i m) :
    (w.step m).watchers[i]? = some (.of (w.step m).lifecycle.active) := by
  cases m with
  | act => exact h.elim
  | subscribe =>
    obtain rfl := h
    exact List.getElem?_concat_length
  | look j =>
    obtain ⟨rfl, hi⟩ := h
    exact List.getElem?_set_self hi

/-- What a watcher has seen stays the same as long as it does not look again. -/
theorem getElem?_run {seen : Watcher} (h : w.watchers[i]? = some seen) (hsince : .look i ∉ since) :
    (w.run since).watchers[i]? = some seen := by
  induction since generalizing w with
  | nil => exact h
  | cons m since ih =>
    rw [List.mem_cons, not_or] at hsince
    refine ih ?_ hsince.2
    cases m with
    | act => exact h
    | subscribe => exact (List.getElem?_append_left (List.getElem?_eq_some_iff.1 h).1).trans h
    | look j =>
      have hj : j ≠ i := fun heq => hsince.1 (heq ▸ rfl)
      exact (List.getElem?_set_ne hj).trans h

/-- Every watcher has looked: when it came, or later. -/
theorem exists_look (hw : w.watchers = []) (hi : i < (w.run moves).watchers.length) :
    ∃ before m since, moves = before ++ m :: since ∧ (w.run before).Looks i m ∧
      .look i ∉ since := by
  induction moves using List.reverseRecOn with
  | nil =>
    have hnil : (w.run []).watchers = [] := hw
    rw [hnil] at hi
    cases hi
  | append_singleton moves m ih =>
    -- Unless it looks just now, it has looked before.
    have hlater (hi : i < (w.run moves).watchers.length) (hm : .look i ≠ m) :
        ∃ before m' since, moves ++ [m] = before ++ m' :: since ∧ (w.run before).Looks i m' ∧
          .look i ∉ since := by
      obtain ⟨before, m', since, rfl, hlooks, hsince⟩ := ih hi
      refine ⟨before, m', since ++ [m], by simp, hlooks, ?_⟩
      simp [hsince, hm]
    have hnow (h : (w.run moves).Looks i m) :
        ∃ before m' since, moves ++ [m] = before ++ m' :: since ∧ (w.run before).Looks i m' ∧
          .look i ∉ since :=
      ⟨moves, m, [], rfl, h, List.not_mem_nil⟩
    rw [run_concat] at hi
    cases m with
    | act action => exact hlater hi nofun
    | subscribe =>
      rw [step, List.length_append] at hi
      rcases Nat.lt_succ_iff_lt_or_eq.1 hi with hi | hi
      · exact hlater hi nofun
      · exact hnow hi
    | look j =>
      rw [step, List.length_set] at hi
      by_cases hj : i = j
      · exact hnow ⟨hj, hi⟩
      · exact hlater hi fun heq => hj (Move.look.inj heq)

/-- A watcher has yet to see a change if and only if there was one since it looked last. -/
theorem hasChanged_iff {before since : List Move} {m : Move} (hlooks : (w.run before).Looks i m)
    (hsince : .look i ∉ since) {seen : Watcher}
    (hseen : (w.run (before ++ m :: since)).watchers[i]? = some seen) :
    seen.hasChanged (w.run (before ++ m :: since)).lifecycle.active = true ↔
      (w.run (before ++ [m])).Flips since := by
  have hrun : w.run (before ++ m :: since) = (w.run (before ++ [m])).run since := by
    rw [← run_append, List.append_assoc, List.singleton_append]
  have hlast := getElem?_run (getElem?_step_of_looks hlooks) hsince
  rw [← run_concat, ← hrun, hseen] at hlast
  obtain rfl := Option.some.inj hlast
  rw [← changes_run_ne_iff, hrun, Watcher.hasChanged, bne_iff_ne]
  exact ne_comm

/-! ### Runs -/

theorem isExact_run (h : w.lifecycle.IsExact)
    (hmoves : ∀ action, .act action ∈ moves → action.isSilent = false) :
    (w.run moves).lifecycle.IsExact := by
  induction moves generalizing w with
  | nil => exact h
  | cons m moves ih =>
    refine ih ?_ fun action ha => hmoves action (List.mem_cons_of_mem _ ha)
    cases m with
    | act action => exact h.act (hmoves action List.mem_cons_self)
    | subscribe => exact h
    | look => exact h

/-- Whatever is done to a session, as long as its tokens are not changed behind the back of those who
    watch:

    * the value that all of them see says whether an access token is held;
    * a place that requires one is closed just when none is held, and the sign-in page is given the way
      back;
    * a change of the session is counted once if it changes the value, and not at all otherwise;
    * a watcher has yet to see a change just when there was one since it came or looked last. -/
theorem observable_exact (store : CredentialStore σ) (moves : List Move)
    (hmoves : ∀ action, .act action ∈ moves → action.isSilent = false) :
    let w := (ofStore store).run moves
    w.lifecycle.isActive = w.lifecycle.store.current.hasAccess ∧
      (∀ requiresAuth target, w.lifecycle.guard requiresAuth target =
        if requiresAuth = true ∧ w.lifecycle.store.current.hasAccess = false then
          .redirectToLogin target
        else .proceed) ∧
      (∀ action, let l := (w.lifecycle.act action).2
        l.active = if l.isActive = w.lifecycle.isActive then w.lifecycle.active
          else ⟨l.isActive, w.lifecycle.active.changes + 1⟩) ∧
      ∀ i seen, w.watchers[i]? = some seen →
        ∃ before m since, moves = before ++ m :: since ∧
          ((ofStore store).run before).Looks i m ∧ .look i ∉ since ∧
          (seen.hasChanged w.lifecycle.active = true ↔
            ((ofStore store).run (before ++ [m])).Flips since) := by
  intro w
  have hexact : w.lifecycle.IsExact := isExact_run (Lifecycle.isExact_ofStore store) hmoves
  refine ⟨hexact, hexact.guard_eq, ?_, ?_⟩
  · intro action l
    have hactive : l.active = w.lifecycle.active.publish l.isActive :=
      w.lifecycle.active_act action
    have hcomm : l.isActive = w.lifecycle.isActive ↔ w.lifecycle.active.value = l.isActive := eq_comm
    simp only [hcomm]
    exact hactive
  · intro i seen hseen
    obtain ⟨before, m, since, rfl, hlooks, hsince⟩ :=
      exists_look rfl (List.getElem?_eq_some_iff.1 hseen).1
    exact ⟨before, m, since, rfl, hlooks, hsince, hasChanged_iff hlooks hsince hseen⟩

/-- Two watch while somebody signs in, whose token is then replaced, and who logs out twice. The first
    has seen nothing since, and so it is told of a change, although the value is the same again. The
    second looked after the logout. -/
theorem observable_exact_changed_back :
    let moves : List Move := [.subscribe, .subscribe, .act (.storeCredentials "a1" (some "r1")),
      .act (.storeRenewed 0 ⟨"a2", none⟩), .act .logout, .look 1, .act .logout,
      .act (.storeRenewed 0 ⟨"a3", none⟩)]
    let s₀ : Watched Memory := ofStore ⟨⟨[]⟩, {}⟩
    let w := s₀.run moves
    w.lifecycle.isActive = w.lifecycle.store.current.hasAccess ∧
      w.lifecycle.guard true "/orders?page=2" = .redirectToLogin "/orders?page=2" ∧
      w.lifecycle.isActive = s₀.lifecycle.isActive ∧
      w.watchers.map (·.hasChanged w.lifecycle.active) = [true, false] := by
  intro moves s₀ w
  have hmoves : ∀ action, .act action ∈ moves → action.isSilent = false := by
    intro action ha
    simp only [moves, List.mem_cons, Move.act.injEq, reduceCtorEq, false_or, List.not_mem_nil,
      or_false] at ha
    rcases ha with rfl | rfl | rfl | rfl | rfl <;> rfl
  obtain ⟨hexact, hguard, -, -⟩ :=
    observable_exact (⟨⟨[]⟩, {}⟩ : CredentialStore Memory) moves hmoves
  refine ⟨hexact, ?_, by decide +kernel, by decide +kernel⟩
  exact (hguard true "/orders?page=2").trans (by decide +kernel)

end Watched

end ShopClient
