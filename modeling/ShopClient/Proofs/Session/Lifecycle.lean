import ShopClient.Proofs.Session.Journal
import ShopClient.Session.Lifecycle

/-!
# What becomes of a lifecycle

Whatever happens to a session, its store, its profile, its epoch and its observable are changed by a
few operations only (`Becomes`): a remark is entered in the journal, the tokens are written, it is
published whether an access token is held, a profile is cached or dropped, or there is a logout.

* `CountsLogouts`: the epoch is the number of logouts in the journal, as far as 64 bits hold it.
  Every change keeps it that way (`Becomes.countsLogouts`);
* `Becomes.journal`: all that such changes enter in the journal are remarks.
-/

namespace ShopClient

theorem CredentialPair.isEmpty_iff {p : CredentialPair} : p.isEmpty = true ↔ p = {} := by
  cases p
  simp [isEmpty, hasAccess, hasRefresh]

namespace Lifecycle

variable {σ : Type}

/-! ### Logouts -/

/-- Where there is nothing to clear, there are no tokens. -/
theorem current_of_isCleared {l : Lifecycle σ} (h : l.isCleared = true) : l.store.current = {} := by
  rw [isCleared, Bool.and_eq_true] at h
  exact CredentialPair.isEmpty_iff.1 h.1

/-- The number of logouts that had something to clear. -/
def logouts (l : Lifecycle σ) : Nat := l.journal.total .logout

theorem logouts_log_of_ne {l : Lifecycle σ} {e : Entry} (h : e ≠ .counted .logout) :
    (l.log e).logouts = l.logouts := by
  refine (Journal.total_append l.journal [e] .logout).trans ?_
  suffices Journal.total .logout [e] = 0 by rw [this]; rfl
  refine List.count_eq_zero.2 fun hmem => ?_
  cases e with
  | counted c =>
    obtain rfl : Counter.logout = c := List.mem_singleton.1 hmem
    exact h rfl
  | _ => cases hmem

/-- The epoch is the number of logouts, as far as 64 bits hold it. -/
def CountsLogouts (l : Lifecycle σ) : Prop := l.epoch = UInt64.ofNat l.logouts

theorem countsLogouts_ofStore (store : CredentialStore σ) : (ofStore store).CountsLogouts := rfl

theorem CountsLogouts.log {l : Lifecycle σ} (h : l.CountsLogouts) {e : Entry}
    (he : e ≠ .counted .logout) : (l.log e).CountsLogouts := by
  rw [CountsLogouts, logouts_log_of_ne he]
  exact h

theorem asked_count (c : Counter) (l : Lifecycle σ) :
    (l.count c).journal.asked = l.journal.asked :=
  Journal.view_append_of_nil rfl

theorem grants_count (c : Counter) (l : Lifecycle σ) :
    (l.count c).journal.grants = l.journal.grants :=
  Journal.view_append_of_nil rfl

variable [Storage σ]

/-- What a logout enters in the journal. -/
theorem journal_logout (l : Lifecycle σ) : l.logout.2.journal =
    l.journal ++ if l.isCleared then [] else [.counted .logout, .told .loggedOut] := by
  unfold logout
  split
  · rw [List.append_nil]
  · exact List.append_assoc _ _ _

theorem epoch_logout (l : Lifecycle σ) :
    l.logout.2.epoch = if l.isCleared then l.epoch else l.epoch + 1 := by
  unfold logout
  split <;> rfl

theorem logouts_logout (l : Lifecycle σ) :
    l.logout.2.logouts = if l.isCleared then l.logouts else l.logouts + 1 := by
  rw [logouts, journal_logout, Journal.total_append]
  split <;> rfl

theorem CountsLogouts.logout {l : Lifecycle σ} (h : l.CountsLogouts) :
    l.logout.2.CountsLogouts := by
  rw [CountsLogouts, epoch_logout, logouts_logout]
  split
  · exact h
  · rw [h, UInt64.ofNat_add]
    rfl

/-- A session that could still be renewed ends. -/
theorem expire_of_refresh {l : Lifecycle σ} (h : l.store.current.refresh ≠ "") :
    l.expire.store.current = {} ∧ l.expire.profile = none ∧ l.expire.journal =
      l.journal ++ [.counted .logout, .told .loggedOut, .told .loginRequired] := by
  have hcleared : ¬l.isCleared = true := fun hc =>
    h (congrArg CredentialPair.refresh (current_of_isCleared hc))
  have hlogout : l.logout.2 = ((({ l with
      store := l.store.clear, profile := none, epoch := l.epoch + 1 } : Lifecycle σ).publish.count
        .logout).tell .loggedOut) := by
    rw [logout, if_neg hcleared]
  rw [expire, hlogout]
  refine ⟨CredentialStore.current_clear _, rfl, ?_⟩
  simp [tell, count, log, publish]

/-! ### Changes -/

/-- The lifecycles that `l` can become. -/
inductive Becomes (l : Lifecycle σ) : Lifecycle σ → Prop
  | refl : Becomes l l
  | log {l' : Lifecycle σ} {e : Entry} :
    Becomes l l' → e.IsRemark → e ≠ .counted .logout → Becomes l (l'.log e)
  | write {l' : Lifecycle σ} {access : String} {refresh : Option String} :
    Becomes l l' → Becomes l (l'.writeStore access refresh)
  | publish {l' : Lifecycle σ} : Becomes l l' → Becomes l l'.publish
  | setProfile {l' : Lifecycle σ} {profile : Option Profile} :
    Becomes l l' → Becomes l (l'.setProfile profile)
  | logout {l' : Lifecycle σ} : Becomes l l' → Becomes l l'.logout.2

namespace Becomes

variable {l l' l'' : Lifecycle σ}

theorem trans (h : Becomes l l') (h' : Becomes l' l'') : Becomes l l'' := by
  induction h' with
  | refl => exact h
  | log _ hr hne ih => exact ih.log hr hne
  | write _ ih => exact ih.write
  | publish _ ih => exact ih.publish
  | setProfile _ ih => exact ih.setProfile
  | logout _ ih => exact ih.logout

theorem tell (h : Becomes l l') (notice : Notice) : Becomes l (l'.tell notice) :=
  h.log trivial nofun

theorem storeCredentials (h : Becomes l l') (access : String) (refresh : Option String) :
    Becomes l (l'.storeCredentials access refresh) :=
  h.write.publish

theorem storeRenewed (h : Becomes l l') (epoch : UInt64) (renewed : Renewed) :
    Becomes l (l'.storeRenewed epoch renewed).2 := by
  unfold Lifecycle.storeRenewed
  split
  · exact h.storeCredentials _ _
  · exact h

theorem expire (h : Becomes l l') : Becomes l l'.expire := h.logout.tell _

/-- All that is entered in the journal on the way are remarks. -/
theorem journal (h : Becomes l l') :
    ∃ news : Journal, l'.journal = l.journal ++ news ∧ ∀ e ∈ news, e.IsRemark := by
  induction h with
  | refl => exact ⟨[], (List.append_nil _).symm, List.forall_mem_nil _⟩
  | @log l' e _ hr _ ih =>
    obtain ⟨news, hj, hn⟩ := ih
    refine ⟨news ++ [e], ?_, ?_⟩
    · rw [Lifecycle.log, hj, List.append_assoc]
    · rw [List.forall_mem_append, List.forall_mem_singleton]
      exact ⟨hn, hr⟩
  | write _ ih => exact ih
  | publish _ ih => exact ih
  | setProfile _ ih => exact ih
  | @logout l' _ ih =>
    obtain ⟨news, hj, hn⟩ := ih
    rw [journal_logout, hj, List.append_assoc]
    refine ⟨_, rfl, ?_⟩
    rw [List.forall_mem_append]
    refine ⟨hn, ?_⟩
    split
    · exact List.forall_mem_nil _
    · simp [Entry.IsRemark]

theorem countsLogouts (h : Becomes l l') (hl : l.CountsLogouts) : l'.CountsLogouts := by
  induction h with
  | refl => exact hl
  | log _ _ hne ih => exact ih.log hne
  | write _ ih => exact ih
  | publish _ ih => exact ih
  | setProfile _ ih => exact ih
  | logout _ ih => exact ih.logout

theorem logouts_le (h : Becomes l l') : l.logouts ≤ l'.logouts := by
  obtain ⟨news, hj, -⟩ := h.journal
  rw [logouts, logouts, hj, Journal.total_append]
  exact Nat.le_add_right _ _

theorem renewals_eq (h : Becomes l l') : l'.journal.renewals = l.journal.renewals := by
  obtain ⟨news, hj, hn⟩ := h.journal
  rw [hj, Journal.renewals_append, Journal.renewals_of_remarks hn, List.append_nil]

theorem renewalRequests_eq (h : Becomes l l') :
    l'.journal.renewalRequests = l.journal.renewalRequests := by
  obtain ⟨news, hj, hn⟩ := h.journal
  rw [hj, Journal.renewalRequests_append, Journal.renewalRequests_of_remarks hn, List.append_nil]

theorem asked_eq (h : Becomes l l') : l'.journal.asked = l.journal.asked := by
  obtain ⟨news, hj, hn⟩ := h.journal
  rw [hj, Journal.asked_append, Journal.asked_of_remarks hn, List.append_nil]

theorem grants_eq (h : Becomes l l') : l'.journal.grants = l.journal.grants := by
  obtain ⟨news, hj, hn⟩ := h.journal
  rw [hj, Journal.grants_append, Journal.grants_of_remarks hn, List.append_nil]

theorem results_eq (h : Becomes l l') : l'.journal.results = l.journal.results := by
  obtain ⟨news, hj, hn⟩ := h.journal
  rw [hj, Journal.results_append, Journal.results_of_remarks hn, List.append_nil]

theorem ended_eq (h : Becomes l l') : l'.journal.ended = l.journal.ended := by
  obtain ⟨news, hj, hn⟩ := h.journal
  rw [hj, Journal.ended_append, Journal.ended_of_remarks hn, Nat.add_zero]

end Becomes

/-! ### The course of a lifecycle -/

/-- The lifecycles that `l` comes to be in the course of events: it changes, and what was done is entered
    in the journal. -/
inductive Goes (l : Lifecycle σ) : Lifecycle σ → Prop
  | refl : Goes l l
  | becomes {l' l'' : Lifecycle σ} : Goes l l' → l'.Becomes l'' → Goes l l''
  | log {l' : Lifecycle σ} {e : Entry} : Goes l l' → e ≠ .counted .logout → Goes l (l'.log e)

namespace Goes

variable {l l' l'' : Lifecycle σ}

theorem trans (h : Goes l l') (h' : Goes l' l'') : Goes l l'' := by
  induction h' with
  | refl => exact h
  | becomes _ hb ih => exact ih.becomes hb
  | log _ hne ih => exact ih.log hne

theorem countsLogouts (h : Goes l l') (hl : l.CountsLogouts) : l'.CountsLogouts := by
  induction h with
  | refl => exact hl
  | becomes _ hb ih => exact hb.countsLogouts ih
  | log _ hne ih => exact ih.log hne

/-- Logouts are not taken back. -/
theorem logouts_le (h : Goes l l') : l.logouts ≤ l'.logouts := by
  induction h with
  | refl => exact Nat.le_refl _
  | becomes _ hb ih => exact Nat.le_trans ih hb.logouts_le
  | log _ hne ih => exact (logouts_log_of_ne hne).symm ▸ ih

end Goes

end Lifecycle

end ShopClient
