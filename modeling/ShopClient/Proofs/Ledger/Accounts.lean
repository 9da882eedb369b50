import ShopClient.Proofs.Session.Journal
import ShopClient.Session.Client

/-!
# Accounts of a journal

What a session tells its front end, what it counts, and how its operations end have to add up. Each of
these laws holds of a journal that is put together from journals of which it holds, so it is enough to
see that it holds of the few passages of which all journals consist.

An operation that *merely* renews the access token is outside one of them: it tells nobody what it
failed of. Which operations those are is not written in a journal, so `mere` says so.

* `errors`, `failures`: what the user was told of, and what operations failed of on their way;
* `Tallies`: what was counted fits what happened, apart from words to sign in that are `due` to
  something else;
* `Accounts`: the user was told of each failure once;
* `Accounts.append`: laws of two journals, one after the other;
* `accounts_failed`, `accounts_replayed` and the like: the passages.
-/

namespace ShopClient

/-- An entry that tells nobody anything, and counts nothing that anybody is told of. -/
def Entry.IsNeutral : Entry → Prop
  | .counted (.request _) | .renewing _ | .sent _ _ | .asked _ => True
  | _ => False

namespace Journal

/-- The errors that the user was told of. -/
def errors (j : Journal) : List String :=
  j.notices.filterMap fun | .error message => some message | _ => none

/-- The operations that failed on their way, and what they failed of. -/
def failures (j : Journal) : List (TaskId × String) :=
  j.results.filterMap fun | (id, .error (.transport _ message)) => some (id, message) | _ => none

variable {mere : TaskId → Bool} {due due' : Int} {j k : Journal} {id : TaskId}

@[simp] theorem errors_append : errors (j ++ k) = errors j ++ errors k := by
  rw [errors, notices_append, List.filterMap_append]
  rfl

@[simp] theorem failures_append : failures (j ++ k) = failures j ++ failures k := by
  rw [failures, results_append, List.filterMap_append]
  rfl

/-- How many operations went on with a new token that did not merely ask for it. -/
def renewed (mere : TaskId → Bool) (j : Journal) : Nat :=
  j.grants.countP fun g => !mere g.1 && g.2.isOk

@[simp] theorem renewed_append : renewed mere (j ++ k) = renewed mere j + renewed mere k := by
  rw [renewed, grants_append, List.countP_append, renewed, renewed]

/-- What an operation can fail of that merely renews the access token: the session is over, or whoever
    drove the renewal was dropped. -/
def IsRenewalFailure (e : SessionError) : Prop :=
  e = .sessionExpired ∨ e = .transport none abandonedMessage

/-- What was counted fits what happened:

    * there was a logout for each time that the front end was told of one;
    * the user was asked to sign in for each renewal that failed or that there was no refresh token for,
      and as often as was `due` to something else;
    * a request was sent again for each operation that went on with a new token. -/
structure Tallies (mere : TaskId → Bool) (due : Int) (j : Journal) : Prop where
  farewells : j.notices.count .loggedOut = j.total .logout
  demands : (j.notices.count .loginRequired : Int) =
    j.total (.renewal .failed) + j.total (.renewal .noRefreshToken) + due
  replays : j.total .replay = j.renewed mere

/-- In addition the user was told just of what operations failed of on their way, in that order. Those
    that merely renew the access token are left out. They fail of two things only. -/
structure Accounts (mere : TaskId → Bool) (due : Int) (j : Journal) : Prop
    extends Tallies mere due j where
  errors : j.errors = (j.failures.filter (!mere ·.1)).map (·.2)
  renewals : ∀ i e, mere i = true → (i, .error e) ∈ j.results → IsRenewalFailure e

theorem Tallies.append (h : Tallies mere due j) (h' : Tallies mere due' k) :
    Tallies mere (due + due') (j ++ k) where
  farewells := by rw [notices_append, List.count_append, total_append, h.farewells, h'.farewells]
  demands := by
    have hj := h.demands
    have hk := h'.demands
    rw [notices_append, List.count_append, total_append, total_append]
    omega
  replays := by rw [total_append, renewed_append, h.replays, h'.replays]

theorem Accounts.append (h : Accounts mere due j) (h' : Accounts mere due' k) :
    Accounts mere (due + due') (j ++ k) where
  toTallies := h.toTallies.append h'.toTallies
  errors := by
    rw [errors_append, failures_append, List.filter_append, List.map_append, h.errors, h'.errors]
  renewals i e hi he := by
    rw [results_append, List.mem_append] at he
    exact he.elim (h.renewals i e hi) (h'.renewals i e hi)

/-- A renewal that failed, or that there was no refresh token for, owes the user a word. -/
def owed : RenewalResult → Int
  | .failed | .noRefreshToken => 1
  | _ => 0

/-- Where no operation ends and no error is told there is nothing else to see to. -/
theorem Tallies.accounts (h : Tallies mere due j) (herrors : j.errors = []) (hresults : j.results = []) :
    Accounts mere due j where
  toTallies := h
  errors := by
    rw [herrors, failures, hresults]
    rfl
  renewals i e _ he := by
    rw [hresults] at he
    cases he

theorem accounts_nil : Accounts mere 0 [] := Tallies.accounts ⟨rfl, rfl, rfl⟩ rfl rfl

/-! ### Passages -/

theorem accounts_of_neutral {e : Entry} (h : e.IsNeutral) : Accounts mere 0 [e] := by
  cases e with
  | counted c =>
    cases c with
    | request => exact Tallies.accounts ⟨rfl, rfl, rfl⟩ rfl rfl
    | _ => exact h.elim
  | renewing | sent | asked => exact Tallies.accounts ⟨rfl, rfl, rfl⟩ rfl rfl
  | _ => exact h.elim

theorem accounts_renewal (r : RenewalResult) : Accounts mere (-owed r) [.counted (.renewal r)] := by
  cases r <;> exact Tallies.accounts ⟨rfl, rfl, rfl⟩ rfl rfl

theorem accounts_demand : Accounts mere 1 [.told .loginRequired] :=
  Tallies.accounts ⟨rfl, rfl, rfl⟩ rfl rfl

theorem accounts_logout : Accounts mere 0 [.counted .logout, .told .loggedOut] :=
  Tallies.accounts ⟨rfl, rfl, rfl⟩ rfl rfl

/-- An operation goes on with what a renewal came to, without a new token or merely with it. -/
theorem accounts_granted {granted : Granted} (h : mere id = true ∨ granted.isOk = false) :
    Accounts mere 0 [.granted id granted] := by
  refine Tallies.accounts ⟨rfl, rfl, ?_⟩ rfl rfl
  have hnone : (!mere id && granted.isOk) = false := by
    rcases h with h | h <;> simp [h]
  simpa [total, counters, renewed, grants] using hnone

/-- An operation sends its request again with the new token. -/
theorem accounts_replayed (hid : mere id = false) (token : String) :
    Accounts mere 0 [.granted id (.ok token), .counted .replay] := by
  refine Tallies.accounts ⟨rfl, rfl, ?_⟩ rfl rfl
  have hone : (!mere id && Except.isOk (.ok token : Granted)) = true := by
    rw [hid]
    rfl
  simpa [total, counters, renewed, grants] using hone

theorem results_singleton (id : TaskId) (result : Except SessionError Outcome) :
    results [.finished id result] = [(id, result)] := rfl

/-- An operation ends, and it did not fail on its way. -/
theorem accounts_finished (hid : mere id = false) {result : Except SessionError Outcome}
    (h : failures [.finished id result] = []) : Accounts mere 0 [.finished id result] := by
  refine ⟨⟨rfl, rfl, rfl⟩, by rw [h]; rfl, ?_⟩
  intro i e hi he
  rw [results_singleton, List.mem_singleton, Prod.mk.injEq] at he
  obtain ⟨rfl, -⟩ := he
  cases hid.symm.trans hi

/-- An operation ends that merely renewed the access token. -/
theorem accounts_finished_mere (hid : mere id = true) {result : Except SessionError Outcome}
    (h : ∀ e, result = .error e → IsRenewalFailure e) : Accounts mere 0 [.finished id result] := by
  have hnone : (failures [.finished id result]).filter (!mere ·.1) = [] := by
    rcases result with (_ | _ | _ | _ | _) | _ <;> simp [failures, results, hid]
  refine ⟨⟨rfl, rfl, rfl⟩, by rw [hnone]; rfl, ?_⟩
  intro i e hi he
  rw [results_singleton, List.mem_singleton, Prod.mk.injEq] at he
  exact h e he.2.symm

/-- What the user is told when a request fails with `e`. -/
def report : SessionError → Journal
  | .transport _ message => [.told (.error message)]
  | _ => []

/-- An operation ends with an error of its request. The session may end in between. -/
theorem accounts_failed (hid : mere id = false) (e : SessionError) {bye : Journal}
    (hbye : bye = [] ∨ bye = [.counted .logout, .told .loggedOut]) :
    Accounts mere 0 (report e ++ (bye ++ [.finished id (.error e)])) := by
  have hrenewals : ∀ i e', mere i = true →
      (i, .error e') ∈ results (report e ++ (bye ++ [.finished id (.error e)])) →
      IsRenewalFailure e' := by
    intro i e' hi he
    have hresults : results (report e ++ (bye ++ [.finished id (.error e)])) = [(id, .error e)] := by
      rcases hbye with rfl | rfl <;> cases e <;> rfl
    rw [hresults, List.mem_singleton, Prod.mk.injEq] at he
    obtain ⟨rfl, -⟩ := he
    cases hid.symm.trans hi
  refine ⟨?_, ?_, hrenewals⟩
  · rcases hbye with rfl | rfl <;> cases e <;> exact ⟨rfl, rfl, rfl⟩
  · rcases hbye with rfl | rfl <;> cases e <;>
      simp [report, errors, failures, notices, results, hid]

end Journal

end ShopClient
