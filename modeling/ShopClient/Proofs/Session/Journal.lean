import ShopClient.Session.Journal
import Mathlib.Data.List.Basic

/-!
# Views of a journal

A journal only grows, and each of its views grows with it: what a view shows of a longer journal is
what it showed before, and then what it shows of the new entries.

* `results_append` and the like: the views of a journal that goes on;
* `view_append_of_nil`: they stay the same when nothing is entered that they show;
* `Entry.IsRemark`: the entries that concern neither the renewals nor the course of an operation.
-/

namespace ShopClient

namespace Journal

variable (j k : Journal)

/-- A view of a journal shows no more when nothing is entered that it shows. -/
theorem view_append_of_nil {α : Type*} {f : Entry → Option α} {j k : Journal}
    (h : k.filterMap f = []) : (j ++ k).filterMap f = j.filterMap f := by
  rw [List.filterMap_append, h, List.append_nil]

@[simp] theorem notices_append : notices (j ++ k) = notices j ++ notices k := List.filterMap_append

@[simp] theorem counters_append : counters (j ++ k) = counters j ++ counters k :=
  List.filterMap_append

@[simp] theorem total_append (c : Counter) : total c (j ++ k) = total c j + total c k := by
  rw [total, counters_append, List.count_append, total, total]

@[simp] theorem renewals_append : renewals (j ++ k) = renewals j ++ renewals k :=
  List.filterMap_append

@[simp] theorem requests_append : requests (j ++ k) = requests j ++ requests k :=
  List.filterMap_append

@[simp] theorem asked_append : asked (j ++ k) = asked j ++ asked k := List.filterMap_append

@[simp] theorem grants_append : grants (j ++ k) = grants j ++ grants k := List.filterMap_append

@[simp] theorem results_append : results (j ++ k) = results j ++ results k := List.filterMap_append

/-- The requests that were sent to renew the access token. -/
def renewalRequests (j : Journal) : List Outgoing :=
  j.filterMap fun | .sent .renewal request => some request | _ => none

@[simp] theorem renewalRequests_append :
    renewalRequests (j ++ k) = renewalRequests j ++ renewalRequests k :=
  List.filterMap_append

/-- The number of renewals that have ended: well, in failure, after a logout, or without a driver. -/
def ended (j : Journal) : Nat :=
  j.total (.renewal .ok) + j.total (.renewal .failed) + j.total (.renewal .discarded) +
    j.total (.renewal .abandoned)

@[simp] theorem ended_append : ended (j ++ k) = ended j + ended k := by
  simp only [ended, total_append]
  omega

/-- The end of a renewal is counted once. -/
theorem ended_counted {r : RenewalResult} (hr : r ≠ .noRefreshToken) :
    ended [.counted (.renewal r)] = 1 := by
  cases r with
  | noRefreshToken => exact absurd rfl hr
  | _ => rfl

end Journal

/-! ### Remarks -/

/-- A remark concerns neither the renewals nor the course of an operation: it tells the front end, or
    counts something else than the end of a renewal. -/
def Entry.IsRemark : Entry → Prop
  | .told _ => True
  | .counted (.renewal result) => result = .noRefreshToken
  | .counted _ => True
  | _ => False

namespace Journal

variable {j : Journal}

/-- A view that shows no remarks shows nothing of remarks alone. -/
theorem filterMap_of_remarks {α : Type*} {f : Entry → Option α} (h : ∀ e ∈ j, e.IsRemark)
    (hf : ∀ e, e.IsRemark → f e = none) : j.filterMap f = [] :=
  List.filterMap_eq_nil_iff.2 fun e he => hf e (h e he)

variable (h : ∀ e ∈ j, e.IsRemark)

include h

theorem renewals_of_remarks : renewals j = [] := by
  refine filterMap_of_remarks h fun e he => ?_
  cases e with
  | renewing => exact he.elim
  | _ => rfl

theorem renewalRequests_of_remarks : renewalRequests j = [] := by
  refine filterMap_of_remarks h fun e he => ?_
  cases e with
  | sent => exact he.elim
  | _ => rfl

theorem requests_of_remarks : requests j = [] := by
  refine filterMap_of_remarks h fun e he => ?_
  cases e with
  | sent => exact he.elim
  | _ => rfl

theorem asked_of_remarks : asked j = [] := by
  refine filterMap_of_remarks h fun e he => ?_
  cases e with
  | asked => exact he.elim
  | _ => rfl

theorem grants_of_remarks : grants j = [] := by
  refine filterMap_of_remarks h fun e he => ?_
  cases e with
  | granted => exact he.elim
  | _ => rfl

theorem results_of_remarks : results j = [] := by
  refine filterMap_of_remarks h fun e he => ?_
  cases e with
  | finished => exact he.elim
  | _ => rfl

theorem total_renewal_of_remarks {r : RenewalResult} (hr : r ≠ .noRefreshToken) :
    total (.renewal r) j = 0 := by
  refine List.count_eq_zero.2 fun hmem => ?_
  obtain ⟨e, he, hc⟩ := List.mem_filterMap.1 hmem
  cases e with
  | counted c =>
    obtain rfl : c = .renewal r := Option.some.inj hc
    exact hr (h _ he)
  | _ => cases hc

theorem ended_of_remarks : ended j = 0 := by
  simp only [ended, total_renewal_of_remarks h (r := .ok) nofun,
    total_renewal_of_remarks h (r := .failed) nofun,
    total_renewal_of_remarks h (r := .discarded) nofun,
    total_renewal_of_remarks h (r := .abandoned) nofun]

end Journal

end ShopClient
