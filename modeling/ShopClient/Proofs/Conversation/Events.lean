import ShopClient.Proofs.Session.Course
import ShopClient.Session.Conversation

/-!
# Conversations as runs

A conversation with the shop is a run of the session. Exchanges end, a renewal ends, and what was handed
over is picked up; nothing is started or dropped on the way, and nobody changes the session from outside
(`Responds`). So what holds of runs holds of conversations.

* `responds_settle`: what ends by itself;
* `responds_converse`: a conversation.
-/

namespace ShopClient

/-- Whether something happens to a session only because somebody answers it, or because it goes on. -/
def Event.IsResponse : Event → Prop
  | .answer _ _ | .answerRenewal _ | .resolve _ | .resume => True
  | _ => False

namespace Session

variable {σ : Type} [Storage σ] {s s₁ s' : Session σ}

/-- `s'` is what becomes of `s` in the course of responses. -/
def Responds (s s' : Session σ) : Prop :=
  ∃ events : List Event, (∀ e ∈ events, e.IsResponse) ∧ s' = s.run events

theorem Responds.refl (s : Session σ) : s.Responds s := ⟨[], List.forall_mem_nil _, rfl⟩

theorem Responds.trans (h : s.Responds s₁) (h' : s₁.Responds s') : s.Responds s' := by
  obtain ⟨events, he, rfl⟩ := h
  obtain ⟨events', he', rfl⟩ := h'
  exact ⟨events ++ events', List.forall_mem_append.2 ⟨he, he'⟩, List.foldl_append.symm⟩

theorem responds_step {e : Event} (he : e.IsResponse) (s : Session σ) : s.Responds (s.step e) :=
  ⟨[e], List.forall_mem_singleton.2 he, rfl⟩

/-- One response after the other. -/
theorem responds_foldl {α : Type} {f : Session σ → α → Session σ}
    (h : ∀ (s : Session σ) a, s.Responds (f s a))
    (as : List α) (s : Session σ) : s.Responds (as.foldl f s) := by
  induction as generalizing s with
  | nil => exact .refl s
  | cons a as ih => exact (h s a).trans (ih (f s a))

/-! ### What ends by itself -/

theorem responds_settleRenewal (link : Link) (s : Session σ) : s.Responds (s.settleRenewal link) := by
  unfold settleRenewal
  split
  · exact .refl s
  · split
    · split
      · exact .refl s
      · exact responds_step (e := .answerRenewal .unanswered) trivial s
    · rename_i e _
      exact responds_step (e := .resolve (.error (.transport e.message))) trivial s

theorem responds_settleTasks (link : Link) (s : Session σ) : s.Responds (s.settleTasks link) := by
  refine responds_foldl (fun s entry => ?_) s.tasks s
  split
  · split
    · exact .refl s
    · exact responds_step (e := .answer entry.1 .unanswered) trivial s
  · exact .refl s

theorem responds_settle (link : Link) (s : Session σ) : s.Responds (s.settle link) := by
  have hresumes (s : Session σ) : s.Responds s.resumeAll :=
    responds_foldl (fun s _ => responds_step (e := .resume) trivial s) s.handed s
  exact ((responds_settleRenewal link s).trans (hresumes _)).trans (responds_settleTasks link _)

/-! ### Conversations -/

theorem responds_endNext {link : Link} {x : Exchange} (h : s.endNext? link x = some s') :
    s.Responds s' := by
  unfold endNext? at h
  split at h
  · obtain rfl := Option.some.inj h
    exact responds_step (e := .answerRenewal x) trivial s
  · obtain ⟨entry, -, rfl⟩ := Option.map_eq_some_iff.1 h
    exact responds_step (e := .answer entry.1 x) trivial s

theorem responds_converse (link : Link) (exchanges : List Exchange) (s : Session σ) :
    s.Responds (s.converse link exchanges) := by
  induction exchanges generalizing s with
  | nil => exact responds_settle .down s
  | cons x rest ih =>
    have hsettles := responds_settle link s
    rw [converse]
    split
    · rename_i s₁ hs₁
      exact (hsettles.trans (responds_endNext hs₁)).trans (ih s₁)
    · exact hsettles

end Session

end ShopClient
