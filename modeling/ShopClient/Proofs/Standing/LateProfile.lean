import ShopClient.Proofs.Renewal.Answer
import ShopClient.Proofs.Standing.Effect
import Mathlib.Data.List.Infix

/-!
# Late profiles

A profile is cached when it comes, whatever has become of the session since it was asked for. A logout
drops the profile that is there, and not one that is still to come. So a profile that comes when there
are no tokens is cached beside none: it was asked for before a logout, or without anybody signed in.

Nothing else leaves a profile without tokens. What stores tokens stores an access token, and what
clears them drops the profile with them.

* `Event.IsOwn`: what happens to a session that is not changed behind the back of its operations;
* `lapsed_step_iff`: in which steps a profile comes to be left without tokens;
* `profile_gone_iff`: there is never a profile without tokens in a run if and only if none comes
  when there are no tokens.
-/

namespace ShopClient

/-- What the operations of a session, its shop and a logout can bring about. A renewal that ends well
    brings an access token. -/
def Event.IsOwn : Event → Prop
  | .act .logout => True
  | .act _ => False
  | .resolve (.ok renewed) => renewed.access ≠ ""
  | _ => True

instance : DecidablePred Event.IsOwn := fun e =>
  match e with
  | .act .logout => .isTrue trivial
  | .act (.storeCredentials ..) | .act (.writeStore ..) | .act (.storeRenewed ..)
  | .act (.setProfile _) | .act .expire | .act (.notify _) => .isFalse id
  | .resolve (.ok renewed) => inferInstanceAs (Decidable (renewed.access ≠ ""))
  | .resolve (.error _) | .start _ | .answer .. | .answerRenewal _ | .resume | .abort _ | .reset =>
    .isTrue trivial

theorem Event.IsOwn.access_ne {σ : Type} {s : Session σ} {e : Event} (h : e.IsOwn)
    {renewed : Renewed} (he : e.renewal? s = some (.ok renewed)) : renewed.access ≠ "" := by
  cases e with
  | resolve result =>
    obtain rfl := Option.some.inj he
    exact h
  | answerRenewal x =>
    obtain ⟨f, -, hresult⟩ := Option.map_eq_some_iff.1 he
    exact Flight.access_ne_of_result hresult
  | _ => cases he

namespace Lifecycle

variable {σ : Type} {l l' : Lifecycle σ}

/-- If there are no tokens, there is no profile either. -/
def IsBare (l : Lifecycle σ) : Prop := l.store.current = {} → l.profile = none

theorem Agrees.isBare_iff (h : l.Agrees l') : l'.IsBare ↔ l.IsBare := by
  rw [IsBare, IsBare, h.store, h.profile]

variable [Storage σ]

theorem isBare_of_ended (h : l.logout.2.Agrees l') : l'.IsBare := by
  rw [h.isBare_iff]
  exact fun _ => profile_logout l

theorem StaysOrEnds.isBare (h : l.StaysOrEnds l') (hl : l.IsBare) : l'.IsBare :=
  h.elim (fun h => h.isBare_iff.2 hl) isBare_of_ended

/-- With an access token there are tokens. -/
theorem isBare_storeCredentials {access : String} (h : access ≠ "") (refresh : Option String)
    (l : Lifecycle σ) : (l.storeCredentials access refresh).IsBare := by
  intro hcurrent
  have haccess := access_storeCredentials access refresh l
  rw [hcurrent] at haccess
  exact absurd haccess.symm h

end Lifecycle

namespace Session

variable {σ : Type} [Storage σ] {s : Session σ} {e : Event}

omit [Storage σ] in
theorem delivery?_of_profile? {p : Profile} (h : s.profile? e = some p) :
    ∃ d payload, s.delivery? e = some d ∧ (d.call.goal = .profile ∨ d.call.goal = .changedProfile) ∧
      payload? d.answer = some payload ∧ Profile.decode payload = .ok p := by
  have hgoal : ∃ d, s.delivery? e = some d ∧
      (d.call.goal = .profile ∨ d.call.goal = .changedProfile) := by
    rw [profile?] at h
    split at h
    · rename_i hd
      exact ⟨_, hd, .inl rfl⟩
    · rename_i hd
      exact ⟨_, hd, .inr rfl⟩
    · cases h
  obtain ⟨d, hd, hgoal⟩ := hgoal
  rw [profile?_of_delivery? hd hgoal] at h
  obtain ⟨payload, hp, hdecode⟩ := Option.bind_eq_some_iff.1 h
  refine ⟨d, payload, hd, hgoal, hp, ?_⟩
  cases hprofile : Profile.decode payload with
  | ok p' =>
    rw [hprofile] at hdecode
    rw [Option.some.inj hdecode]
  | error m =>
    rw [hprofile] at hdecode
    cases hdecode

/-- The profile that comes is cached. -/
theorem caches_of_profile? {p : Profile} (h : s.profile? e = some p) :
    (s.lifecycle.setProfile (some p)).Agrees (s.step e).lifecycle := by
  obtain ⟨d, payload, hd, hgoal, hp, hdecode⟩ := delivery?_of_profile? h
  rw [(step_of_delivery? hd).1, receive_of_payload hp]
  exact agrees_succeed_profile hgoal hdecode

omit [Storage σ] in
/-- No profile comes in `e` without there being tokens. -/
def IsTimely (s : Session σ) (e : Event) : Prop :=
  s.lifecycle.store.current = {} → s.profile? e = none

instance : Decidable (s.IsTimely e) :=
  inferInstanceAs (Decidable (s.lifecycle.store.current = {} → s.profile? e = none))

/-- No profile comes in the course of `events` without there being tokens. -/
def AreTimely : List Event → Session σ → Prop
  | [], _ => True
  | e :: events, s => s.IsTimely e ∧ AreTimely events (s.step e)

instance : (events : List Event) → (s : Session σ) → Decidable (AreTimely events s)
  | [], _ => .isTrue trivial
  | e :: events, s =>
    have := instDecidableAreTimely events (s.step e)
    inferInstanceAs (Decidable (s.IsTimely e ∧ AreTimely events (s.step e)))

/-- What profile comes is there afterwards, beside the same tokens. -/
theorem profile_of_profile? {p : Profile} (h : s.profile? e = some p) :
    (s.step e).lifecycle.profile = some p ∧
      (s.step e).lifecycle.store.current = s.lifecycle.store.current := by
  have hcaches := caches_of_profile? h
  exact ⟨hcaches.profile, by rw [hcaches.store, Lifecycle.setProfile]⟩

/-- A step leaves a profile without tokens if and only if it is a profile that comes without there
    being tokens. -/
theorem isBare_step_iff (hs : s.lifecycle.IsBare) (he : e.IsOwn) :
    (s.step e).lifecycle.IsBare ↔ s.IsTimely e := by
  constructor
  · intro hbare hcurrent
    cases hp : s.profile? e with
    | none => rfl
    | some p =>
      obtain ⟨hprofile, hsame⟩ := profile_of_profile? hp
      exact absurd (hprofile.symm.trans (hbare (hsame.trans hcurrent))) (Option.some_ne_none p)
  · intro htimely
    cases effect_step s e with
    | rests h => exact h.isBare hs
    | @caches p hp h =>
      -- The tokens beside which a profile is cached stay there.
      refine h.isBare_iff.2 fun hcurrent => ?_
      exact absurd (hp.symm.trans (htimely hcurrent)) (Option.some_ne_none p)
    | @signsIn reply hsignIn h =>
      exact h.isBare (Lifecycle.isBare_storeCredentials (step_of_signIn? hsignIn).1 _ _)
    | renews _ hrenewal _ h =>
      exact h.isBare (Lifecycle.isBare_storeCredentials (he.access_ne hrenewal) _ _)
    | @acts action hact hl =>
      obtain rfl : action = .logout := by
        subst hact
        cases action with
        | logout => rfl
        | _ => exact he.elim
      rw [hl]
      exact fun _ => Lifecycle.profile_logout s.lifecycle

theorem isBare_run_iff {events : List Event} (hs : s.lifecycle.IsBare)
    (he : ∀ e ∈ events, e.IsOwn) :
    (∀ before, before <+: events → (s.run before).lifecycle.IsBare) ↔ AreTimely events s := by
  induction events generalizing s with
  | nil =>
    refine ⟨fun _ => trivial, fun _ before hbefore => ?_⟩
    rw [List.prefix_nil.1 hbefore]
    exact hs
  | cons e events ih =>
    have hstep := isBare_step_iff hs (he e List.mem_cons_self)
    have hrest {s' : Session σ} (hs' : s'.lifecycle.IsBare) :=
      ih hs' fun e' h => he e' (List.mem_cons_of_mem _ h)
    constructor
    · intro h
      have hbare : (s.step e).lifecycle.IsBare := h [e] (List.prefix_append [e] events)
      refine ⟨hstep.1 hbare, (hrest hbare).1 fun before hbefore => ?_⟩
      exact h (e :: before) ((List.prefix_cons_inj e).2 hbefore)
    · rintro ⟨htimely, hevents⟩ before hbefore
      cases before with
      | nil => exact hs
      | cons e' before =>
        obtain ⟨rfl, hbefore'⟩ := List.cons_prefix_cons.1 hbefore
        exact (hrest (hstep.2 htimely)).2 hevents before hbefore'

/-- At no time in a run is there a profile without tokens, if and only if no profile comes without
    there being tokens. One that does is cached, and there are no tokens then either. -/
theorem profile_gone_iff (settings : Settings) (store : CredentialStore σ) {events : List Event}
    (he : ∀ e ∈ events, e.IsOwn) :
    let s₀ := ofStore settings store
    ((∀ before, before <+: events → (s₀.run before).lifecycle.IsBare) ↔ AreTimely events s₀) ∧
      ∀ before e p, before ++ [e] <+: events → (s₀.run before).lifecycle.store.current = {} →
        (s₀.run before).profile? e = some p →
          (s₀.run (before ++ [e])).lifecycle.store.current = {} ∧
            (s₀.run (before ++ [e])).lifecycle.profile = some p := by
  intro s₀
  refine ⟨isBare_run_iff (fun _ => rfl) he, fun before e p _ hcurrent hp => ?_⟩
  obtain ⟨hprofile, hsame⟩ := profile_of_profile? hp
  rw [run_concat]
  exact ⟨hsame.trans hcurrent, hprofile⟩

/-- Somebody signs in, gets a profile, changes it and logs out: it is gone with the tokens. -/
theorem profile_gone_after_logout :
    let profile : Exchange := .answered 200 (Text.Utf8.encode "\x7b\"id\": 1\x7d")
    let events : List Event := signingIn 0 "r2" ++ [.answer 0 profile, .start (.changeProfile {}),
      .answer 1 profile, .act .logout]
    let s₀ : Session Memory := ofStore {} ⟨⟨[]⟩, {}⟩
    (s₀.run (events.take 5)).lifecycle.profile.isSome = true ∧
      (s₀.run events).lifecycle.store.current = {} ∧ (s₀.run events).lifecycle.profile = none := by
  intro profile events s₀
  have hown : ∀ e ∈ events, e.IsOwn := by decide +kernel
  have htimely : AreTimely events s₀ := by decide +kernel
  have hbare : (s₀.run events).lifecycle.IsBare :=
    (profile_gone_iff {} _ hown).1.2 htimely events (List.prefix_refl events)
  have hcurrent : (s₀.run events).lifecycle.store.current = {} := by decide +kernel
  exact ⟨by decide +kernel, hcurrent, hbare hcurrent⟩

/-- A profile is asked for, and comes after a logout: it is cached, and there are no tokens. -/
theorem profile_outlives_session :
    let events : List Event := [.start .fetchProfile, .act .logout, .answer 0 (.answered 200
      (Text.Utf8.encode "\x7b\"id\": 1\x7d"))]
    let s₀ : Session Memory := ofStore {} ⟨⟨[]⟩, ⟨"a1", "r1"⟩⟩
    (∀ e ∈ events, e.IsOwn) ∧ (s₀.run events).lifecycle.store.current = {} ∧
      (s₀.run events).lifecycle.profile = some { id := 1 } := by
  decide +kernel

end Session

end ShopClient
