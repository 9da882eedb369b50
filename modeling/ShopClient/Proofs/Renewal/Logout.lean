import ShopClient.Proofs.Renewal.Landing
import ShopClient.Proofs.Renewal.Outcomes

/-!
# Logouts during a renewal

A renewal takes the epoch along when it is started. As long as it is in flight its epoch does not
change, while that of the session counts the logouts; so the two differ at the end of the renewal if and
only if there was a logout in between, and then its result is thrown away.

* `goes_run`: along a run the epoch counts the logouts;
* `flight_run`: as long as no other renewal is started, the one in flight stays what it is;
* `logout_wins`: the result of a renewal is stored if and only if there was no logout since.
-/

namespace ShopClient

/-- Nothing that a user could tell differs between `l` and `l'`, nor does the epoch. -/
structure Lifecycle.Untouched {σ : Type} (l l' : Lifecycle σ) : Prop where
  store : l'.store = l.store
  profile : l'.profile = l.profile
  active : l'.active = l.active
  epoch : l'.epoch = l.epoch
  notices : l'.journal.notices = l.journal.notices

namespace Session

variable {σ : Type} [Storage σ] {s s' : Session σ}

/-! ### The course of the lifecycle -/

theorem Advances.goes {id : TaskId} {again : Bool} (h : Advances id again s s') :
    s.lifecycle.Goes s'.lifecycle := by
  cases h with
  | ends hr =>
    obtain ⟨l, hl, rfl⟩ := hr
    exact .log (.becomes .refl hl) nofun
  | sends hr _ =>
    obtain ⟨l, hl, rfl⟩ := hr
    exact .log (.becomes .refl hl) nofun

theorem Turn.goes {lost : List TaskId} {dealt : List (TaskId × Granted)}
    (ht : Turn s lost dealt s') : s.lifecycle.Goes s'.lifecycle := by
  cases ht with
  | rests hr =>
    obtain ⟨l, hl, rfl⟩ := hr
    exact .becomes .refl hl
  | advances _ ha => exact ha.goes
  | parks => exact .log .refl nofun
  | @drives id want s' _ _ _ _ hs' =>
    have hlaunched : s.lifecycle.Goes (s.launched id want).lifecycle :=
      .log (.log .refl (e := .asked id) nofun) nofun
    rcases hs' with rfl | ⟨o, rfl⟩
    · exact hlaunched
    · exact hlaunched.log nofun
  | @denied id s₁ s' _ _ _ hr ha =>
    obtain ⟨l, hl, rfl⟩ := hr
    have hasked : s.lifecycle.Goes (s.log (.asked id)).lifecycle := .log .refl nofun
    exact ((hasked.becomes hl).log (e := .granted _ _) nofun).trans ha.goes
  | @concludes f granted l r s' _ hl _ ha =>
    have hcount : s.lifecycle.Goes (l.count (.renewal r)) := .log (.becomes .refl hl) nofun
    exact (hcount.log (e := .granted _ _) nofun).trans ha.goes
  | picksUp _ ha => exact .trans (.log .refl (e := .granted _ _) nofun) ha.goes
  | skips => exact .refl
  | leaves => exact .refl
  | abandons => exact .log .refl nofun
  | turnsAway => exact .refl

theorem goes_step (h : s.InOrder []) (e : Event) : s.lifecycle.Goes (s.step e).lifecycle := by
  have ht := (turn_step h e).goes
  rwa [lifecycle_opened] at ht

theorem goes_run (h : s.InOrder []) (events : List Event) :
    s.lifecycle.Goes (s.run events).lifecycle := by
  induction events generalizing s with
  | nil => exact .refl
  | cons e events ih => exact (goes_step h e).trans (ih (inOrder_step h e))

/-! ### The renewal in flight -/

theorem length_renewals_run (h : s.InOrder []) (events : List Event) :
    s.lifecycle.journal.renewals.length ≤ (s.run events).lifecycle.journal.renewals.length := by
  induction events generalizing s with
  | nil => exact Nat.le_refl _
  | cons e events ih =>
    refine Nat.le_trans ?_ (ih (inOrder_step h e))
    rcases flights_step h e with hc | hs | he
    · exact Nat.le_of_eq (congrArg List.length hc.renewals.symm)
    · rw [hs.renewals, List.length_append]
      exact Nat.le_add_right _ _
    · exact Nat.le_of_eq (congrArg List.length he.renewals.symm)

/-- As long as no other renewal is started, the one in flight stays what it is, or ends. -/
theorem flight_run (h : s.InOrder []) {events : List Event}
    (hsame : (s.run events).lifecycle.journal.renewals = s.lifecycle.journal.renewals) :
    (s.run events).flight = none ∨
      (s.run events).flight.map (·.bare) = s.flight.map (·.bare) := by
  induction events generalizing s with
  | nil => exact .inr rfl
  | cons e events ih =>
    have h' := inOrder_step h e
    rcases flights_step h e with hc | hs | he
    · rcases ih h' (hsame.trans hc.renewals.symm) with hnone | hsome
      · exact .inl hnone
      · exact .inr (hsome.trans hc.flight)
    · -- Another renewal would have been started.
      have hle := length_renewals_run h' events
      have heq : ((s.step e).run events).lifecycle.journal.renewals =
        s.lifecycle.journal.renewals := hsame
      rw [heq, hs.renewals, List.length_append] at hle
      exact absurd hle (Nat.not_succ_le_self _)
    · rcases ih h' (hsame.trans he.renewals.symm) with hnone | hsome
      · exact .inl hnone
      · rw [he.idle, Option.map_none, Option.map_eq_none_iff] at hsome
        exact .inl hsome

/-! ### The end of a renewal -/

/-- The renewal in flight is that which was started when `s` came to be, if no other was started
    since. -/
theorem epoch_of_flight (h : s.InOrder []) {e : Event} (hidle : s.flight = none)
    (hstarts : (s.step e).flight ≠ none) {events : List Event}
    (hsame : ((s.step e).run events).lifecycle.journal.renewals =
      (s.step e).lifecycle.journal.renewals)
    {f : Flight} (hf : ((s.step e).run events).flight = some f) :
    f.epoch = (s.step e).lifecycle.epoch := by
  rcases flights_step h e with hc | hs | he
  · have hnone := hc.flight
    rw [hidle, Option.map_none, Option.map_eq_none_iff] at hnone
    exact absurd hnone hstarts
  · obtain ⟨f₁, hf₁, -, hepoch⟩ := hs.flight
    rcases flight_run (inOrder_step h e) hsame with hnone | hbare
    · exact nomatch hf.symm.trans hnone
    · rw [hf, hf₁] at hbare
      have hb : f.bare = f₁.bare := Option.some.inj hbare
      exact (congrArg Flight.epoch hb).trans hepoch
  · obtain ⟨f₁, hf₁⟩ := he.flight
    exact nomatch hidle.symm.trans hf₁

/-- The epoch is that of the start of a renewal if and only if there was no logout since. -/
theorem epoch_eq_iff {l l' : Lifecycle σ} (hl : l.CountsLogouts) (hg : l.Goes l')
    (hlt : l'.logouts < UInt64.size) : l'.epoch = l.epoch ↔ l'.logouts = l.logouts := by
  rw [hl, hg.countsLogouts hl]
  constructor
  · -- Up to 64 bits no two numbers of logouts give one epoch.
    intro h
    have h' := congrArg UInt64.toNat h
    rw [UInt64.toNat_ofNat_of_lt' hlt,
      UInt64.toNat_ofNat_of_lt' (Nat.lt_of_le_of_lt hg.logouts_le hlt)] at h'
    exact h'
  · intro h
    rw [h]

omit [Storage σ] in
theorem untouched_log {l l' : Lifecycle σ} (h : l.Untouched l') {e : Entry}
    (he : Journal.notices [e] = []) : l.Untouched (l'.log e) :=
  { h with
    notices := (Journal.view_append_of_nil he).trans h.notices }

/-- Whoever does not send its request again leaves the lifecycle as it is. -/
theorem untouched_grant {want : Want} (hw : ∀ call, want ≠ .replay call) (id : TaskId)
    (granted : Granted) (s : Session σ) :
    s.lifecycle.Untouched (s.grant id want granted).lifecycle := by
  have hrefl : s.lifecycle.Untouched s.lifecycle := ⟨rfl, rfl, rfl, rfl, rfl⟩
  have hlog := untouched_log hrefl (e := .granted id granted) rfl
  cases want with
  | replay call => exact absurd rfl (hw call)
  | token => exact untouched_log hlog (e := .finished id _) rfl
  | acknowledgement => exact untouched_log hlog (e := .finished id _) rfl

/-- Whoever is told that the session is over leaves the lifecycle as it is, unless it fetches the
    profile. -/
theorem untouched_grant_expired {want : Want}
    (hw : ∀ call, want = .replay call → call.goal ≠ .profile) (id : TaskId) (s : Session σ) :
    s.lifecycle.Untouched (s.grant id want (.error .sessionExpired)).lifecycle := by
  cases want with
  | replay call =>
    have hrefl : s.lifecycle.Untouched s.lifecycle := ⟨rfl, rfl, rfl, rfl, rfl⟩
    have hlog := untouched_log hrefl (e := .granted id (.error .sessionExpired)) rfl
    have hcount := untouched_log hlog (e := .counted (.request .sessionExpired)) rfl
    have hfail := untouched_log hcount (e := .finished id (.error .sessionExpired)) rfl
    simp only [grant, fail]
    split
    · rename_i hgoal
      exact absurd hgoal (hw call rfl)
    · exact hfail
  | token => exact untouched_grant (by rintro _ ⟨⟩) id _ s
  | acknowledgement => exact untouched_grant (by rintro _ ⟨⟩) id _ s

/-- The result of a renewal is stored if and only if there was no logout since it was started, whatever
    else happened in the meantime. If there was one, the end of the renewal changes nothing that a user
    could tell, and its driver and all who wait for it are told that the session is over. If there was
    none, the session has the new tokens, and its profile and its epoch are the same.

    The renewal is started by `first`, with which the session `s₀` becomes `s₁`; it is still in flight in
    `s₂`, and ends with `last`. What its driver does then is its own affair: whoever wanted no more than
    the token does nothing, and of those who are told that the session is over only the one that fetches
    the profile ends it. -/
theorem logout_wins (settings : Settings) (store : CredentialStore σ) (before during : List Event)
    (first last : Event) (f : Flight) (renewed : Renewed) (s₀ s₁ s₂ : Session σ)
    (h₀ : s₀ = (ofStore settings store).run before) (hidle : s₀.isRefreshing = false)
    (h₁ : s₁ = s₀.step first) (hstarts : s₁.isRefreshing = true) (h₂ : s₂ = s₁.run during)
    (hsame : s₂.lifecycle.journal.renewals = s₁.lifecycle.journal.renewals)
    (hf : s₂.flight = some f) (hlt : s₂.lifecycle.logouts < UInt64.size)
    (hlast : last.renewal? s₂ = some (.ok renewed)) :
    let s₃ := s₂.settled f (.ok renewed)
    let granted := s₂.verdict f (.ok renewed)
    ((s₂.lifecycle.storeRenewed f.epoch renewed).1 = true ↔
      s₂.lifecycle.logouts = s₁.lifecycle.logouts) ∧
    (s₂.lifecycle.logouts ≠ s₁.lifecycle.logouts →
      granted = .error .sessionExpired ∧ s₂.lifecycle.Untouched s₃.lifecycle) ∧
    (s₂.lifecycle.logouts = s₁.lifecycle.logouts →
      granted = .ok renewed.access ∧
      s₃.lifecycle.store = s₂.lifecycle.store.set renewed.access renewed.refresh ∧
      s₃.lifecycle.store.current.access = renewed.access ∧
      (∀ r, renewed.refresh = some r → r ≠ "" → s₃.lifecycle.store.current.refresh = r) ∧
      s₃.lifecycle.profile = s₂.lifecycle.profile ∧
      s₃.lifecycle.epoch = s₂.lifecycle.epoch) ∧
    (s₂.step last).lifecycle.journal.grants =
      s₂.lifecycle.journal.grants ++ [(f.driver, granted)] ∧
    (s₂.step last).handed = s₂.handed ++ f.waiters.map (·, granted) ∧
    ∃ want, s₂.task? f.driver = some (.renewal want) ∧
      s₂.step last = s₃.grant f.driver want granted ∧
      ((∀ call, want ≠ .replay call) → s₃.lifecycle.Untouched (s₂.step last).lifecycle) ∧
      (s₂.lifecycle.logouts ≠ s₁.lifecycle.logouts →
        (∀ call, want = .replay call → call.goal ≠ .profile) →
        s₃.lifecycle.Untouched (s₂.step last).lifecycle) := by
  intro s₃ granted
  have hin₀ : s₀.InOrder [] := h₀ ▸ inOrder_run (inOrder_ofStore settings store) before
  have hin₁ : s₁.InOrder [] := h₁ ▸ inOrder_step hin₀ first
  have hin₂ : s₂.InOrder [] := h₂ ▸ inOrder_run hin₁ during
  -- The renewal took along the epoch in which it was started, and both epochs count the logouts.
  have hepoch : f.epoch = s₁.lifecycle.epoch := by
    have hnone : s₀.flight = none := by simpa [isRefreshing] using hidle
    have hsome : (s₀.step first).flight ≠ none := by
      rw [← h₁]
      exact Option.isSome_iff_ne_none.1 hstarts
    subst h₂ h₁
    exact epoch_of_flight hin₀ hnone hsome hsame hf
  have hcounts : s₁.lifecycle.CountsLogouts := by
    subst h₁ h₀
    exact (goes_step hin₀ first).countsLogouts ((goes_run (inOrder_ofStore settings store)
      before).countsLogouts (Lifecycle.countsLogouts_ofStore store))
  have hiff : s₂.lifecycle.epoch = f.epoch ↔ s₂.lifecycle.logouts = s₁.lifecycle.logouts := by
    rw [hepoch]
    refine epoch_eq_iff hcounts ?_ hlt
    exact h₂ ▸ goes_run hin₁ during
  obtain ⟨want, ht, hw, hresolve⟩ := resolve_eq hin₂ hf (.ok renewed)
  have hstep : s₂.step last = s₃.grant f.driver want granted :=
    (step_of_renewal? hlast).trans hresolve
  have hgoesOn : (s₃.log (.granted f.driver granted)).SameRenewals (s₂.step last) :=
    hstep ▸ (advances_grant hw granted s₃).sameRenewals
  obtain ⟨l, r, hl, -, hconclude⟩ := conclude_eq f (.ok renewed) s₂
  have hs₃ : s₃ = ({ s₂ with flight := none, lifecycle := l.count (.renewal r) } :
      Session σ).handOver f.waiters granted := by
    simp only [s₃, settled, hconclude, granted]
  refine ⟨fst_storeRenewed_iff.trans hiff, fun hne => ?_, fun heq => ?_, ?_, ?_, want, ht, hstep,
    fun hreplay => ?_, fun hne hprofile => ?_⟩
  · obtain ⟨hgranted, hlifecycle⟩ := settled_discarded (fun h => hne (hiff.1 h)) renewed
    have hrefl : s₂.lifecycle.Untouched s₂.lifecycle := ⟨rfl, rfl, rfl, rfl, rfl⟩
    exact ⟨hgranted, hlifecycle ▸ untouched_log hrefl rfl⟩
  · obtain ⟨hgranted, hlifecycle⟩ := settled_stored (hiff.2 heq) renewed
    have hstore : s₃.lifecycle.store = s₂.lifecycle.store.set renewed.access renewed.refresh :=
      congrArg Lifecycle.store hlifecycle
    refine ⟨hgranted, hstore, ?_, fun r hr hne => ?_, ?_, ?_⟩
    · rw [hstore, CredentialStore.access_set]
    · rw [hstore, hr, CredentialStore.refresh_set_some hne]
    · exact (congrArg Lifecycle.profile hlifecycle).trans rfl
    · exact (congrArg Lifecycle.epoch hlifecycle).trans rfl
  · -- The driver is told, and the journal says so before it goes on.
    rw [hgoesOn.grants]
    refine (Journal.grants_append _ [.granted f.driver granted]).trans (congrArg (· ++ _) ?_)
    rw [hs₃]
    exact (Lifecycle.grants_count (.renewal r) l).trans hl.grants_eq
  · rw [hgoesOn.handed]
    exact congrArg handed hs₃
  · rw [hstep]
    exact untouched_grant hreplay _ _ _
  · obtain ⟨hgranted, -⟩ := settled_discarded (fun h => hne (hiff.1 h)) renewed
    rw [hstep, show granted = .error .sessionExpired from hgranted]
    exact untouched_grant_expired hprofile _ _

/-- A logout during a renewal, after which somebody else signs in: the new tokens stay. -/
theorem logout_wins_over_late_result :
    let s₀ : Session Memory := ofStore {} ⟨⟨[]⟩, ⟨"a", "r"⟩⟩
    let s₁ := s₀.step (.start .renew)
    let s₂ := s₁.run [.act .logout, .act (.storeCredentials "n" (some "m"))]
    let s₃ := s₂.step (.resolve (.ok ⟨"b", none⟩))
    s₃.lifecycle.store.current = ⟨"n", "m"⟩ ∧
      s₃.lifecycle.journal.grants = [(0, .error .sessionExpired)] := by
  intro s₀ s₁ s₂ s₃
  let launched₀ : Session Memory := ({ s₀ with started := 1 } : Session Memory).launched 0 .token
  have hs₁ : s₁ = launched₀ ∨ ∃ o, s₁ = launched₀.log (.sent .renewal o) := by
    rw [show s₁ = _ from renewThen_of_idle (s := { s₀ with started := 1 }) rfl (by decide) 0 .token]
    split
    · exact .inr ⟨_, rfl⟩
    · exact .inl rfl
  have hfacts : s₁.isRefreshing = true ∧ s₁.lifecycle.logouts = 0 ∧ s₂.lifecycle.logouts = 1 ∧
      s₂.lifecycle.journal.renewals = s₁.lifecycle.journal.renewals ∧
      s₂.flight = some ⟨0, "r", 0, []⟩ ∧ s₂.task? 0 = some (.renewal .token) ∧
      s₂.lifecycle.journal.grants = [] ∧ s₂.lifecycle.store.current = ⟨"n", "m"⟩ := by
    simp only [s₂]
    rcases hs₁ with h | ⟨o, h⟩ <;> rw [h] <;> exact ⟨rfl, rfl, rfl, rfl, rfl, rfl, rfl, rfl⟩
  obtain ⟨hstarts, hlogouts₁, hlogouts₂, hsame, hf, ht, hgrants, hstore⟩ := hfacts
  have hlt : s₂.lifecycle.logouts < UInt64.size := by
    rw [hlogouts₂]
    decide
  have hne : s₂.lifecycle.logouts ≠ s₁.lifecycle.logouts := by
    rw [hlogouts₁, hlogouts₂]
    decide
  obtain ⟨-, hdiscarded, -, htold, -, want, ht', -, htoken, -⟩ := logout_wins {} ⟨⟨[]⟩, ⟨"a", "r"⟩⟩ []
    [.act .logout, .act (.storeCredentials "n" (some "m"))] (.start .renew)
    (.resolve (.ok ⟨"b", none⟩)) _ ⟨"b", none⟩ s₀ s₁ s₂ rfl rfl rfl hstarts rfl hsame hf hlt rfl
  obtain ⟨hgranted, huntouched⟩ := hdiscarded hne
  have hwant : want = .token := by simpa [ht] using ht'.symm
  constructor
  · rw [(htoken (by rw [hwant]; rintro _ ⟨⟩)).store, huntouched.store]
    exact hstore
  · rw [htold, hgrants, hgranted]
    rfl

end Session

end ShopClient
