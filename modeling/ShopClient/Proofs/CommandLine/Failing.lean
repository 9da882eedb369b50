import ShopClient.Proofs.CommandLine.Lacking
import ShopClient.Proofs.Conversation.Over
import ShopClient.Proofs.Conversation.Yields

/-!
# Failing early

A run of a command prints something and ends with success, or it prints nothing and fails. If it lacks
something from the start, it fails before anything happens: nothing is sent, and the disk stays as it
was. And when a run fails in such a way, that is the reason, as no answer of the shop comes to it.

* `Arguments.result`: what a run prints, or why it fails;
* `output_ne_iff`: it prints something after a success, and only then;
* `result_ne_unfinished`: no run stops in the middle;
* `lacks_iff`: the early failures, and what is lacking;
* `Lacks.quiet`: nothing happens then;
* `run_of_parse`: all of this for the program.
-/

namespace ShopClient.CommandLine

variable {a : Arguments} {w : Surroundings} {f : Failure} {s : Session FileStorage}

/-! ### Results -/

/-- What a run prints, or why it fails. -/
def Arguments.result (a : Arguments) (w : Surroundings) : Except Failure String :=
  match openSession a w with
  | .ok s => (a.command.carryOut w s).1
  | .error f => .error f

/-- A run lacks something at once, or has an operation carried out, or prints something at once. -/
theorem Arguments.result_cases (a : Arguments) (w : Surroundings) :
    (∃ f, a.result w = .error f ∧ Lacks a w f) ∨
    (∃ s operation, openSession a w = .ok s ∧ a.command.Asks operation ∧
      a.result w = (a.command.converse operation w s).1) ∨
    ∃ line, a.result w = .ok (line ++ "\n") := by
  rw [result]
  split
  · rename_i s hs
    rcases a.command.carryOut_cases w s with
      ⟨f, hneeds, hpassword, hcarry⟩ | ⟨operation, hasks, hcarry⟩ | ⟨line, s', hcarry⟩
    · exact .inl ⟨f, congrArg Prod.fst hcarry, lacks_of_password hs hneeds hpassword⟩
    · exact .inr (.inl ⟨s, operation, hs, hasks, congrArg Prod.fst hcarry⟩)
    · exact .inr (.inr ⟨line, congrArg Prod.fst hcarry⟩)
  · rename_i f hs
    exact .inl ⟨f, rfl, lacks_of_openSession hs⟩

theorem runCommand_of_ok {text : String} (h : a.result w = .ok text) :
    (runCommand a w).exitCode = 0 ∧ (runCommand a w).output = text := by
  rw [Arguments.result] at h
  split at h
  · rename_i s hs
    simp only [runCommand, hs, h, and_self]
  · cases h

theorem runCommand_of_error (h : a.result w = .error f) :
    (runCommand a w).exitCode = 1 ∧ (runCommand a w).output = "" ∧
      ∃ shown, (runCommand a w).errors = shown ++ (f.message ++ "\n") := by
  rw [Arguments.result] at h
  split at h
  · rename_i s hs
    simp only [runCommand, hs, h, true_and]
    exact ⟨_, String.append_assoc⟩
  · rename_i f' hs
    obtain rfl := Except.error.inj h
    simp only [runCommand, hs, true_and]
    exact ⟨"", (String.empty_append).symm⟩

/-- A command that succeeds prints a line. -/
theorem exists_line_of_report {command : Command} {o : Outcome} {text : String}
    (h : command.report o = .ok text) : ∃ line, text = line ++ "\n" := by
  rcases o with access | v | (_ | p) | (_ | _)
  · exact ⟨_, (Except.ok.inj h).symm⟩
  · exact ⟨_, (Except.ok.inj h).symm⟩
  · cases h
  · exact ⟨_, (Except.ok.inj h).symm⟩
  · cases h
  · exact ⟨"access credential renewed", (Except.ok.inj h).symm⟩

theorem exists_line_of_converse {command : Command} {operation : Operation} {text : String}
    (h : (command.converse operation w s).1 = .ok text) : ∃ line, text = line ++ "\n" := by
  simp only [Command.converse] at h
  split at h
  · exact exists_line_of_report h
  · cases h
  · cases h

/-- What is printed is a line. -/
theorem exists_line_of_result {text : String} (h : a.result w = .ok text) :
    ∃ line, text = line ++ "\n" := by
  rcases a.result_cases w with ⟨f, hresult, -⟩ | ⟨s, operation, -, -, hresult⟩ | ⟨line, hresult⟩
  · cases hresult.symm.trans h
  · exact exists_line_of_converse (hresult.symm.trans h)
  · exact ⟨line, Except.ok.inj (h.symm.trans hresult)⟩

/-- The output is not empty after a success, and only then. -/
theorem output_ne_iff (a : Arguments) (w : Surroundings) :
    (runCommand a w).output ≠ "" ↔ (runCommand a w).exitCode = 0 := by
  cases hresult : a.result w with
  | error f =>
    obtain ⟨hcode, hout, -⟩ := runCommand_of_error hresult
    rw [hcode, hout]
    decide
  | ok text =>
    obtain ⟨hcode, hout⟩ := runCommand_of_ok hresult
    obtain ⟨line, rfl⟩ := exists_line_of_result hresult
    rw [hcode, hout]
    simp

/-! ### Operations that fail -/

/-- A failure of a run before anything happens. -/
def Failure.IsEarly : Failure → Prop
  | .config _ _ | .credentials _ _ | .unreadablePassword _ | .emptyPassword => True
  | .notSignedIn | .noRefreshToken => True
  | _ => False

/-- An operation of a new session yields what makes its command fail early. -/
theorem exists_yields_of_converse {settings : Settings} {store : CredentialStore FileStorage}
    {command : Command} {operation : Operation}
    (h : (command.converse operation w (.ofStore settings store)).1 = .error f) (hf : f.IsEarly) :
    ∃ o, operation.Yields (.ofStore settings store) o ∧ command.report o = .error f := by
  simp only [Command.converse] at h
  split at h
  · rename_i o ho
    exact ⟨o, Session.yields_converse settings store ho, h⟩
  · obtain rfl := Except.error.inj h
    exact hf.elim
  · obtain rfl := Except.error.inj h
    exact hf.elim

/-- A command whose operation succeeded fails if there is no profile, or no token was renewed. -/
theorem report_eq_error {command : Command} {o : Outcome} (h : command.report o = .error f) :
    f = .noAccessToken ∨ (o = .profile none ∧ f = .notSignedIn ∧ ∀ user, command ≠ .login user) ∨
      o = .renewed false ∧ f = .noRefreshToken := by
  rcases o with access | v | (_ | p) | (_ | _)
  · cases h
  · cases h
  · obtain rfl := Except.error.inj h
    cases command with
    | login user => exact .inl rfl
    | _ => exact .inr (.inl ⟨rfl, rfl, nofun⟩)
  · cases h
  · exact .inr (.inr ⟨rfl, (Except.error.inj h).symm⟩)
  · cases h

/-- What a new session yields shows what it lacked. -/
theorem lacks_of_converse (hs : openSession a w = .ok s) {operation : Operation}
    (h : (a.command.converse operation w s).1 = .error f) (hf : f.IsEarly) :
    (operation.Yields s (.profile none) ∧ f = .notSignedIn ∧ ∀ user, a.command ≠ .login user) ∨
      operation.Yields s (.renewed false) ∧ f = .noRefreshToken := by
  obtain ⟨settings, storage, rfl, -⟩ := openSession_eq_ok hs
  obtain ⟨o, ho, hreport⟩ := exists_yields_of_converse h hf
  rcases report_eq_error hreport with rfl | ⟨rfl, hfailure, hne⟩ | ⟨rfl, hfailure⟩
  · exact hf.elim
  · exact .inl ⟨ho, hfailure, hne⟩
  · exact .inr ⟨ho, hfailure⟩

/-- A run that fails early lacks something. -/
theorem lacks_of_result (h : a.result w = .error f) (hf : f.IsEarly) : Lacks a w f := by
  rcases a.result_cases w with
    ⟨f', hresult, hlacks⟩ | ⟨s, operation, hs, hasks, hresult⟩ | ⟨line, hresult⟩
  · obtain rfl := Except.error.inj (h.symm.trans hresult)
    exact hlacks
  · have hyields := lacks_of_converse hs (hresult.symm.trans h) hf
    generalize hcommand : a.command = command at hasks hyields
    cases hasks with
    | login =>
      rcases hyields with ⟨-, -, hne⟩ | ⟨hyields, -⟩
      · exact absurd rfl (hne _)
      · exact hyields.elim
    | profile =>
      rcases hyields with ⟨hyields, rfl, -⟩ | ⟨hyields, -⟩
      · exact .accessToken hs hcommand (bne_eq_false_iff_eq.1 hyields.symm)
      · exact hyields.elim
    | refresh =>
      rcases hyields with ⟨hyields, -, -⟩ | ⟨hyields, rfl⟩
      · exact hyields.elim
      · exact .refreshToken hs hcommand (bne_eq_false_iff_eq.1 hyields.symm)
    | register | get =>
      rcases hyields with ⟨hyields, -, -⟩ | ⟨hyields, -⟩
      · exact hyields.elim
      · exact hyields.elim
  · cases hresult.symm.trans h

/-- No run stops in the middle: a conversation with the shop comes to its end. -/
theorem result_ne_unfinished (a : Arguments) (w : Surroundings) :
    a.result w ≠ .error .unfinished := by
  intro h
  rcases a.result_cases w with
    ⟨f, hresult, hlacks⟩ | ⟨s, operation, hs, -, hresult⟩ | ⟨line, hresult⟩
  · obtain rfl := Except.error.inj (hresult.symm.trans h)
    cases hlacks
  · obtain ⟨settings, storage, rfl, -⟩ := openSession_eq_ok hs
    obtain ⟨result, hends⟩ := Session.exists_result_converse settings
      (CredentialStore.restore storage) operation w.link w.exchanges
    rw [hresult] at h
    simp only [Command.converse, hends] at h
    cases result with
    | error e => cases h
    | ok o => rcases report_eq_error h with h | ⟨-, h, -⟩ | ⟨-, h⟩ <;> cases h
  · cases hresult.symm.trans h

/-! ### Nothing happens -/

/-- A session in which nothing was sent, and from which nothing was written. -/
structure IsQuiet (w : Surroundings) (s : Session FileStorage) : Prop where
  requests : s.lifecycle.journal.requests = []
  disk : s.lifecycle.store.storage.disk = w.disk

theorem isQuiet_openSession (hs : openSession a w = .ok s) : IsQuiet w s := by
  obtain ⟨settings, storage, rfl, hdisk⟩ := openSession_eq_ok hs
  exact ⟨rfl, hdisk⟩

/-- An operation that ends at once, in a new session. -/
theorem converse_of_finish (hs : openSession a w = .ok s) {operation : Operation} {o : Outcome}
    (hstart : s.start operation =
      ({ s with started := s.started + 1 } : Session FileStorage).finish s.started (.ok o))
    (command : Command) :
    ∃ s', command.converse operation w s = (command.report o, s') ∧ IsQuiet w s' := by
  obtain ⟨settings, storage, rfl, hdisk⟩ := openSession_eq_ok hs
  have hidle : ((Session.ofStore settings (.restore storage)).start operation).IsIdle := by
    rw [hstart]
    exact ⟨rfl, rfl, rfl⟩
  refine ⟨(Session.ofStore settings (.restore storage)).start operation, ?_, ?_⟩
  · simp only [Command.converse, hidle.converse]
    rw [hstart]
    rfl
  · rw [hstart]
    exact ⟨rfl, hdisk⟩

/-- Whatever is lacking, the command fails early, and nothing happens. -/
theorem Lacks.carryOut (h : Lacks a w f) : f.IsEarly ∧ (openSession a w = .error f ∨
    ∃ s s', openSession a w = .ok s ∧ a.command.carryOut w s = (.error f, s') ∧ IsQuiet w s') := by
  -- No session is opened.
  have hcredentials {config : Config} {e : StorageError} (hconfig : w.configOf a = .ok config)
      (hstorage : FileStorage.openAt config.storagePath w.process w.disk = .error e) :
      openSession a w = .error (.credentials config.storagePath e) := by
    rw [openSession_eq, hconfig]
    simp only [hstorage]
  -- A session is opened, and there is no password for it.
  have hpassword {s : Session FileStorage} {f : Failure} (hasks : w.AsksPassword a)
      (h : typedPassword w.input = .error f) : a.command.carryOut w s = (.error f, s) :=
    Command.carryOut_of_password hasks.1 (hasks.password_eq.trans h) s
  cases h with
  | config hconfig =>
    refine ⟨trivial, .inl ?_⟩
    rw [openSession_eq, hconfig]
  | readable hconfig hcontains hread =>
    exact ⟨trivial, .inl (hcredentials hconfig
      (FileStorage.openAt_eq_error_iff.2 (.inl ⟨_, hcontains, hread, rfl⟩)))⟩
  | entries hconfig hread hentries =>
    exact ⟨trivial, .inl (hcredentials hconfig
      (FileStorage.openAt_eq_error_iff.2 (.inr ⟨_, hread, hentries⟩)))⟩
  | terminal hs hasks hfailure hmem =>
    have hfails := Terminal.firstLine_eq_error_iff.2 ⟨hfailure, hmem⟩
    exact ⟨trivial, .inr ⟨_, _, hs,
      hpassword hasks (typedPassword_eq_error_iff.2 (.inl ⟨_, hfails, rfl⟩)), isQuiet_openSession hs⟩⟩
  | text hs hasks hbytes htext =>
    have hrefused := passwordIn_eq_error_iff.2 (.inl ⟨htext, rfl⟩)
    exact ⟨trivial, .inr ⟨_, _, hs,
      hpassword hasks (typedPassword_eq_error_iff.2 (.inr ⟨_, hbytes, hrefused⟩)),
      isQuiet_openSession hs⟩⟩
  | password hs hasks hbytes hline hblank =>
    have hrefused := passwordIn_eq_error_iff.2 (.inr ⟨_, hline, hblank, rfl⟩)
    exact ⟨trivial, .inr ⟨_, _, hs,
      hpassword hasks (typedPassword_eq_error_iff.2 (.inr ⟨_, hbytes, hrefused⟩)),
      isQuiet_openSession hs⟩⟩
  | @accessToken s hs hcommand haccess =>
    have hnone : s.lifecycle.store.current.hasAccess = false := bne_eq_false_iff_eq.2 haccess
    have hstart : s.start .fetchProfile =
        ({ s with started := s.started + 1 } : Session FileStorage).finish s.started
          (.ok (.profile none)) := by
      simp only [Session.start, Session.fetchProfile, hnone, Bool.false_eq_true, if_false]
    obtain ⟨s', hconverse, hquiet⟩ := converse_of_finish hs hstart .profile
    refine ⟨trivial, .inr ⟨s, s', hs, ?_, hquiet⟩⟩
    rw [hcommand]
    exact hconverse
  | @refreshToken s hs hcommand hrefresh =>
    have hnone : s.lifecycle.store.current.hasRefresh = false := bne_eq_false_iff_eq.2 hrefresh
    have hstart : s.start .renewNow =
        ({ s with started := s.started + 1 } : Session FileStorage).finish s.started
          (.ok (.renewed false)) := by
      simp only [Session.start, hnone, Bool.false_eq_true, if_false]
    obtain ⟨s', hconverse, hquiet⟩ := converse_of_finish hs hstart .refresh
    refine ⟨trivial, .inr ⟨s, s', hs, ?_, hquiet⟩⟩
    rw [hcommand]
    exact hconverse

/-- The early failures are those of runs that lack something. -/
theorem lacks_iff : Lacks a w f ↔ a.result w = .error f ∧ f.IsEarly := by
  refine ⟨fun h => ?_, fun h => lacks_of_result h.1 h.2⟩
  obtain ⟨hearly, hopen | ⟨s, s', hopen, hcarry, -⟩⟩ := h.carryOut
  · rw [Arguments.result, hopen]
    exact ⟨rfl, hearly⟩
  · rw [Arguments.result, hopen]
    exact ⟨congrArg Prod.fst hcarry, hearly⟩

/-- A run that lacks something sends nothing and leaves the disk as it is. -/
theorem Lacks.quiet (h : Lacks a w f) :
    (runCommand a w).journal.requests = [] ∧ (runCommand a w).disk = w.disk := by
  obtain ⟨-, hopen | ⟨s, s', hopen, hcarry, hquiet⟩⟩ := h.carryOut
  · simp only [runCommand, hopen]
    exact ⟨rfl, trivial⟩
  · simp only [runCommand, hopen, hcarry]
    exact ⟨hquiet.requests, hquiet.disk⟩

/-- A run whose arguments are right comes to its end, and prints something if that is a success, and only
    then. It fails early just if it lacks something. Then it names the failure, sends nothing, and leaves
    the disk as it is. -/
theorem run_of_parse {arguments : List String}
    (h : Arguments.parse (w.get? configVariable) arguments = .ok a) :
    a.result w ≠ .error .unfinished ∧
    ((run arguments w).output ≠ "" ↔ (run arguments w).exitCode = 0) ∧
    ∀ f, (a.result w = .error f ∧ f.IsEarly ↔ Lacks a w f) ∧
      (Lacks a w f → (run arguments w).exitCode = 1 ∧
        (∃ shown, (run arguments w).errors = shown ++ (f.message ++ "\n")) ∧
        (run arguments w).journal.requests = [] ∧ (run arguments w).disk = w.disk) := by
  have hrun : run arguments w = runCommand a w := by
    simp only [run, h]
  rw [hrun]
  refine ⟨result_ne_unfinished a w, output_ne_iff a w, fun f => ⟨lacks_iff.symm, fun hlacks => ?_⟩⟩
  obtain ⟨hcode, -, herrors⟩ := runCommand_of_error (lacks_iff.1 hlacks).1
  exact ⟨hcode, herrors, hlacks.quiet⟩

/-- Somebody asks for the profile with a file that holds nothing but a refresh token. -/
theorem run_of_parse_of_refresh_token_alone :
    let file := Text.Utf8.encode "\x7b\"refresh_token\": \"r1\"\x7d"
    let w : Surroundings := { disk := { nodes := [(["credentials.json"], .file file 0o600)] } }
    Lacks { command := .profile } w .notSignedIn ∧ (run ["profile"] w).output = "" ∧
      (∃ shown, (run ["profile"] w).errors = shown ++ "not signed in\n") ∧
      (run ["profile"] w).journal.requests = [] ∧ (run ["profile"] w).disk = w.disk := by
  intro file w
  have hparse : Arguments.parse (w.get? configVariable) ["profile"] = .ok { command := .profile } := by
    decide
  have haccess : (openSession { command := .profile } w).toOption.map
      (·.lifecycle.store.current.access) = some "" := by
    decide +kernel
  have hlacks : Lacks { command := .profile } w .notSignedIn := by
    cases hs : openSession { command := .profile } w with
    | error f =>
      rw [hs] at haccess
      cases haccess
    | ok s =>
      rw [hs] at haccess
      exact .accessToken hs rfl (Option.some.inj haccess)
  obtain ⟨-, hprints, hearly⟩ := run_of_parse hparse
  obtain ⟨-, hfails⟩ := hearly .notSignedIn
  obtain ⟨hcode, herrors, hrequests, hdisk⟩ := hfails hlacks
  refine ⟨hlacks, not_not.1 fun hne => ?_, herrors, hrequests, hdisk⟩
  rw [hprints.1 hne] at hcode
  cases hcode

end ShopClient.CommandLine
