import ShopClient.CommandLine.Program
import ShopClient.Proofs.Configuration.Accepted

/-!
# What a run lacks

A run needs a configuration that is accepted, and a credential file that holds entries, if there is one.
Some commands need a password or a token. What is lacking makes the run fail with a failure of its own
(`Lacks`), whichever of these it is that comes first.

* `openAt_eq_error_iff`, `typedPassword_eq_error_iff`: credential files and passwords that are no good;
* `lacks_of_openSession`, `lacks_of_password`: what it means that there is none;
* `carryOut_cases`: how a command goes on otherwise.
-/

namespace ShopClient

/-! ### Credential files -/

namespace FileStorage

variable {path : String} {process : Nat} {disk : Disk}

theorem disk_openAt {storage : FileStorage} (h : openAt path process disk = .ok storage) :
    storage.disk = disk := by
  rcases openAt_eq_ok h with ⟨-, rfl⟩ | ⟨text, entries, -, -, -, rfl⟩ <;> rfl

/-- A credential file cannot be opened if it is there and cannot be read, or holds no entries. -/
theorem openAt_eq_error_iff {e : StorageError} : openAt path process disk = .error e ↔
    (∃ cause, disk.contains (.ofString path) = true ∧ disk.readText (.ofString path) = .error cause ∧
      e = failure "reading credential file" cause) ∨
    ∃ text, disk.readText (.ofString path) = .ok text ∧ entriesOf text = .error e := by
  cases hcontains : disk.contains (.ofString path) with
  | false =>
    obtain ⟨cause, hcause⟩ := Disk.exists_readText_of_not_contains hcontains
    have hmissing : openAt path process disk = .ok { path, process, entries := [], disk } := by
      rw [openAt, hcontains]
      rfl
    rw [hmissing, hcause]
    constructor
    · intro h
      cases h
    · rintro (⟨_, hfalse, -⟩ | ⟨text, htext, -⟩)
      · cases hfalse
      · cases htext
  | true =>
    simp only [openAt, hcontains, if_true, bind, Except.bind]
    cases htext : disk.readText (.ofString path) with
    | error cause => simp [Except.mapError, eq_comm]
    | ok text =>
      simp only [Except.mapError]
      cases hentries : entriesOf text with
      | error e' => simp [hentries]
      | ok entries => simp [hentries, pure, Except.pure]

end FileStorage

namespace CommandLine

variable {a : Arguments} {w : Surroundings} {f : Failure} {s : Session FileStorage}

/-! ### What is lacking -/

/-- The configuration that a run is to find. -/
def Surroundings.configOf (a : Arguments) (w : Surroundings) : Except ConfigError Config :=
  Config.loadOrDefault (Config.resolvePath a.config) (w.get? Config.baseUrlVariable) w.disk

/-- A command needs a password, and it has to be typed. -/
def Surroundings.AsksPassword (a : Arguments) (w : Surroundings) : Prop :=
  a.command.needsPassword = true ∧ w.get? passwordVariable = none

/-- What a run lacks from the start, and what that makes it fail with. -/
inductive Lacks (a : Arguments) (w : Surroundings) : Failure → Prop
  /-- No configuration is accepted. -/
  | config {e : ConfigError} :
    w.configOf a = .error e → Lacks a w (.config (Config.resolvePath a.config) e)
  /-- The credential file cannot be read. -/
  | readable {config : Config} {e : IoError} :
    w.configOf a = .ok config → w.disk.contains (.ofString config.storagePath) = true →
      w.disk.readText (.ofString config.storagePath) = .error e →
      Lacks a w (.credentials config.storagePath
        (FileStorage.failure "reading credential file" e))
  /-- The credential file holds something else than entries. -/
  | entries {config : Config} {text : String} {e : StorageError} :
    w.configOf a = .ok config → w.disk.readText (.ofString config.storagePath) = .ok text →
      FileStorage.entriesOf text = .error e → Lacks a w (.credentials config.storagePath e)
  /-- The terminal fails before the line with the password ends. -/
  | terminal {s : Session FileStorage} {e : IoError} :
    openSession a w = .ok s → w.AsksPassword a → w.input.failure = some e → 0x0A ∉ w.input.bytes →
      Lacks a w (.unreadablePassword e)
  /-- What is typed for a password is no text. -/
  | text {s : Session FileStorage} {bytes : Text.Bytes} :
    openSession a w = .ok s → w.AsksPassword a → w.input.firstLine = .ok bytes →
      Text.Utf8.decode? bytes = none → Lacks a w (.unreadablePassword .notUtf8)
  /-- Nothing is typed for a password but the end of the line. -/
  | password {s : Session FileStorage} {bytes : Text.Bytes} {line : String} :
    openSession a w = .ok s → w.AsksPassword a → w.input.firstLine = .ok bytes →
      Text.Utf8.decode? bytes = some line → (∀ c ∈ line.toList, c = '\r' ∨ c = '\n') →
      Lacks a w .emptyPassword
  /-- The profile is asked for without an access token. -/
  | accessToken {s : Session FileStorage} :
    openSession a w = .ok s → a.command = .profile → s.lifecycle.store.current.access = "" →
      Lacks a w .notSignedIn
  /-- A renewal is asked for without a refresh token. -/
  | refreshToken {s : Session FileStorage} :
    openSession a w = .ok s → a.command = .refresh → s.lifecycle.store.current.refresh = "" →
      Lacks a w .noRefreshToken

/-! ### Why nothing can be done -/

theorem openSession_eq (a : Arguments) (w : Surroundings) :
    openSession a w = match w.configOf a with
      | .error e => .error (.config (Config.resolvePath a.config) e)
      | .ok config => match FileStorage.openAt config.storagePath w.process w.disk with
        | .error e => .error (.credentials config.storagePath e)
        | .ok storage => .ok (.ofStore config.settings (.restore storage)) := by
  simp only [openSession, Surroundings.configOf, bind, Except.bind, pure, Except.pure]
  cases Config.loadOrDefault (Config.resolvePath a.config) (w.get? Config.baseUrlVariable) w.disk with
  | error e => rfl
  | ok config =>
    simp only [Except.mapError]
    cases FileStorage.openAt config.storagePath w.process w.disk <;> rfl

/-- A session that is opened is a new one, and nothing has been written. -/
theorem openSession_eq_ok (h : openSession a w = .ok s) :
    ∃ settings storage, s = .ofStore settings (.restore storage) ∧ storage.disk = w.disk := by
  rw [openSession_eq] at h
  split at h
  · cases h
  · split at h
    · cases h
    · rename_i storage hstorage
      exact ⟨_, storage, (Except.ok.inj h).symm, FileStorage.disk_openAt hstorage⟩

/-- Without a session, a configuration or a credential file is what is lacking. -/
theorem lacks_of_openSession (h : openSession a w = .error f) : Lacks a w f := by
  rw [openSession_eq] at h
  split at h
  · rename_i e hconfig
    obtain rfl := Except.error.inj h
    exact .config hconfig
  · rename_i config hconfig
    split at h
    · rename_i e hstorage
      obtain rfl := Except.error.inj h
      rcases FileStorage.openAt_eq_error_iff.1 hstorage with
        ⟨cause, hcontains, hread, rfl⟩ | ⟨text, hread, hentries⟩
      · exact .readable hconfig hcontains hread
      · exact .entries hconfig hread hentries
    · cases h

theorem Surroundings.AsksPassword.password_eq (h : w.AsksPassword a) :
    w.password = typedPassword w.input := by
  rw [Surroundings.password, h.2]

/-- There is no first line if the terminal fails before it ends. -/
theorem Terminal.firstLine_eq_error_iff {input : Terminal} {e : IoError} :
    input.firstLine = .error e ↔ input.failure = some e ∧ 0x0A ∉ input.bytes := by
  rw [firstLine]
  cases input.failure with
  | none => simp
  | some e' =>
    by_cases hmem : 0x0A ∈ input.bytes
    · simp [hmem]
    · simp [hmem]

/-- The password in a line is refused if the line is no text, or if nothing is before its end. -/
theorem passwordIn_eq_error_iff {bytes : Text.Bytes} : passwordIn bytes = .error f ↔
    (Text.Utf8.decode? bytes = none ∧ f = .unreadablePassword .notUtf8) ∨
      ∃ line, Text.Utf8.decode? bytes = some line ∧
        (∀ c ∈ line.toList, c = '\r' ∨ c = '\n') ∧ f = .emptyPassword := by
  rw [passwordIn]
  cases Text.Utf8.decode? bytes with
  | none => simp [eq_comm]
  | some line =>
    have hempty : (Secret.mk (String.ofList
        (Text.dropEndWhile (fun c => c == '\r' || c == '\n') line.toList))).isEmpty = true ↔
          ∀ c ∈ line.toList, c = '\r' ∨ c = '\n' := by
      rw [Secret.isEmpty, beq_iff_eq, String.ofList_eq_empty_iff, Text.dropEndWhile_eq_nil_iff]
      simp
    simp only [reduceCtorEq, false_and, false_or, Option.some.injEq, exists_eq_left', ← hempty]
    split
    · rename_i h
      simp [h, eq_comm]
    · rename_i h
      simp [h]

/-- A password that is typed is refused if there is no line, or if there is none in the line. -/
theorem typedPassword_eq_error_iff {input : Terminal} : typedPassword input = .error f ↔
    (∃ e, input.firstLine = .error e ∧ f = .unreadablePassword e) ∨
      ∃ line, input.firstLine = .ok line ∧ passwordIn line = .error f := by
  rw [typedPassword]
  cases input.firstLine with
  | error e => simp [eq_comm]
  | ok line => simp

/-- A command that asks for a password fails with what is wrong with it. -/
theorem lacks_of_password (hs : openSession a w = .ok s) (hneeds : a.command.needsPassword = true)
    (h : w.password = .error f) : Lacks a w f := by
  rw [Surroundings.password] at h
  split at h
  · cases h
  · rename_i hvariable
    have hasks : w.AsksPassword a := ⟨hneeds, hvariable⟩
    rcases typedPassword_eq_error_iff.1 h with ⟨e, hfails, rfl⟩ | ⟨bytes, hbytes, hrefused⟩
    · obtain ⟨hfailure, hmem⟩ := Terminal.firstLine_eq_error_iff.1 hfails
      exact .terminal hs hasks hfailure hmem
    · rcases passwordIn_eq_error_iff.1 hrefused with ⟨htext, rfl⟩ | ⟨line, hline, hblank, rfl⟩
      · exact .text hs hasks hbytes htext
      · exact .password hs hasks hbytes hline hblank

/-! ### Commands -/

/-- The operation that a command has its session carry out. -/
inductive Command.Asks : Command → Operation → Prop
  | login {user : String} {c : Credentials} : Asks (.login user) (.signIn c)
  | register {user : String} {c : Credentials} : Asks (.register user) (.register c)
  | profile : Asks .profile .fetchProfile
  | refresh : Asks .refresh .renewNow
  | get {path : String} : Asks (.get path) (.send (.ok (.get path)) .any)

/-- Without a password that it needs a command fails, and leaves its session as it was. -/
theorem Command.carryOut_of_password {command : Command} (hneeds : command.needsPassword = true)
    (h : w.password = .error f) (s : Session FileStorage) :
    command.carryOut w s = (.error f, s) := by
  cases command with
  | login user => simp only [carryOut, h]
  | register user => simp only [carryOut, h]
  | _ => cases hneeds

/-- A command has no password, or an operation is carried out for it, or it prints something at once. -/
theorem Command.carryOut_cases (command : Command) (w : Surroundings) (s : Session FileStorage) :
    (∃ f, command.needsPassword = true ∧ w.password = .error f ∧
      command.carryOut w s = (.error f, s)) ∨
    (∃ operation, command.Asks operation ∧
      command.carryOut w s = command.converse operation w s) ∨
    ∃ line s', command.carryOut w s = (.ok (line ++ "\n"), s') := by
  cases command with
  | login user =>
    cases hpassword : w.password with
    | error f => exact .inl ⟨f, rfl, rfl, carryOut_of_password rfl hpassword s⟩
    | ok password =>
      exact .inr (.inl ⟨.signIn ⟨user, password.expose⟩, .login, by
        simp only [carryOut, hpassword]⟩)
  | register user =>
    cases hpassword : w.password with
    | error f => exact .inl ⟨f, rfl, rfl, carryOut_of_password rfl hpassword s⟩
    | ok password =>
      exact .inr (.inl ⟨.register ⟨user, password.expose⟩, .register, by
        simp only [carryOut, hpassword]⟩)
  | profile => exact .inr (.inl ⟨_, .profile, rfl⟩)
  | refresh => exact .inr (.inl ⟨_, .refresh, rfl⟩)
  | get path => exact .inr (.inl ⟨_, .get, rfl⟩)
  | status => exact .inr (.inr ⟨_, _, rfl⟩)
  | logout =>
    simp only [carryOut]
    cases s.lifecycle.logout.1 with
    | true => exact .inr (.inr ⟨"signed out", _, rfl⟩)
    | false => exact .inr (.inr ⟨"no session to sign out of", _, rfl⟩)

end CommandLine

end ShopClient
