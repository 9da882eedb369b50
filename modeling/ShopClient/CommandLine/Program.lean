import ShopClient.CommandLine.Help
import ShopClient.Config
import ShopClient.Credential.File
import ShopClient.Secret
import ShopClient.Session.Conversation

/-!
# The program

One run of the program: it reads the arguments, the configuration and the credentials, has a session
carry out the command, and prints what came of it. The payload goes to the output; notices of the
session, and the reason for a failure, go to the errors. A run ends with `0` after a success, with
`1` after a failure, and with `2` when the arguments are wrong.

* `run`: how a run ends, given all that it finds (`Surroundings`);
* `prompt?`: whether the run asks for a password, and how.
-/

namespace ShopClient.CommandLine

/-- What can be read from a terminal. -/
structure Terminal where
  bytes : Text.Bytes := []
  /-- Why nothing can be read after that. Without a failure the input ends there. -/
  failure : Option IoError := none

/-- What a run finds. -/
structure Surroundings where
  environment : List (String × String) := []
  input : Terminal := {}
  disk : Disk := {}
  /-- The number of the process. -/
  process : Nat := 0
  link : Link := .up
  /-- How the exchanges with the shop end. -/
  exchanges : List Exchange := []

/-- How a run ends. -/
structure Ending where
  exitCode : UInt8 := 0
  output : String := ""
  errors : String := ""
  disk : Disk
  journal : Journal := []

/-! ### Failures -/

/-- Why a run failed whose arguments were right. -/
inductive Failure
  | config (path : String) (e : ConfigError)
  | credentials (path : String) (e : StorageError)
  | unreadablePassword (e : IoError)
  | emptyPassword
  | session (e : SessionError)
  /-- The shop let the user in and gave no access token. -/
  | noAccessToken
  | notSignedIn
  | noRefreshToken
  | unfinished

/-- The text of a failure, from the outermost cause to the innermost. -/
def Failure.message : Failure → String
  | config path (.io e) =>
    "failed to load config from " ++ path ++ ": " ++ (ConfigError.io e).message ++ ": " ++ e.message
  | config path e => "failed to load config from " ++ path ++ ": " ++ e.message
  | credentials path e => "failed to open credential file " ++ path ++ ": " ++ e.message
  | unreadablePassword e => "failed to read password from stdin: " ++ e.message
  | emptyPassword => "empty password"
  | session e => e.message
  | noAccessToken => "login succeeded but no access token was issued"
  | notSignedIn => "not signed in"
  | noRefreshToken => "no refresh credential stored, sign in first"
  | unfinished => "interrupted"

/-- What a wrong command line is told. -/
def Misuse.message (environment : Option String) : Misuse → String
  | nothing => Topic.program.text environment
  | noCommand => "error: a command is required\n"
  | unknownCommand => "error: there is no such command\n"
  | unknownArgument => "error: unexpected argument\n"
  | missingArgument => "error: the command requires an argument\n"
  | badValue => "error: an option requires a value\n"
  | conflict => "error: an option cannot be used more than once\n"
  | needlessValue => "error: an option takes no value\n"

/-- How a notice shows on the terminal. -/
def noticeText : Notice → String
  | .error message => "error: " ++ message ++ "\n"
  | .loggedOut => ""
  | .loginRequired => "session expired, sign in again with `storefront login <user>`\n"

/-! ### Passwords -/

/-- The variable that holds the password. -/
def passwordVariable : String := "STOREFRONT_PASSWORD"

/-- How a password is asked for. -/
def passwordPrompt : String := "password: "

/-- The first line of the input, with its line feed. What comes after it is not read, so that a failure
    counts only if there is no line feed before it. -/
def Terminal.firstLine (input : Terminal) : Except IoError Text.Bytes :=
  let line := input.bytes.takeWhile (· != 0x0A) ++ (input.bytes.dropWhile (· != 0x0A)).take 1
  match input.failure with
  | some e => if input.bytes.contains 0x0A then .ok line else .error e
  | none => .ok line

/-- The password in a line. -/
def passwordIn (line : Text.Bytes) : Except Failure Secret :=
  match Text.Utf8.decode? line with
  | none => .error (.unreadablePassword .notUtf8)
  | some line =>
    let password : Secret :=
      ⟨String.ofList (Text.dropEndWhile (fun c => c == '\r' || c == '\n') line.toList)⟩
    if password.isEmpty then .error .emptyPassword else .ok password

/-- The password in the first line of the input. -/
def typedPassword (input : Terminal) : Except Failure Secret :=
  match input.firstLine with
  | .ok line => passwordIn line
  | .error e => .error (.unreadablePassword e)

/-- The value of a variable. -/
def Surroundings.get? (name : String) (w : Surroundings) : Option String :=
  w.environment.lookup name

/-- The password, from the environment or else from the terminal. -/
def Surroundings.password (w : Surroundings) : Except Failure Secret :=
  match w.get? passwordVariable with
  | some password => .ok ⟨password⟩
  | none => typedPassword w.input

/-- Whether a command needs a password. -/
def Command.needsPassword : Command → Bool
  | login _ | register _ => true
  | _ => false

/-- What the run asks for before it carries out the command. -/
def Surroundings.prompt (command : Command) (w : Surroundings) : String :=
  if command.needsPassword && (w.get? passwordVariable).isNone then passwordPrompt else ""

/-! ### Commands -/

/-- The session that a run starts from. -/
def openSession (arguments : Arguments) (w : Surroundings) : Except Failure (Session FileStorage) := do
  let path := Config.resolvePath arguments.config
  let config ← (Config.loadOrDefault path (w.get? Config.baseUrlVariable) w.disk).mapError
    (Failure.config path)
  let storage ← (FileStorage.openAt config.storagePath w.process w.disk).mapError
    (Failure.credentials config.storagePath)
  return .ofStore config.settings (.restore storage)

/-- A value as it is printed. -/
def printed (v : Json.Value) : String := v.pretty ++ "\n"

/-- What is printed after an operation that yielded `o`. -/
def Command.report (command : Command) (o : Outcome) : Except Failure String :=
  match o with
  | .profile (some p) => .ok (printed p.toValue)
  | .profile none => .error (match command with
    | login _ => .noAccessToken
    | _ => .notSignedIn)
  | .payload v => .ok (printed v)
  | .renewed true => .ok "access credential renewed\n"
  | .renewed false => .error .noRefreshToken
  | .token access => .ok (access ++ "\n")

/-- What is shown of a session. -/
def statusValue (s : Session FileStorage) : Json.Value :=
  .object [("active", .bool s.lifecycle.isActive),
    ("has_refresh_token", .bool s.lifecycle.store.current.hasRefresh)]

/-- What came of an operation, and the session after it. -/
def Command.converse (command : Command) (operation : Operation) (w : Surroundings)
    (s : Session FileStorage) : Except Failure String × Session FileStorage :=
  let s := (s.start operation).converse w.link w.exchanges
  match s.result? 0 with
  | some (.ok o) => (command.report o, s)
  | some (.error e) => (.error (.session e), s)
  | none => (.error .unfinished, s)

/-- Carries out a command: what is printed, or why it failed, and the session after it. -/
def Command.carryOut (command : Command) (w : Surroundings) (s : Session FileStorage) :
    Except Failure String × Session FileStorage :=
  match command with
  | login user => match w.password with
    | .ok password => command.converse (.signIn ⟨user, password.expose⟩) w s
    | .error e => (.error e, s)
  | register user => match w.password with
    | .ok password => command.converse (.register ⟨user, password.expose⟩) w s
    | .error e => (.error e, s)
  | profile => command.converse .fetchProfile w s
  | refresh => command.converse .renewNow w s
  | status => (.ok (printed (statusValue s)), s)
  | get path => command.converse (.send (.ok (.get path)) .any) w s
  | logout =>
    let (done, lifecycle) := s.lifecycle.logout
    (.ok (if done then "signed out\n" else "no session to sign out of\n"), { s with lifecycle })

/-! ### Runs -/

/-- What the run asks for on the terminal, before anything is read from it. -/
def prompt? (arguments : Arguments) (w : Surroundings) : Option String :=
  match openSession arguments w with
  | .ok _ => some (w.prompt arguments.command) |>.filter (· ≠ "")
  | .error _ => none

/-- How a run ends whose arguments are right. -/
def runCommand (arguments : Arguments) (w : Surroundings) : Ending :=
  match openSession arguments w with
  | .error e => { exitCode := 1, errors := e.message ++ "\n", disk := w.disk }
  | .ok s =>
    let (result, s) := arguments.command.carryOut w s
    let journal := s.lifecycle.journal
    let disk := s.lifecycle.store.storage.disk
    let notices := if arguments.jsonLogs then "" else String.join (journal.notices.map noticeText)
    let errors := w.prompt arguments.command ++ notices
    match result with
    | .ok output => { output, errors, disk, journal }
    | .error e => { exitCode := 1, errors := errors ++ e.message ++ "\n", disk, journal }

/-- How a run ends. -/
def run (arguments : List String) (w : Surroundings) : Ending :=
  let environment := w.get? configVariable
  match Arguments.parse environment arguments with
  | .ok arguments => runCommand arguments w
  | .error (.help topic) => { output := topic.text environment, disk := w.disk }
  | .error .version => { output := versionLine, disk := w.disk }
  | .error (.misuse m) => { exitCode := 2, errors := m.message environment, disk := w.disk }

end ShopClient.CommandLine
