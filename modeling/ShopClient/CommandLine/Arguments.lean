/-!
# Command-line arguments

A command line names one command, with the argument that the command takes, and may give two options
before, between and after them: a configuration file and the form of the log.

The arguments are read at two levels: those before the name of the command, and those after it. At
each level an option may be given once; of the two levels, the one after the name counts. Where no
configuration file is given, the environment may name one.

An option whose value is a separate argument waits for it (`Given.open`). What was collected is
entered as soon as the next option or argument comes, or at the end of the level (`Given.enter`), so
that a mistake in it shows before any later one of these. A plain `--` ends the options of its level.

* `Arguments.parse`: what a command line asks for, or why it ends there.
-/

namespace ShopClient.CommandLine

/-! ### Commands -/

/-- The commands. -/
inductive Verb
  | login
  | register
  | profile
  | refresh
  | status
  | get
  | logout
  deriving DecidableEq

namespace Verb

/-- All commands, in the order in which they are listed. -/
def all : List Verb := [login, register, profile, refresh, status, get, logout]

/-- The name of a command. -/
def name : Verb → String
  | login => "login"
  | register => "register"
  | profile => "profile"
  | refresh => "refresh"
  | status => "status"
  | get => "get"
  | logout => "logout"

/-- The command of a name. -/
def ofName? (name : String) : Option Verb := all.find? (·.name = name)

/-- Whether a command takes an argument, which is then required. -/
def takesArgument : Verb → Bool
  | login | register | get => true
  | _ => false

end Verb

/-- A command with its argument. -/
inductive Command
  | login (user : String)
  | register (user : String)
  | profile
  | refresh
  | status
  | get (path : String)
  | logout
  deriving DecidableEq

/-- The command of a name, if it has just the argument that it takes. -/
def Command.ofVerb? : Verb → Option String → Option Command
  | .login, some user => some (login user)
  | .register, some user => some (register user)
  | .profile, none => some profile
  | .refresh, none => some refresh
  | .status, none => some status
  | .get, some path => some (get path)
  | .logout, none => some logout
  | _, _ => none

/-- What a command line asks for. -/
structure Arguments where
  /-- The configuration file. -/
  config : Option String := none
  /-- Whether the log is written as JSON, and notices with it. -/
  jsonLogs : Bool := false
  command : Command
  deriving DecidableEq

/-! ### Other ends -/

/-- What is wrong with a command line. -/
inductive Misuse
  /-- There is nothing on it. -/
  | nothing
  | noCommand
  | unknownCommand
  | unknownArgument
  | missingArgument
  /-- An option has no value, or an empty one. -/
  | badValue
  /-- An option is given twice at one level. -/
  | conflict
  /-- An option has a value that takes none. -/
  | needlessValue
  deriving DecidableEq

/-- What help is asked about. -/
inductive Topic
  | program
  | command (verb : Verb)
  | help
  deriving DecidableEq

/-- Why a command line is not read to its end. -/
inductive Stop
  | help (topic : Topic)
  | version
  | misuse (m : Misuse)
  deriving DecidableEq

/-- What comes of reading. -/
abbrev Reading := Except Stop

/-! ### One level -/

/-- The form of an argument. -/
inductive Token
  /-- The end of the options. -/
  | separator
  /-- An option by its name, perhaps with a value behind an equals sign. -/
  | long (name : String) (value : Option String)
  /-- Options by their letters. -/
  | short (letters : List Char)
  | word (text : String)
  deriving DecidableEq

/-- The form of an argument, by its front. A single dash is a word. -/
def Token.ofString (argument : String) : Token :=
  match argument.toList with
  | ['-', '-'] => .separator
  | '-' :: '-' :: cs =>
    let name := String.ofList (cs.takeWhile (· != '='))
    match cs.dropWhile (· != '=') with
    | [] => .long name none
    | _ :: value => .long name (some (String.ofList value))
  | '-' :: c :: cs => .short (c :: cs)
  | cs => .word (String.ofList cs)

/-- An option that waits for its value, or has it and is not entered yet. -/
inductive Pending
  | awaited
  | value (path : String)
  deriving DecidableEq

/-- What was given at one level so far. -/
structure Given where
  config : Option String := none
  jsonLogs : Bool := false
  argument : Option String := none
  /-- The configuration file that is not entered yet. -/
  pending : Option Pending := none
  /-- Whether the options have ended. -/
  closed : Bool := false
  deriving DecidableEq

namespace Given

/-- Enters a configuration file. -/
def setConfig (path : String) (g : Given) : Reading Given :=
  if g.config.isSome then .error (.misuse .conflict)
  else if path = "" then .error (.misuse .badValue)
  else .ok { g with config := some path }

/-- Enters what is not entered yet. -/
def enter (g : Given) : Reading Given :=
  match g.pending with
  | none => .ok g
  | some .awaited => .error (.misuse .badValue)
  | some (.value path) => setConfig path { g with pending := none }

/-- Whether an option waits for its value. -/
def isOpen (g : Given) : Bool := g.pending = some .awaited

/-- Reads an option by its name. Help is about `topic`, and asking for the version is an option of
    the first level. -/
def long (topic : Topic) (name : String) (value : Option String) (g : Given) : Reading Given :=
  match name, value with
  | "config", none => return { ← g.enter with pending := some .awaited }
  | "config", some path => do (← g.enter).setConfig path
  | "json-logs", none => do
    let g ← g.enter
    if g.jsonLogs then throw (.misuse .conflict) else return { g with jsonLogs := true }
  | "json-logs", some _ => throw (.misuse .needlessValue)
  | "help", none => do let _ ← g.enter; throw (.help topic)
  | "help", some _ => throw (.misuse .needlessValue)
  | "version", value =>
    if topic = .program then
      match value with
      | none => do let _ ← g.enter; throw .version
      | some _ => throw (.misuse .needlessValue)
    else throw (.misuse .unknownArgument)
  | _, _ => throw (.misuse .unknownArgument)

/-- Reads options by their letters. The first letter decides. -/
def short (topic : Topic) (letters : List Char) (g : Given) : Reading Given :=
  match letters with
  | 'h' :: _ => do let _ ← g.enter; throw (.help topic)
  | 'V' :: _ =>
    if topic = .program then do let _ ← g.enter; throw .version
    else throw (.misuse .unknownArgument)
  | _ => throw (.misuse .unknownArgument)

/-- Reads an argument that is not an option, where one is taken. -/
def positional (takes : Bool) (text : String) (g : Given) : Reading Given :=
  if takes && g.argument.isNone then return { ← g.enter with argument := some text }
  else throw (.misuse .unknownArgument)

/-- Reads one argument after the name of a command. -/
def read (verb : Verb) (argument : String) (g : Given) : Reading Given :=
  if g.closed then g.positional verb.takesArgument argument
  else match Token.ofString argument with
    | .separator => return { g with closed := true }
    | .long name value => g.long (.command verb) name value
    | .short letters => g.short (.command verb) letters
    | .word text =>
      if g.isOpen then return { g with pending := some (.value text) }
      else g.positional verb.takesArgument text

/-- Ends a level: what is not entered is entered, and the configuration file that the environment
    names has to be a name where none was given. -/
def finish (environment : Option String) (g : Given) : Reading Given := do
  let g ← g.enter
  if g.config.isNone && environment = some "" then throw (.misuse .badValue) else return g

end Given

/-! ### Both levels -/

/-- Reads the arguments after the name of a command. -/
def readCommand (verb : Verb) (environment : Option String) (arguments : List String) :
    Reading (Given × Command) := do
  let g ← arguments.foldlM (fun (g : Given) a => g.read verb a) {}
  let g ← g.finish environment
  match Command.ofVerb? verb g.argument with
  | some command => return (g, command)
  | none => throw (.misuse .missingArgument)

/-- What help is shown for the arguments after `help`. -/
def readHelp : List String → Stop
  | [] => .help .program
  | [name] =>
    if name = "help" then .help .help
    else match Verb.ofName? name with
      | some verb => .help (.command verb)
      | none => .misuse .unknownCommand
  | _ => .misuse .unknownCommand

/-- Reads a command line from where what was `given` before has been read. -/
def readProgram (environment : Option String) (given : Given) : List String → Reading Arguments
  | [] => do
    let g ← given.finish environment
    if g.config.isNone && !g.jsonLogs && environment.isNone then throw (.misuse .nothing)
    else throw (.misuse .noCommand)
  | a :: rest =>
    if given.closed then
      if (Verb.ofName? a).isSome || a = "help" then throw (.misuse .unknownArgument)
      else throw (.misuse .unknownCommand)
    else match Token.ofString a with
      | .separator => readProgram environment { given with closed := true } rest
      | .long name value => do readProgram environment (← given.long .program name value) rest
      | .short letters => do readProgram environment (← given.short .program letters) rest
      | .word text =>
        if given.isOpen then readProgram environment { given with pending := some (.value text) } rest
        else if text = "help" then throw (readHelp rest)
        else match Verb.ofName? text with
          | none => throw (.misuse .unknownCommand)
          | some verb => do
            let (inner, command) ← readCommand verb environment rest
            let outer ← given.finish environment
            return {
              config := (inner.config.or outer.config).or environment
              jsonLogs := inner.jsonLogs || outer.jsonLogs
              command }

/-- What a command line asks for. The environment may name a configuration file. -/
def Arguments.parse (environment : Option String) (arguments : List String) : Reading Arguments :=
  readProgram environment {} arguments

end ShopClient.CommandLine
