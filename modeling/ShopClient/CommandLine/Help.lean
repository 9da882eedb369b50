import ShopClient.CommandLine.Arguments

/-!
# Help texts

What is shown when help is asked for: what the program or a command does, how to call it, and lists
of its commands, arguments and options. The explanations in a list stand in a column of their own,
each on one line however long it is.
-/

namespace ShopClient.CommandLine

/-- The name of the program. -/
def programName : String := "storefront"

/-- The line that tells the version. -/
def versionLine : String := programName ++ " 0.1.0\n"

/-- The variable that names the configuration file. -/
def configVariable : String := "CONFIG_PATH"

/-! ### Pages -/

/-- `n` blanks. -/
def blanks (n : Nat) : String := String.ofList (List.replicate n ' ')

/-- The longest length of the texts. -/
def longest (texts : List String) : Nat := texts.foldl (fun n t => max n t.length) 0

/-- A titled list of terms with their explanations. -/
def glossary (title : String) (terms : List (String × String)) : String :=
  let column := longest (terms.map (·.1))
  let entry (e : String × String) : String :=
    "  " ++ e.1 ++ blanks (column - e.1.length) ++ "  " ++ e.2 ++ "\n"
  title ++ ":\n" ++ String.join (terms.map entry)

/-! ### Texts -/

/-- What a command does. -/
def Verb.about : Verb → String
  | login => "Sign in (password from STOREFRONT_PASSWORD or stdin)"
  | register => "Create an account (password as for login)"
  | profile => "Fetch and print the signed-in profile"
  | refresh => "Renew the access credential now"
  | status => "Show whether a session is stored"
  | get => "Send an authenticated GET and print the payload"
  | logout => "Clear stored credentials"

/-- The argument of a command, with its explanation. -/
def Verb.argument : Verb → List (String × String)
  | login | register => [("<USER>", "Account name")]
  | get => [("<PATH>", "API path relative to the base URL, e.g. /orders")]
  | _ => []

namespace Topic

/-- What a topic is about. -/
def about : Topic → String
  | program => "Storefront API client"
  | command verb => verb.about
  | help => "Print this message or the help of the given subcommand(s)"

/-- How to call it. -/
def usage : Topic → String
  | program => "[OPTIONS] <COMMAND>"
  | command verb =>
    " ".intercalate ([verb.name, "[OPTIONS]"] ++ verb.argument.map (·.1))
  | help => "help [COMMAND]..."

/-- The arguments, with their explanations. -/
def arguments : Topic → List (String × String)
  | program => []
  | command verb => verb.argument
  | help => [("[COMMAND]...", "Print help for the subcommand(s)")]

/-- The options, with their explanations. The one for the configuration file shows what the
    environment says. -/
def options (environment : Option String) : Topic → List (String × String)
  | help => []
  | topic => [
      ("    --config <CONFIG>",
        "Config file (default: storefront.toml in the working directory) [env: " ++
          configVariable ++ "=" ++ environment.getD "" ++ "]"),
      ("    --json-logs", "Emit logs as JSON"),
      ("-h, --help", "Print help")] ++
    if topic = program then [("-V, --version", "Print version")] else []

/-- The commands, with what they do. -/
def commands : Topic → List (String × String)
  | program => Verb.all.map (fun v => (v.name, v.about)) ++ [("help", about help)]
  | _ => []

/-- The text that is shown about a topic. -/
def text (environment : Option String) (topic : Topic) : String :=
  let lists := [("Commands", topic.commands), ("Arguments", topic.arguments),
    ("Options", topic.options environment)]
  "\n".intercalate ([topic.about ++ "\n", "Usage: " ++ programName ++ " " ++ topic.usage ++ "\n"] ++
    (lists.filter fun l => !l.2.isEmpty).map fun l => glossary l.1 l.2)

end Topic

end ShopClient.CommandLine
