import ShopClient.Proofs.CommandLine.Options

/-!
# Command lines

A command line is a command with its argument, and global options before, between and after them. It is
read as what it says, wherever the options stand, and whatever the words look like: a user may be called
like a command, and so may a file. Only the environment can spoil it. Where an option may name a
configuration file and does not, the environment is asked, and at least one of the two levels gives no
such option. So a variable that is set to nothing is refused, although a file is named.

* `Line`: a command line, and its words;
* `parse_words`: how it is read, with all of it, without the argument, or with a word too many;
* `named_file_refused`: a variable that is set to nothing.
-/

namespace ShopClient.CommandLine

/-! ### Commands -/

/-- The command, without its argument. -/
def Command.verb : Command → Verb
  | login _ => .login
  | register _ => .register
  | profile => .profile
  | refresh => .refresh
  | status => .status
  | get _ => .get
  | logout => .logout

/-- The argument of a command. -/
def Command.argument : Command → Option String
  | login text | register text | get text => some text
  | _ => none

theorem Command.ofVerb?_verb (c : Command) : ofVerb? c.verb c.argument = some c := by
  cases c <;> rfl

theorem Command.takesArgument_verb (c : Command) : c.verb.takesArgument = c.argument.isSome := by
  cases c <;> rfl

/-! ### After the name of a command -/

variable {g g' : Given} {verb : Verb} {environment : Option String}

theorem readsOptions_read (verb : Verb) : ReadsOptions (.command verb)
    fun g arguments => arguments.foldlM (fun (g : Given) a => g.read verb a) g where
  long rest hclosed htoken := by
    rw [List.foldlM_cons, Given.read, hclosed, if_neg nofun, htoken]
  value rest hclosed hword hopen := by
    rw [List.foldlM_cons, Given.read, hclosed, if_neg nofun, ofString_of_isWord hword]
    simp only [hopen, if_true]
    rfl

/-- A word is the argument of the command, where it takes one and has none. -/
theorem read_of_isWord (hg : g.Stands g') {text : String} (hword : IsWord text) :
    g.read verb text = if verb.takesArgument && g'.argument.isNone then
      .ok { g' with argument := some text } else .error (.misuse .unknownArgument) := by
  obtain ⟨hargument, -, -⟩ := Given.enter_cases hg.enter
  rw [Given.read, hg.closed, if_neg nofun, ofString_of_isWord hword]
  simp only [hg.isOpen_eq, Bool.false_eq_true, if_false, Given.positional, hargument]
  split
  · simp only [hg.enter]
    rfl
  · rfl

/-- The words after the name of a command: its argument, and options around it. -/
theorem foldlM_read (between after : List GlobalOption) {argument : Option String}
    (hargument : ∀ text ∈ argument, IsWord text ∧ verb.takesArgument = true)
    (ho : Given.Admits (between ++ after) {}) :
    ∃ g : Given,
      g.Stands { Given.adding (between ++ after) {} with argument } ∧
      ∀ rest, (between.flatMap GlobalOption.words ++
          (argument.toList ++ (after.flatMap GlobalOption.words ++ rest))).foldlM
            (fun (g : Given) a => g.read verb a) ({} : Given) =
        rest.foldlM (fun (g : Given) a => g.read verb a) g := by
  have hreads := readsOptions_read verb
  obtain ⟨hbetween, hafter⟩ := ho.of_append
  obtain ⟨g₁, hg₁, hread₁⟩ := hreads.options (g := {}) (Given.stands_self rfl rfl) hbetween
  -- The argument, if there is one, comes to what the options before it left.
  obtain ⟨g₂, hg₂, hread₂⟩ : ∃ g₂ : Given,
      g₂.Stands { Given.adding between {} with argument } ∧ ∀ rest,
        (argument.toList ++ rest).foldlM (fun (g : Given) a => g.read verb a) g₁ =
          rest.foldlM (fun (g : Given) a => g.read verb a) g₂ := by
    cases argument with
    | none => exact ⟨g₁, hg₁, fun rest => rfl⟩
    | some text =>
      obtain ⟨hword, htakes⟩ := hargument text rfl
      have hnone : (Given.adding between {}).argument.isNone = true := rfl
      refine ⟨_, Given.stands_self rfl rfl, fun rest => ?_⟩
      rw [Option.toList_some, List.singleton_append, List.foldlM_cons, read_of_isWord hg₁ hword,
        htakes, hnone]
      rfl
  obtain ⟨g₃, hg₃, hread₃⟩ := hreads.options hg₂ ⟨hafter.path, hafter.paths_le, hafter.jsonLogs_le⟩
  refine ⟨g₃, ?_, fun rest => ?_⟩
  · rw [← Given.adding_append]
    exact hg₃
  · exact (hread₁ _).trans ((hread₂ _).trans (hread₃ rest))

/-- At the end of a level that names no file, the environment has to name one, or not to be set. -/
theorem finish_of_stands (hg : g.Stands g') : g.finish environment =
    if g'.config.isNone && environment = some "" then .error (.misuse .badValue) else .ok g' := by
  simp only [Given.finish, hg.enter, bind, Except.bind]
  rfl

/-! ### Before the name of a command -/

theorem readsOptions_readProgram (environment : Option String) :
    ReadsOptions .program (readProgram environment) where
  long rest hclosed htoken := by
    rw [readProgram, hclosed, if_neg nofun, htoken]
  value rest hclosed hword hopen := by
    rw [readProgram, hclosed, if_neg nofun, ofString_of_isWord hword]
    simp only [hopen, if_true]

/-- A name of a command ends the level before it. -/
theorem readProgram_name (hg : g.Stands g') (verb : Verb) (rest : List String) :
    readProgram environment g (verb.name :: rest) = do
      let (inner, command) ← readCommand verb environment rest
      let outer ← g.finish environment
      return {
        config := (inner.config.or outer.config).or environment
        jsonLogs := inner.jsonLogs || outer.jsonLogs
        command } := by
  have hname : Token.ofString verb.name = .word verb.name ∧ verb.name ≠ "help" ∧
      Verb.ofName? verb.name = some verb := by
    cases verb <;> decide
  obtain ⟨htoken, hhelp, hverb⟩ := hname
  rw [readProgram, hg.closed, if_neg nofun, htoken]
  simp only [hg.isOpen_eq, Bool.false_eq_true, if_false, if_neg hhelp, hverb]

/-! ### Both levels -/

/-- A command line. -/
structure Line where
  command : Command
  before : List GlobalOption := []
  between : List GlobalOption := []
  after : List GlobalOption := []

namespace Line

variable {l : Line}

/-- The options of a line, in their order. -/
def options (l : Line) : List GlobalOption := l.before ++ (l.between ++ l.after)

/-- The words after the name of the command, with `argument` for its argument. -/
def tail (argument : Option String) (l : Line) : List String :=
  l.between.flatMap GlobalOption.words ++ (argument.toList ++ l.after.flatMap GlobalOption.words)

/-- The words of a line, with `argument` for the argument of the command. -/
def wordsWith (argument : Option String) (l : Line) : List String :=
  l.before.flatMap GlobalOption.words ++ l.command.verb.name :: l.tail argument

/-- The words of a line. -/
def words (l : Line) : List String := l.wordsWith l.command.argument

/-- Each option is given at most once, and what is no option does not look like one. -/
structure IsProper (l : Line) : Prop where
  argument : ∀ text ∈ l.command.argument, IsWord text
  path : ∀ p ∈ paths l.options, p ≠ "" ∧ IsWord p
  paths_le : (paths l.options).length ≤ 1
  jsonLogs_le : l.options.count .jsonLogs ≤ 1

/-- What a line asks for. Where it names no configuration file, the environment may name one. -/
def arguments (environment : Option String) (l : Line) : Arguments where
  config := (paths l.options).head?.or environment
  jsonLogs := decide (GlobalOption.jsonLogs ∈ l.options)
  command := l.command

/-- What the options at one level come to. -/
def given (options : List GlobalOption) : Given := Given.adding options {}

namespace IsProper

theorem admits (h : l.IsProper) : Given.Admits l.options {} where
  path := h.path
  paths_le := h.paths_le
  jsonLogs_le := by
    rw [Bool.toNat_false, Nat.zero_add]
    exact h.jsonLogs_le

/-- The options of a level are admitted by themselves. -/
theorem admits_levels (h : l.IsProper) :
    Given.Admits l.before {} ∧ Given.Admits (l.between ++ l.after) {} := by
  obtain ⟨hbefore, hrest⟩ := h.admits.of_append
  refine ⟨hbefore, hrest.path, ?_, ?_⟩
  · refine Nat.le_trans ?_ hrest.paths_le
    simp
  · refine Nat.le_trans ?_ hrest.jsonLogs_le
    simp

/-- A file is named at one level at most. -/
theorem paths_cases (h : l.IsProper) :
    paths l.before = [] ∨ paths (l.between ++ l.after) = [] := by
  have hle := h.paths_le
  rw [options, paths_append, List.length_append] at hle
  rw [← List.length_eq_zero_iff, ← List.length_eq_zero_iff]
  omega

/-- One of the levels names no file. -/
theorem config_cases (h : l.IsProper) :
    (given l.before).config = none ∨ (given (l.between ++ l.after)).config = none := by
  refine h.paths_cases.imp (fun hnone => ?_) (fun hnone => ?_)
  · rw [given, Given.adding, hnone]
    rfl
  · rw [given, Given.adding, hnone]
    rfl

/-- The levels together come to what the line asks for. -/
theorem given_eq (h : l.IsProper) :
    (given (l.between ++ l.after)).config.or (given l.before).config = (paths l.options).head? ∧
      ((given (l.between ++ l.after)).jsonLogs || (given l.before).jsonLogs) =
        decide (GlobalOption.jsonLogs ∈ l.options) := by
  have hpaths : paths l.options = paths l.before ++ paths (l.between ++ l.after) := paths_append _ _
  constructor
  · change (none.or (paths (l.between ++ l.after)).head?).or (none.or (paths l.before).head?) = _
    rw [hpaths]
    rcases h.paths_cases with hnone | hnone
    · simp [hnone]
    · simp [hnone]
  · simp [given, Given.adding, options, Bool.or_comm]

/-- A line without its argument, or with it, and then more words. -/
theorem parse_wordsWith (h : l.IsProper) (argument : Option String)
    (hargument : ∀ text ∈ argument, text ∈ l.command.argument) (environment : Option String) :
    ∃ outer inner : Given, outer.Stands (given l.before) ∧
      inner.Stands { given (l.between ++ l.after) with argument } ∧
      ∀ more, Arguments.parse environment (l.wordsWith argument ++ more) = do
        let inner ← more.foldlM (fun (g : Given) a => g.read l.command.verb a) inner
        let inner ← inner.finish environment
        match Command.ofVerb? l.command.verb inner.argument with
        | none => throw (.misuse .missingArgument)
        | some command =>
          let outer ← outer.finish environment
          return {
            config := (inner.config.or outer.config).or environment
            jsonLogs := inner.jsonLogs || outer.jsonLogs
            command } := by
  obtain ⟨hbefore, hrest⟩ := h.admits_levels
  have htakes : ∀ text ∈ argument, IsWord text ∧ l.command.verb.takesArgument = true := by
    intro text htext
    have hmem := hargument text htext
    refine ⟨h.argument text hmem, ?_⟩
    rw [l.command.takesArgument_verb, Option.mem_def.1 hmem]
    rfl
  obtain ⟨outer, houter, hread⟩ := (readsOptions_readProgram environment).options (g := {})
    (Given.stands_self rfl rfl) hbefore
  obtain ⟨inner, hinner, hfold⟩ := foldlM_read l.between l.after htakes hrest
  refine ⟨outer, inner, houter, hinner, fun more => ?_⟩
  have hwords : l.wordsWith argument ++ more =
      l.before.flatMap GlobalOption.words ++ l.command.verb.name ::
        (l.between.flatMap GlobalOption.words ++
          (argument.toList ++ (l.after.flatMap GlobalOption.words ++ more))) := by
    simp only [wordsWith, tail, List.append_assoc, List.cons_append]
  rw [hwords, Arguments.parse, hread, readProgram_name houter, readCommand, hfold]
  cases more.foldlM (fun (g : Given) a => g.read l.command.verb a) inner with
  | error e => rfl
  | ok g =>
    cases hfinish : g.finish environment with
    | error e => simp only [bind, Except.bind, hfinish]
    | ok g' =>
      simp only [bind, Except.bind, hfinish]
      cases Command.ofVerb? l.command.verb g'.argument <;> rfl

/-- A line that is read to its end, with its argument or without it. -/
theorem parse_end (h : l.IsProper) (argument : Option String)
    (hargument : ∀ text ∈ argument, text ∈ l.command.argument) (environment : Option String) :
    Arguments.parse environment (l.wordsWith argument) =
      if environment = some "" ∧ (given (l.between ++ l.after)).config = none then
        .error (.misuse .badValue)
      else match Command.ofVerb? l.command.verb argument with
        | none => .error (.misuse .missingArgument)
        | some command =>
          if environment = some "" then .error (.misuse .badValue)
          else .ok { l.arguments environment with command } := by
  obtain ⟨outer, inner, houter, hinner, hparse⟩ := h.parse_wordsWith argument hargument environment
  have hwords := hparse []
  rw [List.append_nil, List.foldlM_nil] at hwords
  rw [hwords]
  simp only [bind, Except.bind, pure, Except.pure, finish_of_stands hinner, finish_of_stands houter]
  by_cases henv : environment = some ""
  · cases hinside : (given (l.between ++ l.after)).config with
    | none => simp [henv]
    | some path =>
      -- The file is named after the command, so the level before it asks the environment.
      have hnone : (given l.before).config = none :=
        h.config_cases.resolve_right (by rw [hinside]; nofun)
      simp only [henv, hnone, Option.isNone_some, Option.isNone_none, decide_true, Bool.and_true,
        Bool.false_eq_true, reduceCtorEq, and_false, if_false, if_true]
      cases Command.ofVerb? l.command.verb argument <;> rfl
  · obtain ⟨hconfig, hlogs⟩ := h.given_eq
    simp only [henv, decide_false, Bool.and_false, Bool.false_eq_true, false_and, if_false, hconfig,
      hlogs]
    rfl

end IsProper

/-- A command line is read as what it says, unless a variable that could name a configuration file is
    set to nothing. Without the argument that its command takes, or with a word too many, it is refused
    in any case. -/
theorem parse_words (h : l.IsProper) (environment : Option String) :
    (Arguments.parse environment l.words = if environment = some "" then .error (.misuse .badValue)
      else .ok (l.arguments environment)) ∧
    (l.command.argument.isSome = true →
      ∃ m, Arguments.parse environment (l.wordsWith none) = .error (.misuse m) ∧
        (environment ≠ some "" → m = .missingArgument)) ∧
    ∀ text, IsWord text →
      Arguments.parse environment (l.words ++ [text]) = .error (.misuse .unknownArgument) := by
  refine ⟨?_, fun hsome => ?_, fun text hword => ?_⟩
  · rw [words, h.parse_end _ (fun _ h => h), Command.ofVerb?_verb]
    by_cases henv : environment = some ""
    · simp only [henv, if_true, ite_self]
    · simp only [henv, false_and, if_false]
      rfl
  · have hnone : Command.ofVerb? l.command.verb none = none := by
      cases hcommand : l.command with
      | login _ | register _ | get _ => rfl
      | profile | refresh | status | logout =>
        rw [hcommand] at hsome
        cases hsome
    rw [h.parse_end none nofun, hnone]
    by_cases hasked : environment = some "" ∧ (given (l.between ++ l.after)).config = none
    · exact ⟨.badValue, if_pos hasked, fun henv => absurd hasked.1 henv⟩
    · exact ⟨.missingArgument, if_neg hasked, fun _ => rfl⟩
  · obtain ⟨outer, inner, houter, hinner, hparse⟩ :=
      h.parse_wordsWith l.command.argument (fun _ h => h) environment
    rw [words, hparse, List.foldlM_cons, read_of_isWord hinner hword]
    have hfull : (l.command.verb.takesArgument && l.command.argument.isNone) = false := by
      rw [l.command.takesArgument_verb]
      cases l.command.argument <;> rfl
    simp only [hfull, Bool.false_eq_true, if_false]
    rfl

/-- A user and a file that are called like commands. -/
theorem parse_words_of_verb_names :
    let l : Line := {
      command := .login "status"
      before := [.joined "login"]
      after := [.jsonLogs] }
    l.IsProper ∧
      Arguments.parse (some "shop.toml") ["--config=login", "login", "status", "--json-logs"] =
        .ok { config := some "login", jsonLogs := true, command := .login "status" } ∧
      (∃ m, Arguments.parse (some "shop.toml") ["--config=login", "login", "--json-logs"] =
        .error (.misuse m)) ∧
      Arguments.parse (some "shop.toml") ["--config=login", "login", "status", "--json-logs", "get"] =
        .error (.misuse .unknownArgument) := by
  intro l
  have hproper : l.IsProper := ⟨by simp [l, Command.argument, IsWord],
    by simp [l, options, paths, GlobalOption.path?, IsWord], by decide, by decide⟩
  obtain ⟨hread, hwithout, hmore⟩ := parse_words hproper (some "shop.toml")
  obtain ⟨m, hm, -⟩ := hwithout rfl
  exact ⟨hproper, hread.trans (if_neg (by decide)), ⟨m, hm⟩, hmore "get" (by simp [IsWord])⟩

/-- A file is named, and the line is refused, as the level before the command asks the environment. -/
theorem named_file_refused :
    ({ command := .status, after := [.config "shop.toml"] } : Line).IsProper ∧
      ({ command := .status, after := [.config "shop.toml"] } : Line).words =
        ["status", "--config", "shop.toml"] ∧
      ¬ ∃ arguments, Arguments.parse (some "") ["status", "--config", "shop.toml"] = .ok arguments := by
  refine ⟨⟨?_, ?_, by decide, by decide⟩, rfl, ?_⟩
  · intro text htext
    cases htext
  · simp [options, paths, GlobalOption.path?, IsWord]
  · have hrefused : Arguments.parse (some "") ["status", "--config", "shop.toml"] =
        .error (.misuse .badValue) := by decide
    rw [hrefused]
    rintro ⟨arguments, h⟩
    cases h

end Line

end ShopClient.CommandLine
