import ShopClient.CommandLine.Arguments
import Mathlib.Data.List.Basic

/-!
# Reading options

The options that may stand anywhere on a command line are read at two levels, in the same way at both.
An option whose value is a word of its own waits for it, and what was collected is entered later, so a
level is never quite up to date. But it always stands for what it comes to once all is entered
(`Given.Stands`), and each option adds to that.

* `GlobalOption`: an option as it is written;
* `ReadsOptions`: what the two levels have in common;
* `ReadsOptions.options`: what a level stands for after options in any order.
-/

namespace ShopClient.CommandLine

/-! ### Words -/

/-- A word does not look like an option. -/
def IsWord (text : String) : Prop := text.toList.head? ≠ some '-'

theorem ofString_of_isWord {text : String} (h : IsWord text) : Token.ofString text = .word text := by
  rw [IsWord] at h
  rw [Token.ofString]
  split
  · rename_i heq
    rw [heq] at h
    exact absurd rfl h
  · rename_i heq
    rw [heq] at h
    exact absurd rfl h
  · rename_i heq
    rw [heq] at h
    exact absurd rfl h
  · rw [String.ofList_toList]

/-- An option that may stand anywhere, as it is written. -/
inductive GlobalOption
  | jsonLogs
  /-- The path is a word of its own. -/
  | config (path : String)
  /-- The path stands behind an equals sign. -/
  | joined (path : String)
  deriving DecidableEq

namespace GlobalOption

/-- The words of an option. -/
def words : GlobalOption → List String
  | jsonLogs => ["--json-logs"]
  | config path => ["--config", path]
  | joined path => ["--config=" ++ path]

/-- The configuration file that an option names. -/
def path? : GlobalOption → Option String
  | jsonLogs => none
  | config path | joined path => some path

end GlobalOption

/-- The configuration files that options name. -/
def paths (options : List GlobalOption) : List String := options.filterMap GlobalOption.path?

theorem paths_cons (o : GlobalOption) (options : List GlobalOption) :
    paths (o :: options) = o.path?.toList ++ paths options := by
  cases o <;> rfl

theorem paths_append (options more : List GlobalOption) :
    paths (options ++ more) = paths options ++ paths more :=
  List.filterMap_append

theorem ofString_jsonLogs : Token.ofString "--json-logs" = .long "json-logs" none := by decide

theorem ofString_config : Token.ofString "--config" = .long "config" none := by decide

theorem ofString_joined (path : String) :
    Token.ofString ("--config=" ++ path) = .long "config" (some path) := by
  have hchars : ("--config=" ++ path).toList = '-' :: '-' :: ("config".toList ++ '=' :: path.toList) :=
    String.toList_append
  rw [Token.ofString, hchars]
  simp

/-! ### Levels -/

namespace Given

variable {g g' : Given}

/-- What was given comes to `g'` when all is entered, and more options may follow. -/
structure Stands (g g' : Given) : Prop where
  enter : g.enter = .ok g'
  closed : g.closed = false

theorem Stands.isOpen_eq (h : g.Stands g') : g.isOpen = false := by
  refine Bool.eq_false_iff.2 fun hopen => ?_
  have hpending : g.pending = some .awaited := of_decide_eq_true hopen
  have henter := h.enter
  rw [Given.enter, hpending] at henter
  cases henter

/-- Nothing waits any more when all is entered, and nothing else changes. -/
theorem enter_cases (h : g.enter = .ok g') :
    g'.argument = g.argument ∧ g'.pending = none ∧ g'.closed = g.closed := by
  rw [enter] at h
  split at h
  · rename_i hpending
    obtain rfl := Except.ok.inj h
    exact ⟨rfl, hpending, rfl⟩
  · cases h
  · rw [setConfig] at h
    split at h
    · cases h
    · split at h
      · cases h
      · obtain rfl := Except.ok.inj h
        exact ⟨rfl, rfl, rfl⟩

theorem stands_self (hpending : g.pending = none) (hclosed : g.closed = false) : g.Stands g :=
  ⟨by rw [enter, hpending], hclosed⟩

/-- What all comes to when it is entered comes to itself. -/
theorem Stands.self (h : g.Stands g') : g'.Stands g' := by
  obtain ⟨-, hpending, heq⟩ := enter_cases h.enter
  exact stands_self hpending (heq.trans h.closed)

theorem setConfig_of_none {path : String} (hnone : g.config = none) (hpath : path ≠ "") :
    g.setConfig path = .ok { g with config := some path } := by
  rw [setConfig, hnone, Option.isSome_none, if_neg nofun, if_neg hpath]

/-- What was given, and the options that come to it. -/
def adding (options : List GlobalOption) (g : Given) : Given :=
  { g with
    config := g.config.or (paths options).head?
    jsonLogs := g.jsonLogs || decide (GlobalOption.jsonLogs ∈ options) }

/-- No option is given twice, and each configuration file has a name that is a word. -/
structure Admits (options : List GlobalOption) (g : Given) : Prop where
  path : ∀ p ∈ paths options, p ≠ "" ∧ IsWord p
  paths_le : (g.config.toList ++ paths options).length ≤ 1
  jsonLogs_le : g.jsonLogs.toNat + options.count .jsonLogs ≤ 1

theorem adding_nil (g : Given) : g.adding [] = g := by
  simp [adding, paths]

/-- Some options come to what was given, and then more. -/
theorem adding_append (options more : List GlobalOption) (g : Given) :
    (g.adding options).adding more = g.adding (options ++ more) := by
  have hlogs : (g.jsonLogs || decide (GlobalOption.jsonLogs ∈ options) ||
      decide (GlobalOption.jsonLogs ∈ more)) =
        (g.jsonLogs || decide (GlobalOption.jsonLogs ∈ options ++ more)) := by
    simp [Bool.or_assoc]
  rw [adding, adding, adding, hlogs, paths_append, List.head?_append, Option.or_assoc]

theorem Admits.of_append {options more : List GlobalOption} (h : g.Admits (options ++ more)) :
    g.Admits options ∧ (g.adding options).Admits more := by
  obtain ⟨hpath, hpaths, hlogs⟩ := h
  rw [paths_append] at hpath hpaths
  rw [List.count_append] at hlogs
  rw [List.forall_mem_append] at hpath
  rw [← List.append_assoc, List.length_append] at hpaths
  refine ⟨⟨hpath.1, by omega, by omega⟩, hpath.2, ?_, ?_⟩
  · -- Only one file is named, before or among the options.
    rw [List.length_append]
    refine Nat.le_trans (Nat.add_le_add_right ?_ _) hpaths
    rw [adding]
    cases g.config <;> cases paths options <;> simp
  · rw [adding]
    by_cases hmem : GlobalOption.jsonLogs ∈ options
    · have hpos := List.count_pos_iff.2 hmem
      simp only [hmem, decide_true, Bool.or_true, Bool.toNat_true]
      omega
    · simp only [hmem, decide_false, Bool.or_false]
      omega

/-- What is left by an option that was read, with what waits. -/
def leaving (o : GlobalOption) (g : Given) : Given :=
  match o with
  | .jsonLogs => { g with jsonLogs := true }
  | .config path => { g with pending := some (.value path) }
  | .joined path => { g with config := some path }

theorem Admits.config_eq_none {o : GlobalOption} {path : String} {options : List GlobalOption}
    (h : g.Admits (o :: options)) (ho : o.path? = some path) : g.config = none ∧ path ≠ "" := by
  have hle := h.paths_le
  rw [paths_cons, ho] at hle
  refine ⟨?_, (h.path path ?_).1⟩
  · cases hconfig : g.config with
    | none => rfl
    | some path' => rw [hconfig] at hle; simp at hle
  · rw [paths_cons, ho]
    exact List.mem_cons_self

/-- An option that was read comes to itself. -/
theorem Admits.stands_leaving {o : GlobalOption} {options : List GlobalOption}
    (h : g.Admits (o :: options)) (hg : g.Stands g) : (g.leaving o).Stands (g.adding [o]) := by
  obtain ⟨-, hpending, -⟩ := enter_cases hg.enter
  cases o with
  | jsonLogs =>
    have hadding : g.adding [.jsonLogs] = { g with jsonLogs := true } := by
      simp [adding, paths, GlobalOption.path?]
    rw [hadding]
    exact ⟨by rw [enter, leaving, hpending], hg.closed⟩
  | config path =>
    obtain ⟨hnone, hpath⟩ := h.config_eq_none rfl
    have hadding : g.adding [.config path] = { g with config := some path } := by
      simp [adding, paths, GlobalOption.path?, hnone]
    rw [hadding]
    refine ⟨(setConfig_of_none (g := { g with pending := none }) hnone hpath).trans ?_, hg.closed⟩
    rw [hpending]
  | joined path =>
    obtain ⟨hnone, -⟩ := h.config_eq_none rfl
    have hadding : g.adding [.joined path] = { g with config := some path } := by
      simp [adding, paths, GlobalOption.path?, hnone]
    rw [hadding]
    exact ⟨by rw [enter, leaving, hpending], hg.closed⟩

end Given

/-! ### Both levels -/

/-- A way to read arguments takes the options of its level one by one, and gives the word after an option
    that waits for a value to that option. -/
structure ReadsOptions {β : Type} (topic : Topic) (read : Given → List String → Reading β) : Prop where
  long : ∀ {g : Given} {argument name : String} {value : Option String} (rest : List String),
    g.closed = false → Token.ofString argument = .long name value →
      read g (argument :: rest) = g.long topic name value >>= (read · rest)
  value : ∀ {g : Given} {text : String} (rest : List String),
    g.closed = false → IsWord text → g.isOpen = true →
      read g (text :: rest) = read { g with pending := some (.value text) } rest

namespace ReadsOptions

variable {β : Type} {topic : Topic} {read : Given → List String → Reading β} {g g' : Given}
  {os : List GlobalOption}

/-- An option is read, whatever comes after it. -/
theorem option {o : GlobalOption} (h : ReadsOptions topic read) (hg : g.Stands g')
    (ho : g'.Admits (o :: os)) (rest : List String) :
    read g (o.words ++ rest) = read (g'.leaving o) rest := by
  cases o with
  | jsonLogs =>
    have hlogs : g'.jsonLogs = false := by
      have hle := ho.jsonLogs_le
      cases hlogs : g'.jsonLogs with
      | false => rfl
      | true =>
        rw [hlogs, List.count_cons_self, Bool.toNat_true] at hle
        omega
    have hlong : g.long topic "json-logs" none = .ok (g'.leaving .jsonLogs) := by
      simp only [Given.long, hg.enter, bind, Except.bind, hlogs]
      rfl
    change read g ("--json-logs" :: rest) = _
    rw [h.long rest hg.closed ofString_jsonLogs, hlong]
    rfl
  | config path =>
    have hlong : g.long topic "config" none = .ok { g' with pending := some .awaited } := by
      simp only [Given.long, hg.enter, bind, Except.bind]
      rfl
    have hclosed : g'.closed = false := (Given.enter_cases hg.enter).2.2.trans hg.closed
    have hword : IsWord path := (ho.path path List.mem_cons_self).2
    change read g ("--config" :: path :: rest) = _
    rw [h.long (path :: rest) hg.closed ofString_config, hlong]
    exact h.value (g := { g' with pending := some .awaited }) rest hclosed hword rfl
  | joined path =>
    obtain ⟨hnone, hpath⟩ := ho.config_eq_none rfl
    have hlong : g.long topic "config" (some path) = .ok (g'.leaving (.joined path)) := by
      simp only [Given.long, hg.enter, bind, Except.bind]
      exact Given.setConfig_of_none hnone hpath
    change read g (("--config=" ++ path) :: rest) = _
    rw [h.long rest hg.closed (ofString_joined path), hlong]
    rfl

/-- Options are read in any order, whatever comes after them. -/
theorem options (h : ReadsOptions topic read) (hg : g.Stands g') (ho : g'.Admits os) :
    ∃ g₁ : Given, g₁.Stands (g'.adding os) ∧
      ∀ rest, read g (os.flatMap GlobalOption.words ++ rest) = read g₁ rest := by
  induction os generalizing g g' with
  | nil => exact ⟨g, (Given.adding_nil g').symm ▸ hg, fun rest => rfl⟩
  | cons o os ih =>
    have hsplit : g'.Admits ([o] ++ os) := ho
    obtain ⟨g₁, hstands, hread⟩ := ih (ho.stands_leaving hg.self) hsplit.of_append.2
    rw [Given.adding_append, List.singleton_append] at hstands
    refine ⟨g₁, hstands, fun rest => ?_⟩
    rw [List.flatMap_cons, List.append_assoc, h.option hg ho, hread]

end ReadsOptions

end ShopClient.CommandLine
