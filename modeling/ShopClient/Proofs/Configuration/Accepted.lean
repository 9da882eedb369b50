import ShopClient.Proofs.Configuration.Stated
import ShopClient.Proofs.Persistence.Rewrite

/-!
# Which configurations are accepted

A configuration is merged from the environment, a file and the defaults, and then checked. It is
accepted exactly if the result is valid, whatever the file states by itself, and otherwise refused for
the first of the rules that it breaks. The file may be missing in one place only, and stands for
nothing stated there.

* `IsValid`, `BreaksFirst`: what the checks are about;
* `Finds`: what is found at a path;
* `accepted_iff`: all of this for any path, any file and any environment.
-/

namespace ShopClient

namespace Disk

variable {p : Path} {d : Disk}

/-- Where there is nothing, nothing can be read. -/
theorem exists_readText_of_not_contains (h : d.contains p = false) :
    ∃ e, d.readText p = .error e := by
  suffices hread : ∃ e, d.read p = .error e by
    obtain ⟨e, he⟩ := hread
    exact ⟨e, by rw [readText, he]; rfl⟩
  cases hreach : d.reach p with
  | error e => exact ⟨e, by rw [read, hreach]; rfl⟩
  | ok u =>
    have hnode : d.node? p = none := by
      rw [contains, hreach] at h
      exact Option.not_isSome_iff_eq_none.1 (Bool.eq_false_iff.1 h)
    exact ⟨.notFound, by rw [read, hreach, hnode]; rfl⟩

/-- What can be read is there. -/
theorem contains_of_readText {text : String} (h : d.readText p = .ok text) : d.contains p = true := by
  refine Bool.not_eq_false _ ▸ fun hnone => ?_
  obtain ⟨e, he⟩ := exists_readText_of_not_contains hnone
  cases h.symm.trans he

end Disk

namespace Config

variable {c : Config} {v w : Violation} {path : String} {override : Option String} {disk : Disk}
  {stated : Stated}

/-! ### Rules -/

/-- An address of the web. -/
def IsWeb (url : String) : Prop := ∃ rest, url = "http://" ++ rest ∨ url = "https://" ++ rest

theorem isWebAddress_iff {url : String} : isWebAddress url = true ↔ IsWeb url := by
  have hfront (front : String) :
      front.toList.isPrefixOf url.toList = true ↔ ∃ rest, url = front ++ rest := by
    rw [List.isPrefixOf_iff_prefix]
    constructor
    · rintro ⟨rest, h⟩
      exact ⟨String.ofList rest, String.toList_inj.1 (by rw [← h, String.toList_append,
        String.toList_ofList])⟩
    · rintro ⟨rest, rfl⟩
      exact ⟨rest.toList, String.toList_append.symm⟩
  rw [isWebAddress, Bool.or_eq_true, hfront, hfront, IsWeb, exists_or]

/-- A valid configuration. -/
structure IsValid (c : Config) : Prop where
  address : IsWeb c.baseUrl
  renewal_pos : 0 < c.renewalTimeout
  renewal_lt : c.renewalTimeout < c.requestTimeout

/-- The rules that a configuration breaks. -/
inductive Breaks (c : Config) : Violation → Prop
  | baseUrl : ¬IsWeb c.baseUrl → Breaks c (.baseUrl c.baseUrl)
  | requestTimeout : c.requestTimeout = 0 → Breaks c .requestTimeout
  | renewalTimeout : c.renewalTimeout = 0 → Breaks c .renewalTimeout
  | renewalNotShorter :
    c.requestTimeout ≤ c.renewalTimeout →
      Breaks c (.renewalNotShorter c.renewalTimeout c.requestTimeout)

/-- The place of a rule among the rules. -/
def Violation.place : Violation → Nat
  | baseUrl _ => 0
  | requestTimeout => 1
  | renewalTimeout => 2
  | renewalNotShorter _ _ => 3

/-- A configuration breaks a rule and none before it. -/
def BreaksFirst (c : Config) (v : Violation) : Prop :=
  c.Breaks v ∧ ∀ w, c.Breaks w → v.place ≤ w.place

/-- A valid configuration breaks no rule. -/
theorem IsValid.not_breaks (h : c.IsValid) : ¬c.Breaks v := by
  intro hv
  cases hv with
  | baseUrl hurl => exact hurl h.address
  | requestTimeout hzero => exact absurd h.renewal_lt (by rw [hzero]; exact UInt64.not_lt_zero)
  | renewalTimeout hzero => exact absurd h.renewal_pos (by rw [hzero]; exact UInt64.not_lt_zero)
  | renewalNotShorter hle => exact absurd h.renewal_lt (UInt64.not_lt.2 hle)

/-- The checks find a configuration valid, or the first rule that it breaks. -/
theorem check_cases (c : Config) :
    (c.check = .ok () ∧ c.IsValid) ∨ ∃ v, c.check = .error v ∧ c.BreaksFirst v := by
  by_cases hurl : IsWeb c.baseUrl
  swap
  · refine .inr ⟨.baseUrl c.baseUrl, ?_, .baseUrl hurl, fun w _ => Nat.zero_le _⟩
    rw [check, if_pos]
    rw [Bool.not_eq_true', Bool.eq_false_iff]
    exact mt isWebAddress_iff.1 hurl
  have hweb : ¬(!isWebAddress c.baseUrl) = true := by simp [isWebAddress_iff.2 hurl]
  by_cases hrequest : c.requestTimeout = 0
  · refine .inr ⟨.requestTimeout, ?_, .requestTimeout hrequest, fun w hw => ?_⟩
    · rw [check, if_neg hweb, if_pos hrequest]
    · cases hw with
      | baseUrl h => exact absurd hurl h
      | _ => simp [Violation.place]
  by_cases hrenewal : c.renewalTimeout = 0
  · refine .inr ⟨.renewalTimeout, ?_, .renewalTimeout hrenewal, fun w hw => ?_⟩
    · rw [check, if_neg hweb, if_neg hrequest, if_pos hrenewal]
    · cases hw with
      | baseUrl h => exact absurd hurl h
      | requestTimeout h => exact absurd h hrequest
      | _ => simp [Violation.place]
  by_cases hle : c.requestTimeout ≤ c.renewalTimeout
  · refine .inr ⟨_, ?_, .renewalNotShorter hle, fun w hw => ?_⟩
    · rw [check, if_neg hweb, if_neg hrequest, if_neg hrenewal, if_pos hle]
    · cases hw with
      | baseUrl h => exact absurd hurl h
      | requestTimeout h => exact absurd h hrequest
      | renewalTimeout h => exact absurd h hrenewal
      | renewalNotShorter => exact Nat.le_refl _
  · refine .inl ⟨?_, hurl, UInt64.pos_iff_ne_zero.2 hrenewal, UInt64.not_le.1 hle⟩
    rw [check, if_neg hweb, if_neg hrequest, if_neg hrenewal, if_neg hle]

/-! ### Sources -/

/-- A path of the usual file. It may have slashes and dots behind it, but nothing before it. -/
def IsUsual (path : String) : Prop :=
  ∃ rest : List (List Char), (∀ n ∈ rest, n = [] ∨ n = ['.']) ∧
    path.toList = ['/'].intercalate ("storefront.toml".toList :: rest)

theorem isDefaultPath_iff : isDefaultPath path = true ↔ IsUsual path := by
  have hplain (n : List Char) : (String.ofList n = "" ∨ String.ofList n = ".") ↔
      (n = [] ∨ n = ['.']) := by
    rw [← String.toList_inj, ← String.toList_inj, String.toList_ofList]
    exact Iff.rfl
  have hnames : isDefaultPath path = true ↔ ∃ rest : List (List Char),
      (∀ n ∈ rest, n = [] ∨ n = ['.']) ∧
        path.toList.splitOn '/' = "storefront.toml".toList :: rest := by
    rw [isDefaultPath]
    cases path.toList.splitOn '/' with
    | nil => simp
    | cons name rest =>
      simp only [List.map_cons, Bool.and_eq_true, decide_eq_true_eq, List.all_map, List.all_eq_true,
        Function.comp_apply, Bool.or_eq_true, hplain, List.cons.injEq]
      rw [← String.toList_inj, String.toList_ofList]
      exact ⟨fun ⟨h, hrest⟩ => ⟨rest, hrest, h, rfl⟩, fun ⟨_, hrest, h, heq⟩ => ⟨h, heq ▸ hrest⟩⟩
  rw [hnames, IsUsual]
  refine exists_congr fun rest => and_congr_right fun hrest => ⟨fun h => ?_, fun h => ?_⟩
  · rw [← h, List.intercalate_splitOn]
  · rw [h]
    refine List.splitOn_intercalate '/' (fun n hn => ?_) (List.cons_ne_nil _ _)
    rcases List.mem_cons.1 hn with rfl | hn
    · decide
    · rcases hrest n hn with rfl | rfl <;> decide

/-- What is found at a path: what the file there states, or nothing where it may be missing. -/
inductive Finds (path : String) (disk : Disk) : Stated → Prop
  | file {text : String} {document : Toml.Entries} {stated : Stated} :
    disk.readText (.ofString path) = .ok text → Toml.parse? text = some document →
      stated.IsOf document → Finds path disk stated
  | missing :
    IsUsual path → disk.contains (.ofString path) = false → Finds path disk {}

/-- What is found is checked, with the address from the environment. -/
theorem Finds.loadOrDefault_eq (h : Finds path disk stated) (override : Option String) :
    loadOrDefault path override disk = (stated.merged none).finish override := by
  cases h with
  | file hread hparse hstated =>
    rename_i text document
    have hdocument : (Toml.parse? text).bind ofDocument? = some (stated.merged none) := by
      rw [hparse]
      exact ofDocument?_eq_some_iff.2 ⟨stated, hstated, rfl⟩
    have hload : load path override disk = (stated.merged none).finish override := by
      have hok : (Except.ok text : Except IoError String).mapError ConfigError.io = .ok text := rfl
      rw [load, hread, hok]
      simp only [bind, Except.bind, hdocument]
    rw [loadOrDefault, Disk.contains_of_readText hread, Bool.not_true, Bool.and_false, if_neg nofun,
      hload]
  | missing hpath hnone =>
    rw [loadOrDefault, isDefaultPath_iff.2 hpath, hnone, Stated.merged_empty]
    rfl

/-- What is found is accepted if it is valid, and refused otherwise for the first rule that it breaks. -/
theorem Finds.cases_loadOrDefault (h : Finds path disk stated) (override : Option String) :
    (loadOrDefault path override disk = .ok (stated.merged override) ∧
      (stated.merged override).IsValid) ∨
    ∃ v, loadOrDefault path override disk = .error (.invalid v.reason) ∧
      (stated.merged override).BreaksFirst v := by
  rw [h.loadOrDefault_eq, finish, stated.withBaseUrl_merged]
  rcases (stated.merged override).check_cases with ⟨hcheck, hvalid⟩ | ⟨v, hcheck, hv⟩
  · exact .inl ⟨by rw [hcheck], hvalid⟩
  · exact .inr ⟨v, by rw [hcheck], hv⟩

/-- A file that is missing elsewhere is missed. -/
theorem loadOrDefault_of_not_usual (hpath : ¬IsUsual path)
    (hnone : disk.contains (.ofString path) = false) (override : Option String) :
    ∃ e, loadOrDefault path override disk = .error (.io e) := by
  obtain ⟨e, he⟩ := Disk.exists_readText_of_not_contains hnone
  refine ⟨e, ?_⟩
  rw [loadOrDefault, Bool.eq_false_iff.2 (mt isDefaultPath_iff.1 hpath), Bool.false_and,
    if_neg nofun, load, he]
  rfl

/-! ### The environment -/

/-- A blank address is none. -/
theorem given_of_blank (h : ∀ url ∈ override, ∀ ch ∈ url.toList, Text.isBlank ch = true) :
    Stated.given override = none := by
  cases override with
  | none => rfl
  | some url =>
    have htrim : Text.trimChars url.toList = [] :=
      Text.trimChars_eq_iff.2 ⟨url.toList, [], by simp, h url rfl, List.forall_mem_nil _,
        Text.isTrim_of_forall (List.forall_mem_nil _)⟩
    rw [Stated.given, Option.map_some, Text.trim, htrim]
    rfl

/-- Of an address the blanks around it do not matter. -/
theorem given_of_isTrim {before url after : String}
    (hbefore : ∀ ch ∈ before.toList, Text.isBlank ch = true)
    (hafter : ∀ ch ∈ after.toList, Text.isBlank ch = true) (hurl : Text.IsTrim url.toList)
    (hne : url ≠ "") : Stated.given (some (before ++ url ++ after)) = some url := by
  have htrim : Text.trim (before ++ url ++ after) = url := by
    rw [Text.trim, String.toList_append, String.toList_append,
      Text.trimChars_append hbefore hafter hurl, String.ofList_toList]
  rw [Stated.given, Option.map_some, htrim]
  exact if_pos (decide_eq_true hne)

/-! ### All together -/

/-- Whatever is found at a path, and whatever the environment gives:

    * the configuration is accepted exactly if what its sources come to is valid;
    * what is accepted is just that, and a session takes the same values;
    * a refusal names the first rule that is broken;
    * if the environment gives nothing but blanks, it does not matter;
    * if it gives an address of the web, the address of the file does not matter.

    Only at the usual path the file may be missing. -/
theorem accepted_iff (path : String) (override : Option String) (disk : Disk) :
    (∀ stated, Finds path disk stated →
      let c := stated.merged override
      ((∃ c', loadOrDefault path override disk = .ok c') ↔ c.IsValid) ∧
      (∀ c', loadOrDefault path override disk = .ok c' → c' = c ∧ c'.settings =
        { baseUrl := c.baseUrl
          requestTimeout := 1000 * c.requestTimeout.toNat
          renewalTimeout := 1000 * c.renewalTimeout.toNat }) ∧
      (∀ e, loadOrDefault path override disk = .error e →
        ∃ v, e = .invalid v.reason ∧ c.BreaksFirst v) ∧
      ((∀ url ∈ override, ∀ ch ∈ url.toList, Text.isBlank ch = true) → c = stated.merged none) ∧
      ∀ before url after, override = some (before ++ url ++ after) →
        (∀ ch ∈ before.toList, Text.isBlank ch = true) →
        (∀ ch ∈ after.toList, Text.isBlank ch = true) → Text.IsTrim url.toList → IsWeb url →
        c.baseUrl = url ∧ ((∃ c', loadOrDefault path override disk = .ok c') ↔
          0 < c.renewalTimeout ∧ c.renewalTimeout < c.requestTimeout)) ∧
    (¬IsUsual path → disk.contains (.ofString path) = false →
      ∃ e, loadOrDefault path override disk = .error (.io e)) := by
  refine ⟨fun stated hfinds => ?_, fun hpath hnone => loadOrDefault_of_not_usual hpath hnone override⟩
  intro c
  have hcases := hfinds.cases_loadOrDefault override
  have haccepted : (∃ c', loadOrDefault path override disk = .ok c') ↔ c.IsValid := by
    rcases hcases with ⟨hload, hvalid⟩ | ⟨v, hload, hv⟩
    · exact ⟨fun _ => hvalid, fun _ => ⟨c, hload⟩⟩
    · refine ⟨fun ⟨c', hc'⟩ => ?_, fun hvalid => absurd hv.1 hvalid.not_breaks⟩
      cases hload.symm.trans hc'
  refine ⟨haccepted, fun c' hc' => ?_, fun e he => ?_, fun hblank => ?_, ?_⟩
  · rcases hcases with ⟨hload, -⟩ | ⟨v, hload, -⟩
    · obtain rfl := Except.ok.inj (hload.symm.trans hc')
      refine ⟨rfl, ?_⟩
      rw [settings, Nat.mul_comm, Nat.mul_comm c.renewalTimeout.toNat]
    · cases hload.symm.trans hc'
  · rcases hcases with ⟨hload, -⟩ | ⟨v, hload, hv⟩
    · cases hload.symm.trans he
    · exact ⟨v, (Except.error.inj (hload.symm.trans he)).symm, hv⟩
  · change stated.merged override = stated.merged none
    rw [Stated.merged, given_of_blank hblank]
    rfl
  · rintro before url after rfl hbefore hafter htrim hweb
    have hne : url ≠ "" := by
      rintro rfl
      obtain ⟨rest, h | h⟩ := hweb <;> simpa using congrArg String.toList h
    have hurl : c.baseUrl = url := by
      simp only [c, Stated.merged, given_of_isTrim hbefore hafter htrim hne, Option.some_or,
        Option.getD_some]
    refine ⟨hurl, haccepted.trans ⟨fun h => ⟨h.renewal_pos, h.renewal_lt⟩, fun h => ?_⟩⟩
    exact ⟨hurl ▸ hweb, h.1, h.2⟩

/-- A file states an address that is none of the web and a short time for requests. The environment makes
    up for the address. But the time for renewals, of which the file says nothing, is now too long. -/
theorem accepted_iff_for_half_a_file :
    let text := "[api]\nbase_url = \"ftp://shop.example.com\"\ntimeout_secs = 4\n"
    let disk : Disk := { nodes := [(["storefront.toml"], .file (Text.Utf8.encode text) 0o644)] }
    let override := some " https://shop.example.com\n"
    ∃ stated : Stated, Finds "storefront.toml" disk stated ∧
      (stated.merged override).baseUrl = "https://shop.example.com" ∧
      ∃ v, loadOrDefault "storefront.toml" override disk = .error (.invalid v.reason) ∧
        v = .renewalNotShorter 5 4 ∧ (stated.merged override).BreaksFirst v := by
  intro text disk override
  have hread : disk.readText (.ofString "storefront.toml") = .ok text := by
    have hcontent : disk.read (.ofString "storefront.toml") = .ok (Text.Utf8.encode text) := by
      decide +kernel
    simp only [Disk.readText, bind, Except.bind, hcontent, Text.Utf8.decode?_encode]
    rfl
  have hdocument : (Toml.parse? text).bind ofDocument? =
      some { baseUrl := "ftp://shop.example.com", requestTimeout := 4 } := by
    decide +kernel
  obtain ⟨document, hparse, hof⟩ := Option.bind_eq_some_iff.1 hdocument
  obtain ⟨stated, hstated, hmerged⟩ := ofDocument?_eq_some_iff.1 hof
  have hfinds : Finds "storefront.toml" disk stated := .file hread hparse hstated
  have hc : stated.merged override =
      { baseUrl := "https://shop.example.com", requestTimeout := 4 } := by
    rw [← stated.withBaseUrl_merged, ← hmerged]
    decide +kernel
  obtain ⟨hiff, -, hrefused, -, -⟩ := (accepted_iff "storefront.toml" override disk).1 stated hfinds
  have hinvalid : ¬(stated.merged override).IsValid := by
    rw [hc]
    exact fun h => absurd h.renewal_lt (by decide)
  refine ⟨stated, hfinds, by rw [hc], ?_⟩
  cases hload : loadOrDefault "storefront.toml" override disk with
  | ok c => exact absurd (hiff.1 ⟨c, hload⟩) hinvalid
  | error e =>
    obtain ⟨v, rfl, hv⟩ := hrefused e hload
    refine ⟨v, rfl, ?_, hv⟩
    obtain ⟨hbroken, -⟩ := hv
    rw [hc] at hbroken
    cases hbroken with
    | baseUrl h => exact absurd ⟨"shop.example.com", .inr rfl⟩ h
    | requestTimeout h => exact absurd h (by decide)
    | renewalTimeout h => exact absurd h (by decide)
    | renewalNotShorter => rfl

end Config

end ShopClient
