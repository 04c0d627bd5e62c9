/-
Which command lines are accepted, and as what.

* `Flag`, `ParsedOptions.take`: an option with its value, and what it changes;
* `parseOptions_words`, `exists_words`: the loop takes one of them at a time;
* `parseOptions_ok_iff`: **the loop** accepts options that are all different;
* `parseCommandLine_ok_iff`: the whole line.
-/
import CnsServer.Config.CommandLine
import Mathlib.Data.List.Nodup
import Mathlib.Data.List.Perm.Basic
import Mathlib.Tactic.Tauto

namespace CnsServer

/-! ### Options -/

inductive Flag where
  | config (path : String)
  | migrations (path : String)
  | migrateOnly
  | help
  | version

namespace Flag

def name : Flag → String
  | config _ => "--config"
  | migrations _ => "--migrations"
  | migrateOnly => "--migrate-only"
  | help => "--help"
  | version => "--version"

/-- How it is written. -/
def words : Flag → List String
  | config path => ["--config", path]
  | migrations path => ["--migrations", path]
  | migrateOnly => ["--migrate-only"]
  | help => ["--help"]
  | version => ["--version"]

/-- A path is not empty and does not look like an option. -/
def Proper : Flag → Prop
  | config path | migrations path => path ≠ "" ∧ looksLikeOption path = false
  | _ => True

end Flag

namespace ParsedOptions

/-- The variable that says that the option was there. -/
def has (parsed : ParsedOptions) : Flag → Bool
  | .config _ => parsed.hasConfig
  | .migrations _ => parsed.hasMigrations
  | .migrateOnly => parsed.hasMigrateOnly
  | .help => parsed.hasHelp
  | .version => parsed.hasVersion

/-- The variables after the option. -/
def take (parsed : ParsedOptions) : Flag → ParsedOptions
  | .config path =>
      { parsed with hasConfig := true, options := { parsed.options with configPath := path } }
  | .migrations path =>
      { parsed with
        hasMigrations := true, options := { parsed.options with migrationsPath := path } }
  | .migrateOnly =>
      { parsed with hasMigrateOnly := true, options := { parsed.options with migrateOnly := true } }
  | .help => { parsed with hasHelp := true, options := { parsed.options with showHelp := true } }
  | .version =>
      { parsed with hasVersion := true, options := { parsed.options with showVersion := true } }

/-- The variables say that the option was there, with its value. -/
def Says (parsed : ParsedOptions) : Flag → Prop
  | .config path => parsed.hasConfig = true ∧ path = parsed.options.configPath
  | .migrations path => parsed.hasMigrations = true ∧ path = parsed.options.migrationsPath
  | .migrateOnly => parsed.hasMigrateOnly = true
  | .help => parsed.hasHelp = true
  | .version => parsed.hasVersion = true

/-- The options are those of the variables. -/
structure Agrees (parsed : ParsedOptions) : Prop where
  migrateOnly : parsed.options.migrateOnly = parsed.hasMigrateOnly
  help : parsed.options.showHelp = parsed.hasHelp
  version : parsed.options.showVersion = parsed.hasVersion

variable {parsed : ParsedOptions} {flag other : Flag} {flags : List Flag}

lemma has_take : (parsed.take flag).has other = true ↔
    flag.name = other.name ∨ parsed.has other = true := by
  cases flag <;> cases other <;> simp [take, has, Flag.name]

lemma says_take (h : parsed.has flag = false) :
    (parsed.take flag).Says other ↔ other = flag ∨ parsed.Says other := by
  cases flag <;> cases other <;> simp_all [take, has, Says]

lemma Agrees.take (h : parsed.Agrees) (flag : Flag) : (parsed.take flag).Agrees := by
  obtain ⟨hmigrateOnly, hhelp, hversion⟩ := h
  cases flag <;> constructor <;> simp [ParsedOptions.take, hmigrateOnly, hhelp, hversion]

/-- Options that are all different, and none of them there before. -/
def New (parsed : ParsedOptions) (flags : List Flag) : Prop :=
  flags.Pairwise (fun flag other => flag.name ≠ other.name) ∧
    ∀ flag ∈ flags, parsed.has flag = false

lemma new_cons : parsed.New (flag :: flags) ↔
    parsed.has flag = false ∧ (parsed.take flag).New flags := by
  have hafter (other : Flag) : (parsed.take flag).has other = false ↔
      flag.name ≠ other.name ∧ parsed.has other = false := by
    rw [← Bool.not_eq_true, has_take, not_or, Bool.not_eq_true]
  simp only [New, List.pairwise_cons, List.forall_mem_cons, hafter]
  constructor
  · rintro ⟨⟨hname, hpairs⟩, hflag, hflags⟩
    exact ⟨hflag, hpairs, fun other hother => ⟨hname other hother, hflags other hother⟩⟩
  · rintro ⟨hflag, hpairs, hflags⟩
    exact ⟨⟨fun other hother => (hflags other hother).1, hpairs⟩, hflag,
      fun other hother => (hflags other hother).2⟩

lemma says_foldl (hnew : parsed.New flags) :
    (flags.foldl take parsed).Says flag ↔ flag ∈ flags ∨ parsed.Says flag := by
  induction flags generalizing parsed with
  | nil => simp
  | cons first flags ih =>
      obtain ⟨hfirst, hrest⟩ := new_cons.mp hnew
      rw [List.foldl_cons, ih hrest, says_take hfirst, List.mem_cons]
      tauto

lemma Agrees.foldl (h : parsed.Agrees) : (flags.foldl ParsedOptions.take parsed).Agrees := by
  induction flags generalizing parsed with
  | nil => exact h
  | cons first flags ih => exact ih (h.take first)

end ParsedOptions

/-! ### The loop -/

section

variable {arguments rest : List String} {parsed result : ParsedOptions} {flag : Flag}

lemma readPathValue_proper {path option : String} (h : path ≠ "" ∧ looksLikeOption path = false) :
    readPathValue (path :: rest) option = .ok (path, rest) := by
  rw [readPathValue, if_neg]
  simp [h]

lemma parseOptions_words (hproper : flag.Proper) (hnew : parsed.has flag = false) :
    parseOptions (flag.words ++ rest) parsed = parseOptions rest (parsed.take flag) := by
  cases flag with
  | config path | migrations path =>
      simp only [ParsedOptions.has] at hnew
      simp only [Flag.words, List.cons_append, List.nil_append]
      rw [parseOptions]
      simp only [hnew, Bool.false_eq_true, if_true, if_false, String.reduceEq]
      split
      · next hvalue =>
        rw [readPathValue_proper hproper] at hvalue
        cases hvalue
      · next hvalue =>
        rw [readPathValue_proper hproper] at hvalue
        cases hvalue
        rfl
  | migrateOnly | help | version =>
      simp only [ParsedOptions.has] at hnew
      simp only [Flag.words, List.cons_append, List.nil_append]
      rw [parseOptions]
      simp [hnew, ParsedOptions.take]

lemma of_readPathValue {option path : String}
    (h : readPathValue arguments option = .ok (path, rest)) :
    arguments = path :: rest ∧ path ≠ "" ∧ looksLikeOption path = false := by
  cases arguments with
  | nil => cases h
  | cons first others =>
      rw [readPathValue] at h
      split at h
      · cases h
      · next hproper =>
        cases h
        simpa using hproper

/-- An accepted line begins with an option. -/
lemma exists_words {argument : String}
    (h : parseOptions (argument :: rest) parsed = .ok result) :
    ∃ flag others, argument :: rest = flag.words ++ others ∧ flag.Proper ∧
      parsed.has flag = false := by
  rw [parseOptions] at h
  split at h
  · next hargument =>
    subst hargument
    split at h
    · cases h
    next hnew =>
    split at h
    · cases h
    next path others hvalue =>
    obtain ⟨rfl, hproper⟩ := of_readPathValue hvalue
    exact ⟨.config path, others, rfl, hproper, (Bool.not_eq_true _).mp hnew⟩
  split at h
  · next hargument =>
    subst hargument
    split at h
    · cases h
    next hnew =>
    split at h
    · cases h
    next path others hvalue =>
    obtain ⟨rfl, hproper⟩ := of_readPathValue hvalue
    exact ⟨.migrations path, others, rfl, hproper, (Bool.not_eq_true _).mp hnew⟩
  split at h
  · next hargument =>
    subst hargument
    split at h
    · cases h
    next hnew =>
    exact ⟨.migrateOnly, rest, rfl, trivial, (Bool.not_eq_true _).mp hnew⟩
  split at h
  · next hargument =>
    subst hargument
    split at h
    · cases h
    next hnew =>
    exact ⟨.help, rest, rfl, trivial, (Bool.not_eq_true _).mp hnew⟩
  split at h
  · next hargument =>
    subst hargument
    split at h
    · cases h
    next hnew =>
    exact ⟨.version, rest, rfl, trivial, (Bool.not_eq_true _).mp hnew⟩
  · cases h

lemma words_length (flag : Flag) : 1 ≤ flag.words.length := by
  cases flag <;> simp [Flag.words]

/-- **The loop** accepts options that are all different. -/
lemma parseOptions_ok_iff : parseOptions arguments parsed = .ok result ↔ ∃ flags : List Flag,
    arguments = flags.flatMap Flag.words ∧ (∀ flag ∈ flags, flag.Proper) ∧ parsed.New flags ∧
      result = flags.foldl ParsedOptions.take parsed := by
  constructor
  · intro h
    induction hlength : arguments.length using Nat.strongRecOn
      generalizing arguments parsed with
    | ind n ih =>
        cases arguments with
        | nil =>
            rw [parseOptions] at h
            cases h
            exact ⟨[], rfl, by simp, ⟨.nil, by simp⟩, rfl⟩
        | cons argument rest =>
            obtain ⟨flag, others, hwords, hproper, hnew⟩ := exists_words h
            rw [hwords, parseOptions_words hproper hnew] at h
            have hless : others.length < n := by
              have hwordsLength := words_length flag
              rw [← hlength, hwords, List.length_append]
              omega
            obtain ⟨flags, rfl, hpropers, hnews, rfl⟩ := ih _ hless h rfl
            exact ⟨flag :: flags, hwords, List.forall_mem_cons.mpr ⟨hproper, hpropers⟩,
              ParsedOptions.new_cons.mpr ⟨hnew, hnews⟩, rfl⟩
  · rintro ⟨flags, rfl, hpropers, hnews, rfl⟩
    induction flags generalizing parsed with
    | nil => simp [parseOptions]
    | cons flag flags ih =>
        obtain ⟨hnew, hnews⟩ := ParsedOptions.new_cons.mp hnews
        rw [List.forall_mem_cons] at hpropers
        rw [List.flatMap_cons, parseOptions_words hpropers.1 hnew]
        exact ih hpropers.2 hnews

end

/-! ### The whole line -/

/-- The options that a run is asked for with. -/
def Options.flags (options : Options) : List Flag :=
  [.config options.configPath, .migrations options.migrationsPath] ++
    if options.migrateOnly = true then [.migrateOnly] else []

/-- The options ask for a run. -/
structure Options.Run (options : Options) : Prop where
  config : (Flag.config options.configPath).Proper
  migrations : (Flag.migrations options.migrationsPath).Proper
  help : options.showHelp = false
  version : options.showVersion = false

/-- A line of one word that asks for `flag`. -/
lemma eq_singleton {flags : List Flag} {flag : Flag} (hmem : flag ∈ flags)
    (hlength : (flags.flatMap Flag.words).length = 1) : flags = [flag] := by
  cases flags with
  | nil => cases hmem
  | cons first flags =>
      have hfirst := words_length first
      rw [List.flatMap_cons, List.length_append] at hlength
      cases flags with
      | nil => rw [List.mem_singleton.mp hmem]
      | cons second flags =>
          have hsecond := words_length second
          rw [List.flatMap_cons, List.length_append] at hlength
          omega

/-! The variables at the end, when there was nothing at the start. -/

section

variable {flags : List Flag} {flag : Flag} {options : Options} {result : ParsedOptions}

lemma has_start (flag : Flag) : ({} : ParsedOptions).has flag = false := by
  cases flag <;> rfl

lemma new_start (hnames : flags.Pairwise fun flag other => flag.name ≠ other.name) :
    ({} : ParsedOptions).New flags :=
  ⟨hnames, fun flag _ => has_start flag⟩

lemma says_end (hnew : ({} : ParsedOptions).New flags)
    (hresult : result = flags.foldl ParsedOptions.take {}) (flag : Flag) :
    result.Says flag ↔ flag ∈ flags := by
  have hstart : ¬({} : ParsedOptions).Says flag := by
    cases flag <;> simp [ParsedOptions.Says]
  rw [hresult, ParsedOptions.says_foldl hnew]
  simp [hstart]

lemma agrees_end (hresult : result = flags.foldl ParsedOptions.take {}) : result.Agrees := by
  rw [hresult]
  exact ParsedOptions.Agrees.foldl ⟨rfl, rfl, rfl⟩

lemma mem_flags : flag ∈ options.flags ↔ flag = .config options.configPath ∨
    flag = .migrations options.migrationsPath ∨
      flag = .migrateOnly ∧ options.migrateOnly = true := by
  cases hasked : options.migrateOnly <;> simp [Options.flags, hasked]

lemma flags_names (options : Options) :
    options.flags.Pairwise fun flag other => flag.name ≠ other.name := by
  rw [Options.flags]
  split <;> simp [Flag.name]

lemma nodup_of_names (hnames : flags.Pairwise fun flag other => flag.name ≠ other.name) :
    flags.Nodup :=
  hnames.imp fun hname hsame => hname (congrArg Flag.name hsame)

/-- The options are asked for by a line, exactly if its words are theirs. -/
lemma run_end_iff (hpropers : ∀ flag ∈ flags, flag.Proper) (hnew : ({} : ParsedOptions).New flags)
    (hresult : result = flags.foldl ParsedOptions.take {}) :
    (result.options = options ∧ result.hasConfig = true ∧ result.hasMigrations = true ∧
      result.hasHelp = false ∧ result.hasVersion = false) ↔
      options.Run ∧ flags.Perm options.flags := by
  have htaken := says_end hnew hresult
  have hagrees := agrees_end hresult
  constructor
  · rintro ⟨rfl, hconfig, hmigrations, hhelp, hversion⟩
    have hmem (flag : Flag) : flag ∈ flags ↔ flag ∈ result.options.flags := by
      rw [← htaken flag, mem_flags, hagrees.migrateOnly]
      cases flag <;> simp [ParsedOptions.Says, hconfig, hmigrations, hhelp, hversion]
    refine ⟨⟨hpropers _ ((hmem _).mpr ?_), hpropers _ ((hmem _).mpr ?_), hagrees.help.trans hhelp,
      hagrees.version.trans hversion⟩, ?_⟩
    · exact mem_flags.mpr (.inl rfl)
    · exact mem_flags.mpr (.inr (.inl rfl))
    · exact (List.perm_ext_iff_of_nodup (nodup_of_names hnew.1)
        (nodup_of_names (flags_names _))).mpr hmem
  · rintro ⟨hrun, hperm⟩
    have hmem (flag : Flag) : result.Says flag ↔ flag ∈ options.flags :=
      (htaken flag).trans hperm.mem_iff
    have hconfig := (hmem _).mpr (mem_flags.mpr (.inl rfl))
    have hmigrations := (hmem _).mpr (mem_flags.mpr (.inr (.inl rfl)))
    have hmigrateOnly : result.hasMigrateOnly = options.migrateOnly :=
      Bool.eq_iff_iff.mpr (by simpa [ParsedOptions.Says, mem_flags] using hmem .migrateOnly)
    have hhelp : result.hasHelp = false := by
      simpa [ParsedOptions.Says, mem_flags] using hmem .help
    have hversion : result.hasVersion = false := by
      simpa [ParsedOptions.Says, mem_flags] using hmem .version
    refine ⟨?_, hconfig.1, hmigrations.1, hhelp, hversion⟩
    have hagreed := hagrees.migrateOnly.trans hmigrateOnly
    have hshown := hagrees.help.trans (hhelp.trans hrun.help.symm)
    have hprinted := hagrees.version.trans (hversion.trans hrun.version.symm)
    obtain ⟨⟨_, _, _, _, _⟩, _, _, _, _, _⟩ := result
    obtain ⟨_, _, _, _, _⟩ := options
    simp only [Options.mk.injEq]
    exact ⟨hconfig.2.symm, hmigrations.2.symm, hagreed, hshown, hprinted⟩

/-- A line of one option. -/
lemma parseOptions_single (hproper : flag.Proper) :
    parseOptions flag.words {} = .ok (({} : ParsedOptions).take flag) :=
  parseOptions_ok_iff.mpr ⟨[flag], by simp, by simpa using hproper, new_start (by simp), rfl⟩

end

/-- **A command line is accepted** exactly if it is `--help` or `--version` alone, or has the
two paths, and `--migrate-only` or not, each once and in whatever order. -/
theorem parseCommandLine_ok_iff (program : String) (arguments : List String) (options : Options) :
    parseCommandLine (program :: arguments) = .ok options ↔
      (arguments = ["--help"] ∧ options = { showHelp := true }) ∨
      (arguments = ["--version"] ∧ options = { showVersion := true }) ∨
      (options.Run ∧ ∃ flags : List Flag, flags.Perm options.flags ∧
        arguments = flags.flatMap Flag.words) := by
  rw [parseCommandLine, List.tail_cons]
  constructor
  · intro h
    split at h
    · cases h
    next result hresult =>
    obtain ⟨flags, rfl, hpropers, hnew, hend⟩ := parseOptions_ok_iff.mp hresult
    have htaken := says_end hnew hend
    split at h
    · cases h
    next halone =>
    rw [List.length_cons, Nat.add_sub_cancel, not_and_not_right] at halone
    split at h
    · next hshown =>
      have hlength := halone hshown
      cases h
      rcases Bool.or_eq_true_iff.mp hshown with hhelp | hversion
      · rw [eq_singleton ((htaken .help).mp hhelp) hlength] at hend ⊢
        exact .inl ⟨rfl, by rw [hend]; rfl⟩
      · rw [eq_singleton ((htaken .version).mp hversion) hlength] at hend ⊢
        exact .inr (.inl ⟨rfl, by rw [hend]; rfl⟩)
    next hshown =>
    rw [Bool.or_eq_true, not_or, Bool.not_eq_true, Bool.not_eq_true] at hshown
    split at h
    · cases h
    next hconfig =>
    split at h
    · cases h
    next hmigrations =>
    cases h
    obtain ⟨hrun, hperm⟩ := (run_end_iff hpropers hnew hend).mp
      ⟨rfl, by simpa using hconfig, by simpa using hmigrations, hshown⟩
    exact .inr (.inr ⟨hrun, flags, hperm, rfl⟩)
  · rintro (⟨rfl, rfl⟩ | ⟨rfl, rfl⟩ | ⟨hrun, flags, hperm, rfl⟩)
    · rw [show parseOptions ["--help"] {} = _ from @parseOptions_single .help trivial]
      rfl
    · rw [show parseOptions ["--version"] {} = _ from @parseOptions_single .version trivial]
      rfl
    · have hnames : flags.Pairwise fun flag other => flag.name ≠ other.name :=
        hperm.symm.pairwise (flags_names options) fun hname => hname.symm
      have hpropers (flag : Flag) (hflag : flag ∈ flags) : flag.Proper := by
        rcases mem_flags.mp (hperm.mem_iff.mp hflag) with rfl | rfl | ⟨rfl, -⟩
        · exact hrun.config
        · exact hrun.migrations
        · trivial
      have hnew := new_start hnames
      obtain ⟨hoptions, hconfig, hmigrations, hhelp, hversion⟩ :=
        (run_end_iff hpropers hnew rfl).mpr ⟨hrun, hperm⟩
      rw [parseOptions_ok_iff.mpr ⟨flags, rfl, hpropers, hnew, rfl⟩]
      simp [hoptions, hconfig, hmigrations, hhelp, hversion]

end CnsServer
