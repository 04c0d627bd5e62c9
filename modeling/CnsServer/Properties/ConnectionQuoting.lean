/-
The connection string is read back.

* `DatabaseConfig.parameters`: the six pairs of a configuration;
* `buildConnectionString_joined`: the string is those pairs, with a blank between them;
* `connection_string_parsed`: **it parses to them**, so that it tells configurations apart.
-/
import CnsServer.Store.ConnectionString

namespace CnsServer

/-- No text of the configuration has a NUL. -/
def DatabaseConfig.NulFree (config : DatabaseConfig) : Prop :=
  ∀ text ∈ [config.host, config.name, config.user, config.password],
    Char.ofNat 0 ∉ text.toList

/-- The six pairs. -/
def DatabaseConfig.parameters (config : DatabaseConfig) : List (String × String) :=
  [("host", config.host), ("port", toString config.port.toNat), ("dbname", config.name),
    ("user", config.user), ("password", config.password),
    ("connect_timeout", toString config.connectTimeout)]

/-! ### The string -/

/-- The loop leaves the escaped value in quotes. -/
lemma quoteConnectionValue_eq (value : String) : quoteConnectionValue value =
    String.ofList (ConnInfo.apostrophe :: ConnInfo.escape value.toList
      ++ [ConnInfo.apostrophe]) := by
  have hloop : ∀ (characters quoted : List Char),
      characters.foldl (fun quoted character =>
        (if character = '\\' ∨ character = ConnInfo.apostrophe then quoted ++ ['\\'] else quoted) ++
          [character]) quoted = quoted ++ ConnInfo.escape characters := by
    intro characters
    induction characters with
    | nil => simp [ConnInfo.escape]
    | cons character characters ih =>
        intro quoted
        rw [List.foldl_cons, ih, ConnInfo.escape, ConnInfo.escape, List.flatMap_cons]
        split <;> simp
  rw [quoteConnectionValue]
  simp only [hloop, List.cons_append, List.nil_append]

lemma parameter_eq (name value : String) :
    parameter name value = String.ofList (ConnInfo.parameter name.toList value.toList) := by
  apply String.toList_inj.mp
  simp [parameter, quoteConnectionValue_eq, ConnInfo.parameter]

/-- **The string** is the six pairs, with a blank between them. -/
lemma buildConnectionString_joined (config : DatabaseConfig) :
    buildConnectionString config = String.ofList (ConnInfo.joined
      (config.parameters.map fun pair => (pair.1.toList, pair.2.toList))) := by
  apply String.toList_inj.mp
  simp [buildConnectionString, buildSafeConnectionDescription, parameter_eq,
    DatabaseConfig.parameters, ConnInfo.joined]

/-! ### Numbers -/

/-- The text of a natural number is made of digits. -/
lemma notMem_natRepr {c : Char} (hc : c.isDigit = false) (n : ℕ) : c ∉ n.repr.toList := by
  intro hmem
  rw [Nat.toList_repr] at hmem
  rw [Nat.isDigit_of_mem_toDigits (by decide) (by decide) hmem] at hc
  cases hc

lemma nul_notMem_intRepr (i : ℤ) : Char.ofNat 0 ∉ i.repr.toList := by
  rw [Int.repr_eq_if]
  split
  · exact notMem_natRepr (by decide) _
  · rw [String.toList_append, List.mem_append, not_or]
    exact ⟨by decide, notMem_natRepr (by decide) _⟩

lemma natRepr_inj {m n : ℕ} (h : m.repr = n.repr) : m = n := by
  have hdigits := congrArg (fun text : String => Nat.ofDigitChars 10 text.toList 0) h
  simpa only [Nat.toList_repr, Nat.ofDigitChars_ten_toDigits] using hdigits

/-- The sign is told by the first character. -/
lemma minus_ne_natRepr (m n : ℕ) : "-" ++ m.repr ≠ n.repr := by
  intro h
  have hmem : '-' ∈ n.repr.toList := by simp [← h]
  exact notMem_natRepr (by decide) n hmem

lemma intRepr_inj {i j : ℤ} (h : i.repr = j.repr) : i = j := by
  rw [Int.repr_eq_if, Int.repr_eq_if] at h
  split at h
  · split at h
    · have hnat := natRepr_inj h
      omega
    · exact absurd h.symm (minus_ne_natRepr _ _)
  · split at h
    · exact absurd h (minus_ne_natRepr _ _)
    · have hnat := natRepr_inj (String.append_right_inj _ |>.mp h)
      omega

/-! ### The pairs -/

lemma parameters_names (config : DatabaseConfig) :
    ∀ pair ∈ config.parameters, ConnInfo.IsName pair.1.toList := by
  intro pair hpair
  have hname : pair.1 ∈ ["host", "port", "dbname", "user", "password", "connect_timeout"] :=
    List.mem_map_of_mem (f := Prod.fst) hpair
  have hall : ∀ name ∈ ["host", "port", "dbname", "user", "password", "connect_timeout"],
      name.toList ≠ [] ∧
        name.toList.all (fun c => !ConnInfo.isBlank c && decide (c ≠ '=')) = true := by
    decide
  refine (hall pair.1 hname).imp_right fun hchars c hc => ?_
  simpa using List.all_eq_true.mp hchars c hc

lemma parameters_nulFree {config : DatabaseConfig} (h : config.NulFree) :
    ∀ pair ∈ config.parameters,
      Char.ofNat 0 ∉ pair.1.toList ∧ Char.ofNat 0 ∉ pair.2.toList := by
  simp only [DatabaseConfig.NulFree, List.forall_mem_cons] at h
  simp only [DatabaseConfig.parameters, List.forall_mem_cons]
  obtain ⟨hhost, hname, huser, hpassword, -⟩ := h
  exact ⟨⟨by decide, hhost⟩, ⟨by decide, notMem_natRepr (by decide) _⟩, ⟨by decide, hname⟩,
    ⟨by decide, huser⟩, ⟨by decide, hpassword⟩, ⟨by decide, nul_notMem_intRepr _⟩, by simp⟩

/-- The pairs tell the configurations apart. -/
lemma parameters_injective {config other : DatabaseConfig}
    (h : config.parameters = other.parameters) : config = other := by
  simp only [DatabaseConfig.parameters, List.cons.injEq, Prod.mk.injEq, true_and, and_true] at h
  obtain ⟨hhost, hport, hname, huser, hpassword, htimeout⟩ := h
  cases config
  cases other
  simp only [DatabaseConfig.mk.injEq]
  exact ⟨hhost, UInt16.toNat_inj.mp (natRepr_inj hport), hname, huser, hpassword,
    intRepr_inj htimeout⟩

/-- **The connection string** parses to its six pairs, with the values of the configuration,
whatever characters these have; so two configurations have different strings. -/
theorem connection_string_parsed (config : DatabaseConfig) (hnul : config.NulFree) :
    ConnInfo.parse (buildConnectionString config) = .ok config.parameters ∧
      ∀ other : DatabaseConfig, other.NulFree →
        buildConnectionString config = buildConnectionString other → config = other := by
  have hparsed : ∀ config : DatabaseConfig, config.NulFree →
      ConnInfo.parse (buildConnectionString config) = .ok config.parameters := by
    intro config hnul
    rw [buildConnectionString_joined]
    exact ConnInfo.parse_joined (parameters_names config) (parameters_nulFree hnul)
  refine ⟨hparsed config hnul, fun other hother hsame => ?_⟩
  have hpairs := hparsed config hnul
  rw [hsame, hparsed other hother] at hpairs
  exact parameters_injective (Except.ok.inj hpairs).symm

namespace Sample

/-- A password with all that has a meaning in the string. -/
def quotingDatabase : DatabaseConfig where
  host := "127.0.0.1"
  port := 5432
  name := "cns"
  user := "route service"
  password := "it\x27s \\ host=\x27"
  connectTimeout := 5

end Sample

open Sample in
theorem connection_string_parsed_quotes :
    ConnInfo.parse (buildConnectionString quotingDatabase) = .ok quotingDatabase.parameters :=
  (connection_string_parsed quotingDatabase (by rw [DatabaseConfig.NulFree]; decide)).1

end CnsServer
