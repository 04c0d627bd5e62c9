/-
Which directories of migrations are accepted, and as what.

* `Migration.file`: the file of a migration; `parseMigration_ok_iff`: **its name** says which
  migration it is;
* `collectMigrations_ok_iff`, `orderMigrations_ok_iff`: the walk, and the order;
* `discoverMigrations_ok_iff`: **a directory is accepted** exactly if its files are those of
  numbered migrations, in whatever order they are found.
-/
import CnsServer.Store.MigrationFiles
import CnsServer.Properties.MigrationPlans
import Mathlib.Data.List.Perm.Basic
import Mathlib.Data.String.Basic

namespace CnsServer

/-! ### The names -/

/-- The name of the file of a migration. -/
def Migration.filename (migration : Migration) : String :=
  threeDigits migration.version ++ "_" ++ migration.name ++ ".sql"

/-- The file of a migration. -/
def Migration.file (migration : Migration) : FileEntry := ⟨migration.filename, .ok true⟩

/-- The migration can be told from the name of its file. -/
def Migration.Named (migration : Migration) : Prop :=
  1 ≤ migration.version ∧ migration.version ≤ 999 ∧ migration.name ≠ ""

lemma digitChar_eq_ofNat : ∀ d < 10, d.digitChar = Char.ofNat (48 + d) := by decide

/-- The digits of a number below a thousand. -/
lemma threeDigits_lt {n : ℕ} (hn : n < 1000) : (threeDigits n).toList =
    [Char.ofNat (48 + n / 100), Char.ofNat (48 + n / 10 % 10), Char.ofNat (48 + n % 10)] := by
  have hpad : (threeDigits n).toList =
      List.replicate (3 - (Nat.toDigits 10 n).length) '0' ++ Nat.toDigits 10 n := by
    rw [threeDigits, if_neg (by omega)]
    simp [String.length, Nat.toList_repr]
  rw [hpad]
  by_cases hsmall : n < 10
  · rw [Nat.toDigits_of_lt_base hsmall, digitChar_eq_ofNat n hsmall,
      show n / 100 = 0 by omega, show n / 10 % 10 = 0 by omega, show n % 10 = n by omega]
    rfl
  rw [Nat.toDigits_of_base_le (by decide) (not_lt.mp hsmall)]
  by_cases hmiddle : n < 100
  · rw [Nat.toDigits_of_lt_base (by omega), digitChar_eq_ofNat _ (by omega),
      digitChar_eq_ofNat (n % 10) (by omega), show n / 100 = 0 by omega,
      show n / 10 % 10 = n / 10 by omega]
    rfl
  · rw [Nat.toDigits_of_base_le (by decide) (by omega), Nat.toDigits_of_lt_base (by omega),
      digitChar_eq_ofNat _ (by omega), digitChar_eq_ofNat (n / 10 % 10) (by omega),
      digitChar_eq_ofNat (n % 10) (by omega), show n / 10 / 10 = n / 100 by omega]
    rfl

/-- A character takes a byte at least. -/
lemma length_le_utf8ByteSize (s : String) : s.toList.length ≤ s.utf8ByteSize := by
  rw [← String.ofList_toList (s := s), String.utf8ByteSize_ofList, String.toList_ofList]
  induction s.toList with
  | nil => exact Nat.zero_le 0
  | cons c chars ih =>
      rw [String.utf8Len_cons, List.length_cons]
      exact Nat.add_le_add ih c.utf8Size_pos

lemma isDigit_ofNat : ∀ d < 10, isDigit (Char.ofNat (48 + d)) = true ∧
    digitValue (Char.ofNat (48 + d)) = d := by
  decide

/-- A digit is one of ten characters. -/
lemma exists_digit {c : Char} (h : isDigit c = true) :
    ∃ d < 10, c = Char.ofNat (48 + d) ∧ digitValue c = d := by
  obtain ⟨hlow, hhigh⟩ := Bool.and_eq_true_iff.mp h
  have hlow : 48 ≤ c.toNat := of_decide_eq_true hlow
  have hhigh : c.toNat ≤ 57 := of_decide_eq_true hhigh
  refine ⟨c.toNat - 48, by omega, ?_, ?_⟩
  · rw [Nat.add_sub_cancel' hlow, Char.ofNat_toNat]
  · rw [digitValue]
    omega

variable {entry : FileEntry} {migration : Migration}

lemma threeDigits_toList {v : ℤ} (hlow : 0 ≤ v) (hhigh : v ≤ 999) : ∃ x y z,
    (threeDigits v).toList = [x, y, z] ∧ (isDigit x && isDigit y && isDigit z) = true ∧
      digitValue x * 100 + digitValue y * 10 + digitValue z = v := by
  obtain ⟨n, rfl⟩ := Int.eq_ofNat_of_zero_le hlow
  have hn : n < 1000 := by omega
  obtain ⟨hx, hx'⟩ := isDigit_ofNat (n / 100) (by omega)
  obtain ⟨hy, hy'⟩ := isDigit_ofNat (n / 10 % 10) (by omega)
  obtain ⟨hz, hz'⟩ := isDigit_ofNat (n % 10) (by omega)
  refine ⟨_, _, _, threeDigits_lt hn, by rw [hx, hy, hz]; rfl, ?_⟩
  rw [hx', hy', hz']
  omega

lemma toList_threeDigits {x y z : Char} (h : (isDigit x && isDigit y && isDigit z) = true) :
    (threeDigits (digitValue x * 100 + digitValue y * 10 + digitValue z)).toList = [x, y, z] ∧
      0 ≤ digitValue x * 100 + digitValue y * 10 + digitValue z ∧
      digitValue x * 100 + digitValue y * 10 + digitValue z ≤ 999 := by
  simp only [Bool.and_eq_true] at h
  obtain ⟨a, ha, rfl, hx⟩ := exists_digit h.1.1
  obtain ⟨b, hb, rfl, hy⟩ := exists_digit h.1.2
  obtain ⟨c, hc, rfl, hz⟩ := exists_digit h.2
  have hsum : (a : ℤ) * 100 + b * 10 + c = ((a * 100 + b * 10 + c : ℕ) : ℤ) := by push_cast; rfl
  rw [hx, hy, hz, hsum, threeDigits_lt (by omega)]
  refine ⟨?_, by omega, by omega⟩
  rw [show (a * 100 + b * 10 + c) / 100 = a by omega,
    show (a * 100 + b * 10 + c) / 10 % 10 = b by omega,
    show (a * 100 + b * 10 + c) % 10 = c by omega]

/-- A name that ends in the suffix, and is longer. -/
lemma take_of_suffix {front rest : List Char} (h : ['.', 's', 'q', 'l'] <:+ front ++ rest)
    (hrest : rest.take (rest.length - 4) ≠ []) :
    rest.take (rest.length - 4) ++ ['.', 's', 'q', 'l'] = rest := by
  have hlength : 4 < rest.length := by
    by_contra hshort
    rw [Nat.sub_eq_zero_of_le (not_lt.mp hshort), List.take_zero] at hrest
    exact hrest rfl
  obtain ⟨start, hstart⟩ := List.suffix_of_suffix_length_le h (List.suffix_append front rest)
    hlength.le
  rw [← hstart]
  simp

/-- **The name of a file** says which migration it is. -/
lemma parseMigration_ok_iff :
    parseMigration entry = .ok (.ok migration) ↔ entry = migration.file ∧ migration.Named := by
  constructor
  · intro h
    rw [parseMigration] at h
    split at h
    · next x y z rest hlist =>
      split at h
      · cases h
      · next hformat =>
        simp only [not_or, not_not, Bool.not_eq_false] at hformat
        obtain ⟨-, hsql, hdigits⟩ := hformat
        obtain ⟨hthree, hlow, hhigh⟩ := toList_threeDigits hdigits
        rw [namedMigration] at h
        split at h
        · cases h
        next hzero =>
        split at h
        · cases h
        next hname =>
        split at h
        · cases h
        · cases h
        next hregular =>
        cases h
        rw [EndsWithSql, hlist] at hsql
        have hrest := @take_of_suffix [x, y, z, '_'] rest hsql hname
        refine ⟨?_, lt_of_le_of_ne hlow (Ne.symm hzero), hhigh, fun hempty =>
          hname (String.ofList_eq_empty_iff.mp hempty)⟩
        obtain ⟨filename, regular⟩ := entry
        have hfilename : filename = Migration.filename
            ⟨digitValue x * 100 + digitValue y * 10 + digitValue z,
              String.ofList (rest.take (rest.length - 4))⟩ := by
          rw [← String.toList_inj, hlist, Migration.filename]
          simp only [String.toList_append, hthree, String.toList_ofList]
          rw [List.append_assoc, show ".sql".toList = ['.', 's', 'q', 'l'] from rfl, hrest]
          rfl
        rw [Migration.file, ← hfilename]
        congr
    · cases h
  · rintro ⟨rfl, hlow, hhigh, hname⟩
    obtain ⟨x, y, z, hthree, hdigits, hvalue⟩ := threeDigits_toList (by omega) hhigh
    have hlist : migration.filename.toList =
        x :: y :: z :: '_' :: (migration.name.toList ++ ['.', 's', 'q', 'l']) := by
      simp only [Migration.filename, String.toList_append, hthree]
      rfl
    have hsize : ¬migration.filename.utf8ByteSize < 8 := by
      have hlength := length_le_utf8ByteSize migration.filename
      rw [hlist] at hlength
      simp only [List.length_cons, List.length_append] at hlength
      omega
    have hsql : EndsWithSql migration.filename := by
      rw [EndsWithSql, hlist]
      exact ⟨x :: y :: z :: '_' :: migration.name.toList, rfl⟩
    have hname : migration.name.toList ≠ [] := fun hnil => hname (String.toList_eq_nil_iff.mp hnil)
    have htake : (migration.name.toList ++ ['.', 's', 'q', 'l']).take
        ((migration.name.toList ++ ['.', 's', 'q', 'l']).length - 4) = migration.name.toList := by
      simp
    rw [parseMigration, show migration.file.filename.toList = _ from hlist]
    change (if migration.filename.utf8ByteSize < 8 ∨ ¬EndsWithSql migration.filename ∨
      (isDigit x && isDigit y && isDigit z) = false then _ else _) = _
    rw [if_neg (by simp [hsize, hsql, hdigits]), htake, hvalue, namedMigration, if_neg (by omega),
      if_neg hname]
    change Except.ok (Except.ok (Migration.mk migration.version (String.ofList _))) = _
    rw [String.ofList_toList]

/-! ### The walk -/

/-- **The walk** finds the migrations whose files there are. -/
lemma collectMigrations_ok_iff {failure : Option String} {entries : List FileEntry}
    {found migrations : List Migration} :
    collectMigrations failure entries found = .ok (.ok migrations) ↔
      failure = none ∧ ∃ new, migrations = found ++ new ∧
        entries.filter (fun entry => EndsWithSql entry.filename) = new.map Migration.file ∧
          ∀ migration ∈ new, migration.Named := by
  induction entries generalizing found with
  | nil =>
      cases failure with
      | some what => simp [collectMigrations]
      | none =>
          simp only [collectMigrations, Except.ok.injEq, List.filter_nil, true_and]
          constructor
          · rintro rfl
            exact ⟨[], by simp, rfl, by simp⟩
          · rintro ⟨new, rfl, hnew, -⟩
            rw [List.map_eq_nil_iff.mp hnew.symm, List.append_nil]
  | cons entry entries ih =>
      rw [collectMigrations]
      split
      · next hsql =>
        rw [List.filter_cons_of_pos (by simpa using hsql)]
        constructor
        · intro h
          split at h
          · cases h
          · cases h
          · next migration hparse =>
            obtain ⟨hfailure, new, rfl, hnew, hnamed⟩ := ih.mp h
            obtain ⟨rfl, hfirst⟩ := parseMigration_ok_iff.mp hparse
            refine ⟨hfailure, migration :: new, by simp, by rw [hnew]; rfl, ?_⟩
            intro other hother
            rcases List.mem_cons.mp hother with rfl | hother
            · exact hfirst
            · exact hnamed other hother
        · rintro ⟨hfailure, new, rfl, hnew, hnamed⟩
          cases new with
          | nil => cases hnew
          | cons migration new =>
              obtain ⟨hentry, hrest⟩ := List.cons.inj hnew
              rw [parseMigration_ok_iff.mpr ⟨hentry, hnamed _ List.mem_cons_self⟩]
              refine ih.mpr ⟨hfailure, new, by simp, hrest, fun other hother => ?_⟩
              exact hnamed other (List.mem_cons_of_mem _ hother)
      · next hsql =>
        rw [ih, List.filter_cons_of_neg (by simpa using hsql)]

/-! ### The order -/

lemma checkVersions_ok_iff {index : ℕ} {previous : Option ℤ} {migrations : List Migration} :
    checkVersions index previous migrations = .ok () ↔ NumberedFrom (index + 1) migrations := by
  induction migrations generalizing index previous with
  | nil => exact iff_of_true rfl rfl
  | cons migration migrations ih =>
      rw [checkVersions, numberedFrom_cons, ← ih]
      split
      · next hne =>
        refine iff_of_false (fun h => ?_) fun h => hne (by exact_mod_cast h.1)
        split at h <;> cases h
      · next heq =>
        rw [not_not] at heq
        exact (and_iff_right (by exact_mod_cast heq)).symm

/-- The order of numbered migrations is the order of their versions. -/
lemma NumberedFrom.pairwise {first : ℕ} {migrations : List Migration}
    (h : NumberedFrom first migrations) :
    migrations.Pairwise fun migration other => migration.version < other.version := by
  rw [← List.pairwise_map (f := Migration.version) (R := fun v w => v < w), h, List.pairwise_map]
  exact List.Pairwise.imp (fun hless => by exact_mod_cast hless) List.pairwise_lt_range'

/-- Numbered migrations are the result of sorting them. -/
lemma mergeSort_eq {found migrations : List Migration} (hnumbered : NumberedInOrder migrations)
    (hperm : found.Perm migrations) :
    (found.mergeSort fun migration other => migration.version ≤ other.version) = migrations := by
  have hless := hnumbered.pairwise
  have hsorted : (found.mergeSort fun migration other =>
      decide (migration.version ≤ other.version)).Pairwise fun migration other =>
        decide (migration.version ≤ other.version) = true :=
    List.pairwise_mergeSort (fun _ _ _ => by simpa using le_trans)
      (fun migration other => by simpa using le_total migration.version other.version) found
  refine List.Perm.eq_of_pairwise (fun migration other hmigration hother hle hge => ?_) hsorted
    (hless.imp fun h => decide_eq_true h.le) ((List.mergeSort_perm _ _).trans hperm)
  have hmember := ((List.mergeSort_perm _ _).trans hperm).subset hmigration
  have hsame := le_antisymm (of_decide_eq_true hle) (of_decide_eq_true hge)
  have hnodup : (migrations.map Migration.version).Nodup :=
    List.pairwise_map.mpr (hless.imp fun h => h.ne)
  exact List.inj_on_of_nodup_map hnodup hmember hother hsame

lemma orderMigrations_ok_iff {found migrations : List Migration} :
    orderMigrations found = .ok migrations ↔
      migrations ≠ [] ∧ NumberedInOrder migrations ∧ found.Perm migrations := by
  rw [orderMigrations]
  by_cases hempty : found = []
  · rw [if_pos hempty]
    subst hempty
    refine iff_of_false (fun h => by cases h) fun h => h.1 (List.nil_perm.mp h.2.2)
  · rw [if_neg hempty]
    constructor
    · intro h
      dsimp only at h
      split at h
      · cases h
      · next hchecked =>
        cases h
        have hperm := List.mergeSort_perm found fun migration other =>
          decide (migration.version ≤ other.version)
        refine ⟨fun hnil => hempty ?_, checkVersions_ok_iff.mp hchecked, hperm.symm⟩
        rw [hnil] at hperm
        exact List.nil_perm.mp hperm
    · rintro ⟨-, hnumbered, hperm⟩
      simp only [mergeSort_eq hnumbered hperm, checkVersions_ok_iff.mpr hnumbered]

/-- **A directory is accepted** exactly if it can be walked to the end, and its entries that end
in `.sql` are, in whatever order, regular files with the names `NNN_name.sql` of migrations
`1, 2, …`, of which there is at least one; these are the result, in order. -/
theorem discoverMigrations_ok_iff (directory : String) (walk : DirectoryWalk)
    (migrations : List Migration) :
    discoverMigrations directory walk = .ok migrations ↔
      walk.isDirectory = .ok true ∧ walk.failure = none ∧ migrations ≠ [] ∧
      NumberedInOrder migrations ∧ (∀ migration ∈ migrations, migration.Named) ∧
      (walk.entries.filter fun entry => EndsWithSql entry.filename).Perm
        (migrations.map Migration.file) := by
  rw [discoverMigrations]
  constructor
  · intro h
    split at h
    · cases h
    · cases h
    next hdirectory =>
    split at h
    · cases h
    · cases h
    next found hfound =>
    obtain ⟨hfailure, _, rfl, hnew, hnamed⟩ := collectMigrations_ok_iff.mp hfound
    obtain ⟨hsome, hnumbered, hperm⟩ := orderMigrations_ok_iff.mp h
    refine ⟨hdirectory, hfailure, hsome, hnumbered, fun migration hmem => ?_, ?_⟩
    · exact hnamed migration (hperm.symm.subset hmem)
    · rw [hnew]
      exact hperm.map _
  · rintro ⟨hdirectory, hfailure, hsome, hnumbered, hnamed, hperm⟩
    obtain ⟨new, hnew, hperm⟩ :=
      (congrFun₂ (List.eq_map_comp_perm Migration.file) _ migrations).mpr hperm
    rw [hdirectory, collectMigrations_ok_iff.mpr ⟨hfailure, new, rfl, hnew, fun migration hmem =>
      hnamed migration (hperm.subset hmem)⟩]
    exact orderMigrations_ok_iff.mpr ⟨hsome, hnumbered, hperm⟩

end CnsServer
