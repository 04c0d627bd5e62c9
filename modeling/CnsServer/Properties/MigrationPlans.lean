/-
The plan of the migrations, over interrupted runs.

* `NumberedInOrder`: the versions are `1, 2, …` in order;
* `buildMigrationPlan_ok_iff`, `buildMigrationPlan_apply_iff`: when there is a plan, and
  what is in it;
* `buildMigrationPlan_resumed`: the plan after some of its migrations;
* `migrationRuns`: processes that plan, apply what they have planned, and may stop anywhere;
* `migrations_resume`: **each migration is applied once and in order**, in every run.
-/
import CnsServer.Library.Machine
import CnsServer.Store.PostgresStore
import Mathlib.Data.List.Sort

namespace CnsServer

/-! ### Plans -/

/-- The versions are those from the given one on, in order. -/
def NumberedFrom (first : ℕ) (migrations : List Migration) : Prop :=
  migrations.map Migration.version = (List.range' first migrations.length).map Nat.cast

/-- The versions are `1, 2, …` in order. -/
abbrev NumberedInOrder (migrations : List Migration) : Prop := NumberedFrom 1 migrations

section

variable {available applied pending : List Migration}

lemma numberedFrom_cons {first : ℕ} {migration : Migration} {migrations : List Migration} :
    NumberedFrom first (migration :: migrations) ↔
      migration.version = first ∧ NumberedFrom (first + 1) migrations := by
  rw [NumberedFrom, List.map_cons, List.length_cons, List.range'_succ, List.map_cons,
    List.cons.injEq, NumberedFrom]

lemma validateContinuous_ok_iff (source : String) (index : ℕ) (migrations : List Migration) :
    validateContinuous source index migrations = .ok () ↔ NumberedFrom (index + 1) migrations := by
  induction migrations generalizing index with
  | nil => exact iff_of_true rfl rfl
  | cons migration migrations ih =>
      rw [validateContinuous, numberedFrom_cons, ← ih]
      split
      · next hne =>
          exact iff_of_false (fun h => by cases h) fun h => hne (by exact_mod_cast h.1)
      · next heq =>
          rw [not_not] at heq
          exact (and_iff_right (by exact_mod_cast heq)).symm

/-- The common part agrees, and the applied list is no longer. -/
lemma prefix_iff_zip : applied <+: available ↔
    ((available.zip applied).find? fun pair => pair.1 ≠ pair.2) = none ∧
      applied.drop available.length = [] := by
  induction applied generalizing available with
  | nil => simp
  | cons first rest ih =>
      cases available with
      | nil => simp
      | cons next others =>
          rw [List.cons_prefix_cons, ih, List.zip_cons_cons, List.find?_cons]
          by_cases hsame : first = next
          · subst hsame
            simp
          · have hother : next ≠ first := fun h => hsame h.symm
            simp [hsame, hother]

lemma buildMigrationPlan_ok_iff {mode : Mode} :
    buildMigrationPlan available applied mode = .ok pending ↔
      NumberedInOrder available ∧ NumberedInOrder applied ∧ applied <+: available ∧
        pending = available.drop applied.length ∧ (mode = .checkOnly → pending = []) := by
  rw [buildMigrationPlan]
  rcases havailable : validateContinuous "目录" 0 available with error | done
  · refine iff_of_false (fun h => by cases h) fun h => ?_
    rw [(validateContinuous_ok_iff _ _ _).mpr h.1] at havailable
    cases havailable
  rcases happlied : validateContinuous "数据库" 0 applied with error | done
  · refine iff_of_false (fun h => by cases h) fun h => ?_
    rw [(validateContinuous_ok_iff _ _ _).mpr h.2.1] at happlied
    cases happlied
  rw [and_iff_right ((validateContinuous_ok_iff _ _ _).mp havailable),
    and_iff_right ((validateContinuous_ok_iff _ _ _).mp happlied), prefix_iff_zip]
  simp only [bind, Except.bind]
  cases hdifferent : (available.zip applied).find? fun pair => pair.1 ≠ pair.2 with
  | some pair => exact iff_of_false (fun h => by cases h) fun h => by cases h.1.1
  | none =>
      cases hunknown : applied.drop available.length with
      | cons unknown others => exact iff_of_false (fun h => by cases h) fun h => by cases h.1.2
      | nil =>
          cases hpending : available.drop applied.length with
          | nil =>
              rw [and_iff_right ⟨rfl, rfl⟩]
              exact ⟨fun h => ⟨(Except.ok.inj h).symm, fun _ => (Except.ok.inj h).symm⟩,
                fun h => congrArg Except.ok h.1.symm⟩
          | cons next others =>
              rw [and_iff_right ⟨rfl, rfl⟩]
              cases mode with
              | checkOnly =>
                  refine iff_of_false (fun h => by cases h) fun h => ?_
                  rw [h.2 rfl] at h
                  cases h.1
              | apply =>
                  exact ⟨fun h => ⟨(Except.ok.inj h).symm, fun hmode => by cases hmode⟩,
                    fun h => congrArg Except.ok h.1.symm⟩

lemma numberedFrom_append {first : ℕ} {migrations others : List Migration} :
    NumberedFrom first (migrations ++ others) ↔
      NumberedFrom first migrations ∧ NumberedFrom (first + migrations.length) others := by
  induction migrations generalizing first with
  | nil => exact (and_iff_right rfl).symm
  | cons migration migrations ih =>
      rw [List.cons_append, numberedFrom_cons, numberedFrom_cons, ih, and_assoc, List.length_cons,
        Nat.add_right_comm, Nat.add_assoc]

/-- A part of the list is numbered too. -/
lemma NumberedFrom.of_start {first : ℕ} (h : NumberedFrom first available)
    (hstart : applied <+: available) : NumberedFrom first applied := by
  obtain ⟨others, rfl⟩ := hstart
  exact (numberedFrom_append.mp h).1

lemma buildMigrationPlan_apply_iff :
    buildMigrationPlan available applied .apply = .ok pending ↔
      NumberedInOrder available ∧ applied <+: available ∧
        pending = available.drop applied.length := by
  rw [buildMigrationPlan_ok_iff]
  constructor
  · rintro ⟨hnumbered, -, hstart, hpending, -⟩
    exact ⟨hnumbered, hstart, hpending⟩
  · rintro ⟨hnumbered, hstart, hpending⟩
    exact ⟨hnumbered, hnumbered.of_start hstart, hstart, hpending, fun h => by cases h⟩

/-- What is applied and what is pending are all there is. -/
lemma append_pending (h : buildMigrationPlan available applied .apply = .ok pending) :
    applied ++ pending = available := by
  obtain ⟨-, hstart, rfl⟩ := buildMigrationPlan_apply_iff.mp h
  obtain ⟨others, rfl⟩ := hstart
  rw [List.drop_left]

/-- **The plan after some of its migrations** is the rest of it. -/
lemma buildMigrationPlan_resumed (h : buildMigrationPlan available applied .apply = .ok pending)
    (k : ℕ) : buildMigrationPlan available (applied ++ pending.take k) .apply =
      .ok (pending.drop k) := by
  have hsplit : available = applied ++ pending.take k ++ pending.drop k := by
    rw [List.append_assoc, List.take_append_drop, append_pending h]
  rw [buildMigrationPlan_apply_iff]
  refine ⟨(buildMigrationPlan_apply_iff.mp h).1, ⟨pending.drop k, hsplit.symm⟩, ?_⟩
  rw [hsplit, List.drop_left]

end

/-! ### Runs -/

/-- The table `schema_migrations`, its rows in key order, the scripts that have been
executed and committed, and what the running process has still to apply. -/
structure MigrationState where
  rows : List Migration
  executed : List Migration
  pending : Option (List Migration)

/-- A process starts and plans, applies the next migration, or stops. -/
inductive MigrationInput where
  | start | apply | stop

namespace MigrationState

/-- `ApplyMigration`: the script and its row in one transaction, unless the version has a
row already. -/
def applyMigration (s : MigrationState) (migration : Migration) : Option MigrationState :=
  if migration.version ∈ s.rows.map Migration.version then none
  else some { s with
    rows := s.rows.orderedInsert (fun row other => row.version ≤ other.version) migration
    executed := s.executed ++ [migration] }

/-- The loop of `RunService` in the mode that migrates. -/
def next (available : List Migration) (s : MigrationState) : MigrationInput → MigrationState
  | .start =>
      match buildMigrationPlan available s.rows .apply with
      | .ok pending => { s with pending := some pending }
      | .error _ => s
  | .apply =>
      match s.pending with
      | some (migration :: rest) =>
          match s.applyMigration migration with
          | some s' => { s' with pending := some rest }
          | none => { s with pending := none }
      | _ => s
  | .stop => { s with pending := none }

end MigrationState

/-- One process after the other migrates a database that holds the given rows. -/
def migrationRuns (available applied : List Migration) : Machine MigrationState MigrationInput where
  init s := s = ⟨applied, [], none⟩
  enabled s
    | .start => s.pending = none
    | .apply => s.pending.isSome = true
    | .stop => s.pending.isSome = true
  next := MigrationState.next available

section

variable {available applied pending : List Migration} {s : MigrationState}

/-- The first migrations of the plan have been applied, in order, and the running process
has the others before it. -/
def Resumed (applied pending : List Migration) (s : MigrationState) : Prop :=
  ∃ k, s.executed = pending.take k ∧ s.rows = applied ++ pending.take k ∧
    ∀ rest, s.pending = some rest → rest = pending.drop k

/-- A row with a new greatest version comes last. -/
lemma orderedInsert_last {rows : List Migration} {migration : Migration}
    (h : ∀ row ∈ rows, row.version < migration.version) :
    rows.orderedInsert (fun row other => row.version ≤ other.version) migration =
      rows ++ [migration] := by
  induction rows with
  | nil => rfl
  | cons row rows ih =>
      have hrow := h row List.mem_cons_self
      rw [List.orderedInsert_cons, if_neg (by omega), List.cons_append,
        ih fun other hother => h other (List.mem_cons_of_mem _ hother)]

/-- The last of the numbered migrations has the greatest version. -/
lemma NumberedFrom.version_lt {first : ℕ} {migrations : List Migration} {migration : Migration}
    (h : NumberedFrom first (migrations ++ [migration])) :
    ∀ row ∈ migrations, row.version < migration.version := by
  obtain ⟨hall, hlast⟩ := numberedFrom_append.mp h
  have hversion := (numberedFrom_cons.mp hlast).1
  intro row hrow
  have hmem : row.version ∈ migrations.map Migration.version := List.mem_map_of_mem hrow
  rw [hall, List.mem_map] at hmem
  obtain ⟨n, hn, hrowVersion⟩ := hmem
  rw [List.mem_range'_1] at hn
  omega

lemma next_resumed (hplan : buildMigrationPlan available applied .apply = .ok pending)
    (h : Resumed applied pending s) (input : MigrationInput) :
    Resumed applied pending (s.next available input) := by
  obtain ⟨k, hexecuted, hrows, hpending⟩ := h
  cases input with
  | start =>
      have hnext : s.next available .start = { s with pending := some (pending.drop k) } := by
        rw [MigrationState.next, hrows, buildMigrationPlan_resumed hplan k]
      rw [hnext]
      exact ⟨k, hexecuted, hrows, fun rest hrest => (Option.some.inj hrest).symm⟩
  | apply =>
      rw [MigrationState.next]
      split
      · next migration rest hsome =>
          have hdrop : migration :: rest = pending.drop k := hpending _ hsome
          have hrest : rest = pending.drop (k + 1) := by
            rw [← List.tail_drop, ← hdrop, List.tail_cons]
          have htake : pending.take (k + 1) = pending.take k ++ [migration] := by
            rw [List.take_add, ← hdrop, List.take_succ_cons, List.take_zero]
          -- the new version is the greatest
          have hnumbered : NumberedInOrder (applied ++ pending.take k ++ [migration]) := by
            refine (buildMigrationPlan_apply_iff.mp hplan).1.of_start ⟨rest, ?_⟩
            rw [List.append_assoc, List.append_assoc, List.singleton_append, hdrop,
              List.take_append_drop, append_pending hplan]
          have hless := hnumbered.version_lt
          have hnew : migration.version ∉ s.rows.map Migration.version := by
            rw [hrows]
            intro hmem
            obtain ⟨row, hrow, hversion⟩ := List.mem_map.mp hmem
            have := hless row hrow
            omega
          rw [MigrationState.applyMigration, if_neg hnew]
          refine ⟨k + 1, ?_, ?_, fun other hother => ?_⟩
          · rw [htake, ← hexecuted]
          · change List.orderedInsert _ _ _ = _
            rw [hrows, orderedInsert_last hless, htake, List.append_assoc]
          · cases hother
            exact hrest
      · exact ⟨k, hexecuted, hrows, hpending⟩
  | stop => exact ⟨k, hexecuted, hrows, fun rest hrest => by cases hrest⟩

/-- **In every run** the migrations are applied once and in order. -/
lemma resumed_of_reachable (hplan : buildMigrationPlan available applied .apply = .ok pending)
    (h : (migrationRuns available applied).Reachable s) : Resumed applied pending s := by
  refine h.invariant (P := Resumed applied pending) (fun s hs => ?_)
    fun s input _ hs _ => next_resumed hplan hs input
  subst hs
  exact ⟨0, rfl, (List.append_nil _).symm, fun rest hrest => by cases hrest⟩

/-- A process that has nothing left has brought the database up to date. -/
lemma Resumed.done (hplan : buildMigrationPlan available applied .apply = .ok pending)
    (h : Resumed applied pending s) (hdone : s.pending = some []) : s.rows = available := by
  obtain ⟨k, -, hrows, hpending⟩ := h
  have htake : pending.take k = pending := by
    conv_rhs => rw [← List.take_append_drop k pending, ← hpending [] hdone, List.append_nil]
  rw [hrows, htake, append_pending hplan]

/-- **The migrations.**  There is a plan if and only if both lists are numbered and the one
extends the other, and it is the rest; a check finds nothing pending; and processes that may
be stopped anywhere apply the rest once and in order. -/
theorem migrations_resume (available applied : List Migration) :
    (∀ pending, buildMigrationPlan available applied .apply = .ok pending ↔
      NumberedInOrder available ∧ NumberedInOrder applied ∧ applied <+: available ∧
        pending = available.drop applied.length) ∧
    (∀ pending, buildMigrationPlan available applied .checkOnly = .ok pending ↔
      NumberedInOrder available ∧ NumberedInOrder applied ∧ applied <+: available ∧
        available.drop applied.length = [] ∧ pending = []) ∧
    ∀ pending, buildMigrationPlan available applied .apply = .ok pending →
      (∀ k, buildMigrationPlan available (applied ++ pending.take k) .apply =
        .ok (pending.drop k)) ∧
      ∀ s, (migrationRuns available applied).Reachable s →
        (∃ k, s.executed = pending.take k ∧ s.rows = applied ++ pending.take k ∧
          ∀ rest, s.pending = some rest → rest = pending.drop k) ∧
        (s.pending = some [] → s.rows = available) := by
  refine ⟨fun pending => ?_, fun pending => ?_, fun pending hplan =>
    ⟨buildMigrationPlan_resumed hplan, fun s hs => ?_⟩⟩
  · rw [buildMigrationPlan_ok_iff]
    exact and_congr_right' (and_congr_right' (and_congr_right'
      (and_iff_left fun hmode => by cases hmode)))
  · rw [buildMigrationPlan_ok_iff]
    refine and_congr_right' (and_congr_right' (and_congr_right' ?_))
    constructor
    · rintro ⟨hpending, hnone⟩
      exact ⟨hpending.symm.trans (hnone rfl), hnone rfl⟩
    · rintro ⟨hdrop, hpending⟩
      exact ⟨hpending.trans hdrop.symm, fun _ => hpending⟩
  · have hresumed := resumed_of_reachable hplan hs
    exact ⟨hresumed, hresumed.done hplan⟩

end

namespace Sample

/-- Three migrations, of which one has been applied. -/
def migrations : List Migration := [⟨1, "创建迁移版本表"⟩, ⟨2, "创建核心业务表"⟩, ⟨3, "增加命令扫描索引"⟩]

/-- A process stops after one migration, and the next one finishes. -/
def interruptedMigration : List MigrationInput := [.start, .apply, .stop, .start, .apply]

lemma reachable_interrupted : (migrationRuns migrations (migrations.take 1)).Reachable
    (interruptedMigration.foldl (MigrationState.next migrations)
      ⟨migrations.take 1, [], none⟩) := by
  have hrun : (migrationRuns migrations (migrations.take 1)).Run
      ⟨migrations.take 1, [], none⟩ interruptedMigration _ :=
    .cons rfl (.cons rfl (.cons rfl (.cons rfl (.cons rfl (.nil _)))))
  exact Machine.Reachable.run (.start rfl) hrun

end Sample

/-- After an interruption, the rest is applied once. -/
theorem migrations_resume_interrupted :
    (Sample.interruptedMigration.foldl (MigrationState.next Sample.migrations)
        ⟨Sample.migrations.take 1, [], none⟩).rows = Sample.migrations ∧
      buildMigrationPlan Sample.migrations (Sample.migrations.take 1 ++
        (Sample.migrations.drop 1).take 1) .apply = .ok (Sample.migrations.drop 2) := by
  have hplan : buildMigrationPlan Sample.migrations (Sample.migrations.take 1) .apply =
      .ok (Sample.migrations.drop 1) := by
    rfl
  obtain ⟨hresumed, hruns⟩ :=
    (migrations_resume Sample.migrations (Sample.migrations.take 1)).2.2 _ hplan
  exact ⟨(hruns _ Sample.reachable_interrupted).2 rfl, hresumed 1⟩

end CnsServer
