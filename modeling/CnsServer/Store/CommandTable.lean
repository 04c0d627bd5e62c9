/-
The `commands` table and the statements of `postgres_store.cpp` that read and
write it.

`CommandTable` carries the two constraints of the migration: `command_id` is
the primary key, and `(source_id, request_id)` is unique.  The statements are

* `findCommand`, `findCommandById`: the two reads;
* `insertCommand`: `INSERT … ON CONFLICT (source_id, request_id) DO UPDATE …
  RETURNING`, which hands back the row that already holds the key;
* `transitionCommand`: the compare-and-set on the status column;
* `recoverActiveControlCommands`, `loadActiveCommands`: the two statements of a
  start of the service;
* `deleteExpiredTerminalCommands`: the retention cleanup.

Instants are stored as whole microseconds.
-/
import Mathlib.Data.List.Sort
import CnsServer.Device.Registry

namespace CnsServer

/-! ### Rows -/

/-- `FromUnixMicroseconds (ToUnixMicroseconds t)`: an instant as it is read
back, truncated towards zero to microseconds. -/
def storedTime (t : TimePoint) : TimePoint := t.tdiv 1000 * 1000

/-- A record as its row reads it back. -/
def CommandRecord.stored (r : CommandRecord) : CommandRecord :=
  { r with
    createdAt := storedTime r.createdAt
    dispatchedAt := r.dispatchedAt.map storedTime
    updatedAt := storedTime r.updatedAt
    completedAt := r.completedAt.map storedTime }

/-- The row after the `UPDATE` of a transition. -/
def CommandRecord.transitioned (r : CommandRecord) (desired : CommandStatus)
    (update : CommandUpdate) : CommandRecord :=
  { r with
    status := desired
    errorCode := update.errorCode
    errorMessage := update.errorMessage
    deviceAck := update.deviceAck
    dispatchedAt := update.dispatchedAt.map storedTime
    completedAt := update.completedAt.map storedTime
    updatedAt := storedTime update.updatedAt }

/-- The row after the `UPDATE` of the recovery statement. -/
def CommandRecord.recovered (r : CommandRecord) (recoveredAt : TimePoint) : CommandRecord :=
  { r with
    status := .deliveryUncertain
    errorCode := some "control_delivery_uncertain"
    errorMessage := some "服务恢复后无法确认飞控命令是否已经执行"
    updatedAt := storedTime recoveredAt
    completedAt := some (storedTime recoveredAt) }

/-- Two records of one command: they agree on everything no statement ever
rewrites. -/
structure CommandRecord.SameCommand (r s : CommandRecord) : Prop where
  commandId : r.commandId = s.commandId
  commandType : r.commandType = s.commandType
  sourceId : r.sourceId = s.sourceId
  requestId : r.requestId = s.requestId
  targetDeviceId : r.targetDeviceId = s.targetDeviceId
  requestPayload : r.requestPayload = s.requestPayload

namespace CommandRecord.SameCommand

/-- To be versions of one command is an equivalence. -/
lemma refl (r : CommandRecord) : r.SameCommand r := ⟨rfl, rfl, rfl, rfl, rfl, rfl⟩

lemma symm {r s : CommandRecord} (h : r.SameCommand s) : s.SameCommand r :=
  ⟨h.1.symm, h.2.symm, h.3.symm, h.4.symm, h.5.symm, h.6.symm⟩

lemma trans {r s t : CommandRecord} (h : r.SameCommand s) (h' : s.SameCommand t) :
    r.SameCommand t :=
  ⟨h.1.trans h'.1, h.2.trans h'.2, h.3.trans h'.3, h.4.trans h'.4, h.5.trans h'.5,
    h.6.trans h'.6⟩

/-- A transition, a recovery and the truncation of the times keep what a command is. -/
lemma stored (r : CommandRecord) : r.stored.SameCommand r := ⟨rfl, rfl, rfl, rfl, rfl, rfl⟩

lemma transitioned (r : CommandRecord) (desired : CommandStatus) (update : CommandUpdate) :
    (r.transitioned desired update).SameCommand r := ⟨rfl, rfl, rfl, rfl, rfl, rfl⟩

lemma recovered (r : CommandRecord) (at_ : TimePoint) : (r.recovered at_).SameCommand r :=
  ⟨rfl, rfl, rfl, rfl, rfl, rfl⟩

end CommandRecord.SameCommand

/-! ### The table -/

/-- The `commands` table, with its primary key and its unique key. -/
structure CommandTable where
  rows : Map String CommandRecord
  primaryKey : ∀ {id r}, rows.lookup id = some r → r.commandId = id
  uniqueRequest : ∀ {id id' r r'}, rows.lookup id = some r → rows.lookup id' = some r' →
    r.sourceId = r'.sourceId → r.requestId = r'.requestId → id = id'

namespace CommandTable

/-- The table of a fresh database. -/
def empty : CommandTable where
  rows := ∅
  primaryKey h := by simp at h
  uniqueRequest h := by simp at h

/-- `FindCommandById`. -/
def findCommandById (table : CommandTable) (commandId : String) : Option CommandRecord :=
  table.rows.lookup commandId

/-- The rows, in the order of the underlying map. -/
def records (table : CommandTable) : List CommandRecord :=
  table.rows.entries.map Sigma.snd

/-- `FindCommand`. -/
def findCommand (table : CommandTable) (sourceId requestId : String) : Option CommandRecord :=
  table.records.find? fun r => r.sourceId = sourceId ∧ r.requestId = requestId

lemma mem_records {table : CommandTable} {r : CommandRecord} :
    r ∈ table.records ↔ table.findCommandById r.commandId = some r := by
  constructor
  · intro h
    obtain ⟨⟨id, r'⟩, hmem, rfl⟩ := List.mem_map.mp h
    have hlook := Map.mem_entries_iff.mp hmem
    rw [findCommandById, table.primaryKey hlook]
    exact hlook
  · intro h
    exact List.mem_map.mpr ⟨⟨r.commandId, r⟩, Map.mem_entries_iff.mpr h, rfl⟩

/-- A row stands under its own id. -/
lemma findCommandById_commandId {table : CommandTable} {id : String} {r : CommandRecord}
    (h : table.findCommandById id = some r) : r.commandId = id := table.primaryKey h

/-- A found row has the key that was asked for. -/
lemma findCommand_some {table : CommandTable} {sourceId requestId : String} {r : CommandRecord}
    (h : table.findCommand sourceId requestId = some r) :
    table.findCommandById r.commandId = some r ∧ r.sourceId = sourceId ∧
      r.requestId = requestId := by
  have hmem := List.mem_of_find?_eq_some h
  have hkey := List.find?_some h
  simp only [decide_eq_true_eq] at hkey
  exact ⟨mem_records.mp hmem, hkey.1, hkey.2⟩

/-- A key that is not found has no row. -/
lemma findCommand_none {table : CommandTable} {sourceId requestId : String}
    (h : table.findCommand sourceId requestId = none) {id : String} {r : CommandRecord}
    (hr : table.findCommandById id = some r) :
    ¬ (r.sourceId = sourceId ∧ r.requestId = requestId) := by
  have hid := findCommandById_commandId hr
  subst hid
  have := List.find?_eq_none.mp h r (mem_records.mpr hr)
  simpa using this

/-! ### Insertion and transition -/

/-- Adds a row whose two keys are free. -/
def addRow (table : CommandTable) (r : CommandRecord)
    (hfree : ∀ {id r'}, table.rows.lookup id = some r' →
      ¬ (r'.sourceId = r.sourceId ∧ r'.requestId = r.requestId)) : CommandTable where
  rows := table.rows.insert r.commandId r
  primaryKey := by
    intro id s h
    rcases Map.lookup_insert_some.mp h with ⟨rfl, rfl⟩ | ⟨_, h⟩
    · rfl
    · exact table.primaryKey h
  uniqueRequest := by
    intro id id' s s' h h' hsource hrequest
    rcases Map.lookup_insert_some.mp h with ⟨rfl, rfl⟩ | ⟨_, hold⟩ <;>
      rcases Map.lookup_insert_some.mp h' with ⟨rfl, rfl⟩ | ⟨_, hold'⟩
    · rfl
    · exact absurd ⟨hsource.symm, hrequest.symm⟩ (hfree hold')
    · exact absurd ⟨hsource, hrequest⟩ (hfree hold)
    · exact table.uniqueRequest hold hold' hsource hrequest

/-- Rewrites one row, keeping its keys. -/
def modifyRow (table : CommandTable) (commandId : String) (f : CommandRecord → CommandRecord)
    (hf : ∀ r, (f r).SameCommand r) : CommandTable where
  rows :=
    match table.rows.lookup commandId with
    | some r => table.rows.insert commandId (f r)
    | none => table.rows
  primaryKey := by
    intro id s h
    split at h
    · next r hr =>
        rcases Map.lookup_insert_some.mp h with ⟨rfl, rfl⟩ | ⟨_, h⟩
        · rw [(hf r).commandId, table.primaryKey hr]
        · exact table.primaryKey h
    · exact table.primaryKey h
  uniqueRequest := by
    intro id id' s s' h h' hsource hrequest
    cases hr : table.rows.lookup commandId with
    | some r =>
        rw [hr] at h h'
        rcases Map.lookup_insert_some.mp h with ⟨rfl, rfl⟩ | ⟨_, hold⟩ <;>
          rcases Map.lookup_insert_some.mp h' with ⟨rfl, rfl⟩ | ⟨_, hold'⟩
        · rfl
        · exact table.uniqueRequest hr hold' ((hf r).sourceId ▸ hsource)
            ((hf r).requestId ▸ hrequest)
        · exact table.uniqueRequest hold hr ((hf r).sourceId ▸ hsource)
            ((hf r).requestId ▸ hrequest)
        · exact table.uniqueRequest hold hold' hsource hrequest
    | none =>
        rw [hr] at h h'
        exact table.uniqueRequest h h' hsource hrequest

/-- What is found after a row has come in, changed or gone. -/
lemma findCommandById_addRow (table : CommandTable) (r : CommandRecord) (hfree) (id : String) :
    (table.addRow r hfree).findCommandById id =
      if id = r.commandId then some r else table.findCommandById id :=
  Map.lookup_insert_ite _ _ _ _

lemma findCommandById_modifyRow (table : CommandTable) (commandId : String)
    (f : CommandRecord → CommandRecord) (hf) (id : String) :
    (table.modifyRow commandId f hf).findCommandById id =
      if id = commandId then (table.findCommandById id).map f else table.findCommandById id := by
  unfold modifyRow findCommandById
  dsimp only
  cases hr : table.rows.lookup commandId with
  | some r =>
      simp only [Map.lookup_insert_ite]
      split
      · next h => rw [h, hr]; rfl
      · rfl
  | none =>
      by_cases h : id = commandId
      · rw [if_pos h, h, hr]; rfl
      · rw [if_neg h]

/-- `InsertCommand`: the conflict on the request key is settled before the
primary key is looked at, so a repeated insertion of one record finds its own
row. -/
def insertCommand (table : CommandTable) (command : CommandRecord) :
    CommandTable × Except String CommandRecord :=
  match h : table.findCommand command.sourceId command.requestId with
  | some existing => (table, .ok existing)
  | none =>
      if (table.findCommandById command.commandId).isSome then
        (table, .error "写入 PostgreSQL 命令失败")
      else
        (table.addRow command.stored (findCommand_none h), .ok command.stored)

/-- `TransitionCommand`. -/
def transitionCommand (table : CommandTable) (commandId : String)
    (expected desired : CommandStatus) (update : CommandUpdate) :
    CommandTable × Except String CommandRecord :=
  if !expected.canTransition desired then
    (table, .error "转换 PostgreSQL 命令状态失败：状态迁移非法")
  else
    match table.findCommandById commandId with
    | some r =>
        if r.status = expected then
          (table.modifyRow commandId (·.transitioned desired update)
            fun r => .transitioned r desired update, .ok (r.transitioned desired update))
        else (table, .error "转换 PostgreSQL 命令状态失败：状态已变化")
    | none => (table, .error "转换 PostgreSQL 命令状态失败：状态已变化")

/-! ### Start of the service -/

/-- `ORDER BY updated_at, command_id`. -/
def byUpdate (r s : CommandRecord) : Bool :=
  r.updatedAt < s.updatedAt || (r.updatedAt = s.updatedAt && r.commandId ≤ s.commandId)

/-- `LoadActiveCommands`. -/
def loadActiveCommands (table : CommandTable) (limit : ℕ) : List CommandRecord :=
  ((table.records.filter fun r => !r.status.isTerminal).mergeSort byUpdate).take limit

/-- The rows the recovery statement selects. -/
def activeControlCommands (table : CommandTable) (limit : ℕ) : List CommandRecord :=
  ((table.records.filter fun r => r.commandType = .control && !r.status.isTerminal).mergeSort
    byUpdate).take limit

/-- `RecoverActiveControlCommands`. -/
def recoverActiveControlCommands (table : CommandTable) (recoveredAt : TimePoint) (limit : ℕ) :
    CommandTable × List CommandRecord :=
  let active := table.activeControlCommands limit
  (active.foldl (fun t r => t.modifyRow r.commandId (·.recovered recoveredAt)
      fun r => .recovered r recoveredAt) table,
    active.map (·.recovered recoveredAt))

/-! ### Retention cleanup -/

/-- `ORDER BY completed_at, command_id`. -/
def byCompletion (r s : CommandRecord) : Bool :=
  match r.completedAt, s.completedAt with
  | some t, some u => t < u || (t = u && r.commandId ≤ s.commandId)
  | _, _ => true

/-- The rows the cleanup statement selects. -/
def expiredTerminalCommands (table : CommandTable) (before : TimePoint) (batchSize : ℕ) :
    List CommandRecord :=
  ((table.records.filter fun r => r.status.isTerminal &&
      r.completedAt.any (· < storedTime before)).mergeSort byCompletion).take batchSize

/-- Removes one row. -/
def deleteRow (table : CommandTable) (commandId : String) : CommandTable where
  rows := table.rows.erase commandId
  primaryKey h := table.primaryKey (Map.lookup_erase_some.mp h).2
  uniqueRequest h h' :=
    table.uniqueRequest (Map.lookup_erase_some.mp h).2 (Map.lookup_erase_some.mp h').2

/-- `DeleteExpiredTerminalCommands`. -/
def deleteExpiredTerminalCommands (table : CommandTable) (before : TimePoint)
    (batchSize : ℕ) : CommandTable × List CommandRecord :=
  let expired := table.expiredTerminalCommands before batchSize
  (expired.foldl (fun t r => t.deleteRow r.commandId) table, expired)

/-! ### What the statements do -/

/-- **`INSERT … ON CONFLICT`**: the row that holds the request key is handed
back as it is; a free key with a used command id is an error; otherwise the
record becomes a row. -/
lemma insertCommand_cases (table : CommandTable) (command : CommandRecord) :
    (∃ existing, table.findCommand command.sourceId command.requestId = some existing ∧
        table.insertCommand command = (table, .ok existing)) ∨
    (table.findCommand command.sourceId command.requestId = none ∧
        (table.findCommandById command.commandId).isSome ∧
        table.insertCommand command = (table, .error "写入 PostgreSQL 命令失败")) ∨
    (table.findCommandById command.commandId = none ∧
        (∀ id r, table.findCommandById id = some r →
          ¬ (r.sourceId = command.sourceId ∧ r.requestId = command.requestId)) ∧
        (table.insertCommand command).2 = .ok command.stored ∧
        ∀ id, (table.insertCommand command).1.findCommandById id =
          if id = command.commandId then some command.stored else table.findCommandById id) := by
  rw [insertCommand]
  split
  · next existing h => exact .inl ⟨existing, h, rfl⟩
  · next h =>
      split
      · next hid => exact .inr (.inl ⟨h, hid, rfl⟩)
      · next hid =>
          refine .inr (.inr ⟨by simpa using hid, fun id r hr => findCommand_none h hr, rfl, ?_⟩)
          exact fun id => findCommandById_addRow table command.stored (findCommand_none h) id

/-- The error text of a lost compare-and-set. -/
def stateChanged : String := "转换 PostgreSQL 命令状态失败：状态已变化"

/-- **The compare-and-set**: a transition outside the status graph is refused, a
row in the expected status moves, and any other row stays. -/
lemma transitionCommand_cases (table : CommandTable) (commandId : String)
    (expected desired : CommandStatus) (update : CommandUpdate) :
    (expected.canTransition desired = false ∧
        table.transitionCommand commandId expected desired update =
          (table, .error "转换 PostgreSQL 命令状态失败：状态迁移非法")) ∨
    ((∀ r, table.findCommandById commandId = some r → r.status ≠ expected) ∧
        table.transitionCommand commandId expected desired update =
          (table, .error stateChanged)) ∨
    (∃ r, table.findCommandById commandId = some r ∧ r.status = expected ∧
        expected.canTransition desired = true ∧
        (table.transitionCommand commandId expected desired update).2 =
          .ok (r.transitioned desired update) ∧
        ∀ id, (table.transitionCommand commandId expected desired update).1.findCommandById id =
          if id = commandId then some (r.transitioned desired update)
          else table.findCommandById id) := by
  rw [transitionCommand]
  cases hcan : expected.canTransition desired with
  | false => exact .inl ⟨rfl, by simp⟩
  | true =>
      refine .inr ?_
      simp only [Bool.not_true, Bool.false_eq_true, if_false]
      cases hr : table.findCommandById commandId with
      | none => exact .inl ⟨by simp, rfl⟩
      | some r =>
          by_cases hs : r.status = expected
          · refine .inr ⟨r, rfl, hs, trivial, by simp [hs], fun id => ?_⟩
            simp only [hs, if_true, findCommandById_modifyRow]
            split
            · next h => rw [h, hr]; rfl
            · rfl
          · refine .inl ⟨fun r' hr' => ?_, by simp [hs, stateChanged]⟩
            cases hr'
            exact hs

/-- The commands that a start takes over are rows that are not final, and those that a
cleanup deletes are final ones. -/
lemma mem_activeControlCommands {table : CommandTable} {limit : ℕ} {r : CommandRecord}
    (h : r ∈ table.activeControlCommands limit) :
    table.findCommandById r.commandId = some r ∧ r.commandType = .control ∧
      r.status.isTerminal = false := by
  have h1 := List.mem_mergeSort.mp (List.mem_of_mem_take h)
  obtain ⟨hmem, hcond⟩ := List.mem_filter.mp h1
  simp only [Bool.and_eq_true, decide_eq_true_eq, Bool.not_eq_true'] at hcond
  exact ⟨mem_records.mp hmem, hcond.1, hcond.2⟩

lemma mem_loadActiveCommands {table : CommandTable} {limit : ℕ} {r : CommandRecord}
    (h : r ∈ table.loadActiveCommands limit) :
    table.findCommandById r.commandId = some r ∧ r.status.isTerminal = false := by
  have h1 := List.mem_mergeSort.mp (List.mem_of_mem_take h)
  obtain ⟨hmem, hcond⟩ := List.mem_filter.mp h1
  exact ⟨mem_records.mp hmem, by simpa using hcond⟩

lemma mem_expiredTerminalCommands {table : CommandTable} {before : TimePoint} {batchSize : ℕ}
    {r : CommandRecord} (h : r ∈ table.expiredTerminalCommands before batchSize) :
    table.findCommandById r.commandId = some r ∧ r.status.isTerminal = true := by
  have h1 := List.mem_mergeSort.mp (List.mem_of_mem_take h)
  obtain ⟨hmem, hcond⟩ := List.mem_filter.mp h1
  simp only [Bool.and_eq_true] at hcond
  exact ⟨mem_records.mp hmem, hcond.1⟩

/-- Rewriting a list of rows by one idempotent function rewrites exactly them. -/
lemma findCommandById_foldl_modifyRow (f : CommandRecord → CommandRecord) (hf)
    (hidem : ∀ r, f (f r) = f r) (rs : List CommandRecord) (table : CommandTable) (id : String) :
    (rs.foldl (fun t r => t.modifyRow r.commandId f hf) table).findCommandById id =
      if id ∈ rs.map (·.commandId) then (table.findCommandById id).map f
      else table.findCommandById id := by
  induction rs generalizing table with
  | nil => simp
  | cons r rs ih =>
      rw [List.foldl_cons, ih, findCommandById_modifyRow]
      by_cases h1 : id = r.commandId <;> by_cases h2 : id ∈ rs.map (·.commandId) <;>
        simp_all [Function.comp_def]

/-- No two rows have one id. -/
lemma nodup_records (table : CommandTable) : (table.records.map (·.commandId)).Nodup := by
  have heq : table.records.map (·.commandId) = table.rows.keys := by
    rw [records, AList.keys, List.keys]
    rw [List.map_map]
    refine List.map_congr_left fun entry hentry => ?_
    exact table.primaryKey (Map.mem_entries_iff.mp hentry)
  rw [heq]
  exact table.rows.keys_nodup

/-- The versions of rows a recovery writes: `table'` is `table` with each of them
in place of a row that was not terminal. -/
structure Recovery (table table' : CommandTable) (written : List CommandRecord) : Prop where
  nodup : (written.map (·.commandId)).Nodup
  uncertain : ∀ r ∈ written, table'.findCommandById r.commandId = some r ∧
    r.commandType = .control ∧ r.status = .deliveryUncertain ∧
    ∃ s, table.findCommandById r.commandId = some s ∧ s.status.isTerminal = false ∧
      r.SameCommand s
  recovered : ∀ r ∈ written, ∃ s recoveredAt, table.findCommandById r.commandId = some s ∧
    s.commandType = .control ∧ s.status.isTerminal = false ∧ r = s.recovered recoveredAt
  rows : ∀ c r, table'.findCommandById c = some r →
    table.findCommandById c = some r ∨ r ∈ written
  kept : ∀ c r, table.findCommandById c = some r →
    table'.findCommandById c = some r ∨ r.commandType = .control
  stays : ∀ c, (table.findCommandById c).isSome → (table'.findCommandById c).isSome

/-- **Recovery**: each row stays, or it was an unfinished control command and is
now uncertain. -/
lemma recovery (table : CommandTable) (recoveredAt : TimePoint) (limit : ℕ) :
    Recovery table (table.recoverActiveControlCommands recoveredAt limit).1
      (table.recoverActiveControlCommands recoveredAt limit).2 := by
  have hfind : ∀ id, (table.recoverActiveControlCommands recoveredAt limit).1.findCommandById id =
      if id ∈ (table.activeControlCommands limit).map (·.commandId) then
        (table.findCommandById id).map (·.recovered recoveredAt)
      else table.findCommandById id := fun id =>
    findCommandById_foldl_modifyRow (·.recovered recoveredAt) _ (fun r => rfl) _ table id
  have hids : (table.recoverActiveControlCommands recoveredAt limit).2.map (·.commandId) =
      (table.activeControlCommands limit).map (·.commandId) := by
    rw [recoverActiveControlCommands]
    rw [List.map_map]
    rfl
  refine ⟨?_, fun r hr => ?_, fun r hr => ?_, fun c r hr => ?_, fun c r hr => ?_, fun c hc => ?_⟩
  · rw [hids]
    have hsub : ((table.records.filter
        fun r => r.commandType = .control && !r.status.isTerminal).map
          (·.commandId)).Nodup :=
      table.nodup_records.sublist (List.filter_sublist.map _)
    have hsorted := ((List.mergeSort_perm (table.records.filter
      fun r => r.commandType = .control && !r.status.isTerminal) byUpdate).map
        (·.commandId)).nodup_iff.mpr hsub
    exact hsorted.sublist ((List.take_sublist _ _).map _)
  · obtain ⟨s, hs, rfl⟩ := List.mem_map.mp hr
    obtain ⟨hrow, htype, hterm⟩ := mem_activeControlCommands hs
    refine ⟨?_, htype, rfl, s, hrow, hterm, .recovered s recoveredAt⟩
    rw [hfind, show (s.recovered recoveredAt).commandId = s.commandId from rfl,
      if_pos (List.mem_map_of_mem hs), hrow]
    rfl
  · obtain ⟨s, hs, rfl⟩ := List.mem_map.mp hr
    obtain ⟨hrow, htype, hterm⟩ := mem_activeControlCommands hs
    exact ⟨s, recoveredAt, hrow, htype, hterm, rfl⟩
  · rw [hfind] at hr
    split at hr
    · next hmem =>
        obtain ⟨s, hs, rfl⟩ := List.mem_map.mp hmem
        rw [(mem_activeControlCommands hs).1] at hr
        cases hr
        exact .inr (List.mem_map_of_mem hs)
    · exact .inl hr
  · rw [hfind]
    split
    · next hmem =>
        obtain ⟨s, hs, rfl⟩ := List.mem_map.mp hmem
        obtain ⟨hrow, htype, _⟩ := mem_activeControlCommands hs
        rw [hrow] at hr
        cases hr
        exact .inr htype
    · exact .inl hr
  · rw [hfind]
    split
    · rwa [Option.isSome_map]
    · exact hc

lemma findCommandById_deleteRow (table : CommandTable) (commandId id : String) :
    (table.deleteRow commandId).findCommandById id =
      if id = commandId then none else table.findCommandById id :=
  Map.lookup_erase_ite _ _ _

/-- **Cleanup**: each row stays, or it was terminal and is gone. -/
lemma findCommandById_deleteExpired (table : CommandTable) (before : TimePoint) (batchSize : ℕ)
    (id : String) :
    (table.deleteExpiredTerminalCommands before batchSize).1.findCommandById id =
        table.findCommandById id ∨
      ((table.deleteExpiredTerminalCommands before batchSize).1.findCommandById id = none ∧
        ∃ r ∈ table.expiredTerminalCommands before batchSize, r.commandId = id ∧
          table.findCommandById id = some r ∧ r.status.isTerminal = true) := by
  have hfold : ∀ (rs : List CommandRecord) (t : CommandTable),
      (rs.foldl (fun t r => t.deleteRow r.commandId) t).findCommandById id =
        if id ∈ rs.map (·.commandId) then none else t.findCommandById id := by
    intro rs
    induction rs with
    | nil => simp
    | cons r rs ih =>
        intro t
        rw [List.foldl_cons, ih, findCommandById_deleteRow]
        by_cases h1 : id = r.commandId <;> simp [h1]
  rw [deleteExpiredTerminalCommands]
  dsimp only
  rw [hfold]
  split
  · next h =>
      obtain ⟨r, hr, rfl⟩ := List.mem_map.mp h
      obtain ⟨hfind, hstatus⟩ := mem_expiredTerminalCommands hr
      exact .inr ⟨rfl, r, hr, rfl, hfind, hstatus⟩
  · exact .inl rfl

end CommandTable

end CnsServer
