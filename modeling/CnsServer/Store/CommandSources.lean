/-
The table `command_sources` (`migrations/`) and the statements of `postgres_store.cpp`
on it.

* `SourceTable`: the rows by their key, with the `CHECK`s of the migrations;
* `insertDevice`: the statement of `ProvisionDevice`;
* `sync`, `load`: `SyncAndLoadCommandSources`, which brings the fixed sources of the
  configuration into the table and reads all rows;
* `load_find`: the catalogue that is loaded from the table finds what the table has;
* `sync_extends`: the rows of the devices are left alone by it.

The reference of `device_id` to `devices` spans two tables, and is kept by the methods
that write both.
-/
import CnsServer.Command.Router
import Mathlib.Data.List.Sort

namespace CnsServer

/-- `command_sources_source_id_check`, and the width of the column. -/
def sourceIdCheck (sourceId : String) : Bool :=
  !sourceId.isEmpty && sourceId.length ≤ 64 &&
    sourceId.toList.all fun c => c.isAlphanum || c = '.' || c = '_' || c = ':' || c = '-'

/-- A device source has the id of its device, and any other source has no device. -/
def CommandSource.KindCheck (source : CommandSource) : Prop :=
  if source.kind = .device then source.deviceId = some source.sourceId
  else source.deviceId = none

instance (source : CommandSource) : Decidable source.KindCheck :=
  inferInstanceAs (Decidable (ite _ _ _))

/-- The source of a device meets the check of its kind. -/
lemma deviceSource_check (deviceId : String) : (deviceSource deviceId).KindCheck := rfl

/-- The rows of `command_sources`. -/
structure SourceTable where
  rows : Map String CommandSource
  source_id : ∀ sourceId source, rows.lookup sourceId = some source → source.sourceId = sourceId
  id_check : ∀ sourceId source, rows.lookup sourceId = some source → sourceIdCheck sourceId = true
  kind_check : ∀ sourceId source, rows.lookup sourceId = some source → source.KindCheck

inductive FixedSourceKind where
  | hostApp | controlCenter
  deriving DecidableEq, Repr

def FixedSourceKind.toKind : FixedSourceKind → SourceKind
  | .hostApp => .hostApp
  | .controlCenter => .controlCenter

/-- `config::FixedSourceConfig`. -/
structure FixedSource where
  sourceId : String
  sourceKind : FixedSourceKind
  deriving DecidableEq, Repr

namespace SourceTable

/-- The table after the migrations. -/
def empty : SourceTable where
  rows := ∅
  source_id _ _ h := by cases h
  id_check _ _ h := by cases h
  kind_check _ _ h := by cases h

/-- A row comes in or is replaced. -/
def set (t : SourceTable) (source : CommandSource) (hid : sourceIdCheck source.sourceId = true)
    (hkind : source.KindCheck) : SourceTable where
  rows := t.rows.insert source.sourceId source
  source_id sourceId other h := by
    rcases Map.lookup_insert_some.mp h with ⟨rfl, rfl⟩ | ⟨-, h⟩
    · rfl
    · exact t.source_id sourceId other h
  id_check sourceId other h := by
    rcases Map.lookup_insert_some.mp h with ⟨rfl, -⟩ | ⟨-, h⟩
    · exact hid
    · exact t.id_check sourceId other h
  kind_check sourceId other h := by
    rcases Map.lookup_insert_some.mp h with ⟨-, rfl⟩ | ⟨-, h⟩
    · exact hkind
    · exact t.kind_check sourceId other h

@[simp] lemma set_rows (t : SourceTable) (source : CommandSource)
    (hid : sourceIdCheck source.sourceId = true) (hkind : source.KindCheck) :
    (t.set source hid hkind).rows = t.rows.insert source.sourceId source := rfl

/-- `INSERT INTO command_sources … ON CONFLICT (source_id) DO NOTHING`, for a device. -/
def insertDevice (t : SourceTable) (deviceId : String) : Option SourceTable :=
  if (t.rows.lookup deviceId).isSome then some t
  else if h : sourceIdCheck (deviceSource deviceId).sourceId = true then
    some (t.set (deviceSource deviceId) h (deviceSource_check deviceId))
  else none

/-- `UPDATE command_sources SET enabled = false`, for the fixed sources that are not
configured any more. -/
def disable (t : SourceTable) (configured : List FixedSource) : SourceTable where
  rows := t.rows.mapValues fun source =>
    if source.kind ≠ .device ∧ source.sourceId ∉ configured.map FixedSource.sourceId then
      { source with enabled := false }
    else source
  source_id sourceId other h := by
    rw [Map.lookup_mapValues, Option.map_eq_some_iff] at h
    obtain ⟨source, hsource, rfl⟩ := h
    have hid := t.source_id sourceId source hsource
    split <;> exact hid
  id_check sourceId other h := by
    rw [Map.lookup_mapValues, Option.map_eq_some_iff] at h
    obtain ⟨source, hsource, rfl⟩ := h
    exact t.id_check sourceId source hsource
  kind_check sourceId other h := by
    rw [Map.lookup_mapValues, Option.map_eq_some_iff] at h
    obtain ⟨source, hsource, rfl⟩ := h
    have hkind := t.kind_check sourceId source hsource
    split <;> exact hkind

/-- `INSERT INTO command_sources … ON CONFLICT (source_id) DO UPDATE SET enabled = true`,
for a fixed source. -/
def upsertFixed (t : SourceTable) (fixed : FixedSource) : Option SourceTable :=
  match h : t.rows.lookup fixed.sourceId with
  | some source =>
      some (t.set { source with enabled := true }
        (t.source_id _ source h ▸ t.id_check _ source h) (t.kind_check _ source h))
  | none =>
      if hid : sourceIdCheck fixed.sourceId = true then
        some (t.set ⟨fixed.sourceId, fixed.sourceKind.toKind, none, true⟩ hid
          (by cases fixed.sourceKind <;> rfl))
      else none

/-- The source stands in the table with another kind. -/
def conflicts (t : SourceTable) (fixed : FixedSource) : Bool :=
  match t.rows.lookup fixed.sourceId with
  | some source => source.kind ≠ fixed.sourceKind.toKind
  | none => false

/-- `SyncAndLoadCommandSources`, up to its query. -/
def sync (t : SourceTable) (configured : List FixedSource) : Except String SourceTable :=
  if configured.any t.conflicts then .error "同步 PostgreSQL 命令来源失败：来源类型冲突"
  else
    match configured.foldlM upsertFixed (t.disable configured) with
    | some t => .ok t
    | none => .error "同步 PostgreSQL 命令来源失败"

/-- The query of `SyncAndLoadCommandSources`. -/
def load (t : SourceTable) : List CommandSource :=
  (t.rows.keys.insertionSort (· ≤ ·)).filterMap t.rows.lookup

/-! ### What the statements do -/

/-- No row is taken out, and no device row comes in. -/
structure Extends (t t' : SourceTable) : Prop where
  kept : ∀ sourceId, (t.rows.lookup sourceId).isSome = true →
    (t'.rows.lookup sourceId).isSome = true
  device : ∀ sourceId source, t'.rows.lookup sourceId = some source → source.kind = .device →
    ∃ before, t.rows.lookup sourceId = some before ∧ before.kind = .device

section

variable {t t' : SourceTable}

/-- To extend a table is a preorder. -/
lemma Extends.refl (t : SourceTable) : t.Extends t :=
  ⟨fun _ h => h, fun _ source h hkind => ⟨source, h, hkind⟩⟩

lemma Extends.trans {t'' : SourceTable} (h : t.Extends t') (h' : t'.Extends t'') :
    t.Extends t'' := by
  refine ⟨fun sourceId hsome => h'.kept _ (h.kept _ hsome), ?_⟩
  intro sourceId source hsource hkind
  obtain ⟨between, hbetween, hkind'⟩ := h'.device sourceId source hsource hkind
  exact h.device sourceId between hbetween hkind'

/-- Disabling touches fixed sources only, and so does an upsert. -/
lemma disable_extends (t : SourceTable) (configured : List FixedSource) :
    t.Extends (t.disable configured) := by
  refine ⟨fun sourceId h => ?_, fun sourceId source h hkind => ?_⟩
  · rw [disable, Map.lookup_mapValues, Option.isSome_map]
    exact h
  · rw [disable, Map.lookup_mapValues, Option.map_eq_some_iff] at h
    obtain ⟨before, hbefore, rfl⟩ := h
    refine ⟨before, hbefore, ?_⟩
    split at hkind <;> exact hkind

lemma upsertFixed_extends {fixed : FixedSource} (h : t.upsertFixed fixed = some t') :
    t.Extends t' := by
  have hset : ∀ source : CommandSource, ∀ hid hkind, t' = t.set source hid hkind →
      (source.kind = .device → ∃ before, t.rows.lookup source.sourceId = some before ∧
        before.kind = .device) → t.Extends t' := by
    rintro source hid hkind rfl hdevice
    refine ⟨fun sourceId hsome => ?_, fun sourceId other hother hother' => ?_⟩
    · rw [set_rows, Map.lookup_insert_ite]
      split
      · rfl
      · exact hsome
    · rcases Map.lookup_insert_some.mp hother with ⟨rfl, rfl⟩ | ⟨-, hold⟩
      · exact hdevice hother'
      · exact ⟨other, hold, hother'⟩
  rw [upsertFixed] at h
  split at h
  · next source hsource =>
      refine hset _ _ _ (Option.some.inj h).symm fun hkind => ⟨source, ?_, hkind⟩
      rw [t.source_id _ source hsource]
      exact hsource
  · split at h
    · refine hset _ _ _ (Option.some.inj h).symm fun hkind => ?_
      cases hfixed : fixed.sourceKind <;> rw [hfixed] at hkind <;> cases hkind
    · cases h

/-- **The fixed sources leave the devices alone**: no row is lost, and the device rows
are the ones that were there. -/
lemma sync_extends {configured : List FixedSource} (h : t.sync configured = .ok t') :
    t.Extends t' := by
  have hfold : ∀ (configured : List FixedSource) (t : SourceTable),
      configured.foldlM upsertFixed t = some t' → t.Extends t' := by
    intro configured
    induction configured with
    | nil =>
        intro t hfold
        cases hfold
        exact .refl _
    | cons fixed configured ih =>
        intro t hfold
        obtain ⟨next, hnext, hrest⟩ := Option.bind_eq_some_iff.mp hfold
        exact (upsertFixed_extends hnext).trans (ih next hrest)
  rw [sync] at h
  split at h
  · cases h
  · split at h
    · next found hfound =>
        cases h
        exact (disable_extends t configured).trans (hfold configured _ hfound)
    · cases h

/-- A device has a row afterwards, and nothing else changes. -/
lemma insertDevice_some {deviceId : String} (h : t.insertDevice deviceId = some t') :
    (t'.rows.lookup deviceId).isSome = true ∧
      (∀ sourceId, (t.rows.lookup sourceId).isSome = true →
        (t'.rows.lookup sourceId).isSome = true) ∧
      ∀ sourceId source, t'.rows.lookup sourceId = some source →
        sourceId = deviceId ∨ t.rows.lookup sourceId = some source := by
  rw [insertDevice] at h
  split at h
  · next hsome =>
      cases h
      exact ⟨hsome, fun _ => id, fun _ _ => .inr⟩
  · split at h
    · cases h
      refine ⟨?_, fun sourceId hsome => ?_, fun sourceId source hsource => ?_⟩
      · rw [set_rows, deviceSource, AList.lookup_insert]
        rfl
      · rw [set_rows, Map.lookup_insert_ite]
        split
        · rfl
        · exact hsome
      · rcases Map.lookup_insert_some.mp hsource with ⟨rfl, -⟩ | ⟨-, hold⟩
        · exact .inl rfl
        · exact .inr hold
    · cases h

/-! ### The catalogue -/

/-- A row passes the checks of the catalogue. -/
lemma checkSource_ok (t : SourceTable) {sourceId : String} {source : CommandSource}
    (h : t.rows.lookup sourceId = some source) : SourceCatalog.checkSource source = .ok () := by
  have hid := t.source_id sourceId source h
  have hcheck := t.id_check sourceId source h
  have hkind := t.kind_check sourceId source h
  simp only [sourceIdCheck, Bool.and_eq_true, Bool.not_eq_true'] at hcheck
  rw [CommandSource.KindCheck] at hkind
  rw [SourceCatalog.checkSource, hid, hcheck.1.1]
  split at hkind
  · next hdevice => simp [hdevice, hkind, hid]
  · next hdevice => simp [hdevice, hkind]

/-- Sources with ids of their own are loaded one after another. -/
lemma load_sources {sources : List CommandSource} {loaded : Map String CommandSource}
    (hcheck : ∀ source ∈ sources, SourceCatalog.checkSource source = .ok ())
    (hnodup : (sources.map CommandSource.sourceId).Nodup)
    (hfresh : ∀ source ∈ sources, loaded.lookup source.sourceId = none) :
    ∃ all, sources.foldlM
        (fun (loaded : Map String CommandSource) source => do
          SourceCatalog.checkSource source
          if (loaded.lookup source.sourceId).isSome then
            .error ("命令来源标识重复: " ++ source.sourceId)
          else .ok (loaded.insert source.sourceId source)) loaded = .ok all ∧
      ∀ sourceId source, all.lookup sourceId = some source ↔
        (source ∈ sources ∧ source.sourceId = sourceId) ∨ loaded.lookup sourceId = some source := by
  induction sources generalizing loaded with
  | nil => exact ⟨loaded, rfl, fun sourceId source => by simp⟩
  | cons first sources ih =>
      rw [List.map_cons, List.nodup_cons] at hnodup
      have hne : ∀ source ∈ sources, source.sourceId ≠ first.sourceId := fun source hsource heq =>
        hnodup.1 (heq ▸ List.mem_map_of_mem hsource)
      have hfirst := hfresh first List.mem_cons_self
      obtain ⟨all, hall, hlookup⟩ := @ih (loaded.insert first.sourceId first)
        (fun source hsource => hcheck source (List.mem_cons_of_mem _ hsource)) hnodup.2
        fun source hsource => by
          rw [AList.lookup_insert_ne (hne source hsource)]
          exact hfresh source (List.mem_cons_of_mem _ hsource)
      refine ⟨all, ?_, fun sourceId source => ?_⟩
      · rw [List.foldlM_cons, hcheck first List.mem_cons_self, hfirst]
        exact hall
      · rw [hlookup, Map.lookup_insert_some, List.mem_cons]
        grind

/-- The rows of some keys have these ids. -/
lemma map_filterMap_lookup (t : SourceTable) {sourceIds : List String}
    (h : ∀ sourceId ∈ sourceIds, (t.rows.lookup sourceId).isSome = true) :
    (sourceIds.filterMap t.rows.lookup).map CommandSource.sourceId = sourceIds := by
  induction sourceIds with
  | nil => rfl
  | cons sourceId sourceIds ih =>
      obtain ⟨source, hsource⟩ := Option.isSome_iff_exists.mp (h sourceId List.mem_cons_self)
      rw [List.filterMap_cons, hsource, List.map_cons, t.source_id sourceId source hsource,
        ih fun other hother => h other (List.mem_cons_of_mem _ hother)]

/-- **What the catalogue finds**: it loads the table, and finds what stands there. -/
lemma load_find (t : SourceTable) : ∃ catalog, SourceCatalog.load t.load = .ok catalog ∧
    ∀ sourceId, catalog.find sourceId = t.rows.lookup sourceId := by
  have hmem : ∀ source, source ∈ t.load ↔ ∃ sourceId, t.rows.lookup sourceId = some source := by
    intro source
    rw [load, List.mem_filterMap]
    constructor
    · rintro ⟨sourceId, -, h⟩
      exact ⟨sourceId, h⟩
    · rintro ⟨sourceId, h⟩
      refine ⟨sourceId, List.mem_insertionSort _ |>.mpr ?_, h⟩
      exact AList.lookup_isSome.mp (by rw [h]; rfl)
  have hids : t.load.map CommandSource.sourceId = t.rows.keys.insertionSort (· ≤ ·) := by
    refine map_filterMap_lookup t fun sourceId hkey => ?_
    exact AList.lookup_isSome.mpr ((List.mem_insertionSort _).mp hkey)
  have hnodup : (t.load.map CommandSource.sourceId).Nodup := by
    rw [hids]
    exact (List.perm_insertionSort _ _).nodup_iff.mpr t.rows.keys_nodup
  obtain ⟨all, hall, hlookup⟩ := @load_sources t.load ∅ (fun source hsource => by
    obtain ⟨sourceId, h⟩ := (hmem source).mp hsource
    exact t.checkSource_ok h) hnodup fun _ _ => rfl
  refine ⟨⟨all⟩, ?_, fun sourceId => Option.ext fun source => ?_⟩
  · rw [SourceCatalog.load, hall]
    rfl
  · rw [SourceCatalog.find, hlookup]
    constructor
    · rintro (⟨hsource, rfl⟩ | hempty)
      · obtain ⟨found, h⟩ := (hmem source).mp hsource
        rw [t.source_id found source h]
        exact h
      · cases hempty
    · intro h
      exact .inl ⟨(hmem source).mpr ⟨sourceId, h⟩, t.source_id sourceId source h⟩

end

end SourceTable

end CnsServer
