/-
The fixed sources of the configuration, in the table of the sources.

* `syncAndLoadCommandSources`: the whole call, a transaction;
* `synced`: what stands under an id after a synchronisation, as a function of what stood
  there and of the configuration;
* `lookup_disable`, `lookup_upsertAll`: the two loops, id by id, and `lookup_sync` both;
* `sync_ok_iff`: **it succeeds unless a kind conflicts**;
* `load_congr`: tables with the same rows are loaded as the same list;
* `sources_synchronised`: the table and the list that a synchronisation leaves.
-/
import CnsServer.Store.CommandSources
import Mathlib.Data.String.Basic

namespace CnsServer

namespace SourceTable

variable {t t' : SourceTable} {configured : List FixedSource}

/-- `SyncAndLoadCommandSources`: the table afterwards, and the result.  After an error
nothing is committed. -/
def syncAndLoadCommandSources (t : SourceTable) (configured : List FixedSource) :
    SourceTable × Except String (List CommandSource) :=
  match t.sync configured with
  | .ok t' => (t', .ok t'.load)
  | .error error => (t, .error error)

/-! ### The statements, id by id -/

/-- The row of a fixed source that comes in. -/
def fixedRow (fixed : FixedSource) : CommandSource :=
  ⟨fixed.sourceId, fixed.sourceKind.toKind, none, true⟩

/-- A row after the first loop. -/
def disabled (configured : List FixedSource) (source : CommandSource) : CommandSource :=
  if source.kind ≠ .device ∧ source.sourceId ∉ configured.map FixedSource.sourceId then
    { source with enabled := false }
  else source

/-- What stands under an id after the second loop. -/
def upserted (configured : List FixedSource) (row : Option CommandSource) (sourceId : String) :
    Option CommandSource :=
  match configured.find? fun fixed => fixed.sourceId = sourceId with
  | none => row
  | some fixed =>
      match row with
      | some source => some { source with enabled := true }
      | none => some (fixedRow fixed)

lemma lookup_disable (t : SourceTable) (configured : List FixedSource) (sourceId : String) :
    (t.disable configured).rows.lookup sourceId =
      (t.rows.lookup sourceId).map (disabled configured) :=
  Map.lookup_mapValues _ _ _

lemma lookup_upsertFixed {fixed : FixedSource} (hcheck : sourceIdCheck fixed.sourceId = true) :
    ∃ t', t.upsertFixed fixed = some t' ∧ ∀ sourceId,
      t'.rows.lookup sourceId = upserted [fixed] (t.rows.lookup sourceId) sourceId := by
  have hfind : ∀ sourceId, ([fixed].find? fun fixed => fixed.sourceId = sourceId) =
      if sourceId = fixed.sourceId then some fixed else none := by
    intro sourceId
    by_cases h : sourceId = fixed.sourceId <;> simp [h, Ne.symm]
  rw [upsertFixed]
  split
  · next source hsource =>
      refine ⟨_, rfl, fun sourceId => ?_⟩
      show (t.rows.insert source.sourceId { source with enabled := true }).lookup sourceId = _
      rw [upserted, hfind, Map.lookup_insert_ite, t.source_id _ source hsource]
      split
      · next heq =>
          rw [heq, hsource]
          simp only [t.source_id _ source hsource]
      · rfl
  · next hnone =>
      rw [dif_pos hcheck]
      refine ⟨_, rfl, fun sourceId => ?_⟩
      show (t.rows.insert fixed.sourceId (fixedRow fixed)).lookup sourceId = _
      rw [upserted, hfind, Map.lookup_insert_ite]
      split
      · next heq => rw [heq, hnone]
      · rfl

/-- A fixed source first, and then the others. -/
lemma upserted_cons (fixed : FixedSource) (configured : List FixedSource)
    (row : Option CommandSource) (sourceId : String) :
    upserted (fixed :: configured) row sourceId =
      upserted configured (upserted [fixed] row sourceId) sourceId := by
  rw [upserted, upserted, upserted, List.find?_cons, List.find?_singleton]
  by_cases h : fixed.sourceId = sourceId
  · simp only [h, decide_true, if_true]
    cases row <;> cases configured.find? _ <;> rfl
  · simp only [h, decide_false]
    rfl

/-- The second loop. -/
lemma lookup_upsertAll (hcheck : ∀ fixed ∈ configured, sourceIdCheck fixed.sourceId = true) :
    ∃ t', configured.foldlM upsertFixed t = some t' ∧ ∀ sourceId,
      t'.rows.lookup sourceId = upserted configured (t.rows.lookup sourceId) sourceId := by
  induction configured generalizing t with
  | nil => exact ⟨t, rfl, fun _ => rfl⟩
  | cons fixed configured ih =>
      obtain ⟨next, hnext, hfixed⟩ := lookup_upsertFixed (t := t) (hcheck fixed List.mem_cons_self)
      obtain ⟨t', ht', hrest⟩ := ih (t := next) fun other hother =>
        hcheck other (List.mem_cons_of_mem _ hother)
      refine ⟨t', ?_, fun sourceId => ?_⟩
      · rw [List.foldlM_cons, hnext]
        exact ht'
      · rw [hrest, hfixed, ← upserted_cons]

/-- What stands under an id after a synchronisation. -/
def synced (t : SourceTable) (configured : List FixedSource) (sourceId : String) :
    Option CommandSource :=
  upserted configured ((t.rows.lookup sourceId).map (disabled configured)) sourceId

/-- No configured source stands in the table with another kind. -/
def NoConflict (t : SourceTable) (configured : List FixedSource) : Prop :=
  ∀ fixed ∈ configured, ∀ source, t.rows.lookup fixed.sourceId = some source →
    source.kind = fixed.sourceKind.toKind

lemma conflicts_eq_false_iff {fixed : FixedSource} : t.conflicts fixed = false ↔
    ∀ source, t.rows.lookup fixed.sourceId = some source →
      source.kind = fixed.sourceKind.toKind := by
  rw [conflicts]
  cases t.rows.lookup fixed.sourceId <;> simp

lemma noConflict_iff : t.NoConflict configured ↔ configured.any t.conflicts = false := by
  rw [List.any_eq_false, NoConflict]
  refine forall₂_congr fun fixed hfixed => ?_
  rw [Bool.not_eq_true, conflicts_eq_false_iff]

/-- Without a conflict the synchronisation succeeds. -/
lemma lookup_sync (hcheck : ∀ fixed ∈ configured, sourceIdCheck fixed.sourceId = true)
    (h : t.NoConflict configured) :
    ∃ t', t.sync configured = .ok t' ∧
      ∀ sourceId, t'.rows.lookup sourceId = t.synced configured sourceId := by
  obtain ⟨t', ht', hlookup⟩ := lookup_upsertAll (t := t.disable configured) hcheck
  refine ⟨t', ?_, fun sourceId => ?_⟩
  · rw [sync, noConflict_iff.mp h, ht']
    rfl
  · rw [hlookup, lookup_disable, synced]

/-- With a conflict nothing is written. -/
lemma sync_conflict (h : ¬ t.NoConflict configured) :
    t.syncAndLoadCommandSources configured =
      (t, .error "同步 PostgreSQL 命令来源失败：来源类型冲突") := by
  rw [noConflict_iff, Bool.not_eq_false] at h
  rw [syncAndLoadCommandSources, sync, h]
  rfl

/-- **A synchronisation succeeds unless a kind conflicts.** -/
lemma sync_ok_iff (hcheck : ∀ fixed ∈ configured, sourceIdCheck fixed.sourceId = true) :
    (∃ sources, (t.syncAndLoadCommandSources configured).2 = .ok sources) ↔
      t.NoConflict configured := by
  constructor
  · rintro ⟨sources, hok⟩
    by_contra hconflict
    rw [sync_conflict hconflict] at hok
    cases hok
  · intro h
    obtain ⟨t', hsync, -⟩ := lookup_sync hcheck h
    refine ⟨t'.load, ?_⟩
    rw [syncAndLoadCommandSources, hsync]

/-! ### What a synchronisation leaves -/

lemma find_configured {sourceId : String} : (∃ fixed,
      (configured.find? fun fixed => fixed.sourceId = sourceId) = some fixed) ↔
    sourceId ∈ configured.map FixedSource.sourceId := by
  rw [← Option.isSome_iff_exists, List.find?_isSome, List.mem_map]
  simp only [decide_eq_true_eq]

/-- A row that was there keeps everything but its enablement, which a device keeps too
unless it is configured. -/
lemma synced_row {sourceId : String} {source : CommandSource}
    (h : t.rows.lookup sourceId = some source) :
    t.synced configured sourceId = some { source with
      enabled :=
        if sourceId ∈ configured.map FixedSource.sourceId then true
        else if source.kind = .device then source.enabled else false } := by
  obtain rfl : source.sourceId = sourceId := t.source_id sourceId source h
  rw [synced, h, Option.map_some, upserted, disabled]
  by_cases hmem : source.sourceId ∈ configured.map FixedSource.sourceId
  · obtain ⟨fixed, hfixed⟩ := find_configured.mpr hmem
    simp [hfixed, hmem]
  · have hnone : (configured.find? fun fixed => fixed.sourceId = source.sourceId) = none := by
      rw [Option.eq_none_iff_forall_ne_some]
      exact fun fixed hfixed => hmem (find_configured.mp ⟨fixed, hfixed⟩)
    rw [hnone]
    by_cases hkind : source.kind = .device
    · rw [if_neg fun hboth => hboth.1 hkind, if_neg hmem, if_pos hkind]
    · rw [if_pos ⟨hkind, hmem⟩, if_neg hmem, if_neg hkind]

/-- Where no row was there, the first configured source with the id comes in. -/
lemma synced_new {sourceId : String} (h : t.rows.lookup sourceId = none) :
    t.synced configured sourceId =
      (configured.find? fun fixed => fixed.sourceId = sourceId).map fixedRow := by
  rw [synced, h, Option.map_none, upserted]
  cases configured.find? fun fixed => fixed.sourceId = sourceId <;> rfl

/-- A row was there, or a configured source has come in. -/
lemma synced_cases {sourceId : String} {source : CommandSource}
    (h : t.synced configured sourceId = some source) :
    (∃ before, t.rows.lookup sourceId = some before ∧ source = { before with
      enabled :=
        if sourceId ∈ configured.map FixedSource.sourceId then true
        else if before.kind = .device then before.enabled else false }) ∨
    ∃ fixed, (configured.find? fun fixed => fixed.sourceId = sourceId) = some fixed ∧
      source = fixedRow fixed := by
  cases hrow : t.rows.lookup sourceId with
  | some before =>
      rw [synced_row hrow] at h
      exact .inl ⟨before, rfl, (Option.some.inj h).symm⟩
  | none =>
      rw [synced_new hrow, Option.map_eq_some_iff] at h
      obtain ⟨fixed, hfixed, hsource⟩ := h
      exact .inr ⟨fixed, hfixed, hsource.symm⟩

/-- The id of a device is not configured, where no kind conflicts. -/
lemma NoConflict.not_configured (h : t.NoConflict configured) {sourceId : String}
    {source : CommandSource} (hrow : t.rows.lookup sourceId = some source)
    (hkind : source.kind = .device) : sourceId ∉ configured.map FixedSource.sourceId := by
  intro hmem
  obtain ⟨fixed, hfixed, rfl⟩ := List.mem_map.mp hmem
  have hconfigured := h fixed hfixed source hrow
  rw [hkind] at hconfigured
  cases hfixedKind : fixed.sourceKind <;> rw [hfixedKind] at hconfigured <;> cases hconfigured

/-- A device row is left as it is. -/
lemma synced_device (h : t.NoConflict configured) {sourceId : String} {source : CommandSource}
    (hrow : t.rows.lookup sourceId = some source) (hkind : source.kind = .device) :
    t.synced configured sourceId = some source := by
  rw [synced_row hrow, if_neg (h.not_configured hrow hkind), if_pos hkind]

/-- A configured source has an id of its own. -/
lemma find_of_mem (hdistinct : (configured.map FixedSource.sourceId).Nodup) {fixed : FixedSource}
    (hmem : fixed ∈ configured) :
    (configured.find? fun other => other.sourceId = fixed.sourceId) = some fixed := by
  induction configured with
  | nil => cases hmem
  | cons first configured ih =>
      rw [List.map_cons, List.nodup_cons] at hdistinct
      rw [List.find?_cons]
      rcases List.mem_cons.mp hmem with rfl | hrest
      · simp
      · have hne : first.sourceId ≠ fixed.sourceId := fun heq =>
          hdistinct.1 (heq ▸ List.mem_map_of_mem hrest)
        simp only [hne, decide_false]
        exact ih hdistinct.2 hrest

/-- A configured source stands in the table with its kind, and is enabled. -/
lemma synced_configured (hdistinct : (configured.map FixedSource.sourceId).Nodup)
    (h : t.NoConflict configured) {fixed : FixedSource} (hmem : fixed ∈ configured) :
    ∃ source, t.synced configured fixed.sourceId = some source ∧
      source.kind = fixed.sourceKind.toKind ∧ source.enabled = true := by
  have hconfigured : fixed.sourceId ∈ configured.map FixedSource.sourceId :=
    List.mem_map_of_mem hmem
  cases hrow : t.rows.lookup fixed.sourceId with
  | some source =>
      refine ⟨_, synced_row hrow, h fixed hmem source hrow, ?_⟩
      rw [if_pos hconfigured]
  | none =>
      refine ⟨fixedRow fixed, ?_, rfl, rfl⟩
      rw [synced_new hrow, find_of_mem hdistinct hmem, Option.map_some]

/-! ### The query -/

lemma mem_load {source : CommandSource} :
    source ∈ t.load ↔ t.rows.lookup source.sourceId = some source := by
  rw [load, List.mem_filterMap]
  constructor
  · rintro ⟨sourceId, -, h⟩
    rw [t.source_id sourceId source h]
    exact h
  · intro h
    refine ⟨source.sourceId, (List.mem_insertionSort _).mpr ?_, h⟩
    exact Map.mem_keys_iff.mpr ⟨source, h⟩

/-- The rows come in the order of their ids, each once. -/
lemma load_ids (t : SourceTable) :
    t.load.map CommandSource.sourceId = t.rows.keys.insertionSort (· ≤ ·) := by
  refine map_filterMap_lookup t fun sourceId hkey => ?_
  exact AList.lookup_isSome.mpr ((List.mem_insertionSort _).mp hkey)

/-- Tables with the same rows are loaded as the same list. -/
lemma load_congr (h : ∀ sourceId, t'.rows.lookup sourceId = t.rows.lookup sourceId) :
    t'.load = t.load := by
  have hkeys : t'.rows.keys.Perm t.rows.keys := (Map.entries_perm h).map Sigma.fst
  have hsorted : t'.rows.keys.insertionSort (· ≤ ·) = t.rows.keys.insertionSort (· ≤ ·) := by
    refine List.Perm.eq_of_sortedLE List.sortedLE_insertionSort List.sortedLE_insertionSort ?_
    exact (List.perm_insertionSort _ _).trans (hkeys.trans (List.perm_insertionSort _ _).symm)
  rw [load, load, hsorted]
  exact List.filterMap_congr fun sourceId _ => h sourceId

/-! ### The synchronisation -/

/-- What a synchronisation leaves: the table and the list. -/
structure Synchronised (t : SourceTable) (configured : List FixedSource) (t' : SourceTable)
    (sources : List CommandSource) : Prop where
  enabled : ∀ sourceId source, t'.rows.lookup sourceId = some source → source.kind ≠ .device →
    (source.enabled = true ↔ sourceId ∈ configured.map FixedSource.sourceId)
  present : ∀ fixed ∈ configured, ∃ source, t'.rows.lookup fixed.sourceId = some source ∧
    source.kind = fixed.sourceKind.toKind
  device : ∀ sourceId source, source.kind = .device →
    (t'.rows.lookup sourceId = some source ↔ t.rows.lookup sourceId = some source)
  kept : ∀ sourceId source, t.rows.lookup sourceId = some source →
    ∃ source', t'.rows.lookup sourceId = some source' ∧ source'.kind = source.kind ∧
      source'.deviceId = source.deviceId
  new : ∀ sourceId source, t'.rows.lookup sourceId = some source →
    (∃ before, t.rows.lookup sourceId = some before) ∨
      sourceId ∈ configured.map FixedSource.sourceId
  loaded : ∀ source, source ∈ sources ↔ t'.rows.lookup source.sourceId = some source
  ordered : (sources.map CommandSource.sourceId).Pairwise (· < ·)
  again : ∃ t'', t'.syncAndLoadCommandSources configured = (t'', .ok sources) ∧
    ∀ sourceId, t''.rows.lookup sourceId = t'.rows.lookup sourceId

/-- Where the rows are those of a synchronisation, a second one changes none. -/
lemma synced_again (hdistinct : (configured.map FixedSource.sourceId).Nodup)
    (h : t.NoConflict configured)
    (hlookup : ∀ sourceId, t'.rows.lookup sourceId = t.synced configured sourceId) :
    t'.NoConflict configured ∧
      ∀ sourceId, t'.synced configured sourceId = t'.rows.lookup sourceId := by
  refine ⟨fun fixed hmem source hsource => ?_, fun sourceId => ?_⟩
  · obtain ⟨row, hrow, hkind, -⟩ := synced_configured hdistinct h hmem
    rw [hlookup, hrow] at hsource
    cases hsource
    exact hkind
  · cases hrow : t.rows.lookup sourceId with
    | some source =>
        have hfirst := (hlookup sourceId).trans (synced_row hrow)
        rw [synced_row hfirst, hfirst]
        by_cases hmem : sourceId ∈ configured.map FixedSource.sourceId
        · simp only [hmem, if_true]
        · by_cases hkind : source.kind = .device <;> simp only [hmem, hkind, if_true, if_false]
    | none =>
        have hfirst := (hlookup sourceId).trans (synced_new hrow)
        cases hfind : configured.find? fun fixed => fixed.sourceId = sourceId with
        | none =>
            rw [hfind, Option.map_none] at hfirst
            rw [synced_new hfirst, hfind, Option.map_none, hfirst]
        | some fixed =>
            rw [hfind, Option.map_some] at hfirst
            have hmem : sourceId ∈ configured.map FixedSource.sourceId :=
              find_configured.mp ⟨fixed, hfind⟩
            rw [synced_row hfirst, hfirst, if_pos hmem]
            rfl

lemma synchronised (hdistinct : (configured.map FixedSource.sourceId).Nodup)
    (hcheck : ∀ fixed ∈ configured, sourceIdCheck fixed.sourceId = true)
    (h : t.NoConflict configured)
    (hlookup : ∀ sourceId, t'.rows.lookup sourceId = t.synced configured sourceId) :
    t.Synchronised configured t' t'.load where
  enabled sourceId source hsource hkind := by
    rw [hlookup] at hsource
    rcases synced_cases hsource with ⟨before, -, rfl⟩ | ⟨fixed, hfixed, rfl⟩
    · by_cases hmem : sourceId ∈ configured.map FixedSource.sourceId
      · simp only [hmem, if_true]
      · have hkind' : before.kind ≠ .device := hkind
        simp only [hmem, hkind', if_false, reduceCtorEq]
    · exact iff_of_true rfl (find_configured.mp ⟨fixed, hfixed⟩)
  present fixed hmem := by
    obtain ⟨source, hsource, hkind, -⟩ := synced_configured hdistinct h hmem
    exact ⟨source, (hlookup _).trans hsource, hkind⟩
  device sourceId source hkind := by
    constructor
    · intro hsource
      rw [hlookup] at hsource
      rcases synced_cases hsource with ⟨before, hbefore, rfl⟩ | ⟨fixed, -, rfl⟩
      · rw [← hsource, synced_device h hbefore hkind]
        exact hbefore
      · cases hfixed : fixed.sourceKind <;> rw [fixedRow, hfixed] at hkind <;> cases hkind
    · intro hsource
      rw [hlookup, synced_device h hsource hkind]
  kept sourceId source hsource :=
    ⟨_, (hlookup sourceId).trans (synced_row hsource), rfl, rfl⟩
  new sourceId source hsource := by
    rw [hlookup] at hsource
    rcases synced_cases hsource with ⟨before, hbefore, -⟩ | ⟨fixed, hfixed, -⟩
    · exact .inl ⟨before, hbefore⟩
    · exact .inr (find_configured.mp ⟨fixed, hfixed⟩)
  loaded source := mem_load
  ordered := by
    rw [load_ids]
    have hsorted := List.sortedLE_insertionSort (l := t'.rows.keys)
    have hnodup := (List.perm_insertionSort (· ≤ ·) t'.rows.keys).nodup_iff.mpr t'.rows.keys_nodup
    exact List.sortedLT_iff_pairwise.mp (List.sortedLT_iff_nodup_and_sortedLE.mpr ⟨hnodup, hsorted⟩)
  again := by
    obtain ⟨hagain, hsame⟩ := synced_again hdistinct h hlookup
    obtain ⟨t'', hsync, hlookup'⟩ := lookup_sync hcheck hagain
    have hrows : ∀ sourceId, t''.rows.lookup sourceId = t'.rows.lookup sourceId :=
      fun sourceId => (hlookup' sourceId).trans (hsame sourceId)
    refine ⟨t'', ?_, hrows⟩
    rw [syncAndLoadCommandSources, hsync]
    exact congrArg (fun sources => (t'', Except.ok sources)) (load_congr hrows)

end SourceTable

open SourceTable in
/-- **The synchronisation of the fixed sources**, with ids that the column takes: it succeeds
unless a configured id stands in the table with another kind; what it then leaves is
`Synchronised`; and a conflict leaves the table as it was. -/
theorem sources_synchronised (t : SourceTable) (configured : List FixedSource)
    (hdistinct : (configured.map FixedSource.sourceId).Nodup)
    (hcheck : ∀ fixed ∈ configured, sourceIdCheck fixed.sourceId = true) :
    ((∃ sources, (t.syncAndLoadCommandSources configured).2 = .ok sources) ↔
      ∀ fixed ∈ configured, ∀ source, t.rows.lookup fixed.sourceId = some source →
        source.kind = fixed.sourceKind.toKind) ∧
    (∀ sources, (t.syncAndLoadCommandSources configured).2 = .ok sources →
      t.Synchronised configured (t.syncAndLoadCommandSources configured).1 sources) ∧
    ((∃ fixed ∈ configured, ∃ source, t.rows.lookup fixed.sourceId = some source ∧
        source.kind ≠ fixed.sourceKind.toKind) →
      t.syncAndLoadCommandSources configured =
        (t, .error "同步 PostgreSQL 命令来源失败：来源类型冲突")) := by
  refine ⟨sync_ok_iff hcheck, fun sources hok => ?_, ?_⟩
  · have hnone : t.NoConflict configured := (sync_ok_iff hcheck).mp ⟨sources, hok⟩
    obtain ⟨t', hsync, hlookup⟩ := lookup_sync hcheck hnone
    rw [syncAndLoadCommandSources, hsync] at hok ⊢
    cases hok
    exact synchronised hdistinct hcheck hnone hlookup
  · rintro ⟨fixed, hmem, source, hsource, hkind⟩
    exact sync_conflict fun hnone => hkind (hnone fixed hmem source hsource)

namespace Sample

/-- Two fixed sources, and a device. -/
def sourceTable : SourceTable :=
  ((SourceTable.empty.syncAndLoadCommandSources
    [⟨"old", .controlCenter⟩, ⟨"ops", .hostApp⟩]).1.insertDevice "dev1").getD .empty

def fixedSources : List FixedSource := [⟨"ops", .hostApp⟩, ⟨"new", .controlCenter⟩]

end Sample

open SourceTable Sample in
/-- A source that is not configured any more is disabled, and a new one comes in. -/
theorem sources_synchronised_sample :
    sourceTable.Synchronised fixedSources
        (sourceTable.syncAndLoadCommandSources fixedSources).1
        [deviceSource "dev1", ⟨"new", .controlCenter, none, true⟩,
          ⟨"old", .controlCenter, none, false⟩, ⟨"ops", .hostApp, none, true⟩] ∧
      sourceTable.syncAndLoadCommandSources [⟨"dev1", .hostApp⟩] =
        (sourceTable, .error "同步 PostgreSQL 命令来源失败：来源类型冲突") := by
  constructor
  · obtain ⟨-, hleaves, -⟩ := sources_synchronised sourceTable fixedSources
      (by decide +kernel) (by decide +kernel)
    exact hleaves _ (by decide +kernel)
  · obtain ⟨-, -, hconflict⟩ := sources_synchronised sourceTable [⟨"dev1", .hostApp⟩]
      (by decide +kernel) (by decide +kernel)
    have hdevice : sourceTable.rows.lookup "dev1" = some (deviceSource "dev1") := by decide +kernel
    exact hconflict ⟨⟨"dev1", .hostApp⟩, List.mem_singleton_self _, _, hdevice, by decide⟩

end CnsServer
