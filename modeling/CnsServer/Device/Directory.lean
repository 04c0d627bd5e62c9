/-
The directory of devices that is announced to the outside (`state_event.cpp`): an
entry for each device, without the times and the telemetry of its record.

* `DirectoryEntry.equal`: `operator==`, which compares documents as the JSON
  library does, so that an entry may stay although a number is now spelled
  differently;
* `DeviceDirectory` with `update` and `replace`, which answer whether anything
  changed;
* `update_self`, `update_other`, `replace_rel`: what can be found afterwards.
-/
import Mathlib.Data.List.Induction
import CnsServer.Device.Registry

namespace CnsServer

/-- `ToString` of a type of device. -/
def DeviceType.text : DeviceType → String
  | .cnsBox => "cns_box"
  | .flightController => "flight_controller"

/-- `state_event::DirectoryEntry`. -/
structure DirectoryEntry where
  deviceId : String
  schoolName : String
  dcdwLabel : Option String
  modelVersion : String
  online : Bool
  deviceType : String
  capabilities : Option (List String)
  product : Option Json
  version : Option Json

/-- `DirectoryEntryFor`. -/
def directoryEntryFor (record : DeviceRecord) : DirectoryEntry where
  deviceId := record.deviceId
  schoolName := record.schoolName
  dcdwLabel := record.dcdwLabel
  modelVersion := record.modelVersion
  online := record.status = .online
  deviceType := record.deviceType.text
  capabilities := record.capabilities
  product := record.product
  version := record.version

namespace DirectoryEntry

/-- `operator==` of two optional documents. -/
def equalDocuments : Option Json → Option Json → Bool
  | none, none => true
  | some document, some other => document.equal other
  | _, _ => false

/-- `operator==`. -/
def equal (entry other : DirectoryEntry) : Bool :=
  entry.deviceId = other.deviceId && entry.schoolName = other.schoolName &&
    entry.dcdwLabel = other.dcdwLabel && entry.modelVersion = other.modelVersion &&
    entry.online = other.online && entry.deviceType = other.deviceType &&
    entry.capabilities = other.capabilities && equalDocuments entry.product other.product &&
    equalDocuments entry.version other.version

lemma equalDocuments_refl (document : Option Json) : equalDocuments document document = true := by
  cases document with
  | none => rfl
  | some document => exact Json.equal_refl document

lemma equalDocuments_comm (document other : Option Json) :
    equalDocuments document other = equalDocuments other document := by
  cases document <;> cases other
  · rfl
  · rfl
  · rfl
  · exact Json.equal_comm _ _

lemma equal_refl (entry : DirectoryEntry) : entry.equal entry = true := by
  simp [equal, equalDocuments_refl]

lemma equal_comm (entry other : DirectoryEntry) : entry.equal other = other.equal entry := by
  simp only [equal, equalDocuments_comm entry.product, equalDocuments_comm entry.version,
    eq_comm]

end DirectoryEntry

/-- `state_event::DeviceDirectory`. -/
structure DeviceDirectory where
  entries : Map String DirectoryEntry := ∅
  revision : ℕ := 0
  initialized : Bool := false

namespace DeviceDirectory

open DirectoryEntry

/-- The entry is new, or differs from the one there is. -/
def differs (directory : DeviceDirectory) (entry : DirectoryEntry) : Bool :=
  match directory.entries.lookup entry.deviceId with
  | none => true
  | some found => !found.equal entry

/-- `Update`. -/
def update (directory : DeviceDirectory) (entry : DirectoryEntry) : Bool × DeviceDirectory :=
  if !directory.initialized || directory.differs entry then
    (true,
      { entries := directory.entries.insert entry.deviceId entry
        revision := directory.revision + 1
        initialized := true })
  else (false, directory)

/-- The entries by device. -/
def byDevice (entries : List DirectoryEntry) : Map String DirectoryEntry :=
  entries.foldl (fun found entry => found.insert entry.deviceId entry) ∅

/-- `operator==` of two maps of entries. -/
def sameEntries (entries other : Map String DirectoryEntry) : Bool :=
  entries.keys.length = other.keys.length &&
    entries.entries.all fun entry =>
      match other.lookup entry.1 with
      | none => false
      | some found => entry.2.equal found

/-- `Replace`. -/
def replace (directory : DeviceDirectory) (entries : List DirectoryEntry) :
    Bool × DeviceDirectory :=
  if directory.initialized && sameEntries (byDevice entries) directory.entries then
    (false, directory)
  else
    (true,
      { entries := byDevice entries
        revision := directory.revision + 1
        initialized := true })

/-! ### What is found afterwards -/

variable (directory : DeviceDirectory)

/-- The entry of the device is the one that was reported, or one that equals it. -/
lemma update_self (entry : DirectoryEntry) :
    ∃ found, (directory.update entry).2.entries.lookup entry.deviceId = some found ∧
      found.equal entry = true := by
  rw [update]
  split
  · exact ⟨entry, AList.lookup_insert _, entry.equal_refl⟩
  · next hsame =>
      rw [Bool.or_eq_true, not_or, differs] at hsame
      cases hfound : directory.entries.lookup entry.deviceId with
      | none => exact absurd (by rw [hfound]) hsame.2
      | some found =>
          rw [hfound] at hsame
          exact ⟨found, rfl, by simpa using hsame.2⟩

/-- An update leaves the other entries alone. -/
lemma update_other (entry : DirectoryEntry) {deviceId : String} (h : deviceId ≠ entry.deviceId) :
    (directory.update entry).2.entries.lookup deviceId = directory.entries.lookup deviceId := by
  rw [update]
  split
  · exact AList.lookup_insert_ne h
  · rfl

/-- Equal maps have equal entries for the same devices. -/
lemma sameEntries_rel {entries other : Map String DirectoryEntry}
    (h : sameEntries entries other = true) (deviceId : String) :
    Option.Rel (fun found entry => found.equal entry = true) (other.lookup deviceId)
      (entries.lookup deviceId) := by
  simp only [sameEntries, Bool.and_eq_true, decide_eq_true_eq, List.all_eq_true] at h
  obtain ⟨hlength, hequal⟩ := h
  have hfound : ∀ deviceId entry, entries.lookup deviceId = some entry →
      ∃ found, other.lookup deviceId = some found ∧ found.equal entry = true := by
    intro deviceId entry hentry
    have hmem := hequal ⟨deviceId, entry⟩ (Map.mem_entries_iff.mpr hentry)
    cases hother : other.lookup deviceId with
    | none => simp [hother] at hmem
    | some found =>
        rw [hother] at hmem
        exact ⟨found, rfl, (equal_comm _ _).trans hmem⟩
  cases hentry : entries.lookup deviceId with
  | some entry =>
      obtain ⟨found, hother, hsame⟩ := hfound deviceId entry hentry
      rw [hother]
      exact .some hsame
  | none =>
      cases hother : other.lookup deviceId with
      | none => exact .none
      | some found =>
          -- the maps have equally many keys, so that the other one has no further key
          have hsub : entries.keys ⊆ other.keys := fun key hkey => by
            obtain ⟨entry, hentry⟩ := Map.mem_keys_iff.mp hkey
            obtain ⟨found, hfound, -⟩ := hfound key entry hentry
            exact Map.mem_keys_iff.mpr ⟨found, hfound⟩
          have hperm : entries.keys.Perm other.keys :=
            (List.subperm_of_subset entries.keys_nodup hsub).perm_of_length_le hlength.ge
          obtain ⟨entry, hmem⟩ :=
            Map.mem_keys_iff.mp (hperm.mem_iff.mpr (Map.mem_keys_iff.mpr ⟨found, hother⟩))
          rw [hentry] at hmem
          cases hmem

/-- After a replacement the directory has the entries that were given, or equal
ones. -/
lemma replace_rel (entries : List DirectoryEntry) (deviceId : String) :
    Option.Rel (fun found entry => found.equal entry = true)
      ((directory.replace entries).2.entries.lookup deviceId)
      ((byDevice entries).lookup deviceId) := by
  rw [replace]
  split
  · next hsame =>
      rw [Bool.and_eq_true] at hsame
      exact sameEntries_rel hsame.2 deviceId
  · dsimp only
    cases (byDevice entries).lookup deviceId with
    | none => exact .none
    | some entry => exact .some entry.equal_refl

/-- The last entry of a device counts. -/
lemma byDevice_lookup (entries : List DirectoryEntry) (deviceId : String) :
    (byDevice entries).lookup deviceId =
      entries.reverse.find? fun entry => entry.deviceId = deviceId :=
  Map.lookup_foldl_insert DirectoryEntry.deviceId entries deviceId

/-- What is found under an id is an entry of the list with that id. -/
lemma byDevice_some {entries : List DirectoryEntry} {deviceId : String} {entry : DirectoryEntry}
    (h : (byDevice entries).lookup deviceId = some entry) :
    entry ∈ entries ∧ entry.deviceId = deviceId := by
  rw [byDevice_lookup] at h
  exact ⟨List.mem_reverse.mp (List.mem_of_find?_eq_some h), by simpa using List.find?_some h⟩

lemma byDevice_isSome {entries : List DirectoryEntry} {entry : DirectoryEntry}
    (h : entry ∈ entries) : ((byDevice entries).lookup entry.deviceId).isSome = true := by
  rw [byDevice_lookup, List.find?_isSome]
  exact ⟨entry, List.mem_reverse.mpr h, decide_eq_true rfl⟩

end DeviceDirectory

end CnsServer
