/-
The revisions of the device directory.

* `DirectoryCall`, `DeviceDirectory.run`: any sequence of calls of `Update` and `Replace`;
* `entryList`: `Entries`, in the order of the device ids;
* `Counted.run`: a counter that every change increases tells the states apart;
* `DeviceDirectory.Keyed`: every entry stands under its own id, in every run;
* `changed_iff`: a call returns `true` just when the entries change, or first;
* `directory_revisions`: **what a revision says**, in every run.
-/
import CnsServer.Device.Directory
import Mathlib.Data.List.Sort
import Mathlib.Data.String.Basic

namespace CnsServer

/-! ### Calls -/

/-- A call. -/
inductive DirectoryCall where
  | update (entry : DirectoryEntry)
  | replace (entries : List DirectoryEntry)

/-- What the call returns, and the directory after it. -/
def DirectoryCall.apply (call : DirectoryCall) (directory : DeviceDirectory) :
    Bool × DeviceDirectory :=
  match call with
  | .update entry => directory.update entry
  | .replace entries => directory.replace entries

namespace DeviceDirectory

/-- The directory after some calls. -/
def run (calls : List DirectoryCall) : DeviceDirectory :=
  calls.foldl (fun directory call => (call.apply directory).2) {}

/-- `Entries`. -/
def entryList (directory : DeviceDirectory) : List DirectoryEntry :=
  (directory.entries.keys.insertionSort (· ≤ ·)).filterMap directory.entries.lookup

end DeviceDirectory

/-! ### Counters -/

section

variable {σ ι : Type} {next : σ → ι → σ} {count : σ → ℕ}

/-- The counter is increased whenever the state changes. -/
def Counted (next : σ → ι → σ) (count : σ → ℕ) : Prop :=
  ∀ s i, next s i = s ∨ count (next s i) = count s + 1

/-- **The counter** does not decrease, and where it is the same, so is the state. -/
lemma Counted.run (h : Counted next count) (s : σ) (inputs : List ι) :
    count s ≤ count (inputs.foldl next s) ∧
      (count (inputs.foldl next s) = count s → inputs.foldl next s = s) := by
  induction inputs generalizing s with
  | nil => exact ⟨Nat.le_refl _, fun _ => rfl⟩
  | cons i inputs ih =>
      rw [List.foldl_cons]
      obtain ⟨hle, hsame⟩ := ih (next s i)
      rcases h s i with hkept | hmore
      · rw [hkept] at hle hsame ⊢
        exact ⟨hle, hsame⟩
      · exact ⟨by omega, fun heq => by omega⟩

/-- It is at most the number of inputs. -/
lemma Counted.le (h : Counted next count) (s : σ) (inputs : List ι) :
    count (inputs.foldl next s) ≤ count s + inputs.length := by
  induction inputs generalizing s with
  | nil => exact Nat.le_refl _
  | cons i inputs ih =>
      rw [List.foldl_cons, List.length_cons]
      have htail := ih (next s i)
      rcases h s i with hkept | hmore
      · rw [hkept] at htail ⊢
        omega
      · omega

end

/-! ### Entries -/

namespace DeviceDirectory

/-- Every entry stands under its own id. -/
def Keyed (directory : DeviceDirectory) : Prop :=
  ∀ deviceId entry, directory.entries.lookup deviceId = some entry → entry.deviceId = deviceId

variable {directory : DeviceDirectory}

lemma Keyed.apply (h : directory.Keyed) (call : DirectoryCall) :
    (call.apply directory).2.Keyed := by
  cases call with
  | update entry =>
      intro deviceId found hfound
      rw [DirectoryCall.apply, update] at hfound
      split at hfound
      · rcases Map.lookup_insert_some.mp hfound with ⟨rfl, rfl⟩ | ⟨-, hold⟩
        · rfl
        · exact h deviceId found hold
      · exact h deviceId found hfound
  | replace entries =>
      intro deviceId found hfound
      rw [DirectoryCall.apply, replace] at hfound
      split at hfound
      · exact h deviceId found hfound
      · exact (byDevice_some hfound).2

lemma run_append (calls later : List DirectoryCall) : run (calls ++ later) =
    later.foldl (fun directory call => (call.apply directory).2) (run calls) :=
  List.foldl_append

lemma keyed_run (calls : List DirectoryCall) : (run calls).Keyed := by
  induction calls using List.reverseRecOn with
  | nil =>
      intro deviceId entry hentry
      cases hentry
  | append_singleton calls call ih =>
      rw [run_append]
      exact ih.apply call

/-- The entries that are listed are those that are found. -/
lemma mem_entryList (h : directory.Keyed) {entry : DirectoryEntry} :
    entry ∈ directory.entryList ↔ directory.entries.lookup entry.deviceId = some entry := by
  rw [entryList, List.mem_filterMap]
  constructor
  · rintro ⟨deviceId, -, hfound⟩
    rwa [h deviceId entry hfound]
  · intro hfound
    exact ⟨entry.deviceId, (List.mem_insertionSort _).mpr (Map.mem_keys_iff.mpr ⟨entry, hfound⟩),
      hfound⟩

/-- **The list** is in the order of the ids, and has none twice. -/
lemma entryList_sorted (h : directory.Keyed) :
    directory.entryList.Pairwise fun entry other => entry.deviceId < other.deviceId := by
  have hids : (directory.entries.keys.insertionSort (· ≤ ·)).Pairwise (· < ·) := by
    have hsorted := List.pairwise_insertionSort (α := String) (· ≤ ·) directory.entries.keys
    have hnodup : (directory.entries.keys.insertionSort (· ≤ ·)).Nodup :=
      (List.perm_insertionSort _ _).nodup_iff.mpr directory.entries.keys_nodup
    exact (hsorted.and hnodup).imp fun hboth => lt_of_le_of_ne hboth.1 hboth.2
  rw [entryList, List.pairwise_filterMap]
  refine hids.imp fun {deviceId other} hless entry hentry entry' hentry' => ?_
  rw [h deviceId entry hentry, h other entry' hentry']
  exact hless

/-- The same list has the same entries to find. -/
lemma lookup_of_entryList {other : DeviceDirectory} (h : directory.Keyed) (h' : other.Keyed)
    (hsame : directory.entryList = other.entryList) (deviceId : String) :
    directory.entries.lookup deviceId = other.entries.lookup deviceId := by
  refine Option.ext fun entry => ⟨fun hfound => ?_, fun hfound => ?_⟩
  · have hid := h deviceId entry hfound
    rw [← hid] at hfound ⊢
    exact (mem_entryList h').mp (hsame ▸ (mem_entryList h).mpr hfound)
  · have hid := h' deviceId entry hfound
    rw [← hid] at hfound ⊢
    exact (mem_entryList h).mp (hsame ▸ (mem_entryList h').mpr hfound)

/-! ### Changes -/

/-- Maps in which the same is found are equal. -/
lemma sameEntries_of_lookup {entries other : Map String DirectoryEntry}
    (h : ∀ deviceId, entries.lookup deviceId = other.lookup deviceId) :
    sameEntries entries other = true := by
  have hkeys : entries.keys.Perm other.keys := by
    refine (List.perm_ext_iff_of_nodup entries.keys_nodup other.keys_nodup).mpr fun deviceId => ?_
    rw [Map.mem_keys_iff, Map.mem_keys_iff, h]
  simp only [sameEntries, Bool.and_eq_true, decide_eq_true_eq, List.all_eq_true]
  refine ⟨hkeys.length_eq, fun entry hentry => ?_⟩
  rw [← h, Map.mem_entries_iff.mp hentry]
  exact entry.2.equal_refl

/-- **A call returns `true`** just when the entries change, or when it is the first. -/
lemma changed_iff (h : directory.Keyed) (call : DirectoryCall) :
    (call.apply directory).1 = true ↔ directory.initialized = false ∨
      (call.apply directory).2.entryList ≠ directory.entryList := by
  have hkeyed := h.apply call
  cases call with
  | update entry =>
      rw [DirectoryCall.apply] at hkeyed ⊢
      rw [update] at hkeyed ⊢
      split at hkeyed
      · next hchanged =>
          rw [if_pos hchanged]
          refine iff_of_true rfl ?_
          rw [Bool.or_eq_true, Bool.not_eq_true'] at hchanged
          refine hchanged.imp_right fun hdiffers hsame => ?_
          -- the new entry would be the one there was
          have hold := lookup_of_entryList hkeyed h hsame entry.deviceId
          rw [AList.lookup_insert] at hold
          rw [differs, ← hold] at hdiffers
          simp [entry.equal_refl] at hdiffers
      · next hkept =>
          rw [if_neg hkept]
          rw [Bool.or_eq_true, Bool.not_eq_true', not_or] at hkept
          refine iff_of_false Bool.false_ne_true ?_
          rw [not_or]
          exact ⟨hkept.1, fun hne => hne rfl⟩
  | replace entries =>
      rw [DirectoryCall.apply] at hkeyed ⊢
      rw [replace] at hkeyed ⊢
      split at hkeyed
      · next hkept =>
          rw [if_pos hkept]
          rw [Bool.and_eq_true] at hkept
          refine iff_of_false Bool.false_ne_true ?_
          rw [not_or]
          exact ⟨by simp [hkept.1], fun hne => hne rfl⟩
      · next hchanged =>
          rw [if_neg hchanged]
          refine iff_of_true rfl ?_
          rw [Bool.and_eq_true, not_and_or, Bool.not_eq_true] at hchanged
          refine hchanged.imp_right fun hdiffers hsame => hdiffers ?_
          exact sameEntries_of_lookup (lookup_of_entryList hkeyed h hsame)

/-- The revision counts the calls that return `true`. -/
lemma revision_apply (call : DirectoryCall) :
    (call.apply directory).2.revision =
      directory.revision + if (call.apply directory).1 then 1 else 0 := by
  cases call with
  | update entry =>
      rw [DirectoryCall.apply, update]
      split <;> rfl
  | replace entries =>
      rw [DirectoryCall.apply, replace]
      split <;> rfl

lemma counted : Counted (fun directory (call : DirectoryCall) => (call.apply directory).2)
    DeviceDirectory.revision := by
  intro directory call
  cases call with
  | update entry =>
      simp only [DirectoryCall.apply, update]
      split
      · exact .inr rfl
      · exact .inl rfl
  | replace entries =>
      simp only [DirectoryCall.apply, replace]
      split
      · exact .inl rfl
      · exact .inr rfl

lemma initialized_apply (call : DirectoryCall) : (call.apply directory).2.initialized = true := by
  cases call with
  | update entry =>
      rw [DirectoryCall.apply, update]
      split
      · rfl
      · next hkept =>
          rw [Bool.or_eq_true, Bool.not_eq_true', not_or, Bool.not_eq_false] at hkept
          exact hkept.1
  | replace entries =>
      rw [DirectoryCall.apply, replace]
      split
      · next hkept =>
          rw [Bool.and_eq_true] at hkept
          exact hkept.1
      · rfl

lemma initialized_run (calls : List DirectoryCall) :
    (run calls).initialized = false ↔ calls = [] := by
  induction calls using List.reverseRecOn with
  | nil => simp [run]
  | append_singleton calls call ih =>
      rw [run_append, List.foldl_cons, List.foldl_nil, initialized_apply]
      simp

/-! ### Replacements -/

/-- The last entry of each device. -/
def lastEntry (entries : List DirectoryEntry) (deviceId : String) : Option DirectoryEntry :=
  entries.reverse.find? fun entry => entry.deviceId = deviceId

/-- An entry that is found is equal to one that was given, for every device. -/
def Holds (directory : DeviceDirectory) (given : String → Option DirectoryEntry) : Prop :=
  ∀ deviceId, Option.Rel (fun found entry => found.equal entry = true)
    (directory.entries.lookup deviceId) (given deviceId)

/-- Entries that are reported one after the other, to a directory without entries. -/
def updateAll (directory : DeviceDirectory) (entries : List DirectoryEntry) : DeviceDirectory :=
  entries.foldl (fun directory entry => (directory.update entry).2) { directory with entries := ∅ }

lemma updateAll_holds (directory : DeviceDirectory) (entries : List DirectoryEntry) :
    (directory.updateAll entries).Holds (lastEntry entries) := by
  induction entries using List.reverseRecOn with
  | nil =>
      intro deviceId
      exact .none
  | append_singleton entries entry ih =>
      intro deviceId
      rw [updateAll, List.foldl_append, List.foldl_cons, List.foldl_nil, ← updateAll, lastEntry,
        List.reverse_append, List.reverse_singleton, List.singleton_append, List.find?_cons]
      by_cases hid : entry.deviceId = deviceId
      · obtain ⟨found, hfound, hequal⟩ := update_self (directory.updateAll entries) entry
        rw [decide_eq_true hid, ← hid, hfound]
        exact .some hequal
      · rw [decide_eq_false hid, update_other _ entry (Ne.symm hid)]
        exact ih deviceId

lemma replace_holds (directory : DeviceDirectory) (entries : List DirectoryEntry) :
    (directory.replace entries).2.Holds (lastEntry entries) := by
  intro deviceId
  rw [lastEntry, ← byDevice_lookup]
  exact replace_rel directory entries deviceId

/-- Where it changes the directory, the last entries are there themselves. -/
lemma replace_lookup (directory : DeviceDirectory) {entries : List DirectoryEntry}
    (h : (directory.replace entries).1 = true) (deviceId : String) :
    (directory.replace entries).2.entries.lookup deviceId = lastEntry entries deviceId := by
  rw [replace] at h ⊢
  split at h
  · cases h
  · next hchanged =>
      rw [if_neg hchanged]
      exact byDevice_lookup entries deviceId

end DeviceDirectory

open DeviceDirectory in
/-- **The revisions of the directory**, after any calls: a further call adds one, and
returns `true`, just when the entries change or it is the first; the revision does not
decrease, and where it is the same the entries are; they are in the order of the ids, each
once; and a replacement leaves the devices that it is given, each with its last entry or
one that compares equal, as updates of a directory without entries do. -/
theorem directory_revisions (calls : List DirectoryCall) :
    (∀ call : DirectoryCall,
      ((call.apply (run calls)).1 = true ↔
        calls = [] ∨ (call.apply (run calls)).2.entryList ≠ (run calls).entryList) ∧
      (call.apply (run calls)).2.revision =
        (run calls).revision + if (call.apply (run calls)).1 then 1 else 0) ∧
    ((run calls).revision ≤ calls.length ∧ ∀ later,
      (run calls).revision ≤ (run (calls ++ later)).revision ∧
      ((run (calls ++ later)).revision = (run calls).revision →
        (run (calls ++ later)).entryList = (run calls).entryList)) ∧
    ((run calls).entryList.Pairwise fun entry other => entry.deviceId < other.deviceId) ∧
    ∀ entries,
      ((run calls).replace entries).2.Holds (lastEntry entries) ∧
      ((run calls).updateAll entries).Holds (lastEntry entries) ∧
      (((run calls).replace entries).1 = true → ∀ deviceId,
        ((run calls).replace entries).2.entries.lookup deviceId =
          lastEntry entries deviceId) := by
  have hkeyed := keyed_run calls
  refine ⟨fun call => ⟨?_, revision_apply call⟩, ⟨?_, fun later => ?_⟩, entryList_sorted hkeyed,
    fun entries => ⟨replace_holds _ entries, updateAll_holds _ entries, replace_lookup _⟩⟩
  · rw [changed_iff hkeyed, initialized_run]
  · have hle := counted.le {} calls
    rwa [Nat.zero_add] at hle
  · obtain ⟨hle, hsame⟩ := counted.run (run calls) later
    rw [run_append]
    exact ⟨hle, fun heq => by rw [hsame heq]⟩

namespace Sample

/-- A box whose product has a number. -/
def numberedBox (number : Json) : DirectoryEntry where
  deviceId := "box-1"
  schoolName := ""
  dcdwLabel := none
  modelVersion := "v1"
  online := true
  deviceType := "cns_box"
  capabilities := none
  product := some (.object [("serial", number)])
  version := none

/-- The box has been reported with the first integer that is no double of its own. -/
def reportedBox : List DirectoryCall := [.update (numberedBox (.integer (2 ^ 53)))]

/-- It is given with the next integer, and then with the double of both. -/
def givenBoxes : List DirectoryEntry :=
  [numberedBox (.integer (2 ^ 53 + 1)), numberedBox (.float (2 ^ 53))]

end Sample

open Sample DeviceDirectory in
/-- The replacement keeps the entry there was, the updates keep the first of those given:
both compare equal to the last one, but not to each other. -/
theorem replace_unlike_updates :
    (((run reportedBox).replace givenBoxes).2.entryList = [numberedBox (.integer (2 ^ 53))] ∧
      ((run reportedBox).updateAll givenBoxes).entryList =
        [numberedBox (.integer (2 ^ 53 + 1))]) ∧
    (numberedBox (.integer (2 ^ 53))).equal (numberedBox (.integer (2 ^ 53 + 1))) = false ∧
    ¬ ∀ calls entries, ((run calls).replace entries).2.entryList =
      ((run calls).updateAll entries).entryList := by
  refine ⟨⟨rfl, rfl⟩, rfl, fun hclaim => ?_⟩
  have hsame := hclaim reportedBox givenBoxes
  have hnumbers : numberedBox (.integer (2 ^ 53)) = numberedBox (.integer (2 ^ 53 + 1)) :=
    List.head_eq_of_cons_eq hsame
  simp [numberedBox] at hnumbers

end CnsServer
