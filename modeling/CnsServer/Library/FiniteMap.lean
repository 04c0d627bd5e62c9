/-
Finite maps: association lists without repeated keys, standing for the hash
maps of a program, with the two rewriting rules every proof about a map update
uses, pairs of maps that are inverse to each other (`Inverse`), and the number of
entries that satisfy a test (`countP`), which an update changes by at most one.
-/
import Mathlib.Data.List.AList
import Mathlib.Data.List.Induction

/-- A finite map from `K` to `V`. -/
abbrev Map (K V : Type) := AList fun _ : K => V

namespace Map

variable {K V : Type} [DecidableEq K]

/-- A lookup after an insertion. -/
lemma lookup_insert_ite (m : Map K V) (k k' : K) (v : V) :
    (m.insert k v).lookup k' = if k' = k then some v else m.lookup k' := by
  split
  · next h => rw [h, AList.lookup_insert]
  · next h => rw [AList.lookup_insert_ne h]

/-- A lookup after a removal. -/
lemma lookup_erase_ite (m : Map K V) (k k' : K) :
    (m.erase k).lookup k' = if k' = k then none else m.lookup k' := by
  split
  · next h => rw [h, AList.lookup_erase]
  · next h => rw [AList.lookup_erase_ne h]

/-- Removing what is not there changes nothing. -/
lemma erase_of_lookup_none {m : Map K V} {k : K} (h : m.lookup k = none) : m.erase k = m :=
  AList.ext (List.kerase_of_notMem_keys (AList.lookup_eq_none.mp h))

/-- Inserting at `k` leaves every entry at another key. -/
lemma lookup_insert_some {m : Map K V} {k k' : K} {v w : V} :
    (m.insert k v).lookup k' = some w ↔ (k' = k ∧ w = v) ∨ (k' ≠ k ∧ m.lookup k' = some w) := by
  rw [lookup_insert_ite]
  split
  · next h => simp [h, eq_comm]
  · next h => simp [h]

/-- What is left after a removal was there before. -/
lemma lookup_erase_some {m : Map K V} {k k' : K} {w : V} :
    (m.erase k).lookup k' = some w ↔ k' ≠ k ∧ m.lookup k' = some w := by
  rw [lookup_erase_ite]
  split
  · next h => simp [h]
  · next h => simp [h]

/-- The value found under a key stands among the entries. -/
lemma mem_entries_iff {m : Map K V} {k : K} {v : V} :
    (⟨k, v⟩ : Sigma fun _ : K => V) ∈ m.entries ↔ m.lookup k = some v :=
  AList.mem_lookup_iff.symm

lemma mem_keys_iff {m : Map K V} {k : K} : k ∈ m.keys ↔ ∃ v, m.lookup k = some v := by
  rw [← AList.mem_keys, ← AList.lookup_isSome, Option.isSome_iff_exists]

/-- A map without entries has no keys. -/
lemma keys_eq_nil {m : Map K V} (h : ∀ k, m.lookup k = none) : m.keys = [] := by
  rw [List.eq_nil_iff_forall_not_mem]
  intro k hmem
  obtain ⟨v, hv⟩ := mem_keys_iff.mp hmem
  rw [h k] at hv
  cases hv

/-! ### Inverse maps -/

/-- Each map is the inverse of the other. -/
def Inverse {W : Type} [DecidableEq W] (m : Map K W) (m' : Map W K) : Prop :=
  ∀ k w, m.lookup k = some w ↔ m'.lookup w = some k

section

variable {W : Type} [DecidableEq W] {m : Map K W} {m' : Map W K}

lemma Inverse.empty : Inverse (∅ : Map K W) ∅ := by
  intro k w
  rw [AList.lookup_empty, AList.lookup_empty]
  simp only [reduceCtorEq]

/-- Two new keys. -/
lemma Inverse.insert (h : Inverse m m') {k : K} {w : W} (hk : m.lookup k = none)
    (hw : m'.lookup w = none) : Inverse (m.insert k w) (m'.insert w k) := by
  intro k' w'
  rw [lookup_insert_some, lookup_insert_some]
  constructor
  · rintro (⟨rfl, rfl⟩ | ⟨hne, hold⟩)
    · exact .inl ⟨rfl, rfl⟩
    · refine .inr ⟨?_, (h k' w').mp hold⟩
      rintro rfl
      rw [(h k' w').mp hold] at hw
      cases hw
  · rintro (⟨rfl, rfl⟩ | ⟨hne, hold⟩)
    · exact .inl ⟨rfl, rfl⟩
    · refine .inr ⟨?_, (h k' w').mpr hold⟩
      rintro rfl
      rw [(h k' w').mpr hold] at hk
      cases hk

lemma Inverse.erase (h : Inverse m m') {k : K} {w : W} (hk : m.lookup k = some w) :
    Inverse (m.erase k) (m'.erase w) := by
  intro k' w'
  rw [lookup_erase_some, lookup_erase_some, h k' w']
  refine and_congr_left fun hold => not_congr ⟨?_, ?_⟩
  · rintro rfl
    exact Option.some.inj (((h k' w').mpr hold).symm.trans hk)
  · rintro rfl
    exact Option.some.inj (hold.symm.trans ((h k w').mp hk))

end

/-! ### Traversals -/

/-- Of several values with one key the last counts. -/
lemma lookup_foldl_insert (key : V → K) (values : List V) (k : K) :
    (values.foldl (fun m v => m.insert (key v) v) (∅ : Map K V)).lookup k =
      values.reverse.find? fun v => key v = k := by
  induction values using List.reverseRecOn with
  | nil => rfl
  | append_singleton values v ih =>
      rw [List.foldl_append, List.foldl_cons, List.foldl_nil, lookup_insert_ite, ih,
        List.reverse_append, List.reverse_singleton, List.singleton_append, List.find?_cons]
      by_cases hk : key v = k
      · rw [if_pos hk.symm, decide_eq_true hk]
      · rw [if_neg (Ne.symm hk), decide_eq_false hk]

/-- The map with every value replaced. -/
def mapValues {W : Type} (f : V → W) (m : Map K V) : Map K W :=
  ⟨m.entries.map (Sigma.map id fun _ => f), by
    rw [List.NodupKeys, List.keys, List.map_map]
    exact m.nodupKeys⟩

lemma lookup_mapValues {W : Type} (f : V → W) (m : Map K V) (k : K) :
    (m.mapValues f).lookup k = (m.lookup k).map f :=
  List.dlookup_map₂ (f := fun _ => f) k

/-- The values, in the order of the traversal. -/
def values (m : Map K V) : List V := m.entries.map Sigma.snd

omit [DecidableEq K] in
lemma values_eq (m : Map K V) : m.values = m.entries.map Sigma.snd := rfl

omit [DecidableEq K] in
/-- A traversal that replaces no value. -/
lemma mapValues_eq_self {f : V → V} {m : Map K V}
    (h : ∀ v ∈ m.values, f v = v) : m.mapValues f = m := by
  refine AList.ext ?_
  rw [mapValues]
  calc m.entries.map (Sigma.map id fun _ => f)
      = m.entries.map id := List.map_congr_left fun entry hentry => by
        rw [Sigma.map, h entry.2 (List.mem_map_of_mem hentry)]
        rfl
    _ = m.entries := List.map_id _

lemma mem_values {m : Map K V} {v : V} : v ∈ m.values ↔ ∃ k, m.lookup k = some v := by
  rw [values_eq, List.mem_map]
  constructor
  · rintro ⟨⟨k, w⟩, hmem, rfl⟩
    exact ⟨k, mem_entries_iff.mp hmem⟩
  · rintro ⟨k, hk⟩
    exact ⟨⟨k, v⟩, mem_entries_iff.mpr hk, rfl⟩

/-! ### Counting -/

lemma length_keys_insert {m : Map K V} {k : K} (v : V) :
    (m.insert k v).keys.length = if k ∈ m.keys then m.keys.length else m.keys.length + 1 := by
  rw [AList.keys_insert, List.length_cons, List.length_erase]
  split
  · next h =>
      have hpos : 0 < m.keys.length := List.length_pos_of_mem h
      omega
  · rfl

lemma length_keys_erase (m : Map K V) (k : K) :
    (m.erase k).keys.length = if k ∈ m.keys then m.keys.length - 1 else m.keys.length := by
  rw [AList.keys_erase, List.length_erase]

/-- Maps with the same lookups have the same entries, up to their order. -/
lemma entries_perm {m m' : Map K V} (h : ∀ k, m'.lookup k = m.lookup k) :
    m'.entries.Perm m.entries := by
  refine List.lookup_ext m'.nodupKeys m.nodupKeys fun k v => ?_
  change v ∈ m'.lookup k ↔ v ∈ m.lookup k
  rw [h k]

/-- An entry, and the ones that are left without it. -/
lemma entries_perm_erase {m : Map K V} {k : K} {v : V} (h : m.lookup k = some v) :
    m.entries.Perm (⟨k, v⟩ :: (m.erase k).entries) := by
  have hgone : k ∉ m.erase k := AList.lookup_eq_none.mp (AList.lookup_erase k m)
  rw [← AList.entries_insert_of_notMem hgone]
  refine entries_perm fun k' => ?_
  rw [lookup_insert_ite, lookup_erase_ite]
  split
  · next hk => rw [hk, h]
  · rfl

lemma length_keys_congr {m m' : Map K V} (h : ∀ k, m'.lookup k = m.lookup k) :
    m'.keys.length = m.keys.length :=
  ((entries_perm h).map Sigma.fst).length_eq

/-- The number of entries whose value passes the test. -/
def countP (p : V → Bool) (m : Map K V) : ℕ := m.entries.countP fun entry => p entry.2

omit [DecidableEq K] in
lemma countP_le (p : V → Bool) (m : Map K V) : countP p m ≤ m.keys.length := by
  have hlen : m.keys.length = m.entries.length := List.length_map _
  rw [hlen]
  exact List.countP_le_length

lemma countP_congr (p : V → Bool) {m m' : Map K V} (h : ∀ k, m'.lookup k = m.lookup k) :
    countP p m' = countP p m :=
  (entries_perm h).countP_eq _

/-- A new key. -/
lemma countP_insert {p : V → Bool} {m : Map K V} {k : K} (v : V) (h : m.lookup k = none) :
    countP p (m.insert k v) = countP p m + if p v then 1 else 0 := by
  simp only [countP]
  rw [AList.entries_insert_of_notMem (AList.lookup_eq_none.mp h), List.countP_cons]

omit [DecidableEq K] in
/-- No value passes a test that the replacement makes fail. -/
lemma countP_mapValues_eq_zero {W : Type} {p : W → Bool} {f : V → W} (h : ∀ v, p (f v) = false)
    (m : Map K V) : countP p (m.mapValues f) = 0 := by
  rw [countP, mapValues]
  refine List.countP_eq_zero.mpr fun entry hentry => ?_
  obtain ⟨before, -, rfl⟩ := List.mem_map.mp hentry
  rw [Sigma.map, h]
  exact Bool.false_ne_true

/-- The entry that is removed counts once. -/
lemma countP_erase {p : V → Bool} {m : Map K V} {k : K} {v : V} (h : m.lookup k = some v) :
    countP p (m.erase k) + (if p v then 1 else 0) = countP p m := by
  have hlist : ∀ l : List (Sigma fun _ : K => V), l.dlookup k = some v →
      (l.kerase k).countP (fun entry => p entry.2) + (if p v then 1 else 0) =
        l.countP fun entry => p entry.2 := by
    intro l
    induction l with
    | nil => intro h; cases h
    | cons entry l ih =>
        obtain ⟨k', v'⟩ := entry
        intro h
        by_cases hk : k = k'
        · subst hk
          rw [List.dlookup_cons_eq] at h
          cases h
          rw [show List.kerase k (⟨k, v⟩ :: l) = l from List.kerase_cons_eq rfl, List.countP_cons]
        · rw [List.dlookup_cons_ne _ _ hk] at h
          rw [List.kerase_cons_ne hk, List.countP_cons, List.countP_cons, ← ih h]
          omega
  exact hlist m.entries h

/-- A value is replaced. -/
lemma countP_replace {p : V → Bool} {m : Map K V} {k : K} {v : V} (w : V)
    (h : m.lookup k = some v) :
    countP p (m.insert k w) + (if p v then 1 else 0) = countP p m + if p w then 1 else 0 := by
  have herased := countP_erase (p := p) h
  have hinsert : countP p (m.insert k w) = countP p (m.erase k) + if p w then 1 else 0 := by
    rw [countP]
    rw [AList.entries_insert, List.countP_cons]
    rfl
  omega

/-- Removals do not raise the count. -/
lemma countP_erase_le (p : V → Bool) (m : Map K V) (k : K) :
    countP p (m.erase k) ≤ countP p m :=
  (List.kerase_sublist k m.entries).countP_le

end Map
