/-
Secondary indexes of a table. The table is seen through the role each of its keys
has, a partial function `role : K → Option I`; an index is a finite map from roles
back to keys.

* `Index.rolesOf`: the roles of a table whose values carry them;
* `Index.Unique`: at most one key has a role, and the index names it;
* `Index.Grouped`: several keys may share a role, and the index lists them,
  without repeats and without empty groups;
* `add`, `move`, `remove`: what an update of the table needs to do to the index;
* `Unique.find_eq`, `Grouped.filter_perm`: a lookup through the index is a scan of
  the table.
-/
import CnsServer.Library.FiniteMap

namespace Index

variable {K I V : Type} [DecidableEq K] [DecidableEq I]

/-- The role of each key, as its value says it. -/
def rolesOf (key : V → Option I) (m : Map K V) (k : K) : Option I := (m.lookup k).bind key

omit [DecidableEq I] in
lemma rolesOf_eq (key : V → Option I) {m : Map K V} {k : K} {v : V} (h : m.lookup k = some v) :
    rolesOf key m k = key v := by
  rw [rolesOf, h, Option.bind_some]

omit [DecidableEq I] in
lemma rolesOf_insert (key : V → Option I) (m : Map K V) (k : K) (v : V) :
    rolesOf key (m.insert k v) = Function.update (rolesOf key m) k (key v) := by
  funext k'
  rw [rolesOf, Map.lookup_insert_ite, Function.update_apply]
  split
  · rfl
  · rfl

omit [DecidableEq I] in
/-- Values that keep their role. -/
lemma rolesOf_mapValues {key : V → Option I} {f : V → V} (hf : ∀ v, key (f v) = key v)
    (m : Map K V) : rolesOf key (m.mapValues f) = rolesOf key m := by
  funext k
  rw [rolesOf, rolesOf, Map.lookup_mapValues]
  cases m.lookup k with
  | none => rfl
  | some v => exact hf v

omit [DecidableEq I] in
lemma rolesOf_some {key : V → Option I} {m : Map K V} {k : K} {i : I} :
    rolesOf key m k = some i ↔ ∃ v, m.lookup k = some v ∧ key v = some i :=
  Option.bind_eq_some_iff

/-- Every role leads to the one key that has it. -/
def Unique (role : K → Option I) (index : Map I K) : Prop :=
  ∀ i k, index.lookup i = some k ↔ role k = some i

/-- Every role leads to the keys that have it. -/
structure Grouped (role : K → Option I) (index : Map I (List K)) : Prop where
  nonempty : ∀ i ks, index.lookup i = some ks → ks ≠ []
  nodup : ∀ i ks, index.lookup i = some ks → ks.Nodup
  mem : ∀ i k, k ∈ (index.lookup i).getD [] ↔ role k = some i

/-! ### Unique roles -/

namespace Unique

variable {role : K → Option I} {index : Map I K}

omit [DecidableEq K] in
lemma empty : Unique (fun _ : K => (none : Option I)) ∅ := by
  intro i k
  simp

omit [DecidableEq K] in
/-- Two keys do not share a role. -/
lemma injective (h : Unique role index) {k k' : K} {i : I} (hk : role k = some i)
    (hk' : role k' = some i) : k = k' := by
  have hfirst := (h i k).mpr hk
  rw [(h i k').mpr hk'] at hfirst
  exact (Option.some.inj hfirst).symm

omit [DecidableEq K] in
/-- A free role has no owner. -/
lemma free (h : Unique role index) {i : I} (hfree : index.lookup i = none) (k : K) :
    role k ≠ some i := by
  intro hk
  rw [(h i k).mpr hk] at hfree
  cases hfree

/-- A key without a role takes a free one. -/
lemma add (h : Unique role index) {k : K} {i : I} (hk : role k = none)
    (hfree : index.lookup i = none) :
    Unique (Function.update role k (some i)) (index.insert i k) := by
  intro j k'
  rw [Map.lookup_insert_some, Function.update_apply]
  by_cases hk' : k' = k
  · subst hk'
    rw [if_pos rfl, Option.some_inj]
    constructor
    · rintro (⟨rfl, -⟩ | ⟨-, hj⟩)
      · rfl
      · rw [h j k', hk] at hj
        cases hj
    · rintro rfl
      exact .inl ⟨rfl, rfl⟩
  · rw [if_neg hk', ← h j k']
    constructor
    · rintro (⟨-, rfl⟩ | ⟨-, hj⟩)
      · exact absurd rfl hk'
      · exact hj
    · intro hj
      refine .inr ⟨?_, hj⟩
      rintro rfl
      rw [hfree] at hj
      cases hj

/-- A key gives up its role. -/
lemma remove (h : Unique role index) {k : K} {i : I} (hk : role k = some i) :
    Unique (Function.update role k none) (index.erase i) := by
  intro j k'
  rw [Map.lookup_erase_some, Function.update_apply, h j k']
  by_cases hk' : k' = k
  · subst hk'
    rw [if_pos rfl, hk]
    constructor
    · rintro ⟨hne, hj⟩
      exact absurd (Option.some.inj hj).symm hne
    · intro hj
      cases hj
  · rw [if_neg hk']
    refine ⟨fun hj => hj.2, fun hj => ⟨?_, hj⟩⟩
    rintro rfl
    exact hk' (h.injective hj hk)

/-- A key exchanges its role for a free one. -/
lemma move (h : Unique role index) {k : K} {i j : I} (hk : role k = some j)
    (hfree : index.lookup i = none) :
    Unique (Function.update role k (some i)) ((index.insert i k).erase j) := by
  have hij : i ≠ j := by
    rintro rfl
    exact h.free hfree k hk
  have hfree' : (index.erase j).lookup i = none := by
    rw [Map.lookup_erase_ite, if_neg hij, hfree]
  have hadd := (h.remove hk).add (Function.update_self k none role) hfree'
  rw [Function.update_idem] at hadd
  intro i' k'
  rw [← hadd i' k', Map.lookup_erase_ite, Map.lookup_insert_ite, Map.lookup_insert_ite,
    Map.lookup_erase_ite]
  by_cases hj : i' = j
  · have hne : i' ≠ i := by
      rintro rfl
      exact hij hj
    rw [if_pos hj, if_neg hne, if_pos hj]
  · rw [if_neg hj, if_neg hj]

/-- A lookup through the index finds the value a scan of the table finds. -/
lemma find_eq {m : Map K V} {key : V → Option I} (h : Unique (rolesOf key m) index) (i : I) :
    (index.lookup i).bind m.lookup = m.values.find? fun v => key v = some i := by
  symm
  cases hix : index.lookup i with
  | none =>
      refine List.find?_eq_none.mpr fun v hv => ?_
      obtain ⟨k, hk⟩ := Map.mem_values.mp hv
      intro hkey
      exact h.free hix k (rolesOf_some.mpr ⟨v, hk, of_decide_eq_true hkey⟩)
  | some k =>
      have hrole : rolesOf key m k = some i := (h i k).mp hix
      obtain ⟨v, hv, hkey⟩ := rolesOf_some.mp hrole
      have hfound : ((m.values.find? fun w => key w = some i).isSome : Prop) := by
        rw [List.find?_isSome]
        exact ⟨v, Map.mem_values.mpr ⟨k, hv⟩, decide_eq_true hkey⟩
      obtain ⟨w, hw⟩ := Option.isSome_iff_exists.mp hfound
      obtain ⟨k', hk'⟩ := Map.mem_values.mp (List.mem_of_find?_eq_some hw)
      have hkey' : key w = some i := of_decide_eq_true (List.find?_some hw :)
      have hsame : k' = k := h.injective (rolesOf_some.mpr ⟨w, hk', hkey'⟩) hrole
      rw [hw, Option.bind_some, ← hsame, hk']

end Unique

/-! ### Shared roles -/

namespace Grouped

variable {role : K → Option I} {index : Map I (List K)}

omit [DecidableEq K] in
lemma empty : Grouped (fun _ : K => (none : Option I)) ∅ := by
  refine ⟨fun i ks h => ?_, fun i ks h => ?_, fun i k => ?_⟩
  · simp at h
  · simp at h
  · simp

/-- A key without a role joins the group of one. -/
lemma add (h : Grouped role index) {k : K} (i : I) (hk : role k = none) :
    Grouped (Function.update role k (some i))
      (index.insert i ((index.lookup i).getD [] ++ [k])) := by
  refine ⟨fun j ks hj => ?_, fun j ks hj => ?_, fun j k' => ?_⟩
  · rcases Map.lookup_insert_some.mp hj with ⟨-, rfl⟩ | ⟨-, hj⟩
    · simp
    · exact h.nonempty j ks hj
  · rcases Map.lookup_insert_some.mp hj with ⟨-, rfl⟩ | ⟨-, hj⟩
    · refine List.Nodup.append ?_ (List.nodup_singleton k) ?_
      · cases hix : index.lookup i with
        | none => exact List.nodup_nil
        | some ks => exact h.nodup i ks hix
      · intro k' hk' hmem
        rw [h.mem i k', List.mem_singleton.mp hmem, hk] at hk'
        cases hk'
    · exact h.nodup j ks hj
  · rw [Map.lookup_insert_ite, Function.update_apply]
    by_cases hj : j = i
    · subst hj
      rw [if_pos rfl, Option.getD_some, List.mem_append, List.mem_singleton, h.mem j k']
      split
      · next hk' => simp [hk']
      · next hk' => simp [hk']
    · rw [if_neg hj, h.mem j k']
      split
      · next hk' =>
          subst hk'
          rw [hk]
          simp [Ne.symm hj]
      · rfl

/-- A key leaves its group, and a group that is empty then goes with it. -/
lemma remove (h : Grouped role index) {k : K} {i : I} {ks : List K} (hk : role k = some i)
    (hix : index.lookup i = some ks) :
    Grouped (Function.update role k none)
      (if ks.filter (· ≠ k) = [] then index.erase i
        else index.insert i (ks.filter (· ≠ k))) := by
  have hlookup : ∀ j, (if ks.filter (· ≠ k) = [] then index.erase i
      else index.insert i (ks.filter (· ≠ k))).lookup j =
        if j = i then (if ks.filter (· ≠ k) = [] then none else some (ks.filter (· ≠ k)))
        else index.lookup j := by
    intro j
    split
    · rw [Map.lookup_erase_ite]
    · rw [Map.lookup_insert_ite]
  have hmem : ∀ k', k' ∈ ks ↔ role k' = some i := by
    intro k'
    rw [← h.mem i k', hix, Option.getD_some]
  refine ⟨fun j ks' hj => ?_, fun j ks' hj => ?_, fun j k' => ?_⟩
  · rw [hlookup] at hj
    split at hj
    · split at hj
      · cases hj
      · next hne => exact Option.some.inj hj ▸ hne
    · exact h.nonempty j ks' hj
  · rw [hlookup] at hj
    split at hj
    · split at hj
      · cases hj
      · exact Option.some.inj hj ▸ (h.nodup i ks hix).filter _
    · exact h.nodup j ks' hj
  · have hgroup : k' ∈ (if ks.filter (· ≠ k) = [] then none
        else some (ks.filter (· ≠ k))).getD [] ↔ k' ∈ ks ∧ k' ≠ k := by
      split
      · next hnil =>
          have hnone : k' ∉ ks.filter (· ≠ k) := by
            rw [hnil]
            exact List.not_mem_nil
          simpa using hnone
      · simp
    rw [hlookup, Function.update_apply]
    by_cases hj : j = i
    · subst hj
      rw [if_pos rfl, hgroup, hmem]
      split
      · next hk' => simp [hk']
      · next hk' => simp [hk']
    · rw [if_neg hj, h.mem j k']
      split
      · next hk' =>
          subst hk'
          rw [hk]
          simp [Ne.symm hj]
      · rfl

/-- The group of a role is, up to the order, what a scan of the table finds. -/
lemma filter_perm {m : Map K V} {key : V → Option I} (h : Grouped (rolesOf key m) index) (i : I) :
    ((index.lookup i).getD []).Perm
      ((m.entries.filter fun entry => key entry.2 = some i).map Sigma.fst) := by
  have hkeys : ((m.entries.filter fun entry => key entry.2 = some i).map Sigma.fst).Nodup :=
    List.Nodup.sublist (List.filter_sublist.map Sigma.fst) m.nodupKeys
  have hgroup : ((index.lookup i).getD []).Nodup := by
    cases hix : index.lookup i with
    | none => exact List.nodup_nil
    | some ks => exact h.nodup i ks hix
  refine (List.perm_ext_iff_of_nodup hgroup hkeys).mpr fun k => ?_
  rw [h.mem i k, rolesOf_some, List.mem_map]
  constructor
  · rintro ⟨v, hv, hkey⟩
    exact ⟨⟨k, v⟩, List.mem_filter.mpr ⟨Map.mem_entries_iff.mpr hv, decide_eq_true hkey⟩, rfl⟩
  · rintro ⟨⟨k', v⟩, hmem, rfl⟩
    obtain ⟨hmem, hkey⟩ := List.mem_filter.mp hmem
    exact ⟨v, Map.mem_entries_iff.mp hmem, of_decide_eq_true hkey⟩

end Grouped

end Index
