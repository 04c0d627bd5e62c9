/-
Connection strings: `key=value` pairs with blanks between them, a value in single quotes if
it has blanks or is empty, and a backslash before a quote or a backslash.

* `State`, `read`: the reader, character by character; it reads up to the first NUL, as a
  C string ends there;
* `escape`, `read_escaped`: an escaped value is read back;
* `read_parameter`: a pair whose value is in quotes;
* `read_joined`: **pairs with a blank between them** are read back.
-/
import Mathlib.Data.List.TakeWhile
import Mathlib.Tactic.Common

namespace CnsServer

namespace ConnInfo

/-! ### The reader -/

inductive Error where
  | missingEquals | unterminatedQuote
  deriving DecidableEq, Repr

/-- Where the reader is, with what it has read of the pair. -/
inductive State where
  | start
  | name (name : List Char)
  | afterName (name : List Char)
  | afterEquals (name : List Char)
  | plain (name value : List Char)
  | plainEscape (name value : List Char)
  | quoted (name value : List Char)
  | quotedEscape (name value : List Char)

/-- `isspace`. -/
def isBlank (c : Char) : Bool := c = ' ' || ('\t' ≤ c && c ≤ '\r')

/-- The single quote. -/
def apostrophe : Char := Char.ofNat 39

/-- The pairs of the text from a state on. -/
def read : State → List Char → Except Error (List (List Char × List Char))
  | .start, [] => .ok []
  | .name _, [] => .error .missingEquals
  | .afterName _, [] => .error .missingEquals
  | .afterEquals name, [] => .ok [(name, [])]
  | .plain name value, [] => .ok [(name, value)]
  | .plainEscape name value, [] => .ok [(name, value)]
  | .quoted _ _, [] => .error .unterminatedQuote
  | .quotedEscape _ _, [] => .error .unterminatedQuote
  | .start, c :: rest =>
      if isBlank c then read .start rest
      else if c = '=' then read (.afterEquals []) rest
      else read (.name [c]) rest
  | .name name, c :: rest =>
      if c = '=' then read (.afterEquals name) rest
      else if isBlank c then read (.afterName name) rest
      else read (.name (name ++ [c])) rest
  | .afterName name, c :: rest =>
      if isBlank c then read (.afterName name) rest
      else if c = '=' then read (.afterEquals name) rest
      else .error .missingEquals
  | .afterEquals name, c :: rest =>
      if isBlank c then read (.afterEquals name) rest
      else if c = apostrophe then read (.quoted name []) rest
      else if c = '\\' then read (.plainEscape name []) rest
      else read (.plain name [c]) rest
  | .plain name value, c :: rest =>
      if isBlank c then (read .start rest).map ((name, value) :: ·)
      else if c = '\\' then read (.plainEscape name value) rest
      else read (.plain name (value ++ [c])) rest
  | .plainEscape name value, c :: rest => read (.plain name (value ++ [c])) rest
  | .quoted name value, c :: rest =>
      if c = '\\' then read (.quotedEscape name value) rest
      else if c = apostrophe then (read .start rest).map ((name, value) :: ·)
      else read (.quoted name (value ++ [c])) rest
  | .quotedEscape name value, c :: rest => read (.quoted name (value ++ [c])) rest

/-- The pairs of a text. -/
def parse (text : String) : Except Error (List (String × String)) :=
  (read .start (text.toList.takeWhile (· ≠ Char.ofNat 0))).map
    (List.map fun pair => (String.ofList pair.1, String.ofList pair.2))

/-! ### Values in quotes -/

/-- A backslash before each quote and each backslash. -/
def escape (value : List Char) : List Char :=
  value.flatMap fun c => if c = '\\' ∨ c = apostrophe then ['\\', c] else [c]

/-- **An escaped value** is read back, up to its quote. -/
lemma read_escaped (name value rest : List Char) (before : List Char) :
    read (.quoted name before) (escape value ++ apostrophe :: rest) =
      (read .start rest).map ((name, before ++ value) :: ·) := by
  induction value generalizing before with
  | nil => simp [escape, read, apostrophe]
  | cons c value ih =>
      rw [escape, List.flatMap_cons, List.append_assoc, ← escape]
      by_cases h : c = '\\' ∨ c = apostrophe
      · rw [if_pos h, List.cons_append, List.singleton_append, read, if_pos rfl, read, ih]
        simp
      · rw [not_or] at h
        rw [if_neg (not_or.mpr h), List.singleton_append, read, if_neg h.1, if_neg h.2, ih]
        simp

/-! ### Pairs -/

/-- A name of a parameter: it is not empty, and has neither blanks nor `=`. -/
def IsName (name : List Char) : Prop := name ≠ [] ∧ ∀ c ∈ name, isBlank c = false ∧ c ≠ '='

/-- A pair, with its value in quotes. -/
def parameter (name value : List Char) : List Char :=
  name ++ '=' :: apostrophe :: escape value ++ [apostrophe]

lemma read_name {name : List Char} (h : ∀ c ∈ name, isBlank c = false ∧ c ≠ '=')
    (before rest : List Char) :
    read (.name before) (name ++ '=' :: rest) = read (.afterEquals (before ++ name)) rest := by
  induction name generalizing before with
  | nil => simp [read]
  | cons c name ih =>
      obtain ⟨⟨hblank, hequals⟩, hname⟩ := List.forall_mem_cons.mp h
      rw [List.cons_append, read, if_neg hequals, hblank, if_neg Bool.false_ne_true, ih hname]
      simp

/-- **A pair** is read back, whatever its value is. -/
lemma read_parameter {name : List Char} (h : IsName name) (value rest : List Char) :
    read .start (parameter name value ++ rest) =
      (read .start rest).map ((name, value) :: ·) := by
  obtain ⟨hne, hname⟩ := h
  cases name with
  | nil => exact absurd rfl hne
  | cons c name =>
      obtain ⟨⟨hblank, hequals⟩, hrest⟩ := List.forall_mem_cons.mp hname
      rw [parameter, List.append_assoc, List.append_assoc, List.cons_append, read, hblank,
        if_neg Bool.false_ne_true, if_neg hequals, List.cons_append, read_name hrest,
        List.singleton_append, List.cons_append, read, if_neg (by decide), if_pos rfl,
        List.singleton_append, read_escaped, List.nil_append]

/-- Pairs with a blank between them. -/
def joined : List (List Char × List Char) → List Char
  | [] => []
  | [pair] => parameter pair.1 pair.2
  | pair :: next :: pairs => parameter pair.1 pair.2 ++ ' ' :: joined (next :: pairs)

/-- **Pairs with a blank between them** are read back. -/
lemma read_joined {pairs : List (List Char × List Char)} (h : ∀ pair ∈ pairs, IsName pair.1) :
    read .start (joined pairs) = .ok pairs := by
  induction pairs with
  | nil => rw [joined, read]
  | cons pair pairs ih =>
      obtain ⟨hpair, hpairs⟩ := List.forall_mem_cons.mp h
      cases pairs with
      | nil =>
          rw [joined, ← List.append_nil (parameter _ _), read_parameter hpair, read]
          rfl
      | cons next pairs =>
          rw [joined, read_parameter hpair, read, if_pos (by decide), ih hpairs]
          rfl

/-- What is neither in a name nor in a value nor a separator is not in the text. -/
lemma not_mem_joined {c : Char} (hc : c ∉ ['=', ' ', '\\', apostrophe])
    {pairs : List (List Char × List Char)} (h : ∀ pair ∈ pairs, c ∉ pair.1 ∧ c ∉ pair.2) :
    c ∉ joined pairs := by
  simp only [List.mem_cons, List.not_mem_nil, or_false, not_or] at hc
  obtain ⟨hequals, hblank, hbackslash, hquote⟩ := hc
  have hparameter : ∀ name value, c ∉ name → c ∉ value → c ∉ parameter name value := by
    intro name value hname hvalue hmem
    simp only [parameter, escape, List.mem_append, List.mem_cons, List.not_mem_nil, hname, hequals,
      hquote, List.mem_flatMap, or_false, false_or] at hmem
    obtain ⟨d, hd, hmem⟩ := hmem
    split at hmem
    · simp only [List.mem_cons, hbackslash, List.not_mem_nil, or_false, false_or] at hmem
      exact hvalue (hmem ▸ hd)
    · exact hvalue (List.mem_singleton.mp hmem ▸ hd)
  induction pairs with
  | nil => exact List.not_mem_nil
  | cons pair pairs ih =>
      obtain ⟨⟨hname, hvalue⟩, hpairs⟩ := List.forall_mem_cons.mp h
      cases pairs with
      | nil => exact hparameter _ _ hname hvalue
      | cons next pairs =>
          rw [joined, List.mem_append, List.mem_cons, not_or, not_or]
          exact ⟨hparameter _ _ hname hvalue, hblank, ih hpairs⟩

/-- **The text of pairs** without NUL parses to them. -/
lemma parse_joined {pairs : List (String × String)} (hname : ∀ pair ∈ pairs, IsName pair.1.toList)
    (hnul : ∀ pair ∈ pairs, Char.ofNat 0 ∉ pair.1.toList ∧ Char.ofNat 0 ∉ pair.2.toList) :
    parse (String.ofList (joined (pairs.map fun pair => (pair.1.toList, pair.2.toList)))) =
      .ok pairs := by
  have hchars : Char.ofNat 0 ∉ joined (pairs.map fun pair => (pair.1.toList, pair.2.toList)) := by
    refine not_mem_joined (by decide) fun pair hpair => ?_
    obtain ⟨texts, htexts, rfl⟩ := List.mem_map.mp hpair
    exact hnul texts htexts
  have hread := @read_joined (pairs.map fun pair => (pair.1.toList, pair.2.toList))
    fun pair hpair => by
      obtain ⟨texts, htexts, rfl⟩ := List.mem_map.mp hpair
      exact hname texts htexts
  rw [parse, String.toList_ofList, List.takeWhile_eq_self_iff.mpr, hread]
  · simp [Except.map, Function.comp_def]
  · intro c hc
    simp only [ne_eq, decide_not, Bool.not_eq_true', decide_eq_false_iff_not]
    rintro rfl
    exact hchars hc

end ConnInfo

end CnsServer
