/-
Patterns of `LIKE`: `%` stands for any text, `_` for any character, and a backslash takes
the meaning from the character after it.

* `Token`, `accepts`: patterns over any alphabet; `mem_of_accepts`: a character of the
  pattern is one of the text, and `accepts_sample`: the shortest text that is accepted;
* `parse`, `like`: patterns as they are written;
* `containing`, `Body`: the pattern `%…%` of a text that is not escaped, and what it is
  made of;
* `like_containing_iff`: **a text without special characters** is found where it stands;
* `exists_like_without`, `exists_required`: the pattern of a text with special characters
  accepts a text without it, and a pattern that does not accept the text itself requires
  some character.
-/
import Mathlib.Data.List.Infix
import Mathlib.Tactic.Common

namespace CnsServer

namespace Like

/-! ### Patterns -/

inductive Token (α : Type) where
  | any | one
  | char (a : α)
  deriving DecidableEq, Repr

section

variable {α : Type} [DecidableEq α]

/-- The pattern accepts the text. -/
def accepts : List (Token α) → List α → Bool
  | [] => fun text => text.isEmpty
  | .any :: pattern => fun text => text.tails.any (accepts pattern)
  | .one :: pattern => fun text =>
      match text with
      | [] => false
      | _ :: text => accepts pattern text
  | .char a :: pattern => fun text =>
      match text with
      | [] => false
      | b :: text => a = b && accepts pattern text

variable {pattern : List (Token α)} {text : List α} {a : α}

lemma accepts_any : accepts (.any :: pattern) text = true ↔
    ∃ before after, before ++ after = text ∧ accepts pattern after = true := by
  rw [accepts, List.any_eq_true]
  constructor
  · rintro ⟨after, hafter, haccepts⟩
    obtain ⟨before, htext⟩ := (List.mem_tails after text).mp hafter
    exact ⟨before, after, htext, haccepts⟩
  · rintro ⟨before, after, htext, haccepts⟩
    exact ⟨after, (List.mem_tails after text).mpr ⟨before, htext⟩, haccepts⟩

lemma accepts_one : accepts (.one :: pattern) text = true ↔
    ∃ b after, text = b :: after ∧ accepts pattern after = true := by
  cases text with
  | nil => simp [accepts]
  | cons b after => simp [accepts]

lemma accepts_char : accepts (.char a :: pattern) text = true ↔
    ∃ after, text = a :: after ∧ accepts pattern after = true := by
  cases text with
  | nil => simp [accepts]
  | cons b after =>
      rw [accepts, Bool.and_eq_true, decide_eq_true_eq]
      constructor
      · rintro ⟨rfl, hafter⟩
        exact ⟨after, rfl, hafter⟩
      · rintro ⟨rest, heq, hrest⟩
        obtain ⟨rfl, rfl⟩ := List.cons.inj heq
        exact ⟨rfl, hrest⟩

/-- **A character of the pattern** is one of every text that it accepts. -/
lemma mem_of_accepts (h : accepts pattern text = true) (ha : .char a ∈ pattern) : a ∈ text := by
  induction pattern generalizing text with
  | nil => cases ha
  | cons token pattern ih =>
      cases token with
      | any =>
          obtain ⟨before, after, rfl, hafter⟩ := accepts_any.mp h
          have hrest : Token.char a ∈ pattern := by simpa using ha
          exact List.mem_append_right before (ih hafter hrest)
      | one =>
          obtain ⟨b, after, rfl, hafter⟩ := accepts_one.mp h
          have hrest : Token.char a ∈ pattern := by simpa using ha
          exact List.mem_cons_of_mem b (ih hafter hrest)
      | char b =>
          obtain ⟨after, rfl, hafter⟩ := accepts_char.mp h
          rcases List.mem_cons.mp ha with heq | hrest
          · cases heq
            exact List.mem_cons_self
          · exact List.mem_cons_of_mem b (ih hafter hrest)

/-- A text that the pattern accepts, with a filler for each `one`. -/
def sample (filler : α) : List (Token α) → List α
  | [] => []
  | .any :: pattern => sample filler pattern
  | .one :: pattern => filler :: sample filler pattern
  | .char a :: pattern => a :: sample filler pattern

lemma accepts_sample (filler : α) (pattern : List (Token α)) :
    accepts pattern (sample filler pattern) = true := by
  induction pattern with
  | nil => rfl
  | cons token pattern ih =>
      cases token with
      | any => exact accepts_any.mpr ⟨[], _, rfl, ih⟩
      | one => exact accepts_one.mpr ⟨filler, _, rfl, ih⟩
      | char a => exact accepts_char.mpr ⟨_, rfl, ih⟩

omit [DecidableEq α] in
/-- The characters of the sample. -/
lemma mem_sample {filler : α} (h : a ∈ sample filler pattern) : a = filler ∨ .char a ∈ pattern := by
  induction pattern with
  | nil => cases h
  | cons token pattern ih =>
      cases token with
      | any => exact (ih h).imp_right (List.mem_cons_of_mem _)
      | one =>
          rcases List.mem_cons.mp h with rfl | hrest
          · exact .inl rfl
          · exact (ih hrest).imp_right (List.mem_cons_of_mem _)
      | char b =>
          rcases List.mem_cons.mp h with rfl | hrest
          · exact .inr List.mem_cons_self
          · exact (ih hrest).imp_right (List.mem_cons_of_mem _)

/-- A pattern of wildcards accepts every text of the length of the sample. -/
lemma accepts_of_length (filler : α) (hwild : ∀ a, .char a ∉ pattern)
    (hlength : text.length = (sample filler pattern).length) : accepts pattern text = true := by
  induction pattern generalizing text with
  | nil => simpa [accepts, sample] using hlength
  | cons token pattern ih =>
      have hrest : ∀ a, Token.char a ∉ pattern := fun a ha => hwild a (List.mem_cons_of_mem _ ha)
      cases token with
      | any => exact accepts_any.mpr ⟨[], text, rfl, ih hrest hlength⟩
      | one =>
          cases text with
          | nil => cases hlength
          | cons b after =>
              have hafter : after.length = (sample filler pattern).length := by
                simpa [sample] using hlength
              exact accepts_one.mpr ⟨b, after, rfl, ih hrest hafter⟩
      | char b => exact absurd List.mem_cons_self (hwild b)

/-- Characters and then any text: the text begins with them. -/
lemma accepts_chars {word : List α} :
    accepts (word.map .char ++ [.any]) text = true ↔ word <+: text := by
  induction word generalizing text with
  | nil =>
      refine iff_of_true (accepts_any.mpr ⟨text, [], List.append_nil text, rfl⟩) ?_
      exact List.nil_prefix
  | cons a word ih =>
      rw [List.map_cons, List.cons_append, accepts_char]
      constructor
      · rintro ⟨after, rfl, hafter⟩
        exact List.cons_prefix_cons.mpr ⟨rfl, ih.mp hafter⟩
      · rintro ⟨after, rfl⟩
        exact ⟨word ++ after, rfl, ih.mpr (List.prefix_append word after)⟩

end

/-! ### As they are written -/

/-- The characters that a pattern gives a meaning to. -/
def IsSpecial (c : Char) : Prop := c = '%' ∨ c = '_' ∨ c = '\\'

instance (c : Char) : Decidable (IsSpecial c) := inferInstanceAs (Decidable (_ ∨ _))

/-- The pattern that is written, unless it ends after a backslash. -/
def parse : List Char → Option (List (Token Char))
  | [] => some []
  | c :: rest =>
      if c = '%' then (parse rest).map (.any :: ·)
      else if c = '_' then (parse rest).map (.one :: ·)
      else if c = '\\' then
        match rest with
        | [] => none
        | d :: rest => (parse rest).map (.char d :: ·)
      else (parse rest).map (.char c :: ·)

/-- `LIKE`. -/
def like (text pattern : List Char) : Bool :=
  match parse pattern with
  | none => false
  | some pattern => accepts pattern text

/-! ### Texts as patterns -/

/-- The pattern `%…%` of a text, which is not escaped. -/
def containing (text : List Char) : List Char := '%' :: (text ++ ['%'])

/-- What a text and the last `%` write: a backslash at the end of the text escapes it. -/
inductive Body : List Char → List (Token Char) → Prop where
  | nil : Body [] [.any]
  | escapedEnd : Body ['\\'] [.char '%']
  | any {text pattern} : Body text pattern → Body ('%' :: text) (.any :: pattern)
  | one {text pattern} : Body text pattern → Body ('_' :: text) (.one :: pattern)
  | escaped (d : Char) {text pattern} :
      Body text pattern → Body ('\\' :: d :: text) (.char d :: pattern)
  | char {c : Char} {text pattern} :
      ¬IsSpecial c → Body text pattern → Body (c :: text) (.char c :: pattern)

/-- **Every text is one**: no such pattern ends after a backslash. -/
lemma exists_body (text : List Char) :
    ∃ pattern, parse (text ++ ['%']) = some pattern ∧ Body text pattern := by
  induction hlength : text.length using Nat.strong_induction_on generalizing text with
  | _ length ih =>
      subst hlength
      cases text with
      | nil => exact ⟨[.any], rfl, .nil⟩
      | cons c rest =>
          obtain ⟨pattern, hparse, hbody⟩ := ih rest.length (by simp) rest rfl
          by_cases hany : c = '%'
          · subst hany
            exact ⟨.any :: pattern, by rw [List.cons_append, parse.eq_def]; simp [hparse],
              .any hbody⟩
          by_cases hone : c = '_'
          · subst hone
            exact ⟨.one :: pattern, by rw [List.cons_append, parse.eq_def]; simp [hparse],
              .one hbody⟩
          by_cases hescape : c = '\\'
          · subst hescape
            cases rest with
            | nil => exact ⟨[.char '%'], rfl, .escapedEnd⟩
            | cons d rest =>
                have hlength : rest.length < ('\\' :: d :: rest).length := by
                  rw [List.length_cons, List.length_cons]
                  omega
                obtain ⟨pattern, hparse, hbody⟩ := ih rest.length hlength rest rfl
                exact ⟨.char d :: pattern, by simp [parse, hparse], .escaped d hbody⟩
          · have hplain : ¬IsSpecial c := by simp [IsSpecial, hany, hone, hescape]
            refine ⟨.char c :: pattern, ?_, .char hplain hbody⟩
            rw [List.cons_append, parse.eq_def]
            simp [hparse, hany, hone, hescape]

lemma like_containing {text key : List Char} {pattern : List (Token Char)}
    (h : parse (key ++ ['%']) = some pattern) :
    like text (containing key) = accepts (.any :: pattern) text := by
  have hparse : parse (containing key) = some (.any :: pattern) := by
    rw [containing, parse.eq_def]
    simp [h]
  rw [like, hparse]

namespace Body

variable {text : List Char} {pattern : List (Token Char)} {filler : Char}

/-- Without special characters each one stands for itself. -/
lemma eq_of_plain (h : Body text pattern) (hplain : ∀ c ∈ text, ¬IsSpecial c) :
    pattern = text.map .char ++ [.any] := by
  induction h with
  | nil => rfl
  | escapedEnd => exact absurd (.inr (.inr rfl)) (hplain _ List.mem_cons_self)
  | any _ _ => exact absurd (.inl rfl) (hplain _ List.mem_cons_self)
  | one _ _ => exact absurd (.inr (.inl rfl)) (hplain _ List.mem_cons_self)
  | escaped _ _ _ => exact absurd (.inr (.inr rfl)) (hplain _ List.mem_cons_self)
  | char _ _ ih =>
      rw [ih fun c hc => hplain c (List.mem_cons_of_mem _ hc)]
      rfl

/-- The characters of the pattern are those of the text, and `%` if it is escaped. -/
lemma mem_text (h : Body text pattern) {a : Char} (ha : .char a ∈ pattern) :
    a ∈ text ∨ a = '%' := by
  induction h with
  | nil => simp at ha
  | escapedEnd => exact .inr (by simpa using ha)
  | any _ ih => exact (ih (by simpa using ha)).imp_left (List.mem_cons_of_mem _)
  | one _ ih => exact (ih (by simpa using ha)).imp_left (List.mem_cons_of_mem _)
  | escaped d _ ih =>
      rcases List.mem_cons.mp ha with heq | hrest
      · cases heq
        exact .inl (List.mem_cons_of_mem _ List.mem_cons_self)
      · exact (ih hrest).imp_left fun hmem => List.mem_cons_of_mem _ (List.mem_cons_of_mem _ hmem)
  | char _ _ ih =>
      rcases List.mem_cons.mp ha with heq | hrest
      · cases heq
        exact .inl List.mem_cons_self
      · exact (ih hrest).imp_left (List.mem_cons_of_mem _)

/-- The sample is not longer than the text. -/
lemma length_sample_le (h : Body text pattern) (filler : Char) :
    (sample filler pattern).length ≤ text.length := by
  induction h with
  | nil => simp [sample]
  | escapedEnd => simp [sample]
  | any _ ih => exact ih.trans (Nat.le_succ _)
  | one _ ih => simpa [sample] using ih
  | escaped _ _ ih =>
      rw [sample, List.length_cons, List.length_cons, List.length_cons]
      omega
  | char _ _ ih => simpa [sample] using ih

/-- Only a text without special characters is the sample of its pattern. -/
lemma plain_of_sample_eq (hfiller : ¬IsSpecial filler) (h : Body text pattern)
    (heq : sample filler pattern = text) : ∀ c ∈ text, ¬IsSpecial c := by
  induction h with
  | nil => simp
  | escapedEnd => simp [sample] at heq
  | @any text pattern hbody _ =>
      have hlength := hbody.length_sample_le filler
      rw [sample] at heq
      rw [heq, List.length_cons] at hlength
      omega
  | one _ _ =>
      rw [sample, List.cons.injEq] at heq
      exact absurd (.inr (.inl heq.1)) hfiller
  | @escaped d text pattern hbody _ =>
      have hlength := hbody.length_sample_le filler
      rw [sample, List.cons.injEq] at heq
      rw [heq.2, List.length_cons] at hlength
      omega
  | char hplain _ ih =>
      rw [sample, List.cons.injEq] at heq
      exact List.forall_mem_cons.mpr ⟨hplain, ih heq.2⟩

end Body

/-- **A text without special characters** is found where it stands. -/
lemma like_containing_iff {text key : List Char} (hplain : ∀ c ∈ key, ¬IsSpecial c) :
    like text (containing key) = true ↔ key <:+: text := by
  obtain ⟨pattern, hparse, hbody⟩ := exists_body key
  rw [like_containing hparse, hbody.eq_of_plain hplain, accepts_any,
    List.infix_iff_prefix_suffix]
  constructor
  · rintro ⟨before, after, rfl, hafter⟩
    exact ⟨after, accepts_chars.mp hafter, List.suffix_append before after⟩
  · rintro ⟨after, hbegins, before, htext⟩
    exact ⟨before, after, htext, accepts_chars.mpr hbegins⟩

/-- One `_` finds every text but the empty one. -/
lemma like_containing_underscore {text : List Char} :
    like text (containing ['_']) = true ↔ text ≠ [] := by
  have hparse : parse (['_'] ++ ['%']) = some [.one, .any] := rfl
  rw [like_containing hparse, accepts_any]
  constructor
  · rintro ⟨before, after, rfl, hafter⟩ hnil
    obtain ⟨b, rest, rfl, -⟩ := accepts_one.mp hafter
    simp at hnil
  · intro hne
    obtain ⟨b, rest, rfl⟩ := List.exists_cons_of_ne_nil hne
    refine ⟨[], b :: rest, rfl, accepts_one.mpr ⟨b, rest, rfl, ?_⟩⟩
    exact accepts_any.mpr ⟨rest, [], List.append_nil rest, rfl⟩

/-- **A text with special characters** finds a text that it does not stand in. -/
lemma exists_like_without {key : List Char} (filler : Char) (hfiller : ¬IsSpecial filler)
    (hspecial : ∃ c ∈ key, IsSpecial c) :
    ∃ text ≠ [], (∀ c ∈ text, c = filler ∨ c ∈ key ∨ c = '%') ∧
      like text (containing key) = true ∧ ¬key <:+: text := by
  obtain ⟨pattern, hparse, hbody⟩ := exists_body key
  have hnot : ¬key <:+: sample filler pattern := by
    intro hstands
    obtain ⟨c, hc, hcspecial⟩ := hspecial
    have heq := hstands.eq_of_length_le (hbody.length_sample_le filler)
    exact hbody.plain_of_sample_eq hfiller heq.symm c hc hcspecial
  by_cases hempty : sample filler pattern = []
  · -- Nothing is required, so that the filler will do.
    have hlike : like [filler] (containing key) = true := by
      rw [like_containing hparse]
      refine accepts_any.mpr ⟨[filler], [], rfl, ?_⟩
      exact hempty ▸ accepts_sample filler pattern
    refine ⟨[filler], List.cons_ne_nil _ _, fun c hc => .inl (List.mem_singleton.mp hc), hlike, ?_⟩
    intro hstands
    obtain ⟨c, hc, hcspecial⟩ := hspecial
    exact hfiller (List.mem_singleton.mp (hstands.subset hc) ▸ hcspecial)
  · refine ⟨sample filler pattern, hempty, fun c hc => ?_, ?_, hnot⟩
    · exact (mem_sample hc).imp_right hbody.mem_text
    · rw [like_containing hparse]
      exact accepts_any.mpr ⟨[], _, rfl, accepts_sample filler pattern⟩

/-- **A pattern that misses the text itself** requires some character. -/
lemma exists_required {text key : List Char} (hstands : key <:+: text)
    (hlike : like text (containing key) = false) :
    ∃ a, ∀ other, like other (containing key) = true → a ∈ other := by
  obtain ⟨pattern, hparse, hbody⟩ := exists_body key
  rw [like_containing hparse] at hlike
  by_contra hnone
  push Not at hnone
  have hwild : ∀ a, Token.char a ∉ pattern := by
    intro a ha
    obtain ⟨other, hother, hnot⟩ := hnone a
    rw [like_containing hparse] at hother
    exact hnot (mem_of_accepts hother (List.mem_cons_of_mem _ ha))
  -- Enough characters are left at the end of the text.
  have hlength := hbody.length_sample_le '0'
  have hshort := hlength.trans hstands.length_le
  have haccepts : accepts (.any :: pattern) text = true := by
    refine accepts_any.mpr ⟨_, _,
      List.take_append_drop (text.length - (sample '0' pattern).length) text, ?_⟩
    refine accepts_of_length '0' hwild ?_
    rw [List.length_drop]
    omega
  rw [haccepts] at hlike
  cases hlike

end Like

end CnsServer
