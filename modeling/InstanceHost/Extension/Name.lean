/-
**Names of extensions.**

A name is one or more words of lower-case letters and digits, with one full stop, underscore or
hyphen between neighbours. It is given with any blanks around it.

* `isName`: the test, reading from left to right;
* `isName_iff`: the same said of places: every character is allowed, the first and the last are no
  separators, and no two separators are neighbours.
-/

import InstanceHost.Text.Blank

namespace InstanceHost.Extension

/-- A character of a word. -/
def isWordCharacter (character : Char) : Bool :=
  ('a' ≤ character && character ≤ 'z') || ('0' ≤ character && character ≤ '9')

/-- A character between words. -/
def isSeparator (character : Char) : Bool :=
  character == '.' || character == '_' || character == '-'

/-- Whether words and separators follow, given whether a word has been started. -/
def continuesName (started : Bool) : List Char → Bool
  | [] => started
  | character :: rest =>
    if isWordCharacter character then continuesName true rest
    else isSeparator character && started && continuesName false rest

/-- **A name of an extension** (`is_valid_extension_name`), without blanks around it. -/
def isName (characters : List Char) : Bool :=
  continuesName false characters

/-- No two separators are neighbours. -/
def SeparatorsApart (characters : List Char) : Prop :=
  ∀ before first second after, characters = before ++ first :: second :: after →
    ¬ (isSeparator first = true ∧ isSeparator second = true)

/-- A character of a word is no separator. -/
theorem isSeparator_of_isWordCharacter {character : Char}
    (word : isWordCharacter character = true) : isSeparator character = false := by
  unfold isWordCharacter at word
  simp only [Bool.or_eq_true, Bool.and_eq_true, decide_eq_true_eq] at word
  unfold isSeparator
  simp only [Bool.or_eq_false_iff, beq_eq_false_iff_ne, ne_eq]
  refine ⟨⟨?_, ?_⟩, ?_⟩ <;> rintro rfl <;> revert word <;> decide

/-- Separators stay apart in the rest of a list. -/
theorem SeparatorsApart.tail {character : Char} {rest : List Char}
    (apart : SeparatorsApart (character :: rest)) : SeparatorsApart rest := by
  intro before first second after shape
  exact apart (character :: before) first second after (by rw [shape, List.cons_append])

/-- Separators stay apart behind a character, if the next character is not one when it is. -/
theorem SeparatorsApart.cons {character : Char} {rest : List Char} (apart : SeparatorsApart rest)
    (next : ∀ second after, rest = second :: after →
      ¬ (isSeparator character = true ∧ isSeparator second = true)) :
    SeparatorsApart (character :: rest) := by
  intro before first second after shape
  cases before with
  | nil =>
    simp only [List.nil_append, List.cons.injEq] at shape
    exact shape.1 ▸ next second after shape.2
  | cons head before =>
    simp only [List.cons_append, List.cons.injEq] at shape
    exact apart before first second after shape.2

/-- What follows a started or unstarted word, said of places. -/
theorem continuesName_iff (started : Bool) (characters : List Char) :
    continuesName started characters = true ↔
      (characters = [] → started = true) ∧
      (∀ character ∈ characters, isWordCharacter character = true ∨ isSeparator character = true) ∧
      (∀ first rest, characters = first :: rest → isSeparator first = true → started = true) ∧
      (∀ before last, characters = before ++ [last] → isSeparator last = false) ∧
      SeparatorsApart characters := by
  induction characters generalizing started with
  | nil =>
    simp only [continuesName, true_implies, List.not_mem_nil, false_implies, implies_true,
      reduceCtorEq, List.nil_eq_append_iff, List.cons_ne_self, and_false, true_and]
    constructor
    · intro begun
      refine ⟨begun, ?_⟩
      intro before first second after shape
      cases before <;> cases shape
    · exact And.left
  | cons character rest inductive_step =>
    simp only [continuesName]
    by_cases word : isWordCharacter character = true
    · have noSeparator := isSeparator_of_isWordCharacter word
      rw [if_pos word, inductive_step true]
      constructor
      · rintro ⟨_, allowed, _, last, apart⟩
        refine ⟨by simp, ?_, ?_, ?_, ?_⟩
        · intro other member
          rcases List.mem_cons.mp member with rfl | later
          · exact Or.inl word
          · exact allowed other later
        · intro first others shape separator
          cases shape
          rw [noSeparator] at separator
          cases separator
        · intro before final shape
          cases before with
          | nil =>
            simp only [List.nil_append, List.cons.injEq] at shape
            exact shape.1 ▸ noSeparator
          | cons head before =>
            simp only [List.cons_append, List.cons.injEq] at shape
            exact last before final shape.2
        · exact apart.cons fun second after _ both => by
            rw [noSeparator] at both
            cases both.1
      · rintro ⟨_, allowed, _, last, apart⟩
        refine ⟨by simp, fun other member => allowed other (List.mem_cons_of_mem _ member),
          by simp, ?_, apart.tail⟩
        intro before final shape
        exact last (character :: before) final (by rw [shape, List.cons_append])
    · rw [if_neg word]
      simp only [Bool.and_eq_true, inductive_step false]
      constructor
      · rintro ⟨⟨separator, begun⟩, nonempty, allowed, first, last, apart⟩
        refine ⟨by simp, ?_, fun _ _ _ _ => begun, ?_, ?_⟩
        · intro other member
          rcases List.mem_cons.mp member with rfl | later
          · exact Or.inr separator
          · exact allowed other later
        · intro before final shape
          cases before with
          | nil =>
            simp only [List.nil_append, List.cons.injEq] at shape
            exact absurd (nonempty shape.2) (by decide)
          | cons head before =>
            simp only [List.cons_append, List.cons.injEq] at shape
            exact last before final shape.2
        · exact apart.cons fun second after shape both =>
            absurd (first second after shape both.2) (by decide)
      · rintro ⟨_, allowed, first, last, apart⟩
        have separator : isSeparator character = true :=
          (allowed character List.mem_cons_self).resolve_left word
        refine ⟨⟨separator, first character rest rfl separator⟩, ?_,
          fun other member => allowed other (List.mem_cons_of_mem _ member), ?_, ?_, apart.tail⟩
        · intro empty
          have none := last [] character (by rw [empty, List.nil_append])
          rw [separator] at none
          cases none
        · intro second after shape other
          exact absurd ⟨separator, other⟩ (apart [] character second after (by rw [shape]; rfl))
        · intro before final shape
          exact last (character :: before) final (by rw [shape, List.cons_append])

/-- **A name, said of places.** -/
theorem isName_iff (characters : List Char) :
    isName characters = true ↔
      characters ≠ [] ∧
      (∀ character ∈ characters, isWordCharacter character = true ∨ isSeparator character = true) ∧
      (∀ first rest, characters = first :: rest → isSeparator first = false) ∧
      (∀ before last, characters = before ++ [last] → isSeparator last = false) ∧
      SeparatorsApart characters := by
  rw [isName, continuesName_iff]
  simp only [Bool.false_eq_true, imp_false, Bool.not_eq_true, ne_eq]

end InstanceHost.Extension
