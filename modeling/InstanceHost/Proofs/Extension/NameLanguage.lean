/-
**The language of names.**

The names of extensions are the words of a regular language: runs of lower-case letters and digits
with single separators between them, `[a-z0-9]+([._-][a-z0-9]+)*`. The test reads a name from left
to right and keeps in mind whether a run has been started; what can follow in either case is a
language, too, and each is what remains of the other behind a character.

* `nameLanguage`: the language;
* `restLanguage`: what can follow a started run;
* `mem_nameLanguage_iff`: the test decides the language.
-/

import InstanceHost.Extension.Name
import Mathlib.Computability.Language

namespace InstanceHost.Extension

open Computability

/-- One character of a kind. -/
def oneOf (kind : Char → Bool) : Language Char :=
  {characters | ∃ character, kind character = true ∧ characters = [character]}

/-- One or more characters of words. -/
def runLanguage : Language Char :=
  oneOf isWordCharacter * (oneOf isWordCharacter)∗

/-- **The language of names.** -/
def nameLanguage : Language Char :=
  runLanguage * (oneOf isSeparator * runLanguage)∗

/-- What can follow in a name when a run has been started. -/
def restLanguage : Language Char :=
  (oneOf isWordCharacter)∗ * (oneOf isSeparator * runLanguage)∗

theorem mem_oneOf_mul {kind : Char → Bool} {language : Language Char} {characters : List Char} :
    characters ∈ oneOf kind * language ↔
      ∃ character rest, characters = character :: rest ∧ kind character = true ∧
        rest ∈ language := by
  rw [Language.mem_mul]
  constructor
  · rintro ⟨_, ⟨character, proper, rfl⟩, rest, member, rfl⟩
    exact ⟨character, rest, rfl, proper, member⟩
  · rintro ⟨character, rest, rfl, proper, member⟩
    exact ⟨[character], ⟨character, proper, rfl⟩, rest, member, rfl⟩

/-- A name is a character of a word with whatever can follow it. -/
theorem nameLanguage_eq : nameLanguage = oneOf isWordCharacter * restLanguage :=
  mul_assoc _ _ _

/-- **What follows a started run** is nothing, more of the run, or a separator and a name. -/
theorem restLanguage_eq :
    restLanguage = 1 + oneOf isSeparator * nameLanguage + oneOf isWordCharacter * restLanguage := by
  have runs : (oneOf isSeparator * runLanguage)∗ = 1 + oneOf isSeparator * nameLanguage := by
    rw [← Language.one_add_self_mul_kstar_eq_kstar (oneOf isSeparator * runLanguage), nameLanguage,
      mul_assoc]
  calc restLanguage
      = (1 + oneOf isWordCharacter * (oneOf isWordCharacter)∗) *
          (oneOf isSeparator * runLanguage)∗ := by
        rw [restLanguage, Language.one_add_self_mul_kstar_eq_kstar]
    _ = (oneOf isSeparator * runLanguage)∗ + oneOf isWordCharacter * restLanguage := by
        rw [add_mul, one_mul, mul_assoc, restLanguage]
    _ = 1 + oneOf isSeparator * nameLanguage + oneOf isWordCharacter * restLanguage := by
        rw [runs]

theorem continuesName_iff_mem (characters : List Char) :
    (continuesName true characters = true ↔ characters ∈ restLanguage) ∧
      (continuesName false characters = true ↔ characters ∈ nameLanguage) := by
  induction characters with
  | nil =>
    rw [restLanguage_eq, nameLanguage_eq]
    refine ⟨iff_of_true rfl (Or.inl (Or.inl rfl)), iff_of_false Bool.false_ne_true ?_⟩
    rw [mem_oneOf_mul]
    rintro ⟨_, _, shape, _⟩
    cases shape
  | cons character rest inductive_step =>
    obtain ⟨started, unstarted⟩ := inductive_step
    have head : ∀ {kind : Char → Bool} {language : Language Char},
        character :: rest ∈ oneOf kind * language ↔ kind character = true ∧ rest ∈ language := by
      intro kind language
      rw [mem_oneOf_mul]
      constructor
      · rintro ⟨_, _, shape, proper, member⟩
        cases shape
        exact ⟨proper, member⟩
      · exact fun both => ⟨_, _, rfl, both⟩
    have nonempty : character :: rest ∉ (1 : Language Char) := nofun
    rw [nameLanguage_eq, head, ← started, restLanguage_eq, Language.mem_add, Language.mem_add, head,
      head, ← started, ← unstarted]
    simp only [continuesName]
    cases word : isWordCharacter character with
    | true =>
      have separator := isSeparator_of_isWordCharacter word
      simp [separator, nonempty]
    | false => simp [nonempty]

/-- **The test decides the language of names.** -/
theorem mem_nameLanguage_iff (characters : List Char) :
    characters ∈ nameLanguage ↔ isName characters = true :=
  (continuesName_iff_mem characters).2.symm

end InstanceHost.Extension
