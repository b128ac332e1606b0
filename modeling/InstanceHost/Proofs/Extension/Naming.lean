/-
**Which names an extension can be given.**

Of the text that it is given an extension gets what is left without the blanks around it, if this is
a proper name and not taken. A proper name is told by its places: what may stand at the ends, what
inside, and what side by side. The language of names, which is made of runs and separators, has the
same words. Blanks are no characters of a proper name, so that of one no end can be cut off, and
there is one text only that a given one can be trimmed to.

* `ProperName`: a name, told by its places;
* `isName_iff_properName`: the test that reads from left to right;
* `ProperName.eq_trimmed_iff`: the texts that are trimmed to a proper name;
* `Registry.freeName_cases`: what becomes of a given name;
* `Registry.proper_name_free_or_taken`: exactly when it does.
-/

import InstanceHost.Proofs.Extension.NameLanguage
import InstanceHost.Proofs.Instance.Turn
import InstanceHost.Proofs.Text.Padding

namespace InstanceHost.Extension

/-! ### Proper names -/

/-- **A proper name**: it is not empty, each of its characters is one of a word or a separator, the
first and the last are characters of words, and no two separators are neighbours. -/
structure ProperName (characters : List Char) : Prop where
  nonempty : characters ≠ []
  allowed : ∀ character ∈ characters,
    isWordCharacter character = true ∨ isSeparator character = true
  starts : ∀ first, characters.head? = some first → isWordCharacter first = true
  ends : ∀ last, characters.getLast? = some last → isWordCharacter last = true
  apart : SeparatorsApart characters

section

variable {characters : List Char}

/-- An allowed character is one of a word exactly if it is no separator. -/
theorem isWordCharacter_iff_of_allowed {character : Char}
    (allowed : isWordCharacter character = true ∨ isSeparator character = true) :
    isWordCharacter character = true ↔ isSeparator character = false := by
  refine ⟨isSeparator_of_isWordCharacter, fun other => allowed.resolve_right ?_⟩
  rw [other]
  exact Bool.false_ne_true

/-- **The test decides what a proper name is.** -/
theorem isName_iff_properName : isName characters = true ↔ ProperName characters := by
  rw [isName_iff]
  constructor
  · rintro ⟨nonempty, allowed, starts, ends, apart⟩
    refine ⟨nonempty, allowed, fun first at_start => ?_, fun last at_end => ?_, apart⟩
    · obtain ⟨rest, rfl⟩ := List.head?_eq_some_iff.mp at_start
      exact (isWordCharacter_iff_of_allowed (allowed first List.mem_cons_self)).mpr
        (starts first rest rfl)
    · obtain ⟨before, rfl⟩ := List.getLast?_eq_some_iff.mp at_end
      exact (isWordCharacter_iff_of_allowed (allowed last List.mem_concat_self)).mpr
        (ends before last rfl)
  · rintro ⟨nonempty, allowed, starts, ends, apart⟩
    refine ⟨nonempty, allowed, ?_, ?_, apart⟩
    · rintro first rest rfl
      exact isSeparator_of_isWordCharacter (starts first rfl)
    · rintro before last rfl
      exact isSeparator_of_isWordCharacter (ends last List.getLast?_concat)

/-- **The language of names** is that of the proper ones. -/
theorem mem_nameLanguage_iff_properName : characters ∈ nameLanguage ↔ ProperName characters :=
  (mem_nameLanguage_iff characters).trans isName_iff_properName

/-- **The texts that are trimmed to a proper name** are those with blanks around it. -/
theorem ProperName.eq_trimmed_iff {normal name : String} (proper : ProperName normal.toList) :
    normal = Text.trimmed name ↔ Text.Padded normal.toList name.toList := by
  have whole : Text.trim normal.toList = normal.toList := by
    have same := trimmed_of_isName (isName_iff_properName.mpr proper)
    rw [← String.toList_inj, Text.trimmed, String.toList_ofList] at same
    exact same
  rw [Text.padded_iff whole, ← String.toList_inj, Text.trimmed, String.toList_ofList, eq_comm]

end

/-! ### What becomes of a given name -/

namespace Registry

variable {α : Type} {registry : Keyed α} {name : String}

/-- **What becomes of a given name**: it is improper, or taken, or free. -/
theorem freeName_cases (ordered : registry.Ascending) (name : String) :
    (¬ ProperName (Text.trimmed name).toList ∧
        freeName registry name = .error (.invalidName name)) ∨
      (ProperName (Text.trimmed name).toList ∧ Text.trimmed name ∈ registry.names ∧
        freeName registry name = .error (.duplicateName (Text.trimmed name))) ∨
      (ProperName (Text.trimmed name).toList ∧ Text.trimmed name ∉ registry.names ∧
        freeName registry name = .ok (Text.trimmed name)) := by
  rw [← isName_iff_properName, ← Keyed.contains_iff_mem_names ordered]
  simp only [freeName]
  cases isName (Text.trimmed name).toList with
  | false => exact Or.inl ⟨Bool.false_ne_true, rfl⟩
  | true =>
    cases registry.contains (Text.trimmed name) with
    | true => exact Or.inr (Or.inl ⟨rfl, rfl, rfl⟩)
    | false => exact Or.inr (Or.inr ⟨rfl, Bool.false_ne_true, rfl⟩)

/-- **A proper name is free or taken, and every other one is refused.** For every registry in order
and every given name: it is answered by what is left without the blanks around it exactly if this is
a proper name that is not listed; it is refused as a duplicate exactly if this is a proper name that
is listed, and as no name in every other case, as it was given. A proper name is what is left of a
text exactly if the text is this name with blanks around it, and the proper names are the words of
the language of names. -/
theorem proper_name_free_or_taken (registry : Keyed α) (ordered : registry.Ascending)
    (name : String) :
    (∀ normal, freeName registry name = .ok normal ↔
        normal = Text.trimmed name ∧ ProperName normal.toList ∧ normal ∉ registry.names) ∧
      (∀ normal, freeName registry name = .error (.duplicateName normal) ↔
        normal = Text.trimmed name ∧ ProperName normal.toList ∧ normal ∈ registry.names) ∧
      (∀ given, freeName registry name = .error (.invalidName given) ↔
        given = name ∧ ¬ ProperName (Text.trimmed name).toList) ∧
      (∀ normal, ProperName normal.toList →
        (normal = Text.trimmed name ↔ Text.Padded normal.toList name.toList)) ∧
      ∀ characters, characters ∈ nameLanguage ↔ ProperName characters := by
  have language : ∀ characters, characters ∈ nameLanguage ↔ ProperName characters :=
    fun _ => mem_nameLanguage_iff_properName
  have spelt : ∀ normal, ProperName normal.toList →
      (normal = Text.trimmed name ↔ Text.Padded normal.toList name.toList) :=
    fun _ proper => proper.eq_trimmed_iff
  rcases freeName_cases ordered name with
    ⟨improper, answer⟩ | ⟨proper, taken, answer⟩ | ⟨proper, free, answer⟩ <;> rw [answer]
  · refine ⟨fun normal => ⟨nofun, ?_⟩, fun normal => ⟨nofun, ?_⟩, fun given => ⟨?_, ?_⟩, spelt,
      language⟩
    · rintro ⟨rfl, proper, _⟩
      exact absurd proper improper
    · rintro ⟨rfl, proper, _⟩
      exact absurd proper improper
    · rintro ⟨⟩
      exact ⟨rfl, improper⟩
    · rintro ⟨rfl, _⟩
      rfl
  · refine ⟨fun normal => ⟨nofun, ?_⟩, fun normal => ⟨?_, ?_⟩, fun given => ⟨nofun, ?_⟩, spelt,
      language⟩
    · rintro ⟨rfl, _, free⟩
      exact absurd taken free
    · rintro ⟨⟩
      exact ⟨rfl, proper, taken⟩
    · rintro ⟨rfl, _, _⟩
      rfl
    · rintro ⟨_, improper⟩
      exact absurd proper improper
  · refine ⟨fun normal => ⟨?_, ?_⟩, fun normal => ⟨nofun, ?_⟩, fun given => ⟨nofun, ?_⟩, spelt,
      language⟩
    · rintro ⟨⟩
      exact ⟨rfl, proper, free⟩
    · rintro ⟨rfl, _, _⟩
      rfl
    · rintro ⟨rfl, _, taken⟩
      exact absurd taken free
    · rintro ⟨_, improper⟩
      exact absurd proper improper

/-- A free name between blanks that JSON does not know, a taken one, two neighbouring separators,
and a blank inside. -/
theorem proper_name_free_or_taken_padded :
    let registry : Keyed Nat := [("a.b", 1), ("web_ui", 2)]
    registry.Ascending ∧ freeName registry "\u3000web-ui\u0085" = .ok "web-ui" ∧
      freeName registry "a.b\n" = .error (.duplicateName "a.b") ∧
      freeName registry " a._b" = .error (.invalidName " a._b") ∧
      freeName registry "web ui" = .error (.invalidName "web ui") := by
  intro registry
  have ordered : registry.Ascending := by
    simp only [Keyed.Ascending, Keyed.names, registry]
    decide
  have proper : ∀ {name : String}, isName name.toList = true → ProperName name.toList :=
    isName_iff_properName.mp
  have improper : ∀ {name : String}, isName (Text.trimmed name).toList = false →
      ¬ ProperName (Text.trimmed name).toList := fun refused valid => by
    rw [isName_iff_properName.mpr valid] at refused
    cases refused
  have padded := proper_name_free_or_taken registry ordered "\u3000web-ui\u0085"
  refine ⟨ordered, ?_, ?_, ?_, ?_⟩
  · exact (padded.1 _).mpr ⟨by decide +kernel, proper (by decide +kernel), by decide +kernel⟩
  · refine ((proper_name_free_or_taken registry ordered "a.b\n").2.1 _).mpr ?_
    exact ⟨by decide +kernel, proper (by decide +kernel), by decide +kernel⟩
  · refine ((proper_name_free_or_taken registry ordered " a._b").2.2.1 _).mpr ⟨rfl, ?_⟩
    exact improper (by decide +kernel)
  · refine ((proper_name_free_or_taken registry ordered "web ui").2.2.1 _).mpr ⟨rfl, ?_⟩
    exact improper (by decide +kernel)

end Registry

end InstanceHost.Extension
