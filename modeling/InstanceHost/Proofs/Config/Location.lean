/-
**Where a configuration says that the module lies.**

A string says nothing about the module. An object may name a directory under `module_dir.mize`: the
first must be an object and the second a string that is not blank, and the directory is taken as it
stands there. These are all the ways in which a configuration can have, or not have, a normal form.

* `Misplaced`: what is wrong with the entries of an object that say where the module lies;
* `Located`: the directory that entries name, if they name one;
* `moduleDirectory?_eq_error_iff`, `moduleDirectory?_eq_ok_iff`: the directory is read so;
* `Prepares`, `toNormal_eq_ok_iff`: the normal form of a value.
-/

import InstanceHost.Config.Basic

namespace InstanceHost

/-- **What is wrong with entries that say where the module lies.** -/
inductive Misplaced (entries : Keyed Json) : LocationFault → Prop
  | directories {value : Json} (there : entries.lookup moduleDirectoryKey = some value)
      (unfit : ∀ inner, value ≠ .object inner) :
      Misplaced entries (.directoriesNotObject value.kindName)
  | directory {directories : Keyed Json} {value : Json}
      (there : entries.lookup moduleDirectoryKey = some (.object directories))
      (own : directories.lookup ownModule = some value) (unfit : ∀ text, value ≠ .string text) :
      Misplaced entries (.directoryNotString value.kindName)
  | blank {directories : Keyed Json} {text : String}
      (there : entries.lookup moduleDirectoryKey = some (.object directories))
      (own : directories.lookup ownModule = some (.string text))
      (blank : ∀ character ∈ text.toList, Text.isBlank character = true) :
      Misplaced entries .directoryBlank

/-- **The directory that entries name**, or none. -/
inductive Located (entries : Keyed Json) : Option String → Prop
  | unmentioned (absent : entries.lookup moduleDirectoryKey = none) : Located entries none
  | unnamed {directories : Keyed Json}
      (there : entries.lookup moduleDirectoryKey = some (.object directories))
      (absent : directories.lookup ownModule = none) : Located entries none
  | named {directories : Keyed Json} {directory : String}
      (there : entries.lookup moduleDirectoryKey = some (.object directories))
      (own : directories.lookup ownModule = some (.string directory))
      (visible : ∃ character ∈ directory.toList, Text.isBlank character = false) :
      Located entries (some directory)

theorem Text.isBlankText_eq_false_iff {text : String} :
    isBlankText text = false ↔ ∃ character ∈ text.toList, isBlank character = false :=
  List.all_eq_false.trans (by simp only [Bool.not_eq_true])

/-! ### Reading the directory -/

section

variable {entries : Keyed Json} {fault : LocationFault} {directory : Option String}

/-- Entries say where the module lies, or something is wrong with them. -/
theorem misplaced_or_located (entries : Keyed Json) :
    (∃ fault, Misplaced entries fault) ∨ ∃ directory, Located entries directory := by
  cases there : entries.lookup moduleDirectoryKey with
  | none => exact Or.inr ⟨none, .unmentioned there⟩
  | some value =>
    cases value with
    | object directories =>
      cases own : Keyed.lookup ownModule directories with
      | none => exact Or.inr ⟨none, .unnamed there own⟩
      | some value =>
        cases value with
        | string text =>
          cases blank : Text.isBlankText text with
          | true => exact Or.inl ⟨_, .blank there own (List.all_eq_true.mp blank)⟩
          | false => exact Or.inr ⟨_, .named there own (Text.isBlankText_eq_false_iff.mp blank)⟩
        | _ => exact Or.inl ⟨_, .directory there own fun _ same => nomatch same⟩
    | _ => exact Or.inl ⟨_, .directories there fun _ same => nomatch same⟩

theorem Misplaced.moduleDirectory? (misplaced : Misplaced entries fault) :
    moduleDirectory? entries = .error fault := by
  unfold InstanceHost.moduleDirectory?
  cases misplaced with
  | directories there unfit => simp only [there]
  | directory there own unfit => simp only [there, ownDirectory?, own]
  | blank there own blank =>
    have all : Text.isBlankText _ = true := List.all_eq_true.mpr blank
    simp only [there, ownDirectory?, own, all, if_true]

theorem Located.moduleDirectory? (located : Located entries directory) :
    moduleDirectory? entries = .ok directory := by
  unfold InstanceHost.moduleDirectory?
  cases located with
  | unmentioned absent => rw [absent]
  | unnamed there absent => simp only [there, ownDirectory?, absent]
  | named there own visible =>
    have some_visible := Text.isBlankText_eq_false_iff.mpr visible
    simp only [there, ownDirectory?, own, some_visible, Bool.false_eq_true, if_false]

/-- **The directory is not read for one of these faults.** -/
theorem moduleDirectory?_eq_error_iff :
    moduleDirectory? entries = .error fault ↔ Misplaced entries fault := by
  refine ⟨fun read => ?_, Misplaced.moduleDirectory?⟩
  rcases misplaced_or_located entries with ⟨other, misplaced⟩ | ⟨directory, located⟩
  · have same := misplaced.moduleDirectory?
    rw [read] at same
    cases same
    exact misplaced
  · have same := located.moduleDirectory?
    rw [read] at same
    cases same

/-- **The directory that is read is the one that the entries name.** -/
theorem moduleDirectory?_eq_ok_iff :
    moduleDirectory? entries = .ok directory ↔ Located entries directory := by
  refine ⟨fun read => ?_, Located.moduleDirectory?⟩
  rcases misplaced_or_located entries with ⟨fault, misplaced⟩ | ⟨other, located⟩
  · have same := misplaced.moduleDirectory?
    rw [read] at same
    cases same
  · have same := located.moduleDirectory?
    rw [read] at same
    cases same
    exact located

end

/-! ### Normal forms -/

/-- **The normal form of a value**: the text itself, of a string; the compact text with the
directory that it names, of an object. -/
inductive Prepares : Json → NormalConfig → Prop
  | text {text : String} : Prepares (.string text) ⟨text, none⟩
  | entries {entries : Keyed Json} {directory : Option String}
      (located : Located entries directory) :
      Prepares (.object entries) ⟨(Json.object entries).text, directory⟩

/-- **A value that has no normal form although it is a configuration.** -/
inductive Unprepared : Json → ConfigFault → Prop
  | entries {entries : Keyed Json} {fault : LocationFault} (misplaced : Misplaced entries fault) :
      Unprepared (.object entries) (.invalidLocation fault)

section

variable {value : Json} {config : Config} {normal : NormalConfig} {fault : ConfigFault}

theorem Prepares.exists_config (prepares : Prepares value normal) :
    ∃ config, Config.ofJson value = .ok config ∧ config.toNormal = .ok normal := by
  cases prepares with
  | text => exact ⟨_, rfl, rfl⟩
  | entries located =>
    refine ⟨_, rfl, ?_⟩
    rw [Config.toNormal]
    simp only [located.moduleDirectory?]
    rfl

theorem prepares_of_toNormal (kind : Config.ofJson value = .ok config)
    (resolved : config.toNormal = .ok normal) : Prepares value normal := by
  cases value with
  | string text =>
    cases kind
    cases resolved
    exact .text
  | object entries =>
    cases kind
    unfold Config.toNormal at resolved
    cases read : moduleDirectory? entries with
    | error fault => simp only [read, reduceCtorEq] at resolved
    | ok directory =>
      simp only [read, Except.ok.injEq] at resolved
      rw [← resolved]
      exact .entries (moduleDirectory?_eq_ok_iff.mp read)
  | _ => cases kind

theorem unprepared_of_toNormal (kind : Config.ofJson value = .ok config)
    (failed : config.toNormal = .error fault) : Unprepared value fault := by
  cases value with
  | string text =>
    cases kind
    cases failed
  | object entries =>
    cases kind
    unfold Config.toNormal at failed
    cases read : moduleDirectory? entries with
    | error other =>
      simp only [read, Except.error.injEq] at failed
      rw [← failed]
      exact .entries (moduleDirectory?_eq_error_iff.mp read)
    | ok directory => simp only [read, reduceCtorEq] at failed
  | _ => cases kind

theorem Unprepared.exists_config (unprepared : Unprepared value fault) :
    ∃ config, Config.ofJson value = .ok config ∧ config.toNormal = .error fault := by
  cases unprepared with
  | entries misplaced =>
    refine ⟨_, rfl, ?_⟩
    rw [Config.toNormal]
    simp only [misplaced.moduleDirectory?]

end

end InstanceHost
