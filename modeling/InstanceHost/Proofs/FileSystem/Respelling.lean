/-
**Paths that are spelled differently.**

Two absolute paths have the same names that count exactly if one can be rewritten into the other by
adding and taking away slashes next to a slash, slashes at the end, and full stops that are a name
of their own. Steps upwards are names like any other: they are not resolved.

* `Respells`: one such rewriting, as a step that shortens the path;
* `Respelled`: any number of them, in both directions;
* `properNames_eq_iff`: the names that count are the same exactly if the paths are respelled.
-/

import InstanceHost.FileSystem.Basic
import InstanceHost.Proofs.Text.Padding
import Mathlib.Data.List.Basic
import Mathlib.Logic.Relation

namespace InstanceHost.FileSystem

open Text

/-- **One name less that does not count**: a slash behind a slash, a full stop between slashes, a
slash at the end, or a full stop at the end behind a slash. -/
inductive Respells : List Char → List Char → Prop
  | slashes (before behind : List Char) :
      Respells (before ++ '/' :: '/' :: behind) (before ++ '/' :: behind)
  | stop (before behind : List Char) :
      Respells (before ++ '/' :: '.' :: '/' :: behind) (before ++ '/' :: behind)
  | lastSlash {before : List Char} (some : before ≠ []) : Respells (before ++ ['/']) before
  | lastStop (before : List Char) : Respells (before ++ ['/', '.']) (before ++ ['/'])

/-- **Paths that are rewritten into each other.** -/
def Respelled : List Char → List Char → Prop :=
  Relation.EqvGen Respells

/-- Whether a name counts. -/
def counts (name : List Char) : Bool :=
  name ≠ [] ∧ name ≠ ['.']

/-- The names of a text that count. -/
def countingNames (characters : List Char) : List (List Char) :=
  (pieces '/' characters).filter counts

theorem properNames_eq (path : String) :
    properNames path = (countingNames path.toList).map String.ofList := by
  rw [properNames, names, countingNames, List.filter_map]
  congr 2
  funext name
  have empty : String.ofList name = "" ↔ name = [] := String.ofList_eq_empty_iff
  have stop : String.ofList name = String.ofList ['.'] ↔ name = ['.'] := String.ofList_inj
  simp only [Function.comp_apply, counts, ne_eq, empty, stop]

theorem countingNames_append (before behind : List Char) :
    countingNames (before ++ '/' :: behind) = countingNames before ++ countingNames behind := by
  rw [countingNames, pieces_append, List.filter_append]
  rfl

/-- A rewriting keeps the names that count. -/
theorem Respells.countingNames_eq {first second : List Char} (respells : Respells first second) :
    countingNames first = countingNames second := by
  cases respells with
  | slashes before behind =>
    have shape : '/' :: behind = [] ++ '/' :: behind := rfl
    rw [countingNames_append, countingNames_append, shape, countingNames_append]
    rfl
  | stop before behind =>
    have shape : '.' :: '/' :: behind = ['.'] ++ '/' :: behind := rfl
    rw [countingNames_append, countingNames_append, shape, countingNames_append]
    rfl
  | lastSlash _ =>
    rw [countingNames_append]
    exact List.append_nil _
  | lastStop before =>
    rw [countingNames_append, countingNames_append]
    rfl

theorem Respelled.countingNames_eq {first second : List Char} (respelled : Respelled first second) :
    countingNames first = countingNames second := by
  induction respelled with
  | rel _ _ respells => exact respells.countingNames_eq
  | refl _ => rfl
  | symm _ _ _ inductive_step => exact inductive_step.symm
  | trans _ _ _ _ _ first second => exact first.trans second

/-- **Leaving out what does not count** is a rewriting. -/
theorem respelled_joined (before : List Char) (parts : List (List Char)) :
    Respelled (before ++ '/' :: joined '/' parts)
      (before ++ '/' :: joined '/' (parts.filter counts)) := by
  induction parts generalizing before with
  | nil => exact .refl _
  | cons part others inductive_step =>
    cases others with
    | nil =>
      by_cases empty : part = []
      · subst empty
        exact .refl _
      · by_cases stop : part = ['.']
        · subst stop
          exact .rel _ _ (.lastStop before)
        · rw [List.filter_cons_of_pos (by simp [counts, empty, stop])]
          exact .refl _
    | cons next others =>
      rw [joined]
      by_cases empty : part = []
      · subst empty
        exact .trans _ _ _ (.rel _ _ (.slashes before _)) (inductive_step before)
      · by_cases stop : part = ['.']
        · subst stop
          exact .trans _ _ _ (.rel _ _ (.stop before _)) (inductive_step before)
        · rw [List.filter_cons_of_pos (by simp [counts, empty, stop])]
          have further := inductive_step (before ++ '/' :: part)
          rw [List.append_assoc, List.append_assoc] at further
          cases rest : (next :: others).filter counts with
          | nil =>
            -- nothing that counts follows, so the slash behind the part goes as well
            rw [rest] at further
            refine .trans _ _ _ further ?_
            have shorter : Respells ((before ++ '/' :: part) ++ ['/']) (before ++ '/' :: part) :=
              .lastSlash (List.append_ne_nil_of_right_ne_nil _ (List.cons_ne_nil _ _))
            rw [List.append_assoc] at shorter
            exact .rel _ _ shorter
          | cons first later =>
            rw [rest] at further
            exact further

/-- A path that starts at the root. -/
theorem exists_of_isAbsolute {path : String} (absolute : isAbsolute path = true) :
    ∃ rest, path.toList = '/' :: rest := by
  rw [isAbsolute, beq_iff_eq, List.head?_eq_some_iff] at absolute
  exact absolute

/-- An absolute path is rewritten into the names that count. -/
theorem respelled_canonical {path : String} (absolute : isAbsolute path = true) :
    Respelled path.toList ('/' :: joined '/' (countingNames path.toList)) := by
  obtain ⟨rest, shape⟩ := exists_of_isAbsolute absolute
  have canonical := respelled_joined [] (pieces '/' rest)
  rw [joined_pieces] at canonical
  have same : countingNames ('/' :: rest) = countingNames rest := countingNames_append [] rest
  rw [shape, same]
  exact canonical

/-- **The names that count are the same exactly if the paths are respelled.** -/
theorem properNames_eq_iff {first second : String} (one : isAbsolute first = true)
    (two : isAbsolute second = true) :
    properNames first = properNames second ↔ Respelled first.toList second.toList := by
  have faithful : Function.Injective (List.map String.ofList) :=
    List.map_injective_iff.mpr fun _ _ => String.ofList_inj.mp
  rw [properNames_eq, properNames_eq, faithful.eq_iff]
  constructor
  · intro same
    have left := respelled_canonical one
    have right := respelled_canonical two
    rw [same] at left
    exact .trans _ _ _ left (.symm _ _ right)
  · exact Respelled.countingNames_eq

end InstanceHost.FileSystem
