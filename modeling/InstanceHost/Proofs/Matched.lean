/-
**Entries side by side.**

Two lists of entries that hold the same names in the same places can be read side by side. They stay
so when a name is written, or taken out, in both.

* `Keyed.Matched`: the same names, each with two values that are related;
* `Matched.insert`, `Matched.erase`: writing a name and taking it out;
* `Matched.lookup`: a name stands for two related values, or for none;
* `Matched.imp`, `Matched.imp_insert`: another relation, where the values do not change and where
  one of them does.
-/

import InstanceHost.Keyed
import Mathlib.Data.List.Forall2

namespace InstanceHost.Keyed

variable {α β : Type} {related later : α → β → Prop} {first : Keyed α} {second : Keyed β}
  {name : String} {one : α} {two : β}

/-- **The same names, each with two values that are related.** -/
def Matched (related : α → β → Prop) (first : Keyed α) (second : Keyed β) : Prop :=
  List.Forall₂ (fun entry other => entry.1 = other.1 ∧ related entry.2 other.2) first second

namespace Matched

theorem insert (matched : Matched related first second) (holds : related one two) :
    Matched related (first.insert name one) (second.insert name two) := by
  induction matched with
  | nil => exact .cons ⟨rfl, holds⟩ .nil
  | cons same rest inductive_step =>
    next entry other _ _ =>
    obtain ⟨key, left⟩ := entry
    obtain ⟨_, right⟩ := other
    obtain ⟨rfl, before⟩ := same
    simp only [Keyed.insert]
    split
    · exact .cons ⟨rfl, holds⟩ rest
    · split
      · exact .cons ⟨rfl, holds⟩ (.cons ⟨rfl, before⟩ rest)
      · exact .cons ⟨rfl, before⟩ inductive_step

theorem erase (matched : Matched related first second) :
    Matched related (first.erase name) (second.erase name) := by
  induction matched with
  | nil => exact .nil
  | cons same rest inductive_step =>
    next entry other _ _ =>
    obtain ⟨key, left⟩ := entry
    obtain ⟨_, right⟩ := other
    obtain ⟨rfl, before⟩ := same
    simp only [Keyed.erase]
    split
    · exact rest
    · split
      · exact .cons ⟨rfl, before⟩ rest
      · exact .cons ⟨rfl, before⟩ inductive_step

/-- **A name stands for two related values**, or for none. -/
theorem lookup (matched : Matched related first second) (name : String) :
    (Keyed.lookup name first = none ∧ Keyed.lookup name second = none) ∨
      ∃ one two, Keyed.lookup name first = some one ∧ Keyed.lookup name second = some two ∧
        related one two := by
  induction matched with
  | nil => exact Or.inl ⟨rfl, rfl⟩
  | cons same rest inductive_step =>
    next entry other _ _ =>
    obtain ⟨key, left⟩ := entry
    obtain ⟨_, right⟩ := other
    obtain ⟨rfl, before⟩ := same
    simp only [Keyed.lookup]
    split
    · exact Or.inr ⟨left, right, rfl, rfl, before⟩
    · split
      · exact Or.inl ⟨rfl, rfl⟩
      · exact inductive_step

theorem exists_right (matched : Matched related first second) (member : one ∈ first.map (·.2)) :
    ∃ two ∈ second.map (·.2), related one two := by
  induction matched with
  | nil => cases member
  | cons same rest inductive_step =>
    rcases List.mem_cons.mp member with rfl | later
    · exact ⟨_, List.mem_cons_self, same.2⟩
    · obtain ⟨two, there, holds⟩ := inductive_step later
      exact ⟨two, List.mem_cons_of_mem _ there, holds⟩

theorem names_eq (matched : Matched related first second) : first.names = second.names := by
  induction matched with
  | nil => rfl
  | cons same rest inductive_step =>
    rw [Keyed.names, Keyed.names, List.map_cons, List.map_cons, same.1]
    exact congrArg _ inductive_step

/-- Values that are related are related otherwise, too. -/
theorem imp (matched : Matched related first second)
    (turn : ∀ one, ∀ two ∈ second.map (·.2), related one two → later one two) :
    Matched later first second := by
  induction matched with
  | nil => exact .nil
  | cons same rest inductive_step =>
    refine .cons ⟨same.1, turn _ _ List.mem_cons_self same.2⟩ (inductive_step ?_)
    exact fun one two member => turn one two (List.mem_cons_of_mem _ member)

/-- **One name is written, and the values of the others are related otherwise.** -/
theorem imp_insert (matched : Matched related first second) (ordered : Ascending second)
    (turn : ∀ one, ∀ two ∈ (second.erase name).map (·.2), related one two → later one two)
    (holds : later one two) :
    Matched later (first.insert name one) (second.insert name two) := by
  have ordered_first : Ascending first := by
    rw [Ascending, matched.names_eq]
    exact ordered
  rw [← insert_erase ordered_first, ← insert_erase ordered]
  exact (matched.erase.imp turn).insert holds

end Matched

end InstanceHost.Keyed
