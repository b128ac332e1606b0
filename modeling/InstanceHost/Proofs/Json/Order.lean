/-
**Whatever is read is in order and within the limit.**

A text may give the members of an object in any order and a key twice. Each member is written to its
place among those before it, so the value that comes of the text has its keys in order, and it is no
deeper than the budget of containers that the reader was given.

* `Yields`: what holds of every value that a reader answers;
* `forall_mem_of_readItems`, `ordered_of_readEntries`: what holds of the parts of a container;
* `yields_readValue`: a reader of values, by induction on the budget;
* `parse_text`: what was read is read again from its compact form.
-/

import InstanceHost.Proofs.Json.RoundTrip

namespace InstanceHost

namespace Keyed

variable {α : Type} {name : String} {value : α} {entries : Keyed α} {entry : String × α}

theorem eq_or_mem_of_mem_insert (member : entry ∈ insert name value entries) :
    entry = (name, value) ∨ entry ∈ entries := by
  have among := (insert_perm name value entries).mem_iff.mp member
  rcases List.mem_cons.mp among with same | kept
  · exact Or.inl same
  · exact Or.inr ((erase_sublist name entries).subset kept)

end Keyed

namespace Json

variable {element : Element} {part : Json → Prop} {budget : Nat}

/-- **What holds of every value that a reader answers.** -/
def Yields (element : Element) (part : Json → Prop) : Prop :=
  ∀ characters value rest, element characters = .ok (value, rest) → part value

theorem exists_of_bind_eq_ok {ε α β : Type} {first : Except ε α} {next : α → Except ε β}
    {result : β} (reading : (first >>= next) = .ok result) :
    ∃ value, first = .ok value ∧ next value = .ok result := by
  cases first with
  | error fault => cases reading
  | ok value => exact ⟨value, rfl, reading⟩

/-! ### Parts of containers -/

/-- Every item of an array that is read. -/
theorem forall_mem_of_readItems (yields : Yields element part) {bound : Nat}
    {characters rest : List Char} {items : List Json}
    (reading : readItems element bound characters = .ok (items, rest)) :
    ∀ item ∈ items, part item := by
  induction bound generalizing characters items with
  | zero => cases reading
  | succ bound inductive_step =>
    rw [readItems] at reading
    obtain ⟨⟨item, behind⟩, first, reading⟩ := exists_of_bind_eq_ok reading
    have holds := yields _ _ _ first
    simp only at reading
    split at reading
    · cases reading
    · cases reading
      exact List.forall_mem_singleton.mpr holds
    · split at reading
      · cases reading
      · cases reading
      · obtain ⟨⟨others, last⟩, further, ending⟩ := exists_of_bind_eq_ok reading
        cases ending
        exact List.forall_mem_cons.mpr ⟨holds, inductive_step further⟩
    · cases reading

theorem of_readMember (yields : Yields element part) {characters rest : List Char}
    {entry : String × Json} (reading : readMember element characters = .ok (entry, rest)) :
    part entry.2 := by
  rw [readMember] at reading
  obtain ⟨⟨key, behind⟩, _, reading⟩ := exists_of_bind_eq_ok reading
  simp only at reading
  split at reading
  · cases reading
  · obtain ⟨⟨value, last⟩, found, ending⟩ := exists_of_bind_eq_ok reading
    cases ending
    exact yields _ _ _ found
  · cases reading

/-- **The members of an object that is read** are in order. -/
theorem ordered_of_readEntries (yields : Yields element part) {bound : Nat}
    {earlier entries : Keyed Json} {characters rest : List Char}
    (ascending : earlier.Ascending) (holds : ∀ entry ∈ earlier, part entry.2)
    (reading : readEntries element bound earlier characters = .ok (entries, rest)) :
    entries.Ascending ∧ ∀ entry ∈ entries, part entry.2 := by
  induction bound generalizing earlier characters with
  | zero => cases reading
  | succ bound inductive_step =>
    rw [readEntries] at reading
    obtain ⟨⟨⟨key, value⟩, behind⟩, first, reading⟩ := exists_of_bind_eq_ok reading
    have written : (earlier.insert key value).Ascending := Keyed.ascending_insert ascending
    have all : ∀ entry ∈ earlier.insert key value, part entry.2 := by
      intro entry member
      rcases Keyed.eq_or_mem_of_mem_insert member with rfl | before
      · exact of_readMember yields first
      · exact holds entry before
    simp only at reading
    split at reading
    · cases reading
    · cases reading
      exact ⟨written, all⟩
    · split at reading
      · cases reading
      · exact inductive_step written all reading
      · cases reading
      · cases reading
    · cases reading

/-! ### Values -/

theorem itemsOrdered_of_forall_mem {items : List Json} (all : ∀ item ∈ items, item.Ordered) :
    ItemsOrdered items := by
  induction items with
  | nil => trivial
  | cons item rest inductive_step =>
    obtain ⟨first, others⟩ := List.forall_mem_cons.mp all
    exact ⟨first, inductive_step others⟩

theorem entriesOrdered_of_forall_mem {entries : List (String × Json)}
    (all : ∀ entry ∈ entries, entry.2.Ordered) : EntriesOrdered entries := by
  induction entries with
  | nil => trivial
  | cons entry rest inductive_step =>
    obtain ⟨first, others⟩ := List.forall_mem_cons.mp all
    exact ⟨first, inductive_step others⟩

/-- In order, and no deeper than a budget of containers. -/
def Fits (budget : Nat) (value : Json) : Prop :=
  value.Ordered ∧ value.depth ≤ budget

theorem fits_of_readArray (yields : Yields element (Fits budget)) {characters rest : List Char}
    {value : Json} (reading : readArray element characters = .ok (value, rest)) :
    Fits (budget + 1) value := by
  unfold readArray at reading
  split at reading
  · cases reading
  · cases reading
    exact ⟨trivial, Nat.le_add_left 1 budget⟩
  · obtain ⟨⟨items, last⟩, found, ending⟩ := exists_of_bind_eq_ok reading
    cases ending
    have all := forall_mem_of_readItems yields found
    refine ⟨itemsOrdered_of_forall_mem fun item member => (all item member).1, ?_⟩
    exact Nat.succ_le_succ (itemsDepth_le_iff.mpr fun item member => (all item member).2)

theorem fits_of_readObject (yields : Yields element (Fits budget)) {characters rest : List Char}
    {value : Json} (reading : readObject element characters = .ok (value, rest)) :
    Fits (budget + 1) value := by
  unfold readObject at reading
  split at reading
  · cases reading
  · cases reading
    exact ⟨⟨List.Pairwise.nil, trivial⟩, Nat.le_add_left 1 budget⟩
  · obtain ⟨⟨entries, last⟩, found, ending⟩ := exists_of_bind_eq_ok reading
    cases ending
    have empty : Keyed.Ascending ([] : Keyed Json) := List.Pairwise.nil
    obtain ⟨ascending, all⟩ :=
      ordered_of_readEntries yields empty (List.forall_mem_nil _) found
    refine ⟨⟨ascending, entriesOrdered_of_forall_mem fun entry member => (all entry member).1⟩, ?_⟩
    exact Nat.succ_le_succ (entriesDepth_le_iff.mpr fun entry member => (all entry member).2)
  · cases reading

/-- A value that is no container is in order whatever it is. -/
theorem fits_of_readScalar {character : Char} {behind rest : List Char} {value : Json}
    (reading : readScalar character behind = .ok (value, rest)) : Fits budget value := by
  unfold readScalar at reading
  repeat' split at reading
  all_goals first
    | cases reading
    | obtain ⟨_, _, ending⟩ := exists_of_bind_eq_ok reading
      cases ending
      exact ⟨trivial, Nat.zero_le budget⟩

/-- **Whatever is read is in order**, and no deeper than the budget of the reader. -/
theorem yields_readValue (budget : Nat) : Yields (readValue budget) (Fits budget) := by
  induction budget with
  | zero =>
    intro characters value rest reading
    rw [readValue] at reading
    split at reading
    · cases reading
    · split at reading
      · cases reading
      · split at reading
        · cases reading
        · exact fits_of_readScalar reading
  | succ budget inductive_step =>
    intro characters value rest reading
    rw [readValue] at reading
    split at reading
    · cases reading
    · split at reading
      · exact fits_of_readArray inductive_step reading
      · split at reading
        · exact fits_of_readObject inductive_step reading
        · exact fits_of_readScalar reading

/-! ### Whole texts -/

theorem fits_of_readWhole {characters : List Char} {value : Json}
    (reading : readWhole budget characters = .ok value) : Fits budget value := by
  rw [readWhole] at reading
  obtain ⟨⟨found, rest⟩, first, reading⟩ := exists_of_bind_eq_ok reading
  simp only at reading
  split at reading
  · cases reading
    exact yields_readValue budget _ _ _ first
  · cases reading

/-- **What was read is read again** from its compact form, if its numbers are integers: the order of
the members and repeated keys are lost, the value is not. -/
theorem parse_text {text : String} {value : Json} (reading : parse text = .ok value)
    (integral : value.Integral) : parse value.text = .ok value := by
  obtain ⟨ordered, within⟩ : Fits containerLimit value := fits_of_readWhole reading
  rw [parse, Json.text, String.toList_ofList]
  exact readWhole_compact ordered integral within

end Json

end InstanceHost
