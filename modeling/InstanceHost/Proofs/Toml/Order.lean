/-
**What a document stands for is in order.**

Tables hold their entries by key, and the object that a table stands for has the same keys. So the
members of what is read from a document are in order at every depth, whatever the order of its
lines: every line writes entries to their places.

* `toMembers_insert`, `lookup_toMembers`: a table and the object that it stands for;
* `Table.Ordered`: this object is in order;
* `Table.ordered_of_change`: changes along a path keep this;
* `ordered_of_readValue`: values, by induction on the budget;
* `ordered_of_parse`: documents.
-/

import InstanceHost.Proofs.Json.Heredity
import InstanceHost.Toml.Reader

namespace InstanceHost.Toml

open Json (hereditary_ordered)

/-! ### Tables as objects -/

theorem toMembers_insert (key : String) (slot : Slot) (entries : Table) :
    toMembers (entries.insert key slot) = (toMembers entries).insert key slot.toJson := by
  induction entries with
  | nil => rfl
  | cons entry rest inductive_step =>
    obtain ⟨name, old⟩ := entry
    simp only [Keyed.insert, toMembers]
    split
    · rfl
    · split
      · rfl
      · rw [toMembers, inductive_step]

theorem lookup_toMembers (key : String) (entries : Table) :
    (toMembers entries).lookup key = (entries.lookup key).map Slot.toJson := by
  induction entries with
  | nil => rfl
  | cons entry rest inductive_step =>
    obtain ⟨name, old⟩ := entry
    simp only [Keyed.lookup, toMembers]
    split
    · rfl
    · split
      · rfl
      · exact inductive_step

/-- The object that a table stands for is in order. -/
def Table.Ordered (table : Table) : Prop :=
  (Json.object table.toJson).Ordered

namespace Table

theorem ordered_nil : Ordered [] :=
  hereditary_ordered.empty

theorem Ordered.insert {entries : Table} {slot : Slot} (ordered : entries.Ordered) (key : String)
    (new : slot.toJson.Ordered) : Ordered (entries.insert key slot) := by
  rw [Ordered, toJson, toMembers_insert]
  exact hereditary_ordered.insert _ _ _ ordered new

theorem Ordered.lookup {entries : Table} {key : String} {slot : Slot} (ordered : entries.Ordered)
    (found : entries.lookup key = some slot) : slot.toJson.Ordered := by
  have stands : entries.toJson.lookup key = some slot.toJson := by
    rw [toJson, lookup_toMembers, found]
    rfl
  exact hereditary_ordered.lookup ordered stands

end Table

theorem ordered_listed {earlier : List Json} {last : Table} :
    (Slot.listed earlier last).toJson.Ordered ↔
      (∀ item ∈ earlier, item.Ordered) ∧ last.Ordered := by
  constructor
  · intro ordered
    have all := List.forall_mem_append.mp (Json.ordered_of_mem ordered)
    exact ⟨all.1, all.2 _ List.mem_cons_self⟩
  · rintro ⟨before, open_last⟩
    refine Json.itemsOrdered_of_forall_mem ?_
    exact List.forall_mem_append.mpr ⟨before, List.forall_mem_singleton.mpr open_last⟩

namespace Table

variable {way : Origin} {change : Place → Option Table}

/-- **A change at the end of a path keeps the order**, if it does so there. -/
theorem ordered_of_change
    (keeps : ∀ place table, place.entries.Ordered → change place = some table → table.Ordered)
    {path : List String} {place : Place} {table : Table} (ordered : place.entries.Ordered)
    (changed : change? way change path place = some table) : table.Ordered := by
  induction path generalizing place table with
  | nil => exact keeps place table ordered changed
  | cons key rest inductive_step =>
    rw [change?] at changed
    split at changed
    · obtain ⟨entries, further, ending⟩ := Option.bind_eq_some_iff.mp changed
      cases ending
      exact ordered.insert key (inductive_step ordered_nil further)
    · next origin entries found =>
      obtain ⟨led, _, changed⟩ := Option.bind_eq_some_iff.mp changed
      obtain ⟨later, further, ending⟩ := Option.bind_eq_some_iff.mp changed
      cases ending
      have under : Ordered entries := ordered.lookup found
      exact ordered.insert key (inductive_step under further)
    · next earlier last found =>
      obtain ⟨later, further, ending⟩ := Option.bind_eq_some_iff.mp changed
      cases ending
      obtain ⟨before, open_last⟩ := ordered_listed.mp (ordered.lookup found)
      exact ordered.insert key (ordered_listed.mpr ⟨before, inductive_step open_last further⟩)
    · cases changed

theorem ordered_of_headTable {key : String} {place : Place} {table : Table}
    (ordered : place.entries.Ordered) (headed : headTable? key place = some table) :
    table.Ordered := by
  unfold headTable? at headed
  split at headed
  · cases headed
    exact ordered.insert key ordered_nil
  · next entries found =>
    cases headed
    have under : Ordered entries := ordered.lookup found
    exact ordered.insert key under
  · cases headed

theorem ordered_of_headListed {key : String} {place : Place} {table : Table}
    (ordered : place.entries.Ordered) (headed : headListed? key place = some table) :
    table.Ordered := by
  unfold headListed? at headed
  split at headed
  · cases headed
    exact ordered.insert key (ordered_listed.mpr ⟨List.forall_mem_nil _, ordered_nil⟩)
  · next earlier last found =>
    cases headed
    obtain ⟨before, open_last⟩ := ordered_listed.mp (ordered.lookup found)
    refine ordered.insert key (ordered_listed.mpr ⟨?_, ordered_nil⟩)
    exact List.forall_mem_append.mpr ⟨before, List.forall_mem_singleton.mpr open_last⟩
  · cases headed

theorem ordered_of_addDotted {path : List String} {key : String} {value : Json} {place : Place}
    {table : Table} (new : value.Ordered) (ordered : place.entries.Ordered)
    (added : addDotted? path key value place = some table) : table.Ordered := by
  refine ordered_of_change (fun last later there put => ?_) ordered added
  unfold addValue? at put
  split at put
  · cases put
  · split at put
    · cases put
    · cases put
      exact there.insert key new

variable {root table : Table} (ordered : root.Ordered)

include ordered

theorem ordered_of_openTable {path : List String} {key : String}
    (opened : root.openTable? path key = some table) : table.Ordered :=
  ordered_of_change (fun _ _ there headed => ordered_of_headTable there headed) ordered opened

theorem ordered_of_openListed {path : List String} {key : String}
    (opened : root.openListed? path key = some table) : table.Ordered :=
  ordered_of_change (fun _ _ there headed => ordered_of_headListed there headed) ordered opened

theorem ordered_of_define {heading path : List String} {key : String} {value : Json}
    (new : value.Ordered) (defined : root.define? heading path key value = some table) :
    table.Ordered :=
  ordered_of_change (fun _ _ there added => ordered_of_addDotted new there added) ordered defined

end Table

/-! ### Values -/

theorem ordered_of_readInteger {characters : List Char} {value : Json}
    (reading : readInteger? characters = some value) : value.Ordered := by
  have number : ∀ whole, integer? whole = some value → value.Ordered := by
    intro whole made
    unfold integer? at made
    split at made
    · cases made
      trivial
    · cases made
  have based : ∀ base digits, readBased? base digits = some value → value.Ordered := by
    intro base digits made
    obtain ⟨_, _, made⟩ := Option.bind_eq_some_iff.mp made
    exact number _ made
  unfold readInteger? at reading
  split at reading
  · exact based 16 _ reading
  · exact based 8 _ reading
  · exact based 2 _ reading
  · obtain ⟨_, _, made⟩ := Option.bind_eq_some_iff.mp reading
    exact number _ made

theorem ordered_of_readFloat {characters : List Char} {value : Json}
    (reading : readFloat? characters = some value) : value.Ordered := by
  obtain ⟨⟨whole, fraction, pointed⟩, _, reading⟩ := Option.bind_eq_some_iff.mp reading
  obtain ⟨power, _, reading⟩ := Option.bind_eq_some_iff.mp reading
  obtain ⟨_, reading⟩ := Option.ite_none_left_eq_some.mp reading
  obtain ⟨number, _, ending⟩ := Option.bind_eq_some_iff.mp reading
  cases ending
  trivial

theorem ordered_of_readScalar {characters : List Char} {value : Json}
    (reading : readScalar? characters = some value) : value.Ordered := by
  unfold readScalar? at reading
  split at reading
  · cases reading
    trivial
  · split at reading
    · cases reading
      trivial
    · split at reading
      · cases reading
        trivial
      · split at reading
        · cases reading
          exact ⟨List.pairwise_singleton _ _, trivial, trivial⟩
        · rcases Option.or_eq_some_iff.mp reading with whole | ⟨_, float⟩
          · exact ordered_of_readInteger whole
          · exact ordered_of_readFloat float

theorem ordered_of_asString {read : Option (List Char × List Char)} {rest : List Char}
    {value : Json} (reading : asString read = some (value, rest)) : value.Ordered := by
  obtain ⟨content, _, ending⟩ := Option.map_eq_some_iff.mp reading
  cases ending
  trivial

theorem ordered_of_readSimple {characters rest : List Char} {value : Json}
    (reading : readSimple? characters = some (value, rest)) : value.Ordered := by
  unfold readSimple? at reading
  split at reading
  · exact ordered_of_asString reading
  · exact ordered_of_asString reading
  · exact ordered_of_asString reading
  · exact ordered_of_asString reading
  · obtain ⟨found, scalar, ending⟩ := Option.bind_eq_some_iff.mp reading
    cases ending
    exact ordered_of_readScalar scalar

section

variable {element : List Char → Option (Json × List Char)}
  (yields : ∀ characters value rest, element characters = some (value, rest) → value.Ordered)

include yields

theorem ordered_of_readItems {bound : Nat} {characters rest : List Char} {items : List Json}
    (reading : readItems? element bound characters = some (items, rest)) :
    ∀ item ∈ items, item.Ordered := by
  induction bound generalizing characters items with
  | zero => cases reading
  | succ bound inductive_step =>
    rw [readItems?] at reading
    obtain ⟨skipped, _, reading⟩ := Option.bind_eq_some_iff.mp reading
    split at reading
    · cases reading
      exact List.forall_mem_nil _
    · obtain ⟨⟨item, behind⟩, first, reading⟩ := Option.bind_eq_some_iff.mp reading
      obtain ⟨further, _, reading⟩ := Option.bind_eq_some_iff.mp reading
      have holds := yields _ _ _ first
      split at reading
      · cases reading
        exact List.forall_mem_singleton.mpr holds
      · obtain ⟨⟨others, last⟩, onward, ending⟩ := Option.bind_eq_some_iff.mp reading
        cases ending
        exact List.forall_mem_cons.mpr ⟨holds, inductive_step onward⟩
      · cases reading

theorem ordered_of_readEntries {bound : Nat} {earlier entries : Table}
    {characters rest : List Char} (ordered : earlier.Ordered)
    (reading : readEntries? element bound earlier characters = some (entries, rest)) :
    entries.Ordered := by
  induction bound generalizing characters earlier with
  | zero => cases reading
  | succ bound inductive_step =>
    rw [readEntries?] at reading
    obtain ⟨skipped, _, reading⟩ := Option.bind_eq_some_iff.mp reading
    split at reading
    · cases reading
      exact ordered
    · obtain ⟨⟨⟨path, key⟩, behind⟩, _, reading⟩ := Option.bind_eq_some_iff.mp reading
      obtain ⟨spaced, _, reading⟩ := Option.bind_eq_some_iff.mp reading
      obtain ⟨right, _, reading⟩ := Option.bind_eq_some_iff.mp reading
      obtain ⟨left, _, reading⟩ := Option.bind_eq_some_iff.mp reading
      obtain ⟨⟨value, after⟩, found, reading⟩ := Option.bind_eq_some_iff.mp reading
      obtain ⟨longer, added, reading⟩ := Option.bind_eq_some_iff.mp reading
      obtain ⟨last, _, reading⟩ := Option.bind_eq_some_iff.mp reading
      have written : longer.Ordered :=
        Table.ordered_of_addDotted (yields _ _ _ found) ordered added
      split at reading
      · cases reading
        exact written
      · exact inductive_step written reading
      · cases reading

end

/-- **Every value that is read is in order.** -/
theorem ordered_of_readValue {budget : Nat} {characters rest : List Char} {value : Json}
    (reading : readValue? budget characters = some (value, rest)) : value.Ordered := by
  induction budget generalizing characters rest value with
  | zero =>
    unfold readValue? at reading
    split at reading
    · cases reading
    · cases reading
    · exact ordered_of_readSimple reading
  | succ budget inductive_step =>
    have yields : ∀ characters value rest, readValue? budget characters = some (value, rest) →
        value.Ordered := fun _ _ _ => inductive_step
    unfold readValue? at reading
    split at reading
    · obtain ⟨⟨items, behind⟩, found, ending⟩ := Option.bind_eq_some_iff.mp reading
      cases ending
      exact Json.itemsOrdered_of_forall_mem (ordered_of_readItems yields found)
    · obtain ⟨⟨entries, behind⟩, found, ending⟩ := Option.bind_eq_some_iff.mp reading
      cases ending
      exact ordered_of_readEntries yields Table.ordered_nil found
    · exact ordered_of_readSimple reading

/-! ### Documents -/

theorem ordered_of_readHeading {draft next : Draft} {listed : Bool} {characters rest : List Char}
    (ordered : draft.root.Ordered)
    (reading : readHeading? draft listed characters = some (next, rest)) :
    next.root.Ordered := by
  obtain ⟨⟨⟨path, key⟩, behind⟩, _, reading⟩ := Option.bind_eq_some_iff.mp reading
  obtain ⟨closed, _, reading⟩ := Option.bind_eq_some_iff.mp reading
  cases listed with
  | false =>
    obtain ⟨last, _, reading⟩ := Option.bind_eq_some_iff.mp reading
    obtain ⟨root, opened, ending⟩ := Option.bind_eq_some_iff.mp reading
    cases ending
    exact Table.ordered_of_openTable ordered opened
  | true =>
    obtain ⟨doubled, _, reading⟩ := Option.bind_eq_some_iff.mp reading
    obtain ⟨last, _, reading⟩ := Option.bind_eq_some_iff.mp reading
    obtain ⟨root, opened, ending⟩ := Option.bind_eq_some_iff.mp reading
    cases ending
    exact Table.ordered_of_openListed ordered opened

theorem ordered_of_readLine {draft next : Draft} {characters rest : List Char}
    (ordered : draft.root.Ordered) (reading : readLine? draft characters = some (next, rest)) :
    next.root.Ordered := by
  unfold readLine? at reading
  split at reading
  · exact ordered_of_readHeading ordered reading
  · exact ordered_of_readHeading ordered reading
  · obtain ⟨⟨⟨path, key⟩, behind⟩, _, reading⟩ := Option.bind_eq_some_iff.mp reading
    obtain ⟨right, _, reading⟩ := Option.bind_eq_some_iff.mp reading
    obtain ⟨⟨value, after⟩, found, reading⟩ := Option.bind_eq_some_iff.mp reading
    obtain ⟨last, _, reading⟩ := Option.bind_eq_some_iff.mp reading
    obtain ⟨root, defined, ending⟩ := Option.bind_eq_some_iff.mp reading
    cases ending
    exact Table.ordered_of_define ordered (ordered_of_readValue found) defined

theorem ordered_of_readLines {bound : Nat} {draft last : Draft} {characters : List Char}
    (ordered : draft.root.Ordered) (reading : readLines? bound draft characters = some last) :
    last.root.Ordered := by
  induction bound generalizing draft characters with
  | zero =>
    unfold readLines? at reading
    split at reading
    · cases reading
      exact ordered
    · cases reading
  | succ bound inductive_step =>
    rw [readLines?] at reading
    obtain ⟨skipped, _, reading⟩ := Option.bind_eq_some_iff.mp reading
    split at reading
    · cases reading
      exact ordered
    · obtain ⟨⟨next, behind⟩, line, reading⟩ := Option.bind_eq_some_iff.mp reading
      exact inductive_step (ordered_of_readLine ordered line) reading

/-- **The members of a document are in order.** -/
theorem ordered_of_parse {text : String} {entries : Keyed Json}
    (reading : parse? text = some entries) : (Json.object entries).Ordered := by
  obtain ⟨draft, lines, ending⟩ := Option.bind_eq_some_iff.mp reading
  cases ending
  have empty : (Draft.mk [] []).root.Ordered := Table.ordered_nil
  exact ordered_of_readLines empty lines

end InstanceHost.Toml
