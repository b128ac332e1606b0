/-
**Tables while a TOML document is read.**

A table has its own heading, or other headings led through it, or dotted keys did. This decides how
it may be extended later. A heading may reopen a table only if nothing but other headings led
through it. A dotted key does not go through a table with a heading of its own, unless it is the
last one of a list; every other table on its way counts from then on as one of dotted keys, and only
such a table takes the value. Values, inline tables among them, are never extended.

* `Origin.ledThrough?`: what a table counts as once a heading or a dotted key leads through it;
* `Slot`: a value, a table, or a list of tables of which the last is open;
* `Table.openTable?`, `Table.openListed?`: a heading for a table, and one for the next table of a
  list;
* `Table.define?`: a value under a dotted key of the table at a path;
* `Table.toJson`: the object that a table stands for.
-/

import InstanceHost.Json.Basic

namespace InstanceHost.Toml

/-- What a table counts as. -/
inductive Origin where
  /-- It has its own heading. -/
  | headed
  /-- Other headings led through it. -/
  | passed
  /-- A dotted key led through it. -/
  | dotted
deriving DecidableEq, Repr

/-- What a table counts as once a way leads through it, which is that of headings or that of dotted
keys. A heading changes nothing. -/
def Origin.ledThrough? (origin way : Origin) : Option Origin :=
  if way ≠ .dotted then some origin
  else if origin = .headed then none
  else some .dotted

/-- What stands under a key. -/
inductive Slot where
  | value (value : Json)
  | table (origin : Origin) (entries : List (String × Slot))
  /-- A list of tables: those that are complete, and the entries of the last one. -/
  | listed (earlier : List Json) (last : List (String × Slot))

/-- The entries of a table by key. -/
abbrev Table := Keyed Slot

mutual

/-- The value that stands under a key. -/
def Slot.toJson : Slot → Json
  | .value value => value
  | .table _ entries => .object (toMembers entries)
  | .listed earlier last => .array (earlier ++ [.object (toMembers last)])

/-- The members that entries stand for. -/
def toMembers : List (String × Slot) → Keyed Json
  | [] => []
  | (key, slot) :: rest => (key, slot.toJson) :: toMembers rest

end

/-- A table with what it counts as. -/
structure Place where
  origin : Origin
  entries : Table

namespace Table

/-- Changes the table at the end of a path, on the way of headings or on that of dotted keys. Tables
that are missing on the way come into being. -/
def change? (way : Origin) (change : Place → Option Table) :
    (path : List String) → Place → Option Table
  | [], place => change place
  | key :: rest, place =>
    match place.entries.lookup key with
    | none => do
      let entries ← change? way change rest ⟨way, []⟩
      return place.entries.insert key (.table way entries)
    | some (.table origin entries) => do
      let origin ← origin.ledThrough? way
      let entries ← change? way change rest ⟨origin, entries⟩
      return place.entries.insert key (.table origin entries)
    | some (.listed earlier last) => do
      let last ← change? way change rest ⟨.headed, last⟩
      return place.entries.insert key (.listed earlier last)
    | some (.value _) => none

/-- Changes the table at the end of a path of headings. -/
def changeAt? (root : Table) (path : List String) (change : Place → Option Table) : Option Table :=
  change? .passed change path ⟨.headed, root⟩

/-- Gives the table under a key a heading of its own. -/
def headTable? (key : String) (place : Place) : Option Table :=
  match place.entries.lookup key with
  | none => some (place.entries.insert key (.table .headed []))
  | some (.table .passed entries) => some (place.entries.insert key (.table .headed entries))
  | _ => none

/-- Adds a table to the list under a key. -/
def headListed? (key : String) (place : Place) : Option Table :=
  match place.entries.lookup key with
  | none => some (place.entries.insert key (.listed [] []))
  | some (.listed earlier last) =>
    some (place.entries.insert key (.listed (earlier ++ [.object (toMembers last)]) []))
  | _ => none

/-- **A heading for the table under a key at the end of a path.** -/
def openTable? (root : Table) (path : List String) (key : String) : Option Table :=
  root.changeAt? path (headTable? key)

/-- **A heading for the next table of a list.** -/
def openListed? (root : Table) (path : List String) (key : String) : Option Table :=
  root.changeAt? path (headListed? key)

/-- Puts a value under a key that is free, in a table that is open to it. -/
def addValue? (dotted : Bool) (key : String) (value : Json) (place : Place) : Option Table :=
  if dotted ∧ place.origin ≠ .dotted then none
  else if place.entries.contains key then none
  else some (place.entries.insert key (.value value))

/-- Puts a value under a dotted key of a table. -/
def addDotted? (path : List String) (key : String) (value : Json) (place : Place) : Option Table :=
  change? .dotted (addValue? (path ≠ []) key value) path place

/-- **A value under a dotted key of the table at the end of a path.** -/
def define? (root : Table) (heading path : List String) (key : String) (value : Json) :
    Option Table :=
  root.changeAt? heading (addDotted? path key value)

/-- The members that a table stands for. -/
def toJson (table : Table) : Keyed Json :=
  toMembers table

end Table

end InstanceHost.Toml
