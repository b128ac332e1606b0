/-
**JSON values.**

A value is null, a truth value, a number, a string, an array or an object. Objects hold their
members in the order of their keys, one member for each key; numbers are either integers that fit
into 64 bits, with or without sign, or binary64 numbers.

* `Json.members`: the members of an object, and none for every other value;
* `Json.Ordered`: in every object at every depth the keys increase strictly;
* `Json.depth`: how many containers are open at the deepest place;
* `Json.Integral`: every number at every depth is an integer;
* `Json.same_iff`: equality of values is decidable.
-/

import InstanceHost.Binary64.Basic
import InstanceHost.Keyed

namespace InstanceHost

/-- The integers that a numeral keeps exact: those that fit into 64 bits, with or without sign. -/
def integerRange (value : Int) : Prop :=
  -9223372036854775808 ≤ value ∧ value < 18446744073709551616

/-- The range is decidable. -/
instance (value : Int) : Decidable (integerRange value) :=
  inferInstanceAs (Decidable (_ ∧ _))

/-- A JSON number. -/
inductive JsonNumber where
  /-- An integer that fits into 64 bits, with or without sign. -/
  | integer (value : Int) (inRange : integerRange value)
  /-- Every other number. -/
  | binary (value : Binary64)
deriving DecidableEq

/-- A JSON value. -/
inductive Json where
  | null
  | bool (value : Bool)
  | number (value : JsonNumber)
  | string (value : String)
  | array (items : List Json)
  | object (entries : List (String × Json))

namespace Json

/-- The value that stands for a missing one. -/
instance : Inhabited Json := ⟨.null⟩

/-- The members of an object; every other value has none. -/
def members : Json → Keyed Json
  | .object entries => entries
  | _ => []

/-- The members of an object are its entries. -/
@[simp]
theorem members_object (entries : Keyed Json) : (Json.object entries).members = entries := rfl

/-- Whether a value is an object. -/
def isObject : Json → Bool
  | .object _ => true
  | _ => false

/-- The name of a value's kind. -/
def kindName : Json → String
  | .null => "null"
  | .bool _ => "bool"
  | .number _ => "number"
  | .string _ => "string"
  | .array _ => "array"
  | .object _ => "object"

/-! ### Shape -/

mutual

/-- In every object the keys increase strictly. -/
def Ordered : Json → Prop
  | .array items => ItemsOrdered items
  | .object entries => Keyed.Ascending entries ∧ EntriesOrdered entries
  | _ => True

/-- Every item is ordered. -/
def ItemsOrdered : List Json → Prop
  | [] => True
  | item :: rest => Ordered item ∧ ItemsOrdered rest

/-- The value of every entry is ordered. -/
def EntriesOrdered : List (String × Json) → Prop
  | [] => True
  | (_, value) :: rest => Ordered value ∧ EntriesOrdered rest

end

mutual

/-- Every number is an integer. -/
def Integral : Json → Prop
  | .number (.binary _) => False
  | .array items => ItemsIntegral items
  | .object entries => EntriesIntegral entries
  | _ => True

/-- Every number in the items is an integer. -/
def ItemsIntegral : List Json → Prop
  | [] => True
  | item :: rest => Integral item ∧ ItemsIntegral rest

/-- Every number in the entries is an integer. -/
def EntriesIntegral : List (String × Json) → Prop
  | [] => True
  | (_, value) :: rest => Integral value ∧ EntriesIntegral rest

end

mutual

/-- The number of containers around the deepest place, the value's own included. -/
def depth : Json → Nat
  | .array items => itemsDepth items + 1
  | .object entries => entriesDepth entries + 1
  | _ => 0

/-- The depth of the deepest item. -/
def itemsDepth : List Json → Nat
  | [] => 0
  | item :: rest => max (depth item) (itemsDepth rest)

/-- The depth of the deepest entry. -/
def entriesDepth : List (String × Json) → Nat
  | [] => 0
  | (_, value) :: rest => max (depth value) (entriesDepth rest)

end

/-! ### Equality -/

mutual

/-- Whether two values are the same. -/
def same : Json → Json → Bool
  | .null, .null => true
  | .bool first, .bool second => decide (first = second)
  | .number first, .number second => decide (first = second)
  | .string first, .string second => decide (first = second)
  | .array first, .array second => sameItems first second
  | .object first, .object second => sameEntries first second
  | _, _ => false

/-- Whether two sequences of values are the same. -/
def sameItems : List Json → List Json → Bool
  | [], [] => true
  | first :: firstRest, second :: secondRest => same first second && sameItems firstRest secondRest
  | _, _ => false

/-- Whether two sequences of entries are the same. -/
def sameEntries : List (String × Json) → List (String × Json) → Bool
  | [], [] => true
  | (firstKey, first) :: firstRest, (secondKey, second) :: secondRest =>
    decide (firstKey = secondKey) && same first second && sameEntries firstRest secondRest
  | _, _ => false

end

mutual

/-- **The test is equality.** -/
theorem same_iff : ∀ first second : Json, same first second = true ↔ first = second
  | .null, second => by cases second <;> simp [same]
  | .bool _, second => by cases second <;> simp [same]
  | .number _, second => by cases second <;> simp [same]
  | .string _, second => by cases second <;> simp [same]
  | .array items, second => by cases second <;> simp [same, sameItems_iff items]
  | .object entries, second => by cases second <;> simp [same, sameEntries_iff entries]

/-- The test on sequences of values is equality. -/
theorem sameItems_iff : ∀ first second : List Json, sameItems first second = true ↔ first = second
  | [], second => by cases second <;> simp [sameItems]
  | item :: rest, second => by
    cases second <;> simp [sameItems, same_iff item, sameItems_iff rest]

/-- The test on sequences of entries is equality. -/
theorem sameEntries_iff : ∀ first second : List (String × Json),
    sameEntries first second = true ↔ first = second
  | [], second => by cases second <;> simp [sameEntries]
  | (key, value) :: rest, second => by
    rcases second with _ | ⟨⟨otherKey, otherValue⟩, otherRest⟩
    · simp [sameEntries]
    · simp [sameEntries, same_iff value, sameEntries_iff rest, and_assoc]

end

/-- Equality of values is decidable. -/
instance : DecidableEq Json := fun first second =>
  decidable_of_iff (same first second = true) (same_iff first second)

end Json

end InstanceHost
