/-
**Reading and writing at a path of keys.**

A path is a list of keys. Reading follows the keys through objects and ends where one is missing or
its parent is no object. Writing creates what is missing and replaces every parent that is no
object.

* `get?_append`: reading at a longer path is reading twice;
* `get?_put`: a written value is read back, and so is everything inside it;
* `get?_put_of_ne`: a path that parts from the written one is as it was.
-/

import InstanceHost.Json.Basic

namespace InstanceHost.Json

/-- The value at a path. -/
def get? : Json → List String → Option Json
  | value, [] => some value
  | value, key :: rest =>
    match value.members.lookup key with
    | none => none
    | some child => child.get? rest

/-- The value with another value written at a path. -/
def put (replacement : Json) : List String → Json → Json
  | [], _ => replacement
  | key :: rest, value =>
    let child := (value.members.lookup key).getD .null
    .object (value.members.insert key (put replacement rest child))

/-- The members of an object with a value written at a path below it (`insert_path`). -/
def putMember (replacement : Json) (path : List String) (entries : Keyed Json) : Keyed Json :=
  (put replacement path (.object entries)).members

/-! ### Reading -/

/-- Nothing is read below a value that has no members. -/
theorem get?_cons_of_members_nil {value : Json} (none : value.members = []) (key : String)
    (rest : List String) : value.get? (key :: rest) = Option.none := by
  simp [get?, none, Keyed.lookup]

/-- **Reading at a longer path is reading twice.** -/
theorem get?_append (value : Json) (first second : List String) :
    value.get? (first ++ second) = (value.get? first).bind (·.get? second) := by
  induction first generalizing value with
  | nil => simp [get?]
  | cons key rest inductive_step =>
    simp only [List.cons_append, get?]
    cases value.members.lookup key with
    | none => rfl
    | some child => exact inductive_step child

/-! ### Reading after writing -/

/-- **A written value is read back, with everything inside it.** -/
theorem get?_put (replacement value : Json) (path below : List String) :
    (put replacement path value).get? (path ++ below) = replacement.get? below := by
  induction path generalizing value with
  | nil => rfl
  | cons key rest inductive_step =>
    simp only [List.cons_append, put, get?, members_object, Keyed.lookup_insert_self]
    exact inductive_step _

/-- **A path that parts from the written one is as it was.** -/
theorem get?_put_of_ne (replacement value : Json) (shared : List String) {written read : String}
    (different : read ≠ written) (writtenBelow readBelow : List String) :
    (put replacement (shared ++ written :: writtenBelow) value).get?
        (shared ++ read :: readBelow) = value.get? (shared ++ read :: readBelow) := by
  induction shared generalizing value with
  | nil =>
    simp only [List.nil_append, put, get?, members_object]
    rw [Keyed.lookup_insert_of_ne different]
  | cons key rest inductive_step =>
    simp only [List.cons_append, put, get?, members_object, Keyed.lookup_insert_self]
    rw [inductive_step]
    cases found : Keyed.lookup key value.members with
    | none =>
      cases rest with
      | nil => exact get?_cons_of_members_nil rfl read readBelow
      | cons next others => exact get?_cons_of_members_nil rfl next _
    | some child => rfl

end InstanceHost.Json
