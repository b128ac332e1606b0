/-
**Registries of extensions.**

A registry holds extensions by name, in the order of the names. Names are given with any blanks
around them, which do not count.

* `freeName`: the name under which an extension can be inserted, if it can;
* `insert`, `remove`, `find?`, `has`: the operations, all on the trimmed name;
* `ExtensionFailure`: why an operation on extensions fails.
-/

import InstanceHost.Extension.Name
import InstanceHost.Keyed

namespace InstanceHost

/-- Why an operation on extensions fails (`ExtensionError`). -/
inductive ExtensionFailure where
  | invalidName (name : String)
  | duplicateName (name : String)
  | notFound (name : String)
  /-- The extension's own code failed. -/
  | hook (name message : String)
deriving DecidableEq, Repr

/-- The wording of a failure. -/
def ExtensionFailure.message : ExtensionFailure → String
  | .invalidName name => "extension name is invalid: " ++ name
  | .duplicateName name => "extension already registered: " ++ name
  | .notFound name => "extension not found: " ++ name
  | .hook name message => "extension `" ++ name ++ "` lifecycle hook failed: " ++ message

namespace Extension.Registry

open Text

variable {α : Type}

/-- The name under which an extension can be inserted (`check_insertable`). -/
def freeName (registry : Keyed α) (name : String) : Except ExtensionFailure String :=
  let normal := trimmed name
  if isName normal.toList = false then .error (.invalidName name)
  else if registry.contains normal then .error (.duplicateName normal)
  else .ok normal

/-- A registry with one more extension (`ExtensionRegistry.insert`). -/
def insert (registry : Keyed α) (name : String) (extension : α) :
    Except ExtensionFailure (Keyed α) := do
  let normal ← freeName registry name
  return registry.insert normal extension

/-- The extension under a name (`ExtensionRegistry.get`). -/
def find? (registry : Keyed α) (name : String) : Option α :=
  registry.lookup (trimmed name)

/-- Whether a name is taken (`ExtensionRegistry.contains`). -/
def has (registry : Keyed α) (name : String) : Bool :=
  registry.contains (trimmed name)

/-- A registry without a name (`ExtensionRegistry.remove`). -/
def remove (registry : Keyed α) (name : String) : Keyed α :=
  registry.erase (trimmed name)

/-- An insertion that succeeds was allowed, and writes the trimmed name. -/
theorem insert_eq_ok_iff {registry extended : Keyed α} {name : String} {extension : α} :
    insert registry name extension = .ok extended ↔
      freeName registry name = .ok (trimmed name) ∧
        extended = registry.insert (trimmed name) extension := by
  unfold insert freeName
  simp only
  split
  · simp [bind, Except.bind]
  · split
    · simp [bind, Except.bind]
    · simp [bind, Except.bind, pure, Except.pure, eq_comm]

end Extension.Registry

end InstanceHost
