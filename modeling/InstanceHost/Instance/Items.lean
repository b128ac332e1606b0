/-
**The item tree.**

The items of an instance form an object. A key names an item by the keys on the way to it, with
slashes between them; empty ones do not count, so the empty key names the whole tree. Writing at a
key makes objects of all that stands on the way; the whole tree can only be replaced by an object.

* `keyPath`: the path that a key names;
* `Items.get?`, `Items.set?`: reading and writing at a key.
-/

import InstanceHost.Json.Path
import InstanceHost.Text.Pieces

namespace InstanceHost

/-- The keys on the way to an item (`key_segments`). -/
def keyPath (key : String) : List String :=
  ((Text.pieces '/' key.toList).filter (· ≠ [])).map String.ofList

/-- The items of an instance by their outermost keys. -/
abbrev Items := Keyed Json

namespace Items

/-- The item at a key (`MemoryInstance.get`). -/
def get? (items : Items) (key : String) : Option Json :=
  (Json.object items).get? (keyPath key)

/-- The items with a value written at a path; nothing, where the whole tree were to be replaced by
something else than an object. -/
def setPath? (items : Items) (path : List String) (value : Json) : Option Items :=
  match path, value with
  | [], .object entries => some entries
  | [], _ => none
  | path, value => some (Json.putMember value path items)

/-- The items with a value written at a key (`MemoryInstance.set`). -/
def set? (items : Items) (key : String) (value : Json) : Option Items :=
  items.setPath? (keyPath key) value

end Items

end InstanceHost
