/-
**Laying one object over another.**

The members of the upper object win; where both sides hold an object under a key, the two are laid
over each other in turn.

* `Json.overlay`: an upper value over a lower one that may be missing;
* `Json.overlayEntries`: the members of an upper object over those of a lower one.
-/

import InstanceHost.Json.Basic

namespace InstanceHost.Json

mutual

/-- An upper value over a lower one. -/
def overlay (lower : Option Json) : Json → Json
  | .object upper =>
    match lower with
    | some (.object entries) => .object (overlayEntries entries upper)
    | _ => .object upper
  | value => value

/-- The members of an upper object over those of a lower one (`merge_into`). -/
def overlayEntries (lower : Keyed Json) : List (String × Json) → Keyed Json
  | [] => lower
  | (key, value) :: rest =>
    overlayEntries (lower.insert key (overlay (lower.lookup key) value)) rest

end

end InstanceHost.Json
