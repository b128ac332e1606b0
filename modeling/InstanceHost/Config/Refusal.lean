/-
**Why an instance refuses its configuration.**

An instance is built from configuration text and initializes itself afterwards. Both may be refused:
the text may be malformed, or the module that builds the instance reports a reason of its own.

* `Refusal`: the reasons;
* `Refusal.message`: their wording, in which a reported reason stands as it is.
-/

import InstanceHost.Json.Failure

namespace InstanceHost

/-- Why an instance is not built, or not initialized (`ConstructionError`). -/
inductive Refusal where
  /-- The text starts like a JSON object and is none. -/
  | invalidJson (text : String) (fault : Json.Fault)
  | missingAssignment (option : String)
  | emptySegment (option : String)
  | reported (message : String)
deriving DecidableEq, Repr

/-- The wording of a refusal. -/
def Refusal.message : Refusal → String
  | .invalidJson text fault => "config text is not valid JSON: " ++ fault.message text.toList
  | .missingAssignment option => "failed to parse option `" ++ option ++ "`: expected path=value"
  | .emptySegment option =>
    "failed to parse option `" ++ option ++ "`: path has an empty segment"
  | .reported message => message

end InstanceHost
