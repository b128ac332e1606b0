/-
**Configuration text.**

Configuration text is blank, a JSON object, or a list of options. An option names a path of keys and
the value to put there: `store.path=/tmp; port=80`. The pieces between semicolons are options,
blank ones are skipped; the first equals sign of an option ends its path, whose segments stand
between full stops. Blanks around options, segments and values do not count. A value that reads as
JSON is that JSON value, any other one is a string.

* `Assignment`: a path with the value to put there;
* `readAssignment`: one option as an assignment, or the reason to refuse it;
* `readAssignments`: the options of a text from left to right, up to the first that is refused;
* `assign`: the entries with the values of assignments put in order;
* `readConfig`: the entries that a configuration text describes.
-/

import InstanceHost.Config.Refusal
import InstanceHost.Json.Path
import InstanceHost.Json.Reader
import InstanceHost.Text.Blank
import InstanceHost.Text.Pieces

namespace InstanceHost

/-- A value and the path of keys it is put at. -/
structure Assignment where
  path : List String
  value : Json

namespace Config

open Text

/-- The value of an option: what its text reads as, or the text itself (`parse_option_value`). -/
def optionValue (characters : List Char) : Json :=
  match Json.readWhole Json.containerLimit characters with
  | .ok value => value
  | .error _ => .string (String.ofList characters)

/-- The segments of a path, without the blanks around them. -/
def pathSegments (characters : List Char) : List (List Char) :=
  (pieces '.' (trim characters)).map trim

/-- One option, without blanks around it. -/
def readAssignment (option : List Char) : Except Refusal Assignment :=
  match cutAt '=' option with
  | none => .error (.missingAssignment (String.ofList option))
  | some (path, value) =>
    let segments := pathSegments path
    if [] ∈ segments then .error (.emptySegment (String.ofList option))
    else .ok ⟨segments.map String.ofList, optionValue (trim value)⟩

/-- The options of a text, without the blanks around them and without blank ones. -/
def optionPieces (characters : List Char) : List (List Char) :=
  ((pieces ';' characters).map trim).filter (· ≠ [])

/-- The assignments of options from left to right, up to the first that is refused. -/
def readAssignments : List (List Char) → Except Refusal (List Assignment)
  | [] => .ok []
  | option :: rest => do
    let assignment ← readAssignment option
    let others ← readAssignments rest
    return assignment :: others

/-- The entries with the values of assignments put in order. -/
def assign (entries : Keyed Json) (assignments : List Assignment) : Keyed Json :=
  assignments.foldl
    (fun entries assignment => Json.putMember assignment.value assignment.path entries) entries

/-- A JSON text whose value is an object. -/
def readObjectText (characters : List Char) : Except Refusal (Keyed Json) :=
  match Json.readWhole Json.containerLimit characters with
  | .ok value => .ok value.members
  | .error fault => .error (.invalidJson (String.ofList characters) fault)

/-- The entries that a configuration text without blanks around it describes. -/
def readTrimmed (characters : List Char) : Except Refusal (Keyed Json) :=
  match characters with
  | [] => .ok []
  | '\x7b' :: _ => readObjectText characters
  | _ => do
    let assignments ← readAssignments (optionPieces characters)
    return assign [] assignments

end Config

/-- **The entries that a configuration text describes** (`parse_config`). -/
def readConfig (text : String) : Except Refusal (Keyed Json) :=
  Config.readTrimmed (Text.trim text.toList)

end InstanceHost
