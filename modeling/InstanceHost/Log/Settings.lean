/-
**Settings of the log.**

A log is started with the least serious level that it keeps and an absolute directory. Both are
given as text, with any blanks around it; the letters of a level may be of either case.

* `readLevel`, `readDirectory`: the settings that texts stand for;
* `sameDirectory`: whether two absolute paths are the same, name by name;
* `LogFailure`: why a log is not started.
-/

import InstanceHost.Event
import InstanceHost.FileSystem.Basic
import InstanceHost.Text.Blank

namespace InstanceHost

/-- Why a log is not started. -/
inductive LogFailure where
  | unsupportedLevel (given : String)
  | emptyDirectory
  | relativeDirectory (given : String)
  | uncreatableDirectory (directory : String) (failure : SystemFailure)
  | otherBackend
  | otherDirectory (active given : String)
  | otherLevel (active given : Level)
deriving DecidableEq, Repr

/-- The wording of a failure. -/
def LogFailure.message : LogFailure → String
  | .unsupportedLevel given =>
    "unsupported log level `" ++ given ++ "`; expected trace|debug|info|warn|error"
  | .emptyDirectory => "log_dir cannot be empty"
  | .relativeDirectory given => "log_dir must be an absolute path, got `" ++ given ++ "`"
  | .uncreatableDirectory directory failure =>
    "failed to create log directory `" ++ directory ++ "`: " ++ failure.message
  | .otherBackend => "failed to start logger"
  | .otherDirectory active given =>
    "logging already initialized at `" ++ active ++ "`; refusing to switch to `" ++ given ++ "`"
  | .otherLevel active given =>
    "logging already initialized with level `" ++ active.name ++ "`; refusing to switch to `" ++
      given.name ++ "`"

namespace Log

/-- A letter from `A` to `Z` in lower case; every other character as it is. -/
def lowerCase (character : Char) : Char :=
  character.toLower

/-- The level of a name in lower case. -/
def levelOf? (name : String) : Option Level :=
  if name = "trace" then some .trace
  else if name = "debug" then some .debug
  else if name = "info" then some .info
  else if name = "warn" ∨ name = "warning" then some .warn
  else if name = "error" then some .error
  else none

/-- The level that a text stands for (`parse_level`). -/
def readLevel (text : String) : Except LogFailure Level :=
  let name := String.ofList ((Text.trim text.toList).map lowerCase)
  match levelOf? name with
  | some level => .ok level
  | none => .error (.unsupportedLevel name)

/-- The directory that a text stands for (`parse_log_dir`). -/
def readDirectory (text : String) : Except LogFailure String :=
  let directory := Text.trimmed text
  if directory = "" then .error .emptyDirectory
  else if FileSystem.isAbsolute directory then .ok directory
  else .error (.relativeDirectory directory)

/-- Whether two absolute paths are the same, name by name. -/
def sameDirectory (first second : String) : Bool :=
  FileSystem.properNames first == FileSystem.properNames second

/-- The level of a log where none is given (`default_log_level`). -/
def defaultLevel : Level := .debug

end Log

end InstanceHost
