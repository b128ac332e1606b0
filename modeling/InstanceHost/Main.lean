/-
**The program on a real system.**

The command line and the environment are read first, then the files that they lead to. The program
runs on what was seen there; what it answers is written out, and so is what its log has kept.

* `observe`: what a path leads to on the real system, put into a tree of files;
* `survey`: the tree of files that a command line needs;
* `main`: one run of the program.
-/

import InstanceHost.CommandLine.Program
import InstanceHost.Instance.Identifier
import Std.Time

namespace InstanceHost

open CommandLine

/-- The variables of the environment that the program reads. -/
def readEnvironment : IO Environment := do
  let found ← Setting.byName.filterMapM fun (_, setting) => do
    let some name := setting.variableName? | return none
    return (← IO.getEnv name).map fun value => (name, value)
  return found

/-- A reason that the real system gives. -/
def reasonOf (failure : IO.Error) : SystemFailure :=
  match failure with
  | .noFileOrDirectory .. => .notFound
  | .permissionDenied .. => .reported "Permission denied (os error 13)"
  | failure => .reported (toString failure)

/-- What a single path leads to, put into a tree of files. -/
def observe (files : FileSystem) (path : String) : IO FileSystem := do
  let place := (← IO.currentDir) / path
  if ← place.isDir then return files.makeDirectory path
  try
    let content ← IO.FS.readBinFile place
    return files.write path content.toList
  catch failure =>
    match reasonOf failure with
    | .notFound => return files
    | failure => return files.bar path failure

/-- The paths that lead to a path, and the path itself. -/
def pathsTo (path : String) : List String :=
  let names := FileSystem.names path
  let paths := (List.range names.length).map fun count =>
    String.intercalate "/" (names.take (count + 1))
  paths.filter (· ≠ "")

/-- What a path and the paths that lead to it lead to. -/
def observeAll (files : FileSystem) (path : String) : IO FileSystem :=
  (pathsTo path).foldlM observe files

/-- The tree of files that a command line needs. -/
def survey (labels : Labels) (invocation : Invocation) : IO FileSystem := do
  let here := (← IO.currentDir).toString
  let files := (FileSystem.bare (FileSystem.properNames here)).makeDirectory here
  let files ← match invocation.logDirectory with
    | some directory => observeAll files (logFileIn (Text.trimmed directory))
    | none => pure files
  let files ← match invocation.configFile with
    | some path => observeAll files path
    | none => pure files
  match modulePath? (LoggedHost.fresh files labels) invocation with
  | some path => observeAll files path
  | none => return files

/-- Writes out what a log has kept. -/
def writeLog (logged : LoggedHost) (labels : Labels) : IO Unit := do
  let some journal := logged.journal | return
  IO.FS.createDirAll journal.directory
  if journal.place.isSome then
    let file ← IO.FS.Handle.mk (logFileIn journal.directory) .append
    file.putStr (linesText labels journal.kept)

/-- Writes out what a log has kept; where that fails, the failure ends the program. -/
def settleLog (logged : LoggedHost) (labels : Labels) (ending : Ending) : IO Ending := do
  try
    writeLog logged labels
    return ending
  catch failure =>
    let directory := (logged.journal.map (·.directory)).getD ""
    return CommandLine.ending
      (.error (.log (.uncreatableDirectory directory (reasonOf failure))))

/-- The time as it stands at the start of a line. -/
def readStamp : IO String := do
  let now ← Std.Time.Timestamp.now
  let universal := Std.Time.DateTime.ofTimestamp now Std.Time.TimeZone.ZoneRules.UTC
  return "[" ++ universal.toLeanDateTimeWithZoneString ++ "] "

/-- Runs a command line that was read. -/
def runParsed (parsed : Parsed) : IO Ending := do
  let begun ← IO.monoMsNow
  let identifier := identifierText (← IO.getRandomBytes 16).toList
  let labels : Labels := ⟨← readStamp, fun _ => identifier, "0", ""⟩
  let files ← match parsed with
    | .run invocation => survey labels invocation
    | _ => pure (FileSystem.bare [])
  let (ending, logged) := execute (LoggedHost.fresh files labels) parsed
  let taken := (← IO.monoMsNow) - begun
  settleLog logged { labels with duration := toString taken } ending

end InstanceHost

/-- **One run of the program.** -/
def main (arguments : List String) : IO UInt32 := do
  let parsed := InstanceHost.CommandLine.parseArguments (← InstanceHost.readEnvironment) arguments
  let ending ← InstanceHost.runParsed parsed
  (← IO.getStdout).putStr ending.output
  (← IO.getStderr).putStr ending.errors
  return ending.code.toUInt32
