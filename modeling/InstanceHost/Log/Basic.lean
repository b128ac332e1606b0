/-
**The log of a process.**

A process starts its log at most once. Starting it again with the same settings does nothing; other
settings are refused. From its start on the log follows the events of the host. With the start a
reporter is put in front of those that panics went through before, unless this was done already, and
every reporter makes an event of a panic.

* `LoggedHost.startLog`: starting the log;
* `LoggedHost.installReporter`: the reporter of panics;
* `LoggedHost.panic`: a panic with its message;
* `LoggedHost.settle`: the log after whatever happened in the host;
* `LoggedHost.lines`: the lines that a log in a directory holds;
* `onOneLine`: a message on one line of bounded length.
-/

import InstanceHost.Log.Journal
import InstanceHost.Log.Settings
import InstanceHost.Text.Lines

namespace InstanceHost

/-- A process with its log. -/
structure LoggedHost where
  host : Host
  slot : Option Nat
  journal : Option Journal
  /-- Whether the process has another log. -/
  otherBackend : Bool
  labels : Labels
  /-- Whether the reporter of panics was installed. -/
  reporting : Bool
  /-- The number of reporters that a panic goes through. -/
  reporters : Nat

/-- A process that has done nothing yet. -/
def LoggedHost.fresh (files : FileSystem) (labels : Labels) : LoggedHost :=
  ⟨⟨files, [], []⟩, none, none, false, labels, false, 0⟩

namespace Log

/-- The greatest number of characters of a panic's message that is kept. -/
def messageLimit : Nat := 160

/-- A space for a line break. -/
def flatten (character : Char) : Char :=
  if character = '\n' ∨ character = '\r' then ' ' else character

/-- A message on one line, cut with three full stops where it is too long (`sanitize_message`). -/
def onOneLine (limit : Nat) (characters : List Char) : List Char :=
  let line := characters.map flatten
  if limit < line.length then line.take limit ++ ['.', '.', '.'] else line

/-- What is kept of a panic that has no message. -/
def noMessage : String := "non-string panic payload"

/-- What an event tells of a panic. -/
def payload (message : Option String) : String :=
  String.ofList (onOneLine messageLimit (message.getD noMessage).toList)

/-- Checks settings against those of the log (`check_matches`). -/
def checkSettings (active : Journal) (level : Level) (directory : String) :
    Except LogFailure Unit :=
  if sameDirectory active.directory directory = false then
    .error (.otherDirectory active.directory directory)
  else if active.level ≠ level then .error (.otherLevel active.level level)
  else .ok ()

end Log

namespace LoggedHost

open Log

/-- The process after whatever happened in the host. -/
def settle (logged : LoggedHost) : LoggedHost :=
  match logged.journal with
  | none => logged
  | some journal =>
    let (journal, host) := journal.follow logged.labels logged.host
    { logged with host := host, journal := some journal }

/-- Installs the reporter of panics, in front of those that are there, unless it was installed
(`install_panic_hook`). -/
def installReporter (logged : LoggedHost) : LoggedHost :=
  { logged with
    reporting := true
    reporters := if logged.reporting then logged.reporters else logged.reporters + 1 }

/-- Starts the log of a process that has none (`start_logger`). -/
def startFresh (logged : LoggedHost) (level : Level) (directory : String) :
    Except LogFailure Unit × LoggedHost :=
  let (made, files) := logged.host.files.createDirectories directory
  let host := { logged.host with files := files }
  match made with
  | .error failure =>
    (.error (.uncreatableDirectory directory failure), { logged with host := host })
  | .ok () =>
    if logged.otherBackend then (.error .otherBackend, { logged with host := host })
    else
      let journal : Journal := ⟨level, directory, host.log.length, none, [], 0⟩
      let told := host.record [.loggingStarted level directory]
      (.ok (), { logged.installReporter with host := told, journal := some journal }.settle)

/-- Starts the log with settings. -/
def startWith (logged : LoggedHost) (level : Level) (directory : String) :
    Except LogFailure Unit × LoggedHost :=
  match logged.journal with
  | some active => (checkSettings active level directory, logged)
  | none => logged.startFresh level directory

/-- **Starts the log** (`init_logging`) with settings given as text. -/
def startLog (logged : LoggedHost) (level directory : String) :
    Except LogFailure Unit × LoggedHost :=
  match readLevel level with
  | .error failure => (.error failure, logged)
  | .ok level =>
    match readDirectory directory with
    | .error failure => (.error failure, logged)
    | .ok directory => logged.startWith level directory

/-- The level and the directory of the log (`logging_status`). -/
def logSettings (logged : LoggedHost) : Option (Level × String) :=
  logged.journal.map fun journal => (journal.level, journal.directory)

/-- **A panic**, with its message if it has one. Every reporter makes an event of it. -/
def panic (logged : LoggedHost) (message : Option String) : LoggedHost :=
  let events := List.replicate logged.reporters (.panicCaptured (payload message))
  { logged with host := logged.host.record events }.settle

/-- Writes out what waits to be written. -/
def flush (logged : LoggedHost) : LoggedHost :=
  match logged.journal with
  | none => logged
  | some journal =>
    let (journal, files) := journal.flush logged.labels logged.host.files
    { logged with host := { logged.host with files := files }, journal := some journal }

/-- **The lines that a log in a directory holds.** -/
def lines (logged : LoggedHost) (directory : String) : List String :=
  match logged.host.files.readText (logFileIn directory) with
  | .ok text => (Text.lines text.toList).map String.ofList
  | .error _ => []

end LoggedHost

end InstanceHost
