/-
**The file of a log.**

A journal follows the events of a host. Those that are serious enough are kept; with the first of
them the file in the directory of the log is opened. While it cannot be opened nothing is kept.

What is kept waits in a buffer of `bufferSize` bytes and goes to the end of the file from there. A
line that does not fit behind those that wait sends them to the file first, and a line as long as
the buffer does not wait at all. Lines are never divided.

* `Journal.follow`: the events of a host since the last time;
* `Journal.flush`: what waits goes to the file;
* `Journal.follow_host`: following changes nothing in the host but its files.
-/

import InstanceHost.Call.Service
import InstanceHost.FileSystem.Join
import InstanceHost.FileSystem.Opened

namespace InstanceHost

/-- The name of the file of a log. -/
def logFileName : String := "mize_rCURRENT.log"

/-- The path of the file of a log in a directory. -/
def logFileIn (directory : String) : String :=
  FileSystem.join directory logFileName

/-- The number of bytes that may wait to be written. -/
def bufferSize : Nat := 8192

/-- The lines of events as a text. -/
def linesText (labels : Labels) : List Event → String
  | [] => ""
  | event :: rest => event.line labels ++ "\n" ++ linesText labels rest

/-- A log that was started, with its file. -/
structure Journal where
  level : Level
  /-- The directory as it was given, without blanks around it. -/
  directory : String
  /-- The number of events of the host that were looked at. -/
  seen : Nat
  /-- The location of the file, once it was opened. -/
  place : Option Location
  kept : List Event
  /-- The number of those that went to the file. -/
  written : Nat

namespace Journal

/-- Whether an event is serious enough to be kept. -/
def keeps (journal : Journal) (event : Event) : Bool :=
  journal.level.rank ≤ event.level.rank

/-- The location of the file, which is opened unless it is open, and the files then. -/
def openFile (journal : Journal) (files : FileSystem) :
    Except SystemFailure (Location × FileSystem) :=
  match journal.place with
  | some location => .ok (location, files)
  | none => files.openAtEnd (logFileIn journal.directory)

/-- The events that wait. -/
def waiting (journal : Journal) : List Event :=
  journal.kept.drop journal.written

/-- **Writes out what waits.** -/
def flush (journal : Journal) (labels : Labels) (files : FileSystem) : Journal × FileSystem :=
  match journal.place with
  | none => (journal, files)
  | some location =>
    ({ journal with written := journal.kept.length },
      files.addTo location (linesText labels journal.waiting).toUTF8.toList)

/-- Keeps an event in a journal whose file is open. -/
def keep (labels : Labels) : Journal × FileSystem → Event → Journal × FileSystem
  | (journal, files), event =>
    let size := (linesText labels [event]).utf8ByteSize
    let (roomy, files) :=
      if bufferSize < (linesText labels journal.waiting).utf8ByteSize + size then
        journal.flush labels files
      else (journal, files)
    let longer := { roomy with kept := roomy.kept ++ [event] }
    if bufferSize ≤ size then longer.flush labels files else (longer, files)

/-- **Follows the events of a host** from the first that was not looked at. -/
def follow (journal : Journal) (labels : Labels) (host : Host) : Journal × Host :=
  let fresh := (host.log.drop journal.seen).filter journal.keeps
  let looked := { journal with seen := host.log.length }
  if fresh = [] then (looked, host)
  else match looked.openFile host.files with
    | .error _ => (looked, host)
    | .ok (location, files) =>
      let (journal, files) := fresh.foldl (keep labels) ({ looked with place := location }, files)
      (journal, { host with files := files })

/-- **Following changes nothing in the host but its files.** -/
theorem follow_host (journal : Journal) (labels : Labels) (host : Host) :
    (journal.follow labels host).2 =
      { host with files := (journal.follow labels host).2.files } := by
  simp only [follow]
  split
  · rfl
  · split <;> rfl

end Journal

end InstanceHost
