/-
**Files that are open to be added to.**

A file is opened at a path once, and made if it is missing; from then on bytes are added to it by
its location. A file that was deleted in the meantime is out of reach, and so is one that was placed
there later: what is added to it is lost.

* `FileSystem.openAtEnd`: opening a file;
* `FileSystem.addTo`: adding bytes to an open file.
-/

import InstanceHost.FileSystem.Basic

namespace InstanceHost.FileSystem

/-- **Opens the file at a path**, with its location. A missing file is made, without content. -/
def openAtEnd (system : FileSystem) (path : String) :
    Except SystemFailure (Location × FileSystem) := do
  let location ← system.locate path
  let opened := { system with opened := location :: system.opened }
  match system.nodeAt location with
  | none => return (location, opened.put location (.file []))
  | some (.file _) => return (location, opened)
  | some .directory => .error .isDirectory
  | some (.unreadable failure) => .error failure

/-- **Adds bytes to an open file.** -/
def addTo (system : FileSystem) (location : Location) (content : List UInt8) : FileSystem :=
  match system.nodeAt location with
  | some (.file earlier) =>
    if location ∈ system.opened then system.put location (.file (earlier ++ content)) else system
  | _ => system

end InstanceHost.FileSystem
