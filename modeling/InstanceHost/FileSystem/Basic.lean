/-
**A tree of files.**

Files and directories are kept by *location*, the list of names that lead there from the root. A
path is followed name by name: each step needs a directory to step from, an empty name and `.` stay
there, `..` goes up, and every other name goes down. A path that starts with a slash starts at the
root, every other one at the current directory.

* `FileSystem.locate`: the location that a path leads to, whether or not something is there;
* `FileSystem.read`: the content of a file;
* `FileSystem.write`, `FileSystem.makeDirectory`: placing a file or a directory, with directories
  all along the way, and `FileSystem.bar` what cannot be read;
* `FileSystem.delete?`: taking a file out;
* `FileSystem.createDirectories`: the directory at a path with all parents, as a program asks for
  it, with what was made before a failure.
-/

import InstanceHost.FileSystem.Failure
import InstanceHost.Text.Pieces

namespace InstanceHost

/-- The names that lead from the root to a place. -/
abbrev Location := List String

/-- What a location holds. -/
inductive Node where
  | directory
  | file (content : List UInt8)
  /-- Something that cannot be read, for a reason of its own. -/
  | unreadable (failure : SystemFailure)
deriving DecidableEq, Repr

/-- Files and directories with the directory that relative paths start from. -/
structure FileSystem where
  /-- What the locations hold; of two entries for one location the first counts. -/
  nodes : List (Location × Node)
  current : Location
  /-- The files that are open to be added to. -/
  opened : List Location

namespace FileSystem

/-- Nothing but the root, and a directory that relative paths start from. -/
def bare (current : Location) : FileSystem :=
  ⟨[], current, []⟩

/-- The greatest number of bytes of a name. -/
def nameLimit : Nat := 255

/-- The greatest number of bytes of a path. -/
def pathLimit : Nat := 4095

/-- What a location holds. The root is a directory. -/
def nodeAt (system : FileSystem) (location : Location) : Option Node :=
  if location = [] then some .directory
  else (system.nodes.find? fun entry => entry.1 == location).map (·.2)

/-- Puts something at a location. -/
def put (system : FileSystem) (location : Location) (node : Node) : FileSystem :=
  { system with nodes := (location, node) :: system.nodes }

/-- Empties a location. -/
def clear (system : FileSystem) (location : Location) : FileSystem :=
  { system with nodes := system.nodes.filter fun entry => entry.1 ≠ location }

/-! ### Following paths -/

/-- Whether a path starts at the root. -/
def isAbsolute (path : String) : Bool :=
  path.toList.head? == some '/'

/-- Where a path starts. -/
def start (system : FileSystem) (path : String) : Location :=
  if isAbsolute path then [] else system.current

/-- The names of a path, empty ones included. -/
def names (path : String) : List String :=
  (Text.pieces '/' path.toList).map String.ofList

/-- Refuses what is no path at all. -/
def checkPath (path : String) : Except SystemFailure Unit :=
  if path.toList.contains '\x00' then .error .nullCharacter
  else if path = "" then .error .notFound
  else if pathLimit < path.utf8ByteSize then .error .nameTooLong
  else .ok ()

/-- Asks for a directory at a location. -/
def needDirectory (system : FileSystem) (location : Location) : Except SystemFailure Unit :=
  match system.nodeAt location with
  | none => .error .notFound
  | some .directory => .ok ()
  | some _ => .error .notDirectory

/-- One step from a directory. -/
def stepTo (location : Location) (name : String) : Except SystemFailure Location :=
  if name = "" ∨ name = "." then .ok location
  else if name = ".." then .ok location.dropLast
  else if nameLimit < name.utf8ByteSize then .error .nameTooLong
  else .ok (location ++ [name])

/-- The location behind a list of names. -/
def walk (system : FileSystem) (location : Location) :
    List String → Except SystemFailure Location
  | [] => .ok location
  | name :: rest => do
    system.needDirectory location
    let next ← stepTo location name
    walk system next rest

/-- The location that a path leads to. -/
def locate (system : FileSystem) (path : String) : Except SystemFailure Location := do
  checkPath path
  system.walk (system.start path) (names path)

/-- **The content of a file.** -/
def read (system : FileSystem) (path : String) : Except SystemFailure (List UInt8) := do
  let location ← system.locate path
  match system.nodeAt location with
  | none => .error .notFound
  | some .directory => .error .isDirectory
  | some (.file content) => .ok content
  | some (.unreadable failure) => .error failure

/-- The content of a file as text. -/
def readText (system : FileSystem) (path : String) : Except SystemFailure String := do
  let content ← system.read path
  match String.fromUTF8? (ByteArray.mk content.toArray) with
  | some text => .ok text
  | none => .error .notText

/-- Whether a path leads to a directory. -/
def isDirectory (system : FileSystem) (path : String) : Bool :=
  match system.locate path with
  | .ok location => system.nodeAt location == some .directory
  | .error _ => false

/-! ### Placing files -/

/-- The location behind one name, by the name alone. -/
def place (location : Location) (name : String) : Location :=
  if name = "" ∨ name = "." then location
  else if name = ".." then location.dropLast
  else location ++ [name]

/-- A directory at a location that is empty so far. -/
def ensureDirectory (system : FileSystem) (location : Location) : FileSystem :=
  if (system.nodeAt location).isSome then system else system.put location .directory

/-- The location behind a list of names, with a directory after every one of them. -/
def makeWay (system : FileSystem) (location : Location) : List String → FileSystem × Location
  | [] => (system, location)
  | name :: rest =>
    (system.ensureDirectory (place location name)).makeWay (place location name) rest

/-- A directory at a path, and directories all along the way. -/
def makeDirectory (system : FileSystem) (path : String) : FileSystem :=
  (system.makeWay (system.start path) (names path)).1

/-- Something at a path, and directories all along the way. -/
def placeNode (system : FileSystem) (path : String) (node : Node) : FileSystem :=
  let names := names path
  let (made, parent) := system.makeWay (system.start path) names.dropLast
  made.put (place parent (names.getLast?.getD "")) node

/-- A file at a path, and directories all along the way. -/
def write (system : FileSystem) (path : String) (content : List UInt8) : FileSystem :=
  system.placeNode path (.file content)

/-- Something that cannot be read at a path, and directories all along the way. -/
def bar (system : FileSystem) (path : String) (failure : SystemFailure) : FileSystem :=
  system.placeNode path (.unreadable failure)

/-- Takes the file at a path out, if there is one. From then on nothing is added to it. -/
def delete? (system : FileSystem) (path : String) : Option FileSystem :=
  match system.locate path with
  | .ok location =>
    match system.nodeAt location with
    | some (.file _) =>
      let cleared := system.clear location
      some { cleared with opened := cleared.opened.filter (· ≠ location) }
    | _ => none
  | .error _ => none

/-! ### Making directories -/

/-- A new directory behind a list of names that ends with a proper one. -/
def createAt (system : FileSystem) (start : Location) (parents : List String) (name : String) :
    Except SystemFailure FileSystem := do
  let parent ← system.walk start parents
  system.needDirectory parent
  let location ← stepTo parent name
  if name = "." ∨ name = ".." ∨ (system.nodeAt location).isSome then .error .alreadyExists
  else .ok (system.put location .directory)

/-- A new directory behind a list of names. Empty names at the end do not count. -/
def createNames (system : FileSystem) (start : Location) (names : List String) :
    Except SystemFailure FileSystem :=
  match (names.reverse.dropWhile (· = "")) with
  | [] => .error .alreadyExists
  | name :: parents => system.createAt start parents.reverse name

/-- Whether a directory is behind a list of names. -/
def isDirectoryAt (system : FileSystem) (start : Location) (names : List String) : Bool :=
  match system.walk start names with
  | .ok location => system.nodeAt location == some .directory
  | .error _ => false

/-- Settles an attempt to make a directory: one that is there already will do. -/
def settleCreation (system : FileSystem) (start : Location) (names : List String) :
    Except SystemFailure Unit × FileSystem :=
  match system.createNames start names with
  | .ok made => (.ok (), made)
  | .error failure =>
    if system.isDirectoryAt start names then (.ok (), system) else (.error failure, system)

/-- The directory behind the first names of a list, with all its parents. -/
def createParents (system : FileSystem) (start : Location) (names : List String) :
    (count : Nat) → Except SystemFailure Unit × FileSystem
  | 0 => (.ok (), system)
  | count + 1 =>
    match system.settleCreation start (names.take (count + 1)) with
    | (.error .notFound, _) =>
      match system.createParents start names count with
      | (.ok (), made) => made.settleCreation start (names.take (count + 1))
      | failed => failed
    | settled => settled

/-- The names of a path that count. -/
def properNames (path : String) : List String :=
  (names path).filter fun name => name ≠ "" ∧ name ≠ "."

/-- **The directory at a path with all its parents**, and what was made up to a failure. -/
def createDirectories (system : FileSystem) (path : String) :
    Except SystemFailure Unit × FileSystem :=
  match checkPath path with
  | .error failure => (.error failure, system)
  | .ok () =>
    let start := system.start path
    match system.settleCreation start (names path) with
    | (.error .notFound, _) =>
      let proper := properNames path
      match system.createParents start proper (proper.length - 1) with
      | (.ok (), made) => made.settleCreation start (names path)
      | failed => failed
    | settled => settled

end FileSystem

end InstanceHost
