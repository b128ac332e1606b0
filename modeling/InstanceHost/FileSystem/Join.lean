/-
**Names below a directory.**

The path of a file in a directory is the directory's path, a slash unless one is there already, and
the file's name; nothing is resolved.
-/

namespace InstanceHost.FileSystem

/-- The path of a name in a directory. -/
def join (directory name : String) : String :=
  let characters := directory.toList
  if characters = [] ∨ characters.getLast? = some '/' then directory ++ name
  else directory ++ "/" ++ name

end InstanceHost.FileSystem
