/-
**Loading a module from its file.**

A loader of files has a directory of its own, in which it looks unless it is told where the module
lies.

* `moduleFileIn`: where a loader looks on its own;
* `loadModule`: the module, or why there is none, with the events caused.
-/

import InstanceHost.Config.Basic
import InstanceHost.Event
import InstanceHost.FileSystem.Basic

namespace InstanceHost

/-- A module or the failure to load it, with the events caused. -/
structure ModuleReading where
  outcome : Except LoadFailure LoadedModule
  events : List Event

/-- **Loads the module at a path, or else from the directory of the loader**
(`FileModuleLoader.load`). -/
def loadModule (system : FileSystem) (directory : String) (binary : Option String) :
    ModuleReading :=
  let path := binary.getD (moduleFileIn directory)
  let started := Event.moduleReadStarted path binary.isSome
  match system.read path with
  | .error failure =>
    ⟨.error (.unreadable path failure), [started, .moduleUnreadable path failure]⟩
  | .ok bytes =>
    match LoadedModule.ofBytes path bytes with
    | .error failure => ⟨.error failure, [started]⟩
    | .ok image => ⟨.ok image, [started, .moduleRead image]⟩

end InstanceHost
