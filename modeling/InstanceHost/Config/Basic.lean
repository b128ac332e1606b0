/-
**Configurations.**

A host is given a configuration either as text, which is passed on as it is, or as an object. For
an instance both become text: the object in its compact form. Only an object can say where the
module lies, under `module_dir.mize`.

* `Config.ofJson`: a string or an object as a configuration;
* `Config.toJson`: a configuration as the value it came from;
* `moduleDirectory?`: where an object says that the module lies;
* `Config.toNormal`: the text for the instance with the directory of the module.
-/

import InstanceHost.FileSystem.Join
import InstanceHost.Json.Writer
import InstanceHost.Text.Blank

namespace InstanceHost

/-! ### Fixed names -/

/-- The key with the directories of modules (`MODULE_DIR_KEY`). -/
def moduleDirectoryKey : String := "module_dir"

/-- The key of the host's own module among them (`MODULE_NAME`). -/
def ownModule : String := "mize"

/-- The file name of a compiled module (`MODULE_BINARY_NAME`). -/
def moduleFileName : String := "mize_bg.wasm"

/-- The directory of the module where nothing else names one (`DEFAULT_MODULE_DIR`). -/
def defaultModuleDirectory : String := "./pkg"

/-! ### Configurations -/

/-- A configuration (`RuntimeConfig`). -/
inductive Config where
  | serialized (text : String)
  | structured (entries : Keyed Json)

/-- A value that is neither a string nor an object (`ConfigTypeError`). -/
structure KindMismatch where
  found : String
deriving DecidableEq, Repr

/-- The wording of a mismatch. -/
def KindMismatch.message (mismatch : KindMismatch) : String :=
  "config passed to init must be an object or a string (got " ++ mismatch.found ++ ")"

namespace Config

/-- A string or an object as a configuration (`from_value`). -/
def ofJson : Json → Except KindMismatch Config
  | .string text => .ok (.serialized text)
  | .object entries => .ok (.structured entries)
  | value => .error ⟨value.kindName⟩

/-- The value that a configuration came from (`to_raw_value`). -/
def toJson : Config → Json
  | .serialized text => .string text
  | .structured entries => .object entries

/-- The name of a configuration's kind (`kind`). -/
def kindName : Config → String
  | .serialized _ => "serialized"
  | .structured _ => "structured"

end Config

/-! ### The place of the module -/

/-- Why an object does not say where the module lies. -/
inductive LocationFault where
  | directoriesNotObject (found : String)
  | directoryNotString (found : String)
  | directoryBlank
  | reported (reason : String)
deriving DecidableEq, Repr

/-- The wording of a fault. -/
def LocationFault.reason : LocationFault → String
  | .directoriesNotObject found =>
    "`" ++ moduleDirectoryKey ++ "` must be an object, got " ++ found
  | .directoryNotString found =>
    "`" ++ moduleDirectoryKey ++ "." ++ ownModule ++ "` must be a string, got " ++ found
  | .directoryBlank =>
    "`" ++ moduleDirectoryKey ++ "." ++ ownModule ++ "` must not be empty"
  | .reported reason => reason

/-- Why a configuration has no normal form (`ConfigError`). -/
inductive ConfigFault where
  | invalidLocation (fault : LocationFault)
  | unserializable (reason : String)
deriving DecidableEq, Repr

/-- The wording of a fault. -/
def ConfigFault.message : ConfigFault → String
  | .invalidLocation fault => "config module location is invalid: " ++ fault.reason
  | .unserializable reason => "config could not be serialized: " ++ reason

/-- The directory that the host's own entry names. -/
def ownDirectory? (directories : Keyed Json) : Except LocationFault (Option String) :=
  match directories.lookup ownModule with
  | none => .ok none
  | some (.string directory) =>
    if Text.isBlankText directory then .error .directoryBlank else .ok (some directory)
  | some value => .error (.directoryNotString value.kindName)

/-- Where an object says that the module lies (`resolve_module_dir`). -/
def moduleDirectory? (entries : Keyed Json) : Except LocationFault (Option String) :=
  match entries.lookup moduleDirectoryKey with
  | none => .ok none
  | some (.object directories) => ownDirectory? directories
  | some value => .error (.directoriesNotObject value.kindName)

/-! ### Normal form -/

/-- What a host needs to build an instance (`NormalizedConfig`). -/
structure NormalConfig where
  canonical : String
  /-- The directory of the module; without one the loader has its own. -/
  moduleDirectory : Option String
deriving DecidableEq, Repr

/-- The compiled module in a directory (`default_binary_path`). -/
def moduleFileIn (directory : String) : String :=
  FileSystem.join directory moduleFileName

/-- The compiled module that a configuration names (`binary_path`). -/
def NormalConfig.modulePath (normal : NormalConfig) : Option String :=
  normal.moduleDirectory.map moduleFileIn

/-- The text of a configuration. -/
def Config.canonical : Config → String
  | .serialized text => text
  | .structured entries => (Json.object entries).text

/-- **The text for the instance with the directory of the module** (`normalize`). -/
def Config.toNormal (config : Config) : Except ConfigFault NormalConfig :=
  match config with
  | .serialized _ => .ok ⟨config.canonical, none⟩
  | .structured entries =>
    match moduleDirectory? entries with
    | .ok directory => .ok ⟨config.canonical, directory⟩
    | .error fault => .error (.invalidLocation fault)

end InstanceHost
