/-
**The program.**

The program starts its log, if it is given a directory for it, puts the configuration together,
gets an instance with it, and shows the status of the instance or one of its items.

The configuration is that of the argument, laid over that of the file. An argument that reads as a
JSON object or string is that value; any other is text.

* `argumentValue`: the value of an argument;
* `gatherConfigWith`: the configuration from file and argument;
* `runWith`, `run`: what a command line shows, or why it fails;
* `modulePath?`: the file of the module that a command line reads;
* `Ending`: what the program writes, and its exit code.
-/

import InstanceHost.CommandLine.Arguments
import InstanceHost.Json.Overlay
import InstanceHost.Log.Schedule
import InstanceHost.Toml.Reader

namespace InstanceHost.CommandLine

/-- Why the program fails. -/
inductive Failure where
  | log (failure : LogFailure)
  | unreadableFile (path : String) (failure : SystemFailure)
  | malformedFile (path : String)
  | argument (refusal : Refusal)
  | boot (failure : BootFailure)
deriving DecidableEq, Repr

/-- The wording of a failure. -/
def Failure.message : Failure → String
  | .log failure => failure.message
  | .unreadableFile path failure =>
    "failed to read config file `" ++ path ++ "`: " ++ failure.message
  | .malformedFile path => "failed to parse config file `" ++ path ++ "`"
  | .argument refusal => refusal.message
  | .boot failure => failure.message

/-! ### The configuration -/

/-- The value of an argument: the JSON object or string that it reads as, or its text
(`config_argument`). -/
def argumentValue (text : String) : Json :=
  match Json.parse? text with
  | some (.object entries) => .object entries
  | some (.string content) => .string content
  | _ => .string text

/-- The members that an argument lays over a file. -/
def overlayOf : Json → Except Failure (Keyed Json)
  | .object entries => .ok entries
  | .string text =>
    match readConfig text with
    | .ok entries => .ok entries
    | .error refusal => .error (.argument refusal)
  | _ => .ok []

/-- What reads the text of a file with a configuration: the members of an object, if it has any. -/
abbrev FileReader := String → Option (Keyed Json)

/-- The members of a file with a configuration. -/
def readFileWith (reader : FileReader) (files : FileSystem) (path : String) :
    Except Failure (Keyed Json) :=
  match files.readText path with
  | .error failure => .error (.unreadableFile path failure)
  | .ok text =>
    match reader text with
    | none => .error (.malformedFile path)
    | some entries => .ok entries

/-- **The configuration from file and argument** (`merged_config`). -/
def gatherConfigWith (reader : FileReader) (files : FileSystem) (path : Option String)
    (argument : String) : Except Failure Json :=
  match path with
  | none => .ok (argumentValue argument)
  | some path => do
    let lower ← readFileWith reader files path
    let upper ← overlayOf (argumentValue argument)
    return .object (Json.overlayEntries lower upper)

/-! ### Running -/

/-- The status of an instance as a value, under a text for its identifier. -/
def statusValue (identifier : String) (status : Status) : Json :=
  .object
    [("instance_id", .string identifier), ("ready", .bool status.ready),
      ("extensions", .array (status.extensions.map Json.string)),
      ("config", status.config.getD .null)]

/-- What a command shows of an instance. -/
def shown (identifier : String) (target : Instance) : Command → Json
  | .init => statusValue identifier target.status
  | .get key => (target.get? key).getD .null

/-- A process with its log started, if the command line asks for it. -/
def startLog (logged : LoggedHost) (invocation : Invocation) :
    Except Failure Unit × LoggedHost :=
  match invocation.logDirectory with
  | none => (.ok (), logged)
  | some directory =>
    let level := invocation.logLevel.getD Log.defaultLevel.name
    match logged.startLog level directory with
    | (.ok (), started) => (.ok (), started)
    | (.error failure, changed) => (.error (.log failure), changed)

/-- The process after what happened in its service. -/
def afterService (logged : LoggedHost) (service : Service) : LoggedHost :=
  { logged with host := service.host, slot := service.slot }

/-- Gets an instance with a configuration and shows what the command asks for. -/
def boot (logged : LoggedHost) (invocation : Invocation) (config : Json) :
    Except Failure Json × LoggedHost :=
  let service := logged.service true (.files invocation.moduleDirectory)
  let progress := service.complete (.value config)
  let changed := afterService logged progress.service
  match progress.stage with
  | .finished (.ok id) =>
    (.ok (shown (changed.labels.identify id) (changed.host.get id) invocation.command),
      changed.withHost (changed.host.record [.programBooted id]))
  | .finished (.error failure) => (.error (.boot failure), changed.settle)
  | _ => (.ok .null, changed.settle)

/-- **What a command line shows, or why it fails** (`run`), by a reader of the text of its file. -/
def runWith (reader : FileReader) (logged : LoggedHost) (invocation : Invocation) :
    Except Failure Json × LoggedHost :=
  match startLog logged invocation with
  | (.error failure, changed) => (.error failure, changed)
  | (.ok (), started) =>
    match gatherConfigWith reader started.host.files invocation.configFile invocation.config with
    | .error failure => (.error failure, started)
    | .ok config => boot started invocation config

/-- What a command line shows whose file is a TOML document. -/
def run (logged : LoggedHost) (invocation : Invocation) : Except Failure Json × LoggedHost :=
  runWith Toml.parse? logged invocation

/-- The file of the module that a command line reads, if it comes to that. -/
def modulePath? (logged : LoggedHost) (invocation : Invocation) : Option String :=
  let files := (startLog logged invocation).2.host.files
  match gatherConfigWith Toml.parse? files invocation.configFile invocation.config with
  | .error _ => none
  | .ok value =>
    match Config.ofJson value with
    | .error _ => none
    | .ok config =>
      match config.toNormal with
      | .error _ => none
      | .ok normal => some (normal.modulePath.getD (moduleFileIn invocation.moduleDirectory))

/-! ### Endings -/

/-- What the program writes, and its exit code (`main`). -/
structure Ending where
  code : Nat
  output : String
  errors : String
deriving DecidableEq, Repr

/-- The name of the program. -/
def programName : String := "mize"

/-- The line that tells the version. -/
def versionLine : String := programName ++ " " ++ Event.hostVersion ++ "\n"

/-- The line that tells how the program is used. -/
def usageLine : String := "Usage: " ++ programName ++ " [OPTIONS] <init|get KEY>\n"

/-- How the program ends with what it shows, or with a failure. -/
def ending : Except Failure Json → Ending
  | .ok value => ⟨0, value.prettyText ++ "\n", ""⟩
  | .error failure => ⟨1, "", "error: " ++ failure.message ++ "\n"⟩

/-- **How the program ends**, and the process then. -/
def execute (logged : LoggedHost) (parsed : Parsed) : Ending × LoggedHost :=
  match parsed with
  | .misuse => (⟨2, "", usageLine⟩, logged)
  | .version => (⟨0, versionLine, ""⟩, logged)
  | .help => (⟨0, usageLine, ""⟩, logged)
  | .run invocation =>
    let (result, changed) := run logged invocation
    (ending result, changed)

end InstanceHost.CommandLine
