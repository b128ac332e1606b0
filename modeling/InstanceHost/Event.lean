/-
**Events for the log.**

What happens to instances, modules and the log itself is reported in one line for each event: a
level, and a text of keys and values. Four things in a line are fixed by no rule: the stamp at its
start, the identifier of an instance, the time something took, and the place of a panic; `Labels`
says how they are written.

* `Event.level`: how serious an event is;
* `Event.text`: the line of an event without its level;
* `Event.line`: the line with it, behind the stamp.
-/

import InstanceHost.Call.Failure

namespace InstanceHost

/-- How serious an event is. -/
inductive Level where
  | trace
  | debug
  | info
  | warn
  | error
deriving DecidableEq, Repr

namespace Level

/-- The place of a level in the order of seriousness. -/
def rank : Level → Nat
  | .trace => 0
  | .debug => 1
  | .info => 2
  | .warn => 3
  | .error => 4

/-- The name of a level. -/
def name : Level → String
  | .trace => "trace"
  | .debug => "debug"
  | .info => "info"
  | .warn => "warn"
  | .error => "error"

/-- The name of a level in a log. -/
def heading : Level → String
  | .trace => "TRACE"
  | .debug => "DEBUG"
  | .info => "INFO"
  | .warn => "WARN"
  | .error => "ERROR"

end Level

/-- How the open parts of a line are written. -/
structure Labels where
  /-- What a line starts with, such as a time. -/
  stamp : String
  /-- An instance, by its number. -/
  identify : Nat → String
  duration : String
  location : String

/-- What the log tells. -/
inductive Event where
  /-- A value that is no object was written to the root of an item tree. -/
  | itemRejected (found : String)
  | instanceReady (extensions : Nat)
  | instanceStarted (id : Nat)
  | instanceRefused (id : Nat) (refusal : Refusal)
  | extensionRegistered (id : Nat) (name : String)
  /-- An instance was published, perhaps in the place of another. -/
  | published (id : Nat) (displaced : Option Nat)
  | configUpdated (id : Nat) (kind : String)
  | bootReused (id : Nat)
  | bootStarted (kind : String)
  | bootSucceeded (id : Nat)
  | bootFailed (failure : BootFailure)
  /-- A module was loaded, perhaps from where the configuration says. -/
  | moduleLoaded (overridden : Bool)
  | instanceConstructed (id : Nat)
  /-- A module file is about to be read. -/
  | moduleReadStarted (path : String) (overridden : Bool)
  | moduleUnreadable (path : String) (failure : SystemFailure)
  | moduleRead (image : LoadedModule)
  | loggingStarted (level : Level) (directory : String)
  | panicCaptured (payload : String)
  | programBooted (id : Nat)
deriving DecidableEq, Repr

namespace Event

/-- How serious an event is. -/
def level : Event → Level
  | .itemRejected _ => .warn
  | .instanceReady _ => .debug
  | .instanceStarted _ => .info
  | .instanceRefused _ _ => .error
  | .extensionRegistered _ _ => .info
  | .published _ none => .info
  | .published _ (some _) => .warn
  | .configUpdated _ _ => .info
  | .bootReused _ => .info
  | .bootStarted _ => .info
  | .bootSucceeded _ => .info
  | .bootFailed _ => .error
  | .moduleLoaded _ => .info
  | .instanceConstructed _ => .info
  | .moduleReadStarted _ _ => .debug
  | .moduleUnreadable _ _ => .error
  | .moduleRead _ => .info
  | .loggingStarted _ _ => .info
  | .panicCaptured _ => .error
  | .programBooted _ => .info

/-- The name of what happened, and where in the host. -/
def subject : Event → String
  | .itemRejected _ => "event=item_set module=instance"
  | .instanceReady _ => "event=instance_ready module=instance"
  | .instanceStarted _ | .instanceRefused _ _ => "event=instance_init module=instance"
  | .extensionRegistered _ _ => "event=extension_register module=instance"
  | .published _ _ => "event=runtime_publish module=slot"
  | .configUpdated _ _ => "event=config_update module=bootstrap"
  | .bootReused _ | .bootStarted _ | .bootSucceeded _ | .bootFailed _ =>
    "event=runtime_bootstrap module=bootstrap"
  | .moduleLoaded _ => "event=module_load module=bootstrap"
  | .instanceConstructed _ => "event=instance_construct module=bootstrap"
  | .moduleReadStarted _ _ | .moduleUnreadable _ _ | .moduleRead _ =>
    "event=module_read module=loader"
  | .loggingStarted _ _ => "event=logging_start module=logging"
  | .panicCaptured _ => "event=panic_captured module=logging"
  | .programBooted _ => "event=cli_boot module=cli"

/-- How it went. -/
def status : Event → String
  | .itemRejected _ => "rejected"
  | .bootReused _ => "reuse"
  | .bootStarted _ | .moduleReadStarted _ _ => "start"
  | .instanceRefused _ _ | .bootFailed _ | .moduleUnreadable _ _ | .panicCaptured _ => "error"
  | _ => "ok"

/-- The version of the host. -/
def hostVersion : String := "0.1.0"

/-- The further keys of an event with their values, in order. -/
def details (labels : Labels) : Event → List (String × String)
  | .itemRejected found => [("reason", "root_requires_object"), ("found", found)]
  | .instanceReady extensions => [("extensions", toString extensions)]
  | .instanceStarted id =>
    [("instance_id", labels.identify id), ("duration_ms", labels.duration)]
  | .instanceRefused id refusal =>
    [("instance_id", labels.identify id), ("duration_ms", labels.duration),
      ("error", refusal.message)]
  | .extensionRegistered id name => [("instance_id", labels.identify id), ("name", name)]
  | .published id none => [("instance_id", labels.identify id)]
  | .published id (some displaced) =>
    [("instance_id", labels.identify id), ("displaced_instance_id", labels.identify displaced)]
  | .configUpdated id kind => [("instance_id", labels.identify id), ("config_kind", kind)]
  | .bootReused id => [("instance_id", labels.identify id)]
  | .bootStarted kind => [("config_kind", kind)]
  | .bootSucceeded id =>
    [("instance_id", labels.identify id), ("duration_ms", labels.duration)]
  | .bootFailed failure =>
    [("duration_ms", labels.duration), ("error_code", failure.code), ("error", failure.message)]
  | .moduleLoaded overridden =>
    [("override", toString overridden), ("duration_ms", labels.duration)]
  | .instanceConstructed id =>
    [("instance_id", labels.identify id), ("duration_ms", labels.duration)]
  | .moduleReadStarted path overridden => [("path", path), ("override", toString overridden)]
  | .moduleUnreadable path failure =>
    [("path", path), ("duration_ms", labels.duration), ("error", failure.message)]
  | .moduleRead image =>
    [("path", image.path), ("size_bytes", toString image.size), ("duration_ms", labels.duration)]
  | .loggingStarted level directory =>
    [("platform", "linux"), ("version", hostVersion), ("level", level.name),
      ("log_dir", directory)]
  | .panicCaptured payload => [("location", labels.location), ("payload", payload)]
  | .programBooted id => [("instance_id", labels.identify id)]

/-- The line of an event without its level. -/
def text (labels : Labels) (event : Event) : String :=
  (event.details labels).foldl (fun line (key, value) => line ++ " " ++ key ++ "=" ++ value)
    (event.subject ++ " status=" ++ event.status)

/-- The line of an event. -/
def line (labels : Labels) (event : Event) : String :=
  labels.stamp ++ event.level.heading ++ " " ++ event.text labels

end Event

end InstanceHost
