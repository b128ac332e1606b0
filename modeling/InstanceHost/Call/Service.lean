/-
**The service of a host.**

A host keeps files, instances and a log. Calls for an instance share a slot, which holds at most one
published instance, and a loader, which remembers what it was asked for.

* `Host`: what all slots and loaders of a process share;
* `LoadPlan`, `Loader`: how a loader behaves, load by load;
* `Service`: a host with a slot, a loader, and the calls in flight;
* `Service.publish`: the only way into the slot, in which the last instance published stays.
-/

import InstanceHost.Instance.Session
import InstanceHost.Module.Load

namespace InstanceHost

/-! ### Hosts -/

/-- What a process keeps. -/
structure Host where
  files : FileSystem
  /-- The instances, each at the place of its number. -/
  instances : List Instance
  log : List Event

namespace Host

/-- The number of the next instance. -/
def nextId (host : Host) : Nat :=
  host.instances.length

/-- The instance with a number. -/
def find? (host : Host) (id : Nat) : Option Instance :=
  host.instances[id]?

/-- The instance with a number; a number not given away yet stands for an instance without items. -/
def get (host : Host) (id : Nat) : Instance :=
  (host.find? id).getD (Instance.ofItems id [])

/-- Adds events to the log. -/
def record (host : Host) (events : List Event) : Host :=
  { host with log := host.log ++ events }

/-- Adds an instance. -/
def add (host : Host) (new : Instance) : Host :=
  { host with instances := host.instances ++ [new] }

/-- Puts a changed instance in its place. -/
def replace (host : Host) (changed : Instance) : Host :=
  { host with instances := host.instances.set changed.id changed }

end Host

/-! ### Loaders -/

/-- How one load and what comes of it will go (`ModuleLoader.load`, `CompiledModule.construct` and
the init of the core). -/
structure LoadPlan where
  loadPauses : Nat
  loadFailure : Option LoadFailure
  /-- How often building the instance pauses. -/
  buildPauses : Nat
  /-- Building fails, whatever the text. -/
  buildFailure : Option String
  /-- How often starting the instance pauses. -/
  startPauses : Nat
  startFailure : Option String
  /-- What the loaded module makes of a text: the items of an instance, or a refusal. -/
  construct : String → Except Refusal Items := Instance.readItems

namespace LoadPlan

/-- The plan without pauses and failures, with a module that reads the text as a configuration. -/
def smooth : LoadPlan where
  loadPauses := 0
  loadFailure := none
  buildPauses := 0
  buildFailure := none
  startPauses := 0
  startFailure := none

/-- What building an instance from a text comes to. -/
def building (plan : LoadPlan) (text : String) : Except Refusal Items :=
  match plan.buildFailure with
  | some message => .error (.reported message)
  | none => plan.construct text

end LoadPlan

/-- How modules are loaded (`ModuleLoader`). -/
inductive Loader where
  | scripted (plan : Nat → LoadPlan)
  /-- Modules are files, and the loader has a directory of its own. -/
  | files (directory : String)

/-- What a loader was asked for. -/
structure LoaderRecord where
  /-- The path that each load was told, if any. -/
  binaries : List (Option String)
  configs : List String
  built : List Nat

/-- A loader that was asked for nothing yet. -/
def LoaderRecord.empty : LoaderRecord := ⟨[], [], []⟩

/-! ### Calls -/

/-- What a call is made with. -/
inductive Order where
  /-- A value that should be a configuration; a published instance is reused. -/
  | value (config : Json)
  /-- A normal form; a new instance is built in any case. -/
  | normal (config : NormalConfig)

/-- A call that is building an instance. -/
structure Job where
  config : NormalConfig
  /-- Whether the log tells of the call's beginning and end. -/
  announced : Bool

/-- How far a call has come. -/
inductive Stage where
  | fresh (order : Order)
  /-- It is loading the module, with a number of pauses left. -/
  | loading (job : Job) (plan : LoadPlan) (pauses : Nat)
  | building (job : Job) (plan : LoadPlan) (pauses : Nat)
  /-- It is starting the instance with a number, which was handed names. -/
  | starting (job : Job) (id : Nat) (names : List String) (pauses : Nat)
  | finished (result : Except BootFailure Nat)

/-! ### Services -/

/-- A host with a slot, a loader, and the calls in flight (`RuntimeSlot` and `ModuleLoader`). -/
structure Service where
  host : Host
  slot : Option Nat
  loader : Loader
  record : LoaderRecord
  calls : Keyed Stage

namespace Service

/-- Adds events to the log. -/
def log (service : Service) (events : List Event) : Service :=
  { service with host := service.host.record events }

/-- The published instance (`RuntimeSlot.get`). -/
def current? (service : Service) : Option Instance :=
  service.slot.bind service.host.find?

/-- **Publishes an instance** (`RuntimeSlot.publish`), in the place of the one that was published
before. -/
def publish (service : Service) (id : Nat) : Service :=
  { service.log [.published id service.slot] with slot := some id }

/-- Empties the slot (`RuntimeSlot.clear`). -/
def clear (service : Service) : Service :=
  { service with slot := none }

/-- Adds a new instance and logs it. -/
def addBuilt (service : Service) (new : Instance) : Service :=
  { service with
    host := (service.host.add new).record [.instanceConstructed new.id]
    record := { service.record with built := service.record.built ++ [new.id] } }

/-- Puts a changed instance in its place and logs what the change caused. -/
def replace (service : Service) (changed : Instance) (events : List Event) : Service :=
  { service with host := (service.host.replace changed).record events }

/-- Remembers a load. -/
def recordLoad (service : Service) (binary : Option String) : Service :=
  { service with record := { service.record with binaries := service.record.binaries ++ [binary] } }

/-- Remembers the text that an instance is to be built from. -/
def recordBuild (service : Service) (text : String) : Service :=
  { service with record := { service.record with configs := service.record.configs ++ [text] } }

end Service

end InstanceHost
