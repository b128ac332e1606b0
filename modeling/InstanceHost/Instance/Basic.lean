/-
**Instances.**

An instance has a number, an item tree whose item `self/config` is its configuration, and a registry
of extensions. It becomes ready when it is started and stays so. It remembers which names of
extensions it was handed each time it was started.

* `Instance.ofConfig`: a new instance from configuration text;
* `Instance.set`, `Instance.beginStart`, `Instance.finishStart`: the changes, with the events that
  they cause;
* `Instance.status`: what an instance shows of itself.
-/

import InstanceHost.Config.Options
import InstanceHost.Event
import InstanceHost.Extension.Basic
import InstanceHost.Extension.Registry
import InstanceHost.Instance.Items

namespace InstanceHost

/-- The key of an instance's configuration (`CONFIG_KEY`). -/
def configurationKey : String := "self/config"

/-- A running instance (`Runtime` over a `MemoryInstance`). -/
structure Instance where
  id : Nat
  items : Items
  ready : Bool
  registry : Keyed Extension
  refusal : Option String
  /-- The names of extensions it was handed each time it was started. -/
  starts : List (List String)

/-- What an instance shows of itself (`RuntimeStatus`). -/
structure Status where
  id : Nat
  ready : Bool
  extensions : List String
  config : Option Json

namespace Instance

/-- A new instance with items. -/
def ofItems (id : Nat) (items : Items) : Instance :=
  ⟨id, items, false, [], none, []⟩

/-- The items of a new instance with a configuration. -/
def configItems (config : Keyed Json) : Items :=
  Json.putMember (.object config) (keyPath configurationKey) []

/-- The items of a new instance with the configuration that a text describes
(`MemoryInstance.from_config`). -/
def readItems (text : String) : Except Refusal Items := do
  let config ← readConfig text
  return configItems config

/-- A new instance from configuration text (`Runtime.new` over `MemoryInstance.from_config`). -/
def ofConfig (id : Nat) (text : String) : Except Refusal Instance := do
  let items ← readItems text
  return ofItems id items

/-- The item at a key (`Runtime.get`). -/
def get? (target : Instance) (key : String) : Option Json :=
  target.items.get? key

/-- The configuration of an instance (`Runtime.config`). -/
def config? (target : Instance) : Option Json :=
  target.get? configurationKey

/-- The names of an instance's extensions. -/
def names (target : Instance) : List String :=
  target.registry.names

/-- What an instance shows of itself (`Runtime.status`). -/
def status (target : Instance) : Status :=
  ⟨target.id, target.ready, target.names, target.config?⟩

/-- Writes an item at a key (`Runtime.set`). -/
def set (target : Instance) (key : String) (value : Json) : Instance × List Event :=
  match target.items.set? key value with
  | some items => ({ target with items := items }, [])
  | none => (target, [.itemRejected value.kindName])

/-- The start begins: the names of the extensions are handed over (`Runtime.init` up to the init of
its core). -/
def beginStart (target : Instance) : Instance :=
  { target with starts := target.starts ++ [target.names] }

/-- The instance is ready, having been handed names of extensions; the first time is an event
(`MemoryInstance.init`). -/
def becomeReady (target : Instance) (names : List String) : Instance × List Event :=
  ({ target with ready := true }, if target.ready then [] else [.instanceReady names.length])

/-- The start ends: the instance is ready, or refuses (`Runtime.init` from the end of the init of
its core). -/
def finishStart (target : Instance) (names : List String) :
    Instance × List Event × Except Refusal Unit :=
  match target.refusal with
  | some message =>
    let refusal := Refusal.reported message
    (target, [.instanceRefused target.id refusal], .error refusal)
  | none =>
    let (ready, events) := target.becomeReady names
    (ready, events ++ [.instanceStarted target.id], .ok ())

/-- A start without a pause (`Runtime.init`). -/
def start (target : Instance) : Instance × List Event × Except Refusal Unit :=
  target.beginStart.finishStart target.names

/-- A description for a reader, in which a text stands for the identifier. -/
def describe (target : Instance) (identifier : String) : String :=
  let quoted := target.names.map fun name => "\"" ++ name ++ "\""
  "Runtime \x7b id: " ++ identifier ++ ", ready: " ++ toString target.ready ++
    ", extensions: ExtensionRegistry \x7b names: [" ++ String.intercalate ", " quoted ++
    "] \x7d \x7d"

end Instance

end InstanceHost
