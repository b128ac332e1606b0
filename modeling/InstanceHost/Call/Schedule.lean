/-
**Schedules.**

A schedule is a list of actions on a service: making calls, polling and abandoning them, publishing
and clearing, requests to instances, and changes to files. Instances are addressed by number, but
only once they have been *seen*: in the outcome of an action, or in the slot after one.

* `Service.act`: what an action does, with its outcome;
* `Desk`: a service with the numbers seen in it;
* `Desk.perform`: an action on numbers that have been seen;
* `Desk.run`: a schedule, with a report on every action.
-/

import InstanceHost.Call.Basic

namespace InstanceHost

/-- An action on a service. -/
inductive Action where
  | complete (order : Order)
  /-- Writing a configuration into the published instance, if there is one. -/
  | ensure (value : Json)
  /-- Making a call under a name, without running it. -/
  | spawn (call : String) (value : Json)
  /-- Making a call under a name that builds an instance in any case, without running it. -/
  | prepare (call : String) (config : NormalConfig)
  | poll (call : String)
  | drop (call : String)
  | create (text : String)
  | publish (id : Nat)
  | clear
  | request (id : Nat) (request : Request)
  | write (change : FileSystem → FileSystem)
  | delete (path : String)

/-- What an action comes to. -/
inductive Outcome where
  | ended (result : Except BootFailure Nat)
  | pending
  | noCall
  | noInstance
  | spawned
  /-- Whether there was something to take away. -/
  | taken (present : Bool)
  /-- The published instance, or none, unless the value is no configuration. -/
  | ensured (result : Except KindMismatch (Option Nat))
  | created (result : Except Refusal Nat)
  /-- The instance that was published before, if any. -/
  | occupant (id : Option Nat)
  | asked (session : Session)
  | written

/-- The numbers of instances that an outcome shows. -/
def Outcome.shown : Outcome → List Nat
  | .ended (.ok id) => [id]
  | .ensured (.ok (some id)) => [id]
  | .created (.ok id) => [id]
  | .occupant (some id) => [id]
  | _ => []

namespace Service

/-- Changes the files. -/
def withFiles (service : Service) (files : FileSystem) : Service :=
  { service with host := { service.host with files := files } }

/-- Makes a call under a name, in the place of the call that was in flight under it. -/
def make (service : Service) (call : String) (order : Order) : Service × Outcome :=
  ({ service with calls := service.calls.insert call (.fresh order) }, .spawned)

/-- Polls the call under a name and forgets it at its end. -/
def pollCall (service : Service) (call : String) : Service × Outcome :=
  match service.calls.lookup call with
  | none => (service, .noCall)
  | some stage =>
    let progress := service.poll stage
    match progress.stage with
    | .finished result =>
      ({ progress.service with calls := progress.service.calls.erase call }, .ended result)
    | stage =>
      ({ progress.service with calls := progress.service.calls.insert call stage }, .pending)

/-- Writes a configuration into the published instance (`ensure_singleton` after `from_value`). -/
def ensure (service : Service) (value : Json) : Service × Outcome :=
  match Config.ofJson value with
  | .error mismatch => (service, .ensured (.error mismatch))
  | .ok config =>
    match service.reuse? config with
    | none => (service, .ensured (.ok none))
    | some (changed, id) => (changed, .ensured (.ok (some id)))

/-- Adds an instance that is neither started nor published. -/
def create (service : Service) (text : String) : Service × Outcome :=
  match Instance.ofConfig service.host.nextId text with
  | .error refusal => (service, .created (.error refusal))
  | .ok new => ({ service with host := service.host.add new }, .created (.ok new.id))

/-- Makes a request to an instance. -/
def askInstance (service : Service) (id : Nat) (request : Request) : Service × Outcome :=
  match service.host.find? id with
  | none => (service, .noInstance)
  | some found =>
    let session := found.ask request
    (service.replace session.target session.events, .asked session)

/-- **What an action does.** -/
def act (service : Service) : Action → Service × Outcome
  | .complete order =>
    let progress := service.complete order
    match progress.stage with
    | .finished result => (progress.service, .ended result)
    | _ => (progress.service, .pending)
  | .ensure value => service.ensure value
  | .spawn call value => service.make call (.value value)
  | .prepare call config => service.make call (.normal config)
  | .poll call => service.pollCall call
  | .drop call =>
    ({ service with calls := service.calls.erase call }, .taken (service.calls.contains call))
  | .create text => service.create text
  | .publish id => (service.publish id, .occupant service.slot)
  | .clear => (service.clear, .occupant service.slot)
  | .request id request => service.askInstance id request
  | .write change => (service.withFiles (change service.host.files), .written)
  | .delete path =>
    match service.host.files.delete? path with
    | some files => (service.withFiles files, .taken true)
    | none => (service, .taken false)

end Service

/-- The number of the instance that an action addresses. -/
def Action.addressed : Action → Option Nat
  | .publish id => some id
  | .request id _ => some id
  | _ => none

/-- A service with the numbers of the instances seen in it. -/
structure Desk where
  service : Service
  seen : List Nat

/-- What an action came to, and the published instance after it. -/
structure Report where
  outcome : Outcome
  current : Option Instance

namespace Desk

/-- An action on an instance, if its number has been seen. -/
def attempt (desk : Desk) (action : Action) : Service × Outcome :=
  match action.addressed with
  | some id => if id ∈ desk.seen then desk.service.act action else (desk.service, .noInstance)
  | none => desk.service.act action

/-- **An action, with the numbers that it shows.** -/
def perform (desk : Desk) (action : Action) : Desk × Report :=
  let (service, outcome) := desk.attempt action
  (⟨service, desk.seen ++ outcome.shown ++ service.slot.toList⟩, ⟨outcome, service.current?⟩)

/-- A schedule, with a report on every action. -/
def run (desk : Desk) : List Action → Desk × List Report
  | [] => (desk, [])
  | action :: rest =>
    let (next, report) := desk.perform action
    let (last, reports) := next.run rest
    (last, report :: reports)

end Desk

end InstanceHost
