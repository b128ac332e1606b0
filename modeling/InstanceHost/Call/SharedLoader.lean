/-
**Loaders whose loads share a state.**

A plan settles how a load will go when the load begins. For one call by itself this leaves nothing
out: whatever its loader answers, a plan made in hindsight says it beforehand. Calls that are in
flight at the same time are another matter, since what a loader answers one of them after a pause
may depend on what it has answered the others by then. A shared loader has a state, is asked at
every poll of a pending load, and may put the load on another course each time.

* `PendingLoad`: what a loader knows of a call in flight;
* `SharedLoader`, `SharedLoader.poll`, `SharedLoader.run`: polls that ask the loader first;
* `SharedLoader.steadfast`: the loader that never changes a course;
* `SharedLoader.ofFiles`: the loader of module files, which pauses while it reads;
* `SharedLoader.failing`: a loader with a number of loads that are still to fail.
-/

import InstanceHost.Call.Schedule

namespace InstanceHost

/-! ### Pending loads -/

/-- How a load goes on: the pauses left where it is, and the plan for what comes after them. -/
structure LoadCourse where
  pauses : Nat
  plan : LoadPlan

/-- Where a load is. -/
inductive LoadPhase where
  | loading
  | building
  /-- An instance with items is starting; it was handed names of extensions. -/
  | starting (items : Items) (names : List String)

/-- **A call in flight, as its loader knows it.** -/
structure PendingLoad where
  config : NormalConfig
  phase : LoadPhase
  course : LoadCourse

/-- The load with another course. -/
def PendingLoad.redirect (load : PendingLoad) (course : LoadCourse) : PendingLoad :=
  { load with course := course }

namespace Stage

/-- The load that a call is at. Of the plan, a start only has its own failure left. -/
def pendingLoad? (host : Host) : Stage → Option PendingLoad
  | .loading job plan pauses => some ⟨job.config, .loading, pauses, plan⟩
  | .building job plan pauses => some ⟨job.config, .building, pauses, plan⟩
  | .starting job id names pauses =>
    let new := host.get id
    let plan := { LoadPlan.smooth with startFailure := new.refusal }
    some ⟨job.config, .starting new.items names, pauses, plan⟩
  | .fresh _ | .finished _ => none

/-- The stage with another course. -/
def redirect (course : LoadCourse) : Stage → Stage
  | .loading job _ _ => .loading job course.plan course.pauses
  | .building job _ _ => .building job course.plan course.pauses
  | .starting job id names _ => .starting job id names course.pauses
  | stage => stage

end Stage

/-- The instance that a call is starting does as another course says. -/
def Host.redirect (host : Host) (course : LoadCourse) : Stage → Host
  | .starting _ id _ _ => host.replace { host.get id with refusal := course.plan.startFailure }
  | _ => host

namespace Service

/-- The load of the call under a name. -/
def pendingLoad? (service : Service) (call : String) : Option PendingLoad :=
  (service.calls.lookup call).bind (Stage.pendingLoad? service.host)

/-- Puts the call under a name on another course. -/
def redirect (service : Service) (call : String) (course : LoadCourse) : Service :=
  match service.calls.lookup call with
  | none => service
  | some stage =>
    { service with
      host := service.host.redirect course stage
      calls := service.calls.insert call (stage.redirect course) }

end Service

/-! ### Polls -/

/-- **A loader whose loads share a state** (`ModuleLoader`, `CompiledModule` and the init of a core,
with all that they keep). At every poll of a pending load it says how the load goes on. It knows its
loads apart, here by the names of their calls. -/
structure SharedLoader (State : Type) where
  resume : State → FileSystem → String → PendingLoad → LoadCourse × State

/-- A service with the state of its loader. -/
structure SharedService (State : Type) where
  service : Service
  state : State

namespace SharedLoader

section

variable {State : Type} (loader : SharedLoader State)

/-- Asks the loader about a call, if it is in flight. -/
def attend (here : SharedService State) (call : String) : SharedService State :=
  match here.service.pendingLoad? call with
  | none => here
  | some load =>
    let (course, state) := loader.resume here.state here.service.host.files call load
    ⟨here.service.redirect call course, state⟩

/-- **Polls the call under a name**, once the loader has been asked about it. -/
def poll (here : SharedService State) (call : String) : SharedService State × Outcome :=
  let asked := loader.attend here call
  let (service, outcome) := asked.service.pollCall call
  (⟨service, asked.state⟩, outcome)

/-- Polls calls one after the other, with the outcome of every poll. -/
def run (here : SharedService State) : List String → SharedService State × List Outcome
  | [] => (here, [])
  | call :: rest =>
    let (next, outcome) := loader.poll here call
    let (last, outcomes) := run next rest
    (last, outcome :: outcomes)

end

/-! ### Some loaders -/

/-- The loader that never changes a course. -/
def steadfast : SharedLoader Unit where
  resume _ _ _ load := (load.course, ())

/-- The loader of module files (`FileModuleLoader`). The file counts as it is when the pauses of its
load are over. -/
def ofFiles (directory : String) : SharedLoader Unit where
  resume _ files _ load :=
    match load.phase, load.course.pauses with
    | .loading, 0 =>
      match (loadModule files directory load.config.modulePath).outcome with
      | .error failure => (⟨0, { LoadPlan.smooth with loadFailure := some failure }⟩, ())
      | .ok _ => (⟨0, .smooth⟩, ())
    | _, _ => (load.course, ())

/-- A loader with a number of loads that are still to fail: those whose pauses are over first
(`CountingLoader` with `failing_loads`). The others pause once more while an instance is built. -/
def failing : SharedLoader Nat where
  resume failures _ _ load :=
    match load.phase, load.course.pauses, failures with
    | .loading, 0, left + 1 =>
      (⟨0, { LoadPlan.smooth with loadFailure := some (.reported "compile failed") }⟩, left)
    | .loading, 0, 0 => (⟨0, { LoadPlan.smooth with buildPauses := 1 }⟩, 0)
    | _, _, _ => (load.course, failures)

end SharedLoader

end InstanceHost
