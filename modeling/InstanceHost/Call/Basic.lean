/-
**Calls for an instance.**

A call gets the published instance, if there is one, and writes its configuration into it. Otherwise
it builds an instance: it loads the module, builds the instance, starts it and publishes it. Each of
the first three can pause, and a call runs from one pause to the next when it is polled.

* `Service.reuse?`: the published instance with the configuration written into it;
* `Service.poll`: a call up to its next pause, or to its end;
* `Service.complete`: a call from its beginning to its end;
* `Service.remaining_poll`: a poll of a call in flight ends it or leaves it fewer polls to go, so
  that `Service.complete` does reach the end.
-/

import InstanceHost.Call.Service

namespace InstanceHost

/-- A service, and how far a call has come in it. -/
structure Progress where
  service : Service
  stage : Stage

namespace Service

/-! ### Reuse -/

/-- The published instance with the configuration written into it, and its number
(`ensure_singleton`). -/
def reuse? (service : Service) (config : Config) : Option (Service × Nat) :=
  match service.current? with
  | none => none
  | some found =>
    let (changed, events) := found.set configurationKey config.toJson
    some (service.replace changed (events ++ [.configUpdated found.id config.kindName]), found.id)

/-! ### Building -/

/-- The end of a call that builds an instance (the last event of `init_runtime`). -/
def finish (service : Service) (job : Job) (result : Except BootFailure Nat) : Progress :=
  let closing := match result with
    | .ok id => Event.bootSucceeded id
    | .error failure => Event.bootFailed failure
  ⟨if job.announced then service.log [closing] else service, .finished result⟩

/-- Goes on with a start that has pauses left (`load_and_construct`, awaiting the init). -/
def advanceStarting (service : Service) (job : Job) (id : Nat) (names : List String) :
    (pauses : Nat) → Progress
  | pauses + 1 => ⟨service, .starting job id names pauses⟩
  | 0 =>
    match (service.host.get id).finishStart names with
    | (changed, events, .error refusal) =>
      (service.replace changed events).finish job (.error (.construction refusal))
    | (changed, events, .ok ()) =>
      ((service.replace changed events).publish id).finish job (.ok id)

/-- Starts an instance that was just built (`load_and_construct`, the init). -/
def beginStarting (service : Service) (job : Job) (plan : LoadPlan) (new : Instance) : Progress :=
  (service.addBuilt new.beginStart).advanceStarting job new.id new.names plan.startPauses

/-- Goes on with building an instance that has pauses left (`load_and_construct`, awaiting the
module's `construct`). -/
def advanceBuilding (service : Service) (job : Job) (plan : LoadPlan) : (pauses : Nat) → Progress
  | pauses + 1 => ⟨service, .building job plan pauses⟩
  | 0 =>
    match plan.building job.config.canonical with
    | .error refusal => service.finish job (.error (.construction refusal))
    | .ok items =>
      let new := Instance.ofItems service.host.nextId items
      service.beginStarting job plan { new with refusal := plan.startFailure }

/-- Builds an instance with a module that was just loaded (`load_and_construct`, the module's
`construct`). -/
def beginBuilding (service : Service) (job : Job) (plan : LoadPlan) : Progress :=
  let loaded := service.log [.moduleLoaded job.config.modulePath.isSome]
  (loaded.recordBuild job.config.canonical).advanceBuilding job plan plan.buildPauses

/-- Goes on with a load that has pauses left (`load_and_construct`, awaiting the load). -/
def advanceLoading (service : Service) (job : Job) (plan : LoadPlan) : (pauses : Nat) → Progress
  | pauses + 1 => ⟨service, .loading job plan pauses⟩
  | 0 =>
    match plan.loadFailure with
    | some failure => service.finish job (.error (.moduleLoad failure))
    | none => service.beginBuilding job plan

/-- Loads the module (`load_and_construct`). A module file is read without a pause. -/
def beginLoading (service : Service) (job : Job) : Progress :=
  let binary := job.config.modulePath
  let asked := service.recordLoad binary
  match service.loader with
  | .scripted plan =>
    let own := plan service.record.binaries.length
    asked.advanceLoading job own own.loadPauses
  | .files directory =>
    let reading := loadModule service.host.files directory binary
    let told := asked.log reading.events
    match reading.outcome with
    | .error failure => told.finish job (.error (.moduleLoad failure))
    | .ok _ => told.beginBuilding job .smooth

/-! ### Polls -/

/-- The beginning of a call with a configuration (`init_runtime`). -/
def beginConfig (service : Service) (config : Config) : Progress :=
  match service.reuse? config with
  | some (changed, id) => ⟨changed.log [.bootReused id], .finished (.ok id)⟩
  | none =>
    let told := service.log [.bootStarted config.kindName]
    match config.toNormal with
    | .error fault =>
      ⟨told.log [.bootFailed (.config fault)], .finished (.error (.config fault))⟩
    | .ok normal => told.beginLoading ⟨normal, true⟩

/-- The beginning of a call (`init_runtime_value`, or `load_and_construct` for a normal form). -/
def begin (service : Service) : Order → Progress
  | .normal config => service.beginLoading ⟨config, false⟩
  | .value value =>
    match Config.ofJson value with
    | .error mismatch => ⟨service, .finished (.error (.configType mismatch))⟩
    | .ok config => service.beginConfig config

/-- **A call up to its next pause, or to its end** (one poll of `init_runtime_value`). -/
def poll (service : Service) : Stage → Progress
  | .fresh order => service.begin order
  | .loading job plan pauses => service.advanceLoading job plan pauses
  | .building job plan pauses => service.advanceBuilding job plan pauses
  | .starting job id names pauses => service.advanceStarting job id names pauses
  | .finished result => ⟨service, .finished result⟩

end Service

/-- The greatest number of polls that a call in flight can still take. -/
def Stage.remaining : Stage → Nat
  | .fresh _ => 0
  | .loading _ plan pauses => pauses + plan.buildPauses + plan.startPauses + 1
  | .building _ plan pauses => pauses + plan.startPauses + 1
  | .starting _ _ _ pauses => pauses + 1
  | .finished _ => 0

namespace Service

/-- A number of polls. -/
def polls (progress : Progress) : (count : Nat) → Progress
  | 0 => progress
  | count + 1 => polls (progress.service.poll progress.stage) count

/-- **A call from its beginning to its end** (`init_runtime_value`, awaited). -/
def complete (service : Service) (order : Order) : Progress :=
  let first := service.begin order
  polls first first.stage.remaining

/-! ### Every poll leaves fewer polls -/

/-- A call that ends has no polls left. -/
theorem remaining_finish (service : Service) (job : Job) (result : Except BootFailure Nat) :
    (service.finish job result).stage.remaining = 0 := rfl

/-- A start leaves at most as many polls as it has pauses. -/
theorem remaining_advanceStarting (service : Service) (job : Job) (id : Nat) (names : List String)
    (pauses : Nat) :
    (service.advanceStarting job id names pauses).stage.remaining ≤ pauses := by
  cases pauses with
  | succ pauses => simp [advanceStarting, Stage.remaining]
  | zero =>
    simp only [advanceStarting]
    split
    · exact Nat.le_of_eq (remaining_finish _ _ _)
    · exact Nat.le_of_eq (remaining_finish _ _ _)

/-- Building leaves at most as many polls as it and the start have pauses. -/
theorem remaining_advanceBuilding (service : Service) (job : Job) (plan : LoadPlan) (pauses : Nat) :
    (service.advanceBuilding job plan pauses).stage.remaining ≤ pauses + plan.startPauses := by
  cases pauses with
  | succ pauses =>
    simp only [advanceBuilding, Stage.remaining]
    omega
  | zero =>
    simp only [advanceBuilding]
    split
    · rw [remaining_finish]
      omega
    · have bound := remaining_advanceStarting
      simp only [beginStarting]
      exact Nat.le_trans (bound _ _ _ _ _) (by omega)

/-- A load leaves at most as many polls as it and what comes after it have pauses. -/
theorem remaining_advanceLoading (service : Service) (job : Job) (plan : LoadPlan) (pauses : Nat) :
    (service.advanceLoading job plan pauses).stage.remaining ≤
      pauses + plan.buildPauses + plan.startPauses := by
  cases pauses with
  | succ pauses =>
    simp only [advanceLoading, Stage.remaining]
    omega
  | zero =>
    simp only [advanceLoading]
    split
    · rw [remaining_finish]
      omega
    · simp only [beginBuilding]
      exact Nat.le_trans (remaining_advanceBuilding _ _ _ _) (by omega)

/-- **A poll of a call in flight leaves it fewer polls.** -/
theorem remaining_poll (service : Service) (stage : Stage)
    (started : ∀ order, stage ≠ .fresh order) :
    (service.poll stage).stage.remaining ≤ stage.remaining - 1 := by
  cases stage with
  | fresh order => exact absurd rfl (started order)
  | loading job plan pauses =>
    refine Nat.le_trans (service.remaining_advanceLoading job plan pauses) ?_
    simp only [Stage.remaining]
    omega
  | building job plan pauses =>
    refine Nat.le_trans (service.remaining_advanceBuilding job plan pauses) ?_
    simp only [Stage.remaining]
    omega
  | starting job id names pauses =>
    refine Nat.le_trans (service.remaining_advanceStarting job id names pauses) ?_
    simp only [Stage.remaining]
    omega
  | finished result => simp [poll, Stage.remaining]

end Service

end InstanceHost
