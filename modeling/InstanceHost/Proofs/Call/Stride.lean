/-
**A poll, stride by stride.**

A poll takes a call through its stages until the call pauses or ends. `Stride` is what happens in
between: one pause passed, or one stage left for the next, with all that this does to the service.

* `Stride`: the strides, one constructor for each way out of a stage;
* `strides_poll`: a poll is a sequence of strides, so that what every stride keeps every poll keeps;
* `Stride.calls_eq`: no stride touches the calls in flight;
* `Stride.surroundings`: no stride changes the loader or the files;
* `unfinished_of_stride`: a call that has ended takes no further stride.
-/

import InstanceHost.Call.Basic
import Mathlib.Logic.Relation

namespace InstanceHost

/-- How the loader answers a load: the events of reading a file, and how the load and what comes of
it will go. A module file is read without a pause. -/
def Service.answer (service : Service) (binary : Option String) : List Event × LoadPlan :=
  match service.loader with
  | .scripted plan => ([], plan service.record.binaries.length)
  | .files directory =>
    let reading := loadModule service.host.files directory binary
    match reading.outcome with
    | .error failure => (reading.events, { LoadPlan.smooth with loadFailure := some failure })
    | .ok _ => (reading.events, .smooth)

/-- Asks the loader for a module. -/
def Service.askLoader (service : Service) (binary : Option String) : Service :=
  (service.recordLoad binary).log (service.answer binary).1

/-- **One pause passed, or one stage left.** -/
inductive Stride : Progress → Progress → Prop
  | mismatched {service : Service} {value : Json} {mismatch : KindMismatch}
      (kind : Config.ofJson value = .error mismatch) :
      Stride ⟨service, .fresh (.value value)⟩ ⟨service, .finished (.error (.configType mismatch))⟩
  /-- There is a published instance. -/
  | reused {service changed : Service} {value : Json} {config : Config} {id : Nat}
      (kind : Config.ofJson value = .ok config)
      (found : service.reuse? config = some (changed, id)) :
      Stride ⟨service, .fresh (.value value)⟩ ⟨changed.log [.bootReused id], .finished (.ok id)⟩
  | unresolved {service : Service} {value : Json} {config : Config} {fault : ConfigFault}
      (kind : Config.ofJson value = .ok config) (missing : service.reuse? config = none)
      (normal : config.toNormal = .error fault) :
      Stride ⟨service, .fresh (.value value)⟩
        ⟨(service.log [.bootStarted config.kindName]).log [.bootFailed (.config fault)],
          .finished (.error (.config fault))⟩
  /-- There is no published instance, and the loader is asked for a module. -/
  | announced {service told : Service} {value : Json} {config : Config} {normal : NormalConfig}
      (kind : Config.ofJson value = .ok config) (missing : service.reuse? config = none)
      (resolved : config.toNormal = .ok normal)
      (telling : told = service.log [.bootStarted config.kindName]) :
      Stride ⟨service, .fresh (.value value)⟩
        ⟨told.askLoader normal.modulePath,
          .loading ⟨normal, true⟩ (told.answer normal.modulePath).2
            (told.answer normal.modulePath).2.loadPauses⟩
  /-- The loader is asked for a module at once. -/
  | direct {service : Service} {normal : NormalConfig} :
      Stride ⟨service, .fresh (.normal normal)⟩
        ⟨service.askLoader normal.modulePath,
          .loading ⟨normal, false⟩ (service.answer normal.modulePath).2
            (service.answer normal.modulePath).2.loadPauses⟩
  | waitLoading {service : Service} {job : Job} {plan : LoadPlan} {pauses : Nat} :
      Stride ⟨service, .loading job plan (pauses + 1)⟩ ⟨service, .loading job plan pauses⟩
  | notLoaded {service : Service} {job : Job} {plan : LoadPlan} {failure : LoadFailure}
      (failed : plan.loadFailure = some failure) :
      Stride ⟨service, .loading job plan 0⟩ (service.finish job (.error (.moduleLoad failure)))
  | loaded {service : Service} {job : Job} {plan : LoadPlan}
      (succeeded : plan.loadFailure = none) :
      Stride ⟨service, .loading job plan 0⟩
        ⟨(service.log [.moduleLoaded job.config.modulePath.isSome]).recordBuild
          job.config.canonical, .building job plan plan.buildPauses⟩
  | waitBuilding {service : Service} {job : Job} {plan : LoadPlan} {pauses : Nat} :
      Stride ⟨service, .building job plan (pauses + 1)⟩ ⟨service, .building job plan pauses⟩
  /-- The instance is not built. -/
  | notBuilt {service : Service} {job : Job} {plan : LoadPlan} {refusal : Refusal}
      (failed : plan.building job.config.canonical = .error refusal) :
      Stride ⟨service, .building job plan 0⟩ (service.finish job (.error (.construction refusal)))
  | built {service : Service} {job : Job} {plan : LoadPlan} {items : Items} {new : Instance}
      (making : plan.building job.config.canonical = .ok items)
      (planned : new =
        { Instance.ofItems service.host.nextId items with refusal := plan.startFailure }) :
      Stride ⟨service, .building job plan 0⟩
        ⟨service.addBuilt new.beginStart, .starting job new.id new.names plan.startPauses⟩
  | waitStarting {service : Service} {job : Job} {id : Nat} {names : List String} {pauses : Nat} :
      Stride ⟨service, .starting job id names (pauses + 1)⟩
        ⟨service, .starting job id names pauses⟩
  | notStarted {service : Service} {job : Job} {id : Nat} {names : List String}
      {changed : Instance} {events : List Event} {refusal : Refusal}
      (failed : (service.host.get id).finishStart names = (changed, events, .error refusal)) :
      Stride ⟨service, .starting job id names 0⟩
        ((service.replace changed events).finish job (.error (.construction refusal)))
  | started {service : Service} {job : Job} {id : Nat} {names : List String}
      {changed : Instance} {events : List Event}
      (succeeded : (service.host.get id).finishStart names = (changed, events, .ok ())) :
      Stride ⟨service, .starting job id names 0⟩
        (((service.replace changed events).publish id).finish job (.ok id))

/-- Strides one after the other. -/
abbrev Strides : Progress → Progress → Prop :=
  Relation.ReflTransGen Stride

namespace Service

/-! ### A poll is a sequence of strides -/

theorem log_nil (service : Service) : service.log [] = service := by
  simp [log, Host.record]

theorem beginLoading_eq (service : Service) (job : Job) :
    service.beginLoading job =
      (service.askLoader job.config.modulePath).advanceLoading job
        (service.answer job.config.modulePath).2
        (service.answer job.config.modulePath).2.loadPauses := by
  unfold beginLoading askLoader answer
  cases service.loader with
  | scripted plan =>
    simp only [log_nil]
  | files directory =>
    simp only
    cases (loadModule service.host.files directory job.config.modulePath).outcome with
    | error failure => rfl
    | ok image => rfl

theorem strides_advanceStarting (service : Service) (job : Job) (id : Nat) (names : List String)
    (pauses : Nat) :
    Strides ⟨service, .starting job id names pauses⟩
      (service.advanceStarting job id names pauses) := by
  cases pauses with
  | succ pauses => exact .single .waitStarting
  | zero =>
    simp only [advanceStarting]
    split
    · next changed events refusal failed => exact .single (.notStarted failed)
    · next changed events succeeded => exact .single (.started succeeded)

theorem strides_advanceBuilding (service : Service) (job : Job) (plan : LoadPlan) (pauses : Nat) :
    Strides ⟨service, .building job plan pauses⟩ (service.advanceBuilding job plan pauses) := by
  cases pauses with
  | succ pauses => exact .single .waitBuilding
  | zero =>
    simp only [advanceBuilding]
    split
    · next refusal failed => exact .single (.notBuilt failed)
    · next items making =>
      exact .head (.built making rfl) (strides_advanceStarting _ _ _ _ _)

theorem strides_advanceLoading (service : Service) (job : Job) (plan : LoadPlan) (pauses : Nat) :
    Strides ⟨service, .loading job plan pauses⟩ (service.advanceLoading job plan pauses) := by
  cases pauses with
  | succ pauses => exact .single .waitLoading
  | zero =>
    simp only [advanceLoading]
    split
    · next failure failed => exact .single (.notLoaded failed)
    · next succeeded => exact .head (.loaded succeeded) (strides_advanceBuilding _ _ _ _)

/-- The beginning of a call is one stride at least. -/
theorem strides_begin (service : Service) (order : Order) :
    ∃ first, Stride ⟨service, .fresh order⟩ first ∧ Strides first (service.begin order) := by
  cases order with
  | normal config =>
    rw [begin, beginLoading_eq]
    exact ⟨_, .direct, strides_advanceLoading _ _ _ _⟩
  | value value =>
    simp only [begin]
    split
    · next mismatch kind => exact ⟨_, .mismatched kind, .refl⟩
    · next config kind =>
      simp only [beginConfig]
      split
      · next changed id found => exact ⟨_, .reused kind found, .refl⟩
      · next missing =>
        split
        · next fault normal => exact ⟨_, .unresolved kind missing normal, .refl⟩
        · next normal resolved =>
          rw [beginLoading_eq]
          exact ⟨_, .announced kind missing resolved rfl, strides_advanceLoading _ _ _ _⟩

/-- **A poll is a sequence of strides.** -/
theorem strides_poll (service : Service) (stage : Stage) :
    Strides ⟨service, stage⟩ (service.poll stage) := by
  cases stage with
  | fresh order =>
    obtain ⟨first, stride, chain⟩ := strides_begin service order
    exact .head stride chain
  | loading job plan pauses => exact strides_advanceLoading service job plan pauses
  | building job plan pauses => exact strides_advanceBuilding service job plan pauses
  | starting job id names pauses => exact strides_advanceStarting service job id names pauses
  | finished result => exact .refl

end Service

/-! ### What no stride does -/

/-- Whether a call is still in flight. -/
def Stage.Unfinished : Stage → Prop
  | .finished _ => False
  | _ => True

/-- **A call that has ended takes no further stride.** -/
theorem unfinished_of_stride {before after : Progress} (stride : Stride before after) :
    before.stage.Unfinished := by
  cases stride <;> trivial

theorem Service.finish_calls (service : Service) (job : Job) (result : Except BootFailure Nat) :
    (service.finish job result).service.calls = service.calls := by
  simp only [finish]
  split <;> rfl

theorem Service.reuse?_calls {service changed : Service} {config : Config} {id : Nat}
    (found : service.reuse? config = some (changed, id)) : changed.calls = service.calls := by
  unfold reuse? at found
  split at found
  · cases found
  · cases found
    rfl

/-- **No stride touches the calls in flight.** -/
theorem Stride.calls_eq {before after : Progress} (stride : Stride before after) :
    after.service.calls = before.service.calls := by
  cases stride with
  | reused kind found =>
    have same := Service.reuse?_calls found
    exact same
  | announced kind missing resolved telling =>
    subst telling
    rfl
  | notLoaded failed => exact Service.finish_calls _ _ _
  | notBuilt failed => exact Service.finish_calls _ _ _
  | notStarted failed => exact Service.finish_calls _ _ _
  | started succeeded => exact Service.finish_calls _ _ _
  | _ => rfl

theorem Service.finish_surroundings (service : Service) (job : Job)
    (result : Except BootFailure Nat) :
    (service.finish job result).service.loader = service.loader ∧
      (service.finish job result).service.host.files = service.host.files := by
  simp only [finish]
  split <;> exact ⟨rfl, rfl⟩

theorem Service.reuse?_surroundings {service changed : Service} {config : Config} {id : Nat}
    (found : service.reuse? config = some (changed, id)) :
    changed.loader = service.loader ∧ changed.host.files = service.host.files := by
  unfold reuse? at found
  split at found
  · cases found
  · cases found
    exact ⟨rfl, rfl⟩

/-- **No stride changes the loader or the files.** -/
theorem Stride.surroundings {before after : Progress} (stride : Stride before after) :
    after.service.loader = before.service.loader ∧
      after.service.host.files = before.service.host.files := by
  cases stride with
  | reused kind found =>
    have same := Service.reuse?_surroundings found
    exact same
  | announced kind missing resolved telling =>
    subst telling
    exact ⟨rfl, rfl⟩
  | notLoaded failed => exact Service.finish_surroundings _ _ _
  | notBuilt failed => exact Service.finish_surroundings _ _ _
  | notStarted failed => exact Service.finish_surroundings _ _ _
  | started succeeded => exact Service.finish_surroundings _ _ _
  | _ => exact ⟨rfl, rfl⟩

/-- Nor do strides in a row. -/
theorem Strides.surroundings {before after : Progress} (chain : Strides before after) :
    after.service.loader = before.service.loader ∧
      after.service.host.files = before.service.host.files := by
  induction chain with
  | refl => exact ⟨rfl, rfl⟩
  | tail _ stride inductive_step =>
    exact ⟨stride.surroundings.1.trans inductive_step.1,
      stride.surroundings.2.trans inductive_step.2⟩

theorem Service.poll_loader (service : Service) (stage : Stage) :
    (service.poll stage).service.loader = service.loader :=
  (Strides.surroundings (service.strides_poll stage)).1

theorem Service.poll_calls (service : Service) (stage : Stage) :
    (service.poll stage).service.calls = service.calls := by
  have chain := service.strides_poll stage
  generalize service.poll stage = last at chain
  induction chain with
  | refl => rfl
  | tail _ stride inductive_step => exact stride.calls_eq.trans inductive_step

end InstanceHost
