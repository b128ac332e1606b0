/-
**What is still to come of a call.**

A call that is building an instance goes its own way: what it does in a poll follows from its load,
as the loader knows it, and from nothing that other calls do. As long as the loader keeps to the
plan of the load, so does all that is still to come.

* `LoadStep`, `PendingLoad.poll`: what one poll of a load comes to;
* `Forecast`, `PendingLoad.forecast`: what its polls come to, if the loader keeps to the plan;
* `PendingLoad.forecast_poll`: the forecast holds what the poll comes to, then the next forecast;
* `Service.Passes`: what a poll of such a call does to all that calls share;
* `Foretold`: a poll bears out what was foretold, with one pause or the end of the call;
* `foretold_poll`: every poll does.
-/

import InstanceHost.Call.SharedLoader
import InstanceHost.Proofs.Call.Life

namespace InstanceHost

/-! ### One poll of a load -/

/-- **What one poll of a load comes to**: the texts that an instance is built from, for each
instance built the names it is handed, start by start, and a pause or an end. -/
inductive LoadStep where
  | paused (builds : List String) (handed : List (List (List String))) (next : PendingLoad)
  /-- The failure, or the configuration of the instance. -/
  | ended (builds : List String) (handed : List (List (List String)))
    (result : Except BootFailure (Option Json))

/-- The step with a text to build from and instances built before it. -/
def LoadStep.after (builds : List String) (handed : List (List (List String))) :
    LoadStep → LoadStep
  | .paused later more next => .paused (builds ++ later) (handed ++ more) next
  | .ended later more result => .ended (builds ++ later) (handed ++ more) result

namespace PendingLoad

/-- A poll of the start of an instance, which may refuse. -/
def pollStarting (config : NormalConfig) (items : Items) (names : List String)
    (refusal : Option String) : (pauses : Nat) → LoadStep
  | pauses + 1 =>
    let plan := { LoadPlan.smooth with startFailure := refusal }
    .paused [] [] ⟨config, .starting items names, pauses, plan⟩
  | 0 =>
    match refusal with
    | some message => .ended [] [] (.error (.construction (.reported message)))
    | none => .ended [] [] (.ok (items.get? configurationKey))

/-- A poll while an instance is built. -/
def pollBuilding (config : NormalConfig) (plan : LoadPlan) : (pauses : Nat) → LoadStep
  | pauses + 1 => .paused [] [] ⟨config, .building, pauses, plan⟩
  | 0 =>
    match plan.building config.canonical with
    | .error refusal => .ended [] [] (.error (.construction refusal))
    | .ok items =>
      (pollStarting config items [] plan.startFailure plan.startPauses).after [] [[[]]]

/-- A poll while a module is loaded. -/
def pollLoading (config : NormalConfig) (plan : LoadPlan) : (pauses : Nat) → LoadStep
  | pauses + 1 => .paused [] [] ⟨config, .loading, pauses, plan⟩
  | 0 =>
    match plan.loadFailure with
    | some failure => .ended [] [] (.error (.moduleLoad failure))
    | none => (pollBuilding config plan plan.buildPauses).after [config.canonical] []

/-- **A poll of a load.** -/
def poll (load : PendingLoad) : LoadStep :=
  match load.phase with
  | .loading => pollLoading load.config load.course.plan load.course.pauses
  | .building => pollBuilding load.config load.course.plan load.course.pauses
  | .starting items names =>
    pollStarting load.config items names load.course.plan.startFailure load.course.pauses

end PendingLoad

/-! ### Forecasts -/

/-- **What is still to come of a call.** -/
structure Forecast where
  /-- The pauses in the stages that it will reach. -/
  pauses : Nat
  /-- The texts that an instance will be built from. -/
  builds : List String
  /-- For each instance that will be built, the names it will be handed, start by start. -/
  handed : List (List (List String))
  /-- The failure, or the configuration of the instance. -/
  result : Except BootFailure (Option Json)

namespace Forecast

/-- A failure after some pauses. -/
def failing (pauses : Nat) (failure : BootFailure) : Forecast :=
  ⟨pauses, [], [], .error failure⟩

/-- The forecast after pauses, a text to build from and instances built. -/
def after (later : Forecast) (pauses : Nat) (builds : List String)
    (handed : List (List (List String))) : Forecast :=
  ⟨pauses + later.pauses, builds ++ later.builds, handed ++ later.handed, later.result⟩

/-- The start of an instance, which may refuse. -/
def start (refusal : Option String) (config : Option Json) (pauses : Nat) : Forecast :=
  match refusal with
  | some message => failing pauses (.construction (.reported message))
  | none => ⟨pauses, [], [], .ok config⟩

/-- Building an instance, and its start. -/
def build (config : NormalConfig) (plan : LoadPlan) (pauses : Nat) : Forecast :=
  match plan.building config.canonical with
  | .error refusal => failing pauses (.construction refusal)
  | .ok items =>
    (start plan.startFailure (items.get? configurationKey) plan.startPauses).after pauses [] [[[]]]

/-- A load, and what comes of it. -/
def load (config : NormalConfig) (plan : LoadPlan) (pauses : Nat) : Forecast :=
  match plan.loadFailure with
  | some failure => failing pauses (.moduleLoad failure)
  | none => (build config plan plan.buildPauses).after pauses [config.canonical] []

variable {config : NormalConfig} {plan : LoadPlan} {pauses : Nat}

theorem failing_succ (failure : BootFailure) :
    failing (pauses + 1) failure = (failing pauses failure).after 1 [] [] := by
  simp only [failing, after, Nat.add_comm, List.nil_append]

theorem after_succ (later : Forecast) (builds : List String)
    (handed : List (List (List String))) :
    later.after (pauses + 1) builds handed = (later.after pauses builds handed).after 1 [] [] := by
  simp only [after, List.nil_append, Nat.add_comm 1, Nat.add_right_comm pauses 1]

theorem start_succ (refusal : Option String) (config : Option Json) :
    start refusal config (pauses + 1) = (start refusal config pauses).after 1 [] [] := by
  unfold start
  split
  · exact failing_succ _
  · simp only [after, Nat.add_comm, List.nil_append]

theorem build_succ :
    build config plan (pauses + 1) = (build config plan pauses).after 1 [] [] := by
  unfold build
  split
  · exact failing_succ _
  · exact after_succ _ _ _

theorem load_succ : load config plan (pauses + 1) = (load config plan pauses).after 1 [] [] := by
  unfold load
  split
  · exact failing_succ _
  · exact after_succ _ _ _

end Forecast

/-- **The forecast of a load whose loader keeps to the plan.** -/
def PendingLoad.forecast (load : PendingLoad) : Forecast :=
  match load.phase with
  | .loading => .load load.config load.course.plan load.course.pauses
  | .building => .build load.config load.course.plan load.course.pauses
  | .starting items _ =>
    .start load.course.plan.startFailure (items.get? configurationKey) load.course.pauses

/-- What a step comes to, and what is to come after it. -/
def LoadStep.forecast : LoadStep → Forecast
  | .paused builds handed next => next.forecast.after 1 builds handed
  | .ended builds handed result => ⟨0, builds, handed, result⟩

theorem LoadStep.forecast_after (step : LoadStep) (builds : List String)
    (handed : List (List (List String))) :
    (step.after builds handed).forecast = step.forecast.after 0 builds handed := by
  cases step with
  | paused later more next =>
    simp only [after, forecast, Forecast.after, Nat.zero_add, List.append_assoc]
  | ended later more result => rfl

namespace PendingLoad

theorem forecast_pollStarting (config : NormalConfig) (items : Items) (names : List String)
    (refusal : Option String) (pauses : Nat) :
    (pollStarting config items names refusal pauses).forecast =
      .start refusal (items.get? configurationKey) pauses := by
  cases pauses with
  | succ pauses => exact (Forecast.start_succ _ _).symm
  | zero => cases refusal <;> rfl

theorem forecast_pollBuilding (config : NormalConfig) (plan : LoadPlan) (pauses : Nat) :
    (pollBuilding config plan pauses).forecast = .build config plan pauses := by
  cases pauses with
  | succ pauses => exact Forecast.build_succ.symm
  | zero =>
    unfold pollBuilding Forecast.build
    cases plan.building config.canonical with
    | error refusal => rfl
    | ok items =>
      simp only [LoadStep.forecast_after, forecast_pollStarting]

theorem forecast_pollLoading (config : NormalConfig) (plan : LoadPlan) (pauses : Nat) :
    (pollLoading config plan pauses).forecast = .load config plan pauses := by
  cases pauses with
  | succ pauses => exact Forecast.load_succ.symm
  | zero =>
    unfold pollLoading Forecast.load
    cases plan.loadFailure with
    | some failure => rfl
    | none =>
      simp only [LoadStep.forecast_after, forecast_pollBuilding]

/-- **The forecast holds what the poll comes to, then the next forecast.** -/
theorem forecast_poll (load : PendingLoad) : load.poll.forecast = load.forecast := by
  obtain ⟨config, phase, course⟩ := load
  cases phase with
  | loading => exact forecast_pollLoading config course.plan course.pauses
  | building => exact forecast_pollBuilding config course.plan course.pauses
  | starting items names =>
    exact forecast_pollStarting config items names course.plan.startFailure course.pauses

end PendingLoad

/-- The instance that a call is starting is all of the host that its load depends on. -/
theorem Stage.pendingLoad?_congr {host changed : Host} {stage : Stage}
    (same : ∀ id, stage.own? = some id → changed.find? id = host.find? id) :
    stage.pendingLoad? changed = stage.pendingLoad? host := by
  cases stage with
  | starting job id names pauses =>
    have equal : changed.get id = host.get id := by rw [Host.get, Host.get, same id rfl]
    rw [Stage.pendingLoad?, Stage.pendingLoad?, equal]
  | _ => rfl

/-! ### What a poll does to all that calls share -/

/-- **What a poll does to all that calls share**, if the call has run before and owns at most one
instance: it asks for no load, keeps every instance but that one, and fills the slot only by
publishing. -/
structure Service.Passes (service after : Service) (own : Option Nat) (builds : List String)
    (handed : List (List (List String))) (published : List Nat) : Prop where
  binaries : after.record.binaries = service.record.binaries
  configs : after.record.configs = service.record.configs ++ builds
  starts : after.host.instances.map Instance.starts =
    service.host.instances.map Instance.starts ++ handed
  others : ∀ id target, own ≠ some id → service.host.find? id = some target →
    after.host.find? id = some target
  numbered : after.host.Numbered
  log : ∃ added, after.host.log = service.host.log ++ added ∧
    added.filterMap Event.publication? = published
  slot : after.slot = published.foldl (fun _ id => some id) service.slot

/-- A number that a call may come to: that of its own instance, or a new one. -/
def Host.Reaches (host : Host) (own : Option Nat) (id : Nat) : Prop :=
  own = some id ∨ host.nextId ≤ id

/-- **A poll bears out what was foretold of a load.** -/
inductive Foretold (service : Service) (own : Option Nat) : LoadStep → Progress → Prop
  | paused {after : Service} {stage : Stage} {next : PendingLoad} {builds : List String}
      {handed : List (List (List String))} (passes : service.Passes after own builds handed [])
      (ahead : stage.pendingLoad? after.host = some next)
      (owned : ∀ id, stage.own? = some id →
        service.host.Reaches own id ∧ ∃ target, after.host.find? id = some target) :
      Foretold service own (.paused builds handed next) ⟨after, stage⟩
  | failed {after : Service} {failure : BootFailure} {builds : List String}
      {handed : List (List (List String))} (passes : service.Passes after own builds handed []) :
      Foretold service own (.ended builds handed (.error failure))
        ⟨after, .finished (.error failure)⟩
  | delivered {after : Service} {id : Nat} {target : Instance} {builds : List String}
      {handed : List (List (List String))} (passes : service.Passes after own builds handed [id])
      (reached : service.host.Reaches own id) (found : after.host.find? id = some target) :
      Foretold service own (.ended builds handed (.ok target.config?)) ⟨after, .finished (.ok id)⟩

namespace Service.Passes

variable {service middle after : Service} {own inner : Option Nat} {builds later : List String}
  {handed more : List (List (List String))} {published last : List Nat}

/-- A change that leaves the instances alone. -/
theorem of_same {added : List Event} (numbered : service.host.Numbered)
    (instances : after.host.instances = service.host.instances)
    (binaries : after.record.binaries = service.record.binaries)
    (configs : after.record.configs = service.record.configs ++ builds)
    (log : after.host.log = service.host.log ++ added)
    (told : added.filterMap Event.publication? = published)
    (slot : after.slot = published.foldl (fun _ id => some id) service.slot) :
    service.Passes after own builds [] published := by
  have same := Host.find?_congr instances
  refine ⟨binaries, configs, ?_, ?_, ?_, ⟨added, log, told⟩, slot⟩
  · rw [instances, List.append_nil]
  · exact fun id target _ found => (same id).trans found
  · exact fun id target found => numbered id target ((same id).symm.trans found)

theorem refl (numbered : service.host.Numbered) : service.Passes service own [] [] [] :=
  of_same numbered rfl rfl (List.append_nil _).symm (List.append_nil _).symm rfl rfl

/-- Telling events that publish nothing. -/
theorem telling (numbered : service.host.Numbered) {events : List Event}
    (quiet : events.filterMap Event.publication? = []) :
    service.Passes (service.log events) own [] [] [] :=
  of_same numbered rfl rfl (List.append_nil _).symm rfl quiet rfl

/-- One thing after the other, where a new instance may be owned in between. -/
theorem trans (one : service.Passes middle own builds handed published)
    (two : middle.Passes after inner later more last)
    (owned : ∀ id, inner = some id → service.host.Reaches own id) :
    service.Passes after own (builds ++ later) (handed ++ more) (published ++ last) := by
  refine ⟨two.binaries.trans one.binaries, ?_, ?_, ?_, two.numbered, ?_, ?_⟩
  · rw [two.configs, one.configs, List.append_assoc]
  · rw [two.starts, one.starts, List.append_assoc]
  · intro id target other found
    refine two.others id target (fun same => ?_) (one.others id target other found)
    rcases owned id same with mine | new
    · exact other mine
    · exact absurd (Host.lt_nextId_of_find? found) (Nat.not_lt.mpr new)
  · obtain ⟨first, earlier, rfl⟩ := one.log
    obtain ⟨second, further, rfl⟩ := two.log
    exact ⟨first ++ second, by rw [further, earlier, List.append_assoc], List.filterMap_append⟩
  · rw [two.slot, one.slot, List.foldl_append]

/-- Instances are never taken away. -/
theorem nextId_le (passes : service.Passes after own builds handed published) :
    service.host.nextId ≤ after.host.nextId := by
  have sizes := congrArg List.length passes.starts
  rw [List.length_append, List.length_map, List.length_map] at sizes
  exact Nat.le.intro sizes.symm

end Service.Passes

/-- What happens before is part of what was foretold. -/
theorem Foretold.precede {service middle : Service} {own inner : Option Nat} {step : LoadStep}
    {progress : Progress} {builds : List String} {handed : List (List (List String))}
    (foretold : Foretold middle inner step progress)
    (passes : service.Passes middle own builds handed [])
    (owned : ∀ id, inner = some id → service.host.Reaches own id) :
    Foretold service own (step.after builds handed) progress := by
  have reaches : ∀ id, middle.host.Reaches inner id → service.host.Reaches own id := by
    rintro id (mine | new)
    · exact owned id mine
    · exact Or.inr (Nat.le_trans passes.nextId_le new)
  cases foretold with
  | paused further ahead claimed =>
    refine .paused (passes.trans further owned) ahead fun id mine => ?_
    obtain ⟨reached, found⟩ := claimed id mine
    exact ⟨reaches id reached, found⟩
  | failed further => exact .failed (passes.trans further owned)
  | delivered further reached found =>
    exact .delivered (passes.trans further owned) (reaches _ reached) found

/-! ### Every poll -/

theorem Host.starts_replace {host : Host} {target changed : Instance}
    (found : host.find? changed.id = some target) (same : changed.starts = target.starts) :
    (host.replace changed).instances.map Instance.starts = host.instances.map Instance.starts := by
  obtain ⟨bound, stored⟩ := List.getElem?_eq_some_iff.mp found
  have size : changed.id < (host.instances.map Instance.starts).length := by
    rwa [List.length_map]
  have kept : (host.instances.map Instance.starts)[changed.id] = changed.starts := by
    rw [List.getElem_map, stored, same]
  rw [Host.replace, List.map_set, ← kept, List.set_getElem_self]

theorem Instance.finishStart_of_willing (target : Instance) (names : List String)
    (willing : target.refusal = none) :
    ∃ events, target.finishStart names = ({ target with ready := true }, events, .ok ()) ∧
      events.filterMap Event.publication? = [] := by
  unfold Instance.finishStart
  split
  · next message refuses =>
    rw [willing] at refuses
    cases refuses
  · exact ⟨_, rfl, by cases target.ready <;> rfl⟩

/-- A call that ends publishes nothing. -/
theorem Service.finish_eq_log (service : Service) (job : Job) (result : Except BootFailure Nat) :
    ∃ events, (service.finish job result).service = service.log events ∧
      events.filterMap Event.publication? = [] := by
  refine ⟨_, service.service_finish job result, ?_⟩
  cases job.announced with
  | false => rfl
  | true => cases result <;> rfl

section

variable {service : Service} {own : Option Nat}

/-- The end of a call leaves everything but the log alone. -/
theorem passes_finish (numbered : service.host.Numbered) (job : Job)
    (result : Except BootFailure Nat) :
    service.Passes (service.finish job result).service own [] [] [] := by
  obtain ⟨events, same, quiet⟩ := service.finish_eq_log job result
  rw [same]
  exact .telling numbered quiet

theorem foretold_fail (numbered : service.host.Numbered) (job : Job) (failure : BootFailure) :
    Foretold service own (.ended [] [] (.error failure)) (service.finish job (.error failure)) := by
  have ended : Foretold service own (.ended [] [] (.error failure))
      ⟨(service.finish job (.error failure)).service, .finished (.error failure)⟩ :=
    .failed (passes_finish numbered job _)
  exact ended

/-- An instance starts and is published. -/
theorem foretold_started {target : Instance} {events : List Event}
    (numbered : service.host.Numbered) (found : service.host.find? target.id = some target)
    (job : Job) (quiet : events.filterMap Event.publication? = []) :
    Foretold service (some target.id) (.ended [] [] (.ok target.config?))
      (((service.replace { target with ready := true } events).publish target.id).finish job
        (.ok target.id)) := by
  obtain ⟨changed, ready⟩ : ∃ changed, changed = { target with ready := true } := ⟨_, rfl⟩
  have number : changed.id = target.id := by rw [ready]
  have there : service.host.find? changed.id = some target := number ▸ found
  have same : changed.starts = target.starts := by rw [ready]
  have replaced : service.Passes (service.replace changed events) (some target.id) [] [] [] := by
    refine ⟨rfl, (List.append_nil _).symm, ?_, ?_, numbered.replace changed, ⟨events, rfl, quiet⟩,
      rfl⟩
    · rw [List.append_nil]
      exact Host.starts_replace there same
    · intro id other different stored
      refine (Host.find?_replace_of_ne fun equal => different ?_).trans stored
      rw [equal, number]
  have published : (service.replace changed events).Passes
      ((service.replace changed events).publish target.id) none [] [] [target.id] :=
    .of_same replaced.numbered rfl rfl (List.append_nil _).symm rfl rfl rfl
  have ended : ((service.replace changed events).publish target.id).Passes _ none [] [] [] :=
    passes_finish published.numbered job (.ok target.id)
  have passes := (replaced.trans published (fun _ mine => nomatch mine)).trans ended
    (fun _ mine => nomatch mine)
  have kept := ended.others target.id changed (fun mine => nomatch mine)
    (number ▸ Host.find?_replace_self there)
  have config : target.config? = changed.config? := by rw [ready]; rfl
  rw [← ready, config]
  exact .delivered passes (Or.inl rfl) kept

theorem foretold_starting {id : Nat} {target : Instance} (numbered : service.host.Numbered)
    (found : service.host.find? id = some target) (job : Job) (names : List String)
    (pauses : Nat) :
    Foretold service (some id)
      (PendingLoad.pollStarting job.config target.items names target.refusal pauses)
      (service.advanceStarting job id names pauses) := by
  have get : service.host.get id = target := Host.get_of_find? found
  have number : target.id = id := numbered id target found
  subst number
  cases pauses with
  | succ pauses =>
    refine .paused (.refl numbered) ?_ fun other mine => ?_
    · rw [Stage.pendingLoad?, get]
    · cases mine
      exact ⟨Or.inl rfl, target, found⟩
  | zero =>
    simp only [Service.advanceStarting, get]
    cases willing : target.refusal with
    | some message =>
      have refused : target.finishStart names = (target,
          [.instanceRefused target.id (.reported message)], .error (.reported message)) := by
        rw [Instance.finishStart, willing]
      simp only [refused, PendingLoad.pollStarting]
      have unchanged : service.host.replace target = service.host :=
        Host.replace_eq_self found
      rw [Service.replace, unchanged]
      have told : service.Passes (service.log [.instanceRefused target.id (.reported message)])
          (some target.id) [] [] [] := .telling numbered rfl
      exact (foretold_fail told.numbered job _).precede told fun _ mine => Or.inl mine
    | none =>
      obtain ⟨events, started, quiet⟩ := target.finishStart_of_willing names willing
      simp only [started, PendingLoad.pollStarting]
      exact foretold_started numbered found job quiet

/-- An instance is built, and its start begins. -/
theorem foretold_built (numbered : service.host.Numbered) (job : Job) (items : Items)
    (refusal : Option String) (pauses : Nat) :
    let made := Instance.ofItems service.host.nextId items
    let new := { made with refusal := refusal }
    Foretold service none
      ((PendingLoad.pollStarting job.config items [] refusal pauses).after [] [[[]]])
      ((service.addBuilt new.beginStart).advanceStarting job new.id new.names pauses) := by
  intro made new
  have stored : (service.addBuilt new.beginStart).host.find? service.host.nextId =
      some new.beginStart := Host.find?_add_self _ _
  have passes : service.Passes (service.addBuilt new.beginStart) none [] [[[]]] [] := by
    refine ⟨rfl, (List.append_nil _).symm, ?_, ?_, numbered.add rfl, ⟨_, rfl, rfl⟩, rfl⟩
    · exact List.map_append
    · exact fun id target _ found => Host.find?_add_of_find? _ found
  have further := foretold_starting passes.numbered stored job new.names pauses
  exact further.precede passes fun id mine => Or.inr (Nat.le_of_eq (Option.some.inj mine))

theorem foretold_building (numbered : service.host.Numbered) (job : Job) (plan : LoadPlan)
    (pauses : Nat) :
    Foretold service none (PendingLoad.pollBuilding job.config plan pauses)
      (service.advanceBuilding job plan pauses) := by
  cases pauses with
  | succ pauses => exact .paused (.refl numbered) rfl fun _ mine => nomatch mine
  | zero =>
    unfold Service.advanceBuilding PendingLoad.pollBuilding
    cases plan.building job.config.canonical with
    | error refusal => exact foretold_fail numbered job _
    | ok items => exact foretold_built numbered job items plan.startFailure plan.startPauses

theorem foretold_loading (numbered : service.host.Numbered) (job : Job) (plan : LoadPlan)
    (pauses : Nat) :
    Foretold service none (PendingLoad.pollLoading job.config plan pauses)
      (service.advanceLoading job plan pauses) := by
  cases pauses with
  | succ pauses => exact .paused (.refl numbered) rfl fun _ mine => nomatch mine
  | zero =>
    unfold Service.advanceLoading PendingLoad.pollLoading
    cases planned : plan.loadFailure with
    | some failure => exact foretold_fail numbered job _
    | none =>
      have told : service.Passes (service.log [.moduleLoaded job.config.modulePath.isSome])
          none [] [] [] := .telling numbered rfl
      have recorded : (service.log [.moduleLoaded job.config.modulePath.isSome]).Passes
          ((service.log [.moduleLoaded job.config.modulePath.isSome]).recordBuild
            job.config.canonical) none [job.config.canonical] [] [] :=
        .of_same told.numbered rfl rfl rfl (List.append_nil _).symm rfl rfl
      have passes := told.trans recorded fun _ mine => nomatch mine
      exact (foretold_building passes.numbered job plan plan.buildPauses).precede passes
        fun _ mine => nomatch mine

/-- **Every poll bears out what was foretold.** -/
theorem foretold_poll {stage : Stage} {load : PendingLoad} (numbered : service.host.Numbered)
    (owned : ∀ id, stage.own? = some id → ∃ target, service.host.find? id = some target)
    (ahead : stage.pendingLoad? service.host = some load) :
    Foretold service stage.own? load.poll (service.poll stage) := by
  cases stage with
  | fresh order => cases ahead
  | loading job plan pauses =>
    cases ahead
    exact foretold_loading numbered job plan pauses
  | building job plan pauses =>
    cases ahead
    exact foretold_building numbered job plan pauses
  | starting job id names pauses =>
    cases ahead
    obtain ⟨target, found⟩ := owned id rfl
    rw [Host.get_of_find? found]
    exact foretold_starting numbered found job names pauses
  | finished result => cases ahead

end

end InstanceHost
