/-
**Calls one after the other.**

Calls that each run to their end before the next one begins get an instance from the first of them
that succeeds. Until then every call tries anew, and fails without publishing anything; from then on
every call comes to this instance and writes its value into it, if it is a configuration.

* `Service.successful`: the texts that instances are built from, load by load;
* `Service.Asked`: what calls that find nothing published ask for and publish;
* `Settled`: what calls that find an instance published come to;
* `first_success_settles`: what every sequence of calls comes to.
-/

import InstanceHost.Proofs.Call.Configuration
import InstanceHost.Proofs.Call.Forecast
import InstanceHost.Proofs.Call.Publication

namespace InstanceHost

/-! ### Files and loaders -/

theorem Service.complete_surroundings (service : Service) (order : Order) :
    (service.complete order).service.loader = service.loader ∧
      (service.complete order).service.host.files = service.host.files := by
  obtain ⟨first, stride, chain⟩ := strides_complete service order
  exact Strides.surroundings (.head stride chain)

/-! ### What calls ask for -/

/-- The loader answers a load by the files and by the number of the loads before. -/
theorem Service.answer_congr {first second : Service} (loader : first.loader = second.loader)
    (files : first.host.files = second.host.files)
    (loads : first.record.binaries.length = second.record.binaries.length)
    (binary : Option String) : first.answer binary = second.answer binary := by
  unfold answer
  rw [loader, files, loads]

/-- **The texts that instances are built from**, if these normal forms are loaded one after the
other: those whose load succeeds. -/
def Service.successful (service : Service) : List NormalConfig → List String
  | [] => []
  | normal :: rest =>
    let later := (service.recordLoad normal.modulePath).successful rest
    match (service.answer normal.modulePath).2.loadFailure with
    | some _ => later
    | none => normal.canonical :: later

theorem Service.successful_congr {first second : Service} (normals : List NormalConfig)
    (loader : first.loader = second.loader) (files : first.host.files = second.host.files)
    (loads : first.record.binaries.length = second.record.binaries.length) :
    first.successful normals = second.successful normals := by
  induction normals generalizing first second with
  | nil => rfl
  | cons normal rest inductive_step =>
    have later : (first.recordLoad normal.modulePath).successful rest =
        (second.recordLoad normal.modulePath).successful rest := by
      refine inductive_step loader files ?_
      simp only [recordLoad, List.length_append, loads]
    rw [successful, successful, answer_congr loader files loads, later]

theorem Service.successful_append {service later : Service} {asked : List NormalConfig}
    (more : List NormalConfig) (loader : later.loader = service.loader)
    (files : later.host.files = service.host.files)
    (loads : later.record.binaries.length = service.record.binaries.length + asked.length) :
    service.successful (asked ++ more) = service.successful asked ++ later.successful more := by
  induction asked generalizing service with
  | nil => exact successful_congr more loader.symm files.symm loads.symm
  | cons normal rest inductive_step =>
    have further : (service.recordLoad normal.modulePath).successful (rest ++ more) =
        (service.recordLoad normal.modulePath).successful rest ++ later.successful more := by
      refine inductive_step loader files ?_
      simp only [recordLoad, List.length_append, List.length_cons, List.length_nil] at loads ⊢
      omega
    rw [List.cons_append, successful, successful, further]
    split <;> rfl

/-- The normal forms of values, of those that have one. -/
def normals (values : List Json) : List NormalConfig :=
  values.filterMap fun value => (Order.value value).normal?

theorem normals_singleton (value : Json) :
    normals [value] = (Order.value value).normal?.toList := by
  unfold normals
  cases known : (Order.value value).normal? with
  | none => exact List.filterMap_cons_none known
  | some normal => exact List.filterMap_cons_some known

/-- **What calls ask for and publish**: a load for each of these normal forms, an instance from each
whose load succeeds, and these instances in the slot, one after the other. -/
structure Service.Asked (service after : Service) (asked : List NormalConfig)
    (published : List Nat) : Prop where
  binaries : after.record.binaries = service.record.binaries ++ asked.map (·.modulePath)
  configs : after.record.configs = service.record.configs ++ service.successful asked
  log : ∃ added, after.host.log = service.host.log ++ added ∧
    added.filterMap Event.publication? = published
  slot : after.slot = published.foldl (fun _ id => some id) service.slot
  loader : after.loader = service.loader
  files : after.host.files = service.host.files

namespace Service.Asked

variable {service middle after : Service} {asked more : List NormalConfig}
  {published later : List Nat}

theorem refl (service : Service) : service.Asked service [] [] :=
  ⟨(List.append_nil _).symm, (List.append_nil _).symm, ⟨[], (List.append_nil _).symm, rfl⟩, rfl,
    rfl, rfl⟩

/-- One thing after the other. -/
theorem trans (one : service.Asked middle asked published) (two : middle.Asked after more later) :
    service.Asked after (asked ++ more) (published ++ later) := by
  have loads : middle.record.binaries.length = service.record.binaries.length + asked.length := by
    rw [one.binaries, List.length_append, List.length_map]
  refine ⟨?_, ?_, ?_, ?_, two.loader.trans one.loader, two.files.trans one.files⟩
  · rw [two.binaries, one.binaries, List.map_append, List.append_assoc]
  · rw [two.configs, one.configs, Service.successful_append more one.loader one.files loads,
      List.append_assoc]
  · obtain ⟨first, earlier, rfl⟩ := one.log
    obtain ⟨second, further, rfl⟩ := two.log
    exact ⟨first ++ second, by rw [further, earlier, List.append_assoc], List.filterMap_append⟩
  · rw [two.slot, one.slot, List.foldl_append]

end Service.Asked

/-! ### One call -/

/-- Polls in a row that bring a call to its end bear out its forecast. -/
theorem foretold_polls (count : Nat) {service : Service} {stage : Stage} {load : PendingLoad}
    {result : Except BootFailure Nat} (numbered : service.host.Numbered)
    (owned : ∀ id, stage.own? = some id → ∃ target, service.host.find? id = some target)
    (ahead : stage.pendingLoad? service.host = some load)
    (ended : (Service.polls ⟨service, stage⟩ count).stage = .finished result) :
    Foretold service stage.own?
      (.ended load.forecast.builds load.forecast.handed load.forecast.result)
      (Service.polls ⟨service, stage⟩ count) := by
  induction count generalizing service stage load with
  | zero =>
    have same : stage = .finished result := ended
    subst same
    cases ahead
  | succ count inductive_step =>
    have first := foretold_poll numbered owned ahead
    rw [Service.polls] at ended ⊢
    rw [← load.forecast_poll]
    generalize service.poll stage = progress at first ended ⊢
    generalize load.poll = step at first ⊢
    cases first with
    | paused passes next_ahead claimed =>
      have further := inductive_step passes.numbered (fun id mine => (claimed id mine).2) next_ahead
        ended
      exact further.precede passes fun id mine => (claimed id mine).1
    | failed passes =>
      rw [Service.polls_finished]
      exact .failed passes
    | delivered passes reached found =>
      rw [Service.polls_finished]
      exact .delivered passes reached found

theorem Forecast.builds_build (config : NormalConfig) (plan : LoadPlan) (pauses : Nat) :
    (build config plan pauses).builds = [] := by
  unfold build
  split
  · rfl
  · cases plan.startFailure <;> rfl

theorem Forecast.builds_load (config : NormalConfig) (plan : LoadPlan) (pauses : Nat) :
    (load config plan pauses).builds =
      match plan.loadFailure with
      | some _ => []
      | none => [config.canonical] := by
  unfold load
  cases plan.loadFailure with
  | some failure => rfl
  | none =>
    show [config.canonical] ++ (build config plan plan.buildPauses).builds = _
    rw [builds_build, List.append_nil]

/-- **What a call with a value comes to** that finds nothing published. -/
inductive Attempted (service : Service) (value : Json) : Progress → Prop
  | failed {after : Service} {failure : BootFailure}
      (asked : service.Asked after (normals [value]) []) (numbered : after.host.Numbered) :
      Attempted service value ⟨after, .finished (.error failure)⟩
  | succeeded {after : Service} {target : Instance}
      (asked : service.Asked after (normals [value]) [target.id])
      (numbered : after.host.Numbered) (found : after.host.find? target.id = some target) :
      Attempted service value ⟨after, .finished (.ok target.id)⟩

theorem Service.log_append (service : Service) (first second : List Event) :
    service.log (first ++ second) = (service.log first).log second := by
  simp only [log, Host.record, List.append_assoc]

section

variable {service : Service} {value : Json} {config : Config}

theorem complete_of_mismatch {mismatch : KindMismatch}
    (kind : Config.ofJson value = .error mismatch) :
    service.complete (.value value) = ⟨service, .finished (.error (.configType mismatch))⟩ := by
  refine complete_of_begin ?_
  rw [Service.begin, kind]

theorem complete_of_unresolved {fault : ConfigFault} (kind : Config.ofJson value = .ok config)
    (missing : service.reuse? config = none) (unresolved : config.toNormal = .error fault) :
    service.complete (.value value) =
      ⟨(service.log [.bootStarted config.kindName]).log [.bootFailed (.config fault)],
        .finished (.error (.config fault))⟩ := by
  refine complete_of_begin ?_
  rw [Service.begin, kind]
  show service.beginConfig config = _
  rw [Service.beginConfig, missing]
  simp only [unresolved]

/-- A call that loads a module is polled to its end. -/
theorem complete_of_resolved {normal : NormalConfig} (kind : Config.ofJson value = .ok config)
    (missing : service.reuse? config = none) (resolved : config.toNormal = .ok normal) :
    let told := service.log [.bootStarted config.kindName]
    let plan := (told.answer normal.modulePath).2
    ∃ count, service.complete (.value value) = Service.polls
      ⟨told.askLoader normal.modulePath, .loading ⟨normal, true⟩ plan plan.loadPauses⟩ count := by
  intro told plan
  have begins : service.begin (.value value) =
      (told.askLoader normal.modulePath).poll (.loading ⟨normal, true⟩ plan plan.loadPauses) := by
    rw [Service.begin, kind]
    show service.beginConfig config = _
    rw [Service.beginConfig, missing]
    simp only [resolved]
    exact Service.beginLoading_eq told _
  refine ⟨(service.begin (.value value)).stage.remaining + 1, ?_⟩
  rw [Service.complete, begins]
  rfl

/-- A call that tells of itself without asking for a load. -/
theorem Service.Asked.telling {events : List Event} (unknown : (Order.value value).normal? = none)
    (quiet : events.filterMap Event.publication? = []) :
    service.Asked (service.log events) (normals [value]) [] := by
  rw [normals_singleton, unknown]
  exact ⟨(List.append_nil _).symm, (List.append_nil _).symm, ⟨events, rfl, quiet⟩, rfl, rfl, rfl⟩

/-- Events that tell of no stage that went well tell of no publication. -/
theorem publications_of_milestones {events : List Event}
    (quiet : events.filter Event.isMilestone = []) :
    events.filterMap Event.publication? = [] := by
  refine List.filterMap_eq_nil_iff.mpr fun event member => ?_
  have ordinary := List.filter_eq_nil_iff.mp quiet event member
  cases event with
  | published => exact absurd rfl ordinary
  | _ => rfl

/-- A load and whatever comes of it. -/
theorem Service.Asked.of_passes {normal : NormalConfig} {after : Service} {plan : LoadPlan}
    {pauses : Nat} {handed : List (List (List String))} {published : List Nat}
    (kind : Config.ofJson value = .ok config) (resolved : config.toNormal = .ok normal)
    (planned : plan = (service.answer normal.modulePath).2)
    (passes : ((service.log [.bootStarted config.kindName]).askLoader normal.modulePath).Passes
      after none (Forecast.load normal plan pauses).builds handed published)
    (loader : after.loader = service.loader) (files : after.host.files = service.host.files) :
    service.Asked after (normals [value]) published := by
  rw [normals_singleton, Order.normal?_of_toNormal kind resolved]
  refine ⟨passes.binaries, ?_, ?_, passes.slot, loader, files⟩
  · rw [passes.configs, Forecast.builds_load, planned, Option.toList_some, Service.successful]
    cases (service.answer normal.modulePath).2.loadFailure <;> rfl
  · obtain ⟨added, log, told⟩ := passes.log
    have quiet := publications_of_milestones
      ((service.log [.bootStarted config.kindName]).answer_milestones normal.modulePath)
    refine ⟨[.bootStarted config.kindName] ++
      ((service.log [.bootStarted config.kindName]).answer normal.modulePath).1 ++ added, ?_, ?_⟩
    · rw [log, ← List.append_assoc, ← List.append_assoc]
      rfl
    · rw [List.filterMap_append, List.filterMap_append, quiet, told]
      rfl

theorem Attempted.of_foretold {normal : NormalConfig} {plan : LoadPlan} {pauses : Nat}
    {progress : Progress} {builds : List String} {handed : List (List (List String))}
    {result : Except BootFailure (Option Json)} (kind : Config.ofJson value = .ok config)
    (resolved : config.toNormal = .ok normal)
    (planned : plan = (service.answer normal.modulePath).2)
    (foretold : Foretold
      ((service.log [.bootStarted config.kindName]).askLoader normal.modulePath) none
      (.ended builds handed result) progress)
    (all : builds = (Forecast.load normal plan pauses).builds)
    (loader : progress.service.loader = service.loader)
    (files : progress.service.host.files = service.host.files) :
    Attempted service value progress := by
  subst all
  cases foretold with
  | failed passes =>
    exact .failed (.of_passes kind resolved planned passes loader files) passes.numbered
  | delivered passes reached found =>
    next id target =>
    have number : target.id = id := passes.numbered id target found
    subst number
    exact .succeeded (.of_passes kind resolved planned passes loader files) passes.numbered found

/-- **A call that finds nothing published.** -/
theorem attempted_complete (numbered : service.host.Numbered) (empty : service.current? = none)
    (value : Json) : Attempted service value (service.complete (.value value)) := by
  cases kind : Config.ofJson value with
  | error mismatch =>
    have unknown : (Order.value value).normal? = none := by rw [Order.normal?, kind]
    have asked : service.Asked (service.log []) (normals [value]) [] := .telling unknown rfl
    rw [Service.log_nil] at asked
    rw [complete_of_mismatch kind]
    exact .failed asked numbered
  | ok config =>
    have missing : service.reuse? config = none := by rw [Service.reuse?, empty]
    cases resolved : config.toNormal with
    | error fault =>
      have unknown : (Order.value value).normal? = none := by
        rw [Order.normal?, kind]
        show config.toNormal.toOption = none
        rw [resolved]
        rfl
      have asked : service.Asked
          (service.log ([.bootStarted config.kindName] ++ [.bootFailed (.config fault)]))
          (normals [value]) [] := .telling unknown rfl
      rw [Service.log_append] at asked
      rw [complete_of_unresolved kind missing resolved]
      exact .failed asked numbered
    | ok normal =>
      obtain ⟨result, ended⟩ := complete_finished service (.value value)
      obtain ⟨loader, files⟩ := service.complete_surroundings (.value value)
      obtain ⟨count, polls⟩ := complete_of_resolved kind missing resolved
      rw [polls] at ended loader files ⊢
      have asked : ((service.log [.bootStarted config.kindName]).askLoader
          normal.modulePath).host.Numbered := numbered
      have foretold := foretold_polls count asked (fun _ mine => by cases mine) rfl ended
      exact .of_foretold kind resolved rfl foretold rfl loader files

/-- A call that finds an instance published asks for nothing and publishes nothing. -/
theorem asked_of_published {found : Instance} (kind : Config.ofJson value = .ok config)
    (numbered : service.host.Numbered) (published : service.current? = some found) :
    service.Asked (service.complete (.value value)).service [] [] ∧
      (service.complete (.value value)).service.host.Numbered := by
  rw [complete_of_published kind published]
  refine ⟨⟨(List.append_nil _).symm, (List.append_nil _).symm,
    ⟨[.configUpdated found.id config.kindName] ++ [.bootReused found.id], ?_, rfl⟩, rfl, rfl, rfl⟩,
    numbered.replace _⟩
  exact List.append_assoc _ _ _

end

/-! ### Calls one after the other -/

/-- A call with a value that runs from its beginning to its end. -/
def Action.call (value : Json) : Action :=
  .complete (.value value)

/-- **What calls come to that find an instance published**: a configuration is written into the
instance, and every other value is turned away. -/
inductive Settled : Instance → List Json → List Report → Prop
  | nil {target : Instance} : Settled target [] []
  | written {target changed : Instance} {value : Json} {config : Config} {values : List Json}
      {reports : List Report} (kind : Config.ofJson value = .ok config)
      (same : changed.id = target.id) (stored : changed.config? = some value)
      (rest : Settled changed values reports) :
      Settled target (value :: values) (⟨.ended (.ok target.id), some changed⟩ :: reports)
  | refused {target : Instance} {value : Json} {mismatch : KindMismatch} {values : List Json}
      {reports : List Report} (kind : Config.ofJson value = .error mismatch)
      (rest : Settled target values reports) :
      Settled target (value :: values)
        (⟨.ended (.error (.configType mismatch)), some target⟩ :: reports)

theorem Desk.run_call {service after : Service} {value : Json}
    {result : Except BootFailure Nat} (seen : List Nat) (rest : List Action)
    (ends : service.complete (.value value) = ⟨after, .finished result⟩) :
    ∃ shown, (Desk.mk service seen).run (.call value :: rest) =
      (((Desk.mk after shown).run rest).1,
        ⟨.ended result, after.current?⟩ :: ((Desk.mk after shown).run rest).2) := by
  refine Desk.run_cons seen rest rfl ?_
  show service.act (.complete (.value value)) = _
  rw [Service.act, ends]

/-- **Once an instance is published, it stays**, with its configuration alone rewritten. -/
theorem settled_run (values : List Json) {service : Service} {target : Instance}
    (seen : List Nat) (numbered : service.host.Numbered)
    (published : service.current? = some target) :
    Settled target values ((Desk.mk service seen).run (values.map .call)).2 ∧
      service.Asked ((Desk.mk service seen).run (values.map .call)).1.service [] [] := by
  induction values generalizing service target seen with
  | nil => exact ⟨.nil, .refl _⟩
  | cons value rest inductive_step =>
    rw [List.map_cons]
    cases kind : Config.ofJson value with
    | error mismatch =>
      have ends : service.complete (.value value) = _ := complete_of_mismatch kind
      obtain ⟨shown, run⟩ := Desk.run_call seen (rest.map .call) ends
      obtain ⟨settled, asked⟩ := inductive_step shown numbered published
      rw [run, published]
      exact ⟨.refused kind settled, asked⟩
    | ok config =>
      obtain ⟨asked, further⟩ := asked_of_published kind numbered published
      obtain ⟨ended, slot, changed, found, stored⟩ := configured_of_config kind numbered published
      generalize progress : service.complete (.value value) = last
        at asked further ended slot found
      obtain ⟨after, stage⟩ := last
      have finished : stage = .finished (.ok target.id) := ended
      subst finished
      have current : after.current? = some changed := by
        rw [Service.current?, show after.slot = some target.id from slot]
        exact found
      have same : changed.id = target.id := further _ _ found
      obtain ⟨shown, run⟩ := Desk.run_call seen (rest.map .call) progress
      obtain ⟨settled, later⟩ := inductive_step shown further current
      rw [run, current]
      exact ⟨.written kind same stored settled, asked.trans later⟩

theorem normals_append (first second : List Json) :
    normals (first ++ second) = normals first ++ normals second :=
  List.filterMap_append

/-- A report on a call that failed while nothing was published. -/
def Report.Fruitless (report : Report) : Prop :=
  ∃ failure, report = ⟨.ended (.error failure), none⟩

/-- **What calls with values come to, one after the other**, if nothing is published before. Either
all of them fail; or those before some call fail, this call succeeds, and all later ones find its
instance. Up to the first call that succeeds every value that has a normal form is loaded once, and
an instance is built once from each load that succeeds; the instance of that call is all that is
published. -/
def Service.Sequential (service : Service) (values : List Json) (after : Service)
    (reports : List Report) : Prop :=
  ∃ failing failures, failures.length = failing.length ∧
    (∀ report ∈ failures, report.Fruitless) ∧
    ((values = failing ∧ reports = failures ∧ service.Asked after (normals failing) []) ∨
      ∃ first later target settled,
        values = failing ++ first :: later ∧
        reports = failures ++ ⟨.ended (.ok target.id), some target⟩ :: settled ∧
        service.Asked after (normals (failing ++ [first])) [target.id] ∧
        Settled target later settled)

namespace Service.Sequential

variable {service middle after : Service} {value : Json} {values : List Json}
  {reports : List Report}

theorem nil (service : Service) : service.Sequential [] service [] :=
  ⟨[], [], rfl, List.forall_mem_nil _, Or.inl ⟨rfl, rfl, .refl service⟩⟩

/-- The first call fails. -/
theorem fail {failure : BootFailure} (asked : service.Asked middle (normals [value]) [])
    (rest : middle.Sequential values after reports) :
    service.Sequential (value :: values) after (⟨.ended (.error failure), none⟩ :: reports) := by
  obtain ⟨failing, failures, size, fruitless, outcome⟩ := rest
  have split : ∀ more, normals (value :: more) = normals [value] ++ normals more :=
    fun more => normals_append [value] more
  refine ⟨value :: failing, ⟨.ended (.error failure), none⟩ :: failures, ?_, ?_, ?_⟩
  · rw [List.length_cons, List.length_cons, size]
  · exact List.forall_mem_cons.mpr ⟨⟨failure, rfl⟩, fruitless⟩
  · rcases outcome with ⟨rfl, rfl, further⟩ |
      ⟨first, later, target, settled, rfl, rfl, further, stays⟩
    · refine Or.inl ⟨rfl, rfl, ?_⟩
      rw [split]
      exact asked.trans further
    · refine Or.inr ⟨first, later, target, settled, rfl, rfl, ?_, stays⟩
      rw [List.cons_append, split]
      exact asked.trans further

/-- The first call succeeds. -/
theorem succeed {target : Instance} (asked : service.Asked middle (normals [value]) [target.id])
    (later : middle.Asked after [] []) (settled : Settled target values reports) :
    service.Sequential (value :: values) after
      (⟨.ended (.ok target.id), some target⟩ :: reports) := by
  refine ⟨[], [], rfl, List.forall_mem_nil _,
    Or.inr ⟨value, values, target, reports, rfl, rfl, ?_, settled⟩⟩
  have whole := asked.trans later
  rw [List.append_nil, List.append_nil] at whole
  exact whole

/-- Every sequence of calls is such. -/
theorem run (values : List Json) {service : Service} (seen : List Nat)
    (numbered : service.host.Numbered) (empty : service.slot = none) :
    service.Sequential values ((Desk.mk service seen).run (values.map .call)).1.service
      ((Desk.mk service seen).run (values.map .call)).2 := by
  induction values generalizing service seen with
  | nil => exact nil service
  | cons value rest inductive_step =>
    have missing : service.current? = none := by rw [Service.current?, empty, Option.bind_none]
    have attempt := attempted_complete numbered missing value
    rw [List.map_cons]
    generalize progress : service.complete (.value value) = last at attempt
    cases attempt with
    | failed asked further =>
      next after failure =>
      have still : after.slot = none := asked.slot.trans empty
      obtain ⟨shown, run⟩ := Desk.run_call seen (rest.map .call) progress
      rw [run, Service.current?, still]
      exact fail asked (inductive_step shown further still)
    | succeeded asked further found =>
      next after target =>
      have current : after.current? = some target := by
        rw [Service.current?, show after.slot = some target.id from asked.slot]
        exact found
      obtain ⟨shown, run⟩ := Desk.run_call seen (rest.map .call) progress
      obtain ⟨settled, later⟩ := settled_run rest shown further current
      rw [run, current]
      exact succeed asked later settled

end Service.Sequential

/-- **The first call that succeeds settles all later ones**: calls with values that run one after
the other on a desk that was not used. -/
theorem first_success_settles (desk : Desk) (values : List Json) (unused : desk.Unused) :
    desk.service.Sequential values (desk.run (values.map .call)).1.service
      (desk.run (values.map .call)).2 :=
  Service.Sequential.run values desk.seen unused.numbered unused.slot

/-- Values that are no configuration, have no normal form, come to an instance that refuses to
start, come to one that starts, and find it or are turned away. -/
def sequence : List Json :=
  [.null, .object [("module_dir", .null)], .object [], .object [], .string "text",
    .object [("module_dir", .null)], .bool true]

theorem first_success_settles_sequence :
    threeCallsDesk.Unused ∧
      (threeCallsDesk.run (sequence.map .call)).1.service.slot = some 1 ∧
      (threeCallsDesk.run (sequence.map .call)).1.service.record.configs =
        ["\x7b\x7d", "\x7b\x7d"] ∧
      threeCallsDesk.service.Sequential sequence
        (threeCallsDesk.run (sequence.map .call)).1.service
        (threeCallsDesk.run (sequence.map .call)).2 :=
  ⟨threeCallsDesk_unused, by decide +kernel, by decide +kernel,
    first_success_settles threeCallsDesk sequence threeCallsDesk_unused⟩

end InstanceHost
