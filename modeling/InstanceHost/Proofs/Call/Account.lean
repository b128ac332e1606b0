/-
**The stages that a call runs.**

A call asks the loader for a module, has an instance built from its text, and starts this instance:
three stages, each of which can fail and leaves a record of having been run. Whatever is done
meanwhile, which stages a call runs and what it comes to follows from what it was made with, from
the scene of its first poll, and from the plan of its load.

* `Work`, `Scene.Does`: the stages run between two scenes, by their records;
* `LoadPlan.work`: the stages that a plan lets a call run, up to the first that fails;
* `Ends`: the ways in which a call ends, each with the stages that it has run;
* `Accounts`: a call at some stage, with the stages that it has run so far;
* `Accounts.stride`, `Life.Accounted.poll`: every stride and every poll is accounted for;
* `Life.accounted_complete`: so is a call from its beginning to its end.
-/

import InstanceHost.Proofs.Call.Forecast
import InstanceHost.Proofs.Call.Tidy
import InstanceHost.Proofs.Config.Location

namespace InstanceHost

/-! ### Work -/

/-- **The stages that are run**, by what is recorded of them. -/
structure Work where
  /-- The path that each load was told, if any. -/
  loads : List (Option String)
  /-- The texts that instances were built from. -/
  builds : List String
  /-- For each instance that was built, the names it was handed, start by start. -/
  handed : List (List (List String))
deriving DecidableEq

namespace Work

/-- No stage. -/
def none : Work := ⟨[], [], []⟩

/-- One thing after the other. -/
def add (first second : Work) : Work :=
  ⟨first.loads ++ second.loads, first.builds ++ second.builds, first.handed ++ second.handed⟩

@[simp]
theorem add_none (work : Work) : work.add none = work := by
  simp only [add, none, List.append_nil]

theorem add_assoc (first second third : Work) :
    (first.add second).add third = first.add (second.add third) := by
  simp only [add, List.append_assoc]

end Work

/-- **The stages run between two scenes**: they are added to the records, of which nothing is taken
back. -/
structure Scene.Does (before after : Scene) (work : Work) : Prop where
  binaries : after.record.binaries = before.record.binaries ++ work.loads
  configs : after.record.configs = before.record.configs ++ work.builds
  starts : after.host.instances.map Instance.starts =
    before.host.instances.map Instance.starts ++ work.handed

namespace Scene.Does

variable {first second third : Scene} {work more : Work}

theorem refl (scene : Scene) : scene.Does scene .none :=
  ⟨(List.append_nil _).symm, (List.append_nil _).symm, (List.append_nil _).symm⟩

theorem trans (one : first.Does second work) (two : second.Does third more) :
    first.Does third (work.add more) := by
  refine ⟨?_, ?_, ?_⟩
  · rw [two.binaries, one.binaries, List.append_assoc]
    rfl
  · rw [two.configs, one.configs, List.append_assoc]
    rfl
  · rw [two.starts, one.starts, List.append_assoc]
    rfl

/-- The records stay as they are. -/
theorem of_same (record : second.record = first.record)
    (starts : second.host.instances.map Instance.starts =
      first.host.instances.map Instance.starts) : first.Does second .none := by
  refine ⟨?_, ?_, ?_⟩
  · rw [record, Work.none, List.append_nil]
  · rw [record, Work.none, List.append_nil]
  · rw [starts, Work.none, List.append_nil]

end Scene.Does

/-- The end of a call runs no stage. -/
theorem Service.does_finish {scene : Scene} {work : Work} (service : Service) (job : Job)
    (result : Except BootFailure Nat) (does : scene.Does service.scene work) :
    scene.Does (service.finish job result).service.scene work := by
  obtain ⟨events, same, _⟩ := service.finish_eq_log job result
  rw [same]
  exact ⟨does.binaries, does.configs, does.starts⟩

/-- The stages run in a poll. -/
def Poll.work (poll : Poll) : Work :=
  ⟨poll.loads, poll.after.record.configs.drop poll.before.record.configs.length,
    (poll.after.host.instances.map Instance.starts).drop poll.before.host.instances.length⟩

/-- The stages run in all polls of a call so far. -/
def Life.work (life : Life) : Work :=
  life.polls.foldl (fun work poll => work.add poll.work) .none

theorem Poll.work_of_does {before after : Scene} {work : Work} (does : before.Does after work) :
    (Poll.mk before after).work = work := by
  have starts : (after.host.instances.map Instance.starts).drop
      (before.host.instances.map Instance.starts).length = work.handed := by
    rw [does.starts, List.drop_left]
  rw [List.length_map] at starts
  unfold Poll.work
  rw [loads_of_binaries does.binaries, starts, does.configs, List.drop_left]

theorem Life.work_add (life : Life) (poll : Poll) :
    (life.add poll).work = life.work.add poll.work := by
  rw [work, add, List.foldl_append]
  rfl

/-! ### Plans -/

/-- How a load that is asked for in a scene, and what comes of it, will go. -/
def Loader.plan (loader : Loader) (scene : Scene) (path : Option String) : LoadPlan :=
  match loader with
  | .scripted plan => plan scene.record.binaries.length
  | .files directory =>
    match (loadModule scene.host.files directory path).outcome with
    | .error failure => { LoadPlan.smooth with loadFailure := some failure }
    | .ok _ => .smooth

theorem Service.answer_eq_plan (service : Service) (path : Option String) :
    (service.answer path).2 = service.loader.plan service.scene path := by
  unfold answer Loader.plan
  cases service.loader with
  | scripted plan => rfl
  | files directory =>
    simp only [scene]
    cases outcome : (loadModule service.host.files directory path).outcome <;> rfl

namespace LoadPlan

/-- **The stages that a plan lets a call run**, up to the first that fails. -/
def work (plan : LoadPlan) (normal : NormalConfig) : Work :=
  match plan.loadFailure, plan.building normal.canonical with
  | some _, _ => ⟨[normal.modulePath], [], []⟩
  | none, .error _ => ⟨[normal.modulePath], [normal.canonical], []⟩
  | none, .ok _ => ⟨[normal.modulePath], [normal.canonical], [[[]]]⟩

end LoadPlan

/-! ### Ends -/

/-- **A call that builds an instance**: it has a normal form and found nothing published if it
looked, and the plan is the one of its load. -/
structure Tries (loader : Loader) (opening : Scene) (order : Order) (normal : NormalConfig)
    (plan : LoadPlan) : Prop where
  known : order.normal? = some normal
  empty : order.looks = true → opening.slot = none
  planned : plan = loader.plan opening normal.modulePath

/-- **The ways in which a call ends**, with the scene of its first poll and the stages that it has
run. -/
inductive Ends (loader : Loader) (opening : Scene) :
    Order → Work → Except BootFailure Nat → Prop
  | mismatched {value : Json} {mismatch : KindMismatch}
      (kind : Config.ofJson value = .error mismatch) :
      Ends loader opening (.value value) .none (.error (.configType mismatch))
  | reused {value : Json} {config : Config} {id : Nat} (kind : Config.ofJson value = .ok config)
      (published : opening.slot = some id) : Ends loader opening (.value value) .none (.ok id)
  | unresolved {value : Json} {fault : ConfigFault} (empty : opening.slot = none)
      (unprepared : Unprepared value fault) :
      Ends loader opening (.value value) .none (.error (.config fault))
  | notLoaded {order : Order} {normal : NormalConfig} {plan : LoadPlan} {failure : LoadFailure}
      (tries : Tries loader opening order normal plan) (failed : plan.loadFailure = some failure) :
      Ends loader opening order ⟨[normal.modulePath], [], []⟩ (.error (.moduleLoad failure))
  | notBuilt {order : Order} {normal : NormalConfig} {plan : LoadPlan} {refusal : Refusal}
      (tries : Tries loader opening order normal plan) (loaded : plan.loadFailure = none)
      (failed : plan.building normal.canonical = .error refusal) :
      Ends loader opening order ⟨[normal.modulePath], [normal.canonical], []⟩
        (.error (.construction refusal))
  | notStarted {order : Order} {normal : NormalConfig} {plan : LoadPlan} {items : Items}
      {message : String} (tries : Tries loader opening order normal plan)
      (loaded : plan.loadFailure = none) (built : plan.building normal.canonical = .ok items)
      (failed : plan.startFailure = some message) :
      Ends loader opening order ⟨[normal.modulePath], [normal.canonical], [[[]]]⟩
        (.error (.construction (.reported message)))
  | started {order : Order} {normal : NormalConfig} {plan : LoadPlan} {items : Items}
      {id : Nat} (tries : Tries loader opening order normal plan)
      (loaded : plan.loadFailure = none) (built : plan.building normal.canonical = .ok items)
      (willing : plan.startFailure = none) :
      Ends loader opening order ⟨[normal.modulePath], [normal.canonical], [[[]]]⟩ (.ok id)

/-- **A call at some stage**, with the scene of its first poll and the stages that it has run. -/
def Accounts (loader : Loader) (opening : Scene) (order : Order) (host : Host) (work : Work) :
    Stage → Prop
  | .fresh _ => False
  | .loading job plan _ =>
    Tries loader opening order job.config plan ∧ work = ⟨[job.config.modulePath], [], []⟩
  | .building job plan _ =>
    Tries loader opening order job.config plan ∧ plan.loadFailure = none ∧
      work = ⟨[job.config.modulePath], [job.config.canonical], []⟩
  | .starting job id _ _ =>
    ∃ plan items target, Tries loader opening order job.config plan ∧
      plan.loadFailure = none ∧ plan.building job.config.canonical = .ok items ∧
      host.find? id = some target ∧ target.refusal = plan.startFailure ∧
      work = ⟨[job.config.modulePath], [job.config.canonical], [[[]]]⟩
  | .finished result => Ends loader opening order work result

/-! ### Every stride -/

namespace Accounts

variable {loader : Loader} {opening : Scene} {order : Order} {work : Work}
  {before after : Progress}

/-- The instance that a call is starting is all that matters of the host. -/
theorem carry {host changed : Host} {stage : Stage}
    (accounts : Accounts loader opening order host work stage)
    (kept : ∀ id target, stage.own? = some id → host.find? id = some target →
      changed.find? id = some target) : Accounts loader opening order changed work stage := by
  cases stage with
  | starting job id names pauses =>
    obtain ⟨plan, items, target, tries, loaded, built, found, refusal, done⟩ := accounts
    exact ⟨plan, items, target, tries, loaded, built, kept id target rfl found, refusal, done⟩
  | _ => exact accounts

/-- Nothing is run. -/
theorem still {service : Service} {stage : Stage}
    (accounts : Accounts loader opening order service.host work stage) :
    ∃ more, service.scene.Does service.scene more ∧
      Accounts loader opening order service.host (work.add more) stage := by
  refine ⟨.none, .refl _, ?_⟩
  rw [Work.add_none]
  exact accounts

/-- A call asks for a load. -/
theorem asked {service told : Service} {normal : NormalConfig} {announced : Bool}
    (known : order.normal? = some normal) (empty : order.looks = true → service.slot = none)
    (telling : ∃ events, told = service.log events) :
    ∃ more, service.scene.Does (told.askLoader normal.modulePath).scene more ∧
      Accounts service.loader service.scene order (told.askLoader normal.modulePath).host more
        (.loading ⟨normal, announced⟩ (told.answer normal.modulePath).2
          (told.answer normal.modulePath).2.loadPauses) := by
  obtain ⟨events, rfl⟩ := telling
  have planned : ((service.log events).answer normal.modulePath).2 =
      service.loader.plan service.scene normal.modulePath := Service.answer_eq_plan _ _
  refine ⟨⟨[normal.modulePath], [], []⟩, ⟨rfl, ?_, ?_⟩, ⟨known, empty, planned⟩, rfl⟩
  · exact (List.append_nil _).symm
  · exact (List.append_nil _).symm

/-- **The first stride of a call.** -/
theorem first {service : Service} (stride : Stride ⟨service, .fresh order⟩ after)
    (numbered : service.host.Numbered)
    (published : ∀ id, service.slot = some id → ∃ target, service.host.find? id = some target) :
    ∃ more, service.scene.Does after.service.scene more ∧
      Accounts service.loader service.scene order after.service.host more after.stage := by
  have empty : ∀ config, service.reuse? config = none → service.scene.slot = none :=
    fun config missing => Service.slot_eq_none_of_missing published missing
  cases stride with
  | mismatched kind => exact ⟨.none, .refl _, .mismatched kind⟩
  | reused kind found =>
    obtain ⟨target, rfl, slot, stored, rfl⟩ := Service.reuse?_published numbered found
    rw [Instance.set_configurationKey]
    exact ⟨.none, .of_same rfl (Host.starts_replace stored rfl), .reused kind slot⟩
  | unresolved kind missing failed =>
    exact ⟨.none, .of_same rfl rfl,
      .unresolved (empty _ missing) (unprepared_of_toNormal kind failed)⟩
  | announced kind missing resolved telling =>
    exact asked (Order.normal?_of_toNormal kind resolved) (fun _ => empty _ missing) ⟨_, telling⟩
  | direct => exact asked rfl (by rintro ⟨⟩) ⟨[], service.log_nil.symm⟩

/-- **Every further stride.** -/
theorem stride (stride : Stride before after) (numbered : before.service.host.Numbered)
    (accounts : Accounts loader opening order before.service.host work before.stage) :
    ∃ more, before.service.scene.Does after.service.scene more ∧
      Accounts loader opening order after.service.host (work.add more) after.stage := by
  cases stride with
  | mismatched => exact accounts.elim
  | reused => exact accounts.elim
  | unresolved => exact accounts.elim
  | announced => exact accounts.elim
  | direct => exact accounts.elim
  | waitLoading => exact still accounts
  | notLoaded failed =>
    obtain ⟨tries, rfl⟩ := accounts
    exact ⟨.none, Service.does_finish _ _ _ (.refl _), .notLoaded tries failed⟩
  | loaded succeeded =>
    next service job plan =>
    obtain ⟨tries, rfl⟩ := accounts
    refine ⟨⟨[], [job.config.canonical], []⟩, ⟨?_, rfl, ?_⟩, tries, succeeded, rfl⟩
    · exact (List.append_nil _).symm
    · exact (List.append_nil _).symm
  | waitBuilding => exact still accounts
  | notBuilt failed =>
    obtain ⟨tries, loaded, rfl⟩ := accounts
    exact ⟨.none, Service.does_finish _ _ _ (.refl _),
      .notBuilt tries loaded failed⟩
  | built making planned =>
    next service job plan items new =>
    obtain ⟨tries, loaded, rfl⟩ := accounts
    subst planned
    refine ⟨⟨[], [], [[[]]]⟩, ⟨?_, ?_, List.map_append⟩, plan, items, _, tries, loaded, making,
      Host.find?_add_self _ _, rfl, rfl⟩
    · exact (List.append_nil _).symm
    · exact (List.append_nil _).symm
  | waitStarting => exact still accounts
  | notStarted failed =>
    next service job id names changed events refusal =>
    obtain ⟨plan, items, target, tries, loaded, built, found, planned, rfl⟩ := accounts
    have stored : service.host.find? id = some target := found
    rw [Host.get_of_find? stored] at failed
    have refused : ∃ message, plan.startFailure = some message ∧ refusal = .reported message := by
      unfold Instance.finishStart at failed
      split at failed
      · next message refuses =>
        cases failed
        exact ⟨message, planned.symm.trans refuses, rfl⟩
      · cases failed
    obtain ⟨message, failure, rfl⟩ := refused
    obtain ⟨rfl, _⟩ := Instance.finishStart_error failed
    have unchanged : service.host.replace changed = service.host := by
      have number : changed.id = id := numbered id changed stored
      exact Host.replace_eq_self (number.symm ▸ stored)
    refine ⟨.none, Service.does_finish _ _ _ (.of_same rfl ?_),
      .notStarted tries loaded built failure⟩
    rw [Service.replace, unchanged]
    rfl
  | started succeeded =>
    next service job id names changed events =>
    obtain ⟨plan, items, target, tries, loaded, built, found, planned, rfl⟩ := accounts
    have stored : service.host.find? id = some target := found
    rw [Host.get_of_find? stored] at succeeded
    have willing : plan.startFailure = none := by
      unfold Instance.finishStart at succeeded
      split at succeeded
      · cases succeeded
      · next willing => exact planned.symm.trans willing
    obtain ⟨shape, _⟩ := Instance.finishStart_ok succeeded
    have number : changed.id = id := by
      rw [shape]
      exact numbered id target stored
    refine ⟨.none, Service.does_finish _ _ _ (.of_same rfl ?_), .started tries loaded built willing⟩
    exact Host.starts_replace (number.symm ▸ stored) (by rw [shape])

/-- **Strides in a row.** -/
theorem strides (chain : Strides before after) (numbered : before.service.host.Numbered)
    (accounts : Accounts loader opening order before.service.host work before.stage) :
    ∃ more, before.service.scene.Does after.service.scene more ∧
      Accounts loader opening order after.service.host (work.add more) after.stage := by
  induction chain with
  | refl => exact still accounts
  | tail earlier stride inductive_step =>
    obtain ⟨done, does, middle⟩ := inductive_step
    obtain ⟨more, does_more, later⟩ :=
      middle.stride stride (Strides.leads numbered earlier).numbered
    refine ⟨done.add more, does.trans does_more, ?_⟩
    rw [← Work.add_assoc]
    exact later

/-- **A call from its beginning**, to whatever stage. -/
theorem ofFresh {service : Service} {reached : Progress}
    (stride : Stride ⟨service, .fresh order⟩ reached) (chain : Strides reached after)
    (numbered : service.host.Numbered)
    (published : ∀ id, service.slot = some id → ∃ target, service.host.find? id = some target) :
    ∃ work, service.scene.Does after.service.scene work ∧
      Accounts service.loader service.scene order after.service.host work after.stage := by
  obtain ⟨done, does, middle⟩ := first stride numbered published
  obtain ⟨more, does_more, later⟩ := middle.strides chain (stride.leads numbered).numbered
  exact ⟨done.add more, does.trans does_more, later⟩

end Accounts

/-! ### Lives -/

/-- **A call that has been polled is accounted for**: by the scene of its first poll and the stages
run in its polls, which have taken nothing back. -/
structure Life.Accounted (life : Life) (loader : Loader) (host : Host) (stage : Stage) : Prop where
  polls : ∃ first rest, life.polls = first :: rest ∧
    Accounts loader first.before life.order host life.work stage
  does : ∀ poll ∈ life.polls, poll.before.Does poll.after poll.work

namespace Life

variable {life : Life} {loader : Loader} {service : Service} {stage : Stage} {order : Order}

/-- The first poll of a call, or several of them at once. -/
theorem accounted_first {after : Progress} {work : Work}
    (does : service.scene.Does after.service.scene work)
    (accounts : Accounts loader service.scene order after.service.host work after.stage) :
    ((Life.mk order []).add ⟨service.scene, after.service.scene⟩).Accounted loader
      after.service.host after.stage := by
  have done := Poll.work_of_does does
  refine ⟨⟨_, [], rfl, ?_⟩, fun poll member => ?_⟩
  · rw [work_add, done]
    exact accounts
  · rw [List.mem_singleton.mp member, done]
    exact does

/-- **The first poll is accounted for.** -/
theorem accounted_begin (numbered : service.host.Numbered)
    (published : ∀ id, service.slot = some id → ∃ target, service.host.find? id = some target)
    (order : Order) :
    ((Life.mk order []).add ⟨service.scene, (service.begin order).service.scene⟩).Accounted
      service.loader (service.begin order).service.host (service.begin order).stage := by
  obtain ⟨reached, stride, chain⟩ := service.strides_begin order
  obtain ⟨work, does, accounts⟩ := Accounts.ofFresh stride chain numbered published
  exact accounted_first does accounts

/-- **So is every further poll.** -/
theorem Accounted.poll (accounted : life.Accounted loader service.host stage)
    (numbered : service.host.Numbered) :
    (life.add ⟨service.scene, (service.poll stage).service.scene⟩).Accounted loader
      (service.poll stage).service.host (service.poll stage).stage := by
  obtain ⟨⟨first, rest, polls, accounts⟩, does⟩ := accounted
  obtain ⟨more, further, later⟩ := accounts.strides (service.strides_poll stage) numbered
  have done := Poll.work_of_does further
  refine ⟨⟨first, rest ++ [⟨service.scene, (service.poll stage).service.scene⟩], ?_, ?_⟩, ?_⟩
  · rw [add, polls, List.cons_append]
  · rw [work_add, done]
    exact later
  · intro poll member
    rcases List.mem_append.mp member with earlier | last
    · exact does poll earlier
    · rw [List.mem_singleton.mp last, done]
      exact further

/-- So are polls in a row. -/
theorem Accounted.polls_trail (count : Nat)
    (accounted : life.Accounted loader service.host stage) (numbered : service.host.Numbered) :
    (Life.mk life.order (life.polls ++ Progress.trail ⟨service, stage⟩ count)).Accounted loader
      (Service.polls ⟨service, stage⟩ count).service.host
      (Service.polls ⟨service, stage⟩ count).stage := by
  refine (trail_induction (fun life progress => progress.service.host.Numbered ∧
    life.Accounted loader progress.service.host progress.stage)
    (fun life service stage _ before => ?_) count ⟨numbered, accounted⟩).2
  obtain ⟨numbered, accounted⟩ := before
  exact ⟨(Strides.leads numbered (service.strides_poll stage)).numbered, accounted.poll numbered⟩

/-- **A call from its beginning to its end is accounted for.** -/
theorem accounted_complete (numbered : service.host.Numbered)
    (published : ∀ id, service.slot = some id → ∃ target, service.host.find? id = some target)
    (order : Order) :
    (service.completion order).Accounted service.loader (service.complete order).service.host
      (service.complete order).stage := by
  have leads := Strides.leads numbered (service.strides_poll (.fresh order))
  exact (accounted_begin numbered published order).polls_trail _ leads.numbered

/-- **What a call from its beginning to its end comes to.** -/
theorem ends_complete (numbered : service.host.Numbered)
    (published : ∀ id, service.slot = some id → ∃ target, service.host.find? id = some target)
    (order : Order) :
    ∃ work result, (service.complete order).stage = .finished result ∧
      Ends service.loader service.scene order work result := by
  obtain ⟨result, ended⟩ := complete_finished service order
  obtain ⟨⟨first, rest, polls, ends⟩, _⟩ := accounted_complete numbered published order
  have opening : (service.completion order).polls.head? =
      some ⟨service.scene, (service.begin order).service.scene⟩ := rfl
  rw [polls, List.head?_cons, Option.some.injEq] at opening
  rw [ended, opening] at ends
  exact ⟨_, result, ended, ends⟩

end Life

end InstanceHost
