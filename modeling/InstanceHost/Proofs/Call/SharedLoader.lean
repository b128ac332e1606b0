/-
**Loaders that keep loads apart.**

A loader whose loads share a state may let one load depend on another. It keeps them apart if what
it answers a load follows from the load, from the files and from what it has answered this load
before. Then the answers to all loads can be foreseen one load at a time, as if each were polled by
itself.

* `foretold_redirect`: a poll after the loader was asked bears out what the load comes to on its new
  course, and leaves all other calls alone;
* `SharedLoader.Reached`: what is reached with a loader; `Reached.tidy`;
* `SharedLoader.Foreseen`: what becomes of a load that is polled by itself, from a state of its
  loader; `Foreseen.unique`: one thing at most;
* `SharedLoader.KeepsApart`: the loader keeps loads apart, by a relation on states for each call;
* `SharedLoader.steadfast_run`, `foreseen_steadfast`: a loader that never changes a course might as
  well not be asked, and what it lets become of a load is the forecast.
-/

import InstanceHost.Proofs.Call.Forecast
import InstanceHost.Proofs.Call.Tidy

namespace InstanceHost

/-! ### Another course -/

namespace Stage

theorem own?_redirect (course : LoadCourse) (stage : Stage) :
    (stage.redirect course).own? = stage.own? := by
  cases stage <;> rfl

theorem Unfinished.redirect {stage : Stage} (unfinished : stage.Unfinished) (course : LoadCourse) :
    (stage.redirect course).Unfinished := by
  cases stage with
  | finished result => exact unfinished.elim
  | _ => trivial

end Stage

theorem Host.nextId_redirect (host : Host) (course : LoadCourse) (stage : Stage) :
    (host.redirect course stage).nextId = host.nextId := by
  cases stage with
  | starting job id names pauses => exact List.length_set
  | _ => rfl

theorem Host.Numbered.redirect {host : Host} (numbered : host.Numbered) (course : LoadCourse)
    (stage : Stage) : (host.redirect course stage).Numbered := by
  cases stage with
  | starting job id names pauses => exact numbered.replace _
  | _ => exact numbered

/-- The instance that a call is starting is changed in its place. -/
theorem Host.exists_redirect_starting {host : Host} {id : Nat} {target : Instance}
    (numbered : host.Numbered) (found : host.find? id = some target) (course : LoadCourse)
    (job : Job) (names : List String) (pauses : Nat) :
    ∃ changed, changed = { target with refusal := course.plan.startFailure } ∧ changed.id = id ∧
      host.redirect course (.starting job id names pauses) = host.replace changed := by
  refine ⟨_, rfl, numbered id target found, ?_⟩
  rw [Host.redirect, Host.get_of_find? found]

theorem LoadStep.after_nil (step : LoadStep) : step.after [] [] = step := by
  cases step <;> rfl

section

variable {service : Service} {call : String} {stage : Stage} {load : PendingLoad}
  {course : LoadCourse}

theorem Service.pendingLoad?_of_lookup (present : service.calls.lookup call = some stage) :
    service.pendingLoad? call = stage.pendingLoad? service.host := by
  rw [pendingLoad?, present, Option.bind_some]

theorem Service.pendingLoad?_eq_none (absent : service.calls.lookup call = none) :
    service.pendingLoad? call = none := by
  rw [pendingLoad?, absent, Option.bind_none]

/-- A load is that of a call in flight. -/
theorem Service.exists_stage_of_pendingLoad? (ahead : service.pendingLoad? call = some load) :
    ∃ stage, service.calls.lookup call = some stage ∧
      stage.pendingLoad? service.host = some load :=
  Option.bind_eq_some_iff.mp ahead

theorem Service.redirect_of_lookup (present : service.calls.lookup call = some stage) :
    service.redirect call course =
      { service with
        host := service.host.redirect course stage
        calls := service.calls.insert call (stage.redirect course) } := by
  rw [redirect, present]

theorem Service.lookup_redirect (present : service.calls.lookup call = some stage) :
    (service.redirect call course).calls.lookup call = some (stage.redirect course) := by
  rw [redirect_of_lookup present]
  exact Keyed.lookup_insert_self call _ _

theorem Service.insert_redirect (present : service.calls.lookup call = some stage) (next : Stage) :
    (service.redirect call course).calls.insert call next = service.calls.insert call next := by
  rw [redirect_of_lookup present]
  exact Keyed.insert_insert_self call _ _ _

theorem Service.erase_redirect (present : service.calls.lookup call = some stage) :
    (service.redirect call course).calls.erase call = service.calls.erase call := by
  rw [redirect_of_lookup present]
  exact Keyed.erase_insert call _ _

/-- No course changes the files. -/
theorem Service.files_redirect (service : Service) (call : String) (course : LoadCourse) :
    (service.redirect call course).host.files = service.host.files := by
  unfold redirect
  split
  · rfl
  · next stage _ => cases stage <;> rfl

theorem Service.Tidy.exists_find? (tidy : service.Tidy)
    (present : service.calls.lookup call = some stage) {id : Nat} (own : stage.own? = some id) :
    ∃ target, service.host.find? id = some target :=
  ⟨_, List.getElem?_eq_getElem (tidy.built stage (mem_stages present) id own)⟩

/-- **Putting a call on another course keeps a service tidy.** -/
theorem Service.Tidy.redirect (tidy : service.Tidy) (call : String) (course : LoadCourse) :
    (service.redirect call course).Tidy := by
  cases present : service.calls.lookup call with
  | none =>
    rw [Service.redirect, present]
    exact tidy
  | some stage =>
    have size := service.host.nextId_redirect course stage
    have moved : Service.Tidy { service with host := service.host.redirect course stage } :=
      tidy.change (tidy.numbered.redirect course stage) (Nat.le_of_eq size.symm) rfl
    rw [redirect_of_lookup present]
    refine moved.insert ((tidy.unfinished stage (mem_stages present)).redirect course) ?_
    intro id own
    rw [stage.own?_redirect course] at own
    refine ⟨?_, fun other member => tidy.own?_ne present own member⟩
    exact Nat.lt_of_lt_of_eq (tidy.built stage (mem_stages present) id own) size.symm

/-- **Of all that calls share, another course changes nothing.** -/
theorem passes_redirect (tidy : service.Tidy) (present : service.calls.lookup call = some stage) :
    service.Passes (service.redirect call course) stage.own? [] [] [] := by
  have numbered := (tidy.redirect call course).numbered
  rw [Service.redirect_of_lookup present] at numbered ⊢
  cases stage with
  | starting job id names pauses =>
    obtain ⟨target, found⟩ := tidy.exists_find? present rfl
    obtain ⟨changed, shape, rfl, redirected⟩ :=
      Host.exists_redirect_starting tidy.numbered found course job names pauses
    rw [redirected] at numbered ⊢
    refine ⟨rfl, (List.append_nil _).symm, ?_, fun other stored different there => ?_, numbered,
      ⟨[], (List.append_nil _).symm, rfl⟩, rfl⟩
    · rw [List.append_nil]
      exact Host.starts_replace found (by rw [shape])
    · exact (Host.find?_replace_of_ne fun same => different (congrArg some same.symm)).trans there
  | _ =>
    exact .of_same tidy.numbered rfl rfl (List.append_nil _).symm (List.append_nil _).symm rfl rfl

/-- A load comes to the same on its new course, whether the plan is kept in the stage or in the
instance. -/
theorem exists_pendingLoad?_redirect (tidy : service.Tidy)
    (present : service.calls.lookup call = some stage)
    (ahead : stage.pendingLoad? service.host = some load) :
    ∃ seen, (stage.redirect course).pendingLoad? (service.redirect call course).host = some seen ∧
      seen.poll = (load.redirect course).poll := by
  rw [Service.redirect_of_lookup present]
  cases stage with
  | fresh order => cases ahead
  | finished result => cases ahead
  | loading job plan pauses =>
    cases ahead
    exact ⟨_, rfl, rfl⟩
  | building job plan pauses =>
    cases ahead
    exact ⟨_, rfl, rfl⟩
  | starting job id names pauses =>
    cases ahead
    obtain ⟨target, found⟩ := tidy.exists_find? present rfl
    obtain ⟨changed, shape, rfl, redirected⟩ :=
      Host.exists_redirect_starting tidy.numbered found course job names pauses
    refine ⟨_, rfl, ?_⟩
    simp only [redirected, Host.get_of_find? (Host.find?_replace_self found),
      Host.get_of_find? found]
    rw [shape]
    rfl

/-- **A poll on another course** bears out what the load comes to on it. -/
theorem foretold_redirect (tidy : service.Tidy) (present : service.calls.lookup call = some stage)
    (ahead : stage.pendingLoad? service.host = some load) :
    Foretold service stage.own? (load.redirect course).poll
      ((service.redirect call course).poll (stage.redirect course)) := by
  obtain ⟨seen, further, same⟩ := exists_pendingLoad?_redirect tidy present ahead
  have redirected := tidy.redirect call course
  have foretold := foretold_poll redirected.numbered
    (fun id own => redirected.exists_find? (Service.lookup_redirect present) own) further
  have whole := foretold.precede (passes_redirect tidy present)
    fun id mine => Or.inl ((stage.own?_redirect course).symm.trans mine)
  rwa [LoadStep.after_nil, same] at whole

end

namespace SharedLoader

variable {State : Type} {loader : SharedLoader State}

/-! ### What is reached with a loader -/

/-- **What is reached with a loader**, from a desk that was not used. Any action may be done,
whatever the loader answers to it and becomes by it, and calls in flight may be polled once the
loader has been asked about them. -/
inductive Reached (loader : SharedLoader State) : SharedService State → Prop
  | unused {desk : Desk} (unused : desk.Unused) (state : State) :
      Reached loader ⟨desk.service, state⟩
  | act {here : SharedService State} (reached : Reached loader here) (answers : Loader)
      (action : Action) (state : State) :
      Reached loader ⟨({ here.service with loader := answers }.act action).1, state⟩
  | poll {here : SharedService State} (reached : Reached loader here) (call : String) :
      Reached loader (loader.poll here call).1

/-- **Whatever is reached is tidy.** -/
theorem Reached.tidy {here : SharedService State} (reached : loader.Reached here) :
    here.service.Tidy := by
  induction reached with
  | unused unused state => exact unused.tidy
  | act _ answers action state inductive_step =>
    next here _ =>
    have answered : Service.Tidy { here.service with loader := answers } :=
      inductive_step.change inductive_step.numbered (Nat.le_refl _) rfl
    exact answered.act action
  | poll _ call inductive_step =>
    next here _ =>
    have asked : (loader.attend here call).service.Tidy := by
      unfold attend
      cases here.service.pendingLoad? call with
      | none => exact inductive_step
      | some load => exact inductive_step.redirect call _
    exact asked.pollCall call

/-- Actions in a row, to which the loader of the service answers. -/
theorem Reached.acts (actions : List Action) {service : Service} {state : State}
    (reached : loader.Reached ⟨service, state⟩) :
    loader.Reached
      ⟨actions.foldl (fun service action => (service.act action).1) service, state⟩ := by
  induction actions generalizing service with
  | nil => exact reached
  | cons action rest inductive_step =>
    exact inductive_step (reached.act service.loader action state)

/-! ### Loads by themselves -/

/-- **What becomes of a load that is polled by itself**, from a state of its loader. -/
inductive Foreseen (loader : SharedLoader State) (files : FileSystem) (call : String) :
    State → PendingLoad → Forecast → Prop
  | ended {state : State} {load : PendingLoad} {builds : List String}
      {handed : List (List (List String))} {result : Except BootFailure (Option Json)}
      (step : (load.redirect (loader.resume state files call load).1).poll =
        .ended builds handed result) :
      Foreseen loader files call state load ⟨0, builds, handed, result⟩
  | paused {state : State} {load next : PendingLoad} {builds : List String}
      {handed : List (List (List String))} {forecast : Forecast}
      (step : (load.redirect (loader.resume state files call load).1).poll =
        .paused builds handed next)
      (later : Foreseen loader files call (loader.resume state files call load).2 next forecast) :
      Foreseen loader files call state load (forecast.after 1 builds handed)

/-- **Only one thing can be foreseen.** -/
theorem Foreseen.unique {files : FileSystem} {call : String} {state : State} {load : PendingLoad}
    {forecast other : Forecast} (foreseen : loader.Foreseen files call state load forecast)
    (also : loader.Foreseen files call state load other) : forecast = other := by
  induction foreseen generalizing other with
  | ended step =>
    cases also with
    | ended twin =>
      cases step.symm.trans twin
      rfl
    | paused twin _ => cases step.symm.trans twin
  | paused step _ inductive_step =>
    cases also with
    | ended twin => cases step.symm.trans twin
    | paused twin later =>
      cases step.symm.trans twin
      rw [inductive_step later]

/-- **A loader that keeps loads apart.** States are alike to a call if the loader answers it the
same from both. A poll of the call leads to states that are alike to it again, and no poll of
another call makes a difference to it. A state need not be alike to itself: where it is, the loader
keeps apart what is still to come of the call. -/
structure KeepsApart (loader : SharedLoader State) (alike : String → State → State → Prop) :
    Prop where
  answer : ∀ {call : String} {one two : State} (files : FileSystem) (load : PendingLoad),
    alike call one two →
      (loader.resume one files call load).1 = (loader.resume two files call load).1
  own : ∀ {call : String} {one two : State} (files : FileSystem) (load : PendingLoad),
    alike call one two →
      alike call (loader.resume one files call load).2 (loader.resume two files call load).2
  others : ∀ {call other : String} {one two : State} (files : FileSystem) (load : PendingLoad),
    alike call one two → call ≠ other → alike call one (loader.resume two files other load).2

/-- A loader that remembers nothing keeps loads apart. -/
theorem keepsApart_of_subsingleton [Subsingleton State] (loader : SharedLoader State) :
    loader.KeepsApart fun _ _ _ => True := by
  refine ⟨fun {call one two} files load _ => ?_, fun _ _ _ => trivial, fun _ _ _ _ => trivial⟩
  rw [Subsingleton.elim one two]

section

variable {alike : String → State → State → Prop} {service : Service} {call other : String}
  {one two : State}

/-- Asking about a call leads to states that are alike to it. -/
theorem KeepsApart.attend_self (apart : loader.KeepsApart alike) (same : alike call one two) :
    alike call (loader.attend ⟨service, one⟩ call).state
      (loader.attend ⟨service, two⟩ call).state := by
  unfold attend
  cases service.pendingLoad? call with
  | none => exact same
  | some load => exact apart.own _ load same

/-- Asking about another call makes no difference. -/
theorem KeepsApart.attend_of_ne (apart : loader.KeepsApart alike) (same : alike call one two)
    (different : call ≠ other) : alike call one (loader.attend ⟨service, two⟩ other).state := by
  unfold attend
  cases service.pendingLoad? other with
  | none => exact same
  | some load => exact apart.others _ load same different

end

/-! ### Loaders that never change a course -/

section

variable {service : Service} {call : String}

/-- Keeping to the course changes nothing. -/
theorem redirect_self {load : PendingLoad} (tidy : service.Tidy)
    (ahead : service.pendingLoad? call = some load) :
    service.redirect call load.course = service := by
  obtain ⟨stage, present, same⟩ := Service.exists_stage_of_pendingLoad? ahead
  rw [Service.redirect_of_lookup present]
  have kept := Keyed.insert_lookup present
  cases stage with
  | fresh order => cases same
  | finished result => cases same
  | loading job plan pauses =>
    cases same
    show { service with calls := service.calls.insert call (.loading job plan pauses) } = service
    rw [kept]
  | building job plan pauses =>
    cases same
    show { service with calls := service.calls.insert call (.building job plan pauses) } = service
    rw [kept]
  | starting job id names pauses =>
    cases same
    obtain ⟨target, found⟩ := tidy.exists_find? present rfl
    have number : target.id = id := tidy.numbered id target found
    subst number
    have unchanged : service.host.replace { service.host.get target.id with
        refusal := (service.host.get target.id).refusal } = service.host := by
      rw [Host.get_of_find? found]
      exact Host.replace_eq_self found
    show { service with
      host := service.host.replace { service.host.get target.id with
        refusal := (service.host.get target.id).refusal }
      calls := service.calls.insert call (.starting job target.id names pauses) } = service
    rw [unchanged, kept]

theorem steadfast_attend (tidy : service.Tidy) (call : String) :
    steadfast.attend ⟨service, ()⟩ call = ⟨service, ()⟩ := by
  unfold attend
  cases ahead : service.pendingLoad? call with
  | none => rfl
  | some load =>
    simp only [steadfast]
    rw [redirect_self tidy ahead]

/-- **A loader that never changes a course might as well not be asked.** -/
theorem steadfast_run (schedule : List String) {service : Service} (seen : List Nat)
    (tidy : service.Tidy) :
    let plain := (Desk.mk service seen).run (schedule.map .poll)
    steadfast.run ⟨service, ()⟩ schedule = (⟨plain.1.service, ()⟩, plain.2.map Report.outcome) := by
  induction schedule generalizing service seen with
  | nil => rfl
  | cons call rest inductive_step =>
    obtain ⟨shown, runs⟩ := Desk.run_cons seen (rest.map .poll) rfl
      (show service.act (.poll call) = ((service.pollCall call).1, (service.pollCall call).2)
        from rfl)
    have further := inductive_step shown (tidy.pollCall call)
    simp only [List.map_cons, runs, run, poll, steadfast_attend tidy]
    rw [further]

/-- **What a loader lets become of a load is the forecast**, if it never changes a course. -/
theorem foreseen_steadfast (files : FileSystem) (call : String) (load : PendingLoad) :
    steadfast.Foreseen files call () load load.forecast := by
  -- By induction on the pauses that the forecast counts: each poll passes one of them.
  generalize count : load.forecast.pauses = pauses
  induction pauses using Nat.strong_induction_on generalizing load with
  | _ pauses inductive_step =>
    have whole := load.forecast_poll
    cases step : load.poll with
    | ended builds handed result =>
      rw [step] at whole
      exact whole ▸ .ended step
    | paused builds handed next =>
      rw [step] at whole
      have fewer : next.forecast.pauses < pauses := by
        have counted : 1 + next.forecast.pauses = pauses :=
          (congrArg Forecast.pauses whole).trans count
        omega
      exact whole ▸ .paused step (inductive_step _ fewer next rfl)

end

end SharedLoader

end InstanceHost
