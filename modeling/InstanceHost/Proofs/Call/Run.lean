/-
**What every schedule keeps.**

`History.Kept` joins the invariant of the service with the history of the schedule: the calls in
flight are the running ones of the history, each at the stage that its life agrees with, and the
past is a chronicle that ends with the present slot.

* `Action.Bootstrapping`: the actions that publish instances by calls only;
* `History.Kept.conclude`: the end of a call;
* `History.Kept.act`: every such action keeps what is kept;
* `Desk.Keeps.run`: so does every schedule of them on a desk that was not used.
-/

import InstanceHost.Proofs.Call.History
import InstanceHost.Proofs.Instance.Continuity
import InstanceHost.Proofs.Matched

namespace InstanceHost

/-! ### Calls and their lives -/

/-- The calls in flight under their names, each with its life. -/
def Aligned (running : Keyed Life) (calls : Keyed Stage) : Prop :=
  List.Forall₂ (fun named call => named.1 = call.1 ∧ named.2.Agrees call.2) running calls

/-- The stages of the calls in flight. -/
def Keyed.stages (calls : Keyed Stage) : List Stage :=
  calls.map (·.2)

theorem Keyed.stages_perm_erase {call : String} {stage : Stage} {calls : Keyed Stage}
    (present : calls.lookup call = some stage) :
    calls.stages.Perm (stage :: (calls.erase call).stages) :=
  (perm_erase present).map _

theorem Keyed.stages_insert_perm (call : String) (stage : Stage) (calls : Keyed Stage) :
    (calls.insert call stage).stages.Perm (stage :: (calls.erase call).stages) :=
  (insert_perm call stage calls).map _

namespace Aligned

variable {running : Keyed Life} {calls : Keyed Stage} {call : String}

theorem insert {life : Life} {stage : Stage} (aligned : Aligned running calls)
    (agrees : life.Agrees stage) :
    Aligned (running.insert call life) (calls.insert call stage) :=
  Keyed.Matched.insert aligned agrees

theorem erase (aligned : Aligned running calls) :
    Aligned (running.erase call) (calls.erase call) :=
  Keyed.Matched.erase aligned

/-- A name stands for a call and its life, or for neither. -/
theorem lookup (aligned : Aligned running calls) (call : String) :
    (Keyed.lookup call running = none ∧ Keyed.lookup call calls = none) ∨
      ∃ life stage, Keyed.lookup call running = some life ∧
        Keyed.lookup call calls = some stage ∧ life.Agrees stage :=
  Keyed.Matched.lookup aligned call

theorem exists_stage (aligned : Aligned running calls) {life : Life}
    (member : life ∈ running.map (·.2)) : ∃ stage ∈ calls.stages, life.Agrees stage :=
  Keyed.Matched.exists_right aligned member

end Aligned

/-! ### The invariant of a schedule -/

/-- The stages that lost calls were left in, with the instances that they have built. -/
def Left (past : List Happening) (ghosts : List Stage) : Prop :=
  ∀ life ∈ past.filterMap Happening.lost?, ∀ id ∈ life.built, ∃ stage ∈ ghosts,
    stage.own? = some id

theorem Left.cons {past : List Happening} {ghosts : List Stage} {happening : Happening}
    (left : Left past ghosts) (other : happening.lost? = none) :
    Left (happening :: past) ghosts := by
  intro life member
  rw [List.filterMap_cons_none other] at member
  exact left life member

theorem Left.lose {past : List Happening} {ghosts : List Stage} {happening : Happening}
    {life : Life} {stage : Stage} (left : Left past ghosts) (which : happening.lost? = some life)
    (built : ∀ id ∈ life.built, stage.own? = some id) :
    Left (happening :: past) (stage :: ghosts) := by
  intro other member id there
  rw [List.filterMap_cons_some which] at member
  rcases List.mem_cons.mp member with rfl | earlier
  · exact ⟨stage, List.mem_cons_self, built id there⟩
  · obtain ⟨ghost, among, own⟩ := left other earlier id there
    exact ⟨ghost, List.mem_cons_of_mem _ among, own⟩

/-- **What every schedule keeps**, with what modules make of texts, the numbers seen and the stages
that lost calls were left in. -/
structure History.Kept (history : History) (service : Service) (makes : String → Items → Prop)
    (seen : List Nat) (ghosts : List Stage) : Prop where
  yields : service.loader.Yields makes
  sound : service.scene.Sound makes seen (service.calls.stages ++ ghosts)
  aligned : Aligned history.running service.calls
  chronicle : Chronicle makes history.past seen service.slot
  left : Left history.past ghosts

/-- Some numbers and stages with which all is kept, the numbers being those of before and some
more. -/
def History.KeptWith (history : History) (service : Service) (makes : String → Items → Prop)
    (seen shown : List Nat) : Prop :=
  ∃ all ghosts, history.Kept service makes all ghosts ∧ ∀ id, id ∈ all ↔ id ∈ seen ∨ id ∈ shown

/-- The actions that publish instances by calls only: no instance is added or published by hand. -/
def Action.Bootstrapping : Action → Prop
  | .create _ => False
  | .publish _ => False
  | _ => True

namespace History.Kept

variable {history : History} {service changed : Service} {makes : String → Items → Prop}
  {seen shown : List Nat} {ghosts : List Stage} {running : Keyed Life} {calls : Keyed Stage}
  {life : Life} {stage : Stage} {progress : Progress}

/-- Nothing new is shown. -/
theorem keptWith (kept : history.Kept service makes seen ghosts) (known : ∀ id ∈ shown, id ∈ seen) :
    history.KeptWith service makes seen shown := by
  refine ⟨seen, ghosts, kept, fun id => ⟨Or.inl, ?_⟩⟩
  rintro (there | there)
  · exact there
  · exact known id there

theorem quietly (kept : history.Kept service makes seen ghosts) :
    history.KeptWith service makes seen [] :=
  kept.keptWith (List.forall_mem_nil _)

/-- A change of the service beside the calls. -/
theorem change (kept : history.Kept service makes seen ghosts)
    (sound : changed.scene.Sound makes seen (service.calls.stages ++ ghosts))
    (loader : changed.loader = service.loader) (calls : changed.calls = service.calls)
    (slot : changed.slot = service.slot) : history.Kept changed makes seen ghosts := by
  refine ⟨loader ▸ kept.yields, ?_, ?_, ?_, kept.left⟩
  · rw [calls]
    exact sound
  · rw [calls]
    exact kept.aligned
  · rw [slot]
    exact kept.chronicle

/-- A call is lost, in some stage. -/
theorem lose {happening : Happening} (kept : history.Kept service makes seen ghosts)
    (aligned : Aligned running calls) (loader : changed.loader = service.loader)
    (same : changed.slot = service.slot)
    (sound : changed.scene.Sound makes seen (stage :: (calls.stages ++ ghosts)))
    (which : happening.lost? = some life) (traceless : life.Traceless) (anew : life.LoadsAnew)
    (built : ∀ id ∈ life.built, stage.own? = some id) :
    History.Kept ⟨running, happening :: history.past⟩ { changed with calls := calls } makes
      seen (stage :: ghosts) := by
  refine ⟨loader ▸ kept.yields, sound.perm List.perm_middle.symm, aligned, ?_,
    kept.left.lose which built⟩
  show Chronicle makes (happening :: history.past) seen changed.slot
  rw [same]
  exact kept.chronicle.lost which traceless anew

/-- **The end of a call.** -/
theorem conclude {result : Except BootFailure Nat} (kept : history.Kept service makes seen ghosts)
    (aligned : Aligned running calls)
    (loader : progress.service.loader = service.loader)
    (stands : life.Stands makes service.slot seen (calls.stages ++ ghosts) progress)
    (ended : progress.stage = .finished result) :
    History.KeptWith ⟨running, .ended life result :: history.past⟩
      { progress.service with calls := calls } makes seen (Outcome.ended result).shown := by
  cases stands with
  | underway agrees same sound =>
    subst ended
    exact agrees.elim
  | failed traceless anew built same sound =>
    cases ended
    exact (kept.lose aligned loader same sound rfl traceless anew built).quietly
  | delivered delivered unseen same sound =>
    cases ended
    next after normal id =>
    refine ⟨seen ++ [id], ghosts, ⟨loader ▸ kept.yields, sound, aligned, ?_, kept.left.cons rfl⟩,
      fun other => List.mem_append⟩
    show Chronicle makes _ _ after.slot
    rw [same]
    exact kept.chronicle.delivered delivered unseen
  | reused reused there same sound =>
    cases ended
    next after id =>
    have further : History.Kept ⟨running, .ended life (.ok id) :: history.past⟩
        { after with calls := calls } makes seen ghosts := by
      refine ⟨loader ▸ kept.yields, sound, aligned, ?_, kept.left.cons rfl⟩
      show Chronicle makes _ _ after.slot
      rw [same]
      exact kept.chronicle.reused reused there
    exact further.keptWith fun other member => List.mem_singleton.mp member ▸ there

/-! ### Every action -/

/-- A call is abandoned, if there is one. -/
theorem drop (kept : history.Kept service makes seen ghosts) (call : String) :
    ∃ ghosts, History.Kept ⟨history.running.erase call, history.forsake call⟩
      { service with calls := service.calls.erase call } makes seen ghosts := by
  rcases kept.aligned.lookup call with ⟨unknown, absent⟩ | ⟨life, stage, known, present, agrees⟩
  · refine ⟨ghosts, ?_⟩
    rw [History.forsake, unknown, Keyed.erase_of_lookup_eq_none absent,
      Keyed.erase_of_lookup_eq_none unknown]
    exact kept
  · refine ⟨stage :: ghosts, ?_⟩
    have sound := kept.sound.perm ((Keyed.stages_perm_erase present).append_right ghosts)
    rw [History.forsake, known]
    exact kept.lose kept.aligned.erase rfl rfl sound rfl agrees.traceless.1 agrees.traceless.2
      fun id => agrees.own?_of_built

/-- A call is made. -/
theorem make (kept : history.Kept service makes seen ghosts) (call : String) (order : Order) :
    ∃ ghosts, (history.make call order).Kept (service.make call order).1 makes seen ghosts := by
  obtain ⟨left, dropped⟩ := kept.drop call
  have fresh : service.scene.Sound makes seen
      (.fresh order :: ((service.calls.erase call).stages ++ left)) :=
    dropped.sound.cons rfl trivial
  refine ⟨left, kept.yields, fresh.perm ?_, kept.aligned.insert rfl, dropped.chronicle,
    dropped.left⟩
  exact (Keyed.stages_insert_perm call _ service.calls).symm.append_right left

/-- A call goes on after a poll. -/
theorem proceed (kept : history.Kept service makes seen ghosts) (call : String)
    (loader : progress.service.loader = service.loader)
    (stands : life.Stands makes service.slot seen ((service.calls.erase call).stages ++ ghosts)
      progress)
    (unfinished : progress.stage.Unfinished) :
    History.Kept ⟨history.running.insert call life, history.past⟩
      { progress.service with calls := service.calls.insert call progress.stage } makes seen
      ghosts := by
  cases stands with
  | failed => exact unfinished.elim
  | delivered => exact unfinished.elim
  | reused => exact unfinished.elim
  | underway agrees same sound =>
    next after stage =>
    refine ⟨loader ▸ kept.yields, sound.perm ?_, kept.aligned.insert agrees, ?_, kept.left⟩
    · exact (Keyed.stages_insert_perm call stage service.calls).symm.append_right ghosts
    · show Chronicle makes history.past seen after.slot
      rw [same]
      exact kept.chronicle

/-- A call is polled. -/
theorem pollCall (kept : history.Kept service makes seen ghosts) (call : String) :
    (history.pollCall service call).KeptWith (service.pollCall call).1 makes seen
      (service.pollCall call).2.shown := by
  rcases kept.aligned.lookup call with ⟨unknown, absent⟩ | ⟨life, stage, known, present, agrees⟩
  · rw [History.pollCall, Service.pollCall, unknown, absent]
    exact kept.quietly
  · have stands := agrees.poll
      (kept.sound.perm ((Keyed.stages_perm_erase present).append_right ghosts)) kept.yields
    have loader := service.poll_loader stage
    rw [History.pollCall, Service.pollCall, known, present]
    simp only [Service.poll_calls]
    generalize service.poll stage = progress at stands loader ⊢
    obtain ⟨after, reached⟩ := progress
    cases reached with
    | finished result => exact kept.conclude kept.aligned.erase loader stands rfl
    | _ => exact (kept.proceed call loader stands trivial).quietly

theorem polls_calls (progress : Progress) (count : Nat) :
    (Service.polls progress count).service.calls = progress.service.calls := by
  induction count generalizing progress with
  | zero => rfl
  | succ count inductive_step =>
    exact (inductive_step _).trans (progress.service.poll_calls progress.stage)

theorem polls_loader (progress : Progress) (count : Nat) :
    (Service.polls progress count).service.loader = progress.service.loader := by
  induction count generalizing progress with
  | zero => rfl
  | succ count inductive_step =>
    exact (inductive_step _).trans (progress.service.poll_loader progress.stage)

theorem complete_calls (service : Service) (order : Order) :
    (service.complete order).service.calls = service.calls :=
  polls_calls ⟨service, .fresh order⟩ ((service.begin order).stage.remaining + 1)

theorem complete_loader (service : Service) (order : Order) :
    (service.complete order).service.loader = service.loader :=
  polls_loader ⟨service, .fresh order⟩ ((service.begin order).stage.remaining + 1)

/-- A call runs from its beginning to its end. -/
theorem complete (kept : history.Kept service makes seen ghosts) (order : Order) :
    (history.follow service (.complete order)).KeptWith (service.act (.complete order)).1 makes seen
      (service.act (.complete order)).2.shown := by
  have fresh : service.scene.Sound makes seen (.fresh order :: (service.calls.stages ++ ghosts)) :=
    kept.sound.cons rfl trivial
  have stands := Life.stands_complete fresh kept.yields
  have calls := complete_calls service order
  have loader := complete_loader service order
  rw [History.follow, Service.act]
  generalize service.complete order = progress at stands calls loader ⊢
  obtain ⟨after, reached⟩ := progress
  -- the call has no name, so the calls in flight are those of before
  have same : { after with calls := service.calls } = after := by
    rw [← calls]
  cases reached with
  | finished result =>
    have concluded := kept.conclude kept.aligned loader stands rfl
    rwa [same] at concluded
  | _ =>
    cases stands with
    | underway agrees slot sound =>
      have lost := kept.lose kept.aligned loader slot sound
        (show Happening.lost? (.abandoned (service.completion order)) = _ from rfl)
        agrees.traceless.1 agrees.traceless.2 fun id => agrees.own?_of_built
      rw [same] at lost
      exact lost.quietly

/-- A configuration is written into the published instance. -/
theorem ensure (kept : history.Kept service makes seen ghosts) (value : Json) :
    history.KeptWith (service.ensure value).1 makes seen (service.ensure value).2.shown := by
  unfold Service.ensure
  split
  · exact kept.quietly
  · next config kind =>
    split
    · exact kept.quietly
    · next changed id found =>
      obtain ⟨slot, after_slot, there, sound⟩ := kept.sound.reuse found
      have further := kept.change sound (Service.reuse?_surroundings found).1
        (Service.reuse?_calls found) (after_slot.trans slot.symm)
      exact further.keptWith fun other member => List.mem_singleton.mp member ▸ there

/-- A request is made to an instance that was seen. -/
theorem askInstance (kept : history.Kept service makes seen ghosts) {id : Nat} (there : id ∈ seen)
    (request : Request) :
    history.KeptWith (service.askInstance id request).1 makes seen
      (service.askInstance id request).2.shown := by
  obtain ⟨target, found, ready⟩ := kept.sound.ready id there
  have stored : service.host.find? id = some target := found
  have continues := Instance.Continues.request target request
  have number : (target.ask request).target.id = id :=
    continues.id.trans (kept.sound.numbered id target found)
  have sound : (service.replace (target.ask request).target (target.ask request).events).scene.Sound
      makes seen (service.calls.stages ++ ghosts) := by
    refine kept.sound.amend ?_ (continues.ready ready) rfl rfl
    exact fun stage member => number.symm ▸ kept.sound.own?_ne_of_seen there member
  rw [Service.askInstance, stored]
  exact (kept.change sound rfl rfl rfl).quietly

/-- The slot is emptied. -/
theorem clear (kept : history.Kept service makes seen ghosts) :
    History.Kept ⟨history.running, .cleared :: history.past⟩ service.clear makes seen ghosts :=
  ⟨kept.yields, kept.sound.slide rfl (fun _ published => nomatch published), kept.aligned,
    kept.chronicle.cleared, kept.left.cons rfl⟩

theorem slot_of_occupant {slot : Option Nat} {id : Nat}
    (there : id ∈ (Outcome.occupant slot).shown) : slot = some id := by
  cases slot with
  | none => cases there
  | some other => rw [List.mem_singleton.mp there]

/-- Files come and go. -/
theorem withFiles (kept : history.Kept service makes seen ghosts) (files : FileSystem) :
    history.Kept (service.withFiles files) makes seen ghosts :=
  kept.change (kept.sound.slide rfl kept.sound.published) rfl rfl rfl

/-- **Every action keeps what is kept**, if it adds and publishes no instance by hand. -/
theorem act {action : Action} (kept : history.Kept service makes seen ghosts)
    (bootstrapping : action.Bootstrapping) (addressed : ∀ id ∈ action.addressed, id ∈ seen) :
    (history.follow service action).KeptWith (service.act action).1 makes seen
      (service.act action).2.shown := by
  cases action with
  | complete order => exact kept.complete order
  | ensure value => exact kept.ensure value
  | spawn call value =>
    obtain ⟨left, made⟩ := kept.make call (.value value)
    exact made.quietly
  | prepare call config =>
    obtain ⟨left, made⟩ := kept.make call (.normal config)
    exact made.quietly
  | poll call => exact kept.pollCall call
  | drop call =>
    obtain ⟨left, dropped⟩ := kept.drop call
    exact dropped.quietly
  | create text => exact bootstrapping.elim
  | publish id => exact bootstrapping.elim
  | clear =>
    exact kept.clear.keptWith fun id there => kept.sound.published id (slot_of_occupant there)
  | request id request => exact kept.askInstance (addressed id rfl) request
  | write change => exact (kept.withFiles _).quietly
  | delete path =>
    rw [Service.act]
    split
    · exact (kept.withFiles _).quietly
    · exact kept.quietly

end History.Kept

/-! ### Beside the calls -/

namespace Service

theorem ensure_calls (service : Service) (value : Json) :
    (service.ensure value).1.calls = service.calls := by
  unfold ensure
  split
  · rfl
  · split
    · rfl
    · next changed id found => exact reuse?_calls found

theorem create_calls (service : Service) (text : String) :
    (service.create text).1.calls = service.calls := by
  unfold create
  split <;> rfl

theorem askInstance_calls (service : Service) (id : Nat) (request : Request) :
    (service.askInstance id request).1.calls = service.calls := by
  unfold askInstance
  split <;> rfl

theorem act_delete_calls (service : Service) (path : String) :
    (service.act (.delete path)).1.calls = service.calls := by
  rw [act]
  split <;> rfl

end Service

/-! ### Every end of a call -/

/-- **Every call in flight has a life**, and every running life is that of a call. -/
def History.Paired (history : History) (service : Service) : Prop :=
  Keyed.Matched (fun _ _ => True) history.running service.calls

namespace History.Paired

variable {history : History} {service : Service}

theorem pollCall (paired : history.Paired service) (call : String) :
    (history.pollCall service call).Paired (service.pollCall call).1 := by
  unfold History.Paired at paired ⊢
  rcases paired.lookup call with ⟨unknown, absent⟩ | ⟨life, stage, known, present, _⟩
  · rw [History.pollCall, Service.pollCall, unknown, absent]
    exact paired
  · rw [History.pollCall, Service.pollCall, known, present]
    simp only [Service.poll_calls]
    cases (service.poll stage).stage with
    | finished result => exact paired.erase
    | _ => exact paired.insert trivial

/-- Every action pairs calls and lives anew. -/
theorem follow (paired : history.Paired service) (action : Action) :
    (history.follow service action).Paired (service.act action).1 := by
  have beside : ∀ {changed : Service}, changed.calls = service.calls → history.Paired changed :=
    fun calls => by rwa [History.Paired, calls]
  cases action with
  | complete order =>
    rw [Service.act]
    have calls := History.Kept.complete_calls service order
    cases shape : (service.complete order).stage <;> exact beside calls
  | ensure value => exact beside (service.ensure_calls value)
  | spawn call value => exact Keyed.Matched.insert paired trivial
  | prepare call config => exact Keyed.Matched.insert paired trivial
  | poll call => exact paired.pollCall call
  | drop call => exact Keyed.Matched.erase paired
  | create text => exact beside (service.create_calls text)
  | request id request => exact beside (service.askInstance_calls id request)
  | delete path => exact beside (service.act_delete_calls path)
  | _ => exact beside rfl

theorem results_forsake (history : History) (running : Keyed Life) (call : String) :
    History.results ⟨running, history.forsake call⟩ = history.results := by
  unfold History.results History.forsake
  split <;> rfl

theorem results_pollCall (paired : history.Paired service) (call : String) :
    (history.pollCall service call).results =
      (service.pollCall call).2.result?.toList ++ history.results := by
  rcases Keyed.Matched.lookup paired call with
    ⟨unknown, absent⟩ | ⟨life, stage, known, present, _⟩
  · rw [History.pollCall, Service.pollCall, unknown, absent]
    rfl
  · rw [History.pollCall, Service.pollCall, known, present]
    cases shape : (service.poll stage).stage <;> simp only [shape] <;> rfl

/-- **The history tells of every end of a call.** -/
theorem results_follow (paired : history.Paired service) (action : Action) :
    (history.follow service action).results =
      (service.act action).2.result?.toList ++ history.results := by
  cases action with
  | complete order =>
    rw [History.follow, Service.act]
    cases (service.complete order).stage <;> rfl
  | ensure value =>
    have quiet : (service.ensure value).2.result? = none := by
      unfold Service.ensure
      split
      · rfl
      · split <;> rfl
    rw [Service.act, quiet]
    rfl
  | spawn call value => exact results_forsake _ _ _
  | prepare call config => exact results_forsake _ _ _
  | poll call => exact paired.results_pollCall call
  | drop call => exact results_forsake _ _ _
  | create text =>
    have quiet : (service.create text).2.result? = none := by
      unfold Service.create
      split <;> rfl
    rw [Service.act, quiet]
    rfl
  | request id request =>
    have quiet : (service.askInstance id request).2.result? = none := by
      unfold Service.askInstance
      split <;> rfl
    rw [Service.act, quiet]
    rfl
  | delete path =>
    rw [Service.act]
    split <;> rfl
  | _ => rfl

end History.Paired

/-! ### Schedules -/

/-- What an action does that addresses no instance; what is seen meanwhile does not matter. -/
theorem Desk.run_cons {service after : Service} {action : Action} {outcome : Outcome}
    (seen : List Nat) (rest : List Action) (unaddressed : action.addressed = none)
    (acts : service.act action = (after, outcome)) :
    ∃ shown, (Desk.mk service seen).run (action :: rest) =
      (((Desk.mk after shown).run rest).1,
        ⟨outcome, after.current?⟩ :: ((Desk.mk after shown).run rest).2) := by
  have attempts : (Desk.mk service seen).attempt action = (after, outcome) := by
    rw [Desk.attempt, unaddressed]
    exact acts
  refine ⟨seen ++ outcome.shown ++ after.slot.toList, ?_⟩
  rw [Desk.run, Desk.perform, attempts]

/-- **A desk that was not used**: nothing is published, no call is in flight, and nothing was seen.
There may be instances, each at the place of its number. -/
structure Desk.Unused (desk : Desk) : Prop where
  numbered : desk.service.host.Numbered
  slot : desk.service.slot = none
  calls : desk.service.calls = []
  seen : desk.seen = []

/-- What is kept on a desk. -/
def Desk.Keeps (desk : Desk) (makes : String → Items → Prop) (history : History) : Prop :=
  history.KeptWith desk.service makes desk.seen []

namespace Desk

variable {desk : Desk} {makes : String → Items → Prop} {history : History}

theorem Unused.keeps (unused : desk.Unused) (yields : desk.service.loader.Yields makes) :
    desk.Keeps makes ⟨[], []⟩ := by
  refine ⟨[], [], ⟨yields, ⟨unused.numbered, ?_, ?_, ?_, ?_⟩, ?_, ?_, ?_⟩, ?_⟩
  · rw [unused.calls]
    exact List.nodup_nil
  · rw [unused.calls]
    exact List.forall_mem_nil _
  · exact List.forall_mem_nil _
  · intro id published
    rw [show desk.service.scene.slot = desk.service.slot from rfl, unused.slot] at published
    cases published
  · rw [unused.calls]
    exact .nil
  · rw [unused.slot]
    exact .nil
  · exact List.forall_mem_nil _
  · rw [unused.seen]
    exact fun _ => ⟨Or.inl, fun either => either.elim id id⟩

/-- Only numbers that were seen are addressed; an action that addresses another is not carried out,
and its history does not go on. -/
theorem attempt_cases (desk : Desk) (action : Action) :
    (desk.attempt action = desk.service.act action ∧ ∀ id ∈ action.addressed, id ∈ desk.seen) ∨
      desk.attempt action = (desk.service, .noInstance) ∧
        ∀ history : History, history.follow desk.service action = history := by
  unfold attempt
  cases addressed : action.addressed with
  | none => exact Or.inl ⟨rfl, fun _ member => nomatch member⟩
  | some id =>
    by_cases there : id ∈ desk.seen
    · exact Or.inl ⟨if_pos there, fun other member => Option.some.inj member ▸ there⟩
    · refine Or.inr ⟨if_neg there, fun history => ?_⟩
      cases action with
      | publish other => rfl
      | request other request => rfl
      | _ => cases addressed

theorem keptWith_attempt {action : Action} {seen : List Nat} {ghosts : List Stage}
    (kept : history.Kept desk.service makes seen ghosts) (same : ∀ id, id ∈ seen ↔ id ∈ desk.seen)
    (bootstrapping : action.Bootstrapping) :
    (history.follow desk.service action).KeptWith (desk.attempt action).1 makes seen
      (desk.attempt action).2.shown := by
  rcases desk.attempt_cases action with ⟨acts, addressed⟩ | ⟨idle, still⟩
  · rw [acts]
    exact kept.act bootstrapping fun id member => (same id).mpr (addressed id member)
  · rw [idle, still]
    exact kept.quietly

/-- **Every action on a desk keeps what is kept.** -/
theorem Keeps.perform {action : Action} (keeps : desk.Keeps makes history)
    (bootstrapping : action.Bootstrapping) :
    (desk.perform action).1.Keeps makes (history.follow desk.service action) := by
  obtain ⟨seen, ghosts, kept, before⟩ := keeps
  have same : ∀ id, id ∈ seen ↔ id ∈ desk.seen := fun id => by simp [before id]
  obtain ⟨all, left, further, after⟩ := keptWith_attempt kept same bootstrapping
  refine ⟨all, left, further, fun id => ?_⟩
  have published : id ∈ (desk.attempt action).1.slot.toList → id ∈ all :=
    fun there => further.sound.published id (Option.mem_toList.mp there)
  show id ∈ all ↔ id ∈ desk.seen ++ (desk.attempt action).2.shown ++
    (desk.attempt action).1.slot.toList ∨ id ∈ []
  rw [after id, same id] at published
  rw [after id, same id, List.mem_append, List.mem_append]
  constructor
  · exact fun there => Or.inl (Or.inl there)
  · rintro ((there | there) | there)
    · exact there
    · exact published there
    · cases there

/-- **So does every schedule.** -/
theorem Keeps.run (actions : List Action) (keeps : desk.Keeps makes history)
    (bootstrapping : ∀ action ∈ actions, action.Bootstrapping) :
    (desk.run actions).1.Keeps makes (desk.historyFrom history actions) := by
  induction actions generalizing desk history with
  | nil => exact keeps
  | cons action rest inductive_step =>
    exact inductive_step (keeps.perform (bootstrapping action List.mem_cons_self))
      fun later member => bootstrapping later (List.mem_cons_of_mem _ member)

theorem paired_attempt (paired : history.Paired desk.service) (action : Action) :
    (history.follow desk.service action).Paired (desk.attempt action).1 ∧
      (history.follow desk.service action).results =
        (desk.attempt action).2.result?.toList ++ history.results := by
  rcases desk.attempt_cases action with ⟨same, _⟩ | ⟨same, still⟩
  · rw [same]
    exact ⟨paired.follow action, paired.results_follow action⟩
  · rw [same, still]
    exact ⟨paired, rfl⟩

/-- **The history of a schedule tells of every end of a call that a report tells of**, and in the
same order. -/
theorem results_historyFrom (actions : List Action) (paired : history.Paired desk.service) :
    (desk.historyFrom history actions).results =
      ((desk.run actions).2.filterMap Report.result?).reverse ++ history.results := by
  induction actions generalizing desk history with
  | nil => rfl
  | cons action rest inductive_step =>
    obtain ⟨further, results⟩ := paired_attempt paired action
    have reports : (desk.run (action :: rest)).2 =
        (desk.perform action).2 :: ((desk.perform action).1.run rest).2 := rfl
    have told : (desk.perform action).2.result? = (desk.attempt action).2.result? := rfl
    rw [historyFrom, inductive_step further, results, ← List.append_assoc, reports, ← told]
    cases came : (desk.perform action).2.result? with
    | none =>
      rw [List.filterMap_cons_none came, Option.toList_none, List.append_nil]
    | some result =>
      rw [List.filterMap_cons_some came, Option.toList_some, List.reverse_cons]

theorem Unused.paired (unused : desk.Unused) : History.Paired ⟨[], []⟩ desk.service := by
  rw [History.Paired, unused.calls]
  exact .nil

end Desk

end InstanceHost
