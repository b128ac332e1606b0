/-
**How a call stands.**

`Life.Stands` joins what the polls of a call amount to with what holds of the service: as long as
the call is in flight its life agrees with its stage, and at its end it has failed without a trace,
has delivered an instance that nobody had seen, or has come to one that was published.

An instance that was built by a call that failed stays as it is for ever, as if it were still being
started: `left` stands for the stage that such a call was left in.

* `Life.Stands.stride`: every stride of a call in flight keeps this, with the poll grown by it;
* `Life.Stands.poll`: so does every poll, which is added to the life;
* `Life.trail_induction`: what every poll of a call keeps, polls in a row keep;
* `Life.Stands.polls`, `Life.stands_complete`: so do they, up to the end of the call.
-/

import InstanceHost.Proofs.Call.Life

namespace InstanceHost

/-- **How a call stands**, with what modules make of texts, the slot and the numbers seen before its
last poll, and the stages of the other calls. -/
inductive Life.Stands (life : Life) (makes : String → Items → Prop) (slot : Option Nat)
    (seen : List Nat) (others : List Stage) : Progress → Prop
  | underway {service : Service} {stage : Stage} (agrees : life.Agrees stage)
      (same : service.slot = slot) (sound : service.scene.Sound makes seen (stage :: others)) :
      Stands life makes slot seen others ⟨service, stage⟩
  | failed {service : Service} {failure : BootFailure} {left : Stage} (traceless : life.Traceless)
      (anew : life.LoadsAnew) (built : ∀ id ∈ life.built, left.own? = some id)
      (same : service.slot = slot) (sound : service.scene.Sound makes seen (left :: others)) :
      Stands life makes slot seen others ⟨service, .finished (.error failure)⟩
  | delivered {service : Service} {normal : NormalConfig} {id : Nat}
      (delivered : life.Delivered makes normal id) (unseen : id ∉ seen)
      (same : service.slot = some id) (sound : service.scene.Sound makes (seen ++ [id]) others) :
      Stands life makes slot seen others ⟨service, .finished (.ok id)⟩
  | reused {service : Service} {id : Nat} (reused : life.Reused id) (there : id ∈ seen)
      (same : service.slot = slot) (sound : service.scene.Sound makes seen others) :
      Stands life makes slot seen others ⟨service, .finished (.ok id)⟩

/-! ### The published instance -/

namespace Service

theorem reuse?_eq_some {service changed : Service} {config : Config} {id : Nat}
    (found : service.reuse? config = some (changed, id)) :
    ∃ target, service.current? = some target ∧ target.id = id ∧
      changed = service.replace (target.set configurationKey config.toJson).1
        [.configUpdated id config.kindName] := by
  unfold reuse? at found
  cases current : service.current? with
  | none =>
    rw [current] at found
    cases found
  | some target =>
    rw [current] at found
    simp only [Instance.set_configurationKey, List.nil_append] at found
    cases found
    refine ⟨target, rfl, rfl, ?_⟩
    rw [Instance.set_configurationKey]

/-- The instance that is reused is in the slot, and stands at the place of its number. -/
theorem reuse?_published {service changed : Service} {config : Config} {id : Nat}
    (numbered : service.host.Numbered) (found : service.reuse? config = some (changed, id)) :
    ∃ target, target.id = id ∧ service.slot = some target.id ∧
      service.host.find? target.id = some target ∧
      changed = service.replace (target.set configurationKey config.toJson).1
        [.configUpdated id config.kindName] := by
  obtain ⟨target, current, same, shape⟩ := reuse?_eq_some found
  rw [current?, Option.bind_eq_some_iff] at current
  obtain ⟨number, slot, stored⟩ := current
  have place : target.id = number := numbered number target stored
  exact ⟨target, same, place ▸ slot, place ▸ stored, shape⟩

theorem reuse?_eq_none {service : Service} {config : Config}
    (missing : service.reuse? config = none) : service.current? = none := by
  unfold reuse? at missing
  cases current : service.current? with
  | none => rfl
  | some target =>
    rw [current] at missing
    cases missing

/-- If the published instance is there, a call finds it. -/
theorem slot_eq_none_of_missing {service : Service} {config : Config}
    (published : ∀ id, service.slot = some id → ∃ target, service.host.find? id = some target)
    (missing : service.reuse? config = none) : service.slot = none := by
  have current := reuse?_eq_none missing
  cases slot : service.slot with
  | none => rfl
  | some id =>
    obtain ⟨target, found⟩ := published id slot
    rw [current?, slot, Option.bind_some, found] at current
    cases current

theorem spares_replace (service : Service) (changed : Instance) (events : List Event) :
    (Poll.mk service.scene (service.replace changed events).scene).Spares changed.id :=
  fun _ _ different there => (Host.find?_replace_of_ne different).trans there

/-- The events of getting the published instance are no milestones. -/
theorem precedes_reuse? {service changed : Service} {config : Config} {id : Nat}
    (found : service.reuse? config = some (changed, id)) :
    service.scene.Precedes changed.scene ∧ (Poll.mk service.scene changed.scene).Spares id ∧
      (Poll.mk service.scene changed.scene).milestones = [] ∧
      (Poll.mk service.scene changed.scene).loads = [] := by
  obtain ⟨target, _, rfl, rfl⟩ := reuse?_eq_some found
  rw [Instance.set_configurationKey]
  exact ⟨⟨List.prefix_append _ _, List.prefix_rfl⟩, service.spares_replace _ _,
    (Poll.milestones_of_log rfl).trans rfl, Poll.loads_of_binaries (List.append_nil _).symm⟩

end Service

namespace Scene.Sound

variable {service changed : Service} {makes : String → Items → Prop} {seen : List Nat}
  {stages : List Stage} {config : Config}
  {id : Nat}

theorem slot_of_reuse?_eq_none (sound : service.scene.Sound makes seen stages)
    (missing : service.reuse? config = none) : service.slot = none := by
  refine Service.slot_eq_none_of_missing (fun id slot => ?_) missing
  obtain ⟨target, found, _⟩ := sound.ready id (sound.published id slot)
  exact ⟨target, found⟩

/-- **Writing the configuration into the published instance** keeps the invariant. -/
theorem reuse (sound : service.scene.Sound makes seen stages)
    (found : service.reuse? config = some (changed, id)) :
    service.slot = some id ∧ changed.slot = some id ∧ id ∈ seen ∧
      changed.scene.Sound makes seen stages := by
  obtain ⟨target, rfl, slot, stored, rfl⟩ := Service.reuse?_published sound.numbered found
  have there := sound.published target.id slot
  refine ⟨slot, slot, there, ?_⟩
  obtain ⟨same, found, ready⟩ := sound.ready target.id there
  have equal : same = target := Option.some.inj (found.symm.trans stored)
  subst equal
  rw [Instance.set_configurationKey]
  refine sound.amend ?_ ?_ rfl rfl
  · exact fun stage member => sound.own?_ne_of_seen there member
  · exact ready

end Scene.Sound

namespace Life

variable {makes : String → Items → Prop}

/-! ### The first stride -/

/-- A call that is turned away at once. -/
theorem Stands.turnedAway {service : Service} {order : Order} {seen : List Nat}
    {others : List Stage} {after : Service} {failure : BootFailure}
    (sound : service.scene.Sound makes seen (.fresh order :: others))
    (unknown : order.normal? = none) (missing : order.looks = true → service.slot = none)
    (adds : service.scene.Adds after.scene []) :
    ((Life.mk order []).add ⟨service.scene, after.scene⟩).Stands makes service.slot seen others
      ⟨after, .finished (.error failure)⟩ := by
  have kept : after.scene.Sound makes seen (.fresh order :: others) :=
    sound.turn adds.tells rfl trivial
  refine .failed ⟨?_, ?_⟩ ?_ ?_ adds.tells.slot kept
  · rw [found_add_fresh]
    split
    · next looks => exact missing looks
    · rfl
  · intro poll member
    rw [List.mem_singleton.mp member]
    exact adds.tells.unnoticed
  · intro normal known
    have same : order.normal? = some normal := known
    rw [unknown] at same
    cases same
  · intro id built
    rw [Life.built, milestones_add, adds.milestones] at built
    cases built

/-- A call that comes to the published instance. -/
theorem Stands.reuse {service changed : Service} {given : Json} {config : Config} {id : Nat}
    {seen : List Nat} {others : List Stage} (sound : service.scene.Sound makes seen others)
    (kind : Config.ofJson given = .ok config)
    (found : service.reuse? config = some (changed, id)) :
    let after := changed.log [.bootReused id]
    service.scene.Precedes after.scene ∧
      ((Life.mk (.value given) []).add ⟨service.scene, after.scene⟩).Stands makes service.slot seen
        others ⟨after, .finished (.ok id)⟩ := by
  intro after
  obtain ⟨slot, after_slot, there, kept⟩ := sound.reuse found
  obtain ⟨precedes, spares, milestones, loads⟩ := Service.precedes_reuse? found
  have closing : changed.scene.Adds after.scene [] := changed.adds_log [.bootReused id]
  have same : changed.slot = service.slot := after_slot.trans slot.symm
  refine ⟨precedes.trans closing.tells.precedes,
    .reused ⟨?_, _, rfl, after_slot, spares, ?_, ?_⟩ there same
      (kept.slide closing.tells.instances kept.published)⟩
  · rw [found_add_fresh, if_pos (Order.looks_of_ofJson kind)]
    exact slot
  · rw [Poll.milestones_trans precedes closing.tells.precedes, milestones, closing.milestones]
    rfl
  · rw [Poll.loads_trans precedes closing.tells.precedes, loads, closing.loads]
    rfl

/-- **The first stride of a call.** -/
theorem Stands.first {service : Service} {order : Order} {seen : List Nat} {others : List Stage}
    {after : Progress} (sound : service.scene.Sound makes seen (.fresh order :: others))
    (yields : service.loader.Yields makes) (stride : Stride ⟨service, .fresh order⟩ after) :
    service.scene.Precedes after.service.scene ∧
      ((Life.mk order []).add ⟨service.scene, after.service.scene⟩).Stands makes service.slot seen
        others after := by
  cases stride with
  | mismatched kind =>
    refine ⟨.refl _, .turnedAway sound ?_ ?_ ⟨.refl _, Poll.milestones_refl _, Poll.loads_refl _⟩⟩
    · rw [Order.normal?, kind]
    · rw [Order.looks, kind]
      intro looks
      cases looks
  | reused kind found => exact Stands.reuse sound.tail kind found
  | unresolved kind missing normal =>
    next value config fault =>
    have adds := (service.adds_log [.bootStarted config.kindName]).trans
      (Service.adds_log _ [.bootFailed (.config fault)])
    refine ⟨adds.tells.precedes, .turnedAway sound ?_ ?_ adds⟩
    · rw [Order.normal?, kind]
      show config.toNormal.toOption = none
      rw [normal]
      rfl
    · exact fun _ => sound.slot_of_reuse?_eq_none missing
  | announced kind missing resolved telling =>
    next told value config normal =>
    subst telling
    have told := service.adds_log [.bootStarted config.kindName]
    have asked := Service.tells_askLoader (service.log [.bootStarted config.kindName])
      normal.modulePath
    refine ⟨(told.tells.trans asked).precedes, .underway ?_ rfl
      (sound.turn (told.tells.trans asked) rfl (Service.yields_answer yields _))⟩
    have known := Order.normal?_of_toNormal kind resolved
    refine Underway.begin known ?_ (told.tells.trans asked) ?_ ?_
    · exact fun _ => sound.slot_of_reuse?_eq_none missing
    · rw [Poll.loads_trans told.tells.precedes asked.precedes, told.loads, Service.loads_askLoader]
      rfl
    · rw [Poll.milestones_trans told.tells.precedes asked.precedes, told.milestones,
        Service.milestones_askLoader]
      rfl
  | direct =>
    next normal =>
    have asked := service.tells_askLoader normal.modulePath
    refine ⟨asked.precedes, .underway ?_ rfl
      (sound.turn asked rfl (Service.yields_answer yields _))⟩
    refine Underway.begin rfl (fun looks => ?_) asked (service.loads_askLoader _)
      (service.milestones_askLoader _)
    cases looks

/-! ### Every further stride -/

variable {life : Life} {start : Scene} {seen : List Nat} {others : List Stage} {service : Service}

/-- A stride that only tells, after which the call is in flight. -/
theorem Underway.advance {normal : NormalConfig} {milestones added : List Event} {now later : Scene}
    (underway : (life.add ⟨start, now⟩).Underway normal milestones) (precedes : start.Precedes now)
    (adds : now.Adds later added) :
    (life.add ⟨start, later⟩).Underway normal (milestones ++ added) := by
  rw [← adds.milestones]
  exact underway.extend precedes adds.tells.precedes adds.tells.unnoticed adds.loads

/-- A stride that only tells, after which the call has failed. -/
theorem Stands.fail {normal : NormalConfig} {milestones : List Event} {stage : Stage}
    {after : Service} {failure : BootFailure} (precedes : start.Precedes service.scene)
    (agrees : (life.add ⟨start, service.scene⟩).Agrees stage)
    (underway : (life.add ⟨start, service.scene⟩).Underway normal milestones)
    (same : service.slot = start.slot) (sound : service.scene.Sound makes seen (stage :: others))
    (adds : service.scene.Adds after.scene []) :
    start.Precedes after.scene ∧
      (life.add ⟨start, after.scene⟩).Stands makes start.slot seen others
        ⟨after, .finished (.error failure)⟩ := by
  have further := underway.advance precedes adds
  have kept : after.scene.Sound makes seen (stage :: others) :=
    sound.slide adds.tells.instances fun id published =>
      sound.published id (adds.tells.slot.symm.trans published)
  refine ⟨precedes.trans adds.tells.precedes, .failed further.traceless further.loadsAnew ?_
    (adds.tells.slot.trans same) kept⟩
  intro id built
  refine agrees.own?_of_built ?_
  rw [Life.built, further.milestones, List.append_nil, ← underway.milestones] at built
  exact built

/-- An instance that was just built, as its start begins. -/
theorem waiting_of_building {plan : LoadPlan} {id : Nat} {text : String} {items : Items}
    {new : Instance} (yields : plan.Yields makes) (making : plan.building text = .ok items)
    (planned : new = { Instance.ofItems id items with refusal := plan.startFailure }) :
    new.beginStart.Waiting makes text := by
  subst planned
  exact ⟨yields text items making, rfl, rfl⟩

/-- The stride that builds an instance. -/
theorem Stands.build {job : Job} {plan : LoadPlan} {new : Instance} {pauses : Nat}
    (precedes : start.Precedes service.scene)
    (underway : (life.add ⟨start, service.scene⟩).Underway job.config
      [.moduleLoaded job.config.modulePath.isSome])
    (same : service.slot = start.slot)
    (sound : service.scene.Sound makes seen (.building job plan 0 :: others))
    (numbered : new.id = service.host.nextId) (waiting : new.Waiting makes job.config.canonical) :
    start.Precedes (service.addBuilt new).scene ∧
      (life.add ⟨start, (service.addBuilt new).scene⟩).Stands makes start.slot seen others
        ⟨service.addBuilt new, .starting job new.id [] pauses⟩ := by
  have building : service.scene.Precedes (service.addBuilt new).scene :=
    ⟨List.prefix_append _ _, List.prefix_rfl⟩
  have milestones : (Poll.mk service.scene (service.addBuilt new).scene).milestones =
      [.instanceConstructed new.id] := (Poll.milestones_of_log rfl).trans rfl
  have unnoticed : (Poll.mk service.scene (service.addBuilt new).scene).Unnoticed :=
    ⟨rfl, fun _ _ found => Host.find?_add_of_find? new found⟩
  have further := underway.extend precedes building unnoticed
    (Poll.loads_of_binaries (List.append_nil _).symm)
  rw [milestones] at further
  exact ⟨precedes.trans building, .underway further same (sound.build numbered waiting rfl rfl)⟩

/-- The stride that starts an instance and publishes it. -/
theorem Stands.publish {job : Job} {id : Nat} {names : List String} {changed : Instance}
    {events : List Event} (precedes : start.Precedes service.scene)
    (underway : (life.add ⟨start, service.scene⟩).Underway job.config
      [.moduleLoaded job.config.modulePath.isSome, .instanceConstructed id])
    (sound : service.scene.Sound makes seen (.starting job id names 0 :: others))
    (succeeded : (service.host.get id).finishStart names = (changed, events, .ok ())) :
    let after := ((service.replace changed events).publish id).finish job (.ok id)
    start.Precedes after.service.scene ∧
      (life.add ⟨start, after.service.scene⟩).Stands makes start.slot seen others after := by
  obtain ⟨_, unseen, target, stored, waiting⟩ := sound.grounded _ List.mem_cons_self
  have found : service.host.find? id = some target := stored
  rw [Host.get_of_find? found] at succeeded
  obtain ⟨shape, told⟩ := Instance.finishStart_ok succeeded
  have ready : changed.ready = true := by rw [shape]
  have pristine : changed.Pristine makes job.config.canonical := shape ▸ waiting.pristine
  have number : changed.id = id := by
    rw [shape]
    exact sound.numbered id target found
  rw [sound.numbered id target found, ← number] at told
  subst number
  intro after
  have moving : service.scene.Precedes
      ((service.replace changed events).publish changed.id).scene :=
    ⟨(List.prefix_append _ _).trans (List.prefix_append _ _), List.prefix_rfl⟩
  have closing := Service.adds_finish ((service.replace changed events).publish changed.id) job
    (.ok changed.id)
  have there : after.service.scene.host.find? changed.id = some changed :=
    (Host.find?_congr closing.tells.instances _).trans (Host.find?_replace_self found)
  have loads : (Poll.mk service.scene after.service.scene).loads = [] := by
    rw [Poll.loads_trans moving closing.tells.precedes, closing.loads, List.append_nil]
    exact Poll.loads_of_binaries (List.append_nil _).symm
  have milestones : (Poll.mk service.scene after.service.scene).milestones =
      [.instanceStarted changed.id, .published changed.id service.slot] := by
    rw [Poll.milestones_trans moving closing.tells.precedes, closing.milestones, List.append_nil]
    refine (Poll.milestones_of_log (List.append_assoc _ _ _)).trans ?_
    rw [List.filter_append, told]
    rfl
  have others : (Poll.mk service.scene after.service.scene).Spares changed.id := by
    intro other target different found
    have changing := service.spares_replace changed events other target different found
    exact (Host.find?_congr closing.tells.instances _).trans changing
  have delivered := underway.deliver precedes (moving.trans closing.tells.precedes) loads
    milestones closing.tells.slot others ⟨changed, there, pristine⟩
  exact ⟨precedes.trans (moving.trans closing.tells.precedes), .delivered delivered unseen
    closing.tells.slot (sound.start rfl ready closing.tells.instances closing.tells.slot).tail⟩

/-- A start that is refused adds nothing but events. -/
theorem adds_of_refused {seen : List Nat} {stages : List Stage} {id : Nat} {names : List String}
    {changed : Instance} {events : List Event} {refusal : Refusal}
    (sound : service.scene.Sound makes seen stages)
    (failed : (service.host.get id).finishStart names = (changed, events, .error refusal)) :
    service.scene.Adds (service.replace changed events).scene [] := by
  obtain ⟨rfl, rfl⟩ := Instance.finishStart_error failed
  have unchanged : service.host.replace (service.host.get id) = service.host :=
    sound.numbered.replace_get id
  rw [Service.replace, unchanged]
  exact service.adds_log [.instanceRefused _ refusal]

/-- **Every further stride of a call.** -/
theorem Stands.stride {before after : Progress} (precedes : start.Precedes before.service.scene)
    (stands : (life.add ⟨start, before.service.scene⟩).Stands makes start.slot seen others before)
    (stride : Stride before after) :
    start.Precedes after.service.scene ∧
      (life.add ⟨start, after.service.scene⟩).Stands makes start.slot seen others after := by
  -- only a call in flight takes a stride, and only those of its stage
  have unfinished := unfinished_of_stride stride
  cases stands with
  | failed => exact unfinished.elim
  | delivered => exact unfinished.elim
  | reused => exact unfinished.elim
  | underway agrees same sound =>
    cases stride with
    | waitLoading =>
      have grounded := sound.grounded _ List.mem_cons_self
      exact ⟨precedes, .underway agrees same (sound.swap rfl grounded)⟩
    | notLoaded failed =>
      exact Stands.fail precedes agrees agrees same sound (Service.adds_finish _ _ _)
    | loaded succeeded =>
      next service job plan =>
      have adds := (service.adds_log [.moduleLoaded job.config.modulePath.isSome]).trans
        (Service.adds_recordBuild _ job.config.canonical)
      have grounded := sound.grounded _ List.mem_cons_self
      exact ⟨precedes.trans adds.tells.precedes,
        .underway (Underway.advance agrees precedes adds) same (sound.turn adds.tells rfl grounded)⟩
    | waitBuilding =>
      have grounded := sound.grounded _ List.mem_cons_self
      exact ⟨precedes, .underway agrees same (sound.swap rfl grounded)⟩
    | notBuilt failed =>
      exact Stands.fail precedes agrees agrees same sound (Service.adds_finish _ _ _)
    | built making planned =>
      have waiting := waiting_of_building (sound.grounded _ List.mem_cons_self) making planned
      subst planned
      exact Stands.build precedes agrees same sound rfl waiting
    | waitStarting =>
      have grounded := sound.grounded _ List.mem_cons_self
      exact ⟨precedes, .underway agrees same (sound.swap rfl grounded)⟩
    | notStarted failed =>
      exact Stands.fail precedes agrees agrees same sound
        ((adds_of_refused sound failed).trans (Service.adds_finish _ _ _))
    | started succeeded => exact Stands.publish precedes agrees sound succeeded
    | mismatched => exact (not_agrees_fresh agrees).elim
    | reused => exact (not_agrees_fresh agrees).elim
    | unresolved => exact (not_agrees_fresh agrees).elim
    | announced => exact (not_agrees_fresh agrees).elim
    | direct => exact (not_agrees_fresh agrees).elim

/-! ### Polls -/

/-- What every stride keeps, strides in a row keep. -/
theorem Stands.strides {before after : Progress} (precedes : start.Precedes before.service.scene)
    (stands : (life.add ⟨start, before.service.scene⟩).Stands makes start.slot seen others before)
    (chain : Strides before after) :
    start.Precedes after.service.scene ∧
      (life.add ⟨start, after.service.scene⟩).Stands makes start.slot seen others after := by
  induction chain with
  | refl => exact ⟨precedes, stands⟩
  | tail _ stride inductive_step => exact inductive_step.2.stride inductive_step.1 stride

theorem Agrees.idle {stage : Stage} (agrees : life.Agrees stage)
    (begun : ∀ order, stage ≠ .fresh order) (scene : Scene) :
    (life.add ⟨scene, scene⟩).Agrees stage := by
  cases stage with
  | fresh order => exact absurd rfl (begun order)
  | loading job plan pauses => exact Underway.idle agrees scene
  | building job plan pauses => exact Underway.idle agrees scene
  | starting job id names pauses => exact Underway.idle agrees scene
  | finished result => exact agrees.elim

/-- **A poll of a call in flight**, added to its life. -/
theorem Agrees.poll {stage : Stage} (agrees : life.Agrees stage)
    (sound : service.scene.Sound makes seen (stage :: others))
    (yields : service.loader.Yields makes) :
    (life.add ⟨service.scene, (service.poll stage).service.scene⟩).Stands makes service.slot seen
      others (service.poll stage) := by
  -- a life without polls has no last poll to grow, so the first stride of a call stands alone; any
  -- other poll grows from one in which nothing happens
  by_cases begun : ∃ order, stage = .fresh order
  · obtain ⟨order, rfl⟩ := begun
    have same : life = ⟨order, []⟩ := agrees
    subst same
    obtain ⟨first, stride, chain⟩ := service.strides_begin order
    obtain ⟨precedes, stands⟩ := Stands.first sound yields stride
    exact (stands.strides precedes chain).2
  · have waiting := agrees.idle (fun order same => begun ⟨order, same⟩) service.scene
    exact (Stands.strides (.refl _) (.underway waiting rfl sound) (service.strides_poll stage)).2

end Life

/-- The polls of a call in a row, up to its end. -/
def Progress.trail (progress : Progress) : (count : Nat) → List Poll
  | 0 => []
  | count + 1 =>
    match progress.stage with
    | .finished _ => []
    | stage =>
      let next := progress.service.poll stage
      ⟨progress.service.scene, next.service.scene⟩ :: next.trail count

/-- The life of a call from its beginning to its end. -/
def Service.completion (service : Service) (order : Order) : Life :=
  ⟨order, Progress.trail ⟨service, .fresh order⟩ ((service.begin order).stage.remaining + 1)⟩

theorem Progress.trail_finished (service : Service) (result : Except BootFailure Nat)
    (count : Nat) : Progress.trail ⟨service, .finished result⟩ count = [] := by
  cases count <;> rfl

theorem Progress.trail_unfinished {stage : Stage} (unfinished : stage.Unfinished)
    (service : Service) (count : Nat) :
    Progress.trail ⟨service, stage⟩ (count + 1) =
      ⟨service.scene, (service.poll stage).service.scene⟩ :: (service.poll stage).trail count := by
  cases stage with
  | finished result => exact unfinished.elim
  | _ => rfl

theorem Service.polls_finished (service : Service) (result : Except BootFailure Nat)
    (count : Nat) :
    Service.polls ⟨service, .finished result⟩ count = ⟨service, .finished result⟩ := by
  induction count with
  | zero => rfl
  | succ count inductive_step => exact inductive_step

namespace Life

variable {makes : String → Items → Prop} {seen : List Nat} {others : List Stage}

theorem append_nil (life : Life) : Life.mk life.order (life.polls ++ []) = life := by
  rw [List.append_nil]

/-- **What every poll of a call keeps, polls in a row keep**, added to its life. -/
theorem trail_induction (holds : Life → Progress → Prop)
    (step : ∀ life service stage, stage.Unfinished → holds life ⟨service, stage⟩ →
      holds (life.add ⟨service.scene, (service.poll stage).service.scene⟩) (service.poll stage))
    (count : Nat) {life : Life} {progress : Progress} (start : holds life progress) :
    holds (Life.mk life.order (life.polls ++ progress.trail count))
      (Service.polls progress count) := by
  induction count generalizing life progress with
  | zero =>
    show holds (Life.mk life.order (life.polls ++ [])) progress
    rw [append_nil]
    exact start
  | succ count inductive_step =>
    obtain ⟨service, stage⟩ := progress
    by_cases unfinished : stage.Unfinished
    · have further := inductive_step (step life service stage unfinished start)
      rw [Progress.trail_unfinished unfinished, List.append_cons]
      exact further
    · cases stage with
      | finished result =>
        rw [Progress.trail_finished, Service.polls_finished, append_nil]
        exact start
      | _ => exact absurd trivial unfinished

/-- Polls of a call in a row. -/
theorem Stands.polls {loader : Loader} {slot : Option Nat} (yields : loader.Yields makes)
    (count : Nat) {life : Life} {progress : Progress} (same : progress.service.loader = loader)
    (stands : life.Stands makes slot seen others progress) :
    (Life.mk life.order (life.polls ++ progress.trail count)).Stands makes slot seen others
      (Service.polls progress count) := by
  refine (trail_induction (fun life progress => progress.service.loader = loader ∧
    life.Stands makes slot seen others progress)
    (fun life service stage unfinished before => ?_) count ⟨same, stands⟩).2
  obtain ⟨same, stands⟩ := before
  refine ⟨(service.poll_loader stage).trans same, ?_⟩
  cases stands with
  | underway agrees slot sound =>
    subst slot same
    exact agrees.poll sound yields
  | _ => exact unfinished.elim

/-- **A call from its beginning to its end.** -/
theorem stands_complete {service : Service} {order : Order}
    (sound : service.scene.Sound makes seen (.fresh order :: others))
    (yields : service.loader.Yields makes) :
    (service.completion order).Stands makes service.slot seen others (service.complete order) := by
  have fresh : (Life.mk order []).Stands makes service.slot seen others
      ⟨service, .fresh order⟩ := .underway rfl rfl sound
  exact fresh.polls yields ((service.begin order).stage.remaining + 1) rfl

end Life

end InstanceHost
