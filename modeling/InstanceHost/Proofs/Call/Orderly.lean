/-
**What was seen is nobody's to start.**

On a desk only instances that were seen are published, asked or rewritten by hand, and what was seen
is started by no call any more. So a call that is starting an instance has it to itself, whatever is
done meanwhile, by hand or by other calls.

* `Progress.Apart`: an instance that is neither a call's own nor published, which no stride changes;
* `Progress.Arrives`: the instances that a call can come to or publish;
* `Service.Known`: an instance that no call in flight is starting;
* `Service.Tidy.reveals_act`, `Desk.orderly_run`: whatever is shown or published is known;
* `Service.Tidy.spared_act`: an instance that a call is starting is as it was after every action but
  a poll of this call.
-/

import InstanceHost.Proofs.Call.Tidy

namespace InstanceHost

/-! ### What a stride does to instances -/

theorem Host.Numbered.get_id {host : Host} (numbered : host.Numbered) (id : Nat) :
    (host.get id).id = id := by
  cases found : host.find? id with
  | some target =>
    rw [get_of_find? found]
    exact numbered id target found
  | none =>
    rw [get, found]
    rfl

/-- **An instance that is neither the own one of a call nor published.** -/
structure Progress.Apart (progress : Progress) (id : Nat) (target : Instance) : Prop where
  found : progress.service.host.find? id = some target
  own : progress.stage.own? ≠ some id
  slot : progress.service.slot ≠ some id

section

variable {before after : Progress} {id : Nat} {target : Instance}

/-- The instances stay as they are. -/
theorem Progress.Apart.of_same (apart : before.Apart id target)
    (instances : after.service.host.instances = before.service.host.instances)
    (slot : after.service.slot = before.service.slot) (own : after.stage.own? = none) :
    after.Apart id target := by
  refine ⟨(Host.find?_congr instances id).trans apart.found, ?_, slot ▸ apart.slot⟩
  rw [own]
  exact nofun

theorem Progress.Apart.finish {service : Service} {stage : Stage} {job : Job}
    {result : Except BootFailure Nat} (apart : Progress.Apart ⟨service, stage⟩ id target) :
    (service.finish job result).Apart id target :=
  apart.of_same (service.finish_instances job result) (service.adds_finish job result).tells.slot
    rfl

/-- **No stride changes such an instance**, and it stays apart. -/
theorem Stride.apart (stride : Stride before after) (numbered : before.service.host.Numbered)
    (apart : before.Apart id target) : after.Apart id target := by
  cases stride with
  | reused kind found =>
    next service changed value config other =>
    obtain ⟨current, rfl, slot, _, rfl⟩ := Service.reuse?_published numbered found
    rw [Instance.set_configurationKey]
    refine ⟨?_, by rintro ⟨⟩, apart.slot⟩
    refine service.spares_replace _ [.configUpdated current.id config.kindName] id target
      (fun equal => apart.slot ?_) apart.found
    rw [equal]
    exact slot
  | announced kind missing resolved telling =>
    subst telling
    exact apart.of_same rfl rfl rfl
  | notLoaded failed => exact apart.finish
  | notBuilt failed => exact apart.finish
  | built making planned =>
    next service job plan items new =>
    have number : new.id = service.host.nextId := by rw [planned]; rfl
    have early := Host.lt_nextId_of_find? apart.found
    refine ⟨Host.find?_add_of_find? _ apart.found, fun mine => ?_, apart.slot⟩
    have same : new.id = id := Option.some.inj mine
    have below : id < service.host.nextId := early
    omega
  | waitStarting => exact ⟨apart.found, apart.own, apart.slot⟩
  | notStarted failed =>
    next service job other names changed events refusal =>
    obtain ⟨rfl, _⟩ := Instance.finishStart_error failed
    have unchanged : service.host.replace (service.host.get other) = service.host :=
      numbered.replace_get other
    have replaced : Progress.Apart
        ⟨service.replace (service.host.get other) events, .finished (.ok other)⟩ id target := by
      refine apart.of_same ?_ rfl rfl
      rw [Service.replace, unchanged]
      rfl
    exact replaced.finish
  | started succeeded =>
    next service job other names changed events =>
    obtain ⟨shape, _⟩ := Instance.finishStart_ok succeeded
    have number : changed.id = other := by
      rw [shape]
      exact numbered.get_id other
    have different : id ≠ changed.id := fun same => apart.own (by rw [same, number]; rfl)
    have replaced : Progress.Apart
        ⟨(service.replace changed events).publish other, .finished (.ok other)⟩ id target := by
      refine ⟨service.spares_replace changed events id target different apart.found,
        by rintro ⟨⟩, ?_⟩
      intro published
      exact different (number.trans (Option.some.inj published)).symm
    exact replaced.finish
  | _ => exact apart.of_same rfl rfl rfl

/-- No strides in a row do. -/
theorem Strides.apart (chain : Strides before after) (numbered : before.service.host.Numbered)
    (apart : before.Apart id target) : after.Apart id target := by
  induction chain with
  | refl => exact apart
  | tail earlier stride inductive_step =>
    exact stride.apart (Strides.leads numbered earlier).numbered inductive_step

end

/-! ### What a call comes to -/

/-- **The instances that a call can come to or publish**: the published one, its own, or a new one.
Only a call that ends publishes. -/
structure Progress.Arrives (before after : Progress) : Prop where
  slot : ∀ id, after.service.slot = some id →
    before.service.slot = some id ∨ after.stage = .finished (.ok id)
  arrived : ∀ id, after.stage = .finished (.ok id) →
    before.service.slot = some id ∨ before.stage.own? = some id ∨
      before.service.host.nextId ≤ id ∧ id < after.service.host.nextId

section

variable {before after : Progress}

/-- The slot stays as it is, and the call comes to nothing. -/
theorem Progress.Arrives.of_same (slot : after.service.slot = before.service.slot)
    (unfulfilled : ∀ id, after.stage ≠ .finished (.ok id)) : before.Arrives after :=
  ⟨fun _ published => Or.inl (slot ▸ published), fun id arrived => absurd arrived (unfulfilled id)⟩

/-- A call fails. -/
theorem Progress.Arrives.fail {service : Service} {job : Job} {failure : BootFailure}
    (slot : service.slot = before.service.slot) :
    before.Arrives (service.finish job (.error failure)) :=
  .of_same ((service.adds_finish job (.error failure)).tells.slot.trans slot) nofun

theorem Stride.arrives (stride : Stride before after) (numbered : before.service.host.Numbered) :
    before.Arrives after := by
  cases stride with
  | reused kind found =>
    obtain ⟨target, rfl, slot, _, rfl⟩ := Service.reuse?_published numbered found
    rw [Instance.set_configurationKey]
    refine ⟨fun _ published => Or.inl published, fun id arrived => Or.inl ?_⟩
    cases arrived
    exact slot
  | announced kind missing resolved telling =>
    subst telling
    exact .of_same rfl (by rintro _ ⟨⟩)
  | notLoaded failed => exact .fail rfl
  | notBuilt failed => exact .fail rfl
  | notStarted failed => exact .fail rfl
  | started succeeded =>
    next service job id names changed events =>
    have closing := ((service.replace changed events).publish id).adds_finish job (.ok id)
    refine ⟨fun other published => Or.inr ?_, fun other arrived => Or.inr (Or.inl ?_)⟩
    · have same : id = other := Option.some.inj (closing.tells.slot.symm.trans published)
      rw [← same]
      rfl
    · cases arrived
      rfl
  | _ => exact .of_same rfl (by rintro _ ⟨⟩)

theorem Strides.arrives (chain : Strides before after) (unfinished : before.stage.Unfinished)
    (numbered : before.service.host.Numbered) : before.Arrives after := by
  induction chain with
  | refl =>
    refine .of_same rfl fun id arrived => ?_
    rw [arrived] at unfinished
    exact unfinished
  | tail earlier stride inductive_step =>
    next middle last =>
    obtain ⟨middle_numbered, grows, own⟩ := Strides.leads numbered earlier
    have leads := stride.leads middle_numbered
    have arrives := stride.arrives middle_numbered
    -- a call that goes on had not come to an instance yet
    have underway : ∀ id, middle.stage ≠ .finished (.ok id) := fun id ended => by
      have going := unfinished_of_stride stride
      rw [ended] at going
      exact going
    have slot : ∀ id, middle.service.slot = some id → before.service.slot = some id :=
      fun id published => (inductive_step.slot id published).resolve_right (underway id)
    refine ⟨fun id published => ?_, fun id arrived => ?_⟩
    · exact (arrives.slot id published).imp_left (slot id)
    · rcases arrives.arrived id arrived with published | mine | ⟨above, below⟩
      · exact Or.inl (slot id published)
      · rcases own id mine with early | ⟨above, below⟩
        · exact Or.inr (Or.inl early)
        · exact Or.inr (Or.inr ⟨above, Nat.lt_of_lt_of_le below leads.grows⟩)
      · exact Or.inr (Or.inr ⟨Nat.le_trans grows above, below⟩)

end

/-! ### Instances that no call is starting -/

namespace Service

/-- **An instance that no call in flight is starting.** -/
structure Known (service : Service) (id : Nat) : Prop where
  present : id < service.host.nextId
  free : ∀ stage ∈ service.calls.stages, stage.own? ≠ some id

/-- **What an action does to known instances**: they stay known, and so is all that it shows and
that is published after it. -/
structure Reveals (service after : Service) (shown : List Nat) : Prop where
  known : ∀ id, service.Known id → after.Known id
  shown : ∀ id ∈ shown, after.Known id
  slot : ∀ id, after.slot = some id → after.Known id

variable {service changed : Service} {call : String} {stage next : Stage} {id : Nat}
  {calls : Keyed Stage} {progress : Progress}

theorem Known.exists_find? (known : service.Known id) :
    ∃ target, service.host.find? id = some target :=
  ⟨_, List.getElem?_eq_getElem known.present⟩

theorem Known.change (known : service.Known id)
    (grows : service.host.nextId ≤ changed.host.nextId)
    (fewer : changed.calls.stages ⊆ service.calls.stages) : changed.Known id :=
  ⟨Nat.lt_of_lt_of_le known.present grows, fun stage member => known.free stage (fewer member)⟩

theorem Known.insert (known : service.Known id) (own : next.own? ≠ some id) :
    Service.Known { service with calls := service.calls.insert call next } id := by
  refine ⟨known.present, fun stage member => ?_⟩
  have same := Keyed.stages_insert_perm call next service.calls
  rcases List.mem_cons.mp (same.mem_iff.mp member) with rfl | other
  · exact own
  · exact known.free stage (((Keyed.erase_sublist call service.calls).map _).subset other)

theorem stages_erase_subset (calls : Keyed Stage) (call : String) :
    (calls.erase call).stages ⊆ calls.stages :=
  ((Keyed.erase_sublist call calls).map _).subset

/-- A change after which the slot is as it was. -/
theorem Reveals.change {shown : List Nat} (published : ∀ id, service.slot = some id →
    service.Known id) (grows : service.host.nextId ≤ changed.host.nextId)
    (fewer : changed.calls.stages ⊆ service.calls.stages) (slot : changed.slot = service.slot)
    (seen : ∀ id ∈ shown, service.Known id) : service.Reveals changed shown :=
  ⟨fun _ known => known.change grows fewer, fun id member => (seen id member).change grows fewer,
    fun id there => (published id (slot ▸ there)).change grows fewer⟩

/-- What a call comes to or publishes, no other call is starting. -/
theorem known_of_arrived (tidy : service.Tidy)
    (published : ∀ id, service.slot = some id → service.Known id)
    (leads : Progress.Leads ⟨service, stage⟩ progress)
    (own : ∀ id, stage.own? = some id → id < service.host.nextId)
    (fewer : calls.stages ⊆ service.calls.stages)
    (others : ∀ id, stage.own? = some id → ∀ other ∈ calls.stages, other.own? ≠ some id)
    (arrived : service.slot = some id ∨ stage.own? = some id ∨
      service.host.nextId ≤ id ∧ id < progress.service.host.nextId) :
    Service.Known { progress.service with calls := calls } id := by
  rcases arrived with there | mine | ⟨above, below⟩
  · exact (published id there).change leads.grows fewer
  · exact ⟨Nat.lt_of_lt_of_le (own id mine) leads.grows, others id mine⟩
  · refine ⟨below, fun other member theirs => ?_⟩
    exact absurd (tidy.built other (fewer member) id theirs) (Nat.not_lt.mpr above)

namespace Tidy

variable (tidy : service.Tidy) (published : ∀ id, service.slot = some id → service.Known id)

include tidy published

/-- A call that has ended and is forgotten. -/
theorem reveals_ended {result : Except BootFailure Nat}
    (leads : Progress.Leads ⟨service, stage⟩ progress)
    (arrives : Progress.Arrives ⟨service, stage⟩ progress)
    (ended : progress.stage = .finished result)
    (own : ∀ id, stage.own? = some id → id < service.host.nextId)
    (fewer : calls.stages ⊆ service.calls.stages)
    (others : ∀ id, stage.own? = some id → ∀ other ∈ calls.stages, other.own? ≠ some id) :
    service.Reveals { progress.service with calls := calls } (Outcome.ended result).shown := by
  have reached : ∀ id, progress.stage = .finished (.ok id) →
      Service.Known { progress.service with calls := calls } id := fun id arrived =>
    known_of_arrived tidy published leads own fewer others (arrives.arrived id arrived)
  refine ⟨fun id known => known.change leads.grows fewer, fun id member => ?_, fun id there => ?_⟩
  · cases result with
    | error failure => cases member
    | ok other =>
      rw [List.mem_singleton.mp member]
      exact reached other ended
  · rcases arrives.slot id there with before | arrived
    · exact (published id before).change leads.grows fewer
    · exact reached id arrived

omit tidy in
/-- A call in flight that goes on. -/
theorem reveals_pending (present : service.calls.lookup call = some stage)
    (leads : Progress.Leads ⟨service, stage⟩ progress)
    (arrives : Progress.Arrives ⟨service, stage⟩ progress)
    (calls : progress.service.calls = service.calls) (unfinished : progress.stage.Unfinished) :
    service.Reveals { progress.service with calls := service.calls.insert call progress.stage }
      [] := by
  have known : ∀ id, service.Known id →
      Service.Known { progress.service with calls := service.calls.insert call progress.stage }
        id := by
    intro id known
    have own : progress.stage.own? ≠ some id := fun mine => by
      rcases leads.own id mine with early | ⟨above, _⟩
      · exact known.free stage (mem_stages present) early
      · exact absurd known.present (Nat.not_lt.mpr above)
    have moved : progress.service.Known id :=
      known.change leads.grows (calls ▸ List.Subset.refl _)
    rw [← calls]
    exact moved.insert own
  refine ⟨known, List.forall_mem_nil _, fun id there => ?_⟩
  rcases arrives.slot id there with before | arrived
  · exact known id (published id before)
  · rw [arrived] at unfinished
    exact unfinished.elim

theorem reveals_pollCall (call : String) :
    service.Reveals (service.pollCall call).1 (service.pollCall call).2.shown := by
  unfold Service.pollCall
  cases present : service.calls.lookup call with
  | none =>
    exact .change published (Nat.le_refl _) (List.Subset.refl _) rfl (List.forall_mem_nil _)
  | some stage =>
    have mine := mem_stages present
    have leads := Strides.leads tidy.numbered (service.strides_poll stage)
    have arrives := Strides.arrives (service.strides_poll stage) (tidy.unfinished stage mine)
      tidy.numbered
    have calls := service.poll_calls stage
    simp only
    generalize service.poll stage = progress at leads arrives calls
    obtain ⟨after, reached⟩ := progress
    replace calls : after.calls = service.calls := calls
    rw [calls]
    cases reached with
    | finished result =>
      exact tidy.reveals_ended published leads arrives rfl (tidy.built stage mine)
        (stages_erase_subset service.calls call) fun _ own _ => tidy.own?_ne present own
    | _ => exact reveals_pending published present leads arrives calls trivial

theorem reveals_complete (order : Order) :
    service.Reveals (service.act (.complete order)).1 (service.act (.complete order)).2.shown := by
  obtain ⟨first, stride, chain⟩ := strides_complete service order
  have whole : Strides ⟨service, .fresh order⟩ (service.complete order) := .head stride chain
  have leads := Strides.leads tidy.numbered whole
  have arrives := Strides.arrives whole trivial tidy.numbered
  have calls := History.Kept.complete_calls service order
  obtain ⟨result, ended⟩ := complete_finished service order
  have reveals := tidy.reveals_ended published leads arrives ended nofun
    (List.Subset.refl service.calls.stages) nofun
  rw [Service.act]
  generalize service.complete order = progress at ended reveals calls
  obtain ⟨after, reached⟩ := progress
  have finished : reached = .finished result := ended
  subst finished
  replace calls : after.calls = service.calls := calls
  rw [← calls] at reveals
  exact reveals

omit tidy in
/-- A call is made, in the place of the one under its name. -/
theorem reveals_make (call : String) (order : Order) :
    service.Reveals (service.make call order).1 [] :=
  ⟨fun _ known => known.insert nofun, List.forall_mem_nil _,
    fun id there => (published id there).insert nofun⟩

theorem reveals_ensure (value : Json) :
    service.Reveals (service.ensure value).1 (service.ensure value).2.shown := by
  have quiet : service.Reveals service [] :=
    .change published (Nat.le_refl _) (List.Subset.refl _) rfl (List.forall_mem_nil _)
  unfold Service.ensure
  split
  · exact quiet
  · split
    · exact quiet
    · next changed id found =>
      obtain ⟨target, rfl, slot, _, rfl⟩ := reuse?_published tidy.numbered found
      refine .change published ?_ (List.Subset.refl _) rfl fun id member => ?_
      · exact Nat.le_of_eq List.length_set.symm
      · rw [List.mem_singleton.mp member]
        exact published target.id slot

theorem reveals_create (text : String) :
    service.Reveals (service.create text).1 (service.create text).2.shown := by
  unfold Service.create
  split
  · exact .change published (Nat.le_refl _) (List.Subset.refl _) rfl (List.forall_mem_nil _)
  · next made making =>
    obtain ⟨config, _, rfl⟩ := Instance.ofConfig_eq_ok making
    have grows := Host.nextId_add service.host
      (Instance.ofItems service.host.nextId (Instance.configItems config))
    have more : service.host.nextId ≤ (service.host.add
        (Instance.ofItems service.host.nextId (Instance.configItems config))).nextId := by
      omega
    refine ⟨fun _ known => known.change more (List.Subset.refl _), fun id member => ?_,
      fun id there => (published id there).change more (List.Subset.refl _)⟩
    have new : id = service.host.nextId := List.mem_singleton.mp member
    subst new
    refine ⟨Nat.lt_of_lt_of_eq (Nat.lt_succ_self _) grows.symm, fun stage member own => ?_⟩
    exact absurd (tidy.built stage member _ own) (Nat.lt_irrefl _)

/-- **Whatever an action shows, and whatever is published after it, is known**, if what it addresses
is. -/
theorem reveals_act {action : Action} (addressed : ∀ id ∈ action.addressed, service.Known id) :
    service.Reveals (service.act action).1 (service.act action).2.shown := by
  have occupant : ∀ id ∈ (Outcome.occupant service.slot).shown, service.Known id :=
    fun id there => published id (History.Kept.slot_of_occupant there)
  -- most actions leave the slot and the calls alone
  have still : ∀ {changed : Service}, changed.slot = service.slot →
      changed.calls = service.calls → changed.host.nextId = service.host.nextId →
      service.Reveals changed [] := fun slot calls size =>
    .change published (Nat.le_of_eq size.symm) (calls ▸ List.Subset.refl _) slot
      (List.forall_mem_nil _)
  cases action with
  | complete order => exact tidy.reveals_complete published order
  | ensure value => exact tidy.reveals_ensure published value
  | spawn call value => exact reveals_make published call (.value value)
  | prepare call config => exact reveals_make published call (.normal config)
  | poll call => exact tidy.reveals_pollCall published call
  | drop call =>
    exact .change published (Nat.le_refl _) (stages_erase_subset _ call) rfl
      (List.forall_mem_nil _)
  | create text => exact tidy.reveals_create published text
  | publish id =>
    refine ⟨fun _ known => known.change (Nat.le_refl _) (List.Subset.refl _),
      fun other there => (occupant other there).change (Nat.le_refl _) (List.Subset.refl _),
      fun other there => ?_⟩
    have same : id = other := Option.some.inj there
    exact (addressed other (same ▸ rfl)).change (Nat.le_refl _) (List.Subset.refl _)
  | clear =>
    exact ⟨fun _ known => known.change (Nat.le_refl _) (List.Subset.refl _),
      fun other there => (occupant other there).change (Nat.le_refl _) (List.Subset.refl _), nofun⟩
  | request id request =>
    show service.Reveals (service.askInstance id request).1 (service.askInstance id request).2.shown
    unfold Service.askInstance
    split
    · exact still rfl rfl rfl
    · exact still rfl rfl List.length_set
  | write change => exact still rfl rfl rfl
  | delete path =>
    rw [Service.act]
    split <;> exact still rfl rfl rfl

/-! ### What an action spares -/

/-- **An instance that a call is starting stays as it is** in every action but a poll of this
call. -/
theorem spared_act {action : Action} {target : Instance} (addressed : ∀ id ∈ action.addressed,
    service.Known id) (found : service.host.find? id = some target) (hidden : ¬ service.Known id)
    (other : ∀ call stage, action = .poll call → service.calls.lookup call = some stage →
      stage.own? ≠ some id) :
    (service.act action).1.host.find? id = some target := by
  have unpublished : service.slot ≠ some id := fun there => hidden (published id there)
  have replaced : ∀ changed : Instance, service.Known changed.id →
      (service.host.replace changed).find? id = some target := by
    intro changed known
    refine (Host.find?_replace_of_ne fun same => hidden ?_).trans found
    rw [same]
    exact known
  cases action with
  | complete order =>
    obtain ⟨first, stride, chain⟩ := strides_complete service order
    have whole : Strides ⟨service, .fresh order⟩ (service.complete order) := .head stride chain
    have spared := (Strides.apart whole tidy.numbered ⟨found, nofun, unpublished⟩).found
    rw [Service.act]
    generalize service.complete order = progress at spared
    cases progress.stage <;> exact spared
  | ensure value =>
    show (service.ensure value).1.host.find? id = some target
    unfold Service.ensure
    split
    · exact found
    · split
      · exact found
      · next changed number there =>
        obtain ⟨occupant, rfl, slot, _, rfl⟩ := reuse?_published tidy.numbered there
        rw [Instance.set_configurationKey]
        exact replaced _ (published occupant.id slot)
  | poll call =>
    show (service.pollCall call).1.host.find? id = some target
    unfold Service.pollCall
    cases present : service.calls.lookup call with
    | none => exact found
    | some stage =>
      have spared := (Strides.apart (service.strides_poll stage) tidy.numbered
        ⟨found, other call stage rfl present, unpublished⟩).found
      simp only
      generalize service.poll stage = progress at spared
      cases progress.stage <;> exact spared
  | create text =>
    show (service.create text).1.host.find? id = some target
    unfold Service.create
    split
    · exact found
    · exact Host.find?_add_of_find? _ found
  | request number request =>
    show (service.askInstance number request).1.host.find? id = some target
    unfold Service.askInstance
    split
    · exact found
    · next asked stored =>
      have same : (asked.ask request).target.id = number :=
        (Instance.Continues.request asked request).id.trans (tidy.numbered number asked stored)
      exact replaced _ (same ▸ addressed number rfl)
  | delete path =>
    rw [Service.act]
    split <;> exact found
  | _ => exact found

end Tidy

end Service

/-! ### Desks -/

/-- **A desk on which whatever was seen is known**, and whatever is published was seen. -/
structure Desk.Orderly (desk : Desk) : Prop where
  tidy : desk.service.Tidy
  seen : ∀ id ∈ desk.seen, desk.service.Known id
  slot : ∀ id, desk.service.slot = some id → id ∈ desk.seen

namespace Desk

variable {desk : Desk}

theorem Unused.orderly (unused : desk.Unused) : desk.Orderly := by
  refine ⟨unused.tidy, fun id there => ?_, fun id published => ?_⟩
  · rw [unused.seen] at there
    cases there
  · rw [unused.slot] at published
    cases published

theorem Orderly.published (orderly : desk.Orderly) (id : Nat)
    (published : desk.service.slot = some id) : desk.service.Known id :=
  orderly.seen id (orderly.slot id published)

theorem Orderly.attempt (orderly : desk.Orderly) (action : Action) :
    (desk.attempt action).1.Tidy ∧
      desk.service.Reveals (desk.attempt action).1 (desk.attempt action).2.shown := by
  rcases desk.attempt_cases action with ⟨same, addressed⟩ | ⟨same, _⟩ <;> rw [same]
  · exact ⟨orderly.tidy.act action, orderly.tidy.reveals_act orderly.published
      fun id member => orderly.seen id (addressed id member)⟩
  · exact ⟨orderly.tidy, .change orderly.published (Nat.le_refl _) (List.Subset.refl _) rfl
      (List.forall_mem_nil _)⟩

/-- **Every action keeps a desk orderly.** -/
theorem Orderly.perform (orderly : desk.Orderly) (action : Action) :
    (desk.perform action).1.Orderly := by
  obtain ⟨tidy, known, shown, slot⟩ := orderly.attempt action
  refine ⟨tidy, fun id member => ?_, fun id published => ?_⟩
  · rcases List.mem_append.mp member with earlier | last
    · rcases List.mem_append.mp earlier with before | now
      · exact known id (orderly.seen id before)
      · exact shown id now
    · exact slot id (Option.mem_toList.mp last)
  · exact List.mem_append_right _ (Option.mem_toList.mpr published)

/-- **So does every schedule.** -/
theorem orderly_run (orderly : desk.Orderly) (actions : List Action) :
    (desk.run actions).1.Orderly := by
  induction actions generalizing desk with
  | nil => exact orderly
  | cons action rest inductive_step => exact inductive_step (orderly.perform action)

end Desk

end InstanceHost
