/-
**What every action keeps.**

Whatever is done to a service, by hand or by calls, its instances stand at the places of their
numbers, no call in flight is done, and no two of them are starting the same instance.

* `Progress.Leads`: what a stride does to numbers, kept by strides in a row;
* `Service.Tidy`: what every action keeps;
* `Service.Tidy.act`, `Desk.tidy_run`: so do an action and a schedule.
-/

import InstanceHost.Proofs.Call.Configuration
import InstanceHost.Proofs.Call.Run

namespace InstanceHost

/-! ### Numbers -/

/-- **What a stride does to numbers**: instances keep their places and none is taken away, and a
call goes on with its own instance or with a new one. -/
structure Progress.Leads (before after : Progress) : Prop where
  numbered : after.service.host.Numbered
  grows : before.service.host.nextId ≤ after.service.host.nextId
  own : ∀ id, after.stage.own? = some id → before.stage.own? = some id ∨
    before.service.host.nextId ≤ id ∧ id < after.service.host.nextId

namespace Progress.Leads

variable {first second third : Progress}

theorem refl (numbered : first.service.host.Numbered) : first.Leads first :=
  ⟨numbered, Nat.le_refl _, fun _ own => Or.inl own⟩

theorem trans (one : first.Leads second) (two : second.Leads third) : first.Leads third := by
  refine ⟨two.numbered, Nat.le_trans one.grows two.grows, fun id own => ?_⟩
  rcases two.own id own with before | ⟨above, below⟩
  · rcases one.own id before with earlier | ⟨above, below⟩
    · exact Or.inl earlier
    · exact Or.inr ⟨above, Nat.lt_of_lt_of_le below two.grows⟩
  · exact Or.inr ⟨Nat.le_trans one.grows above, below⟩

/-- The instances stay as they are, and the call goes on with its own or with none. -/
theorem of_same (numbered : first.service.host.Numbered)
    (instances : second.service.host.instances = first.service.host.instances)
    (own : ∀ id, second.stage.own? = some id → first.stage.own? = some id) :
    first.Leads second := by
  have same := Host.find?_congr instances
  refine ⟨fun id target found => numbered id target ((same id).symm.trans found), ?_,
    fun id mine => Or.inl (own id mine)⟩
  exact Nat.le_of_eq (congrArg List.length instances.symm)

/-- An instance changes in its place. -/
theorem of_replace {changed : Instance} (numbered : first.service.host.Numbered)
    (instances : second.service.host.instances =
      (first.service.host.replace changed).instances)
    (own : ∀ id, second.stage.own? = some id → first.stage.own? = some id) :
    first.Leads second := by
  have same := Host.find?_congr instances
  refine ⟨fun id target found => ?_, ?_, fun id mine => Or.inl (own id mine)⟩
  · exact numbered.replace changed id target ((same id).symm.trans found)
  · have size := congrArg List.length instances
    rw [Host.replace, List.length_set] at size
    exact Nat.le_of_eq size.symm

end Progress.Leads

theorem Host.nextId_add (host : Host) (new : Instance) :
    (host.add new).nextId = host.nextId + 1 :=
  List.length_append

theorem Service.finish_instances (service : Service) (job : Job)
    (result : Except BootFailure Nat) :
    (service.finish job result).service.host.instances = service.host.instances :=
  (service.adds_finish job result).tells.instances

/-- **So do strides.** -/
theorem Stride.leads {before after : Progress} (numbered : before.service.host.Numbered)
    (stride : Stride before after) : before.Leads after := by
  cases stride with
  | reused kind found =>
    obtain ⟨target, _, _, rfl⟩ := Service.reuse?_eq_some found
    exact .of_replace numbered rfl fun _ mine => mine
  | announced kind missing resolved telling =>
    subst telling
    exact .of_same numbered rfl fun _ mine => mine
  | notLoaded failed => exact .of_same numbered (Service.finish_instances _ _ _) nofun
  | notBuilt failed => exact .of_same numbered (Service.finish_instances _ _ _) nofun
  | built making planned =>
    next service job plan items new =>
    have number : new.id = service.host.nextId := by rw [planned]; rfl
    have size : (service.addBuilt new.beginStart).host.nextId = service.host.nextId + 1 :=
      Host.nextId_add _ _
    refine ⟨numbered.add number, ?_, fun id mine => Or.inr ?_⟩
    · show service.host.nextId ≤ (service.addBuilt new.beginStart).host.nextId
      omega
    · have same : new.id = id := Option.some.inj mine
      show service.host.nextId ≤ id ∧ id < (service.addBuilt new.beginStart).host.nextId
      omega
  | notStarted failed => exact .of_replace numbered (Service.finish_instances _ _ _) nofun
  | started succeeded => exact .of_replace numbered (Service.finish_instances _ _ _) nofun
  | _ => exact .of_same numbered rfl fun _ mine => mine

theorem Strides.leads {before after : Progress} (numbered : before.service.host.Numbered)
    (chain : Strides before after) : before.Leads after := by
  induction chain with
  | refl => exact .refl numbered
  | tail _ stride inductive_step =>
    exact inductive_step.trans (stride.leads inductive_step.numbered)

/-! ### Services -/

/-- **What every action keeps.** -/
structure Service.Tidy (service : Service) : Prop where
  numbered : service.host.Numbered
  ascending : service.calls.Ascending
  unfinished : ∀ stage ∈ service.calls.stages, stage.Unfinished
  apart : (service.calls.stages.filterMap Stage.own?).Nodup
  built : ∀ stage ∈ service.calls.stages, ∀ id, stage.own? = some id → id < service.host.nextId

namespace Service.Tidy

variable {service changed : Service} {call : String} {stage next : Stage}

/-- A change beside the calls. -/
theorem change (tidy : service.Tidy) (numbered : changed.host.Numbered)
    (grows : service.host.nextId ≤ changed.host.nextId)
    (calls : changed.calls = service.calls) : changed.Tidy := by
  refine ⟨numbered, ?_, ?_, ?_, ?_⟩
  · exact calls.symm ▸ tidy.ascending
  · exact calls.symm ▸ tidy.unfinished
  · exact calls.symm ▸ tidy.apart
  · intro stage member id own
    exact Nat.lt_of_lt_of_le (tidy.built stage (calls ▸ member) id own) grows

/-- A call is forgotten. -/
theorem erase (tidy : service.Tidy) (call : String) :
    Service.Tidy { service with calls := service.calls.erase call } := by
  have fewer : (service.calls.erase call).stages.Sublist service.calls.stages :=
    (Keyed.erase_sublist call service.calls).map _
  exact ⟨tidy.numbered, Keyed.ascending_erase tidy.ascending,
    fun stage member => tidy.unfinished stage (fewer.subset member),
    (fewer.filterMap Stage.own?).nodup tidy.apart,
    fun stage member => tidy.built stage (fewer.subset member)⟩

/-- A call comes to a stage, with an instance that no other call is starting. -/
theorem insert (tidy : service.Tidy) (unfinished : next.Unfinished)
    (apart : ∀ id, next.own? = some id → id < service.host.nextId ∧
      ∀ other ∈ (service.calls.erase call).stages, other.own? ≠ some id) :
    Service.Tidy { service with calls := service.calls.insert call next } := by
  have same := Keyed.stages_insert_perm call next service.calls
  have rest := tidy.erase call
  refine ⟨tidy.numbered, Keyed.ascending_insert tidy.ascending, ?_, ?_, ?_⟩
  · intro stage member
    rcases List.mem_cons.mp (same.mem_iff.mp member) with rfl | other
    · exact unfinished
    · exact rest.unfinished stage other
  · rw [(same.filterMap Stage.own?).nodup_iff]
    cases own : next.own? with
    | none =>
      rw [List.filterMap_cons_none own]
      exact rest.apart
    | some id =>
      rw [List.filterMap_cons_some own]
      refine List.nodup_cons.mpr ⟨fun taken => ?_, rest.apart⟩
      obtain ⟨other, member, mine⟩ := List.mem_filterMap.mp taken
      exact (apart id own).2 other member mine
  · intro stage member id own
    rcases List.mem_cons.mp (same.mem_iff.mp member) with rfl | other
    · exact (apart id own).1
    · exact rest.built stage other id own

/-- No other call is starting the instance of a call. -/
theorem own?_ne (tidy : service.Tidy) (present : service.calls.lookup call = some stage) {id : Nat}
    (own : stage.own? = some id) {other : Stage}
    (member : other ∈ (service.calls.erase call).stages) : other.own? ≠ some id := by
  intro mine
  have apart := ((Keyed.stages_perm_erase present).filterMap Stage.own?).nodup_iff.mp tidy.apart
  rw [List.filterMap_cons_some own] at apart
  exact (List.nodup_cons.mp apart).1 (List.mem_filterMap.mpr ⟨other, member, mine⟩)

theorem mem_stages (present : service.calls.lookup call = some stage) :
    stage ∈ service.calls.stages :=
  (Keyed.stages_perm_erase present).mem_iff.mpr List.mem_cons_self

/-- A call in flight goes on. -/
theorem proceed {progress : Progress} (tidy : service.Tidy)
    (present : service.calls.lookup call = some stage)
    (leads : Progress.Leads ⟨service, stage⟩ progress)
    (calls : progress.service.calls = service.calls) (unfinished : progress.stage.Unfinished) :
    Service.Tidy
      { progress.service with calls := service.calls.insert call progress.stage } := by
  have moved := tidy.change leads.numbered leads.grows calls
  rw [← calls]
  refine moved.insert unfinished fun id own => ?_
  rw [calls]
  rcases leads.own id own with before | ⟨above, below⟩
  · refine ⟨Nat.lt_of_lt_of_le (tidy.built stage (mem_stages present) id before) leads.grows, ?_⟩
    exact fun other member => tidy.own?_ne present before member
  · refine ⟨below, fun other member mine => ?_⟩
    have early := (tidy.erase call).built other member id mine
    exact absurd early (Nat.not_lt.mpr above)

theorem pollCall (tidy : service.Tidy) (call : String) : (service.pollCall call).1.Tidy := by
  unfold Service.pollCall
  cases present : service.calls.lookup call with
  | none => exact tidy
  | some stage =>
    have leads := Strides.leads tidy.numbered
      (service.strides_poll stage)
    have calls := service.poll_calls stage
    simp only
    generalize service.poll stage = progress at leads calls
    obtain ⟨after, reached⟩ := progress
    cases reached with
    | finished result => exact (tidy.change leads.numbered leads.grows calls).erase call
    | _ =>
      have further := tidy.proceed present leads calls trivial
      rw [← calls] at further
      exact further

theorem complete (tidy : service.Tidy) (order : Order) :
    (service.complete order).service.Tidy := by
  obtain ⟨first, stride, chain⟩ := strides_complete service order
  have leads := Strides.leads tidy.numbered
    (.head stride chain)
  exact tidy.change leads.numbered leads.grows (History.Kept.complete_calls service order)

/-- An instance changes in its place. -/
theorem replace (tidy : service.Tidy) (changed : Instance) (events : List Event) :
    (service.replace changed events).Tidy := by
  refine tidy.change (tidy.numbered.replace changed) ?_ rfl
  have size : (service.host.replace changed).nextId = service.host.nextId := List.length_set
  exact Nat.le_of_eq size.symm

theorem create (tidy : service.Tidy) (text : String) : (service.create text).1.Tidy := by
  unfold Service.create
  split
  · exact tidy
  · next made making =>
    obtain ⟨config, _, rfl⟩ := Instance.ofConfig_eq_ok making
    refine tidy.change (tidy.numbered.add rfl) ?_ rfl
    exact Nat.le_trans (Nat.le_succ _) (Nat.le_of_eq (Host.nextId_add _ _).symm)

/-- **Every action keeps a service tidy.** -/
theorem act (tidy : service.Tidy) (action : Action) : (service.act action).1.Tidy := by
  cases action with
  | complete order =>
    rw [Service.act]
    have further := tidy.complete order
    generalize service.complete order = progress at further
    cases progress.stage <;> exact further
  | ensure value =>
    show (service.ensure value).1.Tidy
    unfold Service.ensure
    split
    · exact tidy
    · split
      · exact tidy
      · next changed id found =>
        obtain ⟨target, _, _, rfl⟩ := Service.reuse?_eq_some found
        exact tidy.replace _ _
  | spawn call value =>
    exact tidy.insert trivial fun _ own => absurd own (Option.some_ne_none _).symm
  | prepare call config =>
    exact tidy.insert trivial fun _ own => absurd own (Option.some_ne_none _).symm
  | poll call => exact tidy.pollCall call
  | drop call => exact tidy.erase call
  | create text => exact tidy.create text
  | publish id => exact tidy.change tidy.numbered (Nat.le_refl _) rfl
  | clear => exact tidy.change tidy.numbered (Nat.le_refl _) rfl
  | request id request =>
    show (service.askInstance id request).1.Tidy
    unfold Service.askInstance
    split
    · exact tidy
    · exact tidy.replace _ _
  | write change => exact tidy.change tidy.numbered (Nat.le_refl _) rfl
  | delete path =>
    rw [Service.act]
    split
    · exact tidy.change tidy.numbered (Nat.le_refl _) rfl
    · exact tidy

end Service.Tidy

/-! ### Schedules -/

theorem Desk.Unused.tidy {desk : Desk} (unused : desk.Unused) : desk.service.Tidy := by
  refine ⟨unused.numbered, ?_, ?_, ?_, ?_⟩ <;> rw [unused.calls]
  · exact List.Pairwise.nil
  · exact List.forall_mem_nil _
  · exact List.nodup_nil
  · exact List.forall_mem_nil _

/-- **So does every schedule.** -/
theorem Desk.tidy_run {desk : Desk} (tidy : desk.service.Tidy) (actions : List Action) :
    (desk.run actions).1.service.Tidy := by
  induction actions generalizing desk with
  | nil => exact tidy
  | cons action rest inductive_step =>
    refine inductive_step ?_
    show (desk.attempt action).1.Tidy
    rcases desk.attempt_cases action with ⟨same, _⟩ | ⟨same, _⟩ <;> rw [same]
    · exact tidy.act action
    · exact tidy

end InstanceHost
