/-
**Every call of a schedule is accounted for.**

Whatever is done on a desk, by hand or by calls, the history of a schedule accounts for every call
in it: for those that have ended, for those that were abandoned, and for those in flight. Only the
instance that a call is starting matters to it from outside, and every action but its own polls
spares this instance.

* `Life.Traced`: a call in flight that has not been polled yet or is accounted for;
* `History.Accounted`: so are all calls of a history;
* `History.Accounted.act`, `Desk.accounted_run`: every action and every schedule accounts for calls.
-/

import InstanceHost.Proofs.Call.Account
import InstanceHost.Proofs.Call.Orderly
import InstanceHost.Proofs.Call.Sequence

namespace InstanceHost

/-! ### The loader stays -/

/-- No action changes the loader. -/
theorem Service.act_loader (service : Service) (action : Action) :
    (service.act action).1.loader = service.loader := by
  cases action with
  | complete order =>
    have same := History.Kept.complete_loader service order
    rw [act]
    generalize service.complete order = progress at same
    cases progress.stage <;> exact same
  | ensure value =>
    show (service.ensure value).1.loader = service.loader
    unfold ensure
    split
    · rfl
    · split
      · rfl
      · next changed id found => exact (reuse?_surroundings found).1
  | poll call =>
    show (service.pollCall call).1.loader = service.loader
    unfold pollCall
    split
    · rfl
    · next stage present =>
      have same := service.poll_loader stage
      simp only
      split <;> exact same
  | create text =>
    show (service.create text).1.loader = service.loader
    unfold create
    split <;> rfl
  | request id request =>
    show (service.askInstance id request).1.loader = service.loader
    unfold askInstance
    split <;> rfl
  | delete path =>
    rw [act]
    split <;> rfl
  | _ => rfl

/-- The call that an action polls. -/
def Action.polled? : Action → Option String
  | .poll call => some call
  | _ => none

/-! ### Calls of a history -/

/-- **A call in flight that has not been polled yet or is accounted for.** -/
inductive Life.Traced (loader : Loader) (host : Host) : Life → Stage → Prop
  | fresh {order : Order} : Traced loader host ⟨order, []⟩ (.fresh order)
  | polled {life : Life} {stage : Stage} (accounted : life.Accounted loader host stage) :
      Traced loader host life stage

/-- A call that has ended or was abandoned is accounted for. -/
def Happening.Accounted (loader : Loader) : Happening → Prop
  | .ended life result => ∃ host, life.Accounted loader host (.finished result)
  | .abandoned life => ∃ host stage, life.Traced loader host stage
  | .cleared => True

/-- **All calls of a history are accounted for.** -/
structure History.Accounted (history : History) (service : Service) : Prop where
  running : Keyed.Matched (Life.Traced service.loader service.host) history.running service.calls
  past : ∀ happening ∈ history.past, happening.Accounted service.loader

theorem Life.Traced.carry {loader : Loader} {host changed : Host} {life : Life} {stage : Stage}
    (traced : life.Traced loader host stage)
    (kept : ∀ id target, stage.own? = some id → host.find? id = some target →
      changed.find? id = some target) : life.Traced loader changed stage := by
  cases traced with
  | fresh => exact .fresh
  | polled accounted =>
    obtain ⟨⟨first, rest, polls, accounts⟩, does⟩ := accounted
    exact .polled ⟨⟨first, rest, polls, accounts.carry kept⟩, does⟩

/-- Every poll of a call in flight is accounted for. -/
theorem Life.Traced.poll {service : Service} {life : Life} {stage : Stage}
    (traced : life.Traced service.loader service.host stage) (numbered : service.host.Numbered)
    (published : ∀ id, service.slot = some id → ∃ target, service.host.find? id = some target) :
    (life.add ⟨service.scene, (service.poll stage).service.scene⟩).Accounted service.loader
      (service.poll stage).service.host (service.poll stage).stage := by
  cases traced with
  | fresh => exact accounted_begin numbered published _
  | polled accounted => exact accounted.poll numbered

namespace History.Accounted

variable {history : History} {service changed : Service} {call : String}

theorem forsake (accounted : history.Accounted service) (call : String) :
    ∀ happening ∈ history.forsake call, happening.Accounted service.loader := by
  unfold History.forsake
  rcases accounted.running.lookup call with ⟨unknown, _⟩ | ⟨life, stage, known, _, traced⟩
  · rw [unknown]
    exact accounted.past
  · rw [known]
    exact List.forall_mem_cons.mpr ⟨⟨service.host, stage, traced⟩, accounted.past⟩

/-- A change beside the calls, which spares the instances that they are starting. -/
theorem beside (accounted : history.Accounted service)
    (loader : changed.loader = service.loader) (calls : changed.calls = service.calls)
    (spared : ∀ stage ∈ service.calls.stages, ∀ id target, stage.own? = some id →
      service.host.find? id = some target → changed.host.find? id = some target) :
    history.Accounted changed := by
  obtain ⟨running, past⟩ := accounted
  refine ⟨?_, loader ▸ past⟩
  rw [loader, calls]
  exact running.imp fun life stage member traced => traced.carry (spared stage member)

variable (accounted : history.Accounted service) (tidy : service.Tidy)
  (published : ∀ id, service.slot = some id → service.Known id)

include accounted tidy published

theorem pollCall (call : String) :
    (history.pollCall service call).Accounted (service.pollCall call).1 := by
  rcases accounted.running.lookup call with
    ⟨unknown, absent⟩ | ⟨life, stage, known, present, traced⟩
  · rw [History.pollCall, Service.pollCall, unknown, absent]
    exact accounted
  · have further := traced.poll tidy.numbered fun id slot => (published id slot).exists_find?
    have loader := service.poll_loader stage
    have calls := service.poll_calls stage
    have spared : ∀ other ∈ (service.calls.erase call).stages, ∀ id target,
        other.own? = some id → service.host.find? id = some target →
          (service.poll stage).service.host.find? id = some target := by
      intro other member id target own found
      have hidden : service.slot ≠ some id := fun slot =>
        (published id slot).free other (Service.stages_erase_subset _ _ member) own
      exact (Strides.apart (service.strides_poll stage) tidy.numbered
        ⟨found, fun mine => tidy.own?_ne present mine member own, hidden⟩).found
    rw [History.pollCall, Service.pollCall, known, present]
    simp only
    generalize service.poll stage = progress at further loader calls spared ⊢
    obtain ⟨after, reached⟩ := progress
    replace loader : after.loader = service.loader := loader
    replace calls : after.calls = service.calls := calls
    have others : ∀ life : Life, ∀ other ∈ (service.calls.erase call).map (·.2),
        life.Traced service.loader service.host other →
          life.Traced after.loader after.host other :=
      fun life other member traced => loader ▸ traced.carry (spared other member)
    have past : ∀ happening ∈ history.past, happening.Accounted after.loader :=
      loader ▸ accounted.past
    have polled := loader ▸ further
    cases reached with
    | finished result =>
      refine ⟨?_, List.forall_mem_cons.mpr ⟨⟨after.host, polled⟩, past⟩⟩
      show Keyed.Matched (Life.Traced after.loader after.host) _ (after.calls.erase call)
      rw [calls]
      exact accounted.running.erase.imp others
    | _ =>
      refine ⟨?_, past⟩
      show Keyed.Matched (Life.Traced after.loader after.host) _ (after.calls.insert call _)
      rw [calls]
      exact accounted.running.imp_insert tidy.ascending others (.polled polled)

/-- **Every action accounts for the calls.** -/
theorem act {action : Action} (addressed : ∀ id ∈ action.addressed, service.Known id) :
    (history.follow service action).Accounted (service.act action).1 := by
  -- an instance that a call is starting is not known, so every action but a poll spares it
  have beside_act : action.polled? = none → (service.act action).1.calls = service.calls →
      history.Accounted (service.act action).1 := by
    intro unpolled calls
    refine accounted.beside (service.act_loader action) calls ?_
    intro stage member id target own found
    refine tidy.spared_act published addressed found (fun known => known.free stage member own) ?_
    rintro call _ rfl
    cases unpolled
  cases action with
  | complete order =>
    have whole := Life.accounted_complete tidy.numbered
      (fun id slot => (published id slot).exists_find?) order
    obtain ⟨result, ended⟩ := complete_finished service order
    have acts : service.act (.complete order) =
        ((service.complete order).service, .ended result) := by
      rw [Service.act]
      simp only [ended]
    have calls : (service.act (.complete order)).1.calls = service.calls := by
      rw [acts]
      exact History.Kept.complete_calls service order
    obtain ⟨running, past⟩ := beside_act rfl calls
    have loader := service.act_loader (.complete order)
    refine ⟨running, List.forall_mem_cons.mpr ⟨?_, past⟩⟩
    rw [ended] at whole ⊢
    exact ⟨_, loader ▸ whole⟩
  | spawn call value =>
    exact ⟨accounted.running.insert .fresh, accounted.forsake call⟩
  | prepare call config =>
    exact ⟨accounted.running.insert .fresh, accounted.forsake call⟩
  | poll call => exact accounted.pollCall tidy published call
  | drop call => exact ⟨accounted.running.erase, accounted.forsake call⟩
  | clear =>
    obtain ⟨running, past⟩ := beside_act rfl rfl
    exact ⟨running, List.forall_mem_cons.mpr ⟨trivial, past⟩⟩
  | ensure value => exact beside_act rfl (service.ensure_calls value)
  | create text => exact beside_act rfl (service.create_calls text)
  | request id request => exact beside_act rfl (service.askInstance_calls id request)
  | delete path => exact beside_act rfl (service.act_delete_calls path)
  | _ => exact beside_act rfl rfl

end History.Accounted

/-! ### Schedules -/

namespace Desk

variable {desk : Desk} {history : History}

theorem Unused.accounted (unused : desk.Unused) : History.Accounted ⟨[], []⟩ desk.service := by
  refine ⟨?_, List.forall_mem_nil _⟩
  rw [unused.calls]
  exact .nil

/-- **Every action on a desk accounts for the calls.** -/
theorem accounted_attempt (accounted : history.Accounted desk.service) (orderly : desk.Orderly)
    (action : Action) :
    (history.follow desk.service action).Accounted (desk.attempt action).1 := by
  rcases desk.attempt_cases action with ⟨same, addressed⟩ | ⟨same, still⟩
  · rw [same]
    exact accounted.act orderly.tidy orderly.published
      fun id member => orderly.seen id (addressed id member)
  · rw [same, still]
    exact accounted

/-- **So does every schedule.** -/
theorem accounted_run (accounted : history.Accounted desk.service) (orderly : desk.Orderly)
    (actions : List Action) :
    (desk.historyFrom history actions).Accounted (desk.run actions).1.service := by
  induction actions generalizing desk history with
  | nil => exact accounted
  | cons action rest inductive_step =>
    exact inductive_step (accounted_attempt accounted orderly action) (orderly.perform action)

/-- No schedule changes the loader. -/
theorem loader_run (desk : Desk) (actions : List Action) :
    (desk.run actions).1.service.loader = desk.service.loader := by
  induction actions generalizing desk with
  | nil => rfl
  | cons action rest inductive_step =>
    refine (inductive_step (desk.perform action).1).trans ?_
    show (desk.attempt action).1.loader = desk.service.loader
    rcases desk.attempt_cases action with ⟨same, _⟩ | ⟨same, _⟩ <;> rw [same]
    exact desk.service.act_loader action

end Desk

end InstanceHost
