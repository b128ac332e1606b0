/-
**What has happened on a desk.**

A `History` keeps what the service forgets: the polls of every call in flight, and, the latest
first, the calls that came to an end or were abandoned and the times the slot was emptied. It
follows a schedule from the outside; no action depends on it.

* `Desk.history`: the history of a schedule;
* `History.lost`: the calls that failed or were abandoned;
* `History.published?`: the instance of the latest call that built one since the slot was emptied;
* `Chronicle`: what the past of every schedule is like, with the numbers seen and the slot.
-/

import InstanceHost.Proofs.Call.Standing

namespace InstanceHost

/-! ### Histories -/

/-- What became of a call, or of the slot. -/
inductive Happening where
  | ended (life : Life) (result : Except BootFailure Nat)
  | abandoned (life : Life)
  | cleared

/-- The calls in flight with their polls, and what has happened. -/
structure History where
  running : Keyed Life
  /-- What has happened, the latest first. -/
  past : List Happening

/-- The end of a call, at the stage that it has come to. -/
def Happening.ofStage (life : Life) : Stage → Happening
  | .finished result => .ended life result
  | _ => .abandoned life

namespace History

/-- The past with the call abandoned that was in flight under a name, if there was one. -/
def forsake (history : History) (call : String) : List Happening :=
  match history.running.lookup call with
  | none => history.past
  | some life => .abandoned life :: history.past

/-- A call is made. -/
def make (history : History) (call : String) (order : Order) : History :=
  ⟨history.running.insert call ⟨order, []⟩, history.forsake call⟩

/-- A call is polled. -/
def pollCall (history : History) (service : Service) (call : String) : History :=
  match history.running.lookup call, service.calls.lookup call with
  | some life, some stage =>
    let progress := service.poll stage
    let further := life.add ⟨service.scene, progress.service.scene⟩
    match progress.stage with
    | .finished result =>
      ⟨history.running.erase call, .ended further result :: history.past⟩
    | _ => ⟨history.running.insert call further, history.past⟩
  | _, _ => history

/-- **What an action adds to a history.** -/
def follow (history : History) (service : Service) : Action → History
  | .complete order =>
    let ending := Happening.ofStage (service.completion order) (service.complete order).stage
    ⟨history.running, ending :: history.past⟩
  | .spawn call value => history.make call (.value value)
  | .prepare call config => history.make call (.normal config)
  | .poll call => history.pollCall service call
  | .drop call => ⟨history.running.erase call, history.forsake call⟩
  | .clear => ⟨history.running, .cleared :: history.past⟩
  | _ => history

end History

/-- The history of a schedule that goes on from another. -/
def Desk.historyFrom (desk : Desk) (history : History) : List Action → History
  | [] => history
  | action :: rest =>
    (desk.perform action).1.historyFrom (history.follow desk.service action) rest

/-- **The history of a schedule.** -/
def Desk.history (desk : Desk) (actions : List Action) : History :=
  desk.historyFrom ⟨[], []⟩ actions

/-! ### Reading a history -/

/-- What the call came to whose end an outcome tells of. -/
def Outcome.result? : Outcome → Option (Except BootFailure Nat)
  | .ended result => some result
  | _ => none

/-- What the call came to whose end a report tells of. -/
def Report.result? (report : Report) : Option (Except BootFailure Nat) :=
  report.outcome.result?

namespace Happening

/-- What a call came to at its end. -/
def result? : Happening → Option (Except BootFailure Nat)
  | .ended _ result => some result
  | _ => none

/-- The call of a happening. -/
def life? : Happening → Option Life
  | .ended life _ => some life
  | .abandoned life => some life
  | .cleared => none

/-- The call that failed or was abandoned. -/
def lost? : Happening → Option Life
  | .ended life (.error _) => some life
  | .abandoned life => some life
  | _ => none

/-- The instance that a call came to without having found it: the call has published it. -/
def delivery? : Happening → Option Nat
  | .ended life (.ok id) => if life.found = none then some id else none
  | _ => none

/-- What a happening makes of the slot, if it changes it. -/
def occupant? : Happening → Option (Option Nat)
  | .cleared => some none
  | happening => happening.delivery?.map some

end Happening

namespace History

/-- What calls came to, the latest first. -/
def results (history : History) : List (Except BootFailure Nat) :=
  history.past.filterMap Happening.result?

/-- Every call so far. -/
def lives (history : History) : List Life :=
  history.past.filterMap Happening.life? ++ history.running.map (·.2)

/-- The calls that failed or were abandoned. -/
def lost (history : History) : List Life :=
  history.past.filterMap Happening.lost?

/-- The calls that have not come to an instance: they failed, were abandoned, or are in flight. -/
def unfulfilled (history : History) : List Life :=
  history.lost ++ history.running.map (·.2)

/-- The instances that calls have published. -/
def deliveries (history : History) : List Nat :=
  history.past.filterMap Happening.delivery?

/-- **The instance of the latest call that built one** since the slot was emptied. -/
def published? (history : History) : Option Nat :=
  (history.past.findSome? Happening.occupant?).join

end History

/-! ### Chronicles -/

/-- **What the past of a schedule is like**, with what modules make of texts, the numbers seen and
the slot at its end. -/
inductive Chronicle (makes : String → Items → Prop) :
    List Happening → List Nat → Option Nat → Prop
  | nil : Chronicle makes [] [] none
  | lost {past : List Happening} {seen : List Nat} {slot : Option Nat} {happening : Happening}
      {life : Life} (chronicle : Chronicle makes past seen slot)
      (which : happening.lost? = some life) (traceless : life.Traceless)
      (anew : life.LoadsAnew) :
      Chronicle makes (happening :: past) seen slot
  | cleared {past : List Happening} {seen : List Nat} {slot : Option Nat}
      (chronicle : Chronicle makes past seen slot) : Chronicle makes (.cleared :: past) seen none
  | delivered {past : List Happening} {seen : List Nat} {slot : Option Nat} {life : Life}
      {normal : NormalConfig} {id : Nat} (chronicle : Chronicle makes past seen slot)
      (delivered : life.Delivered makes normal id) (unseen : id ∉ seen) :
      Chronicle makes (.ended life (.ok id) :: past) (seen ++ [id]) (some id)
  | reused {past : List Happening} {seen : List Nat} {slot : Option Nat} {life : Life} {id : Nat}
      (chronicle : Chronicle makes past seen slot) (reused : life.Reused id) (there : id ∈ seen) :
      Chronicle makes (.ended life (.ok id) :: past) seen slot

namespace Happening

theorem delivery?_of_lost? {happening : Happening} {life : Life}
    (which : happening.lost? = some life) :
    happening.delivery? = none ∧ happening.occupant? = none := by
  cases happening with
  | ended other result =>
    cases result with
    | ok id => cases which
    | error failure => exact ⟨rfl, rfl⟩
  | abandoned other => exact ⟨rfl, rfl⟩
  | cleared => cases which

theorem occupant?_ended (life : Life) (result : Except BootFailure Nat) :
    (ended life result).occupant? = (ended life result).delivery?.map some := rfl

theorem delivery?_of_delivered {life : Life} {makes : String → Items → Prop}
    {normal : NormalConfig} {id : Nat}
    (delivered : life.Delivered makes normal id) :
    (Happening.ended life (.ok id)).delivery? = some id :=
  if_pos delivered.found

theorem delivery?_of_reused {life : Life} {id : Nat} (reused : life.Reused id) :
    (Happening.ended life (.ok id)).delivery? = none := by
  refine if_neg ?_
  rw [reused.found]
  exact Option.some_ne_none id

end Happening

namespace Chronicle

variable {makes : String → Items → Prop} {past : List Happening} {seen : List Nat}
  {slot : Option Nat} {life : Life} {id : Nat}

/-- Every instance that was seen was built, started and published by a call that has ended. -/
theorem exists_delivered (chronicle : Chronicle makes past seen slot) (there : id ∈ seen) :
    ∃ life normal, Happening.ended life (.ok id) ∈ past ∧ life.Delivered makes normal id := by
  induction chronicle with
  | nil => cases there
  | lost _ _ _ _ inductive_step =>
    obtain ⟨life, normal, member, delivered⟩ := inductive_step there
    exact ⟨life, normal, List.mem_cons_of_mem _ member, delivered⟩
  | cleared _ inductive_step =>
    obtain ⟨life, normal, member, delivered⟩ := inductive_step there
    exact ⟨life, normal, List.mem_cons_of_mem _ member, delivered⟩
  | delivered _ delivered _ inductive_step =>
    rcases List.mem_append.mp there with earlier | last
    · obtain ⟨life, normal, member, before⟩ := inductive_step earlier
      exact ⟨life, normal, List.mem_cons_of_mem _ member, before⟩
    · rw [List.mem_singleton.mp last]
      exact ⟨_, _, List.mem_cons_self, delivered⟩
  | reused _ _ _ inductive_step =>
    obtain ⟨life, normal, member, delivered⟩ := inductive_step there
    exact ⟨life, normal, List.mem_cons_of_mem _ member, delivered⟩

/-- A call that has come to an instance has built and published it, or has found it. -/
theorem delivered_or_reused (chronicle : Chronicle makes past seen slot)
    (member : Happening.ended life (.ok id) ∈ past) :
    (∃ normal, life.Delivered makes normal id) ∨ life.Reused id := by
  induction chronicle with
  | nil => cases member
  | lost _ which _ _ inductive_step =>
    rcases List.mem_cons.mp member with rfl | earlier
    · cases which
    · exact inductive_step earlier
  | cleared _ inductive_step =>
    rcases List.mem_cons.mp member with same | earlier
    · cases same
    · exact inductive_step earlier
  | delivered _ delivered _ inductive_step =>
    rcases List.mem_cons.mp member with same | earlier
    · cases same
      exact Or.inl ⟨_, delivered⟩
    · exact inductive_step earlier
  | reused _ reused _ inductive_step =>
    rcases List.mem_cons.mp member with same | earlier
    · cases same
      exact Or.inr reused
    · exact inductive_step earlier

/-- A call that failed or was abandoned has left no trace. -/
theorem traceless_of_lost (chronicle : Chronicle makes past seen slot)
    (member : life ∈ past.filterMap Happening.lost?) : life.Traceless ∧ life.LoadsAnew := by
  induction chronicle with
  | nil => cases member
  | lost _ which traceless anew inductive_step =>
    rw [List.filterMap_cons_some which] at member
    rcases List.mem_cons.mp member with rfl | earlier
    · exact ⟨traceless, anew⟩
    · exact inductive_step earlier
  | cleared _ inductive_step => exact inductive_step member
  | delivered _ _ _ inductive_step => exact inductive_step member
  | reused _ _ _ inductive_step => exact inductive_step member

/-- No two calls have published the same instance. -/
theorem nodup_deliveries (chronicle : Chronicle makes past seen slot) :
    (past.filterMap Happening.delivery?).Nodup ∧
      ∀ id ∈ past.filterMap Happening.delivery?, id ∈ seen := by
  induction chronicle with
  | nil => exact ⟨List.nodup_nil, List.forall_mem_nil _⟩
  | lost _ which _ _ inductive_step =>
    rw [List.filterMap_cons_none (Happening.delivery?_of_lost? which).1]
    exact inductive_step
  | cleared _ inductive_step => exact inductive_step
  | delivered _ delivered unseen inductive_step =>
    rw [List.filterMap_cons_some (Happening.delivery?_of_delivered delivered)]
    refine ⟨List.nodup_cons.mpr ⟨fun there => unseen (inductive_step.2 _ there),
      inductive_step.1⟩, fun other member => ?_⟩
    rcases List.mem_cons.mp member with rfl | earlier
    · exact List.mem_append_right _ List.mem_cons_self
    · exact List.mem_append_left _ (inductive_step.2 other earlier)
  | reused _ reused _ inductive_step =>
    rw [List.filterMap_cons_none (Happening.delivery?_of_reused reused)]
    exact inductive_step

/-- The slot holds what the latest change of it has put there. -/
theorem slot_eq (chronicle : Chronicle makes past seen slot) :
    slot = (past.findSome? Happening.occupant?).join := by
  induction chronicle with
  | nil => rfl
  | lost _ which _ _ inductive_step =>
    rw [List.findSome?_cons, (Happening.delivery?_of_lost? which).2]
    exact inductive_step
  | cleared _ inductive_step => rfl
  | delivered _ delivered _ inductive_step =>
    rw [List.findSome?_cons, Happening.occupant?_ended, Happening.delivery?_of_delivered delivered]
    rfl
  | reused _ reused _ inductive_step =>
    rw [List.findSome?_cons, Happening.occupant?_ended, Happening.delivery?_of_reused reused]
    exact inductive_step

end Chronicle

end InstanceHost
