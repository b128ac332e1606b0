/-
**The life of a call.**

A `Life` is what a call was made with and its polls so far. The predicates of this module say what
these polls, taken together, amount to; the other calls may have done anything in between.

* `Life.Underway`: the call builds an instance, and nobody has noticed;
* `Life.Delivered`: the call has built an instance from its own configuration, started it once and
  published it, all in its own polls and the publication in the last of them;
* `Life.Reused`: the call has come to the instance that it found in the slot at once;
* `Life.Traceless`: no poll of the call has changed the slot or an instance;
* `Underway.extend`, `Underway.deliver`: what a poll that goes on adds to a life.
-/

import InstanceHost.Proofs.Call.Soundness

namespace InstanceHost

/-! ### What a call is made with -/

/-- Whether a call looks for a published instance: it was made with a configuration. -/
def Order.looks : Order → Bool
  | .normal _ => false
  | .value given => (Config.ofJson given).isOk

/-- The normal form that a call builds an instance from, if it has one. -/
def Order.normal? : Order → Option NormalConfig
  | .normal config => some config
  | .value given =>
    match Config.ofJson given with
    | .error _ => none
    | .ok config => config.toNormal.toOption

theorem Order.looks_of_ofJson {given : Json} {config : Config}
    (kind : Config.ofJson given = .ok config) : (Order.value given).looks = true := by
  rw [looks, kind]
  rfl

theorem Order.normal?_of_toNormal {given : Json} {config : Config} {normal : NormalConfig}
    (kind : Config.ofJson given = .ok config) (resolved : config.toNormal = .ok normal) :
    (Order.value given).normal? = some normal := by
  rw [normal?, kind]
  show config.toNormal.toOption = some normal
  rw [resolved]
  rfl

/-! ### Lives -/

/-- The instance that an event says is published. -/
def Event.publication? : Event → Option Nat
  | .published id _ => some id
  | _ => none

/-- The instance that an event says is built. -/
def Event.construction? : Event → Option Nat
  | .instanceConstructed id => some id
  | _ => none

/-- The instances that are published in a poll, in their order. -/
def Poll.publications (poll : Poll) : List Nat :=
  poll.milestones.filterMap Event.publication?

/-- What a call was made with, and its polls so far. -/
structure Life where
  order : Order
  /-- Its polls, the first one first. -/
  polls : List Poll

/-- An instance as it is after its first start: it has the items that a module makes of a text, no
extensions, and was handed no names of extensions, once. -/
structure Instance.Pristine (target : Instance) (makes : String → Items → Prop) (text : String) :
    Prop where
  ready : target.ready = true
  starts : target.starts = [[]]
  registry : target.registry = []
  made : makes text target.items

theorem Instance.Waiting.pristine {target : Instance} {makes : String → Items → Prop}
    {text : String} (waiting : target.Waiting makes text) :
    Instance.Pristine { target with ready := true } makes text :=
  ⟨rfl, waiting.handed, waiting.bare, waiting.made⟩

/-- Every instance that was there is as it was, but for one. -/
def Poll.Spares (poll : Poll) (id : Nat) : Prop :=
  ∀ other target, other ≠ id → poll.before.host.find? other = some target →
    poll.after.host.find? other = some target

/-- **The poll that publishes an instance**: only this one, and started from a normal form. -/
structure Poll.Publishes (poll : Poll) (makes : String → Items → Prop) (normal : NormalConfig)
    (id : Nat) : Prop where
  publications : poll.publications = [id]
  slot : poll.after.slot = some id
  others : poll.Spares id
  target : ∃ target, poll.after.host.find? id = some target ∧
    target.Pristine makes normal.canonical

namespace Life

/-- One poll more. -/
def add (life : Life) (poll : Poll) : Life :=
  { life with polls := life.polls ++ [poll] }

/-- The stages that went well so far. -/
def milestones (life : Life) : List Event :=
  life.polls.flatMap Poll.milestones

/-- The instances built so far. -/
def built (life : Life) : List Nat :=
  life.milestones.filterMap Event.construction?

/-- The loads asked for, poll by poll. -/
def loads (life : Life) : List (List (Option String)) :=
  life.polls.map Poll.loads

/-- The published instance that the call found when it looked for one. -/
def found (life : Life) : Option Nat :=
  if life.order.looks then life.polls.head?.bind (·.before.slot) else none

/-- The call has asked for a single load, in its first poll. -/
def LoadsOnce (life : Life) (path : Option String) : Prop :=
  ∃ count, life.loads = [path] :: List.replicate count []

/-- **A call that builds an instance and is not done**, with the stages that went well so far. -/
structure Underway (life : Life) (normal : NormalConfig) (milestones : List Event) : Prop where
  known : life.order.normal? = some normal
  found : life.found = none
  unnoticed : ∀ poll ∈ life.polls, poll.Unnoticed
  milestones : life.milestones = milestones
  loads : life.LoadsOnce normal.modulePath

/-- **A call that has built, started and published an instance.** -/
structure Delivered (life : Life) (makes : String → Items → Prop) (normal : NormalConfig)
    (id : Nat) : Prop where
  known : life.order.normal? = some normal
  found : life.found = none
  loads : life.LoadsOnce normal.modulePath
  milestones : ∃ displaced, life.milestones =
    [.moduleLoaded normal.modulePath.isSome, .instanceConstructed id, .instanceStarted id,
      .published id displaced]
  polls : ∃ earlier last, life.polls = earlier ++ [last] ∧
    (∀ poll ∈ earlier, poll.Unnoticed ∧ poll.publications = []) ∧ last.Publishes makes normal id

/-- **A call that has come to the published instance**, in its first poll. -/
structure Reused (life : Life) (id : Nat) : Prop where
  found : life.found = some id
  polls : ∃ only, life.polls = [only] ∧ only.after.slot = some id ∧ only.Spares id ∧
    only.milestones = [] ∧ only.loads = []

/-- **A call that nobody has noticed**, and that has found no published instance. -/
structure Traceless (life : Life) : Prop where
  found : life.found = none
  unnoticed : ∀ poll ∈ life.polls, poll.Unnoticed

/-- A call with a normal form that has found no published instance has asked for a load of its
own, in its first poll and only there. -/
def LoadsAnew (life : Life) : Prop :=
  ∀ normal, life.order.normal? = some normal → life.found = none → life.polls ≠ [] →
    life.LoadsOnce normal.modulePath

/-- What the polls of a call in flight amount to, by its stage. -/
def Agrees (life : Life) : Stage → Prop
  | .fresh order => life = ⟨order, []⟩
  | .loading job _ _ => life.Underway job.config []
  | .building job _ _ => life.Underway job.config [.moduleLoaded job.config.modulePath.isSome]
  | .starting job id _ _ =>
    life.Underway job.config
      [.moduleLoaded job.config.modulePath.isSome, .instanceConstructed id]
  | .finished _ => False

/-! ### One poll more -/

theorem milestones_add (life : Life) (poll : Poll) :
    (life.add poll).milestones = life.milestones ++ poll.milestones := by
  unfold milestones add
  rw [List.flatMap_append, List.flatMap_singleton]

theorem loads_add (life : Life) (poll : Poll) :
    (life.add poll).loads = life.loads ++ [poll.loads] := by
  unfold loads add
  rw [List.map_append, List.map_singleton]

theorem found_fresh (order : Order) : (Life.mk order []).found = none :=
  ite_self _

theorem found_add_fresh (order : Order) (poll : Poll) :
    ((Life.mk order []).add poll).found = if order.looks then poll.before.slot else none := rfl

/-- How a poll ends does not matter to what the call found. -/
theorem found_add (life : Life) (start first second : Scene) :
    (life.add ⟨start, first⟩).found = (life.add ⟨start, second⟩).found := by
  obtain ⟨order, polls⟩ := life
  cases polls <;> rfl

theorem found_add_of_polls_ne_nil {life : Life} (begun : life.polls ≠ []) (poll : Poll) :
    (life.add poll).found = life.found := by
  obtain ⟨order, polls⟩ := life
  cases polls with
  | nil => exact absurd rfl begun
  | cons first rest => rfl

theorem LoadsOnce.polls_ne_nil {life : Life} {path : Option String} (once : life.LoadsOnce path) :
    life.polls ≠ [] := by
  obtain ⟨count, loads⟩ := once
  intro none
  rw [Life.loads, none] at loads
  cases loads

namespace Underway

variable {life : Life} {normal : NormalConfig} {milestones : List Event} {start now later : Scene}

theorem traceless (underway : life.Underway normal milestones) : life.Traceless :=
  ⟨underway.found, underway.unnoticed⟩

theorem loadsAnew (underway : life.Underway normal milestones) : life.LoadsAnew := by
  intro other same _ _
  rw [underway.known] at same
  exact Option.some.inj same ▸ underway.loads

/-- The first poll of a call that builds an instance. -/
theorem begin {order : Order} (known : order.normal? = some normal)
    (missing : order.looks = true → start.slot = none) (tells : start.Tells later)
    (loads : (Poll.mk start later).loads = [normal.modulePath])
    (quiet : (Poll.mk start later).milestones = []) :
    ((Life.mk order []).add ⟨start, later⟩).Underway normal [] := by
  refine ⟨known, ?_, ?_, ?_, 0, ?_⟩
  · rw [found_add_fresh]
    split
    · next looks => exact missing looks
    · rfl
  · intro poll member
    rw [List.mem_singleton.mp member]
    exact tells.unnoticed
  · rw [milestones_add, quiet]
    rfl
  · rw [loads_add, loads]
    rfl

/-- A poll that has done nothing yet. -/
theorem idle (underway : life.Underway normal milestones) (scene : Scene) :
    (life.add ⟨scene, scene⟩).Underway normal milestones := by
  refine ⟨underway.known, ?_, ?_, ?_, ?_⟩
  · rw [found_add_of_polls_ne_nil underway.loads.polls_ne_nil]
    exact underway.found
  · intro poll member
    rcases List.mem_append.mp member with earlier | last
    · exact underway.unnoticed poll earlier
    · rw [List.mem_singleton.mp last]
      exact Poll.Unnoticed.refl scene
  · rw [milestones_add, Poll.milestones_refl, List.append_nil]
    exact underway.milestones
  · obtain ⟨count, loads⟩ := underway.loads
    refine ⟨count + 1, ?_⟩
    rw [loads_add, Poll.loads_refl, loads, List.replicate_succ', List.cons_append]

/-- **A poll that goes on unnoticed**, without a further load. -/
theorem extend (underway : (life.add ⟨start, now⟩).Underway normal milestones)
    (precedes : start.Precedes now) (then_precedes : now.Precedes later)
    (unnoticed : (Poll.mk now later).Unnoticed) (loads : (Poll.mk now later).loads = []) :
    (life.add ⟨start, later⟩).Underway normal
      (milestones ++ (Poll.mk now later).milestones) := by
  refine ⟨underway.known, ?_, ?_, ?_, ?_⟩
  · rw [found_add life start later now]
    exact underway.found
  · intro poll member
    rcases List.mem_append.mp member with earlier | last
    · exact underway.unnoticed poll (List.mem_append_left _ earlier)
    · have before : (Poll.mk start now).Unnoticed :=
        underway.unnoticed _ (List.mem_append_right _ List.mem_cons_self)
      rw [List.mem_singleton.mp last]
      exact before.trans unnoticed
  · rw [milestones_add, Poll.milestones_trans precedes then_precedes, ← List.append_assoc,
      ← milestones_add, underway.milestones]
  · obtain ⟨count, once⟩ := underway.loads
    refine ⟨count, ?_⟩
    rw [loads_add, Poll.loads_trans precedes then_precedes, loads, List.append_nil, ← loads_add]
    exact once

/-- A call that has published nothing has published nothing in any of its polls. -/
theorem publications (underway : life.Underway normal milestones)
    (quiet : milestones.filterMap Event.publication? = []) :
    ∀ poll ∈ life.polls, poll.publications = [] := by
  intro poll member
  refine List.filterMap_eq_nil_iff.mpr fun event there => ?_
  have among : event ∈ life.milestones := List.mem_flatMap.mpr ⟨poll, member, there⟩
  rw [underway.milestones] at among
  exact List.filterMap_eq_nil_iff.mp quiet event among

/-- **The poll that publishes the instance is the last.** -/
theorem deliver {makes : String → Items → Prop} {id : Nat} {displaced : Option Nat}
    (underway : (life.add ⟨start, now⟩).Underway normal
      [.moduleLoaded normal.modulePath.isSome, .instanceConstructed id])
    (precedes : start.Precedes now) (then_precedes : now.Precedes later)
    (loads : (Poll.mk now later).loads = [])
    (milestones : (Poll.mk now later).milestones = [.instanceStarted id, .published id displaced])
    (slot : later.slot = some id) (others : (Poll.mk now later).Spares id)
    (target : ∃ target, later.host.find? id = some target ∧
      target.Pristine makes normal.canonical) :
    (life.add ⟨start, later⟩).Delivered makes normal id := by
  have silent := underway.publications rfl
  refine ⟨underway.known, ?_, ?_, ⟨displaced, ?_⟩, life.polls, ⟨start, later⟩, rfl, ?_, ?_, slot,
    ?_, target⟩
  · rw [found_add life start later now]
    exact underway.found
  · obtain ⟨count, once⟩ := underway.loads
    refine ⟨count, ?_⟩
    rw [loads_add, Poll.loads_trans precedes then_precedes, loads, List.append_nil, ← loads_add]
    exact once
  · rw [milestones_add, Poll.milestones_trans precedes then_precedes, ← List.append_assoc,
      ← milestones_add, underway.milestones, milestones]
    rfl
  · intro poll member
    exact ⟨underway.unnoticed poll (List.mem_append_left _ member),
      silent poll (List.mem_append_left _ member)⟩
  · have before : (Poll.mk start now).publications = [] :=
      silent _ (List.mem_append_right _ List.mem_cons_self)
    unfold Poll.publications at before ⊢
    rw [Poll.milestones_trans precedes then_precedes, List.filterMap_append, before, milestones]
    rfl
  · intro other target different found
    have before : (Poll.mk start now).Unnoticed :=
      underway.unnoticed _ (List.mem_append_right _ List.mem_cons_self)
    exact others other target different (before.instances other target found)

end Underway

/-! ### Calls in flight -/

theorem Agrees.traceless {life : Life} {stage : Stage} (agrees : life.Agrees stage) :
    life.Traceless ∧ life.LoadsAnew := by
  cases stage with
  | fresh order =>
    have same : life = ⟨order, []⟩ := agrees
    subst same
    exact ⟨⟨found_fresh order, List.forall_mem_nil _⟩,
      fun _ _ _ begun => absurd rfl begun⟩
  | loading job plan pauses => exact ⟨Underway.traceless agrees, Underway.loadsAnew agrees⟩
  | building job plan pauses => exact ⟨Underway.traceless agrees, Underway.loadsAnew agrees⟩
  | starting job id names pauses => exact ⟨Underway.traceless agrees, Underway.loadsAnew agrees⟩
  | finished result => exact agrees.elim

/-- A call that was polled has run. -/
theorem not_agrees_fresh {life : Life} {poll : Poll} {order : Order} :
    ¬ (life.add poll).Agrees (.fresh order) := by
  intro agrees
  have polls : life.polls ++ [poll] = [] := congrArg Life.polls agrees
  exact absurd (List.append_eq_nil_iff.mp polls).2 (List.cons_ne_nil _ _)

theorem Agrees.unfinished {life : Life} {stage : Stage} (agrees : life.Agrees stage) :
    stage.Unfinished := by
  cases stage with
  | finished result => exact agrees
  | _ => trivial

/-- A call in flight has built the instance that it is starting, and no other. -/
theorem Agrees.own?_of_built {life : Life} {stage : Stage} {id : Nat} (agrees : life.Agrees stage)
    (built : id ∈ life.built) : stage.own? = some id := by
  cases stage with
  | fresh order =>
    have same : life = ⟨order, []⟩ := agrees
    subst same
    cases built
  | loading job plan pauses =>
    rw [Life.built, Underway.milestones agrees] at built
    cases built
  | building job plan pauses =>
    rw [Life.built, Underway.milestones agrees] at built
    cases built
  | starting job other names pauses =>
    rw [Life.built, Underway.milestones agrees] at built
    rw [List.mem_singleton.mp built]
    rfl
  | finished result => exact agrees.elim

end Life

end InstanceHost
