/-
**What calls share, and how a poll changes it.**

Calls share the host, the slot and what the loader was asked for: a `Scene`. A `Poll` is a pair of
scenes, the one before and the one after. Its *milestones* are the four events that tell of a module
loaded, an instance built, an instance started and an instance published.

* `Scene.Precedes`: nothing is taken back from the log and from the record of loads;
* `Poll.milestones_trans`, `Poll.loads_trans`: what two polls in a row add, the two together add;
* `Poll.Unnoticed`: neither the slot nor any instance that was there has changed;
* `Scene.Tells`: only the log and the record of loads have grown, as by most strides;
* `Scene.Adds`: only the log has grown, by these milestones.
-/

import InstanceHost.Proofs.Call.Stride

namespace InstanceHost

/-! ### Hosts -/

namespace Host

/-- Every instance stands at the place of its number. -/
def Numbered (host : Host) : Prop :=
  ∀ id target, host.find? id = some target → target.id = id

theorem lt_nextId_of_find? {host : Host} {id : Nat} {target : Instance}
    (found : host.find? id = some target) : id < host.nextId :=
  (List.getElem?_eq_some_iff.mp found).1

theorem get_of_find? {host : Host} {id : Nat} {target : Instance}
    (found : host.find? id = some target) : host.get id = target := by
  rw [get, found, Option.getD_some]

theorem find?_add_self (host : Host) (new : Instance) :
    (host.add new).find? host.nextId = some new :=
  List.getElem?_concat_length

theorem find?_add_of_find? {host : Host} {id : Nat} {target : Instance} (new : Instance)
    (found : host.find? id = some target) : (host.add new).find? id = some target := by
  have before := lt_nextId_of_find? found
  unfold find? add
  rw [List.getElem?_append_left before]
  exact found

theorem find?_add_cases {host : Host} {new target : Instance} {id : Nat}
    (found : (host.add new).find? id = some target) :
    host.find? id = some target ∨ id = host.nextId ∧ target = new := by
  have bound := lt_nextId_of_find? found
  have size : (host.add new).nextId = host.nextId + 1 := List.length_append
  rcases Nat.lt_succ_iff_lt_or_eq.mp (size ▸ bound) with before | last
  · left
    unfold find? add at found
    rwa [List.getElem?_append_left before] at found
  · right
    subst last
    rw [find?_add_self] at found
    exact ⟨rfl, (Option.some.inj found).symm⟩

theorem find?_replace_self {host : Host} {target changed : Instance}
    (found : host.find? changed.id = some target) :
    (host.replace changed).find? changed.id = some changed :=
  List.getElem?_set_self (lt_nextId_of_find? found)

theorem find?_congr {first second : Host} (same : first.instances = second.instances) (id : Nat) :
    first.find? id = second.find? id := by
  rw [find?, find?, same]

theorem find?_replace_of_ne {host : Host} {changed : Instance} {id : Nat}
    (other : id ≠ changed.id) : (host.replace changed).find? id = host.find? id :=
  List.getElem?_set_ne other.symm

/-- Putting back what was there changes nothing. -/
theorem replace_eq_self {host : Host} {target : Instance}
    (found : host.find? target.id = some target) : host.replace target = host := by
  obtain ⟨bound, same⟩ := List.getElem?_eq_some_iff.mp found
  have unchanged : host.instances.set target.id host.instances[target.id] = host.instances :=
    List.set_getElem_self bound
  rw [same] at unchanged
  rw [replace, unchanged]

/-- The instance with a number is in its place already, whether or not there is one. -/
theorem Numbered.replace_get {host : Host} (numbered : host.Numbered) (id : Nat) :
    host.replace (host.get id) = host := by
  cases found : host.find? id with
  | some target =>
    rw [get_of_find? found]
    have same := numbered id target found
    exact replace_eq_self (same.symm ▸ found)
  | none =>
    have beyond : host.instances.length ≤ id := List.getElem?_eq_none_iff.mp found
    have unchanged : host.instances.set id (Instance.ofItems id []) = host.instances :=
      List.set_eq_of_length_le beyond
    rw [get, found, Option.getD_none]
    unfold replace
    rw [show (Instance.ofItems id []).id = id from rfl, unchanged]

theorem Numbered.add {host : Host} {new : Instance} (numbered : host.Numbered)
    (next : new.id = host.nextId) : (host.add new).Numbered := by
  intro id target found
  rcases find?_add_cases found with before | ⟨rfl, rfl⟩
  · exact numbered id target before
  · exact next

theorem Numbered.replace {host : Host} (numbered : host.Numbered) (changed : Instance) :
    (host.replace changed).Numbered := by
  intro id target found
  by_cases same : id = changed.id
  · subst same
    have bound : changed.id < host.nextId := by
      have later := lt_nextId_of_find? found
      unfold nextId Host.replace at later
      rwa [List.length_set] at later
    have there := find?_replace_self (List.getElem?_eq_getElem bound)
    rw [there] at found
    exact (congrArg Instance.id (Option.some.inj found)).symm
  · rw [find?_replace_of_ne same] at found
    exact numbered id target found

end Host

/-! ### Scenes and polls -/

/-- What calls share, at one moment. -/
structure Scene where
  host : Host
  slot : Option Nat
  record : LoaderRecord

/-- What the calls of a service share. -/
def Service.scene (service : Service) : Scene :=
  ⟨service.host, service.slot, service.record⟩

/-- A poll of a call. -/
structure Poll where
  before : Scene
  after : Scene

/-- The events that tell of a stage that went well. -/
def Event.isMilestone : Event → Bool
  | .moduleLoaded _ | .instanceConstructed _ | .instanceStarted _ | .published _ _ => true
  | _ => false

/-- The event at the end of a call. -/
def Event.closing : Except BootFailure Nat → Event
  | .ok id => .bootSucceeded id
  | .error failure => .bootFailed failure

/-- The events of reading a module file. -/
def Event.isReading : Event → Bool
  | .moduleReadStarted _ _ | .moduleUnreadable _ _ | .moduleRead _ => true
  | _ => false

namespace Poll

/-- The events that a poll adds to the log. -/
def events (poll : Poll) : List Event :=
  poll.after.host.log.drop poll.before.host.log.length

/-- The stages that went well in a poll. -/
def milestones (poll : Poll) : List Event :=
  poll.events.filter Event.isMilestone

/-- The loads that a poll asks for, each with the path it was told. -/
def loads (poll : Poll) : List (Option String) :=
  poll.after.record.binaries.drop poll.before.record.binaries.length

/-- **Neither the slot nor any instance that was there has changed.** -/
structure Unnoticed (poll : Poll) : Prop where
  slot : poll.after.slot = poll.before.slot
  instances : ∀ id target, poll.before.host.find? id = some target →
    poll.after.host.find? id = some target

end Poll

/-- **Nothing is taken back** from the log and from the record of loads. -/
structure Scene.Precedes (earlier later : Scene) : Prop where
  log : earlier.host.log <+: later.host.log
  binaries : earlier.record.binaries <+: later.record.binaries

theorem Scene.Precedes.refl (scene : Scene) : scene.Precedes scene :=
  ⟨List.prefix_rfl, List.prefix_rfl⟩

theorem Scene.Precedes.trans {first second third : Scene} (one : first.Precedes second)
    (two : second.Precedes third) : first.Precedes third :=
  ⟨one.log.trans two.log, one.binaries.trans two.binaries⟩

theorem drop_length_trans {α : Type} {first second third : List α} (one : first <+: second)
    (two : second <+: third) :
    third.drop first.length = second.drop first.length ++ third.drop second.length := by
  obtain ⟨middle, rfl⟩ := one
  obtain ⟨last, rfl⟩ := two
  rw [List.drop_left, List.drop_left, List.append_assoc, List.drop_left]

namespace Poll

theorem milestones_trans {first second third : Scene} (one : first.Precedes second)
    (two : second.Precedes third) :
    (Poll.mk first third).milestones =
      (Poll.mk first second).milestones ++ (Poll.mk second third).milestones := by
  unfold milestones events
  rw [← List.filter_append]
  exact congrArg _ (drop_length_trans one.log two.log)

theorem loads_trans {first second third : Scene} (one : first.Precedes second)
    (two : second.Precedes third) :
    (Poll.mk first third).loads = (Poll.mk first second).loads ++ (Poll.mk second third).loads :=
  drop_length_trans one.binaries two.binaries

theorem milestones_of_log {before after : Scene} {added : List Event}
    (log : after.host.log = before.host.log ++ added) :
    (Poll.mk before after).milestones = added.filter Event.isMilestone := by
  unfold milestones events
  rw [log, List.drop_left]

theorem loads_of_binaries {before after : Scene} {added : List (Option String)}
    (binaries : after.record.binaries = before.record.binaries ++ added) :
    (Poll.mk before after).loads = added := by
  unfold loads
  rw [binaries, List.drop_left]

theorem milestones_refl (scene : Scene) : (Poll.mk scene scene).milestones = [] :=
  milestones_of_log (List.append_nil _).symm

theorem loads_refl (scene : Scene) : (Poll.mk scene scene).loads = [] :=
  loads_of_binaries (List.append_nil _).symm

theorem Unnoticed.refl (scene : Scene) : (Poll.mk scene scene).Unnoticed :=
  ⟨rfl, fun _ _ found => found⟩

theorem Unnoticed.trans {first second third : Scene} (one : (Poll.mk first second).Unnoticed)
    (two : (Poll.mk second third).Unnoticed) : (Poll.mk first third).Unnoticed :=
  ⟨two.slot.trans one.slot, fun id target found =>
    two.instances id target (one.instances id target found)⟩

end Poll

/-! ### Telling -/

/-- **Only the log and the record of loads have grown.** -/
structure Scene.Tells (before after : Scene) : Prop where
  slot : after.slot = before.slot
  instances : after.host.instances = before.host.instances
  log : before.host.log <+: after.host.log
  binaries : before.record.binaries <+: after.record.binaries

namespace Scene.Tells

theorem refl (scene : Scene) : scene.Tells scene :=
  ⟨rfl, rfl, List.prefix_rfl, List.prefix_rfl⟩

theorem trans {first second third : Scene} (one : first.Tells second) (two : second.Tells third) :
    first.Tells third :=
  ⟨two.slot.trans one.slot, two.instances.trans one.instances, one.log.trans two.log,
    one.binaries.trans two.binaries⟩

theorem precedes {before after : Scene} (tells : before.Tells after) : before.Precedes after :=
  ⟨tells.log, tells.binaries⟩

theorem unnoticed {before after : Scene} (tells : before.Tells after) :
    (Poll.mk before after).Unnoticed :=
  ⟨tells.slot, fun id _ found => (Host.find?_congr tells.instances id).trans found⟩

end Scene.Tells

/-- **Only telling, without a load**: these are the milestones told. -/
structure Scene.Adds (before after : Scene) (milestones : List Event) : Prop where
  tells : before.Tells after
  milestones : (Poll.mk before after).milestones = milestones
  loads : (Poll.mk before after).loads = []

theorem Scene.Adds.trans {first second third : Scene} {earlier later : List Event}
    (one : first.Adds second earlier) (two : second.Adds third later) :
    first.Adds third (earlier ++ later) := by
  refine ⟨one.tells.trans two.tells, ?_, ?_⟩
  · rw [Poll.milestones_trans one.tells.precedes two.tells.precedes, one.milestones,
      two.milestones]
  · rw [Poll.loads_trans one.tells.precedes two.tells.precedes, one.loads, two.loads,
      List.append_nil]

namespace Service

theorem adds_log (service : Service) (events : List Event) :
    service.scene.Adds (service.log events).scene (events.filter Event.isMilestone) :=
  ⟨⟨rfl, rfl, List.prefix_append _ _, List.prefix_rfl⟩, Poll.milestones_of_log rfl,
    Poll.loads_of_binaries (List.append_nil _).symm⟩

theorem adds_recordBuild (service : Service) (text : String) :
    service.scene.Adds (service.recordBuild text).scene [] :=
  ⟨⟨rfl, rfl, List.prefix_rfl, List.prefix_rfl⟩, Poll.milestones_refl _, Poll.loads_refl _⟩

/-- **A call that ends does nothing but tell of it**, if it has told of its start. -/
theorem service_finish (service : Service) (job : Job) (result : Except BootFailure Nat) :
    (service.finish job result).service =
      service.log (if job.announced then [Event.closing result] else []) := by
  cases announced : job.announced with
  | false => simp [finish, announced, log_nil]
  | true => cases result <;> simp [finish, announced, Event.closing]

/-- The end of a call is no milestone. -/
theorem adds_finish (service : Service) (job : Job) (result : Except BootFailure Nat) :
    service.scene.Adds (service.finish job result).service.scene [] := by
  have quiet : (if job.announced then [Event.closing result] else []).filter Event.isMilestone =
      [] := by
    cases job.announced with
    | false => rfl
    | true => cases result <;> rfl
  have adds := service.adds_log (if job.announced then [Event.closing result] else [])
  rw [quiet] at adds
  rw [service_finish]
  exact adds

theorem tells_askLoader (service : Service) (binary : Option String) :
    service.scene.Tells (service.askLoader binary).scene :=
  ⟨rfl, rfl, List.prefix_append _ _, List.prefix_append _ _⟩

theorem isReading_loadModule (system : FileSystem) (directory : String) (binary : Option String) :
    ∀ event ∈ (loadModule system directory binary).events, event.isReading = true := by
  unfold loadModule
  simp only
  split
  · simp [Event.isReading]
  · split <;> simp [Event.isReading]

/-- **Before its answer the loader tells of reading a module file only.** -/
theorem isReading_answer (service : Service) (binary : Option String) :
    ∀ event ∈ (service.answer binary).1, event.isReading = true := by
  unfold answer
  cases service.loader with
  | scripted plan => exact List.forall_mem_nil _
  | files directory =>
    simp only
    split <;> exact isReading_loadModule _ _ _

theorem filter_answer (service : Service) (binary : Option String) {counts : Event → Bool}
    (others : ∀ event, event.isReading = true → counts event = false) :
    (service.answer binary).1.filter counts = [] := by
  rw [List.filter_eq_nil_iff]
  intro event member
  rw [others event (service.isReading_answer binary event member)]
  exact Bool.false_ne_true

/-- What the loader tells before its answer are no milestones. -/
theorem answer_milestones (service : Service) (binary : Option String) :
    (service.answer binary).1.filter Event.isMilestone = [] := by
  refine service.filter_answer binary fun event reading => ?_
  cases event <;> first | rfl | cases reading

theorem milestones_askLoader (service : Service) (binary : Option String) :
    (Poll.mk service.scene (service.askLoader binary).scene).milestones = [] :=
  (Poll.milestones_of_log rfl).trans (service.answer_milestones binary)

theorem loads_askLoader (service : Service) (binary : Option String) :
    (Poll.mk service.scene (service.askLoader binary).scene).loads = [binary] :=
  Poll.loads_of_binaries rfl

end Service

/-! ### The end of a start -/

namespace Instance

/-- A start that is refused leaves the instance as it was. -/
theorem finishStart_error {target changed : Instance} {names : List String} {events : List Event}
    {refusal : Refusal} (failed : target.finishStart names = (changed, events, .error refusal)) :
    changed = target ∧ events = [.instanceRefused target.id refusal] := by
  unfold finishStart at failed
  split at failed
  · cases failed
    exact ⟨rfl, rfl⟩
  · cases failed

/-- A start that succeeds makes the instance ready. -/
theorem finishStart_ok {target changed : Instance} {names : List String} {events : List Event}
    (succeeded : target.finishStart names = (changed, events, .ok ())) :
    changed = { target with ready := true } ∧
      events.filter Event.isMilestone = [.instanceStarted target.id] := by
  unfold finishStart at succeeded
  split at succeeded
  · cases succeeded
  · cases succeeded
    refine ⟨rfl, ?_⟩
    cases target.ready <;> rfl

end Instance

end InstanceHost
