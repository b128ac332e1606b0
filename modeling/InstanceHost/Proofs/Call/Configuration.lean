/-
**One configuration, two ways.**

A call with an object brings it to an instance in one of two ways. If nothing is published, it
builds an instance from the canonical text of the object, which the instance reads again; otherwise
it writes the object into the published instance. Either way the configuration of the instance is
the object, as long as it stays within the limit on containers.

* `complete_finished`: a call that runs from its beginning does reach its end;
* `Stage.Faithful.stride`: on the way of building nothing fails, if the loader does not;
* `Progress.Configured`: a call has come to an instance with a configuration;
* `canonical_config_lossless`: both ways, and what the instance makes of the canonical text.
-/

import InstanceHost.Proofs.Call.Soundness
import InstanceHost.Proofs.Config.Canonical

namespace InstanceHost

/-! ### A call reaches its end -/

/-- The call has run. -/
def Stage.Begun : Stage → Prop
  | .fresh _ => False
  | _ => True

theorem Stride.begun {before after : Progress} (stride : Stride before after) :
    after.stage.Begun := by
  cases stride <;> trivial

theorem begun_poll {service : Service} {stage : Stage} (begun : stage.Begun) :
    (service.poll stage).stage.Begun := by
  rcases Relation.ReflTransGen.cases_tail (service.strides_poll stage) with same | ⟨_, _, last⟩
  · rw [same]
    exact begun
  · exact last.begun

theorem begun_begin (service : Service) (order : Order) : (service.begin order).stage.Begun := by
  obtain ⟨first, stride, chain⟩ := service.strides_begin order
  rcases Relation.ReflTransGen.cases_tail chain with same | ⟨_, _, last⟩
  · rw [same]
    exact stride.begun
  · exact last.begun

theorem finished_of_remaining {stage : Stage} (begun : stage.Begun) (none : stage.remaining = 0) :
    ∃ result, stage = .finished result := by
  cases stage with
  | fresh order => exact begun.elim
  | loading job plan pauses => simp [Stage.remaining] at none
  | building job plan pauses => simp [Stage.remaining] at none
  | starting job id names pauses => simp [Stage.remaining] at none
  | finished result => exact ⟨result, rfl⟩

theorem finished_polls (count : Nat) {progress : Progress} (begun : progress.stage.Begun)
    (enough : progress.stage.remaining ≤ count) :
    ∃ result, (Service.polls progress count).stage = .finished result := by
  induction count generalizing progress with
  | zero => exact finished_of_remaining begun (Nat.le_zero.mp enough)
  | succ count inductive_step =>
    have fewer : (progress.service.poll progress.stage).stage.remaining ≤
        progress.stage.remaining - 1 := by
      refine progress.service.remaining_poll progress.stage fun order fresh => ?_
      rw [fresh] at begun
      exact begun
    exact inductive_step (begun_poll begun) (by omega)

/-- A call that ends at once. -/
theorem complete_of_begin {service after : Service} {order : Order}
    {result : Except BootFailure Nat} (begins : service.begin order = ⟨after, .finished result⟩) :
    service.complete order = ⟨after, .finished result⟩ := by
  rw [Service.complete, begins]
  rfl

/-- **A call from its beginning reaches its end.** -/
theorem complete_finished (service : Service) (order : Order) :
    ∃ result, (service.complete order).stage = .finished result :=
  finished_polls _ (begun_begin service order) (Nat.le_refl _)

theorem strides_polls (count : Nat) (progress : Progress) :
    Strides progress (Service.polls progress count) := by
  induction count generalizing progress with
  | zero => exact .refl
  | succ count inductive_step =>
    exact (progress.service.strides_poll progress.stage).trans (inductive_step _)

theorem strides_complete (service : Service) (order : Order) :
    ∃ first, Stride ⟨service, .fresh order⟩ first ∧ Strides first (service.complete order) := by
  obtain ⟨first, stride, chain⟩ := service.strides_begin order
  exact ⟨first, stride, chain.trans (strides_polls _ _)⟩

/-! ### Building without failures -/

/-- A load that succeeds, with a module that reads texts as configurations, and an instance that is
built and started. -/
structure LoadPlan.Unfailing (plan : LoadPlan) : Prop where
  load : plan.loadFailure = none
  build : plan.buildFailure = none
  reads : plan.ReadsText
  start : plan.startFailure = none

/-- Building an instance comes to the items with the configuration that the text describes. -/
theorem LoadPlan.Unfailing.building {plan : LoadPlan} {text : String} {entries : Keyed Json}
    (unfailing : plan.Unfailing) (read : readConfig text = .ok entries) :
    plan.building text = .ok (Instance.configItems entries) := by
  rw [LoadPlan.building, unfailing.build]
  exact (unfailing.reads text).trans (Instance.readItems_of_ok read)

/-- **A call has come to an instance with a configuration**, and it is the published one. -/
def Progress.Configured (progress : Progress) (id : Nat) (config : Json) : Prop :=
  progress.stage = .finished (.ok id) ∧ progress.service.slot = some id ∧
    ∃ target, progress.service.host.find? id = some target ∧ target.config? = some config

/-- A call that is building an instance with some entries for its configuration, from a text that
stands for them. -/
def Stage.Faithful (entries : Keyed Json) (service : Service) : Stage → Prop
  | .fresh _ => False
  | .loading job plan _ => readConfig job.config.canonical = .ok entries ∧ plan.Unfailing
  | .building job plan _ => readConfig job.config.canonical = .ok entries ∧ plan.Unfailing
  | .starting _ id _ _ => ∃ target, service.host.find? id = some target ∧ target.id = id ∧
      target.refusal = none ∧ target.items = Instance.configItems entries
  | .finished result => ∃ id, result = .ok id ∧ service.slot = some id ∧
      ∃ target, service.host.find? id = some target ∧ target.config? = some (.object entries)

theorem Stage.Faithful.stride {entries : Keyed Json} {before after : Progress}
    (faithful : before.stage.Faithful entries before.service) (stride : Stride before after) :
    after.stage.Faithful entries after.service := by
  cases stride with
  | mismatched => exact faithful.elim
  | reused => exact faithful.elim
  | unresolved => exact faithful.elim
  | announced => exact faithful.elim
  | direct => exact faithful.elim
  | waitLoading => exact faithful
  | notLoaded failed =>
    obtain ⟨_, unfailing⟩ := faithful
    rw [unfailing.load] at failed
    cases failed
  | loaded succeeded => exact faithful
  | waitBuilding => exact faithful
  | notBuilt failed =>
    obtain ⟨read, unfailing⟩ := faithful
    rw [unfailing.building read] at failed
    cases failed
  | built making planned =>
    obtain ⟨read, unfailing⟩ := faithful
    rw [unfailing.building read] at making
    cases making
    subst planned
    exact ⟨_, Host.find?_add_self _ _, rfl, unfailing.start, rfl⟩
  | waitStarting => exact faithful
  | notStarted failed =>
    obtain ⟨target, found, _, willing, _⟩ := faithful
    rw [Host.get_of_find? found, Instance.finishStart, willing] at failed
    cases failed
  | started succeeded =>
    next service job id names changed events =>
    obtain ⟨target, found, number, _, items⟩ := faithful
    have stored : service.host.find? id = some target := found
    rw [Host.get_of_find? stored] at succeeded
    obtain ⟨rfl, _⟩ := Instance.finishStart_ok succeeded
    subst number
    have closing := Service.adds_finish
      ((service.replace { target with ready := true } events).publish target.id) job (.ok target.id)
    refine ⟨target.id, rfl, closing.tells.slot, { target with ready := true }, ?_, ?_⟩
    · exact (Host.find?_congr closing.tells.instances _).trans (Host.find?_replace_self stored)
    · exact Instance.config?_configItems entries _ items

theorem Stage.Faithful.strides {entries : Keyed Json} {before after : Progress}
    (faithful : before.stage.Faithful entries before.service) (chain : Strides before after) :
    after.stage.Faithful entries after.service := by
  induction chain with
  | refl => exact faithful
  | tail _ stride inductive_step => exact inductive_step.stride stride

/-! ### Both ways -/

section

variable {service : Service} {entries : Keyed Json} {normal : NormalConfig}

/-- **An instance is built with the configuration** that the canonical text of a value stands
for. -/
theorem configured_of_normal {value : Json} {config : Config}
    (kind : Config.ofJson value = .ok config) (resolved : config.toNormal = .ok normal)
    (read : readConfig normal.canonical = .ok entries) (empty : service.current? = none)
    (unfailing : (service.answer normal.modulePath).2.Unfailing) :
    ∃ id, (service.complete (.value value)).Configured id (.object entries) := by
  obtain ⟨first, stride, chain⟩ := strides_complete service (.value value)
  have missing : ∀ config, service.reuse? config = none := fun config => by
    rw [Service.reuse?, empty]
  have faithful : first.stage.Faithful entries first.service := by
    cases stride with
    | mismatched mismatch => cases kind.symm.trans mismatch
    | reused _ found =>
      rw [missing] at found
      cases found
    | unresolved same _ fault =>
      cases kind.symm.trans same
      cases resolved.symm.trans fault
    | announced same _ other telling =>
      cases kind.symm.trans same
      cases resolved.symm.trans other
      subst telling
      exact ⟨read, unfailing⟩
  obtain ⟨result, finished⟩ := complete_finished service (.value value)
  have reached := faithful.strides chain
  rw [finished] at reached
  obtain ⟨id, rfl, slot, target⟩ := reached
  exact ⟨id, finished, slot, target⟩

/-- An instance is built with an object for its configuration. -/
theorem configured_of_empty (resolved : (Config.structured entries).toNormal = .ok normal)
    (read : readConfig normal.canonical = .ok entries) (empty : service.current? = none)
    (unfailing : (service.answer normal.modulePath).2.Unfailing) :
    ∃ id, (service.complete (.value (.object entries))).Configured id (.object entries) :=
  configured_of_normal rfl resolved read empty unfailing

theorem Config.toJson_of_ofJson {value : Json} {config : Config}
    (kind : Config.ofJson value = .ok config) : config.toJson = value := by
  cases value with
  | string text =>
    cases kind
    rfl
  | object entries =>
    cases kind
    rfl
  | _ => cases kind

/-- **A call that finds an instance published** writes its value into it. -/
theorem complete_of_published {value : Json} {config : Config} {found : Instance}
    (kind : Config.ofJson value = .ok config) (published : service.current? = some found) :
    service.complete (.value value) =
      ⟨(service.replace (found.set configurationKey value).1
          [.configUpdated found.id config.kindName]).log [.bootReused found.id],
        .finished (.ok found.id)⟩ := by
  have reused : service.reuse? config = some (service.replace
      (found.set configurationKey value).1 [.configUpdated found.id config.kindName],
        found.id) := by
    rw [Service.reuse?, published, Config.toJson_of_ofJson kind]
    simp only [Instance.set_configurationKey, List.nil_append]
  refine complete_of_begin ?_
  rw [Service.begin, kind]
  show service.beginConfig config = _
  rw [Service.beginConfig, reused]

/-- Its value is the configuration of the published instance from then on. -/
theorem configured_of_config {value : Json} {config : Config} {found : Instance}
    (kind : Config.ofJson value = .ok config) (numbered : service.host.Numbered)
    (published : service.current? = some found) :
    (service.complete (.value value)).Configured found.id value := by
  rw [complete_of_published kind published]
  obtain ⟨changed, writing⟩ :
      ∃ changed, changed = (found.set configurationKey value).1 := ⟨_, rfl⟩
  have number : changed.id = found.id := by
    rw [writing, Instance.set_configurationKey]
  rw [← writing]
  rw [Service.current?, Option.bind_eq_some_iff] at published
  obtain ⟨id, slot, stored⟩ := published
  have same : found.id = id := numbered id found stored
  refine ⟨rfl, ?_, changed, ?_, ?_⟩
  · rw [same]
    exact slot
  · have there : service.host.find? changed.id = some found := by
      rw [number, same]
      exact stored
    exact number ▸ Host.find?_replace_self there
  · rw [writing]
    exact Instance.config?_set found value

/-- **The configuration is written into the published instance.** -/
theorem configured_of_published {found : Instance} (numbered : service.host.Numbered)
    (published : service.current? = some found) :
    (service.complete (.value (.object entries))).Configured found.id (.object entries) :=
  configured_of_config rfl numbered published

end

/-- **The canonical text of an object loses nothing.** For every object with keys in order, whose
numbers are integers and which has a normal form: within the limit on containers the instance reads
its canonical text as the object itself, and beyond the limit it refuses the text. Within the limit
a call with the object comes to an instance whose configuration is the object, both where nothing is
published and the loader does not fail, and where an instance is published. -/
theorem canonical_config_lossless (entries : Keyed Json) (normal : NormalConfig)
    (ordered : (Json.object entries).Ordered) (integral : (Json.object entries).Integral)
    (resolved : (Config.structured entries).toNormal = .ok normal) :
    ((Json.object entries).depth ≤ Json.containerLimit →
      readConfig normal.canonical = .ok entries ∧
        (∀ service : Service, service.current? = none →
          (service.answer normal.modulePath).2.Unfailing →
            ∃ id, (service.complete (.value (.object entries))).Configured id (.object entries)) ∧
        ∀ (service : Service) (found : Instance), service.host.Numbered →
          service.current? = some found →
            (service.complete (.value (.object entries))).Configured found.id (.object entries)) ∧
      (Json.containerLimit < (Json.object entries).depth →
        ∃ fault, readConfig normal.canonical = .error (.invalidJson normal.canonical fault) ∧
          fault.cause = .tooDeep) := by
  have canonical := canonical_of_toNormal resolved
  constructor
  · intro within
    have read : readConfig normal.canonical = .ok entries := by
      rw [canonical]
      exact readConfig_text ordered integral within
    refine ⟨read, ?_, ?_⟩
    · exact fun service empty unfailing => configured_of_empty resolved read empty unfailing
    · exact fun service found numbered published => configured_of_published numbered published
  · intro beyond
    rw [canonical]
    exact readConfig_text_of_lt ordered integral beyond

/-- A value inside a number of arrays. -/
def Json.nest : Nat → Json
  | 0 => .null
  | count + 1 => .array [nest count]

/-- An object around a value inside a number of arrays. -/
def nestedEntries (count : Nat) : Keyed Json :=
  [("deep", Json.nest count)]

theorem ordered_nestedEntries (count : Nat) : (Json.object (nestedEntries count)).Ordered := by
  have inner : (Json.nest count).Ordered := by
    induction count with
    | zero => trivial
    | succ count inductive_step => exact ⟨inductive_step, trivial⟩
  exact ⟨List.pairwise_singleton _ _, inner, trivial⟩

theorem integral_nestedEntries (count : Nat) : (Json.object (nestedEntries count)).Integral := by
  have inner : (Json.nest count).Integral := by
    induction count with
    | zero => trivial
    | succ count inductive_step => exact ⟨inductive_step, trivial⟩
  exact ⟨inner, trivial⟩

theorem depth_nestedEntries (count : Nat) :
    (Json.object (nestedEntries count)).depth = count + 1 := by
  have inner : (Json.nest count).depth = count := by
    induction count with
    | zero => rfl
    | succ count inductive_step =>
      show max (Json.nest count).depth 0 + 1 = count + 1
      rw [inductive_step, Nat.max_zero]
  show max (Json.nest count).depth 0 + 1 = count + 1
  rw [inner, Nat.max_zero]

/-- A service without calls, some of whose instances may be published. -/
def nestedService (instances : List Instance) (slot : Option Nat) : Service :=
  ⟨⟨.bare [], instances, []⟩, slot, .scripted fun _ => .smooth, .empty, []⟩

theorem numbered_nestedService :
    (nestedService [Instance.ofItems 0 []] (some 0)).host.Numbered := by
  intro id target found
  cases id with
  | zero =>
    cases found
    rfl
  | succ id => cases found

/-- The limit lies between an object with 126 arrays in it and one with 127. The first of them comes
to an instance in both ways. -/
theorem canonical_config_lossless_nested :
    (∀ count, (Json.object (nestedEntries count)).Ordered ∧
        (Json.object (nestedEntries count)).Integral ∧
        (Config.structured (nestedEntries count)).toNormal =
          .ok ⟨(Json.object (nestedEntries count)).text, none⟩) ∧
      readConfig (Json.object (nestedEntries 126)).text = .ok (nestedEntries 126) ∧
      (∃ id, ((nestedService [] none).complete (.value (.object (nestedEntries 126)))).Configured id
        (.object (nestedEntries 126))) ∧
      ((nestedService [Instance.ofItems 0 []] (some 0)).complete
        (.value (.object (nestedEntries 126)))).Configured 0 (.object (nestedEntries 126)) ∧
      ∃ fault, readConfig (Json.object (nestedEntries 127)).text =
          .error (.invalidJson (Json.object (nestedEntries 127)).text fault) ∧
        fault.cause = .tooDeep := by
  have resolved : ∀ count, (Config.structured (nestedEntries count)).toNormal =
      .ok ⟨(Json.object (nestedEntries count)).text, none⟩ := fun count => rfl
  have within : (Json.object (nestedEntries 126)).depth ≤ Json.containerLimit :=
    Nat.le_of_eq (depth_nestedEntries 126)
  have beyond : Json.containerLimit < (Json.object (nestedEntries 127)).depth :=
    Nat.lt_of_lt_of_eq (Nat.lt_succ_self 127) (depth_nestedEntries 127).symm
  have shallow := canonical_config_lossless _ _ (ordered_nestedEntries 126)
    (integral_nestedEntries 126) (resolved 126)
  have deep := canonical_config_lossless _ _ (ordered_nestedEntries 127)
    (integral_nestedEntries 127) (resolved 127)
  obtain ⟨read, building, writing⟩ := shallow.1 within
  refine ⟨fun count => ⟨ordered_nestedEntries count, integral_nestedEntries count, resolved count⟩,
    read, ?_, ?_, deep.2 beyond⟩
  · exact building (nestedService [] none) rfl ⟨rfl, rfl, fun _ => rfl, rfl⟩
  · exact writing (nestedService [Instance.ofItems 0 []] (some 0)) (Instance.ofItems 0 [])
      numbered_nestedService rfl

end InstanceHost
