/-
**What holds of a service at every moment.**

`Scene.Sound` is the invariant of what calls share, with the numbers seen so far and the stages of
the calls in flight: an instance that is being started belongs to one call alone, nobody has seen
it, and it is as it was built; an instance that was seen has been started, and the published one was
seen.

* `Scene.Sound`: the invariant;
* `Scene.Sound.turn`, `Scene.Sound.build`, `Scene.Sound.start`, `Scene.Sound.amend`: the changes
  that keep it;
* `Instance.config?_configItems`: the configuration of a new instance is the one it was built from.
-/

import InstanceHost.Call.Schedule
import InstanceHost.Proofs.Call.Scene

namespace InstanceHost

/-! ### Instances that wait for their start -/

theorem keyPath_configurationKey : keyPath configurationKey = ["self", "config"] := by
  decide

theorem Json.object_putMember (value : Json) (key : String) (rest : List String)
    (entries : Keyed Json) :
    Json.object (Json.putMember value (key :: rest) entries) =
      Json.put value (key :: rest) (.object entries) := rfl

/-- Writing a configuration changes the item under its key alone and never fails. -/
theorem Instance.set_configurationKey (target : Instance) (value : Json) :
    target.set configurationKey value =
      ({ target with items := Json.putMember value ["self", "config"] target.items }, []) := by
  unfold Instance.set Items.set?
  rw [keyPath_configurationKey]
  rfl

/-- **What is written at the key of the configuration is read there.** -/
theorem Instance.config?_set (target : Instance) (value : Json) :
    (target.set configurationKey value).1.config? = some value := by
  rw [Instance.set_configurationKey]
  unfold Instance.config? Instance.get? Items.get?
  rw [keyPath_configurationKey, Json.object_putMember]
  exact Json.get?_put value (.object target.items) ["self", "config"] []

/-- **The configuration of a new instance is the one it was built from.** -/
theorem Instance.config?_configItems (config : Keyed Json) (target : Instance)
    (built : target.items = Instance.configItems config) :
    target.config? = some (.object config) := by
  have written := Instance.config?_set (Instance.ofItems 0 []) (.object config)
  rw [Instance.set_configurationKey] at written
  unfold Instance.config? Instance.get? at written ⊢
  rw [built, Instance.configItems, keyPath_configurationKey]
  exact written

/-! ### What modules make of texts -/

/-- What the module of a load makes of texts keeps to a relation. -/
def LoadPlan.Yields (plan : LoadPlan) (makes : String → Items → Prop) : Prop :=
  ∀ text items, plan.building text = .ok items → makes text items

/-- What any module of a loader makes of texts keeps to a relation. -/
def Loader.Yields (loader : Loader) (makes : String → Items → Prop) : Prop :=
  match loader with
  | .scripted plan => ∀ count, (plan count).Yields makes
  | .files _ => LoadPlan.smooth.Yields makes

/-- Some module of a loader makes the items of the text. -/
def Loader.Makes (loader : Loader) (text : String) (items : Items) : Prop :=
  match loader with
  | .scripted plan => ∃ count, (plan count).building text = .ok items
  | .files _ => LoadPlan.smooth.building text = .ok items

theorem Loader.yields_makes (loader : Loader) : loader.Yields loader.Makes := by
  cases loader with
  | scripted plan => exact fun count _ _ made => ⟨count, made⟩
  | files directory => exact fun _ _ made => made

/-- The plan of a load is one of the loader's. -/
theorem Service.yields_answer {service : Service} {makes : String → Items → Prop}
    (yields : service.loader.Yields makes) (binary : Option String) :
    (service.answer binary).2.Yields makes := by
  unfold answer
  cases loader : service.loader with
  | scripted plan =>
    rw [loader] at yields
    exact yields _
  | files directory =>
    rw [loader] at yields
    simp only
    split
    · exact yields
    · exact yields

/-- The module of a load reads every text as a configuration. -/
def LoadPlan.ReadsText (plan : LoadPlan) : Prop :=
  ∀ text, plan.construct text = Instance.readItems text

/-- **Every module of a loader reads texts as configurations.** -/
def Loader.ReadsText : Loader → Prop
  | .scripted plan => ∀ count, (plan count).ReadsText
  | .files _ => True

/-- Items with the configuration that a text describes. -/
def Items.Configured (text : String) (items : Items) : Prop :=
  ∃ entries, readConfig text = .ok entries ∧ items.get? configurationKey = some (.object entries)

theorem Instance.readItems_of_ok {text : String} {config : Keyed Json}
    (read : readConfig text = .ok config) : readItems text = .ok (configItems config) := by
  rw [readItems, read]
  rfl

/-- A text is refused as it is where it is read. -/
theorem Instance.readItems_eq_error_iff {text : String} {refusal : Refusal} :
    readItems text = .error refusal ↔ readConfig text = .error refusal := by
  unfold readItems
  cases readConfig text with
  | error other => exact Iff.of_eq (congrArg _ rfl)
  | ok config => exact iff_of_false nofun nofun

theorem Instance.readItems_eq_ok {text : String} {items : Items}
    (reading : readItems text = .ok items) :
    ∃ config, readConfig text = .ok config ∧ items = configItems config := by
  unfold readItems at reading
  cases read : readConfig text with
  | error refusal =>
    rw [read] at reading
    cases reading
  | ok config =>
    rw [read] at reading
    exact ⟨config, rfl, (Except.ok.inj reading).symm⟩

/-- What building an instance comes to. -/
theorem Instance.ofConfig_eq_ok {id : Nat} {text : String} {made : Instance}
    (making : Instance.ofConfig id text = .ok made) :
    ∃ config, readConfig text = .ok config ∧
      made = Instance.ofItems id (Instance.configItems config) := by
  unfold Instance.ofConfig at making
  cases reading : readItems text with
  | error refusal =>
    rw [reading] at making
    cases making
  | ok items =>
    rw [reading] at making
    obtain ⟨config, read, rfl⟩ := readItems_eq_ok reading
    exact ⟨config, read, (Except.ok.inj making).symm⟩

/-- A module that reads texts makes an instance with the configuration that the text describes. -/
theorem LoadPlan.ReadsText.yields {plan : LoadPlan} (reads : plan.ReadsText) :
    plan.Yields Items.Configured := by
  intro text items making
  unfold building at making
  split at making
  · cases making
  · rw [reads] at making
    obtain ⟨config, read, rfl⟩ := Instance.readItems_eq_ok making
    exact ⟨config, read, Instance.config?_configItems config (Instance.ofItems 0 _) rfl⟩

theorem Loader.ReadsText.yields {loader : Loader} (reads : loader.ReadsText) :
    loader.Yields Items.Configured := by
  cases loader with
  | scripted plan => exact fun count => (reads count).yields
  | files directory => exact LoadPlan.ReadsText.yields fun _ => rfl

/-- An instance that was built from a text and handed no names of extensions yet but once. -/
structure Instance.Waiting (target : Instance) (makes : String → Items → Prop) (text : String) :
    Prop where
  made : makes text target.items
  bare : target.registry = []
  handed : target.starts = [[]]

/-! ### The invariant -/

namespace Stage

/-- The instance that a call is starting. -/
def own? : Stage → Option Nat
  | .starting _ id _ _ => some id
  | _ => none

/-- The instance that a call has come to. -/
def shown : Stage → List Nat
  | .finished (.ok id) => [id]
  | _ => []

/-- The module of a load makes of texts what it should; an instance that is being started is as it
was built, and nobody has seen it. -/
def Grounded (makes : String → Items → Prop) (host : Host) (seen : List Nat) : Stage → Prop
  | .loading _ plan _ => plan.Yields makes
  | .building _ plan _ => plan.Yields makes
  | .starting job id names _ =>
    names = [] ∧ id ∉ seen ∧
      ∃ target, host.find? id = some target ∧ target.Waiting makes job.config.canonical
  | _ => True

variable {makes : String → Items → Prop}

/-- The instance that a call is starting is all that matters. -/
theorem Grounded.carry {host changed : Host} {seen shown : List Nat} {stage : Stage}
    (grounded : stage.Grounded makes host seen)
    (kept : ∀ id target, stage.own? = some id → host.find? id = some target →
      changed.find? id = some target)
    (unseen : ∀ id, stage.own? = some id → id ∉ seen → id ∉ shown) :
    stage.Grounded makes changed shown := by
  cases stage with
  | starting job id names pauses =>
    obtain ⟨handed, hidden, target, found, waiting⟩ := grounded
    exact ⟨handed, unseen id rfl hidden, target, kept id target rfl found, waiting⟩
  | _ => exact grounded

theorem Grounded.exists_find? {host : Host} {seen : List Nat} {stage : Stage} {id : Nat}
    (grounded : stage.Grounded makes host seen) (own : stage.own? = some id) :
    id ∉ seen ∧ ∃ target, host.find? id = some target := by
  cases stage with
  | starting job other names pauses =>
    cases own
    obtain ⟨_, unseen, target, found, _⟩ := grounded
    exact ⟨unseen, target, found⟩
  | _ => cases own

end Stage

/-- **What holds of a scene at every moment**, with what modules make of texts, the numbers seen and
the stages of calls. -/
structure Scene.Sound (scene : Scene) (makes : String → Items → Prop) (seen : List Nat)
    (stages : List Stage) : Prop where
  numbered : scene.host.Numbered
  apart : (stages.filterMap Stage.own?).Nodup
  grounded : ∀ stage ∈ stages, stage.Grounded makes scene.host seen
  ready : ∀ id ∈ seen, ∃ target, scene.host.find? id = some target ∧ target.ready = true
  published : ∀ id, scene.slot = some id → id ∈ seen

namespace Scene.Sound

variable {makes : String → Items → Prop} {before after : Scene} {seen : List Nat}
  {stages others : List Stage} {stage next : Stage}

/-- The order of the calls does not matter. -/
theorem perm {first second : List Stage} (sound : before.Sound makes seen first)
    (same : first.Perm second) : before.Sound makes seen second :=
  ⟨sound.numbered, (same.filterMap Stage.own?).nodup_iff.mp sound.apart,
    fun stage member => sound.grounded stage (same.mem_iff.mpr member), sound.ready,
    sound.published⟩

/-- A call fewer. -/
theorem tail (sound : before.Sound makes seen (stage :: others)) :
    before.Sound makes seen others := by
  refine ⟨sound.numbered, ?_, ?_, sound.ready, sound.published⟩
  · have sublist : others.Sublist (stage :: others) := List.sublist_cons_self _ _
    exact (sublist.filterMap Stage.own?).nodup sound.apart
  · exact fun other member => sound.grounded other (List.mem_cons_of_mem _ member)

/-- A call more, if it is starting no instance. -/
theorem cons (sound : before.Sound makes seen others) (none : next.own? = none)
    (grounded : next.Grounded makes before.host seen) :
    before.Sound makes seen (next :: others) := by
  refine ⟨sound.numbered, ?_, ?_, sound.ready, sound.published⟩
  · rw [List.filterMap_cons_none none]
    exact sound.apart
  · intro other member
    rcases List.mem_cons.mp member with rfl | later
    · exact grounded
    · exact sound.grounded other later

/-- A call in the place of another that is starting the same instance. -/
theorem swap (sound : before.Sound makes seen (stage :: others)) (own : next.own? = stage.own?)
    (grounded : next.Grounded makes before.host seen) :
    before.Sound makes seen (next :: others) := by
  refine ⟨sound.numbered, ?_, ?_, sound.ready, sound.published⟩
  · have apart := sound.apart
    rw [List.filterMap_cons] at apart ⊢
    rw [own]
    exact apart
  · intro other member
    rcases List.mem_cons.mp member with rfl | later
    · exact grounded
    · exact sound.tail.grounded other later

/-- No call is starting an instance that was seen. -/
theorem own?_ne_of_seen (sound : before.Sound makes seen stages) {id : Nat} (there : id ∈ seen)
    (member : stage ∈ stages) : stage.own? ≠ some id :=
  fun own => ((sound.grounded stage member).exists_find? own).1 there

/-- An instance that is being started has its number by now. -/
theorem lt_nextId_of_own? (sound : before.Sound makes seen stages) {id : Nat}
    (member : stage ∈ stages) (own : stage.own? = some id) : id < before.host.nextId := by
  obtain ⟨_, target, found⟩ := (sound.grounded stage member).exists_find? own
  exact Host.lt_nextId_of_find? found

theorem lt_nextId_of_seen (sound : before.Sound makes seen stages) {id : Nat} (there : id ∈ seen) :
    id < before.host.nextId := by
  obtain ⟨target, found, _⟩ := sound.ready id there
  exact Host.lt_nextId_of_find? found

/-- A call alone starts its instance. -/
theorem own?_ne_of_head (sound : before.Sound makes seen (stage :: others)) {id : Nat}
    (own : stage.own? = some id) {other : Stage} (member : other ∈ others) :
    other.own? ≠ some id := by
  intro same
  have apart := sound.apart
  rw [List.filterMap_cons_some own] at apart
  exact (List.nodup_cons.mp apart).1 (List.mem_filterMap.mpr ⟨other, member, same⟩)

/-- **What the invariant asks of a change**: instances keep their places, those that are being
started stay as they are, those that were seen stay ready, and only one of them is published. -/
theorem carry (sound : before.Sound makes seen stages) (numbered : after.host.Numbered)
    (kept : ∀ stage ∈ stages, ∀ id target, stage.own? = some id →
      before.host.find? id = some target → after.host.find? id = some target)
    (ready : ∀ id ∈ seen, ∃ target, after.host.find? id = some target ∧ target.ready = true)
    (published : ∀ id, after.slot = some id → id ∈ seen) : after.Sound makes seen stages := by
  refine ⟨numbered, sound.apart, ?_, ready, published⟩
  intro stage member
  exact (sound.grounded stage member).carry (kept stage member) (fun _ _ hidden => hidden)

/-- Changes that leave the instances alone, and publish only what was seen. -/
theorem slide (sound : before.Sound makes seen stages)
    (instances : after.host.instances = before.host.instances)
    (published : ∀ id, after.slot = some id → id ∈ seen) : after.Sound makes seen stages := by
  have same := Host.find?_congr instances
  refine sound.carry ?_ ?_ ?_ published
  · exact fun id target found => sound.numbered id target ((same id).symm.trans found)
  · exact fun _ _ id target _ found => (same id).trans found
  · intro id there
    obtain ⟨target, found, ready⟩ := sound.ready id there
    exact ⟨target, (same id).trans found, ready⟩

/-- A stride that only tells, of a call that is starting no instance afterwards. -/
theorem turn (sound : before.Sound makes seen (stage :: others)) (tells : before.Tells after)
    (none : next.own? = none) (grounded : next.Grounded makes after.host seen) :
    after.Sound makes seen (next :: others) :=
  (sound.tail.slide tells.instances fun id there =>
    sound.published id (tells.slot.symm.trans there)).cons none grounded

/-- Changing an instance that is ready and that no call is starting. -/
theorem amend (sound : before.Sound makes seen stages) {changed : Instance}
    (apart : ∀ stage ∈ stages, stage.own? ≠ some changed.id) (ready : changed.ready = true)
    (instances : after.host.instances = (before.host.replace changed).instances)
    (slot : after.slot = before.slot) : after.Sound makes seen stages := by
  have same := Host.find?_congr instances
  refine sound.carry ?_ ?_ ?_ fun id there => sound.published id (slot.symm.trans there)
  · exact fun id target found =>
      sound.numbered.replace changed id target ((same id).symm.trans found)
  · intro stage member id target own found
    have different : id ≠ changed.id := fun equal => apart stage member (equal ▸ own)
    rw [same, Host.find?_replace_of_ne different, found]
  · intro id there
    obtain ⟨target, found, already⟩ := sound.ready id there
    by_cases equal : id = changed.id
    · subst equal
      exact ⟨changed, (same _).trans (Host.find?_replace_self found), ready⟩
    · refine ⟨target, ?_, already⟩
      rw [same, Host.find?_replace_of_ne equal, found]

/-- Building an instance, which gets the next number. -/
theorem build (sound : before.Sound makes seen (stage :: others)) {job : Job} {new : Instance}
    {pauses : Nat} (numbered : new.id = before.host.nextId)
    (waiting : new.Waiting makes job.config.canonical)
    (instances : after.host.instances = (before.host.add new).instances)
    (slot : after.slot = before.slot) :
    after.Sound makes seen (.starting job new.id [] pauses :: others) := by
  have same := Host.find?_congr instances
  have kept : ∀ id target, before.host.find? id = some target →
      after.host.find? id = some target :=
    fun id target found => (same id).trans (Host.find?_add_of_find? new found)
  have rest : after.Sound makes seen others := by
    refine sound.tail.carry ?_ ?_ ?_ fun id there => sound.published id (slot.symm.trans there)
    · exact fun id target found =>
        sound.numbered.add numbered id target ((same id).symm.trans found)
    · exact fun _ _ id target _ found => kept id target found
    · intro id there
      obtain ⟨target, found, ready⟩ := sound.ready id there
      exact ⟨target, kept id target found, ready⟩
  refine ⟨rest.numbered, ?_, ?_, rest.ready, rest.published⟩
  · rw [List.filterMap_cons_some (show Stage.own? (.starting job new.id [] pauses) = _ from rfl)]
    refine List.nodup_cons.mpr ⟨?_, rest.apart⟩
    intro taken
    obtain ⟨other, member, own⟩ := List.mem_filterMap.mp taken
    have bound := sound.tail.lt_nextId_of_own? member own
    omega
  · intro other member
    rcases List.mem_cons.mp member with rfl | later
    · refine ⟨rfl, ?_, new, ?_, waiting⟩
      · intro there
        have bound := sound.lt_nextId_of_seen there
        omega
      · rw [same, numbered, Host.find?_add_self]
    · exact rest.grounded other later

/-- An instance that is ready is seen besides. -/
theorem reveal (sound : before.Sound makes seen stages) {id : Nat}
    (apart : ∀ stage ∈ stages, stage.own? ≠ some id)
    (ready : ∃ target, before.host.find? id = some target ∧ target.ready = true) :
    before.Sound makes (seen ++ [id]) stages := by
  refine ⟨sound.numbered, sound.apart, ?_, ?_, ?_⟩
  · intro stage member
    refine (sound.grounded stage member).carry (fun _ _ _ found => found) ?_
    intro other own hidden there
    rcases List.mem_append.mp there with earlier | last
    · exact hidden earlier
    · exact apart stage member (List.mem_singleton.mp last ▸ own)
  · intro other there
    rcases List.mem_append.mp there with earlier | last
    · exact sound.ready other earlier
    · exact List.mem_singleton.mp last ▸ ready
  · exact fun other there => List.mem_append_left _ (sound.published other there)

/-- Starting an instance and publishing it. -/
theorem start (sound : before.Sound makes seen (stage :: others)) {changed : Instance}
    (own : stage.own? = some changed.id) (ready : changed.ready = true)
    (instances : after.host.instances = (before.host.replace changed).instances)
    (slot : after.slot = some changed.id) :
    after.Sound makes (seen ++ [changed.id]) (.finished (.ok changed.id) :: others) := by
  have apart : ∀ other ∈ others, other.own? ≠ some changed.id :=
    fun other member => sound.own?_ne_of_head own member
  have changing : Scene.Sound ⟨after.host, before.slot, before.record⟩ makes seen others :=
    sound.tail.amend apart ready instances rfl
  obtain ⟨_, target, found⟩ := (sound.grounded stage List.mem_cons_self).exists_find? own
  have there : after.host.find? changed.id = some changed :=
    (Host.find?_congr instances _).trans (Host.find?_replace_self found)
  refine Scene.Sound.cons ?_ rfl trivial
  refine (changing.reveal apart ⟨changed, there, ready⟩).slide rfl ?_
  intro id published
  rw [slot] at published
  exact List.mem_append_right _ (List.mem_singleton.mpr (Option.some.inj published).symm)

end Scene.Sound

end InstanceHost
