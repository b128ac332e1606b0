/-
**What the log tells of a call.**

Three kinds of events tell of calls and of the slot: that an instance was published, that a
configuration was rewritten, and how a call goes. Whatever other calls do in between, a call tells
nothing if its value is no configuration. It tells of a rewriting and of its reuse if it finds a
published instance. Otherwise it tells of its start and, if it comes to an end, of this end, with
the publication in between if it is a success.

Of the slot, the log tells all but when it is emptied.

* `Replays`: what a log, with marks where the slot was emptied, makes of the slot;
* `Scene.Logs`: what is added to a log and tells what becomes of the slot;
* `Reported`: what a call has told, by what it was made with, what it found, and how it ended;
* `Reporting.stride`: every stride of a call tells what it should;
* `Life.Reports.poll`, `Life.reports_complete`: so does every poll, up to the end of the call;
* `Told`: what can be read of a call in the lines of the log.
-/

import InstanceHost.Proofs.Call.Ledger

namespace InstanceHost

/-! ### Tidings -/

namespace Event

/-- The name of a publication. -/
def publicationSubject : String := "event=runtime_publish module=slot"

/-- The name of what happens to a call. -/
def bootstrapSubject : String := "event=runtime_bootstrap module=bootstrap"

/-- The name of a configuration that is rewritten. -/
def updateSubject : String := "event=config_update module=bootstrap"

/-- **The events that tell of calls and of the slot.** -/
def isTiding (event : Event) : Bool :=
  event.subject ∈ [publicationSubject, bootstrapSubject, updateSubject]

/-- Publications have their name to themselves. -/
theorem subject_eq_iff {event : Event} :
    event.subject = publicationSubject ↔ event.publication? ≠ none := by
  cases event with
  | published id displaced => exact iff_of_true rfl nofun
  | _ => exact iff_of_false (by simp [subject, publicationSubject]) fun some => some rfl

theorem publication?_eq_none {event : Event} (apart : event.subject ≠ publicationSubject) :
    event.publication? = none :=
  not_not.mp (mt subject_eq_iff.mpr apart)

theorem subject_ne_of_publication? {event : Event} (other : event.publication? = none) :
    event.subject ≠ publicationSubject :=
  fun same => subject_eq_iff.mp same other

theorem isTiding_of_publication? {event : Event} (some : event.publication? ≠ none) :
    event.isTiding = true := by
  rw [isTiding, subject_eq_iff.mpr some]
  rfl

end Event

/-- The publications are among the events that tell of calls and of the slot. -/
theorem publications_filter (news : List Event) :
    (news.filter Event.isTiding).filterMap Event.publication? =
      news.filterMap Event.publication? := by
  rw [List.filterMap_filter]
  refine List.filterMap_congr fun event _ => ?_
  by_cases other : event.publication? = none
  · rw [other, ite_self]
  · rw [if_pos (Event.isTiding_of_publication? other)]

theorem publications_of_quiet {news : List Event} (quiet : news.filter Event.isTiding = []) :
    news.filterMap Event.publication? = [] := by
  rw [← publications_filter, quiet, List.filterMap_nil]

/-! ### The slot in the log -/

/-- An event of the log, or the slot being emptied, which the log does not tell. -/
inductive Mark where
  | told (event : Event)
  | cleared
deriving DecidableEq

/-- **A publication in the log**: a warning with the instance that was published before, or no
warning if there was none. -/
structure Event.Announces (event : Event) (id : Nat) (occupant : Option Nat) : Prop where
  subject : event.subject = publicationSubject
  status : event.status = "ok"
  level : event.level = if occupant = none then .info else .warn
  details : ∀ labels, event.details labels = ("instance_id", labels.identify id) ::
    (occupant.map fun other => ("displaced_instance_id", labels.identify other)).toList

theorem Event.announces_published (id : Nat) (occupant : Option Nat) :
    (Event.published id occupant).Announces id occupant := by
  cases occupant <;> exact ⟨rfl, rfl, rfl, fun _ => rfl⟩

/-- The line of a publication says which instance is published. -/
theorem Event.Announces.publication? {event : Event} {id : Nat} {occupant : Option Nat}
    (announces : event.Announces id occupant) : event.publication? = some id := by
  cases event with
  | published other displaced =>
    -- identifiers that tell this instance from all others
    have detail := announces.details ⟨"", fun number => if number = id then "this" else "other",
      "", ""⟩
    have same : (if other = id then "this" else "other") = if id = id then "this" else "other" := by
      cases displaced <;> exact congrArg Prod.snd (List.cons.inj detail).1
    rw [if_pos rfl] at same
    by_cases equal : other = id
    · rw [equal, Event.publication?]
    · rw [if_neg equal] at same
      exact absurd same (by decide)
  | _ =>
    have other := announces.subject
    rw [Event.subject_eq_iff] at other
    exact absurd rfl other

/-- **What a log makes of the slot**: every publication in it tells of what was in the slot. -/
inductive Replays : Option Nat → List Mark → Option Nat → Prop
  | done {slot : Option Nat} : Replays slot [] slot
  | published {slot last : Option Nat} {id : Nat} {event : Event} {marks : List Mark}
      (announces : event.Announces id slot) (rest : Replays (some id) marks last) :
      Replays slot (.told event :: marks) last
  | other {slot last : Option Nat} {event : Event} {marks : List Mark}
      (apart : event.subject ≠ Event.publicationSubject) (rest : Replays slot marks last) :
      Replays slot (.told event :: marks) last
  | cleared {slot last : Option Nat} {marks : List Mark} (rest : Replays none marks last) :
      Replays slot (.cleared :: marks) last

theorem Replays.append {first second third : Option Nat} {marks further : List Mark}
    (one : Replays first marks second) (two : Replays second further third) :
    Replays first (marks ++ further) third := by
  induction one with
  | done => exact two
  | published announces _ inductive_step => exact .published announces (inductive_step two)
  | other apart _ inductive_step => exact .other apart (inductive_step two)
  | cleared _ inductive_step => exact .cleared (inductive_step two)

namespace Mark

/-- The event that is told. -/
def event? : Mark → Option Event
  | .told event => some event
  | .cleared => none

/-- What becomes of the slot, if it changes. -/
def change? : Mark → Option (Option Nat)
  | .told event => event.publication?.map some
  | .cleared => some none

end Mark

/-- **The slot can be read off**: it is what its latest change has made of it. -/
theorem Replays.slot_eq {slot last : Option Nat} {marks : List Mark}
    (replays : Replays slot marks last) :
    last = (marks.filterMap Mark.change?).foldl (fun _ change => change) slot := by
  induction replays with
  | done => rfl
  | published announces _ inductive_step =>
    next slot last id event marks _ =>
    have change : (Mark.told event).change? = some (some id) :=
      congrArg (Option.map some) announces.publication?
    rw [List.filterMap_cons_some change]
    exact inductive_step
  | other apart _ inductive_step =>
    next slot last event marks _ =>
    have change : (Mark.told event).change? = none :=
      congrArg (Option.map some) (Event.publication?_eq_none apart)
    rw [List.filterMap_cons_none change]
    exact inductive_step
  | cleared _ inductive_step => exact inductive_step

/-- Events that are no publications. -/
theorem replays_others (slot : Option Nat) {events : List Event}
    (others : events.filterMap Event.publication? = []) :
    Replays slot (events.map .told) slot := by
  rw [List.filterMap_eq_nil_iff] at others
  induction events with
  | nil => exact .done
  | cons event rest inductive_step =>
    obtain ⟨first, later⟩ := List.forall_mem_cons.mp others
    exact .other (Event.subject_ne_of_publication? first) (inductive_step later)

/-- **What is added to the log**, which tells what becomes of the slot. -/
structure Scene.Logs (before after : Scene) (news : List Event) : Prop where
  log : after.host.log = before.host.log ++ news
  slot : Replays before.slot (news.map .told) after.slot

namespace Scene.Logs

variable {first second third : Scene} {news more : List Event}

theorem refl (scene : Scene) : scene.Logs scene [] :=
  ⟨(List.append_nil _).symm, .done⟩

theorem trans (one : first.Logs second news) (two : second.Logs third more) :
    first.Logs third (news ++ more) := by
  refine ⟨?_, ?_⟩
  · rw [two.log, one.log, List.append_assoc]
  · rw [List.map_append]
    exact one.slot.append two.slot

/-- Other things are told than publications, and the slot stays as it is. -/
theorem others (log : second.host.log = first.host.log ++ news) (slot : second.slot = first.slot)
    (others : news.filterMap Event.publication? = []) : first.Logs second news :=
  ⟨log, slot ▸ replays_others _ others⟩

theorem events (logs : first.Logs second news) : (Poll.mk first second).events = news := by
  rw [Poll.events, logs.log, List.drop_left]

end Scene.Logs

/-! ### What a call tells -/

/-- What a call in flight has told: nothing, if it has not looked for an instance, and its start
otherwise. -/
inductive Opened : Order → (announced : Bool) → List Event → Prop
  | silent {normal : NormalConfig} : Opened (.normal normal) false []
  | announced {value : Json} {config : Config} (kind : Config.ofJson value = .ok config) :
      Opened (.value value) true [.bootStarted config.kindName]

/-- **What a call has told**, by what it was made with, the instance that it found, and how it ended
if it has. -/
inductive Reported : Order → Option Nat → List Event → Option (Except BootFailure Nat) → Prop
  | mismatched {value : Json} {mismatch : KindMismatch}
      (kind : Config.ofJson value = .error mismatch) :
      Reported (.value value) none [] (some (.error (.configType mismatch)))
  | reused {value : Json} {config : Config} {id : Nat} (kind : Config.ofJson value = .ok config) :
      Reported (.value value) (some id) [.configUpdated id config.kindName, .bootReused id]
        (some (.ok id))
  | underway {order : Order} {announced : Bool} {tidings : List Event}
      (opened : Opened order announced tidings) : Reported order none tidings none
  | failed {order : Order} {announced : Bool} {tidings : List Event} {failure : BootFailure}
      (opened : Opened order announced tidings) :
      Reported order none (tidings ++ if announced then [.bootFailed failure] else [])
        (some (.error failure))
  | succeeded {order : Order} {announced : Bool} {tidings : List Event} {id : Nat}
      {occupant : Option Nat} (opened : Opened order announced tidings) :
      Reported order none
        (tidings ++ .published id occupant :: if announced then [.bootSucceeded id] else [])
        (some (.ok id))

/-- What a call that was polled has told, by its stage. -/
def Reporting (order : Order) (found : Option Nat) (tidings : List Event) : Stage → Prop
  | .fresh _ => False
  | .loading job _ _ => found = none ∧ Opened order job.announced tidings
  | .building job _ _ => found = none ∧ Opened order job.announced tidings
  | .starting job _ _ _ => found = none ∧ Opened order job.announced tidings
  | .finished result => Reported order found tidings (some result)

/-! ### Every stride -/

/-- What the loader tells before its answer is of no call. -/
theorem Service.answer_tidings (service : Service) (binary : Option String) :
    (service.answer binary).1.filter Event.isTiding = [] := by
  refine service.filter_answer binary fun event reading => ?_
  cases event <;> first | rfl | cases reading

/-- Nor is what an instance tells of its start. -/
theorem Instance.finishStart_tidings (target : Instance) (names : List String) :
    (target.finishStart names).2.1.filter Event.isTiding = [] := by
  unfold finishStart
  split
  · rfl
  · simp only [becomeReady]
    cases target.ready <;> rfl

/-- The end of a call is told if its start was. -/
theorem Service.logs_finish (service : Service) (job : Job) (result : Except BootFailure Nat) :
    service.scene.Logs (service.finish job result).service.scene
      (if job.announced then [Event.closing result] else []) := by
  rw [service_finish]
  refine .others rfl rfl ?_
  cases job.announced with
  | false => rfl
  | true => cases result <;> rfl

/-- A publication is told with what was published before. -/
theorem Service.logs_publish (service : Service) (id : Nat) :
    service.scene.Logs (service.publish id).scene [.published id service.slot] :=
  ⟨rfl, .published (Event.announces_published id service.slot) .done⟩

theorem filter_closing (announced : Bool) (result : Except BootFailure Nat) :
    (if announced then [Event.closing result] else []).filter Event.isTiding =
      if announced then [Event.closing result] else [] := by
  cases announced with
  | false => rfl
  | true => cases result <;> rfl

namespace Reporting

variable {order : Order} {found : Option Nat} {tidings : List Event} {before after : Progress}

/-- **The first stride of a call.** -/
theorem first {service : Service} (stride : Stride ⟨service, .fresh order⟩ after)
    (numbered : service.host.Numbered)
    (published : ∀ id, service.slot = some id → ∃ target, service.host.find? id = some target) :
    ∃ news, service.scene.Logs after.service.scene news ∧
      Reporting order (if order.looks then service.slot else none) (news.filter Event.isTiding)
        after.stage := by
  have empty : ∀ config, service.reuse? config = none → service.slot = none :=
    fun config missing => Service.slot_eq_none_of_missing published missing
  cases stride with
  | mismatched kind =>
    next value mismatch =>
    have blind : (Order.value value).looks = false := by
      rw [Order.looks, kind]
      rfl
    rw [blind]
    exact ⟨[], .refl _, .mismatched kind⟩
  | reused kind there =>
    obtain ⟨target, rfl, slot, _, rfl⟩ := Service.reuse?_published numbered there
    rw [Order.looks_of_ofJson kind, if_pos rfl, slot]
    exact ⟨[.configUpdated target.id _, .bootReused target.id],
      .others (List.append_assoc _ _ _) rfl rfl, .reused kind⟩
  | unresolved kind missing failed =>
    next value config fault =>
    rw [empty _ missing, ite_self]
    exact ⟨[.bootStarted config.kindName, .bootFailed (.config fault)],
      .others (List.append_assoc _ _ _) rfl rfl, .failed (.announced kind)⟩
  | announced kind missing resolved telling =>
    next told value config normal =>
    subst telling
    have silent := (service.log [.bootStarted config.kindName]).answer_tidings normal.modulePath
    rw [empty _ missing, ite_self]
    refine ⟨.bootStarted config.kindName ::
        ((service.log [.bootStarted config.kindName]).answer normal.modulePath).1,
      .others (List.append_assoc _ _ _) rfl ?_, rfl, ?_⟩
    · rw [List.filterMap_cons_none rfl]
      exact publications_of_quiet silent
    · rw [List.filter_cons_of_pos rfl, silent]
      exact .announced kind
  | direct =>
    next normal =>
    have silent := service.answer_tidings normal.modulePath
    refine ⟨(service.answer normal.modulePath).1,
      .others rfl rfl (publications_of_quiet silent), rfl, ?_⟩
    rw [silent]
    exact .silent

/-- Nothing is told of the call. -/
theorem still {stage : Stage} {news : List Event} (reporting : Reporting order found tidings stage)
    (quiet : news.filter Event.isTiding = []) :
    Reporting order found (tidings ++ news.filter Event.isTiding) stage := by
  rw [quiet, List.append_nil]
  exact reporting

/-- A call fails. -/
theorem fail (service : Service) (job : Job) (failure : BootFailure) (missing : found = none)
    (opened : Opened order job.announced tidings) :
    ∃ news, service.scene.Logs (service.finish job (.error failure)).service.scene news ∧
      Reported order found (tidings ++ news.filter Event.isTiding) (some (.error failure)) := by
  refine ⟨_, service.logs_finish job (.error failure), ?_⟩
  rw [filter_closing, missing]
  exact .failed opened

/-- **Every further stride.** -/
theorem stride (stride : Stride before after)
    (reporting : Reporting order found tidings before.stage) :
    ∃ news, before.service.scene.Logs after.service.scene news ∧
      Reporting order found (tidings ++ news.filter Event.isTiding) after.stage := by
  cases stride with
  | mismatched => exact reporting.elim
  | reused => exact reporting.elim
  | unresolved => exact reporting.elim
  | announced => exact reporting.elim
  | direct => exact reporting.elim
  | waitLoading => exact ⟨[], .refl _, still reporting rfl⟩
  | notLoaded failed => exact fail _ _ _ reporting.1 reporting.2
  | loaded succeeded => exact ⟨[.moduleLoaded _], .others rfl rfl rfl, still reporting rfl⟩
  | waitBuilding => exact ⟨[], .refl _, still reporting rfl⟩
  | notBuilt failed => exact fail _ _ _ reporting.1 reporting.2
  | built making planned =>
    exact ⟨[.instanceConstructed _], .others rfl rfl rfl, still reporting rfl⟩
  | waitStarting => exact ⟨[], .refl _, still reporting rfl⟩
  | notStarted failed =>
    next service job id names changed events refusal =>
    have silent := (service.host.get id).finishStart_tidings names
    rw [failed] at silent
    have refused : service.scene.Logs (service.replace changed events).scene events :=
      .others rfl rfl (publications_of_quiet silent)
    obtain ⟨closing, logs, reported⟩ := fail (service.replace changed events) job
      (.construction refusal) reporting.1 reporting.2
    refine ⟨events ++ closing, refused.trans logs, ?_⟩
    rw [List.filter_append, silent]
    exact reported
  | started succeeded =>
    next service job id names changed events =>
    obtain ⟨rfl, opened⟩ := reporting
    have silent := (service.host.get id).finishStart_tidings names
    rw [succeeded] at silent
    have readied : service.scene.Logs (service.replace changed events).scene events :=
      .others rfl rfl (publications_of_quiet silent)
    have publishes := (service.replace changed events).logs_publish id
    have closes := ((service.replace changed events).publish id).logs_finish job (.ok id)
    refine ⟨_, readied.trans (publishes.trans closes), ?_⟩
    rw [List.filter_append, silent, List.filter_append, filter_closing]
    exact .succeeded opened

/-- **Strides in a row.** -/
theorem strides (chain : Strides before after)
    (reporting : Reporting order found tidings before.stage) :
    ∃ news, before.service.scene.Logs after.service.scene news ∧
      Reporting order found (tidings ++ news.filter Event.isTiding) after.stage := by
  induction chain with
  | refl => exact ⟨[], .refl _, still reporting rfl⟩
  | tail earlier stride inductive_step =>
    obtain ⟨news, logs, middle⟩ := inductive_step
    obtain ⟨more, further, later⟩ := middle.stride stride
    refine ⟨news ++ more, logs.trans further, ?_⟩
    rw [List.filter_append, ← List.append_assoc]
    exact later

/-- **A call from its beginning**, to whatever stage. -/
theorem ofFresh {service : Service} {reached : Progress}
    (stride : Stride ⟨service, .fresh order⟩ reached) (chain : Strides reached after)
    (numbered : service.host.Numbered)
    (published : ∀ id, service.slot = some id → ∃ target, service.host.find? id = some target) :
    ∃ news, service.scene.Logs after.service.scene news ∧
      Reporting order (if order.looks then service.slot else none) (news.filter Event.isTiding)
        after.stage := by
  obtain ⟨news, logs, middle⟩ := first stride numbered published
  obtain ⟨more, further, later⟩ := middle.strides chain
  refine ⟨news ++ more, logs.trans further, ?_⟩
  rw [List.filter_append]
  exact later

end Reporting

/-! ### Lives -/

/-- A call that has not ended has published nothing. -/
theorem Opened.publications {order : Order} {announced : Bool} {tidings : List Event}
    (opened : Opened order announced tidings) : tidings.filterMap Event.publication? = [] := by
  cases opened <;> rfl

namespace Life

/-- What the log has gained in the polls of a call so far. -/
def news (life : Life) : List Event :=
  life.polls.flatMap Poll.events

/-- What the log has been told of calls and of the slot in the polls of a call so far. -/
def tidings (life : Life) : List Event :=
  life.news.filter Event.isTiding

/-- **A call that has been polled tells what it should.** -/
structure Reports (life : Life) (stage : Stage) : Prop where
  begun : life.polls ≠ []
  reporting : Reporting life.order life.found life.tidings stage

variable {life : Life} {service : Service} {stage : Stage} {order : Order} {news : List Event}

theorem news_add (life : Life) {before after : Scene} (logs : before.Logs after news) :
    (life.add ⟨before, after⟩).news = life.news ++ news := by
  rw [Life.news, add, List.flatMap_append, List.flatMap_singleton, logs.events]
  rfl

/-- The first poll of a call. -/
theorem reports_begin (numbered : service.host.Numbered)
    (published : ∀ id, service.slot = some id → ∃ target, service.host.find? id = some target)
    (order : Order) :
    ∃ news, service.scene.Logs (service.begin order).service.scene news ∧
      ((Life.mk order []).add ⟨service.scene, (service.begin order).service.scene⟩).Reports
        (service.begin order).stage := by
  obtain ⟨reached, stride, chain⟩ := service.strides_begin order
  obtain ⟨news, logs, reporting⟩ := Reporting.ofFresh stride chain numbered published
  refine ⟨news, logs, List.cons_ne_nil _ _, ?_⟩
  rw [tidings, news_add _ logs]
  exact reporting

/-- **Every further poll.** -/
theorem Reports.poll (reports : life.Reports stage) (service : Service) :
    ∃ news, service.scene.Logs (service.poll stage).service.scene news ∧
      (life.add ⟨service.scene, (service.poll stage).service.scene⟩).Reports
        (service.poll stage).stage := by
  obtain ⟨news, logs, reporting⟩ := reports.reporting.strides (service.strides_poll stage)
  refine ⟨news, logs, List.append_ne_nil_of_right_ne_nil _ (List.cons_ne_nil _ _), ?_⟩
  rw [tidings, news_add _ logs, found_add_of_polls_ne_nil reports.begun, List.filter_append]
  exact reporting

/-- Polls in a row. -/
theorem Reports.polls_trail (count : Nat) (reports : life.Reports stage) (service : Service) :
    ∃ news, service.scene.Logs (Service.polls ⟨service, stage⟩ count).service.scene news ∧
      (Life.mk life.order (life.polls ++ Progress.trail ⟨service, stage⟩ count)).news =
        life.news ++ news ∧
      (Life.mk life.order (life.polls ++ Progress.trail ⟨service, stage⟩ count)).Reports
        (Service.polls ⟨service, stage⟩ count).stage := by
  refine trail_induction (fun further progress => ∃ news,
    service.scene.Logs progress.service.scene news ∧ further.news = life.news ++ news ∧
      further.Reports progress.stage) (fun further now stage _ before => ?_) count
    ⟨[], .refl _, (List.append_nil _).symm, reports⟩
  obtain ⟨news, logs, told, reports⟩ := before
  obtain ⟨more, logs_more, later⟩ := reports.poll now
  refine ⟨news ++ more, logs.trans logs_more, ?_, later⟩
  rw [news_add further logs_more, told, List.append_assoc]

/-- **A call from its beginning to its end.** -/
theorem reports_complete (numbered : service.host.Numbered)
    (published : ∀ id, service.slot = some id → ∃ target, service.host.find? id = some target)
    (order : Order) :
    service.scene.Logs (service.complete order).service.scene (service.completion order).news ∧
      (service.completion order).Reports (service.complete order).stage := by
  obtain ⟨news, logs, begins⟩ := reports_begin numbered published order
  obtain ⟨more, further, told, reports⟩ :=
    begins.polls_trail (service.begin order).stage.remaining (service.begin order).service
  refine ⟨?_, reports⟩
  have whole : (service.completion order).news = news ++ more := by
    rw [news_add _ logs] at told
    exact told
  rw [whole]
  exact logs.trans further

/-- A call in flight has published nothing. -/
theorem Reports.publications_of_unfinished (reports : life.Reports stage)
    (unfinished : stage.Unfinished) : life.tidings.filterMap Event.publication? = [] := by
  have reporting := reports.reporting
  cases stage with
  | fresh order => exact reporting.elim
  | loading job plan pauses => exact reporting.2.publications
  | building job plan pauses => exact reporting.2.publications
  | starting job id names pauses => exact reporting.2.publications
  | finished result => exact unfinished.elim

/-- **A call publishes the instance that it comes to without having found it**, and no other. -/
theorem Reports.publications {result : Except BootFailure Nat}
    (reports : life.Reports (.finished result)) :
    life.tidings.filterMap Event.publication? =
      (Happening.ended life result).delivery?.toList := by
  obtain ⟨order, polls⟩ := life
  have reporting : Reported order _ _ (some result) := reports.reporting
  -- a call has published its instance if and only if it has found none
  generalize known : (Life.mk order polls).found = found at reporting
  generalize (Life.mk order polls).tidings = tidings at reporting ⊢
  cases reporting with
  | mismatched kind => rfl
  | reused kind =>
    show [] = Option.toList (if (Life.mk _ polls).found = none then some _ else none)
    rw [known, if_neg (Option.some_ne_none _)]
    rfl
  | failed opened =>
    next announced told failure =>
    rw [List.filterMap_append, opened.publications]
    cases announced <;> rfl
  | succeeded opened =>
    next announced told id occupant =>
    show _ = Option.toList (if (Life.mk _ polls).found = none then some _ else none)
    rw [known, if_pos rfl, List.filterMap_append, opened.publications]
    cases announced <;> rfl

end Life

/-! ### What the lines say -/

/-- What a line tells: what happened, how it went, and one of its further keys with its value. -/
structure Event.Reads (event : Event) (subject status : String)
    (detail : Labels → String × String) : Prop where
  subject : event.subject = subject
  status : event.status = status
  detail : ∀ labels, detail labels ∈ event.details labels

/-- The identifier of an instance in a line. -/
def identified (id : Nat) (labels : Labels) : String × String :=
  ("instance_id", labels.identify id)

/-- What is told of a call after its start. -/
def ToldOfEnd (told : List Event) : Option (Except BootFailure Nat) → Prop
  | none => told = []
  | some (.error failure) => ∃ last, told = [last] ∧
      last.Reads Event.bootstrapSubject "error" fun _ => ("error_code", failure.code)
  | some (.ok id) => ∃ publication last, told = [publication, last] ∧
      publication.Reads Event.publicationSubject "ok" (identified id) ∧
      last.Reads Event.bootstrapSubject "ok" (identified id)

/-- **What the log tells of a call** that was polled, by what it was made with, the instance that it
found, and what it has come to if it has ended. -/
structure Told (order : Order) (found : Option Nat) (tidings : List Event)
    (ending : Option (Except BootFailure Nat)) : Prop where
  /-- Its value is no configuration. -/
  mismatched : ∀ value mismatch, order = .value value → Config.ofJson value = .error mismatch →
    ending = some (.error (.configType mismatch)) ∧ tidings = []
  /-- It finds an instance. -/
  reused : ∀ value config id, order = .value value → Config.ofJson value = .ok config →
    found = some id → ending = some (.ok id) ∧ ∃ update reuse, tidings = [update, reuse] ∧
      update.Reads Event.updateSubject "ok" (identified id) ∧
      reuse.Reads Event.bootstrapSubject "reuse" (identified id)
  /-- It finds no instance. -/
  announced : ∀ value config, order = .value value → Config.ofJson value = .ok config →
    found = none → ∃ start rest, tidings = start :: rest ∧
      start.Reads Event.bootstrapSubject "start" (fun _ => ("config_kind", config.kindName)) ∧
      ToldOfEnd rest ending
  /-- It does not look for one. -/
  direct : ∀ normal, order = .normal normal →
    ∀ event ∈ tidings, event.subject = Event.publicationSubject

theorem reads_published (id : Nat) (occupant : Option Nat) :
    (Event.published id occupant).Reads Event.publicationSubject "ok" (identified id) := by
  refine ⟨rfl, rfl, fun labels => ?_⟩
  rw [(Event.announces_published id occupant).details]
  exact List.mem_cons_self

section

variable {order : Order} {found : Option Nat} {announced : Bool} {tidings rest : List Event}
  {ending : Option (Except BootFailure Nat)}

/-- What is told of a call that has found no instance, with what is told after its start. -/
theorem Opened.told (opened : Opened order announced tidings)
    (loud : announced = true → ToldOfEnd rest ending)
    (silent : announced = false → ∀ event ∈ rest, event.subject = Event.publicationSubject) :
    Told order none (tidings ++ rest) ending := by
  cases opened with
  | silent => exact ⟨nofun, nofun, nofun, fun _ _ => silent rfl⟩
  | announced kind =>
    next value config =>
    refine ⟨?_, nofun, ?_, nofun⟩
    · rintro _ mismatch ⟨⟩ other
      cases kind.symm.trans other
    · rintro _ other ⟨⟩ same _
      cases kind.symm.trans same
      exact ⟨_, rest, rfl, ⟨rfl, rfl, fun _ => List.mem_cons_self⟩, loud rfl⟩

/-- **What a call has told can be read in the lines.** -/
theorem Reported.told (reported : Reported order found tidings ending) :
    Told order found tidings ending := by
  cases reported with
  | mismatched kind =>
    next value mismatch =>
    refine ⟨?_, ?_, ?_, nofun⟩
    · rintro _ other ⟨⟩ same
      cases kind.symm.trans same
      exact ⟨rfl, rfl⟩
    · rintro _ config id ⟨⟩ other
      cases kind.symm.trans other
    · rintro _ config ⟨⟩ other
      cases kind.symm.trans other
  | reused kind =>
    next value config id =>
    refine ⟨?_, ?_, nofun, nofun⟩
    · rintro _ mismatch ⟨⟩ other
      cases kind.symm.trans other
    · rintro _ other id ⟨⟩ same ⟨⟩
      exact ⟨rfl, _, _, rfl, ⟨rfl, rfl, fun _ => List.mem_cons_self⟩,
        rfl, rfl, fun _ => List.mem_cons_self⟩
  | underway opened =>
    rw [← List.append_nil tidings]
    exact opened.told (fun _ => rfl) fun _ => List.forall_mem_nil _
  | failed opened =>
    refine opened.told ?_ ?_
    · rintro rfl
      exact ⟨_, rfl, rfl, rfl, fun _ => List.mem_cons_of_mem _ List.mem_cons_self⟩
    · rintro rfl
      exact List.forall_mem_nil _
  | succeeded opened =>
    next announced told id occupant =>
    refine opened.told ?_ ?_
    · rintro rfl
      exact ⟨_, _, rfl, reads_published id occupant, rfl, rfl, fun _ => List.mem_cons_self⟩
    · rintro rfl event member
      rw [List.mem_singleton.mp member]
      rfl

end

/-- What a call has come to. -/
def Stage.result? : Stage → Option (Except BootFailure Nat)
  | .finished result => some result
  | _ => none

/-- **A call that was polled has told what it should.** -/
theorem Life.Reports.told {life : Life} {stage : Stage} (reports : life.Reports stage) :
    Told life.order life.found life.tidings stage.result? := by
  have reporting := reports.reporting
  cases stage with
  | fresh order => exact reporting.elim
  | loading job plan pauses => exact reporting.1 ▸ Reported.told (.underway reporting.2)
  | building job plan pauses => exact reporting.1 ▸ Reported.told (.underway reporting.2)
  | starting job id names pauses => exact reporting.1 ▸ Reported.told (.underway reporting.2)
  | finished result => exact Reported.told reporting

end InstanceHost
