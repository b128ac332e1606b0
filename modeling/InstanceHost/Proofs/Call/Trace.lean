/-
**The log as a trace of the slot and of every call.**

Whatever is done on a desk, the log says it all: with a mark where the slot is emptied, which nobody
tells, it can be read what is published at every moment, and what became of every call. Nothing but
publishing an instance tells of a publication, and nothing but calls of their starts, their reuses
and their ends; requests to instances, with all the hooks that they run, tell of neither.

* `Desk.trace`: what a schedule adds to the log, with marks where the slot is emptied;
* `Desk.changesFrom`: what a schedule makes of the slot, without a look at the log;
* `Relays`: what is told between two moments agrees with what is done between them;
* `Desk.proceeds_attempt`, `Desk.relays_run`: so it does in every action and in every schedule;
* `log_traces_schedule`: how the slot and the calls are read off the trace.
-/

import InstanceHost.Proofs.Call.Tidings

namespace InstanceHost

/-! ### Requests -/

/-- No request tells of a call or of the slot. -/
theorem Instance.perform_tidings (target : Instance) (request : Request) :
    (target.perform request).events.filter Event.isTiding = [] := by
  cases request with
  | set key value =>
    simp only [perform, Instance.set]
    split <;> rfl
  | check name =>
    simp only [perform]
    split <;> rfl
  | insert name extension =>
    simp only [perform, withRegistry]
    split <;> rfl
  | register name extension =>
    simp only [perform]
    split <;> rfl
  | unregister name =>
    simp only [perform]
    split <;> rfl
  | start =>
    have quiet : target.start.2.1.filter Event.isTiding = [] :=
      target.beginStart.finishStart_tidings target.names
    simp only [perform]
    split
    · next shape => rwa [shape] at quiet
    · next shape => rwa [shape] at quiet
  | _ => rfl

theorem Activation.conclude_tidings (activation : Activation) (target : Instance) :
    (activation.conclude target).events.filter Event.isTiding = [] := by
  unfold conclude
  split
  · rfl
  · split
    · rfl
    · split <;> rfl

namespace Session

theorem deliver_events (session : Session) (answer : Answer) :
    (session.deliver answer).events = session.events := by
  unfold deliver
  split <;> rfl

theorem ask_tidings (session : Session) (request : Request) :
    (session.ask request).events.filter Event.isTiding = session.events.filter Event.isTiding := by
  have quiet := session.target.perform_tidings request
  simp only [ask]
  split
  · rw [deliver_events, List.filter_append, quiet, List.append_nil]
  · rw [List.filter_append, quiet, List.append_nil]

theorem step_tidings (session : Session) :
    session.step.events.filter Event.isTiding = session.events.filter Event.isTiding := by
  unfold step
  split
  · rfl
  · next top outer shape =>
    split
    · rw [leave, deliver_events, List.filter_append, top.conclude_tidings, List.append_nil]
    · next request rest requests => exact ask_tidings _ request

theorem steps_tidings (session : Session) (count : Nat) :
    (session.steps count).events.filter Event.isTiding =
      session.events.filter Event.isTiding := by
  induction count generalizing session with
  | zero => rfl
  | succ count inductive_step => exact (inductive_step session.step).trans session.step_tidings

end Session

/-- Nor do the hooks that it runs. -/
theorem Instance.ask_tidings (target : Instance) (request : Request) :
    (target.ask request).events.filter Event.isTiding = [] :=
  (Session.steps_tidings _ _).trans (Session.ask_tidings (Session.start target) request)

/-! ### The trace of a schedule -/

namespace Mark

theorem filterMap_event?_told (news : List Event) : (news.map told).filterMap event? = news := by
  rw [List.filterMap_map]
  exact List.filterMap_some

theorem filterMap_change?_told (news : List Event) :
    (news.map told).filterMap change? = (news.filterMap Event.publication?).map some := by
  rw [List.filterMap_map, List.map_filterMap]
  rfl

end Mark

/-- The mark of an action that the log does not tell. -/
def Action.marks : Action → List Mark
  | .clear => [.cleared]
  | _ => []

theorem Action.filterMap_event?_marks (action : Action) (news : List Event) :
    (action.marks ++ news.map Mark.told).filterMap Mark.event? = news := by
  rw [List.filterMap_append, Mark.filterMap_event?_told]
  cases action <;> rfl

/-- The mark of an action, if it has one, and what is told while it is performed. -/
def Desk.marks (desk : Desk) (action : Action) : List Mark :=
  action.marks ++
    ((desk.attempt action).1.host.log.drop desk.service.host.log.length).map .told

/-- **The trace of a schedule**: the events that are told, and the times the slot is emptied. -/
def Desk.trace (desk : Desk) : List Action → List Mark
  | [] => []
  | action :: rest => desk.marks action ++ (desk.perform action).1.trace rest

/-- What has happened since an earlier history. -/
def History.since (history earlier : History) : List Happening :=
  history.past.take (history.past.length - earlier.past.length)

/-- **What an action makes of the slot**: an instance is published by hand, or by a call that comes
to an instance without having found it, or the slot is emptied. -/
def Desk.changes (desk : Desk) (history : History) : Action → List (Option Nat)
  | .publish id => if id ∈ desk.seen then [some id] else []
  | action =>
    ((history.follow desk.service action).since history).filterMap Happening.occupant?

/-- What a schedule makes of the slot, change by change. -/
def Desk.changesFrom (desk : Desk) (history : History) : List Action → List (Option Nat)
  | [] => []
  | action :: rest =>
    desk.changes history action ++
      (desk.perform action).1.changesFrom (history.follow desk.service action) rest

/-! ### What calls contribute -/

/-- The events that tell of the start, the reuse or the end of a call. -/
def Event.isBootstrap (event : Event) : Bool :=
  event.subject = bootstrapSubject

/-- What the log tells of the start, the reuse and the end of a call, in its own polls. -/
def Life.bootstraps (life : Life) : List Event :=
  life.news.filter Event.isBootstrap

namespace History

/-- What the log tells of all calls, call by call. -/
def bootstraps (history : History) : List Event :=
  history.lives.flatMap Life.bootstraps

variable {history : History} {running : Keyed Life} {call : String} {life : Life}

theorem bootstraps_cons {past : List Happening} {happening : Happening}
    (which : happening.life? = some life) :
    bootstraps ⟨running, happening :: past⟩ = life.bootstraps ++ bootstraps ⟨running, past⟩ := by
  rw [bootstraps, lives, List.filterMap_cons_some which]
  rfl

/-- A call that is polled, or made, and the other calls. -/
theorem bootstraps_of_perm {before after : Keyed Life} (past : List Happening)
    (same : before.Perm ((call, life) :: after)) :
    (bootstraps ⟨before, past⟩).Perm (life.bootstraps ++ bootstraps ⟨after, past⟩) := by
  have lives : (lives ⟨before, past⟩).Perm (life :: lives ⟨after, past⟩) :=
    ((same.map (·.2)).append_left _).trans List.perm_middle
  exact lives.flatMap_right _

theorem bootstraps_forsake (history : History) (call : String) :
    (bootstraps ⟨history.running.erase call, history.forsake call⟩).Perm history.bootstraps := by
  unfold forsake
  cases known : history.running.lookup call with
  | none =>
    rw [Keyed.erase_of_lookup_eq_none known]
  | some life =>
    rw [bootstraps_cons rfl]
    exact (bootstraps_of_perm _ (Keyed.perm_erase known)).symm

theorem bootstraps_make (history : History) (call : String) (order : Order) :
    (history.make call order).bootstraps.Perm history.bootstraps :=
  (bootstraps_of_perm _ (Keyed.insert_perm call _ history.running)).trans
    (history.bootstraps_forsake call)

theorem since_cons (running : Keyed Life) (happening : Happening) (history : History) :
    since ⟨running, happening :: history.past⟩ history = [happening] := by
  rw [since, List.length_cons, Nat.add_sub_cancel_left]
  rfl

theorem since_past (running : Keyed Life) (history : History) :
    since ⟨running, history.past⟩ history = [] := by
  rw [since, Nat.sub_self, List.take_zero]

/-- A call that is abandoned makes nothing of the slot. -/
theorem changes_forsake (running : Keyed Life) (history : History) (call : String) :
    (since ⟨running, history.forsake call⟩ history).filterMap Happening.occupant? = [] := by
  unfold forsake
  cases history.running.lookup call with
  | none => rw [since_past, List.filterMap_nil]
  | some life =>
    rw [since_cons]
    rfl

end History

/-! ### What is told -/

/-- **What is told between two moments**: it is added to the log, it tells what becomes of the slot
and of nothing else that does, and it contributes to calls what the log tells of them. -/
structure Relays (history later : History) (service after : Service) (marks : List Mark)
    (changes : List (Option Nat)) : Prop where
  log : after.host.log = service.host.log ++ marks.filterMap Mark.event?
  slot : Replays service.slot marks after.slot
  changes : marks.filterMap Mark.change? = changes
  calls : later.bootstraps.Perm
    (history.bootstraps ++ (marks.filterMap Mark.event?).filter Event.isBootstrap)

namespace Relays

variable {first second third : History} {service middle after : Service} {marks more : List Mark}
  {changes further : List (Option Nat)} {news : List Event}

theorem refl (history : History) (service : Service) :
    Relays history history service service [] [] :=
  ⟨(List.append_nil _).symm, .done, rfl, .of_eq (List.append_nil _).symm⟩

theorem trans (one : Relays first second service middle marks changes)
    (two : Relays second third middle after more further) :
    Relays first third service after (marks ++ more) (changes ++ further) := by
  refine ⟨?_, one.slot.append two.slot, ?_, ?_⟩
  · rw [two.log, one.log, List.filterMap_append, List.append_assoc]
  · rw [List.filterMap_append, one.changes, two.changes]
  · rw [List.filterMap_append, List.filter_append, ← List.append_assoc]
    exact two.calls.trans (one.calls.append_right _)

theorem of_logs (logs : service.scene.Logs after.scene news)
    (changed : (news.filterMap Event.publication?).map some = changes)
    (calls : second.bootstraps.Perm (first.bootstraps ++ news.filter Event.isBootstrap)) :
    Relays first second service after (news.map .told) changes := by
  refine ⟨?_, logs.slot, ?_, ?_⟩
  · rw [Mark.filterMap_event?_told]
    exact logs.log
  · rw [Mark.filterMap_change?_told]
    exact changed
  · rw [Mark.filterMap_event?_told]
    exact calls

end Relays

/-! ### Calls in flight -/

/-- **A call in flight that has not been polled yet or tells what it should.** -/
inductive Life.Followed : Life → Stage → Prop
  | fresh {order : Order} : Followed ⟨order, []⟩ (.fresh order)
  | polled {life : Life} {stage : Stage} (reports : life.Reports stage) : Followed life stage

/-- A call that has ended or was abandoned has told what it should. -/
def Happening.Reports : Happening → Prop
  | .ended life result => life.Reports (.finished result)
  | .abandoned life => ∃ stage, stage.Unfinished ∧ life.Followed stage
  | .cleared => True

/-- **All calls of a history tell what they should.** -/
structure History.Reports (history : History) (service : Service) : Prop where
  running : Keyed.Matched Life.Followed history.running service.calls
  past : ∀ happening ∈ history.past, happening.Reports

/-- **What comes of a change**: it tells what it does, behind its own marks, and the calls go on to
tell what they should. -/
structure History.Proceeds (history later : History) (service after : Service) (own : List Mark)
    (changes : List (Option Nat)) : Prop where
  relays : ∃ news : List Event, Relays history later service after (own ++ news.map .told) changes
  reports : later.Reports after

theorem Event.isTiding_of_isBootstrap {event : Event} (bootstrap : event.isBootstrap = true) :
    event.isTiding = true := by
  rw [isTiding, of_decide_eq_true bootstrap]
  rfl

theorem bootstraps_of_quiet {news : List Event} (quiet : news.filter Event.isTiding = []) :
    news.filter Event.isBootstrap = [] := by
  rw [List.filter_eq_nil_iff] at quiet ⊢
  exact fun event member bootstrap =>
    quiet event member (Event.isTiding_of_isBootstrap bootstrap)

namespace Life

variable {life : Life} {service : Service} {stage : Stage}

theorem bootstraps_add (life : Life) {before after : Scene} {news : List Event}
    (logs : before.Logs after news) :
    (life.add ⟨before, after⟩).bootstraps = life.bootstraps ++ news.filter Event.isBootstrap := by
  rw [bootstraps, news_add life logs, List.filter_append]
  rfl

/-- A call in flight has published nothing yet. -/
theorem Followed.publications (followed : life.Followed stage) (unfinished : stage.Unfinished) :
    life.news.filterMap Event.publication? = [] := by
  cases followed with
  | fresh => rfl
  | polled reports =>
    rw [← publications_filter]
    exact reports.publications_of_unfinished unfinished

/-- **Every poll of a call in flight** tells what it should, and all that it publishes. -/
theorem Followed.poll (followed : life.Followed stage) (unfinished : stage.Unfinished)
    (numbered : service.host.Numbered)
    (published : ∀ id, service.slot = some id → ∃ target, service.host.find? id = some target) :
    let further := life.add ⟨service.scene, (service.poll stage).service.scene⟩
    ∃ news, service.scene.Logs (service.poll stage).service.scene news ∧
      further.Reports (service.poll stage).stage ∧
      further.tidings.filterMap Event.publication? = news.filterMap Event.publication? := by
  intro further
  have polled : ∃ news, service.scene.Logs (service.poll stage).service.scene news ∧
      further.Reports (service.poll stage).stage := by
    cases followed with
    | fresh => exact reports_begin numbered published _
    | polled reports => exact reports.poll service
  obtain ⟨news, logs, reports⟩ := polled
  refine ⟨news, logs, reports, ?_⟩
  rw [tidings, publications_filter, news_add life logs, List.filterMap_append,
    followed.publications unfinished, List.nil_append]

end Life

/-! ### Every action -/

theorem Happening.map_delivery?_ended (life : Life) (result : Except BootFailure Nat) :
    (Happening.ended life result).delivery?.toList.map some =
      [Happening.ended life result].filterMap Happening.occupant? := by
  rw [List.filterMap_cons, Happening.occupant?_ended]
  cases (Happening.ended life result).delivery? <;> rfl

namespace Relays

variable {history later : History} {service after : Service} {news : List Event}

/-- Nothing is told of calls or of the slot. -/
theorem silent (same : after.scene = service.scene)
    (calls : later.bootstraps.Perm history.bootstraps) :
    Relays history later service after [] [] := by
  have logs : service.scene.Logs after.scene [] := same ▸ .refl _
  refine of_logs logs rfl ?_
  rw [List.filter_nil, List.append_nil]
  exact calls

/-- One call goes on. -/
theorem of_call {life further : Life} {others : List Event} {changes : List (Option Nat)}
    (logs : service.scene.Logs after.scene news)
    (changed : (news.filterMap Event.publication?).map some = changes)
    (told : further.bootstraps = life.bootstraps ++ news.filter Event.isBootstrap)
    (earlier : history.bootstraps.Perm (life.bootstraps ++ others))
    (now : later.bootstraps.Perm (further.bootstraps ++ others)) :
    Relays history later service after (news.map .told) changes := by
  refine of_logs logs changed (now.trans ?_)
  rw [told, List.append_assoc]
  refine (List.perm_append_comm.append_left _).trans ?_
  rw [← List.append_assoc]
  exact earlier.symm.append_right _

end Relays

namespace History.Reports

variable {history : History} {service changed : Service}

section

variable {changes : List (Option Nat)} (reports : history.Reports service) (still : changes = [])

include reports still

/-- A change beside the slot and the calls, which tells of other things. -/
theorem beside {news : List Event} (logs : service.scene.Logs changed.scene news)
    (calls : changed.calls = service.calls)
    (unpublished : news.filterMap Event.publication? = [])
    (uncalled : news.filter Event.isBootstrap = []) :
    history.Proceeds history service changed [] changes := by
  refine ⟨⟨news, .of_logs logs ?_ ?_⟩, calls ▸ reports.running, reports.past⟩
  · rw [unpublished, List.map_nil, still]
  · rw [uncalled, List.append_nil]

/-- A change beside the slot and the calls, of which nothing is told. -/
theorem untold (log : changed.host.log = service.host.log) (slot : changed.slot = service.slot)
    (calls : changed.calls = service.calls) :
    history.Proceeds history service changed [] changes := by
  have logs : service.scene.Logs changed.scene [] :=
    .others (log.trans (List.append_nil _).symm) slot rfl
  exact reports.beside still logs calls rfl rfl

/-- A configuration is written into the published instance. -/
theorem ensure (value : Json) :
    history.Proceeds history service (service.ensure value).1 [] changes := by
  unfold Service.ensure
  split
  · exact reports.untold still rfl rfl rfl
  · next config kind =>
    split
    · exact reports.untold still rfl rfl rfl
    · next changed id found =>
      obtain ⟨target, _, _, rfl⟩ := Service.reuse?_eq_some found
      have logs : service.scene.Logs (service.replace (target.set configurationKey config.toJson).1
          [.configUpdated id config.kindName]).scene [.configUpdated id config.kindName] :=
        .others rfl rfl rfl
      exact reports.beside still logs rfl rfl rfl

/-- An instance is built by hand. -/
theorem create (text : String) :
    history.Proceeds history service (service.create text).1 [] changes := by
  unfold Service.create
  split <;> exact reports.untold still rfl rfl rfl

/-- An instance gets a request. -/
theorem askInstance (id : Nat) (request : Request) :
    history.Proceeds history service (service.askInstance id request).1 [] changes := by
  unfold Service.askInstance
  split
  · exact reports.untold still rfl rfl rfl
  · next found stored =>
    have quiet := found.ask_tidings request
    have logs : service.scene.Logs
        (service.replace (found.ask request).target (found.ask request).events).scene
        (found.ask request).events := .others rfl rfl (publications_of_quiet quiet)
    exact reports.beside still logs rfl (publications_of_quiet quiet) (bootstraps_of_quiet quiet)

/-- A file is taken away. -/
theorem delete (path : String) :
    history.Proceeds history service (service.act (.delete path)).1 [] changes := by
  rw [Service.act]
  split <;> exact reports.untold still rfl rfl rfl

end

variable (reports : history.Reports service) (tidy : service.Tidy)

include reports tidy

theorem forsake (call : String) : ∀ happening ∈ history.forsake call, happening.Reports := by
  unfold History.forsake
  rcases reports.running.lookup call with ⟨unknown, _⟩ | ⟨life, stage, known, present, followed⟩
  · rw [unknown]
    exact reports.past
  · rw [known]
    exact List.forall_mem_cons.mpr
      ⟨⟨stage, tidy.unfinished stage (Service.Tidy.mem_stages present), followed⟩, reports.past⟩

/-- A call is made. -/
theorem make (call : String) (order : Order) :
    history.Proceeds (history.make call order) service (service.make call order).1 []
      (((history.make call order).since history).filterMap Happening.occupant?) := by
  refine ⟨⟨[], ?_⟩, reports.running.insert .fresh, reports.forsake tidy call⟩
  rw [History.make, history.changes_forsake]
  exact .silent rfl (history.bootstraps_make call order)

/-- A call is abandoned. -/
theorem drop (call : String) :
    history.Proceeds ⟨history.running.erase call, history.forsake call⟩ service
      { service with calls := service.calls.erase call } []
      ((since ⟨history.running.erase call, history.forsake call⟩ history).filterMap
        Happening.occupant?) := by
  refine ⟨⟨[], ?_⟩, reports.running.erase, reports.forsake tidy call⟩
  rw [history.changes_forsake]
  exact .silent rfl (history.bootstraps_forsake call)

variable (published : ∀ id, service.slot = some id → service.Known id)

include published

/-- A call is polled. -/
theorem pollCall (call : String) :
    history.Proceeds (history.pollCall service call) service (service.pollCall call).1 []
      (((history.pollCall service call).since history).filterMap Happening.occupant?) := by
  rcases reports.running.lookup call with
    ⟨unknown, absent⟩ | ⟨life, stage, known, present, followed⟩
  · rw [History.pollCall, Service.pollCall, unknown, absent, History.since_past]
    exact ⟨⟨[], .refl _ _⟩, reports⟩
  · obtain ⟨news, logs, further, publishes⟩ := followed.poll
      (tidy.unfinished stage (Service.Tidy.mem_stages present)) tidy.numbered
      fun id slot => (published id slot).exists_find?
    -- only this call has told more; the others are `history.running.erase call` before and after
    have told := life.bootstraps_add logs
    have earlier := History.bootstraps_of_perm history.past (Keyed.perm_erase known)
    have calls := service.poll_calls stage
    rw [History.pollCall, Service.pollCall, known, present]
    simp only
    generalize service.poll stage = progress at logs further publishes told calls ⊢
    obtain ⟨after, reached⟩ := progress
    replace calls : after.calls = service.calls := calls
    rw [calls]
    cases reached with
    | finished result =>
      refine ⟨⟨news, .of_call logs ?_ told earlier ?_⟩, reports.running.erase,
        List.forall_mem_cons.mpr ⟨further, reports.past⟩⟩
      · rw [← publishes, further.publications, Happening.map_delivery?_ended, History.since_cons]
      · rw [History.bootstraps_cons rfl]
    | _ =>
      refine ⟨⟨news, .of_call logs ?_ told earlier ?_⟩, reports.running.insert (.polled further),
        reports.past⟩
      · rw [← publishes, further.publications_of_unfinished trivial, History.since_past]
        rfl
      · exact History.bootstraps_of_perm _ (Keyed.insert_perm call _ _)

/-- A call runs from its beginning to its end. -/
theorem complete (order : Order) :
    history.Proceeds (history.follow service (.complete order)) service
      (service.act (.complete order)).1 []
      (((history.follow service (.complete order)).since history).filterMap
        Happening.occupant?) := by
  obtain ⟨logs, whole⟩ := Life.reports_complete tidy.numbered
    (fun id slot => (published id slot).exists_find?) order
  obtain ⟨result, ended⟩ := complete_finished service order
  have calls := History.Kept.complete_calls service order
  have follows : history.follow service (.complete order) =
      ⟨history.running, .ended (service.completion order) result :: history.past⟩ := by
    simp only [History.follow, ended, Happening.ofStage]
  have acts : (service.act (.complete order)).1 = (service.complete order).service := by
    rw [Service.act]
    simp only [ended]
  rw [ended] at whole
  rw [follows, acts]
  refine ⟨⟨_, .of_logs logs ?_ ?_⟩, calls ▸ reports.running,
    List.forall_mem_cons.mpr ⟨whole, reports.past⟩⟩
  · rw [← publications_filter, History.since_cons, ← Happening.map_delivery?_ended,
      ← whole.publications]
    rfl
  · rw [History.bootstraps_cons rfl]
    exact List.perm_append_comm

end History.Reports

/-- **Every action tells what it does**, and the calls go on to tell what they should. -/
theorem Desk.proceeds_attempt {desk : Desk} {history : History}
    (reports : history.Reports desk.service) (orderly : desk.Orderly) (action : Action) :
    history.Proceeds (history.follow desk.service action) desk.service (desk.attempt action).1
      action.marks (desk.changes history action) := by
  obtain ⟨service, seen⟩ := desk
  have tidy : service.Tidy := orderly.tidy
  have published : ∀ id, service.slot = some id → service.Known id := orderly.published
  -- an action that leaves the history alone makes nothing of the slot
  have still : (history.since history).filterMap Happening.occupant? = [] := by
    rw [show history.since history = [] from history.since_past history.running]
    rfl
  cases action with
  | complete order => exact reports.complete tidy published order
  | ensure value => exact reports.ensure still value
  | spawn call value => exact reports.make tidy call (.value value)
  | prepare call config => exact reports.make tidy call (.normal config)
  | poll call => exact reports.pollCall tidy published call
  | drop call => exact reports.drop tidy call
  | create text => exact reports.create still text
  | publish id =>
    unfold Desk.attempt Desk.changes
    by_cases there : id ∈ seen
    · simp only [Action.addressed, if_pos there]
      refine ⟨⟨_, .of_logs (service.logs_publish id) rfl ?_⟩, reports.running, reports.past⟩
      exact .of_eq (List.append_nil _).symm
    · simp only [Action.addressed, if_neg there]
      exact reports.untold rfl rfl rfl rfl
  | clear =>
    refine ⟨⟨[], (List.append_nil _).symm, .cleared .done, ?_, ?_⟩, reports.running,
      List.forall_mem_cons.mpr ⟨trivial, reports.past⟩⟩
    · show [none] = (History.since ⟨history.running, .cleared :: history.past⟩ history).filterMap _
      rw [History.since_cons]
      rfl
    · exact .of_eq (List.append_nil _).symm
  | request id request =>
    unfold Desk.attempt
    by_cases there : id ∈ seen
    · simp only [Action.addressed, if_pos there]
      exact reports.askInstance still id request
    · simp only [Action.addressed, if_neg there]
      exact reports.untold still rfl rfl rfl
  | write change => exact reports.untold still rfl rfl rfl
  | delete path => exact reports.delete still path

/-! ### Every schedule -/

/-- A call of a history, with what it has come to if it has ended. -/
inductive History.CameTo (history : History) : Life → Option (Except BootFailure Nat) → Prop
  | ended {life : Life} {result : Except BootFailure Nat}
      (member : .ended life result ∈ history.past) : CameTo history life (some result)
  | abandoned {life : Life} (member : .abandoned life ∈ history.past) : CameTo history life none
  | running {life : Life} (member : life ∈ history.running.map (·.2)) : CameTo history life none

theorem Stage.result?_of_unfinished {stage : Stage} (unfinished : stage.Unfinished) :
    stage.result? = none := by
  cases stage with
  | finished result => exact unfinished.elim
  | _ => rfl

/-- A call in flight that has been polled has told what it should. -/
theorem Life.Followed.told {life : Life} {stage : Stage} (followed : life.Followed stage)
    (unfinished : stage.Unfinished) (begun : life.polls ≠ []) :
    Told life.order life.found life.tidings none := by
  cases followed with
  | fresh => exact absurd rfl begun
  | polled reports => exact Stage.result?_of_unfinished unfinished ▸ reports.told

theorem History.Reports.told {history : History} {service : Service}
    (reports : history.Reports service) (tidy : service.Tidy) {life : Life}
    {ending : Option (Except BootFailure Nat)} (came : history.CameTo life ending)
    (begun : life.polls ≠ []) : Told life.order life.found life.tidings ending := by
  cases came with
  | ended member => exact Life.Reports.told (reports.past _ member)
  | abandoned member =>
    obtain ⟨stage, unfinished, followed⟩ := reports.past _ member
    exact followed.told unfinished begun
  | running member =>
    obtain ⟨stage, there, followed⟩ := reports.running.exists_right member
    exact followed.told (tidy.unfinished stage there) begun

namespace Desk

variable {desk : Desk} {history : History}

theorem Unused.reports (unused : desk.Unused) : History.Reports ⟨[], []⟩ desk.service := by
  refine ⟨?_, List.forall_mem_nil _⟩
  rw [unused.calls]
  exact .nil

/-- **Every schedule tells what it does**, and its calls tell what they should. -/
theorem relays_run (reports : history.Reports desk.service) (orderly : desk.Orderly)
    (actions : List Action) :
    Relays history (desk.historyFrom history actions) desk.service (desk.run actions).1.service
        (desk.trace actions) (desk.changesFrom history actions) ∧
      (desk.historyFrom history actions).Reports (desk.run actions).1.service := by
  induction actions generalizing desk history with
  | nil => exact ⟨.refl _ _, reports⟩
  | cons action rest inductive_step =>
    obtain ⟨⟨news, relays⟩, further⟩ := proceeds_attempt reports orderly action
    obtain ⟨later, last⟩ := inductive_step further (orderly.perform action)
    -- the trace is cut out of the log, and nothing is taken back from the log
    have marks : desk.marks action = action.marks ++ news.map .told := by
      rw [Desk.marks, relays.log, action.filterMap_event?_marks, List.drop_left]
    refine ⟨?_, last⟩
    rw [trace, marks]
    exact relays.trans later

/-- A schedule that goes on only adds to the trace. -/
theorem trace_append (first second : List Action) :
    desk.trace (first ++ second) = desk.trace first ++ (desk.run first).1.trace second := by
  induction first generalizing desk with
  | nil => rfl
  | cons action rest inductive_step =>
    rw [List.cons_append, trace, trace, inductive_step, List.append_assoc]
    rfl

end Desk

/-- **The log is a faithful trace.** A desk that was not used runs a schedule of calls, publications
by hand, times when the slot is emptied, and whatever else; its trace is what the log gains, with a
mark where the slot is emptied.

Every publication in the trace is a warning with the instance that was in the slot just then, or no
warning and without one if the slot was empty; so at every moment the slot is what the trace so far
makes of it. The publications and marks in the trace are those of the schedule, one for each and in
their order.

Every call that was polled tells the following in its own polls. If its value is no configuration,
it tells nothing. If it finds an instance, it comes to it, and tells of it that its configuration
was rewritten and then that it was reused. Otherwise it tells of its start first; then, if it comes
to an instance, of the publication and of its success with this instance; if it fails, of its
failure with the code of the failure; and if it was abandoned or is in flight, of nothing more. All
that the trace tells of starts, reuses and ends of calls is told by these calls. -/
theorem log_traces_schedule (desk : Desk) (actions : List Action) (unused : desk.Unused) :
    let history := desk.history actions
    let trace := desk.trace actions
    (desk.run actions).1.service.host.log =
        desk.service.host.log ++ trace.filterMap Mark.event? ∧
      (∀ earlier later, actions = earlier ++ later →
        desk.trace earlier <+: trace ∧
        Replays none (desk.trace earlier) (desk.run earlier).1.service.slot ∧
        (desk.run earlier).1.service.slot =
          ((desk.trace earlier).filterMap Mark.change?).foldl (fun _ change => change) none) ∧
      trace.filterMap Mark.change? = desk.changesFrom ⟨[], []⟩ actions ∧
      (∀ life ending, history.CameTo life ending → life.polls ≠ [] →
        Told life.order life.found life.tidings ending) ∧
      history.bootstraps.Perm ((trace.filterMap Mark.event?).filter Event.isBootstrap) := by
  intro history trace
  have relays : ∀ actions, Relays ⟨[], []⟩ (desk.history actions) desk.service
      (desk.run actions).1.service (desk.trace actions) (desk.changesFrom ⟨[], []⟩ actions) :=
    fun actions => (Desk.relays_run unused.reports unused.orderly actions).1
  have reports : history.Reports (desk.run actions).1.service :=
    (Desk.relays_run unused.reports unused.orderly actions).2
  refine ⟨(relays actions).log, ?_, (relays actions).changes, ?_, (relays actions).calls⟩
  · rintro earlier later rfl
    have replays := (relays earlier).slot
    rw [unused.slot] at replays
    exact ⟨⟨_, (Desk.trace_append earlier later).symm⟩, replays, replays.slot_eq⟩
  · exact fun life ending came begun =>
      reports.told (Desk.tidy_run unused.tidy actions) came begun

/-- Three calls, then one with no configuration, and an instance that is published by hand. -/
def threeCallsThenPublish : List Action :=
  threeCalls ++ [.complete (.value .null), .publish 2]

/-- What the slot goes through in three calls and after them, what every call tells, the latest
first, and the instance that is displaced in the end. -/
theorem log_traces_schedule_then_publish :
    threeCallsDesk.Unused ∧
      (threeCallsDesk.trace threeCallsThenPublish).filterMap Mark.change? =
        [some 2, none, some 3, some 2] ∧
      (threeCallsDesk.history threeCallsThenPublish).lives.map Life.tidings =
        [[],
          [.bootStarted "structured", .published 3 none, .bootSucceeded 3],
          [.configUpdated 2 "structured", .bootReused 2],
          [.bootStarted "structured", .bootFailed (.construction (.reported "not today"))],
          [.bootStarted "structured"],
          [.bootStarted "structured", .published 2 none, .bootSucceeded 2]] ∧
      (threeCallsDesk.trace threeCallsThenPublish).getLast? =
        some (.told (.published 2 (some 3))) := by
  have changes : threeCallsDesk.changesFrom ⟨[], []⟩ threeCallsThenPublish =
      [some 2, none, some 3, some 2] := by
    decide +kernel
  have traces := log_traces_schedule threeCallsDesk threeCallsThenPublish threeCallsDesk_unused
  exact ⟨threeCallsDesk_unused, traces.2.2.1.trans changes, by decide +kernel, by decide +kernel⟩

end InstanceHost
