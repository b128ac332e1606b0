/-
**The order of polls does not matter, as long as the loader keeps loads apart.**

Once calls have begun to build instances, they share a slot, a list of instances and a loader. The
slot takes whatever is published last, and no call touches the instance that another one is
starting. This leaves the loader. If it keeps loads apart, each call does what can be foreseen of it
by itself, so two schedules that drive the same calls to their ends agree on everything but the
numbers of instances and on which of them was published last. If it does not, they may well differ.

* `Service.Stored`: an instance that no call in flight is starting, and that no poll changes;
* `Service.Moves`, `Turnout`: what a poll does to the others and to the call itself;
* `Driven`: what a schedule of polls does, poll by poll, with a tally for each call;
* `ends_as_forecast`: what a schedule comes to where the loader keeps to its plans;
* `SameEnds`, `ends_whatever_the_schedule`: two schedules compared;
* `different_ends_of_failing`: the comparison fails for a loader that does not keep loads apart.
-/

import InstanceHost.Proofs.Call.Publication
import InstanceHost.Proofs.Call.SharedLoader

namespace InstanceHost

/-! ### One poll -/

/-- **An instance that no call in flight is starting.** -/
def Service.Stored (service : Service) (id : Nat) (target : Instance) : Prop :=
  service.host.find? id = some target ∧ ∀ stage ∈ service.calls.stages, stage.own? ≠ some id

/-- **What a poll of a call does**, besides what it comes to: it leaves the other calls, the files
and all instances that are not being started alone, and asks for no load. -/
structure Service.Moves (service after : Service) (call : String) (builds : List String)
    (handed : List (List (List String))) (published : List Nat) : Prop where
  tidy : after.Tidy
  files : after.host.files = service.host.files
  binaries : after.record.binaries = service.record.binaries
  configs : after.record.configs = service.record.configs ++ builds
  starts : after.host.instances.map Instance.starts =
    service.host.instances.map Instance.starts ++ handed
  slot : after.slot = published.foldl (fun _ id => some id) service.slot
  lookup : ∀ other, other ≠ call → after.calls.lookup other = service.calls.lookup other
  load : ∀ other, other ≠ call → after.pendingLoad? other = service.pendingLoad? other
  stored : ∀ id target, service.Stored id target → after.Stored id target
  unseen : ∀ id ∈ published, ∀ target, ¬ service.Stored id target
  arrived : ∀ id ∈ published, ∃ target, after.Stored id target

/-- A result that bears out a forecast: the failure, or an instance with the configuration. -/
inductive Service.Meets (service : Service) :
    Except BootFailure (Option Json) → Except BootFailure Nat → Prop
  | failed {failure : BootFailure} : service.Meets (.error failure) (.error failure)
  | delivered {id : Nat} {target : Instance} (stored : service.Stored id target) :
      service.Meets (.ok target.config?) (.ok id)

/-- **What a poll of a call comes to**, on the course that the loader answers. -/
inductive Turnout (service after : Service) (call : String) (answer : PendingLoad → LoadCourse) :
    List String → List (List (List String)) → Outcome → Prop
  | absent (before : service.calls.lookup call = none) (now : after.calls.lookup call = none) :
      Turnout service after call answer [] [] .noCall
  | paused {load next : PendingLoad} {builds : List String} {handed : List (List (List String))}
      (before : service.pendingLoad? call = some load)
      (step : (load.redirect (answer load)).poll = .paused builds handed next)
      (now : after.pendingLoad? call = some next) :
      Turnout service after call answer builds handed .pending
  | ended {load : PendingLoad} {builds : List String} {handed : List (List (List String))}
      {forecast : Except BootFailure (Option Json)} {result : Except BootFailure Nat}
      (before : service.pendingLoad? call = some load)
      (step : (load.redirect (answer load)).poll = .ended builds handed forecast)
      (now : after.calls.lookup call = none) (meets : after.Meets forecast result) :
      Turnout service after call answer builds handed (.ended result)

section

variable {service after : Service} {call : String} {stage next : Stage} {builds : List String}
  {handed : List (List (List String))} {published : List Nat}

theorem Service.Tidy.mem_erase {other : String} {second : Stage} (tidy : service.Tidy)
    (different : other ≠ call) (there : service.calls.lookup other = some second) :
    second ∈ (service.calls.erase call).stages := by
  have kept : (service.calls.erase call).lookup other = some second := by
    rw [Keyed.lookup_erase_of_ne different tidy.ascending, there]
  exact (Keyed.stages_perm_erase kept).mem_iff.mpr List.mem_cons_self

/-- Two calls start different instances. -/
theorem Service.Tidy.own?_ne_of_ne {other : String} {second : Stage} {id : Nat}
    (tidy : service.Tidy) (different : other ≠ call)
    (present : service.calls.lookup call = some stage)
    (there : service.calls.lookup other = some second) (own : second.own? = some id) :
    stage.own? ≠ some id :=
  fun mine => tidy.own?_ne present mine (tidy.mem_erase different there) own

/-- **The other calls keep their loads.** -/
theorem pendingLoad?_of_passes {other : String} {calls : Keyed Stage} (tidy : service.Tidy)
    (present : service.calls.lookup call = some stage)
    (passes : service.Passes after stage.own? builds handed published)
    (different : other ≠ call) (same : calls.lookup other = service.calls.lookup other) :
    Service.pendingLoad? { after with calls := calls } other = service.pendingLoad? other := by
  unfold Service.pendingLoad?
  show (calls.lookup other).bind (Stage.pendingLoad? after.host) = _
  rw [same]
  cases there : service.calls.lookup other with
  | none => rfl
  | some second =>
    refine Stage.pendingLoad?_congr fun id own => ?_
    obtain ⟨target, found⟩ := tidy.exists_find? there own
    rw [passes.others id target (tidy.own?_ne_of_ne different present there own) found, found]

/-- **Instances that are not being started stay as they are.** -/
theorem stored_of_passes {calls : Keyed Stage} {id : Nat} {target : Instance}
    (present : service.calls.lookup call = some stage)
    (passes : service.Passes after stage.own? builds handed published)
    (reached : ∀ second ∈ calls.stages, second ∈ (service.calls.erase call).stages ∨
      ∀ other, second.own? = some other → service.host.Reaches stage.own? other)
    (stored : service.Stored id target) :
    Service.Stored { after with calls := calls } id target := by
  obtain ⟨found, apart⟩ := stored
  have mine := apart stage (Service.Tidy.mem_stages present)
  refine ⟨passes.others id target mine found, fun second member own => ?_⟩
  rcases reached second member with before | reaches
  · have earlier : second ∈ service.calls.stages :=
      (Keyed.stages_perm_erase present).mem_iff.mpr (List.mem_cons_of_mem _ before)
    exact apart second earlier own
  · rcases reaches id own with same | new
    · exact mine same
    · exact absurd (Host.lt_nextId_of_find? found) (Nat.not_lt.mpr new)

theorem Service.Moves.refl (tidy : service.Tidy) (call : String) :
    service.Moves service call [] [] [] :=
  ⟨tidy, rfl, rfl, (List.append_nil _).symm, (List.append_nil _).symm, rfl, fun _ _ => rfl,
    fun _ _ => rfl, fun _ _ stored => stored, List.forall_mem_nil _, List.forall_mem_nil _⟩

/-- A call in flight goes on. -/
theorem Service.Moves.proceed (tidy : service.Tidy)
    (present : service.calls.lookup call = some stage)
    (passes : service.Passes after stage.own? builds handed [])
    (files : after.host.files = service.host.files)
    (owned : ∀ id, next.own? = some id → service.host.Reaches stage.own? id)
    (final : Service.Tidy { after with calls := service.calls.insert call next }) :
    service.Moves { after with calls := service.calls.insert call next } call builds handed [] := by
  have lookup : ∀ other, other ≠ call →
      (service.calls.insert call next).lookup other = service.calls.lookup other :=
    fun other different => Keyed.lookup_insert_of_ne different next service.calls
  refine ⟨final, files, passes.binaries, passes.configs, passes.starts, passes.slot, lookup, ?_,
    fun id target stored => ?_, List.forall_mem_nil _, List.forall_mem_nil _⟩
  · exact fun other different =>
      pendingLoad?_of_passes tidy present passes different (lookup other different)
  · refine stored_of_passes present passes (fun second member => ?_) stored
    have same := (Keyed.stages_insert_perm call next service.calls).mem_iff.mp member
    rcases List.mem_cons.mp same with rfl | other
    · exact Or.inr owned
    · exact Or.inl other

/-- A call comes to its end. -/
theorem Service.Moves.conclude (tidy : service.Tidy)
    (present : service.calls.lookup call = some stage)
    (passes : service.Passes after stage.own? builds handed published)
    (files : after.host.files = service.host.files)
    (final : Service.Tidy { after with calls := service.calls.erase call })
    (unseen : ∀ id ∈ published, service.host.Reaches stage.own? id)
    (arrived : ∀ id ∈ published, ∃ target,
      Service.Stored { after with calls := service.calls.erase call } id target) :
    service.Moves { after with calls := service.calls.erase call } call builds handed
      published := by
  have lookup : ∀ other, other ≠ call →
      (service.calls.erase call).lookup other = service.calls.lookup other :=
    fun other different => Keyed.lookup_erase_of_ne different tidy.ascending
  refine ⟨final, files, passes.binaries, passes.configs, passes.starts, passes.slot, lookup, ?_,
    ?_, ?_, arrived⟩
  · exact fun other different =>
      pendingLoad?_of_passes tidy present passes different (lookup other different)
  · exact fun id target => stored_of_passes present passes fun _ member => Or.inl member
  · rintro id member target ⟨found, apart⟩
    rcases unseen id member with mine | new
    · exact apart stage (Service.Tidy.mem_stages present) mine
    · exact absurd (Host.lt_nextId_of_find? found) (Nat.not_lt.mpr new)

theorem Service.calls_eq_of_poll (polled : service.poll stage = ⟨after, next⟩) :
    after.calls = service.calls := by
  have same := service.poll_calls stage
  rwa [polled] at same

theorem Service.pollCall_of_unfinished (present : service.calls.lookup call = some stage)
    (polled : service.poll stage = ⟨after, next⟩) (unfinished : next.Unfinished) :
    service.pollCall call =
      ({ after with calls := service.calls.insert call next }, .pending) := by
  rw [pollCall, present]
  simp only [polled, calls_eq_of_poll polled]
  cases next with
  | finished result => exact unfinished.elim
  | _ => rfl

theorem Service.pollCall_of_finished {result : Except BootFailure Nat}
    (present : service.calls.lookup call = some stage)
    (polled : service.poll stage = ⟨after, .finished result⟩) :
    service.pollCall call =
      ({ after with calls := service.calls.erase call }, .ended result) := by
  rw [pollCall, present]
  simp only [polled, calls_eq_of_poll polled]

/-- A call that has run and is not done has a load. -/
theorem exists_pendingLoad? (host : Host) (begun : stage.Begun) (unfinished : stage.Unfinished) :
    ∃ load, stage.pendingLoad? host = some load := by
  cases stage with
  | fresh order => exact begun.elim
  | finished result => exact unfinished.elim
  | _ => exact ⟨_, rfl⟩

theorem begun_of_pendingLoad? {host : Host} {load : PendingLoad}
    (ahead : stage.pendingLoad? host = some load) : stage.Begun ∧ stage.Unfinished := by
  cases stage with
  | fresh order => cases ahead
  | finished result => cases ahead
  | _ => exact ⟨trivial, trivial⟩

/-- A poll of a load bears out what it comes to on its new course. -/
theorem moves_redirect {load : PendingLoad} {course : LoadCourse} (tidy : service.Tidy)
    (present : service.calls.lookup call = some stage)
    (ahead : stage.pendingLoad? service.host = some load) (answer : PendingLoad → LoadCourse)
    (answered : answer load = course) :
    let after := ((service.redirect call course).pollCall call).1
    let outcome := ((service.redirect call course).pollCall call).2
    ∃ builds handed, service.Moves after call builds handed outcome.shown ∧
      Turnout service after call answer builds handed outcome := by
  have before := (Service.pendingLoad?_of_lookup present).trans ahead
  have final := (tidy.redirect call course).pollCall call
  have files := (Strides.surroundings ((service.redirect call course).strides_poll
    (stage.redirect course))).2.trans (service.files_redirect call course)
  have foretold : Foretold service stage.own? (load.redirect course).poll
      ((service.redirect call course).poll (stage.redirect course)) :=
    foretold_redirect tidy present ahead
  generalize step : (load.redirect course).poll = bound at foretold
  generalize polled : (service.redirect call course).poll (stage.redirect course) = progress
    at foretold files
  subst answered
  cases foretold with
  | paused passes further owned =>
    next after reached next builds handed =>
    have same := Service.pollCall_of_unfinished (Service.lookup_redirect present) polled
      (begun_of_pendingLoad? further).2
    rw [Service.insert_redirect present] at same
    rw [same] at final ⊢
    refine ⟨builds, handed, .proceed tidy present passes files (fun id own => (owned id own).1)
      final, .paused before step ?_⟩
    exact (Service.pendingLoad?_of_lookup (Keyed.lookup_insert_self _ _ _)).trans further
  | failed passes =>
    next after failure builds handed =>
    have same := Service.pollCall_of_finished (Service.lookup_redirect present) polled
    rw [Service.erase_redirect present] at same
    rw [same] at final ⊢
    exact ⟨builds, handed, .conclude tidy present passes files final (List.forall_mem_nil _)
      (List.forall_mem_nil _), .ended before step (Keyed.lookup_erase_self tidy.ascending) .failed⟩
  | delivered passes reached found =>
    next after id target builds handed =>
    have same := Service.pollCall_of_finished (Service.lookup_redirect present) polled
    rw [Service.erase_redirect present] at same
    rw [same] at final ⊢
    have stored : Service.Stored { after with calls := service.calls.erase call } id target := by
      refine ⟨found, fun second member own => ?_⟩
      rcases reached with mine | new
      · exact tidy.own?_ne present mine member own
      · exact absurd ((tidy.erase call).built second member id own) (Nat.not_lt.mpr new)
    have moves := Service.Moves.conclude tidy present passes files final
      (fun _ member => List.mem_singleton.mp member ▸ reached)
      (fun _ member => List.mem_singleton.mp member ▸ ⟨target, stored⟩)
    exact ⟨builds, handed, moves,
      .ended before step (Keyed.lookup_erase_self tidy.ascending) (.delivered stored)⟩

/-- **Every poll of a call that has run before.** -/
theorem moves_poll {State : Type} (loader : SharedLoader State) (state : State)
    (tidy : service.Tidy)
    (begun : ∀ stage, service.calls.lookup call = some stage → stage.Begun) :
    let after := (loader.poll ⟨service, state⟩ call).1.service
    let outcome := (loader.poll ⟨service, state⟩ call).2
    ∃ builds handed, service.Moves after call builds handed outcome.shown ∧
      Turnout service after call (fun load => (loader.resume state service.host.files call load).1)
        builds handed outcome := by
  unfold SharedLoader.poll SharedLoader.attend
  cases present : service.calls.lookup call with
  | none =>
    have idle : service.pollCall call = (service, .noCall) := by rw [Service.pollCall, present]
    simp only [Service.pendingLoad?_eq_none present, idle]
    exact ⟨[], [], .refl tidy call, .absent present present⟩
  | some stage =>
    obtain ⟨load, ahead⟩ := exists_pendingLoad? service.host (begun stage present)
      (tidy.unfinished stage (Service.Tidy.mem_stages present))
    simp only [(Service.pendingLoad?_of_lookup present).trans ahead]
    exact moves_redirect tidy present ahead _ rfl

/-- The other calls are as they were, and a call that was polled is not fresh. -/
theorem begun_of_moves {answer : PendingLoad → LoadCourse} {outcome : Outcome} {other : String}
    (moves : service.Moves after call builds handed published)
    (turnout : Turnout service after call answer builds handed outcome)
    (begun : ∀ stage, service.calls.lookup other = some stage → stage.Begun) (stage : Stage)
    (present : after.calls.lookup other = some stage) : stage.Begun := by
  by_cases same : other = call
  · subst same
    cases turnout with
    | absent _ now =>
      rw [now] at present
      cases present
    | paused _ _ now =>
      rw [Service.pendingLoad?_of_lookup present] at now
      exact (begun_of_pendingLoad? now).1
    | ended _ _ now _ =>
      rw [now] at present
      cases present
  · rw [moves.lookup other same] at present
    exact begun stage present

end

/-! ### Schedules of polls -/

/-- What the polls of a call came to, by a schedule of polls and what each of them came to. -/
def outcomesOf (call : String) : List String → List Outcome → List Outcome
  | polled :: schedule, outcome :: outcomes =>
    if polled = call then outcome :: outcomesOf call schedule outcomes
    else outcomesOf call schedule outcomes
  | _, _ => []

/-- **A schedule that drives calls to their ends**: it polls them, and only them, until none is
left. -/
structure SharedLoader.Drives {State : Type} (loader : SharedLoader State)
    (here : SharedService State) (calls schedule : List String) : Prop where
  only : ∀ call ∈ schedule, call ∈ calls
  ends : ∀ call ∈ calls, (loader.run here schedule).1.service.calls.lookup call = none

instance {State : Type} (loader : SharedLoader State) (here : SharedService State)
    (calls schedule : List String) : Decidable (loader.Drives here calls schedule) :=
  decidable_of_iff ((∀ call ∈ schedule, call ∈ calls) ∧
      ∀ call ∈ calls, ((loader.run here schedule).1.service.calls.lookup call).isNone = true)
    ⟨fun both => ⟨both.1, fun call member => Option.isNone_iff_eq_none.mp (both.2 call member)⟩,
      fun drives => ⟨drives.only, fun call member =>
        Option.isNone_iff_eq_none.mpr (drives.ends call member)⟩⟩

/-- The instances that calls came to, in the order of their ends. -/
def handles (outcomes : List Outcome) : List Nat :=
  outcomes.flatMap Outcome.shown

/-- **A call is heard to pause a number of times and then to end with a result.** -/
def EndsAfter (pauses : Nat) (result : Except BootFailure Nat) (outcomes : List Outcome) : Prop :=
  ∃ extra, outcomes = List.replicate pauses .pending ++
    .ended result :: List.replicate extra .noCall

/-- What a call may still be heard to come to, and what it has built and handed over by then. The
state is the one in which its loader would be, had it been asked about this call only. -/
inductive Hearing {State : Type} (loader : SharedLoader State) (service after : Service)
    (call : String) (state : State) (outcomes : List Outcome) (builds : List String)
    (handed : List (List (List String))) : Prop
  | absent (before : service.calls.lookup call = none) (now : after.calls.lookup call = none)
      (heard : outcomes = List.replicate outcomes.length .noCall) (built : builds = [])
      (started : handed = [])
  | ended {load : PendingLoad} {forecast : Forecast} {result : Except BootFailure Nat}
      (before : service.pendingLoad? call = some load)
      (foreseen : loader.Foreseen service.host.files call state load forecast)
      (now : after.calls.lookup call = none) (heard : EndsAfter forecast.pauses result outcomes)
      (meets : after.Meets forecast.result result) (built : builds = forecast.builds)
      (started : handed = forecast.handed)
  | unfinished {stage : Stage} (now : after.calls.lookup call = some stage)

/-- **What a schedule of polls does**, with a tally for each call of the texts that instances were
built from and of the names that they were handed. -/
structure Driven {State : Type} (loader : SharedLoader State) (service after : Service)
    (state : String → State) (calls schedule : List String) (outcomes : List Outcome)
    (built : String → List String) (handed : String → List (List (List String))) : Prop where
  binaries : after.record.binaries = service.record.binaries
  configs : after.record.configs.Perm (service.record.configs ++ calls.flatMap built)
  starts : (after.host.instances.map Instance.starts).Perm
    (service.host.instances.map Instance.starts ++ calls.flatMap handed)
  slot : after.slot = (handles outcomes).foldl (fun _ id => some id) service.slot
  stored : ∀ id target, service.Stored id target → after.Stored id target
  unseen : ∀ id ∈ handles outcomes, ∀ target, ¬ service.Stored id target
  distinct : (handles outcomes).Nodup
  heard : ∀ call, Hearing loader service after call (state call) (outcomesOf call schedule outcomes)
    (built call) (handed call)

/-- A tally with something added for one call, at the front. -/
def credit {α : Type} (tally : String → List α) (call : String) (done : List α) (other : String) :
    List α :=
  if other = call then done ++ tally other else tally other

theorem credit_self {α : Type} (tally : String → List α) (call : String) (done : List α) :
    credit tally call done call = done ++ tally call :=
  if_pos rfl

theorem credit_of_ne {α : Type} (tally : String → List α) {call other : String} (done : List α)
    (different : other ≠ call) : credit tally call done other = tally other :=
  if_neg different

/-- What is added for one call is added to all of them together. -/
theorem flatMap_credit_perm {α : Type} {calls : List String} {call : String} (apart : calls.Nodup)
    (member : call ∈ calls) (tally : String → List α) (done : List α) :
    (done ++ calls.flatMap tally).Perm (calls.flatMap (credit tally call done)) := by
  obtain ⟨front, back, rfl⟩ := List.append_of_mem member
  have outside := List.perm_middle.nodup_iff.mp apart
  have different : ∀ other ∈ front ++ back, other ≠ call :=
    fun other among same => (List.nodup_cons.mp outside).1 (same ▸ among)
  have before : front.flatMap (credit tally call done) = front.flatMap tally :=
    List.flatMap_congr fun other among =>
      credit_of_ne tally done (different other (List.mem_append_left _ among))
  have behind : back.flatMap (credit tally call done) = back.flatMap tally :=
    List.flatMap_congr fun other among =>
      credit_of_ne tally done (different other (List.mem_append_right _ among))
  rw [List.flatMap_append, List.flatMap_append, List.flatMap_cons, List.flatMap_cons, before,
    behind, credit_self, List.append_assoc]
  exact List.perm_append_comm_assoc _ _ _

section

variable {State : Type} {loader : SharedLoader State} {service middle after : Service}
  {call : String} {calls schedule : List String} {outcomes : List Outcome} {builds : List String}
  {handed : List (List (List String))} {state : State}

theorem Service.Meets.mono {forecast : Except BootFailure (Option Json)}
    {result : Except BootFailure Nat} (meets : middle.Meets forecast result)
    (stored : ∀ id target, middle.Stored id target → after.Stored id target) :
    after.Meets forecast result := by
  cases meets with
  | failed => exact .failed
  | delivered there => exact .delivered (stored _ _ there)

theorem EndsAfter.now {result : Except BootFailure Nat}
    (silent : outcomes = List.replicate outcomes.length .noCall) :
    EndsAfter 0 result (.ended result :: outcomes) :=
  ⟨outcomes.length, congrArg (List.cons _) silent⟩

theorem EndsAfter.later {pauses : Nat} {result : Except BootFailure Nat}
    (ends : EndsAfter pauses result outcomes) :
    EndsAfter (1 + pauses) result (.pending :: outcomes) := by
  obtain ⟨extra, rfl⟩ := ends
  exact ⟨extra, by rw [Nat.add_comm, List.replicate_succ, List.cons_append]⟩

/-- The poll of the call itself. -/
theorem Hearing.turn {outcome : Outcome} {later : List String}
    {more : List (List (List String))}
    (turnout : Turnout service middle call
      (fun load => (loader.resume state service.host.files call load).1) builds handed outcome)
    (files : middle.host.files = service.host.files)
    (stored : ∀ id target, middle.Stored id target → after.Stored id target)
    (rest : Hearing loader middle after call (loader.attend ⟨service, state⟩ call).state outcomes
      later more) :
    Hearing loader service after call state (outcome :: outcomes) (builds ++ later)
      (handed ++ more) := by
  cases rest with
  | unfinished now => exact .unfinished now
  | absent missing now silent built started =>
    subst built started
    cases turnout with
    | absent before _ =>
      refine .absent before now ?_ rfl rfl
      rw [List.length_cons, List.replicate_succ, ← silent]
    | paused _ _ going =>
      rw [Service.pendingLoad?_eq_none missing] at going
      cases going
    | ended before step _ meets =>
      exact .ended before (.ended step) now (.now silent) (meets.mono stored) (List.append_nil _)
        (List.append_nil _)
  | ended going foreseen now told meets built started =>
    subst built started
    cases turnout with
    | absent _ missing =>
      rw [Service.pendingLoad?_eq_none missing] at going
      cases going
    | paused before step next =>
      rw [next] at going
      cases going
      rw [SharedLoader.attend, before, files] at foreseen
      exact .ended before (.paused step foreseen) now told.later meets rfl rfl
    | ended _ _ missing _ =>
      rw [Service.pendingLoad?_eq_none missing] at going
      cases going

/-- The poll of another call. -/
theorem Hearing.pass {other : String} {published : List Nat} {later : List String}
    {more : List (List (List String))}
    (moves : service.Moves middle call builds handed published) (different : other ≠ call)
    (rest : Hearing loader middle after other state outcomes later more) :
    Hearing loader service after other state outcomes later more := by
  cases rest with
  | unfinished now => exact .unfinished now
  | absent missing now silent built started =>
    exact .absent ((moves.lookup other different).symm.trans missing) now silent built started
  | ended going foreseen now told meets built started =>
    exact .ended ((moves.load other different).symm.trans going) (moves.files ▸ foreseen) now told
      meets built started

/-- An outcome shows one instance at most. -/
theorem Outcome.nodup_shown (outcome : Outcome) : outcome.shown.Nodup := by
  unfold shown
  split
  · exact List.pairwise_singleton _ _
  · exact List.pairwise_singleton _ _
  · exact List.pairwise_singleton _ _
  · exact List.pairwise_singleton _ _
  · exact List.nodup_nil

/-- The states that a loader would be in, had it been asked about each call only, once it has been
asked about one of them. -/
def SharedLoader.ask (loader : SharedLoader State) (service : Service) (states : String → State)
    (call other : String) : State :=
  if other = call then (loader.attend ⟨service, states other⟩ call).state else states other

namespace Driven

variable {states : String → State} {built : String → List String}
  {started : String → List (List (List String))}

theorem nil (loader : SharedLoader State) (service : Service) (states : String → State)
    (calls : List String) :
    Driven loader service service states calls [] [] (fun _ => []) (fun _ => []) := by
  have nothing : ∀ {α : Type}, calls.flatMap (fun _ => ([] : List α)) = [] :=
    List.flatMap_eq_nil_iff.mpr fun _ _ => rfl
  refine ⟨rfl, ?_, ?_, rfl, fun _ _ stored => stored, List.forall_mem_nil _, List.nodup_nil,
    fun call => ?_⟩
  · rw [nothing, List.append_nil]
  · rw [nothing, List.append_nil]
  · cases present : service.calls.lookup call with
    | none => exact .absent present present rfl rfl rfl
    | some stage => exact .unfinished present

theorem cons {outcome : Outcome} (apart : calls.Nodup) (member : call ∈ calls)
    (moves : service.Moves middle call builds handed outcome.shown)
    (turnout : Turnout service middle call
      (fun load => (loader.resume (states call) service.host.files call load).1) builds handed
      outcome)
    (rest : Driven loader middle after (loader.ask service states call) calls schedule outcomes
      built started) :
    Driven loader service after states calls (call :: schedule) (outcome :: outcomes)
      (credit built call builds) (credit started call handed) := by
  have all : handles (outcome :: outcomes) = outcome.shown ++ handles outcomes :=
    List.flatMap_cons
  refine ⟨rest.binaries.trans moves.binaries, ?_, ?_, ?_,
    fun id target stored => rest.stored id target (moves.stored id target stored), ?_, ?_, ?_⟩
  · refine rest.configs.trans ?_
    rw [moves.configs, List.append_assoc]
    exact (flatMap_credit_perm apart member built builds).append_left _
  · refine rest.starts.trans ?_
    rw [moves.starts, List.append_assoc]
    exact (flatMap_credit_perm apart member started handed).append_left _
  · rw [rest.slot, moves.slot, all, List.foldl_append]
  · rw [all]
    intro id shown target stored
    rcases List.mem_append.mp shown with now | later
    · exact moves.unseen id now target stored
    · exact rest.unseen id later target (moves.stored id target stored)
  · rw [all]
    refine List.nodup_append.mpr ⟨outcome.nodup_shown, rest.distinct, ?_⟩
    intro id now other later same
    obtain ⟨target, stored⟩ := moves.arrived id now
    exact rest.unseen other later target (same ▸ stored)
  · intro other
    have heard := rest.heard other
    rw [outcomesOf]
    split
    · next same =>
      subst same
      rw [SharedLoader.ask, if_pos rfl] at heard
      rw [credit_self, credit_self]
      exact .turn turnout moves.files rest.stored heard
    · next polled =>
      have different : other ≠ call := Ne.symm polled
      rw [SharedLoader.ask, if_neg different] at heard
      rw [credit_of_ne built builds different, credit_of_ne started handed different]
      exact .pass moves different heard

end Driven

variable {alike : String → State → State → Prop}

/-- Asking about a call keeps every state alike to the one it would be in otherwise. -/
theorem SharedLoader.KeepsApart.ask (keeps : loader.KeepsApart alike) {states : String → State}
    {other : String} (same : alike other (states other) state) :
    alike other (loader.ask service states call other)
      (loader.attend ⟨service, state⟩ call).state := by
  rw [SharedLoader.ask]
  split
  · next equal =>
    subst equal
    exact keeps.attend_self same
  · next different => exact keeps.attend_of_ne same different

/-- **Every schedule of polls**, if the loader keeps loads apart. -/
theorem driven_run (keeps : loader.KeepsApart alike) {calls : List String} (schedule : List String)
    {service : Service} {state : State} (states : String → State) (apart : calls.Nodup)
    (tidy : service.Tidy)
    (begun : ∀ call ∈ calls, ∀ stage, service.calls.lookup call = some stage → stage.Begun)
    (same : ∀ call ∈ calls, alike call (states call) state)
    (only : ∀ call ∈ schedule, call ∈ calls) :
    ∃ built handed, Driven loader service (loader.run ⟨service, state⟩ schedule).1.service states
      calls schedule (loader.run ⟨service, state⟩ schedule).2 built handed := by
  -- By induction on the schedule. To each call, the state that it would have left its loader in by
  -- itself stays alike to the one that all polls so far have left.
  induction schedule generalizing service state states with
  | nil => exact ⟨_, _, .nil loader service states calls⟩
  | cons call rest inductive_step =>
    have member := only call List.mem_cons_self
    obtain ⟨builds, handed, moves, turnout⟩ := moves_poll loader state tidy (begun call member)
    have answers : (fun load => (loader.resume state service.host.files call load).1) =
        fun load => (loader.resume (states call) service.host.files call load).1 :=
      funext fun load => (keeps.answer service.host.files load (same call member)).symm
    obtain ⟨built, started, driven⟩ := inductive_step _ moves.tidy
      (fun other among => begun_of_moves moves turnout (begun other among))
      (fun other among => keeps.ask (same other among))
      (fun other later => only other (List.mem_cons_of_mem _ later))
    exact ⟨_, _, .cons apart member moves (answers ▸ turnout) driven⟩

end

/-! ### Two schedules -/

/-- **Results that are alike**, up to the numbers of instances: the same failure, or instances with
the same configuration. -/
inductive Alike (one two : Host) : Except BootFailure Nat → Except BootFailure Nat → Prop
  | failed {failure : BootFailure} : Alike one two (.error failure) (.error failure)
  | delivered {first second : Nat} {target twin : Instance} (found : one.find? first = some target)
      (other : two.find? second = some twin) (same : target.config? = twin.config?) :
      Alike one two (.ok first) (.ok second)

theorem Service.Meets.alike {one two : Service} {forecast : Except BootFailure (Option Json)}
    {first second : Except BootFailure Nat} (meets : one.Meets forecast first)
    (also : two.Meets forecast second) : Alike one.host two.host first second := by
  cases forecast with
  | error failure =>
    cases meets
    cases also
    exact .failed
  | ok config =>
    generalize same : (Except.ok config : Except BootFailure (Option Json)) = whole at meets also
    cases meets with
    | failed => cases same
    | delivered stored =>
      generalize again : Except.ok _ = other at also
      cases also with
      | failed => cases again
      | delivered twin => exact .delivered stored.1 twin.1 (Except.ok.inj again)

theorem foldl_some_eq_getLast? (handles : List Nat) (slot : Option Nat) :
    handles.foldl (fun _ id => some id) slot = handles.getLast?.or slot := by
  induction handles generalizing slot with
  | nil => exact (Option.none_or).symm
  | cons id rest inductive_step =>
    rw [List.foldl_cons, inductive_step, List.getLast?_cons]
    cases rest.getLast? <;> rfl

/-- **A call that ends alike in two schedules**, after as many pauses. -/
def EndsAlike (one two : Host) (pauses : Nat) (outcomes others : List Outcome) : Prop :=
  ∃ result twin, EndsAfter pauses result outcomes ∧ EndsAfter pauses twin others ∧
    Alike one two result twin

section

variable {State : Type} {loader : SharedLoader State} {service after : Service}
  {states : String → State} {calls schedule : List String} {outcomes : List Outcome}
  {built : String → List String} {handed : String → List (List (List String))}

/-- A call that was driven to its end bears out what was foreseen of it. -/
theorem Driven.ended
    (driven : Driven loader service after states calls schedule outcomes built handed)
    {call : String} {load : PendingLoad} (ahead : service.pendingLoad? call = some load)
    (gone : after.calls.lookup call = none) :
    ∃ forecast, loader.Foreseen service.host.files call (states call) load forecast ∧
      built call = forecast.builds ∧ handed call = forecast.handed ∧
      ∃ result, EndsAfter forecast.pauses result (outcomesOf call schedule outcomes) ∧
        after.Meets forecast.result result := by
  cases driven.heard call with
  | absent before _ _ _ _ =>
    rw [Service.pendingLoad?_eq_none before] at ahead
    cases ahead
  | unfinished now =>
    rw [gone] at now
    cases now
  | ended before foreseen _ told meets all every =>
    rw [before] at ahead
    cases ahead
    exact ⟨_, foreseen, all, every, _, told, meets⟩

/-- **A call that was driven to its end by two schedules**, from the same state of the loader. -/
theorem Driven.agree {one two : Service} {second : List String} {others : List Outcome}
    {makes : String → List String} {gives : String → List (List (List String))}
    (driven : Driven loader service one states calls schedule outcomes built handed)
    (twin : Driven loader service two states calls second others makes gives) {call : String}
    {load : PendingLoad} (ahead : service.pendingLoad? call = some load)
    (gone : one.calls.lookup call = none) (also : two.calls.lookup call = none) :
    ∃ forecast, loader.Foreseen service.host.files call (states call) load forecast ∧
      (built call = makes call ∧ handed call = gives call) ∧
      EndsAlike one.host two.host forecast.pauses (outcomesOf call schedule outcomes)
        (outcomesOf call second others) := by
  obtain ⟨forecast, foreseen, all, every, result, ends, meets⟩ := driven.ended ahead gone
  obtain ⟨_, again, whole, entire, other, ends_too, meets_too⟩ := twin.ended ahead also
  cases foreseen.unique again
  exact ⟨forecast, foreseen, ⟨all.trans whole.symm, every.trans entire.symm⟩, result, other, ends,
    ends_too, meets.alike meets_too⟩

/-- **Where the loader keeps to its plans, a call bears out its forecast**, whatever the schedule
that drives it to its end. -/
theorem ends_as_forecast {service : Service} (seen : List Nat) (tidy : service.Tidy)
    (apart : calls.Nodup)
    (begun : ∀ call ∈ calls, ∀ stage, service.calls.lookup call = some stage → stage.Begun)
    (only : ∀ call ∈ schedule, call ∈ calls) {call : String} {load : PendingLoad}
    (ahead : service.pendingLoad? call = some load) :
    let plain := (Desk.mk service seen).run (schedule.map .poll)
    plain.1.service.calls.lookup call = none →
      ∃ result, EndsAfter load.forecast.pauses result
          (outcomesOf call schedule (plain.2.map Report.outcome)) ∧
        plain.1.service.Meets load.forecast.result result := by
  intro plain gone
  obtain ⟨built, handed, driven⟩ := driven_run SharedLoader.steadfast.keepsApart_of_subsingleton
    schedule (fun _ => ()) apart tidy begun (fun _ _ => trivial) only
  rw [SharedLoader.steadfast_run schedule seen tidy] at driven
  obtain ⟨forecast, foreseen, _, _, ends⟩ := driven.ended ahead gone
  cases foreseen.unique (SharedLoader.foreseen_steadfast _ call load)
  exact ends

end

/-- **Two schedules that come to the same**, up to the numbers of instances. Every call pauses as
often in both and then ends alike; no two calls come to the same instance. No further load was asked
for, and instances were built from the same texts and handed the same names of extensions, up to the
order. The slot holds the instance of the call that ended last with one, or what it held before. -/
structure SameEnds {State : Type} (here : Service) (calls first second : List String)
    (one two : SharedService State × List Outcome) (pauses : String → Nat) : Prop where
  ends : ∀ call ∈ calls, EndsAlike one.1.service.host two.1.service.host (pauses call)
    (outcomesOf call first one.2) (outcomesOf call second two.2)
  distinct : (handles one.2).Nodup ∧ (handles two.2).Nodup
  loads : one.1.service.record.binaries = here.record.binaries ∧
    two.1.service.record.binaries = here.record.binaries
  configs : one.1.service.record.configs.Perm two.1.service.record.configs
  starts : (one.1.service.host.instances.map Instance.starts).Perm
    (two.1.service.host.instances.map Instance.starts)
  slots : one.1.service.slot = (handles one.2).getLast?.or here.slot ∧
    two.1.service.slot = (handles two.2).getLast?.or here.slot

/-- **The order of polls does not matter, as long as the loader keeps loads apart.** Take whatever
is reached with a loader, some calls in flight whose loads have begun, and two schedules that poll
these calls, and only these, until none is left. In both every call pauses as often, and comes to
the same, as it would if it were polled by itself, and the schedules come to the same ends. -/
theorem ends_whatever_the_schedule {State : Type} (loader : SharedLoader State)
    (alike : String → State → State → Prop) (here : SharedService State)
    (calls first second : List String) (reached : loader.Reached here)
    (keeps : loader.KeepsApart alike) (regular : ∀ call ∈ calls, alike call here.state here.state)
    (apart : calls.Nodup)
    (pending : ∀ call ∈ calls, ∃ load, here.service.pendingLoad? call = some load)
    (drives : loader.Drives here calls first) (also : loader.Drives here calls second) :
    ∃ forecast : String → Forecast,
      (∀ call ∈ calls, ∃ load, here.service.pendingLoad? call = some load ∧
        loader.Foreseen here.service.host.files call here.state load (forecast call)) ∧
      SameEnds here.service calls first second (loader.run here first) (loader.run here second)
        fun call => (forecast call).pauses := by
  have tidy := reached.tidy
  have begun : ∀ call ∈ calls, ∀ stage, here.service.calls.lookup call = some stage →
      stage.Begun := by
    intro call member stage present
    obtain ⟨load, ahead⟩ := pending call member
    rw [Service.pendingLoad?_of_lookup present] at ahead
    exact (begun_of_pendingLoad? ahead).1
  obtain ⟨built, handed, driven⟩ :=
    driven_run keeps first (fun _ => here.state) apart tidy begun regular drives.only
  obtain ⟨makes, gives, twin⟩ :=
    driven_run keeps second (fun _ => here.state) apart tidy begun regular also.only
  have foreseen : ∀ call, ∃ forecast, call ∈ calls →
      (∃ load, here.service.pendingLoad? call = some load ∧
        loader.Foreseen here.service.host.files call here.state load forecast) ∧
      (built call = makes call ∧ handed call = gives call) ∧
      EndsAlike (loader.run here first).1.service.host (loader.run here second).1.service.host
        forecast.pauses (outcomesOf call first (loader.run here first).2)
        (outcomesOf call second (loader.run here second).2) := by
    intro call
    by_cases member : call ∈ calls
    · obtain ⟨load, ahead⟩ := pending call member
      obtain ⟨forecast, sees, same, ends⟩ :=
        driven.agree twin ahead (drives.ends call member) (also.ends call member)
      exact ⟨forecast, fun _ => ⟨⟨load, ahead, sees⟩, same, ends⟩⟩
    · exact ⟨⟨0, [], [], .ok none⟩, fun among => absurd among member⟩
  choose forecast holds using foreseen
  have texts : calls.flatMap built = calls.flatMap makes :=
    List.flatMap_congr fun call member => (holds call member).2.1.1
  have names : calls.flatMap handed = calls.flatMap gives :=
    List.flatMap_congr fun call member => (holds call member).2.1.2
  refine ⟨forecast, fun call member => (holds call member).1,
    fun call member => (holds call member).2.2, ⟨driven.distinct, twin.distinct⟩,
    ⟨driven.binaries, twin.binaries⟩, ?_, ?_, ?_, ?_⟩
  · exact (texts ▸ driven.configs).trans twin.configs.symm
  · exact (names ▸ driven.starts).trans twin.starts.symm
  · rw [← foldl_some_eq_getLast?]
    exact driven.slot
  · rw [← foldl_some_eq_getLast?]
    exact twin.slot

/-- A desk that was not used, whose loads pause. Its host has a module in one directory. -/
def pausingDesk (pauses : Nat → Nat) : Desk :=
  ⟨⟨⟨(FileSystem.bare []).write "pkg/mize_bg.wasm" (LoadedModule.magic ++ LoadedModule.version), [],
    []⟩, none, .scripted fun count => { LoadPlan.smooth with loadPauses := pauses count }, .empty,
    []⟩, []⟩

theorem pausingDesk_unused (pauses : Nat → Nat) : (pausingDesk pauses).Unused := by
  refine ⟨fun id target found => ?_, rfl, rfl, rfl⟩
  cases found

/-- Calls on such a desk with objects, under names, each polled once. -/
def pausingCalls (pauses : Nat → Nat) (calls : List (String × Keyed Json)) : Service :=
  (calls.flatMap fun (call, entries) => [.spawn call (.object entries), .poll call]).foldl
    (fun service action => (service.act action).1) (pausingDesk pauses).service

theorem reached_pausingCalls {State : Type} (loader : SharedLoader State) (state : State)
    (pauses : Nat → Nat) (calls : List (String × Keyed Json)) :
    loader.Reached ⟨pausingCalls pauses calls, state⟩ :=
  .acts _ (.unused (pausingDesk_unused pauses) state)

/-- The failure that a call ended with. -/
def Outcome.failure? : Outcome → Option BootFailure
  | .ended (.error failure) => some failure
  | _ => none

/-- Module files are read with pauses, in one order and in another; the second call names a
directory without a module. -/
theorem ends_whatever_the_schedule_module_files :
    let loader := SharedLoader.ofFiles "pkg"
    let calls := ["first", "second", "third"]
    let first := ["third", "third", "first", "second", "third", "second"]
    let second := ["second", "second", "third", "third", "third", "first"]
    let here : SharedService Unit := ⟨pausingCalls Nat.succ [("first", []),
      ("second", [("module_dir", .object [("mize", .string "elsewhere")])]), ("third", [])], ()⟩
    let one := loader.run here first
    let two := loader.run here second
    loader.Reached here ∧ handles one.2 = [0, 1] ∧ handles two.2 = [0, 1] ∧
      (outcomesOf "second" first one.2).filterMap Outcome.failure? =
        [.moduleLoad (.unreadable "elsewhere/mize_bg.wasm" .notFound)] ∧
      ∃ pauses, SameEnds here.service calls first second one two pauses := by
  intro loader calls first second here one two
  have reached : loader.Reached here := reached_pausingCalls loader () _ _
  have pending : ∀ call ∈ calls, (here.service.pendingLoad? call).isSome = true := by
    decide +kernel
  have drives : loader.Drives here calls first := by decide +kernel
  have also : loader.Drives here calls second := by decide +kernel
  have compared := ends_whatever_the_schedule loader (fun _ _ _ => True) here calls first second
    reached loader.keepsApart_of_subsingleton (fun _ _ => trivial) (by decide)
    (fun call member => Option.isSome_iff_exists.mp (pending call member)) drives also
  exact ⟨reached, by decide +kernel, by decide +kernel, by decide +kernel,
    compared.elim fun forecast holds => ⟨_, holds.2⟩⟩

theorem EndsAfter.failures {outcomes : List Outcome} {pauses : Nat}
    {result : Except BootFailure Nat} (ends : EndsAfter pauses result outcomes) :
    outcomes.filterMap Outcome.failure? = (Outcome.ended result).failure?.toList := by
  obtain ⟨extra, heard⟩ := ends
  have silent : ∀ count, (List.replicate count Outcome.noCall).filterMap Outcome.failure? = [] :=
    fun count => List.filterMap_replicate_of_none rfl
  have waiting : (List.replicate pauses Outcome.pending).filterMap Outcome.failure? = [] :=
    List.filterMap_replicate_of_none rfl
  rw [heard, List.filterMap_append, waiting, List.filterMap_cons, silent]
  cases (Outcome.ended result).failure? <;> rfl

/-- Schedules that come to the same show the same failures. -/
theorem SameEnds.failures {State : Type} {here : Service} {calls first second : List String}
    {one two : SharedService State × List Outcome} {pauses : String → Nat}
    (same : SameEnds here calls first second one two pauses) {call : String}
    (member : call ∈ calls) :
    (outcomesOf call first one.2).filterMap Outcome.failure? =
      (outcomesOf call second two.2).filterMap Outcome.failure? := by
  obtain ⟨result, twin, ends, also, alike⟩ := same.ends call member
  rw [ends.failures, also.failures]
  cases alike with
  | failed => rfl
  | delivered found other config => rfl

/-- **The order of polls matters for a loader that does not keep loads apart.** Of two loads one is
to fail. It is that of whichever call is polled first. -/
theorem different_ends_of_failing :
    let loader := SharedLoader.failing
    let calls := ["first", "second"]
    let first := ["first", "second", "second"]
    let second := ["second", "first", "second", "first"]
    let here : SharedService Nat := ⟨pausingCalls (fun _ => 1)
      [("first", [("name", .string "first")]), ("second", [("name", .string "second")])], 1⟩
    let one := loader.run here first
    let two := loader.run here second
    loader.Reached here ∧ (∀ call ∈ calls, ∃ load, here.service.pendingLoad? call = some load) ∧
      loader.Drives here calls first ∧ loader.Drives here calls second ∧
      (outcomesOf "first" first one.2).filterMap Outcome.failure? =
        [.moduleLoad (.reported "compile failed")] ∧
      (outcomesOf "first" second two.2).filterMap Outcome.failure? = [] ∧
      ∀ pauses, ¬ SameEnds here.service calls first second one two pauses := by
  intro loader calls first second here one two
  have reached : loader.Reached here := reached_pausingCalls loader 1 _ _
  have pending : ∀ call ∈ calls, (here.service.pendingLoad? call).isSome = true := by
    decide +kernel
  have fails : (outcomesOf "first" first one.2).filterMap Outcome.failure? =
      [.moduleLoad (.reported "compile failed")] := by decide +kernel
  have succeeds : (outcomesOf "first" second two.2).filterMap Outcome.failure? = [] := by
    decide +kernel
  have member : "first" ∈ calls := by decide
  refine ⟨reached, fun call among => Option.isSome_iff_exists.mp (pending call among),
    by decide +kernel, by decide +kernel, fails, succeeds, fun pauses same => ?_⟩
  have equal := same.failures member
  rw [fails, succeeds] at equal
  cases equal

end InstanceHost
