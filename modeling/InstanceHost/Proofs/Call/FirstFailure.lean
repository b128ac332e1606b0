/-
**A failure names the first stage that failed.**

A call for an instance checks what it was made with, looks into the slot, loads the module, builds
an instance and starts it. Where it fails, its failure is that of the first of these stages that
fails, with the error of that stage as it was; the stages before it were run once each, and none
after it.

* `FirstFailure`: which stage of a call fails first, and what has been run by then;
* `Work.InOrder`: the stages in their order, each at most once;
* `Loader.verdict`: what a call comes to, computed from the scene of its first poll;
* `failure_names_first_stage`: the calls of every schedule, whatever the loader does.
-/

import InstanceHost.Proofs.Call.Ledger
import InstanceHost.Proofs.Call.Publication

namespace InstanceHost

/-! ### The stage that fails first -/

/-- **The stage of a call that fails first**, with the stages that have been run by then. The scene
is that of the first poll, and the module is loaded from the place that the value names. -/
inductive FirstFailure (loader : Loader) (opening : Scene) (value : Json) :
    Work → BootFailure → Prop
  /-- The value is neither a string nor an object; the slot does not matter. -/
  | kind (text : ∀ text, value ≠ .string text) (object : ∀ entries, value ≠ .object entries) :
      FirstFailure loader opening value .none (.configType ⟨value.kindName⟩)
  /-- The slot is empty, and the value does not say properly where the module lies. -/
  | location {entries : Keyed Json} {fault : LocationFault} (empty : opening.slot = none)
      (object : value = .object entries) (misplaced : Misplaced entries fault) :
      FirstFailure loader opening value .none (.config (.invalidLocation fault))
  | load {normal : NormalConfig} {failure : LoadFailure} (empty : opening.slot = none)
      (prepares : Prepares value normal)
      (failed : (loader.plan opening normal.modulePath).loadFailure = some failure) :
      FirstFailure loader opening value ⟨[normal.modulePath], [], []⟩ (.moduleLoad failure)
  | build {normal : NormalConfig} {refusal : Refusal} (empty : opening.slot = none)
      (prepares : Prepares value normal)
      (loaded : (loader.plan opening normal.modulePath).loadFailure = none)
      (failed : (loader.plan opening normal.modulePath).building normal.canonical =
        .error refusal) :
      FirstFailure loader opening value ⟨[normal.modulePath], [normal.canonical], []⟩
        (.construction refusal)
  /-- The instance was built and started once, without extensions. -/
  | start {normal : NormalConfig} {items : Items} {message : String}
      (empty : opening.slot = none) (prepares : Prepares value normal)
      (loaded : (loader.plan opening normal.modulePath).loadFailure = none)
      (built : (loader.plan opening normal.modulePath).building normal.canonical = .ok items)
      (failed : (loader.plan opening normal.modulePath).startFailure = some message) :
      FirstFailure loader opening value ⟨[normal.modulePath], [normal.canonical], [[[]]]⟩
        (.construction (.reported message))

/-- **Stages in their order, each at most once.** -/
inductive Work.InOrder : Work → Prop
  | none : InOrder .none
  | load {path : Option String} : InOrder ⟨[path], [], []⟩
  | build {path : Option String} {text : String} : InOrder ⟨[path], [text], []⟩
  | start {path : Option String} {text : String} : InOrder ⟨[path], [text], [[[]]]⟩

/-! ### The verdict on a call -/

/-- The failure that a call comes to. -/
def failureOf : Except BootFailure Nat → Option BootFailure
  | .error failure => some failure
  | .ok _ => none

/-- The failure that a plan has in store for a call. -/
def LoadPlan.failure? (plan : LoadPlan) (normal : NormalConfig) : Option BootFailure :=
  match plan.loadFailure, plan.building normal.canonical with
  | some failure, _ => some (.moduleLoad failure)
  | none, .error refusal => some (.construction refusal)
  | none, .ok _ => plan.startFailure.map fun message => .construction (.reported message)

/-- **What a call comes to**: the stages that it will run and the failure, if any, of the last of
them. -/
def Loader.verdict (loader : Loader) (opening : Scene) : Order → Work × Option BootFailure
  | .normal normal =>
    let plan := loader.plan opening normal.modulePath
    (plan.work normal, plan.failure? normal)
  | .value value =>
    match Config.ofJson value, opening.slot with
    | .error mismatch, _ => (.none, some (.configType mismatch))
    | .ok _, some _ => (.none, none)
    | .ok config, none =>
      match config.toNormal with
      | .error fault => (.none, some (.config fault))
      | .ok normal =>
        let plan := loader.plan opening normal.modulePath
        (plan.work normal, plan.failure? normal)

section

variable {loader : Loader} {opening : Scene} {order : Order} {normal : NormalConfig}
  {plan : LoadPlan} {value : Json} {work other : Work} {result later : Except BootFailure Nat}
  {failure : BootFailure}

theorem Order.exists_of_normal? (known : (Order.value value).normal? = some normal) :
    ∃ config, Config.ofJson value = .ok config ∧ config.toNormal = .ok normal := by
  cases kind : Config.ofJson value with
  | error mismatch =>
    rw [normal?, kind] at known
    cases known
  | ok config =>
    refine ⟨config, rfl, ?_⟩
    cases resolved : config.toNormal with
    | error fault =>
      rw [normal?, kind] at known
      simp only [resolved, Except.toOption, reduceCtorEq] at known
    | ok given =>
      rw [normal?_of_toNormal kind resolved, Option.some.injEq] at known
      rw [known]

theorem Tries.verdict (tries : Tries loader opening order normal plan) :
    loader.verdict opening order = (plan.work normal, plan.failure? normal) := by
  obtain ⟨known, empty, rfl⟩ := tries
  cases order with
  | normal given =>
    cases known
    rfl
  | value value =>
    obtain ⟨config, kind, resolved⟩ := Order.exists_of_normal? known
    have missing := empty (Order.looks_of_ofJson kind)
    simp only [Loader.verdict, kind, missing, resolved]

/-- **Every end is the one that the verdict foretells.** -/
theorem Ends.verdict (ends : Ends loader opening order work result) :
    loader.verdict opening order = (work, failureOf result) := by
  cases ends with
  | mismatched kind => simp only [Loader.verdict, kind, failureOf]
  | reused kind published => simp only [Loader.verdict, kind, published, failureOf]
  | unresolved empty unprepared =>
    obtain ⟨config, kind, failed⟩ := unprepared.exists_config
    simp only [Loader.verdict, kind, empty, failed, failureOf]
  | notLoaded tries failed =>
    rw [tries.verdict]
    simp only [LoadPlan.work, LoadPlan.failure?, failed, failureOf]
  | notBuilt tries loaded failed =>
    rw [tries.verdict]
    simp only [LoadPlan.work, LoadPlan.failure?, loaded, failed, failureOf]
  | notStarted tries loaded built failed =>
    rw [tries.verdict]
    simp only [LoadPlan.work, LoadPlan.failure?, loaded, built, failed, failureOf, Option.map_some]
  | started tries loaded built willing =>
    rw [tries.verdict]
    simp only [LoadPlan.work, LoadPlan.failure?, loaded, built, willing, failureOf, Option.map_none]

/-- **There is but one way to end**, apart from the number of an instance. -/
theorem Ends.same (ends : Ends loader opening order work result)
    (others : Ends loader opening order other later) :
    work = other ∧ failureOf result = failureOf later :=
  Prod.mk.inj (ends.verdict.symm.trans others.verdict)

/-- A call that fails in one way fails in no other, and has run the same stages. -/
theorem Ends.unique (ends : Ends loader opening order work result)
    (fails : Ends loader opening order other (.error failure)) :
    result = .error failure ∧ work = other := by
  obtain ⟨same_work, same_failure⟩ := ends.same fails
  cases result with
  | ok id => cases same_failure
  | error given => exact ⟨congrArg _ (Option.some.inj same_failure), same_work⟩

/-- A call that comes to an instance in one way fails in no way. -/
theorem Ends.exists_ok {id : Nat} (ends : Ends loader opening order work result)
    (arrives : Ends loader opening order other (.ok id)) : ∃ id, result = .ok id := by
  obtain ⟨_, same_failure⟩ := ends.same arrives
  cases result with
  | ok id => exact ⟨id, rfl⟩
  | error given => cases same_failure

/-! ### Ends and first failures -/

theorem Config.ofJson_eq_error {mismatch : KindMismatch}
    (failed : Config.ofJson value = .error mismatch) :
    (∀ text, value ≠ .string text) ∧ (∀ entries, value ≠ .object entries) ∧
      mismatch = ⟨value.kindName⟩ := by
  cases value with
  | string text => cases failed
  | object entries => cases failed
  | _ =>
    cases failed
    exact ⟨nofun, nofun, rfl⟩

theorem Config.ofJson_of_ne (text : ∀ text, value ≠ .string text)
    (object : ∀ entries, value ≠ .object entries) :
    Config.ofJson value = .error ⟨value.kindName⟩ := by
  cases value with
  | string given => exact absurd rfl (text given)
  | object entries => exact absurd rfl (object entries)
  | _ => rfl

/-- A call with a value builds an instance only from an empty slot and from its normal form. -/
theorem Tries.prepares (tries : Tries loader opening (.value value) normal plan) :
    opening.slot = none ∧ Prepares value normal := by
  obtain ⟨config, kind, resolved⟩ := Order.exists_of_normal? tries.known
  exact ⟨tries.empty (Order.looks_of_ofJson kind), prepares_of_toNormal kind resolved⟩

theorem Prepares.tries (prepares : Prepares value normal) (empty : opening.slot = none) :
    Tries loader opening (.value value) normal (loader.plan opening normal.modulePath) := by
  obtain ⟨config, kind, resolved⟩ := prepares.exists_config
  exact ⟨Order.normal?_of_toNormal kind resolved, fun _ => empty, rfl⟩

theorem Ends.firstFailure (ends : Ends loader opening (.value value) work (.error failure)) :
    FirstFailure loader opening value work failure := by
  cases ends with
  | mismatched kind =>
    obtain ⟨text, object, rfl⟩ := Config.ofJson_eq_error kind
    exact .kind text object
  | unresolved empty unprepared =>
    cases unprepared with
    | entries misplaced => exact .location empty rfl misplaced
  | notLoaded tries failed =>
    obtain ⟨empty, prepares⟩ := tries.prepares
    exact .load empty prepares (tries.planned ▸ failed)
  | notBuilt tries loaded failed =>
    obtain ⟨empty, prepares⟩ := tries.prepares
    exact .build empty prepares (tries.planned ▸ loaded) (tries.planned ▸ failed)
  | notStarted tries loaded built failed =>
    obtain ⟨empty, prepares⟩ := tries.prepares
    exact .start empty prepares (tries.planned ▸ loaded) (tries.planned ▸ built)
      (tries.planned ▸ failed)

theorem FirstFailure.ends (fails : FirstFailure loader opening value work failure) :
    Ends loader opening (.value value) work (.error failure) := by
  cases fails with
  | kind text object => exact .mismatched (Config.ofJson_of_ne text object)
  | location empty object misplaced =>
    subst object
    exact .unresolved empty (.entries misplaced)
  | load empty prepares failed => exact .notLoaded (prepares.tries empty) failed
  | build empty prepares loaded failed => exact .notBuilt (prepares.tries empty) loaded failed
  | start empty prepares loaded built failed =>
    exact .notStarted (prepares.tries empty) loaded built failed

/-- **A call fails exactly as its first stage that fails, and runs the stages up to it.** -/
theorem Ends.error_iff (ends : Ends loader opening (.value value) work result) :
    result = .error failure ∧ work = other ↔ FirstFailure loader opening value other failure := by
  constructor
  · rintro ⟨rfl, rfl⟩
    exact ends.firstFailure
  · exact fun fails => ends.unique fails.ends

/-! ### The order of the stages -/

theorem Ends.inOrder (ends : Ends loader opening order work result) : work.InOrder := by
  cases ends with
  | mismatched => exact .none
  | reused => exact .none
  | unresolved => exact .none
  | notLoaded => exact .load
  | notBuilt => exact .build
  | notStarted => exact .start
  | started => exact .start

theorem Accounts.inOrder {host : Host} {stage : Stage}
    (accounts : Accounts loader opening order host work stage) : work.InOrder := by
  cases stage with
  | fresh => exact accounts.elim
  | loading job plan pauses =>
    obtain ⟨_, rfl⟩ := accounts
    exact .load
  | building job plan pauses =>
    obtain ⟨_, _, rfl⟩ := accounts
    exact .build
  | starting job id names pauses =>
    obtain ⟨_, _, _, _, _, _, _, _, rfl⟩ := accounts
    exact .start
  | finished result => exact Ends.inOrder accounts

end

namespace Life

variable {life : Life} {loader : Loader} {host : Host} {stage : Stage}

/-- **The stages of a call are run in its own polls**, in their order and each at most once. -/
structure Stagewise (life : Life) : Prop where
  inOrder : life.work.InOrder
  does : ∀ poll ∈ life.polls, poll.before.Does poll.after poll.work

theorem Accounted.stagewise (accounted : life.Accounted loader host stage) : life.Stagewise := by
  obtain ⟨⟨first, rest, _, accounts⟩, does⟩ := accounted
  exact ⟨accounts.inOrder, does⟩

theorem Traced.stagewise (traced : life.Traced loader host stage) : life.Stagewise := by
  cases traced with
  | fresh => exact ⟨.none, List.forall_mem_nil _⟩
  | polled accounted => exact accounted.stagewise

end Life

theorem History.Accounted.stagewise {history : History} {service : Service} {life : Life}
    (accounted : history.Accounted service) (member : life ∈ history.lives) : life.Stagewise := by
  rcases List.mem_append.mp member with gone | running
  · obtain ⟨happening, there, which⟩ := List.mem_filterMap.mp gone
    have past := accounted.past happening there
    cases happening with
    | ended other result =>
      cases which
      obtain ⟨host, accounted⟩ := past
      exact accounted.stagewise
    | abandoned other =>
      cases which
      obtain ⟨host, stage, traced⟩ := past
      exact traced.stagewise
    | cleared => cases which
  · obtain ⟨stage, _, traced⟩ := accounted.running.exists_right running
    exact traced.stagewise

/-! ### Schedules -/

/-- **A failure names the first stage that failed, and no later stage was run.** For every loader
and every schedule, whatever else is done in between: a call with a value that has ended has failed
in some way, having run some stages, exactly if this is how the first stage fails that does. All
calls, those in flight and those abandoned included, have run their stages in order and at most
once. -/
theorem failure_names_first_stage (desk : Desk) (actions : List Action) (unused : desk.Unused) :
    let history := desk.history actions
    history.results = ((desk.run actions).2.filterMap Report.result?).reverse ∧
      (∀ life result value, .ended life result ∈ history.past → life.order = .value value →
        ∃ first rest, life.polls = first :: rest ∧ ∀ work failure,
          (result = .error failure ∧ life.work = work ↔
            FirstFailure desk.service.loader first.before value work failure)) ∧
      ∀ life ∈ history.lives, life.Stagewise := by
  intro history
  have accounted : history.Accounted (desk.run actions).1.service :=
    Desk.accounted_run unused.accounted unused.orderly actions
  refine ⟨?_, ?_, fun life member => accounted.stagewise member⟩
  · exact (Desk.results_historyFrom actions unused.paired).trans (List.append_nil _)
  · intro life result value member made
    obtain ⟨host, ⟨first, rest, polls, ends⟩, _⟩ := accounted.past _ member
    rw [desk.loader_run actions, made] at ends
    exact ⟨first, rest, polls, fun work failure => Ends.error_iff ends⟩

/-- The first of three calls loads, builds and starts, one poll after the other with those of
two other calls in between, and fails with what the instance says. -/
theorem failure_names_first_stage_three_calls :
    threeCallsDesk.Unused ∧ ∃ life first rest,
      .ended life (.error (.construction (.reported "not today"))) ∈
        (threeCallsDesk.history threeCalls).past ∧
      life.order = .value (.object []) ∧ life.polls = first :: rest ∧ rest.length = 2 ∧
      life.work = ⟨[none], ["\x7b\x7d"], [[[]]]⟩ ∧
      FirstFailure threeCallsDesk.service.loader first.before (.object []) life.work
        (.construction (.reported "not today")) := by
  have named := (failure_names_first_stage threeCallsDesk threeCalls threeCallsDesk_unused).2.1
  obtain ⟨life, there, made, work, count⟩ : ∃ life,
      (threeCallsDesk.history threeCalls).past[3]? =
        some (.ended life (.error (.construction (.reported "not today")))) ∧
      life.order = .value (.object []) ∧ life.work = ⟨[none], ["\x7b\x7d"], [[[]]]⟩ ∧
      life.polls.length = 3 := ⟨_, rfl, rfl, rfl, rfl⟩
  have member := List.mem_of_getElem? there
  obtain ⟨first, rest, polls, exact_failure⟩ := named life _ _ member made
  rw [polls, List.length_cons, Nat.add_right_cancel_iff] at count
  exact ⟨threeCallsDesk_unused, life, first, rest, member, made, polls, count, work,
    (exact_failure _ _).mp ⟨rfl, rfl⟩⟩

end InstanceHost
