/-
**Extensions come and go in balance, but for those withheld.**

An instance gets requests that tell every extension when it comes and when it goes, from outside or
from a hook that is running. Each hook for coming that has succeeded is then matched by a hook for
going or by a name in the registry. One kind of extension has no match: it is initialized, but
while its hook was running its name was taken, so it is not inserted and never told to go.

* `Request.Told`: no extension is inserted or removed without a hook, at any depth of hooks;
* `Turn.balance`, `Session.balance_steps`: what a step and a session keep;
* `Instance.follow`: requests one after the other;
* `balanced_iff_none_withheld`: the balance, and when it holds without those withheld;
* `newcomer_withheld`: an extension that is initialized, but neither registered nor told to go.
-/

import InstanceHost.Proofs.Instance.Turn

namespace InstanceHost

/-! ### Extensions that are told -/

mutual

/-- **No extension is inserted or removed without its hook**, by the request or by a hook. -/
def Request.Told : Request → Prop
  | .insert _ _ => False
  | .remove _ => False
  | .register _ extension => Extension.Told extension
  | _ => True

/-- No hook of an extension inserts or removes another without its hook. -/
def Extension.Told : Extension → Prop
  | .marker _ => True
  | .active _ coming going => Hook.Told coming ∧ Hook.Told going

/-- So much for a hook. -/
def Hook.Told : Hook → Prop
  | .mk requests _ => RequestsTold requests

/-- So much for requests one after the other. -/
def RequestsTold : List Request → Prop
  | [] => True
  | request :: rest => Request.Told request ∧ RequestsTold rest

end

theorem Extension.Told.requests {extension : Extension} (told : extension.Told) (phase : Phase) :
    RequestsTold (extension.hook phase).requests := by
  cases extension with
  | marker tag => cases phase <;> trivial
  | active tag coming going =>
    obtain ⟨first, second⟩ := told
    cases phase with
    | init =>
      cases coming
      exact first
    | exit =>
      cases going
      exact second

/-- Every extension of a roll is told. -/
structure Roll.Told (roll : Roll) : Prop where
  registry : ∀ entry ∈ roll.registry, entry.2.Told
  calling : ∀ calling ∈ roll.calling, calling.extension.Told

theorem mem_of_lookup {registry : Keyed Extension} {name : String} {extension : Extension}
    (present : registry.lookup name = some extension) : (name, extension) ∈ registry :=
  (Keyed.perm_erase present).mem_iff.mpr List.mem_cons_self

theorem told_insert {registry : Keyed Extension} {name : String} {extension : Extension}
    (all : ∀ entry ∈ registry, entry.2.Told) (told : extension.Told) :
    ∀ entry ∈ registry.insert name extension, entry.2.Told := by
  intro entry member
  rcases List.mem_cons.mp ((Keyed.insert_perm name extension registry).mem_iff.mp member) with
    rfl | kept
  · exact told
  · exact all entry ((Keyed.erase_sublist name registry).subset kept)

theorem Turn.told {asked : Option Request} {withheld : Option Extension} {before after : Roll}
    (turn : Turn asked withheld before after) (request : ∀ request ∈ asked, request.Told)
    (told : before.Told) : after.Told := by
  obtain ⟨registry, calling⟩ := told
  cases turn with
  | quiet => exact ⟨registry, calling⟩
  | inserted free => exact (request _ rfl).elim
  | removed => exact (request _ rfl).elim
  | coming valid free =>
    refine ⟨registry, fun other member => ?_⟩
    rcases List.mem_cons.mp member with rfl | outer
    · exact request _ rfl
    · exact calling other outer
  | going present =>
    refine ⟨fun entry member => registry entry ((Keyed.erase_sublist _ _).subset member), ?_⟩
    intro other member
    rcases List.mem_cons.mp member with rfl | outer
    · exact registry _ (mem_of_lookup present)
    · exact calling other outer
  | failed => exact ⟨registry, fun other member => calling other (List.mem_cons_of_mem _ member)⟩
  | gone => exact ⟨registry, fun other member => calling other (List.mem_cons_of_mem _ member)⟩
  | come =>
    exact ⟨told_insert registry (calling _ List.mem_cons_self),
      fun other member => calling other (List.mem_cons_of_mem _ member)⟩
  | withheld => exact ⟨registry, fun other member => calling other (List.mem_cons_of_mem _ member)⟩

/-! ### The balance of a turn -/

/-- A hook for coming that has succeeded, of one of the extensions asked about. -/
def HookRun.arrives (which : Extension → Bool) (run : HookRun) : Bool :=
  which run.extension && decide (run.phase = .init) &&
    (run.extension.hook run.phase).failure.isNone

/-- A hook for going that has run, whether or not it has succeeded. -/
def HookRun.departs (which : Extension → Bool) (run : HookRun) : Bool :=
  which run.extension && decide (run.phase = .exit)

/-- A hook for going that is running. -/
def Calling.departs (which : Extension → Bool) (calling : Calling) : Bool :=
  which calling.extension && decide (calling.phase = .exit)

/-- How often the extensions asked about have come. -/
def arrivals (which : Extension → Bool) (runs : List HookRun) : Nat :=
  runs.countP (HookRun.arrives which)

/-- How often they have gone. -/
def departures (which : Extension → Bool) (runs : List HookRun) : Nat :=
  runs.countP (HookRun.departs which)

/-- The number of names under which they are registered. -/
def standing (which : Extension → Bool) (registry : Keyed Extension) : Nat :=
  registry.countP fun entry => which entry.2

/-- **The books of a roll**: what has come, with what was there, is what has gone or is going, what
is there, and what was withheld. -/
def Roll.Balanced (which : Extension → Bool) (opening withheld : Nat) (roll : Roll) : Prop :=
  arrivals which roll.ran + opening =
    departures which roll.ran + roll.calling.countP (Calling.departs which) +
      standing which roll.registry + withheld

section

variable {which : Extension → Bool} {name : String} {registry : Keyed Extension}
  {extension : Extension}

theorem standing_insert (free : registry.lookup name = none) :
    standing which (registry.insert name extension) =
      standing which registry + if which extension then 1 else 0 := by
  have same := Keyed.insert_perm name extension registry
  rw [Keyed.erase_of_lookup_eq_none free] at same
  rw [standing, same.countP_eq, List.countP_cons]
  rfl

theorem standing_erase (present : registry.lookup name = some extension) :
    standing which registry =
      standing which (registry.erase name) + if which extension then 1 else 0 := by
  rw [standing, (Keyed.perm_erase present).countP_eq, List.countP_cons]
  rfl

theorem arrivals_append (ran : List HookRun) (run : HookRun) :
    arrivals which (ran ++ [run]) = arrivals which ran + if run.arrives which then 1 else 0 := by
  rw [arrivals, List.countP_append, List.countP_singleton]
  rfl

theorem departures_append (ran : List HookRun) (run : HookRun) :
    departures which (ran ++ [run]) =
      departures which ran + if run.departs which then 1 else 0 := by
  rw [departures, List.countP_append, List.countP_singleton]
  rfl

variable {run : HookRun} {top : Calling}

theorem arrives_of_not_succeeds (of : run.extension = top.extension)
    (phase : run.phase = top.phase) (fails : ¬ top.Succeeds) : run.arrives which = false := by
  have failing : (run.extension.hook run.phase).failure.isNone = false := by
    rw [of, phase, Option.isNone_eq_false_iff, Option.isSome_iff_ne_none]
    exact fails
  rw [HookRun.arrives, failing, Bool.and_false]

theorem arrives_of_exit (exit : run.phase = .exit) : run.arrives which = false := by
  rw [HookRun.arrives, exit]
  simp only [reduceCtorEq, decide_false, Bool.and_false, Bool.false_and]

theorem arrives_of_succeeds (of : run.extension = top.extension) (phase : run.phase = top.phase)
    (init : top.phase = .init) (succeeds : top.Succeeds) :
    run.arrives which = which top.extension := by
  have done : (top.extension.hook .init).failure.isNone = true := by
    rw [← init, Option.isNone_iff_eq_none]
    exact succeeds
  simp only [HookRun.arrives, of, phase, init, done, decide_true, Bool.and_true]

/-- A hook for going counts the same while it runs and when it has run. -/
theorem departs_of_calling (of : run.extension = top.extension) (phase : run.phase = top.phase) :
    run.departs which = top.departs which := by
  rw [HookRun.departs, Calling.departs, of, phase]

theorem departs_of_init (init : top.phase = .init) : top.departs which = false := by
  rw [Calling.departs, init]
  simp only [reduceCtorEq, decide_false, Bool.and_false]

end

/-- **What a turn keeps.** -/
theorem Turn.balance {which : Extension → Bool} {opening count : Nat} {asked : Option Request}
    {withheld : Option Extension} {before after : Roll} (turn : Turn asked withheld before after)
    (told : ∀ request ∈ asked, request.Told) (balanced : before.Balanced which opening count) :
    after.Balanced which opening (count + withheld.toList.countP which) := by
  unfold Roll.Balanced at balanced ⊢
  cases turn with
  | quiet => exact balanced
  | inserted free => exact (told _ rfl).elim
  | removed => exact (told _ rfl).elim
  | coming valid free =>
    rw [List.countP_cons, departs_of_init rfl]
    exact balanced
  | going present =>
    rw [standing_erase present] at balanced
    simp only [List.countP_cons, Calling.departs, decide_true, Bool.and_true, Option.toList_none,
      List.countP_nil] at balanced ⊢
    omega
  | failed of phase fails =>
    rw [arrivals_append, departures_append, arrives_of_not_succeeds of phase fails,
      departs_of_calling of phase]
    simp only [List.countP_cons, Bool.false_eq_true, if_false, Option.toList_none,
      List.countP_nil] at balanced ⊢
    omega
  | gone of phase exit succeeds =>
    rw [arrivals_append, departures_append, arrives_of_exit (phase.trans exit),
      departs_of_calling of phase]
    simp only [List.countP_cons, Bool.false_eq_true, if_false, Option.toList_none,
      List.countP_nil] at balanced ⊢
    omega
  | come of phase init succeeds free =>
    rw [List.countP_cons, departs_of_init init] at balanced
    rw [arrivals_append, departures_append, standing_insert free,
      arrives_of_succeeds of phase init succeeds, departs_of_calling of phase,
      departs_of_init init]
    simp only [Bool.false_eq_true, if_false, Option.toList_none, List.countP_nil] at balanced ⊢
    omega
  | withheld of phase init succeeds taken =>
    rw [List.countP_cons, departs_of_init init] at balanced
    rw [arrivals_append, departures_append, arrives_of_succeeds of phase init succeeds,
      departs_of_calling of phase, departs_of_init init]
    simp only [Bool.false_eq_true, if_false, Option.toList_some, List.countP_singleton]
      at balanced ⊢
    omega

/-! ### The balance of a session -/

/-- Every extension of a session is told, those that its hooks still ask for included. -/
structure Session.Told (session : Session) : Prop where
  roll : session.roll.Told
  rest : ∀ activation ∈ session.running, RequestsTold activation.rest

namespace Session

/-- The extensions that come to nothing in a number of steps. -/
def withheldIn (session : Session) : (count : Nat) → List Extension
  | 0 => []
  | count + 1 => session.withheld?.toList ++ session.step.withheldIn count

theorem rest_of_deliver {session : Session} {answer : Answer} {activation : Activation}
    (member : activation ∈ (session.deliver answer).running) :
    ∃ old ∈ session.running, old.rest = activation.rest := by
  unfold deliver at member
  split at member
  · exact ⟨activation, member, rfl⟩
  · next top outer shape =>
    rw [shape]
    rcases List.mem_cons.mp member with rfl | deeper
    · exact ⟨top, List.mem_cons_self, rfl⟩
    · exact ⟨activation, List.mem_cons_of_mem _ deeper, rfl⟩

/-- A hook that a request runs has all its requests before it. -/
theorem rest_of_perform {target : Instance} {request : Request} {activation : Activation}
    (begun : (target.perform request).next = .inr activation) :
    activation.rest = (activation.extension.hook activation.phase).requests := by
  cases request with
  | register name extension =>
    simp only [Instance.perform] at begun
    split at begun
    · cases begun
      rfl
    · cases begun
  | unregister name =>
    simp only [Instance.perform] at begun
    split at begun
    · cases begun
    · cases begun
      rfl
  | insert name extension =>
    simp only [Instance.perform, Instance.withRegistry] at begun
    split at begun <;> cases begun
  | check name =>
    simp only [Instance.perform] at begun
    split at begun <;> cases begun
  | start =>
    simp only [Instance.perform] at begun
    split at begun <;> cases begun
  | _ => cases begun

theorem Told.ask {session : Session} {request : Request} (told : session.Told)
    (asked : request.Told) : (session.ask request).Told := by
  have roll : (session.ask request).roll.Told :=
    (session.turn_ask request).told (fun _ same => by cases same; exact asked) told.roll
  refine ⟨roll, ?_⟩
  intro activation member
  simp only [Session.ask] at member roll
  split at member
  · obtain ⟨old, present, same⟩ := rest_of_deliver member
    rw [← same]
    exact told.rest old present
  · next begun shape =>
    simp only [shape] at roll
    rcases List.mem_cons.mp member with rfl | outer
    · rw [rest_of_perform shape]
      exact (roll.calling activation.calling List.mem_cons_self).requests activation.phase
    · exact told.rest activation outer

theorem Told.next? {session : Session} (told : session.Told) :
    ∀ request ∈ session.next?, request.Told := by
  intro request asked
  unfold Session.next? at asked
  cases shape : session.running with
  | nil =>
    rw [shape] at asked
    cases asked
  | cons top outer =>
    have rest := told.rest top (shape ▸ List.mem_cons_self)
    rw [shape] at asked
    cases requests : top.rest with
    | nil =>
      rw [List.head?_cons, Option.bind_some, requests] at asked
      cases asked
    | cons first later =>
      rw [List.head?_cons, Option.bind_some, requests] at asked
      rw [requests] at rest
      cases asked
      exact rest.1

theorem Told.step {session : Session} (told : session.Told) (named : session.roll.Named) :
    session.step.Told := by
  have asked := told.next?
  refine ⟨(turn_step named).told asked told.roll, ?_⟩
  intro activation member
  unfold Session.step at member
  split at member
  · exact told.rest activation member
  · next top outer shape =>
    have inner : ∀ other ∈ outer, RequestsTold other.rest :=
      fun other present => told.rest other (shape ▸ List.mem_cons_of_mem _ present)
    split at member
    · obtain ⟨old, present, same⟩ := rest_of_deliver member
      rw [← same]
      exact inner old present
    · next request later requests =>
      have rest := told.rest top (shape ▸ List.mem_cons_self)
      rw [requests] at rest
      have paused : Session.Told
          { session with running := { top with rest := later } :: outer } := by
        refine ⟨⟨told.roll.registry, ?_⟩, ?_⟩
        · have calling := told.roll.calling
          rw [Session.roll, shape] at calling
          exact calling
        · intro other present
          rcases List.mem_cons.mp present with rfl | deeper
          · exact rest.2
          · exact inner other deeper
      exact (paused.ask rest.1).rest activation member

/-- **What a session keeps.** -/
theorem balance_steps {which : Extension → Bool} {opening count : Nat} {session : Session}
    (number : Nat) (told : session.Told) (named : session.roll.Named)
    (balanced : session.roll.Balanced which opening count) :
    (session.steps number).Told ∧ (session.steps number).roll.Balanced which opening
      (count + (session.withheldIn number).countP which) := by
  induction number generalizing session count with
  | zero => exact ⟨told, balanced⟩
  | succ number inductive_step =>
    have turn := turn_step named
    have later := inductive_step (told.step named) (turn.named named)
      (turn.balance told.next? balanced)
    rw [withheldIn, List.countP_append, ← Nat.add_assoc]
    exact later

end Session

/-! ### The balance of requests -/

/-- The extensions that come to nothing in a request. -/
def Instance.withheld (target : Instance) (request : Request) : List Extension :=
  let asked := (Session.start target).ask request
  asked.withheldIn asked.potential

/-- What comes of requests one after the other. -/
structure Course where
  target : Instance
  runs : List HookRun
  withheld : List Extension

/-- **Requests one after the other.** -/
def Instance.follow (target : Instance) : List Request → Course
  | [] => ⟨target, [], []⟩
  | request :: rest =>
    let session := target.ask request
    let later := session.target.follow rest
    ⟨later.target, session.runs ++ later.runs, target.withheld request ++ later.withheld⟩

/-- The balance of one request. -/
theorem Instance.balance_ask {target : Instance} {request : Request} (which : Extension → Bool)
    (registry : ∀ entry ∈ target.registry, entry.2.Told) (asked : request.Told) :
    (∀ entry ∈ (target.ask request).target.registry, entry.2.Told) ∧
      arrivals which (target.ask request).runs + standing which target.registry =
        departures which (target.ask request).runs +
          standing which (target.ask request).target.registry +
          (target.withheld request).countP which := by
  have named : (Session.start target).roll.Named := fun _ member => nomatch member
  have told : (Session.start target).Told :=
    ⟨⟨registry, fun _ member => nomatch member⟩, fun _ member => nomatch member⟩
  have balanced :
      (Session.start target).roll.Balanced which (standing which target.registry) 0 := by
    simp only [Roll.Balanced, Session.roll, Session.start, arrivals, departures, List.map_nil,
      List.countP_nil]
    omega
  have turn := (Session.start target).turn_ask request
  have only : ∀ other ∈ some request, other.Told := fun _ same => by cases same; exact asked
  obtain ⟨after, books⟩ := Session.balance_steps
    ((Session.start target).ask request).potential (told.ask asked) (turn.named named)
    (turn.balance only balanced)
  have idle : (target.ask request).running = [] := Session.running_settle _
  refine ⟨after.roll.registry, ?_⟩
  change (target.ask request).roll.Balanced which _ _ at books
  simp only [Roll.Balanced, Session.roll, idle, List.map_nil, List.countP_nil,
    Option.toList_none] at books
  rw [Instance.withheld]
  omega

/-- The balance of requests one after the other. -/
theorem Instance.balance_follow {target : Instance} {requests : List Request}
    (which : Extension → Bool) (registry : ∀ entry ∈ target.registry, entry.2.Told)
    (told : RequestsTold requests) :
    arrivals which (target.follow requests).runs + standing which target.registry =
      departures which (target.follow requests).runs +
        standing which (target.follow requests).target.registry +
        (target.follow requests).withheld.countP which := by
  induction requests generalizing target with
  | nil =>
    simp only [Instance.follow, arrivals, departures, List.countP_nil]
    omega
  | cons request rest inductive_step =>
    obtain ⟨kept, first⟩ := balance_ask which registry told.1
    have later := inductive_step kept told.2
    simp only [Instance.follow, arrivals, departures, List.countP_append] at first later ⊢
    omega

/-- **Extensions come and go in balance, but for those withheld**: as many hooks for coming have
succeeded as hooks for going have run, names are taken, and extensions were withheld. Without any of
the latter among the extensions asked about, and only then, the first number is that of the hooks
for going and the names. -/
theorem balanced_iff_none_withheld (target : Instance) (requests : List Request)
    (which : Extension → Bool) (empty : target.registry = []) (told : RequestsTold requests) :
    let course := target.follow requests
    arrivals which course.runs =
        departures which course.runs + standing which course.target.registry +
          course.withheld.countP which ∧
      (arrivals which course.runs =
          departures which course.runs + standing which course.target.registry ↔
        ∀ extension ∈ course.withheld, which extension = false) := by
  intro course
  have nobody : ∀ entry ∈ target.registry, entry.2.Told := by
    rw [empty]
    exact fun _ member => nomatch member
  have books := Instance.balance_follow which nobody told
  rw [empty] at books
  have books_all : arrivals which course.runs =
      departures which course.runs + standing which course.target.registry +
        course.withheld.countP which := books
  refine ⟨books_all, ?_⟩
  rw [books_all, Nat.add_eq_left, List.countP_eq_zero]
  simp only [Bool.not_eq_true]

/-- An extension that registers another one while it comes, and unregisters it while it goes. -/
def nestingExtension : Extension :=
  .active "outer" (.mk [.register "inner" (.marker "inner")] none)
    (.mk [.unregister "inner"] (some "alone"))

/-- An extension whose name is taken by another one while it comes. -/
def newcomer : Extension :=
  .active "newcomer" (.mk [.register "desk" (.marker "rival")] none) .idle

theorem balanced_iff_none_withheld_nested_registration :
    let target := Instance.ofItems 1 []
    let requests := [.register "desk" nestingExtension, .register "shelf" (.marker "outer"),
      .unregister "desk", .register "desk" newcomer]
    let course := target.follow requests
    let which := fun extension : Extension => extension.tag == "outer"
    target.registry = [] ∧ RequestsTold requests ∧
      arrivals which course.runs = 2 ∧ departures which course.runs = 1 ∧
      standing which course.target.registry = 1 ∧ course.withheld.length = 1 ∧
      ∀ extension ∈ course.withheld, which extension = false := by
  intro target requests course which
  have told : RequestsTold requests := by
    simp only [requests, RequestsTold, Request.Told, Extension.Told, Hook.Told, nestingExtension,
      newcomer, Hook.idle, and_self]
  have balance := (balanced_iff_none_withheld target requests which rfl told).2
  have come : arrivals which course.runs = 2 := by decide +kernel
  have gone : departures which course.runs = 1 := by decide +kernel
  have there : standing which course.target.registry = 1 := by decide +kernel
  refine ⟨rfl, told, come, gone, there, by decide +kernel, balance.mp ?_⟩
  exact come.trans (by rw [gone, there])

/-- Whether a registration was refused for its name being taken. -/
def Answer.isDuplicate : Answer → Bool
  | .failed (.duplicateName _) => true
  | _ => false

/-- **An extension that is initialized, but neither registered nor told to go**: it is refused as a
duplicate of an extension that came while its own hook for coming was running. -/
theorem newcomer_withheld :
    let target := Instance.ofItems 1 []
    let request := Request.register "desk" newcomer
    let course := target.follow [request]
    let which := fun extension : Extension => extension.tag == "newcomer"
    RequestsTold [request] ∧ (target.ask request).answer.any Answer.isDuplicate = true ∧
      arrivals which course.runs = 1 ∧ departures which course.runs = 0 ∧
      standing which course.target.registry = 0 ∧
      course.withheld.map Extension.tag = ["newcomer"] := by
  intro target request course which
  have told : RequestsTold [request] := by
    simp only [request, RequestsTold, Request.Told, Extension.Told, Hook.Told, newcomer, Hook.idle,
      and_self]
  exact ⟨told, by decide +kernel, by decide +kernel, by decide +kernel, by decide +kernel,
    by decide +kernel⟩

end InstanceHost
