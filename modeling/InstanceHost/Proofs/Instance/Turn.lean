/-
**What a step of a session does to the extensions.**

A session goes on step by step: the innermost hook makes its next request, or it ends. A `Roll`
keeps what the life of extensions is about: the registry, the hooks that are running, whatever they
still have to do, and those that have run. `Turn` is what a step does to it.

* `Turn`: the steps, one constructor for each way to come, to go, or to do neither;
* `Session.turn_ask`, `Session.turn_step`: a request and a step are turns;
* `Session.withheld?`: the extension that comes to nothing in a step, although its hook for coming
  has succeeded, because its name was taken meanwhile;
* `Activation.conclude_of_taken`: its registration is refused as a duplicate.
-/

import InstanceHost.Instance.Session

namespace InstanceHost

/-! ### Names -/

namespace Text

theorem trimStart_eq_self {characters : List Char}
    (visible : ∀ character ∈ characters, isBlank character = false) :
    trimStart characters = characters := by
  cases characters with
  | nil => rfl
  | cons first rest =>
    rw [trimStart, List.dropWhile_cons, visible first List.mem_cons_self]
    rfl

/-- **Text without blanks is not trimmed.** -/
theorem trim_eq_self {characters : List Char}
    (visible : ∀ character ∈ characters, isBlank character = false) :
    trim characters = characters := by
  have backwards : ∀ character ∈ characters.reverse, isBlank character = false :=
    fun character member => visible character (List.mem_reverse.mp member)
  rw [trim, trimStart_eq_self visible, trimEnd, trimStart_eq_self backwards, List.reverse_reverse]

end Text

namespace Extension

theorem isBlank_of_isWordCharacter {character : Char} (word : isWordCharacter character = true) :
    Text.isBlank character = false := by
  have range : ('a'.toNat ≤ character.toNat ∧ character.toNat ≤ 'z'.toNat) ∨
      ('0'.toNat ≤ character.toNat ∧ character.toNat ≤ '9'.toNat) := by
    simp only [isWordCharacter, Bool.or_eq_true, Bool.and_eq_true, decide_eq_true_eq] at word
    exact word
  simp only [show 'a'.toNat = 97 from rfl, show 'z'.toNat = 122 from rfl,
    show '0'.toNat = 48 from rfl, show '9'.toNat = 57 from rfl] at range
  simp only [Text.isBlank, Bool.or_eq_false_iff, Bool.and_eq_false_iff, decide_eq_false_iff_not,
    beq_eq_false_iff_ne]
  omega

theorem isBlank_of_isSeparator {character : Char} (separator : isSeparator character = true) :
    Text.isBlank character = false := by
  simp only [isSeparator, Bool.or_eq_true, beq_iff_eq] at separator
  rcases separator with (rfl | rfl) | rfl <;> decide

/-- **A name has no blanks around it.** -/
theorem trimmed_of_isName {name : String} (valid : isName name.toList = true) :
    Text.trimmed name = name := by
  have allowed := ((isName_iff _).mp valid).2.1
  have visible : ∀ character ∈ name.toList, Text.isBlank character = false := by
    intro character member
    rcases allowed character member with word | separator
    · exact isBlank_of_isWordCharacter word
    · exact isBlank_of_isSeparator separator
  rw [Text.trimmed, Text.trim_eq_self visible, String.ofList_toList]

namespace Registry

variable {α : Type} {registry : Keyed α} {name normal : String}

theorem freeName_eq_ok_iff :
    freeName registry name = .ok normal ↔
      normal = Text.trimmed name ∧ isName normal.toList = true ∧
        registry.lookup normal = none := by
  simp only [freeName]
  cases valid : isName (Text.trimmed name).toList with
  | false =>
    simp only [if_true, reduceCtorEq, false_iff]
    rintro ⟨rfl, other, _⟩
    rw [valid] at other
    cases other
  | true =>
    cases found : registry.lookup (Text.trimmed name) with
    | some value =>
      simp only [Keyed.contains, found, Option.isSome_some, Bool.true_eq_false, if_false, if_true,
        reduceCtorEq, false_iff]
      rintro ⟨rfl, _, free⟩
      rw [found] at free
      cases free
    | none =>
      simp only [Keyed.contains, found, Option.isSome_none, Bool.true_eq_false, Bool.false_eq_true,
        if_false, Except.ok.injEq]
      constructor
      · rintro rfl
        exact ⟨rfl, valid, found⟩
      · exact fun free => free.1.symm

/-- A name is refused only for being taken. -/
theorem freeName_of_isName (valid : isName name.toList = true) :
    freeName registry name =
      if registry.contains name then .error (.duplicateName name) else .ok name := by
  unfold freeName
  simp only [trimmed_of_isName valid, valid, Bool.true_eq_false, if_false]

end Registry

end Extension

/-! ### Rolls -/

/-- A hook that is running, whatever it still has to do. -/
structure Calling where
  name : String
  extension : Extension
  phase : Phase

/-- Whether the hook will succeed. -/
def Calling.Succeeds (calling : Calling) : Prop :=
  (calling.extension.hook calling.phase).failure = none

/-- A running hook without its requests and answers. -/
def Activation.calling (activation : Activation) : Calling :=
  ⟨activation.name, activation.extension, activation.phase⟩

/-- **What the life of extensions is about.** -/
structure Roll where
  registry : Keyed Extension
  /-- The hooks that are running, the innermost first. -/
  calling : List Calling
  ran : List HookRun

/-- What a session says of the life of extensions. -/
def Session.roll (session : Session) : Roll :=
  ⟨session.target.registry, session.running.map Activation.calling, session.runs⟩

/-- Extensions come under proper names. -/
def Roll.Named (roll : Roll) : Prop :=
  ∀ calling ∈ roll.calling, calling.phase = .init → Extension.isName calling.name.toList = true

/-! ### Turns -/

/-- **What a step does to the roll**, with the request that is made, if no hook ends, and with the
extension that comes to nothing although its hook for coming has succeeded. -/
inductive Turn : Option Request → Option Extension → Roll → Roll → Prop
  | quiet {asked : Option Request} {roll : Roll} : Turn asked none roll roll
  | inserted {registry : Keyed Extension} {calling : List Calling} {ran : List HookRun}
      {name : String} {extension : Extension} (free : registry.lookup (Text.trimmed name) = none)
      (valid : Extension.isName (Text.trimmed name).toList = true) :
      Turn (some (.insert name extension)) none ⟨registry, calling, ran⟩
        ⟨registry.insert (Text.trimmed name) extension, calling, ran⟩
  | removed {registry : Keyed Extension} {calling : List Calling} {ran : List HookRun}
      {name : String} :
      Turn (some (.remove name)) none ⟨registry, calling, ran⟩
        ⟨registry.erase (Text.trimmed name), calling, ran⟩
  /-- The hook for coming begins. -/
  | coming {registry : Keyed Extension} {calling : List Calling} {ran : List HookRun}
      {name : String} {extension : Extension}
      (valid : Extension.isName (Text.trimmed name).toList = true)
      (free : registry.lookup (Text.trimmed name) = none) :
      Turn (some (.register name extension)) none ⟨registry, calling, ran⟩
        ⟨registry, ⟨Text.trimmed name, extension, .init⟩ :: calling, ran⟩
  /-- The extension is removed, and its hook for going begins. -/
  | going {registry : Keyed Extension} {calling : List Calling} {ran : List HookRun}
      {name : String} {extension : Extension}
      (present : registry.lookup (Text.trimmed name) = some extension) :
      Turn (some (.unregister name)) none ⟨registry, calling, ran⟩
        ⟨registry.erase (Text.trimmed name), ⟨Text.trimmed name, extension, .exit⟩ :: calling, ran⟩
  | failed {registry : Keyed Extension} {top : Calling} {calling : List Calling}
      {ran : List HookRun} {run : HookRun} (of : run.extension = top.extension)
      (phase : run.phase = top.phase) (fails : ¬ top.Succeeds) :
      Turn none none ⟨registry, top :: calling, ran⟩ ⟨registry, calling, ran ++ [run]⟩
  | gone {registry : Keyed Extension} {top : Calling} {calling : List Calling}
      {ran : List HookRun} {run : HookRun} (of : run.extension = top.extension)
      (phase : run.phase = top.phase) (exit : top.phase = .exit) (succeeds : top.Succeeds) :
      Turn none none ⟨registry, top :: calling, ran⟩ ⟨registry, calling, ran ++ [run]⟩
  /-- The hook for coming has succeeded, and the extension is inserted. -/
  | come {registry : Keyed Extension} {top : Calling} {calling : List Calling}
      {ran : List HookRun} {run : HookRun} (of : run.extension = top.extension)
      (phase : run.phase = top.phase) (init : top.phase = .init) (succeeds : top.Succeeds)
      (free : registry.lookup top.name = none) :
      Turn none none ⟨registry, top :: calling, ran⟩
        ⟨registry.insert top.name top.extension, calling, ran ++ [run]⟩
  /-- The hook for coming has succeeded, but the name was taken meanwhile. -/
  | withheld {registry : Keyed Extension} {top : Calling} {calling : List Calling}
      {ran : List HookRun} {run : HookRun} (of : run.extension = top.extension)
      (phase : run.phase = top.phase) (init : top.phase = .init) (succeeds : top.Succeeds)
      (taken : registry.contains top.name = true) :
      Turn none (some top.extension) ⟨registry, top :: calling, ran⟩
        ⟨registry, calling, ran ++ [run]⟩

theorem Turn.named {asked : Option Request} {withheld : Option Extension} {before after : Roll}
    (turn : Turn asked withheld before after) (named : before.Named) : after.Named := by
  cases turn with
  | quiet => exact named
  | inserted => exact named
  | removed => exact named
  | coming valid free =>
    intro calling member init
    rcases List.mem_cons.mp member with rfl | outer
    · exact valid
    · exact named calling outer init
  | going present =>
    intro calling member init
    rcases List.mem_cons.mp member with rfl | outer
    · cases init
    · exact named calling outer init
  | failed => exact fun calling member => named calling (List.mem_cons_of_mem _ member)
  | gone => exact fun calling member => named calling (List.mem_cons_of_mem _ member)
  | come => exact fun calling member => named calling (List.mem_cons_of_mem _ member)
  | withheld => exact fun calling member => named calling (List.mem_cons_of_mem _ member)

/-! ### Steps are turns -/

namespace Activation

/-- Whether an extension comes to nothing when its hook ends now: it is the hook for coming, which
succeeds, and the name was taken meanwhile. -/
def isWithheld (top : Activation) (registry : Keyed Extension) : Bool :=
  decide (top.phase = .init) && (top.extension.hook top.phase).failure.isNone &&
    registry.contains top.name

/-- **Such a registration is refused as a duplicate.** -/
theorem conclude_of_taken {top : Activation} {target : Instance}
    (valid : Extension.isName top.name.toList = true)
    (withheld : top.isWithheld target.registry = true) :
    top.conclude target = ⟨target, [], .failed (.duplicateName top.name)⟩ := by
  simp only [isWithheld, Bool.and_eq_true, decide_eq_true_eq, Option.isNone_iff_eq_none] at withheld
  obtain ⟨⟨init, succeeds⟩, taken⟩ := withheld
  have refused : Extension.Registry.insert target.registry top.name top.extension =
      .error (.duplicateName top.name) := by
    rw [Extension.Registry.insert, Extension.Registry.freeName_of_isName valid, if_pos taken]
    rfl
  unfold conclude
  rw [succeeds, init, refused]

end Activation

namespace Session

/-- The request that is made in the next step, if no hook ends in it. -/
def next? (session : Session) : Option Request :=
  session.running.head?.bind (·.rest.head?)

/-- **The extension that comes to nothing in the next step**, although its hook for coming has
succeeded. -/
def withheld? (session : Session) : Option Extension :=
  match session.running with
  | [] => none
  | top :: _ =>
    if top.rest.isEmpty && top.isWithheld session.target.registry then some top.extension else none

theorem roll_deliver (session : Session) (answer : Answer) :
    (session.deliver answer).roll = session.roll := by
  unfold deliver
  split
  · rfl
  · next top outer shape => simp [roll, shape, Activation.calling]

theorem roll_ask_of_answer {session : Session} {request : Request} {answer : Answer}
    (answered : (session.target.perform request).next = .inl answer) :
    (session.ask request).roll =
      ⟨(session.target.perform request).target.registry, session.roll.calling, session.runs⟩ := by
  simp only [ask, answered, roll_deliver]
  rfl

/-- A request that leaves the registry alone and runs no hook. -/
theorem turn_ask_of_quiet {session : Session} {request : Request} {answer : Answer}
    (same : (session.target.perform request).target.registry = session.target.registry)
    (answered : (session.target.perform request).next = .inl answer) :
    Turn (some request) none session.roll (session.ask request).roll := by
  rw [roll_ask_of_answer answered, same]
  exact .quiet

/-- **A request is a turn.** -/
theorem turn_ask (session : Session) (request : Request) :
    Turn (some request) none session.roll (session.ask request).roll := by
  cases request with
  | set key value =>
    refine turn_ask_of_quiet ?_ rfl
    simp only [Instance.perform, Instance.set]
    split <;> rfl
  | check name =>
    cases free : Extension.Registry.freeName session.target.registry name with
    | ok normal =>
      exact turn_ask_of_quiet (by simp only [Instance.perform, free]; rfl)
        (by simp only [Instance.perform, free]; rfl)
    | error failure =>
      exact turn_ask_of_quiet (by simp only [Instance.perform, free]; rfl)
        (by simp only [Instance.perform, free]; rfl)
  | insert name extension =>
    cases inserted : Extension.Registry.insert session.target.registry name extension with
    | error failure =>
      exact turn_ask_of_quiet
        (by simp only [Instance.perform, Instance.withRegistry, inserted]; rfl)
        (by simp only [Instance.perform, Instance.withRegistry, inserted]; rfl)
    | ok registry =>
      obtain ⟨accepted, rfl⟩ := Extension.Registry.insert_eq_ok_iff.mp inserted
      obtain ⟨_, valid, free⟩ := Extension.Registry.freeName_eq_ok_iff.mp accepted
      have answered : (session.target.perform (.insert name extension)).next = .inl .done := by
        simp only [Instance.perform, Instance.withRegistry, inserted]
      rw [roll_ask_of_answer answered]
      simp only [Instance.perform, Instance.withRegistry, inserted]
      exact .inserted free valid
  | register name extension =>
    cases accepted : Extension.Registry.freeName session.target.registry name with
    | error failure =>
      exact turn_ask_of_quiet (by simp only [Instance.perform, accepted]; rfl)
        (by simp only [Instance.perform, accepted]; rfl)
    | ok normal =>
      obtain ⟨rfl, valid, free⟩ := Extension.Registry.freeName_eq_ok_iff.mp accepted
      simp only [ask, Instance.perform, accepted]
      exact .coming valid free
  | unregister name =>
    cases found : Extension.Registry.find? session.target.registry name with
    | none =>
      exact turn_ask_of_quiet (by simp only [Instance.perform, found]; rfl)
        (by simp only [Instance.perform, found]; rfl)
    | some extension =>
      simp only [ask, Instance.perform, found]
      exact .going found
  | remove name =>
    rw [roll_ask_of_answer rfl]
    exact .removed
  | start =>
    have same : session.target.start.1.registry = session.target.registry := by
      unfold Instance.start Instance.finishStart
      split <;> rfl
    cases came : session.target.start with
    | mk started rest =>
      obtain ⟨events, result⟩ := rest
      rw [came] at same
      cases result with
      | ok done =>
        have answered : (session.target.perform .start).next = .inl .done := by
          simp only [Instance.perform, came]
        exact turn_ask_of_quiet (by simp only [Instance.perform, came]; exact same) answered
      | error refusal =>
        have answered : (session.target.perform .start).next = .inl (.refused refusal) := by
          simp only [Instance.perform, came]
        exact turn_ask_of_quiet (by simp only [Instance.perform, came]; exact same) answered
  | _ => exact turn_ask_of_quiet rfl rfl

theorem roll_leave (session : Session) (top : Activation) (outer : List Activation) :
    (session.leave top outer).roll =
      ⟨(top.conclude session.target).target.registry, outer.map Activation.calling,
        session.runs ++ [⟨top.extension, top.phase, session.target.names, top.answers⟩]⟩ := by
  unfold leave
  rw [roll_deliver]
  rfl

/-- **The end of a hook is a turn.** -/
theorem turn_leave {session : Session} {top : Activation} {outer : List Activation}
    (shape : session.running = top :: outer) (named : session.roll.Named) :
    Turn none (if top.isWithheld session.target.registry then some top.extension else none)
      session.roll (session.leave top outer).roll := by
  have roll : session.roll =
      ⟨session.target.registry, top.calling :: outer.map Activation.calling, session.runs⟩ := by
    rw [Session.roll, shape, List.map_cons]
  have valid : top.phase = .init → Extension.isName top.name.toList = true := by
    rw [roll] at named
    exact named top.calling List.mem_cons_self
  rw [roll, roll_leave]
  cases failure : (top.extension.hook top.phase).failure with
  | some message =>
    have fails : ¬ top.calling.Succeeds := fun succeeds => by
      rw [Calling.Succeeds, Activation.calling, failure] at succeeds
      cases succeeds
    simp only [Activation.isWithheld, Activation.conclude, failure, Option.isNone_some,
      Bool.and_false, Bool.false_and, Bool.false_eq_true, if_false]
    exact .failed rfl rfl fails
  | none =>
    have succeeds : top.calling.Succeeds := failure
    cases phase : top.phase with
    | exit =>
      have kept : (top.conclude session.target).target = session.target := by
        unfold Activation.conclude
        rw [failure, phase]
      rw [kept]
      simp only [Activation.isWithheld, phase, reduceCtorEq, decide_false, Bool.false_and,
        Bool.false_eq_true, if_false]
      exact .gone rfl phase.symm phase succeeds
    | init =>
      have proper := valid phase
      by_cases taken : session.target.registry.contains top.name = true
      · have withheld : top.isWithheld session.target.registry = true := by
          simp only [Activation.isWithheld, phase, taken, decide_true, Bool.true_and, Bool.and_true,
            Option.isNone_iff_eq_none]
          rw [← phase]
          exact failure
        rw [Activation.conclude_of_taken proper withheld, if_pos withheld]
        exact .withheld rfl phase.symm phase succeeds taken
      · have free : session.target.registry.lookup top.name = none := by
          simpa only [Keyed.contains, Bool.not_eq_true, Option.isSome_eq_false_iff,
            Option.isNone_iff_eq_none] using taken
        have inserted : Extension.Registry.insert session.target.registry top.name top.extension =
            .ok (session.target.registry.insert top.name top.extension) := by
          rw [Extension.Registry.insert, Extension.Registry.freeName_of_isName proper,
            if_neg taken]
          rfl
        have concluded : (top.conclude session.target).target.registry =
            session.target.registry.insert top.name top.extension := by
          unfold Activation.conclude
          rw [failure, phase, inserted]
        rw [concluded]
        simp only [Activation.isWithheld, taken, Bool.and_false, Bool.false_eq_true, if_false]
        exact .come rfl phase.symm phase succeeds free

/-- **A step is a turn.** -/
theorem turn_step {session : Session} (named : session.roll.Named) :
    Turn session.next? session.withheld? session.roll session.step.roll := by
  unfold next? withheld? step
  cases shape : session.running with
  | nil => exact .quiet
  | cons top outer =>
    cases rest : top.rest with
    | nil =>
      simp only [List.head?_cons, Option.bind_some, rest, List.head?_nil, List.isEmpty_nil,
        Bool.true_and]
      exact turn_leave shape named
    | cons request others =>
      simp only [List.head?_cons, Option.bind_some, rest, List.isEmpty_cons, Bool.false_and,
        Bool.false_eq_true, if_false]
      have same : session.roll =
          Session.roll { session with running := { top with rest := others } :: outer } := by
        simp only [roll, shape, List.map_cons, Activation.calling]
      rw [same]
      exact turn_ask _ request

end Session

end InstanceHost
