/-
**How long an extension holds its name.**

A run of an instance is a chain of moves: a request is answered, a request runs a hook, or a hook
ends. Each move is labelled by its deed. An entry comes into the registry by two deeds, an insertion
that is done and a registration that is done after its hook, and only under a name that is free;
it goes by two deeds, a removal and a deregistration of its name. In between nothing replaces it,
whatever the hooks do in the meantime and at whatever depth.

While a hook runs, the hooks below it wait as they are. So the requests that a hook makes lie
between its beginning and its end, and what a failed registration or a deregistration leaves behind
is what these requests have left behind.

* `Deed.enters?`, `Deed.removes?`: the entry that comes by a deed, and the name that goes;
* `Session.Move.change`: what a move does to the registry, and from it `Deed.Change.tenure`;
* `Passage.held`, `Passage.entered`, `Passage.ran`: a chain of moves, by induction;
* `Session.Over`: a hook with other ones under it, which stay as they are;
* `exists_hosts`: a hook that begins comes to its last request;
* `held_until_removed`: every move, every chain of moves, and every whole request.
-/

import InstanceHost.Proofs.Extension.Registry

namespace InstanceHost

/-! ### Entries -/

namespace Keyed

variable {α : Type} {name other : String} {value found : α} {entries : Keyed α}

theorem lookup_insert_of_free (free : lookup name entries = none) :
    lookup other (insert name value entries) = some found ↔
      other = name ∧ found = value ∨ lookup other entries = some found := by
  by_cases same : other = name
  · subst same
    rw [lookup_insert_self, free]
    simp [eq_comm]
  · rw [lookup_insert_of_ne same]
    simp [same]

theorem lookup_erase_eq_some_iff (ordered : Ascending entries) :
    lookup other (erase name entries) = some found ↔
      other ≠ name ∧ lookup other entries = some found := by
  by_cases same : other = name
  · subst same
    rw [lookup_erase_self ordered]
    simp
  · rw [lookup_erase_of_ne same ordered]
    simp [same]

end Keyed

/-! ### Deeds -/

/-- **What is done in one move.** -/
inductive Deed where
  /-- A request is answered at once. -/
  | answered (request : Request) (answer : Answer)
  /-- A request runs a hook. -/
  | began (request : Request) (activation : Activation)
  /-- A hook ends, and the request that ran it is answered. -/
  | ended (top : Activation) (answer : Answer)

namespace Deed

/-- The answer that is given, if one is. -/
def answer? : Deed → Option Answer
  | .answered _ answer => some answer
  | .began _ _ => none
  | .ended _ answer => some answer

/-- The hook that has run, if one has. -/
def ran : Deed → List (Extension × Phase)
  | .answered _ _ => []
  | .began _ _ => []
  | .ended top _ => [(top.extension, top.phase)]

/-- **The entry that comes by a deed**: with an insertion that is done, and with the end of a hook
for coming by which a registration is done. -/
def enters? : Deed → Option (String × Extension)
  | .answered (.insert given extension) .done => some (Text.trimmed given, extension)
  | .ended top .done => if top.phase = .init then some (top.name, top.extension) else none
  | _ => none

/-- **The name that goes by a deed**: with a removal, and with the beginning of a deregistration. -/
def removes? : Deed → Option String
  | .answered (.remove given) _ => some (Text.trimmed given)
  | .began (.unregister given) _ => some (Text.trimmed given)
  | _ => none

/-- **What a deed does to a registry.** -/
inductive Change : Deed → Keyed Extension → Keyed Extension → Prop
  | quiet {deed : Deed} {registry : Keyed Extension} {answer : Answer}
      (answers : deed.answer? = some answer) (nobody : deed.enters? = none)
      (nothing : deed.removes? = none) : Change deed registry registry
  | entered {deed : Deed} {registry : Keyed Extension} {name : String} {extension : Extension}
      (done : deed.answer? = some .done) (enters : deed.enters? = some (name, extension))
      (nothing : deed.removes? = none) (free : registry.lookup name = none) :
      Change deed registry (registry.insert name extension)
  /-- A hook for coming begins. -/
  | coming {registry : Keyed Extension} {given : String} {extension : Extension}
      (free : registry.lookup (Text.trimmed given) = none) :
      Change (.began (.register given extension) (extension.activate (Text.trimmed given) .init))
        registry registry
  | removed {registry : Keyed Extension} {given : String} {tag : Option String} :
      Change (.answered (.remove given) (.tag tag)) registry (registry.erase (Text.trimmed given))
  /-- A hook for going begins. -/
  | going {registry : Keyed Extension} {given : String} {extension : Extension}
      (present : registry.lookup (Text.trimmed given) = some extension) :
      Change (.began (.unregister given) (extension.activate (Text.trimmed given) .exit))
        registry (registry.erase (Text.trimmed given))

/-- **What a deed means for the entries of a registry.** An entry comes exactly by the deeds that
enter it, under a free name, and goes only by those that remove its name. A deed that fails changes
nothing. A hook begins with its name being free: one for coming before its entry is there, and one
for going after its entry was taken out. -/
structure Tenure (deed : Deed) (before after : Keyed Extension) : Prop where
  enters : ∀ name extension, deed.enters? = some (name, extension) ↔
    before.lookup name = none ∧ after.lookup name = some extension
  comes : ∀ name extension, after.lookup name = some extension →
    before.lookup name = some extension ∨ deed.enters? = some (name, extension)
  stays : ∀ name extension, before.lookup name = some extension →
    after.lookup name = some extension ∨ deed.removes? = some name
  removes : ∀ name, deed.removes? = some name → after.lookup name = none
  failed : ∀ failure, deed.answer? = some (.failed failure) → after = before
  begun : ∀ request activation, deed = .began request activation →
    after.lookup activation.name = none
  coming : ∀ request activation, deed = .began request activation → activation.phase = .init →
    after = before
  going : ∀ request activation, deed = .began request activation → activation.phase = .exit →
    before.lookup activation.name = some activation.extension ∧
      deed.removes? = some activation.name

namespace Change

variable {deed : Deed} {before after : Keyed Extension} {name : String} {extension : Extension}

theorem comes (change : deed.Change before after) (ordered : before.Ascending)
    (there : after.lookup name = some extension) :
    before.lookup name = some extension ∨ deed.enters? = some (name, extension) := by
  cases change with
  | quiet => exact Or.inl there
  | coming => exact Or.inl there
  | entered _ enters _ free =>
    refine ((Keyed.lookup_insert_of_free free).mp there).symm.imp_right ?_
    rintro ⟨rfl, rfl⟩
    exact enters
  | removed => exact Or.inl ((Keyed.lookup_erase_eq_some_iff ordered).mp there).2
  | going => exact Or.inl ((Keyed.lookup_erase_eq_some_iff ordered).mp there).2

theorem stays (change : deed.Change before after) (ordered : before.Ascending)
    (there : before.lookup name = some extension) :
    after.lookup name = some extension ∨ deed.removes? = some name := by
  cases change with
  | quiet => exact Or.inl there
  | coming => exact Or.inl there
  | entered _ _ _ free => exact Or.inl ((Keyed.lookup_insert_of_free free).mpr (Or.inr there))
  | @removed _ given =>
    by_cases same : name = Text.trimmed given
    · exact Or.inr (congrArg some same.symm)
    · exact Or.inl ((Keyed.lookup_erase_eq_some_iff ordered).mpr ⟨same, there⟩)
  | @going _ given =>
    by_cases same : name = Text.trimmed given
    · exact Or.inr (congrArg some same.symm)
    · exact Or.inl ((Keyed.lookup_erase_eq_some_iff ordered).mpr ⟨same, there⟩)

/-- **An entry comes exactly by a deed that enters it.** -/
theorem enters_iff (change : deed.Change before after) (ordered : before.Ascending) :
    deed.enters? = some (name, extension) ↔
      before.lookup name = none ∧ after.lookup name = some extension := by
  constructor
  · intro enters
    cases change with
    | quiet _ nobody => cases nobody.symm.trans enters
    | entered _ known _ free =>
      cases known.symm.trans enters
      exact ⟨free, Keyed.lookup_insert_self _ _ _⟩
    | coming => cases enters
    | removed => cases enters
    | going => cases enters
  · rintro ⟨free, there⟩
    refine (change.comes ordered there).resolve_left fun earlier => ?_
    cases free.symm.trans earlier

theorem removes (change : deed.Change before after) (ordered : before.Ascending)
    (removes : deed.removes? = some name) : after.lookup name = none := by
  cases change with
  | quiet _ _ nothing => cases nothing.symm.trans removes
  | entered _ _ nothing => cases nothing.symm.trans removes
  | coming => cases removes
  | removed =>
    cases removes
    exact Keyed.lookup_erase_self ordered
  | going =>
    cases removes
    exact Keyed.lookup_erase_self ordered

/-- **A change of a registry in order** means this for its entries. -/
theorem tenure (change : deed.Change before after) (ordered : before.Ascending) :
    deed.Tenure before after where
  enters _ _ := change.enters_iff ordered
  comes _ _ there := change.comes ordered there
  stays _ _ there := change.stays ordered there
  removes _ removes := change.removes ordered removes
  failed failure fails := by
    cases change with
    | quiet => rfl
    | entered done => cases done.symm.trans fails
    | coming => rfl
    | removed => cases fails
    | going => cases fails
  begun request activation begun := by
    subst begun
    cases change with
    | quiet answers => cases answers
    | entered done => cases done
    | coming free => exact free
    | going => exact Keyed.lookup_erase_self ordered
  coming request activation begun init := by
    subst begun
    cases change with
    | quiet => rfl
    | entered done => cases done
    | coming => rfl
    | going => cases init
  going request activation begun exit := by
    subst begun
    cases change with
    | quiet answers => cases answers
    | entered done => cases done
    | coming => cases exit
    | going present => exact ⟨present, rfl⟩

end Change

end Deed

/-! ### Moves -/

/-- What a request does, as a deed. -/
def Instance.deed (target : Instance) (request : Request) : Deed :=
  match (target.perform request).next with
  | .inl answer => .answered request answer
  | .inr activation => .began request activation

/-- **The deed of a request** changes the registry of the instance. -/
theorem Instance.change_perform (target : Instance) (request : Request) :
    (target.deed request).Change target.registry (target.perform request).target.registry := by
  cases request with
  | set key value =>
    simp only [deed, perform, Instance.set]
    split <;> exact .quiet rfl rfl rfl
  | check name =>
    cases free : Extension.Registry.freeName target.registry name with
    | ok normal =>
      simp only [deed, perform, free, tell]
      exact .quiet rfl rfl rfl
    | error failure =>
      simp only [deed, perform, free, tell]
      exact .quiet rfl rfl rfl
  | insert name extension =>
    cases inserted : Extension.Registry.insert target.registry name extension with
    | ok registry =>
      obtain ⟨accepted, rfl⟩ := Extension.Registry.insert_eq_ok_iff.mp inserted
      simp only [deed, perform, withRegistry, inserted]
      exact .entered rfl rfl rfl (Extension.Registry.freeName_eq_ok_iff.mp accepted).2.2
    | error failure =>
      simp only [deed, perform, withRegistry, inserted, tell]
      exact .quiet rfl rfl rfl
  | register name extension =>
    cases accepted : Extension.Registry.freeName target.registry name with
    | ok normal =>
      obtain ⟨rfl, _, free⟩ := Extension.Registry.freeName_eq_ok_iff.mp accepted
      simp only [deed, perform, accepted]
      exact .coming free
    | error failure =>
      simp only [deed, perform, accepted, tell]
      exact .quiet rfl rfl rfl
  | unregister name =>
    cases found : Extension.Registry.find? target.registry name with
    | some extension =>
      simp only [deed, perform, found]
      exact .going found
    | none =>
      simp only [deed, perform, found, tell]
      exact .quiet rfl rfl rfl
  | remove name =>
    simp only [deed, perform]
    exact .removed
  | start =>
    cases refusal : target.refusal with
    | some message =>
      simp only [deed, perform, start, finishStart, beginStart, refusal]
      exact .quiet rfl rfl rfl
    | none =>
      simp only [deed, perform, start, finishStart, beginStart, becomeReady, refusal]
      exact .quiet rfl rfl rfl
  | _ =>
    simp only [deed, perform, tell]
    exact .quiet rfl rfl rfl

/-- **The deed of a hook that ends** changes the registry of the instance. -/
theorem Activation.change_conclude {top : Activation} (target : Instance)
    (valid : top.phase = .init → Extension.isName top.name.toList = true) :
    (Deed.ended top (top.conclude target).answer).Change target.registry
      (top.conclude target).target.registry := by
  unfold conclude
  split
  · exact .quiet rfl rfl rfl
  · split
    · next exit =>
      have other : ¬ top.phase = .init := fun init => by cases exit.symm.trans init
      exact .quiet rfl (if_neg other) rfl
    · next init =>
      split
      · exact .quiet rfl rfl rfl
      · next registry inserted =>
        obtain ⟨accepted, rfl⟩ := Extension.Registry.insert_eq_ok_iff.mp inserted
        have free := (Extension.Registry.freeName_eq_ok_iff.mp accepted).2.2
        -- the name was trimmed when its hook began, so trimming it again is nothing
        rw [Extension.trimmed_of_isName (valid init)] at free ⊢
        exact .entered rfl (if_pos init) rfl free

namespace Session

/-- **Who makes a request**, and how it waits for the answer: somebody outside, if no hook is
running, or the innermost hook. -/
inductive Asks : Session → Request → Session → Prop
  | outside {session : Session} {request : Request} (idle : session.running = []) :
      Asks session request session
  | inside {session : Session} {request : Request} {top : Activation} {outer : List Activation}
      {later : List Request} (shape : session.running = top :: outer)
      (rest : top.rest = request :: later) :
      Asks session request { session with running := { top with rest := later } :: outer }

/-- **A move of a run**, with its deed. -/
inductive Move : Session → Deed → Session → Prop
  | asking {session asker : Session} {request : Request} (asks : session.Asks request asker) :
      Move session (session.target.deed request) (asker.ask request)
  | ending {session : Session} {top : Activation} {outer : List Activation}
      (shape : session.running = top :: outer) (rest : top.rest = []) :
      Move session (.ended top (top.conclude session.target).answer) (session.leave top outer)

/-- A session whose registry is proper, and whose hooks for coming have proper names. -/
structure Regular (session : Session) : Prop where
  named : session.roll.Named
  proper : Extension.Registry.Proper session.target.registry

variable {session asker after : Session} {request : Request} {deed : Deed}

theorem Asks.target_eq (asks : session.Asks request asker) : asker.target = session.target := by
  cases asks <;> rfl

theorem Asks.runs_eq (asks : session.Asks request asker) : asker.runs = session.runs := by
  cases asks <;> rfl

theorem Asks.roll_eq (asks : session.Asks request asker) : asker.roll = session.roll := by
  cases asks with
  | outside => rfl
  | inside shape => simp only [roll, shape, List.map_cons, Activation.calling]

theorem Asks.regular (asks : session.Asks request asker) (regular : session.Regular) :
    asker.Regular :=
  ⟨asks.roll_eq ▸ regular.named, asks.target_eq ▸ regular.proper⟩

/-- A hook that runs makes a step a move. -/
theorem exists_move (busy : session.running ≠ []) : ∃ deed, session.Move deed session.step := by
  cases shape : session.running with
  | nil => exact absurd shape busy
  | cons top outer =>
    cases rest : top.rest with
    | nil =>
      simp only [step, shape, rest]
      exact ⟨_, .ending shape rest⟩
    | cons request later =>
      simp only [step, shape, rest]
      exact ⟨_, .asking (.inside shape rest)⟩

/-- The running hooks have proper names. -/
theorem Regular.valid {top : Activation} {outer : List Activation} (regular : session.Regular)
    (shape : session.running = top :: outer) (init : top.phase = .init) :
    Extension.isName top.name.toList = true := by
  refine regular.named top.calling ?_ init
  rw [roll, shape, List.map_cons]
  exact List.mem_cons_self

theorem Regular.turn {asked : Option Request} {withheld : Option Extension}
    (regular : session.Regular) (turn : Turn asked withheld session.roll after.roll) :
    after.Regular :=
  ⟨turn.named regular.named, turn.proper regular.named regular.proper⟩

theorem Regular.ask (regular : session.Regular) (request : Request) :
    (session.ask request).Regular :=
  regular.turn (session.turn_ask request)

namespace Move

/-- **What a move does to the registry.** -/
theorem change (move : session.Move deed after) (regular : session.Regular) :
    deed.Change session.target.registry after.target.registry := by
  cases move with
  | asking asks =>
    rw [Instance.Continues.target_ask, asks.target_eq]
    exact session.target.change_perform _
  | ending shape rest =>
    rw [Instance.Continues.target_leave]
    exact Activation.change_conclude session.target (regular.valid shape)

theorem regular (move : session.Move deed after) (regular : session.Regular) : after.Regular := by
  cases move with
  | asking asks => exact (asks.regular regular).ask _
  | ending shape rest => exact regular.turn (turn_leave shape regular.named)

end Move

end Session

/-! ### Hooks that have run -/

/-- Which hook has run. -/
def HookRun.which (run : HookRun) : Extension × Phase :=
  (run.extension, run.phase)

namespace Session

variable {session after : Session} {request : Request} {deed : Deed}

theorem runs_ask (session : Session) (request : Request) :
    (session.ask request).runs = session.runs := by
  unfold ask
  simp only
  split
  · exact congrArg Roll.ran (roll_deliver _ _)
  · rfl

theorem runs_leave (session : Session) (top : Activation) (outer : List Activation) :
    (session.leave top outer).runs =
      session.runs ++ [⟨top.extension, top.phase, session.target.names, top.answers⟩] :=
  congrArg Roll.ran (session.roll_leave top outer)

theorem ran_deed (target : Instance) (request : Request) : (target.deed request).ran = [] := by
  unfold Instance.deed
  split <;> rfl

/-- **The hooks that have run** are those that ended. -/
theorem Move.ran (move : session.Move deed after) :
    after.runs.map HookRun.which = session.runs.map HookRun.which ++ deed.ran := by
  cases move with
  | asking asks => rw [runs_ask, asks.runs_eq, ran_deed, List.append_nil]
  | ending shape rest =>
    rw [runs_leave, List.map_append]
    rfl

/-! ### Chains of moves -/

/-- **A chain of moves** with their deeds, in which so many hooks at least stay running. -/
inductive Passage (height : Nat) : Session → List Deed → Session → Prop
  | stay {session : Session} : Passage height session [] session
  | go {first next last : Session} {deed : Deed} {deeds : List Deed} (move : first.Move deed next)
      (deep : height ≤ next.running.length) (rest : Passage height next deeds last) :
      Passage height first (deed :: deeds) last

namespace Passage

variable {height : Nat} {first last : Session} {deeds : List Deed} {name : String}
  {extension : Extension}

theorem regular (passage : Passage height first deeds last) (regular : first.Regular) :
    last.Regular := by
  induction passage with
  | stay => exact regular
  | go move _ _ inductive_step => exact inductive_step (move.regular regular)

/-- **An entry stays** as long as nothing removes its name. -/
theorem held (passage : Passage height first deeds last) (regular : first.Regular)
    (there : first.target.registry.lookup name = some extension)
    (kept : ∀ deed ∈ deeds, deed.removes? ≠ some name) :
    last.target.registry.lookup name = some extension := by
  induction passage with
  | stay => exact there
  | go move _ _ inductive_step =>
    obtain ⟨here, later⟩ := List.forall_mem_cons.mp kept
    have still := ((move.change regular).stays regular.proper.ascending there).resolve_right here
    exact inductive_step (move.regular regular) still later

/-- **An entry was there before, or a deed has entered it.** -/
theorem entered (passage : Passage height first deeds last) (regular : first.Regular)
    (there : last.target.registry.lookup name = some extension) :
    first.target.registry.lookup name = some extension ∨
      ∃ deed ∈ deeds, deed.enters? = some (name, extension) := by
  induction passage with
  | stay => exact Or.inl there
  | go move _ _ inductive_step =>
    rcases inductive_step (move.regular regular) there with early | ⟨deed, member, enters⟩
    · refine ((move.change regular).comes regular.proper.ascending early).imp_right fun enters => ?_
      exact ⟨_, List.mem_cons_self, enters⟩
    · exact Or.inr ⟨deed, List.mem_cons_of_mem _ member, enters⟩

theorem ran (passage : Passage height first deeds last) :
    last.runs.map HookRun.which = first.runs.map HookRun.which ++ deeds.flatMap Deed.ran := by
  induction passage with
  | stay => exact (List.append_nil _).symm
  | go move _ _ inductive_step =>
    rw [inductive_step, move.ran, List.flatMap_cons, List.append_assoc]

end Passage

/-! ### Hooks on top of others -/

/-- **A hook with others under it**, which wait as they are, and with whatever it has called on top
of it. -/
def Over (session : Session) (calling : Calling) (outer : List Activation) : Prop :=
  ∃ upper last, session.running = upper ++ last :: outer ∧ last.calling = calling

namespace Over

variable {calling : Calling} {outer : List Activation}

theorem deliver (atop : session.Over calling outer) (answer : Answer) :
    (session.deliver answer).Over calling outer := by
  obtain ⟨upper, last, shape, rfl⟩ := atop
  cases upper with
  | nil => exact ⟨[], { last with answers := last.answers ++ [answer] },
      by simp [Session.deliver, shape], rfl⟩
  | cons top upper => exact ⟨{ top with answers := top.answers ++ [answer] } :: upper, last,
      by simp [Session.deliver, shape], rfl⟩

theorem ask (atop : session.Over calling outer) (request : Request) :
    (session.ask request).Over calling outer := by
  obtain ⟨upper, last, shape, same⟩ := atop
  cases next : (session.target.perform request).next with
  | inl answer =>
    simp only [Session.ask, next]
    refine deliver ?_ answer
    exact ⟨upper, last, shape, same⟩
  | inr activation =>
    simp only [Session.ask, next]
    exact ⟨activation :: upper, last, by simp [shape], same⟩

/-- A step leaves the hook on top of the others, unless it has no more requests to make and nothing
is above it. -/
theorem step (atop : session.Over calling outer) :
    session.step.Over calling outer ∨
      ∃ top, session.running = top :: outer ∧ top.calling = calling ∧ top.rest = [] := by
  obtain ⟨upper, last, shape, same⟩ := atop
  cases upper with
  | nil =>
    rw [List.nil_append] at shape
    cases rest : last.rest with
    | nil => exact Or.inr ⟨last, shape, same, rest⟩
    | cons request later =>
      left
      simp only [Session.step, shape, rest]
      exact ask ⟨[], { last with rest := later }, rfl, same⟩ request
  | cons top upper =>
    -- whatever the hook above does, it does not reach further down than the next one
    rw [List.cons_append] at shape
    left
    cases rest : top.rest with
    | nil =>
      simp only [Session.step, shape, rest, leave]
      exact deliver ⟨upper, last, rfl, same⟩ _
    | cons request later =>
      simp only [Session.step, shape, rest]
      exact ask ⟨{ top with rest := later } :: upper, last, rfl, same⟩ request

theorem height_le (atop : session.Over calling outer) :
    outer.length + 1 ≤ session.running.length := by
  obtain ⟨upper, last, shape, _⟩ := atop
  rw [shape, List.length_append, List.length_cons]
  omega

/-- **A hook comes to its last request**, with the others under it as they are. The induction is on
the work that can still come. -/
theorem exists_ready (atop : session.Over calling outer) :
    ∃ deeds top, Passage (outer.length + 1) session deeds (session.steps deeds.length) ∧
      (session.steps deeds.length).running = top :: outer ∧ top.calling = calling ∧
      top.rest = [] := by
  induction work : session.potential using Nat.strongRecOn generalizing session with
  | ind amount inductive_step =>
    rcases atop.step with above | ⟨top, shape, same, rest⟩
    · have busy : session.running ≠ [] := fun idle => by
        have deep := atop.height_le
        rw [idle] at deep
        cases deep
      obtain ⟨deed, move⟩ := exists_move busy
      obtain ⟨deeds, top, passage, ready⟩ :=
        inductive_step _ (work ▸ session.potential_step busy) above rfl
      exact ⟨deed :: deeds, top, .go move above.height_le passage, ready⟩
    · exact ⟨[], top, .stay, shape, same, rest⟩

end Over

/-! ### Whole requests -/

/-- **The hook that a request runs**, up to where it has made its last request. In between the hooks
of the asker wait as they are. The next move ends it. It has run once then, and the hooks that have
run besides are those that ended in between. -/
structure Hosts (asker : Session) (request : Request) (activation : Activation)
    (inside : List Deed) (ready : Session) (top : Activation) : Prop where
  passage : Passage (asker.running.length + 1) (asker.ask request) inside ready
  counted : ready = (asker.ask request).steps inside.length
  running : ready.running = top :: asker.running
  calling : top.calling = activation.calling
  ends : ready.Move (.ended top (top.conclude ready.target).answer) (ready.leave top asker.running)
  ran : (ready.leave top asker.running).runs.map HookRun.which =
    asker.runs.map HookRun.which ++ inside.flatMap Deed.ran ++
      [(activation.extension, activation.phase)]

theorem exists_hosts {asker : Session} {activation : Activation}
    (begun : (asker.target.perform request).next = .inr activation) :
    ∃ inside ready top, asker.Hosts request activation inside ready top := by
  have atop : (asker.ask request).Over activation.calling asker.running :=
    ⟨[], activation, by simp [ask, begun], rfl⟩
  obtain ⟨inside, top, passage, running, calling, rest⟩ := atop.exists_ready
  refine ⟨inside, _, top, passage, rfl, running, calling, .ending running rest, ?_⟩
  have same : (top.extension, top.phase) = (activation.extension, activation.phase) :=
    congrArg (fun hook : Calling => (hook.extension, hook.phase)) calling
  rw [runs_leave, List.map_append, passage.ran, runs_ask, ← same]
  rfl

/-- **A request to register an extension.** It is declined at once, which does nothing but answer,
or its hook runs. If it fails after that, then the instance is as the hook's requests have left it,
and entries that are new were entered by these. -/
structure Registers (asker : Session) (name : String) (extension : Extension) : Prop where
  declined : ∀ failure,
    Extension.Registry.freeName asker.target.registry name = .error failure →
      asker.ask (.register name extension) = asker.deliver (.failed failure)
  accepted : ∀ normal, Extension.Registry.freeName asker.target.registry name = .ok normal →
    ∃ inside ready top,
      asker.Hosts (.register name extension) (extension.activate normal .init) inside ready top ∧
        ∀ failure, (top.conclude ready.target).answer = .failed failure →
          (ready.leave top asker.running).target = ready.target ∧
            ∀ other found, ready.target.registry.lookup other = some found →
              asker.target.registry.lookup other = some found ∨
                ∃ deed ∈ inside, deed.enters? = some (other, found)

/-- **A request to unregister a name.** If the name is not there, then it does nothing but answer.
If it is, then the hook of its extension runs, and after that the instance is as the hook's requests
have left it, whether the hook fails or not; under the name there is something only if one of these
requests has entered it. -/
structure Unregisters (asker : Session) (name : String) : Prop where
  missing : asker.target.registry.lookup (Text.trimmed name) = none →
    asker.ask (.unregister name) = asker.deliver (.failed (.notFound (Text.trimmed name)))
  found : ∀ extension, asker.target.registry.lookup (Text.trimmed name) = some extension →
    ∃ inside ready top,
      asker.Hosts (.unregister name) (extension.activate (Text.trimmed name) .exit) inside ready
          top ∧
        (ready.leave top asker.running).target = ready.target ∧
          ∀ other, ready.target.registry.lookup (Text.trimmed name) = some other →
            ∃ deed ∈ inside, deed.enters? = some (Text.trimmed name, other)

/-- What is asserted of a whole request, by its kind. -/
def Upholds (asker : Session) : Request → Prop
  | .insert name extension => ∀ failure,
      Extension.Registry.insert asker.target.registry name extension = .error failure →
        asker.ask (.insert name extension) = asker.deliver (.failed failure)
  | .register name extension => asker.Registers name extension
  | .unregister name => asker.Unregisters name
  | _ => True

end Session

/-- Only a registration that is done makes the end of a hook more than an end. -/
theorem Activation.target_conclude (top : Activation) (target : Instance) :
    (top.conclude target).target = target ∨
      top.phase = .init ∧ (top.conclude target).answer = .done := by
  unfold conclude
  split
  · exact Or.inl rfl
  · split
    · exact Or.inl rfl
    · next init =>
      split
      · exact Or.inl rfl
      · exact Or.inr ⟨init, rfl⟩

namespace Session

variable {asker : Session} {target : Instance}

theorem Regular.registers (regular : asker.Regular) (name : String) (extension : Extension) :
    asker.Registers name extension where
  declined failure refused := ask_of_tell (by simp only [Instance.perform, refused])
  accepted normal free := by
    have performed : asker.target.perform (.register name extension) =
        ⟨asker.target, [], .inr (extension.activate normal .init)⟩ := by
      simp only [Instance.perform, free]
    obtain ⟨inside, ready, top, hosts⟩ := exists_hosts (congrArg Effect.next performed)
    refine ⟨inside, ready, top, hosts, fun failure fails => ⟨?_, fun other found there => ?_⟩⟩
    · rw [Instance.Continues.target_leave]
      refine (top.target_conclude ready.target).resolve_right fun registered => ?_
      cases registered.2.symm.trans fails
    · have entered := hosts.passage.entered (regular.ask _) there
      rwa [Instance.Continues.target_ask, performed] at entered

theorem Regular.unregisters (regular : asker.Regular) (name : String) :
    asker.Unregisters name where
  missing absent := by
    have none : Extension.Registry.find? asker.target.registry name = none := absent
    exact ask_of_tell (by simp only [Instance.perform, none])
  found extension present := by
    have found : Extension.Registry.find? asker.target.registry name = some extension := present
    have performed : asker.target.perform (.unregister name) =
        ⟨{ asker.target with registry := asker.target.registry.erase (Text.trimmed name) }, [],
          .inr (extension.activate (Text.trimmed name) .exit)⟩ := by
      simp only [Instance.perform, found, Extension.Registry.remove]
    obtain ⟨inside, ready, top, hosts⟩ := exists_hosts (congrArg Effect.next performed)
    refine ⟨inside, ready, top, hosts, ?_, fun other there => ?_⟩
    · have exit : top.phase = .exit := congrArg Calling.phase hosts.calling
      rw [Instance.Continues.target_leave]
      refine (top.target_conclude ready.target).resolve_right fun registered => ?_
      cases registered.1.symm.trans exit
    · have entered := hosts.passage.entered (regular.ask _) there
      rw [Instance.Continues.target_ask, performed] at entered
      refine entered.resolve_left fun earlier => ?_
      cases (Keyed.lookup_erase_self regular.proper.ascending).symm.trans earlier

/-- **Every request is upheld**, whoever makes it. -/
theorem Regular.upholds (regular : asker.Regular) (request : Request) : asker.Upholds request := by
  cases request with
  | insert name extension =>
    exact fun failure refused =>
      ask_of_tell (by simp only [Instance.perform, Instance.withRegistry, refused])
  | register name extension => exact regular.registers name extension
  | unregister name => exact regular.unregisters name
  | _ => trivial

theorem regular_start (empty : target.registry = []) : (start target).Regular :=
  ⟨(fun _ member => nomatch member), empty ▸ Extension.Registry.Proper.nil⟩

/-- Steps are chains of moves. -/
theorem exists_passage (session : Session) (count : Nat) :
    ∃ deeds, Passage 0 session deeds (session.steps count) := by
  induction count generalizing session with
  | zero => exact ⟨[], .stay⟩
  | succ count inductive_step =>
    by_cases idle : session.running = []
    · rw [steps_of_running_nil idle]
      exact ⟨[], .stay⟩
    · obtain ⟨deed, move⟩ := exists_move idle
      obtain ⟨deeds, later⟩ := inductive_step session.step
      exact ⟨deed :: deeds, .go move (Nat.zero_le _) later⟩

end Session

/-- **An extension holds its name until it is removed.** At every point of every run of an instance
without extensions, at whatever depth of hooks, and whatever else the run has come to: every move
means for the entries what its deed says. Over every chain of moves from there, an entry stays as
long as no deed removes its name, and an entry that is new was entered by a deed. And every request,
wherever it is made, comes to its end and upholds what is asserted of it: one that is declined only
answers; a hook runs from its beginning to its end while the others wait, once; and after a failed
registration and after a deregistration the instance is as the requests of the hook have left it. -/
theorem held_until_removed (target : Instance) (past : List Deed) (session : Session)
    (empty : target.registry = []) (opening : (Session.start target).Passage 0 past session) :
    (∀ deed after, session.Move deed after →
        deed.Tenure session.target.registry after.target.registry) ∧
      (∀ deeds after, session.Passage 0 deeds after → ∀ name extension,
        (session.target.registry.lookup name = some extension →
          (∀ deed ∈ deeds, deed.removes? ≠ some name) →
            after.target.registry.lookup name = some extension) ∧
          (after.target.registry.lookup name = some extension →
            session.target.registry.lookup name = some extension ∨
              ∃ deed ∈ deeds, deed.enters? = some (name, extension))) ∧
      ∀ request asker, session.Asks request asker → asker.Upholds request := by
  have regular : session.Regular := opening.regular (Session.regular_start empty)
  refine ⟨fun deed after move => ?_, fun deeds after passage name extension => ⟨?_, ?_⟩,
    fun request asker asks => ?_⟩
  · exact (move.change regular).tenure regular.proper.ascending
  · exact passage.held regular
  · exact passage.entered regular
  · exact (asks.regular regular).upholds request

/-- An extension has come with another one, and then goes, although its hook for going fails. -/
theorem held_until_removed_nested_registration :
    let target := Instance.ofItems 1 []
    let session := target.ask (.register " desk " nestingExtension)
    target.registry = [] ∧ session.target.names = ["desk", "inner"] ∧
      ∃ past, (Session.start target).Passage 0 past session ∧
        ∃ extension, session.target.registry.lookup (Text.trimmed "desk ") = some extension ∧
          (extension.hook .exit).failure = some "alone" ∧
          ∃ inside ready top,
            session.Hosts (.unregister "desk ") (extension.activate (Text.trimmed "desk ") .exit)
                inside ready top ∧
              (ready.leave top session.running).target = ready.target := by
  intro target session
  have idle : session.running = [] := Session.running_settle _
  obtain ⟨deeds, later⟩ :=
    ((Session.start target).ask (.register " desk " nestingExtension)).exists_passage
      ((Session.start target).ask (.register " desk " nestingExtension)).potential
  have opening : (Session.start target).Passage 0 (_ :: deeds) session :=
    .go (.asking (.outside rfl)) (Nat.zero_le _) later
  have there : (session.target.registry.lookup (Text.trimmed "desk ")).map
      (fun extension => (extension.hook .exit).failure) = some (some "alone") := by decide +kernel
  obtain ⟨extension, present, fails⟩ := Option.map_eq_some_iff.mp there
  have upheld := (held_until_removed target _ session rfl opening).2.2 (.unregister "desk ")
    session (.outside idle)
  obtain ⟨inside, ready, top, hosts, same, _⟩ := Session.Unregisters.found upheld extension present
  exact ⟨rfl, by decide +kernel, _, opening, extension, present, fails, inside, ready, top, hosts,
    same⟩

end InstanceHost
