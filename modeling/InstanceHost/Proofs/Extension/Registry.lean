/-
**Registries under requests that call back.**

Names come into a registry in two ways and leave it in two, and hooks make requests in the middle of
these. At every point of every request, at any depth of hooks, the registry is in order and holds
proper names only, what it says of itself agrees with its list of names, and this list is what an
instance is handed when it is started. Of the name that a request is given, only what is left of it
without the blanks around it counts.

* `Registry.Proper`: a registry in order with proper names;
* `Turn.proper`, `Session.proper_steps`, `Instance.proper_follow`: every step keeps it so;
* `Instance.Consistent`: the answers about a registry, and what is handed over at a start;
* `Request.Naming`: the requests that are given a name;
* `registry_proper_throughout`: all of it, at every point.
-/

import InstanceHost.Proofs.Extension.NameLanguage
import InstanceHost.Proofs.Instance.Balance
import InstanceHost.Proofs.Instance.Continuity

namespace InstanceHost

/-! ### Proper registries -/

/-- **A registry in order with proper names**: they increase strictly, there are no blanks around
them, and they are in the language of names. -/
structure Extension.Registry.Proper (registry : Keyed Extension) : Prop where
  ascending : registry.Ascending
  trimmed : ∀ name ∈ registry.names, Text.trimmed name = name
  language : ∀ name ∈ registry.names, name.toList ∈ Extension.nameLanguage

namespace Extension.Registry.Proper

variable {registry : Keyed Extension} {name : String}

theorem nil : Proper [] :=
  ⟨List.Pairwise.nil, List.forall_mem_nil _, List.forall_mem_nil _⟩

theorem insert (proper : Proper registry) (valid : isName name.toList = true)
    (extension : Extension) : Proper (registry.insert name extension) := by
  obtain ⟨ascending, trimmed, language⟩ := proper
  refine ⟨Keyed.ascending_insert ascending, fun other member => ?_, fun other member => ?_⟩
  · rcases Keyed.mem_names_insert.mp member with rfl | earlier
    · exact trimmed_of_isName valid
    · exact trimmed other earlier
  · rcases Keyed.mem_names_insert.mp member with rfl | earlier
    · exact (mem_nameLanguage_iff _).mpr valid
    · exact language other earlier

theorem erase (proper : Proper registry) (name : String) : Proper (registry.erase name) := by
  obtain ⟨ascending, trimmed, language⟩ := proper
  have fewer : (registry.erase name).names ⊆ registry.names :=
    ((Keyed.erase_sublist name registry).map _).subset
  exact ⟨Keyed.ascending_erase ascending, fun other member => trimmed other (fewer member),
    fun other member => language other (fewer member)⟩

end Extension.Registry.Proper

/-- **Every turn keeps a registry proper.** -/
theorem Turn.proper {asked : Option Request} {withheld : Option Extension} {before after : Roll}
    (turn : Turn asked withheld before after) (named : before.Named)
    (proper : Extension.Registry.Proper before.registry) :
    Extension.Registry.Proper after.registry := by
  cases turn with
  | inserted free valid => exact proper.insert valid _
  | removed => exact proper.erase _
  | going present => exact proper.erase _
  | come _ _ init _ _ => exact proper.insert (named _ List.mem_cons_self init) _
  | _ => exact proper

namespace Session

variable {session : Session} {target : Instance}

/-- So does every number of steps. -/
theorem proper_steps (count : Nat) (named : session.roll.Named)
    (proper : Extension.Registry.Proper session.target.registry) :
    Extension.Registry.Proper (session.steps count).target.registry := by
  induction count generalizing session with
  | zero => exact proper
  | succ count inductive_step =>
    have turn := turn_step named
    exact inductive_step (turn.named named) (turn.proper named proper)

/-- **So does a request, up to every point of it.** -/
theorem proper_ask_steps (request : Request) (count : Nat)
    (proper : Extension.Registry.Proper target.registry) :
    Extension.Registry.Proper (((start target).ask request).steps count).target.registry := by
  have named : (start target).roll.Named := fun _ member => nomatch member
  have turn := (start target).turn_ask request
  exact proper_steps count (turn.named named) (turn.proper named proper)

end Session

/-- So do requests one after the other. -/
theorem Instance.proper_follow {target : Instance} (requests : List Request)
    (proper : Extension.Registry.Proper target.registry) :
    Extension.Registry.Proper (target.follow requests).target.registry := by
  induction requests generalizing target with
  | nil => exact proper
  | cons request rest inductive_step =>
    exact inductive_step (Session.proper_ask_steps request _ proper)

/-! ### Answers -/

/-- Whether a request starts the instance. -/
def Request.isStart : Request → Bool
  | .start => true
  | _ => false

/-- The names that are handed over by a request, if one is made: those of the registry at a start,
once. -/
def Instance.handing (target : Instance) (asked : Option Request) : List (List String) :=
  if asked.any Request.isStart then [target.names] else []

/-- **What a registry says of itself agrees with its list of names**, and this list is what is
handed over at a start, and only there. -/
structure Instance.Consistent (target : Instance) : Prop where
  names : target.perform .names = target.tell (.names target.names)
  size : target.perform .size = target.tell (.size target.names.length)
  contains : ∀ name, target.perform (.contains name) =
    target.tell (.flag (decide (Text.trimmed name ∈ target.names)))
  lookup : ∀ name, ∃ tag, target.perform (.lookup name) = target.tell (.tag tag) ∧
    (tag.isSome ↔ Text.trimmed name ∈ target.names)
  handed : ∀ request, (target.perform request).target.starts =
    target.starts ++ target.handing (some request)

namespace Instance

variable {target : Instance}

theorem starts_set (target : Instance) (key : String) (value : Json) :
    (target.set key value).1.starts = target.starts := by
  unfold set
  split <;> rfl

theorem starts_start (target : Instance) :
    target.start.1.starts = target.starts ++ [target.names] := by
  unfold start finishStart
  split <;> rfl

/-- **Only a start hands names over**, those of the moment. -/
theorem starts_perform (target : Instance) (request : Request) :
    (target.perform request).target.starts = target.starts ++ target.handing (some request) := by
  cases request with
  | start =>
    refine Eq.trans ?_ target.starts_start
    rw [perform]
    split
    · next shape => rw [shape]
    · next shape => rw [shape]
  | set key value =>
    exact (target.starts_set key value).trans (List.append_nil _).symm
  | check name =>
    rw [perform]
    split <;> exact (List.append_nil _).symm
  | insert name extension =>
    simp only [perform, withRegistry]
    split <;> exact (List.append_nil _).symm
  | register name extension =>
    rw [perform]
    split <;> exact (List.append_nil _).symm
  | unregister name =>
    rw [perform]
    split <;> exact (List.append_nil _).symm
  | _ => exact (List.append_nil _).symm

theorem consistent_of_proper (proper : Extension.Registry.Proper target.registry) :
    target.Consistent := by
  have listed : ∀ name, target.registry.contains (Text.trimmed name) = true ↔
      Text.trimmed name ∈ target.names := fun name =>
    Keyed.contains_iff_mem_names proper.ascending
  refine ⟨rfl, ?_, fun name => ?_, fun name => ⟨_, rfl, ?_⟩, target.starts_perform⟩
  · rw [names, Keyed.names, List.length_map]
    rfl
  · rw [perform, Extension.Registry.has, ← Bool.decide_coe (target.registry.contains _)]
    simp only [listed]
  · rw [Option.isSome_map]
    exact listed name

end Instance

theorem Activation.starts_conclude (activation : Activation) (target : Instance) :
    (activation.conclude target).target.starts = target.starts := by
  unfold conclude
  split
  · rfl
  · split
    · rfl
    · split <;> rfl

theorem Session.starts_ask (session : Session) (request : Request) :
    (session.ask request).target.starts =
      session.target.starts ++ session.target.handing (some request) := by
  rw [Instance.Continues.target_ask]
  exact session.target.starts_perform request

/-- **What a step hands over.** -/
theorem Session.starts_step (session : Session) :
    session.step.target.starts =
      session.target.starts ++ session.target.handing session.next? := by
  unfold step next?
  cases shape : session.running with
  | nil => exact (List.append_nil _).symm
  | cons top outer =>
    cases requests : top.rest with
    | nil =>
      simp only [List.head?_cons, Option.bind_some, requests, List.head?_nil, leave,
        Instance.Continues.deliver, Activation.starts_conclude]
      exact (List.append_nil _).symm
    | cons request rest =>
      simp only [List.head?_cons, Option.bind_some, requests, starts_ask]

/-! ### Names with blanks around them -/

/-- **The requests that are given a name.** -/
inductive Request.Naming : (String → Request) → Prop
  | contains : Naming .contains
  | lookup : Naming .lookup
  | check : Naming .check
  | insert {extension : Extension} : Naming (.insert · extension)
  | register {extension : Extension} : Naming (.register · extension)
  | unregister : Naming .unregister
  | remove : Naming .remove

section

variable {first second : String} {operation : String → Request}

theorem Extension.Registry.freeName_respelled {α : Type}
    (same : Text.trimmed first = Text.trimmed second) (registry : Keyed α) :
    freeName registry first = freeName registry second ∨
      freeName registry first = .error (.invalidName first) ∧
        freeName registry second = .error (.invalidName second) := by
  simp only [freeName, same]
  by_cases invalid : isName (Text.trimmed second).toList = false
  · exact Or.inr ⟨if_pos invalid, if_pos invalid⟩
  · exact Or.inl ((if_neg invalid).trans (if_neg invalid).symm)

/-- **Two spellings of a name** are the same to a request, or each is refused as it is spelt. -/
theorem Instance.perform_respelled (naming : Request.Naming operation)
    (same : Text.trimmed first = Text.trimmed second) (target : Instance) :
    target.perform (operation first) = target.perform (operation second) ∨
      target.perform (operation first) = target.tell (.failed (.invalidName first)) ∧
        target.perform (operation second) = target.tell (.failed (.invalidName second)) := by
  have free := Extension.Registry.freeName_respelled same target.registry
  cases naming with
  | contains =>
    left
    simp only [perform, Extension.Registry.has, same]
  | lookup =>
    left
    simp only [perform, Extension.Registry.find?, same]
  | unregister =>
    left
    simp only [perform, Extension.Registry.find?, Extension.Registry.remove, same]
  | remove =>
    left
    simp only [perform, Extension.Registry.find?, Extension.Registry.remove, same]
  | check =>
    refine free.imp (fun equal => ?_) (fun refused => ?_)
    · simp only [perform, equal]
    · simp only [perform, refused, and_self]
  | insert =>
    refine free.imp (fun equal => ?_) (fun refused => ?_)
    · simp only [perform, Extension.Registry.insert, equal]
    · simp only [perform, Extension.Registry.insert, refused]
      exact ⟨rfl, rfl⟩
  | register =>
    refine free.imp (fun equal => ?_) (fun refused => ?_)
    · simp only [perform, equal]
    · simp only [perform, refused, and_self]

theorem Session.ask_of_tell {session : Session} {request : Request} {answer : Answer}
    (tells : session.target.perform request = session.target.tell answer) :
    session.ask request = session.deliver answer := by
  unfold ask
  rw [tells]
  simp only [Instance.tell, List.append_nil]

/-- The same of whole requests, whoever makes them. -/
theorem Session.ask_respelled (naming : Request.Naming operation)
    (same : Text.trimmed first = Text.trimmed second) (session : Session) :
    session.ask (operation first) = session.ask (operation second) ∨
      session.ask (operation first) = session.deliver (.failed (.invalidName first)) ∧
        session.ask (operation second) = session.deliver (.failed (.invalidName second)) := by
  refine (session.target.perform_respelled naming same).imp (fun equal => ?_) fun refused => ?_
  · unfold ask
    rw [equal]
  · exact ⟨ask_of_tell refused.1, ask_of_tell refused.2⟩

end

/-! ### Every point -/

/-- **The registry is proper at every point.** For every instance without extensions, after all
requests and after every step of another one, at any depth of hooks: the registry is in order with
proper names, its answers agree with its list of names, and a start hands over this list. A request
does the same for two names that differ only in the blanks around them, unless both are refused as
no names, each as it was spelt. -/
theorem registry_proper_throughout (target : Instance) (requests : List Request)
    (request : Request) (count : Nat) (empty : target.registry = []) :
    let session := ((Session.start (target.follow requests).target).ask request).steps count
    Extension.Registry.Proper session.target.registry ∧ session.target.Consistent ∧
      session.step.target.starts =
        session.target.starts ++ session.target.handing session.next? ∧
      ∀ operation, Request.Naming operation → ∀ first second,
        Text.trimmed first = Text.trimmed second → ∀ asking : Session,
          asking.ask (operation first) = asking.ask (operation second) ∨
            asking.ask (operation first) = asking.deliver (.failed (.invalidName first)) ∧
              asking.ask (operation second) = asking.deliver (.failed (.invalidName second)) := by
  intro session
  have opening : Extension.Registry.Proper target.registry := empty ▸ .nil
  have proper : Extension.Registry.Proper session.target.registry :=
    Session.proper_ask_steps request count (target.proper_follow requests opening)
  exact ⟨proper, Instance.consistent_of_proper proper, session.starts_step,
    fun _ naming _ _ same asking => asking.ask_respelled naming same⟩

/-- In the middle of a registration, when the inner extension has come and the outer one has not. -/
theorem registry_proper_throughout_nested_registration :
    let target := Instance.ofItems 1 []
    let requests := [.insert " b.c " (.marker "b")]
    let session := ((Session.start (target.follow requests).target).ask
      (.register "desk " nestingExtension)).steps 2
    target.registry = [] ∧ session.target.names = ["b.c", "inner"] ∧
      session.running.length = 1 ∧ Extension.Registry.Proper session.target.registry := by
  intro target requests session
  have proper :=
    (registry_proper_throughout target requests (.register "desk " nestingExtension) 2 rfl).1
  exact ⟨rfl, by decide +kernel, by decide +kernel, proper⟩

end InstanceHost
