/-
**Requests that call back.**

A request is answered at once, unless it runs the hook of an extension. A hook makes requests to the
same instance one after the other, each of which may run a further hook, so the hooks that are
running form a stack with the innermost on top. A `Session` is a request in progress: `Session.step`
makes the next request of the innermost hook or ends it, and `Session.settle` goes on until none is
running.

* `Instance.perform`: the part of a request before a hook runs;
* `Activation.conclude`: the part after it;
* `Session.potential`: the work that can still come, which every step diminishes;
* `Session.running_settle`: a session that has been settled has no hook running;
* `Instance.ask`: a request from its beginning to its end.
-/

import InstanceHost.Instance.Basic

namespace InstanceHost

/-- What a request comes to. -/
inductive Answer where
  | item (value : Option Json)
  | flag (value : Bool)
  | status (status : Status)
  | names (names : List String)
  | size (count : Nat)
  /-- The tag of an extension, if there is one. -/
  | tag (tag : Option String)
  | insertable (name : String)
  | done
  | text (content : String)
  | failed (failure : ExtensionFailure)
  | refused (refusal : Refusal)

/-- A hook that is running. -/
structure Activation where
  /-- The name that its extension gets or had. -/
  name : String
  extension : Extension
  phase : Phase
  rest : List Request
  answers : List Answer

/-- A hook that has run. -/
structure HookRun where
  extension : Extension
  phase : Phase
  /-- The names of extensions at its end. -/
  visible : List String
  answers : List Answer

/-- The start of a hook. -/
def Extension.activate (extension : Extension) (name : String) (phase : Phase) : Activation :=
  ⟨name, extension, phase, (extension.hook phase).requests, []⟩

/-- What a request does before a hook runs. -/
structure Effect where
  target : Instance
  events : List Event
  /-- The answer, or the hook to run. -/
  next : Answer ⊕ Activation

namespace Instance

/-- A request that only looks. -/
def tell (target : Instance) (answer : Answer) : Effect :=
  ⟨target, [], .inl answer⟩

/-- The end of an operation on the registry. -/
def withRegistry (target : Instance) (outcome : Except ExtensionFailure (Keyed Extension)) :
    Effect :=
  match outcome with
  | .ok registry => ⟨{ target with registry := registry }, [], .inl .done⟩
  | .error failure => target.tell (.failed failure)

/-- The identifier of an instance in a description. -/
def hiddenIdentifier : String := "<id>"

/-- **The part of a request before a hook runs.** -/
def perform (target : Instance) : Request → Effect
  | .get key => target.tell (.item (target.get? key))
  | .config => target.tell (.item target.config?)
  | .set key value =>
    let (changed, events) := target.set key value
    ⟨changed, events, .inl (.item (changed.get? ""))⟩
  | .isReady => target.tell (.flag target.ready)
  | .status => target.tell (.status target.status)
  | .names => target.tell (.names target.names)
  | .size => target.tell (.size target.registry.length)
  | .contains name => target.tell (.flag (Extension.Registry.has target.registry name))
  | .lookup name => target.tell (.tag ((Extension.Registry.find? target.registry name).map (·.tag)))
  | .check name =>
    match Extension.Registry.freeName target.registry name with
    | .ok normal => target.tell (.insertable normal)
    | .error failure => target.tell (.failed failure)
  | .insert name extension =>
    target.withRegistry (Extension.Registry.insert target.registry name extension)
  | .register name extension =>
    match Extension.Registry.freeName target.registry name with
    | .ok normal => ⟨target, [], .inr (extension.activate normal .init)⟩
    | .error failure => target.tell (.failed failure)
  | .unregister name =>
    match Extension.Registry.find? target.registry name with
    | none => target.tell (.failed (.notFound (Text.trimmed name)))
    | some extension =>
      ⟨{ target with registry := Extension.Registry.remove target.registry name }, [],
        .inr (extension.activate (Text.trimmed name) .exit)⟩
  | .remove name =>
    ⟨{ target with registry := Extension.Registry.remove target.registry name }, [],
      .inl (.tag ((Extension.Registry.find? target.registry name).map (·.tag)))⟩
  | .describe => target.tell (.text (target.describe hiddenIdentifier))
  | .refuseStart message => ⟨{ target with refusal := message }, [], .inl .done⟩
  | .start =>
    match target.start with
    | (started, events, .ok ()) => ⟨started, events, .inl .done⟩
    | (started, events, .error refusal) => ⟨started, events, .inl (.refused refusal)⟩

end Instance

/-- What the end of a hook does. -/
structure Conclusion where
  target : Instance
  events : List Event
  /-- What the request that ran the hook comes to. -/
  answer : Answer

/-- **The part of a request after its hook has run** (the end of `register_extension` or of
`unregister_extension`). An extension whose hook for coming succeeded is inserted, if its name is
still free. -/
def Activation.conclude (activation : Activation) (target : Instance) : Conclusion :=
  match (activation.extension.hook activation.phase).failure with
  | some message => ⟨target, [], .failed (.hook activation.name message)⟩
  | none =>
    match activation.phase with
    | .exit => ⟨target, [], .done⟩
    | .init =>
      match Extension.Registry.insert target.registry activation.name activation.extension with
      | .error failure => ⟨target, [], .failed failure⟩
      | .ok registry =>
        ⟨{ target with registry := registry },
          [.extensionRegistered target.id activation.name], .done⟩

/-! ### Sessions -/

/-- A request in progress. -/
structure Session where
  target : Instance
  /-- The hooks that are running, the innermost first. -/
  running : List Activation
  /-- The hooks that have run, in the order of their ends. -/
  runs : List HookRun
  events : List Event
  /-- What the request came to, once it has ended. -/
  answer : Option Answer

namespace Session

/-- Hands an answer to the innermost hook, or to whoever made the request. -/
def deliver (session : Session) (answer : Answer) : Session :=
  match session.running with
  | [] => { session with answer := some answer }
  | top :: outer =>
    { session with running := { top with answers := top.answers ++ [answer] } :: outer }

/-- Makes a request. -/
def ask (session : Session) (request : Request) : Session :=
  let effect := session.target.perform request
  let changed :=
    { session with target := effect.target, events := session.events ++ effect.events }
  match effect.next with
  | .inl answer => changed.deliver answer
  | .inr activation => { changed with running := activation :: changed.running }

/-- Ends the innermost hook. -/
def leave (session : Session) (top : Activation) (outer : List Activation) : Session :=
  let run : HookRun := ⟨top.extension, top.phase, session.target.names, top.answers⟩
  let conclusion := top.conclude session.target
  let changed : Session :=
    { target := conclusion.target
      running := outer
      runs := session.runs ++ [run]
      events := session.events ++ conclusion.events
      answer := session.answer }
  changed.deliver conclusion.answer

/-- **The next request of the innermost hook, or its end.** -/
def step (session : Session) : Session :=
  match session.running with
  | [] => session
  | top :: outer =>
    match top.rest with
    | [] => session.leave top outer
    | request :: rest =>
      { session with running := { top with rest := rest } :: outer }.ask request

/-- A number of steps. -/
def steps (session : Session) : (count : Nat) → Session
  | 0 => session
  | count + 1 => session.step.steps count

/-- The work that the hooks for going of registered extensions can cause. -/
def registryWeight : Keyed Extension → Nat
  | [] => 0
  | (_, extension) :: rest => extension.exitWeight + registryWeight rest

/-- The work that can still come of a running hook. -/
def activationWeight (activation : Activation) : Nat :=
  requestsWeight activation.rest + 1 +
    match activation.phase with
    | .init => activation.extension.exitWeight
    | .exit => 0

/-- The work that can still come of running hooks. -/
def runningWeight : List Activation → Nat
  | [] => 0
  | top :: outer => activationWeight top + runningWeight outer

/-- The work that can still come. -/
def potential (session : Session) : Nat :=
  registryWeight session.target.registry + runningWeight session.running

/-- Goes on until no hook is running. -/
def settle (session : Session) : Session :=
  session.steps session.potential

/-- A request to an instance at rest. -/
def start (target : Instance) : Session :=
  ⟨target, [], [], [], none⟩

end Session

/-- **A request from its beginning to its end** (`register_extension`, `unregister_extension` and
the other methods of `Runtime`). -/
def Instance.ask (target : Instance) (request : Request) : Session :=
  ((Session.start target).ask request).settle

/-! ### Every step diminishes the work -/

namespace Session

/-- An inserted extension adds at most its own weight. -/
theorem registryWeight_insert (registry : Keyed Extension) (name : String)
    (extension : Extension) :
    registryWeight (registry.insert name extension) ≤
      registryWeight registry + extension.exitWeight := by
  induction registry with
  | nil => simp [Keyed.insert, registryWeight]
  | cons entry rest inductive_step =>
    obtain ⟨key, old⟩ := entry
    simp only [Keyed.insert]
    split
    · simp only [registryWeight]
      omega
    · split
      · simp only [registryWeight]
        omega
      · simp only [registryWeight]
        omega

/-- A removed extension takes its weight with it. -/
theorem registryWeight_erase {registry : Keyed Extension} {name : String} {extension : Extension}
    (present : registry.lookup name = some extension) :
    registryWeight (registry.erase name) + extension.exitWeight = registryWeight registry := by
  induction registry with
  | nil => simp [Keyed.lookup] at present
  | cons entry rest inductive_step =>
    obtain ⟨key, old⟩ := entry
    simp only [Keyed.lookup] at present
    split at present
    · next same =>
      cases present
      simp only [Keyed.erase, same, if_true, registryWeight]
      omega
    · next different =>
      split at present
      · cases present
      · next notBefore =>
        have smaller := inductive_step present
        simp only [Keyed.erase, different, notBefore, if_false, registryWeight]
        omega

/-- Removing never adds weight. -/
theorem registryWeight_erase_le (registry : Keyed Extension) (name : String) :
    registryWeight (registry.erase name) ≤ registryWeight registry := by
  induction registry with
  | nil => simp [Keyed.erase]
  | cons entry rest inductive_step =>
    obtain ⟨key, old⟩ := entry
    simp only [Keyed.erase]
    split
    · simp only [registryWeight]
      omega
    · split
      · exact Nat.le_refl _
      · simp only [registryWeight]
        omega

/-- An answer adds no work. -/
theorem potential_deliver (session : Session) (answer : Answer) :
    (session.deliver answer).potential = session.potential := by
  unfold deliver
  split
  · rfl
  · next top outer shape => simp [potential, shape, runningWeight, activationWeight]

/-- The weight of what a request leaves behind. -/
def effectWeight (effect : Effect) : Nat :=
  registryWeight effect.target.registry +
    match effect.next with
    | .inl _ => 0
    | .inr activation => activationWeight activation

/-- **A request leaves less work behind than it and the registry weigh.** -/
theorem effectWeight_perform (target : Instance) (request : Request) :
    effectWeight (target.perform request) < registryWeight target.registry + request.weight := by
  have positive := request.weight_pos
  cases request with
  | insert name extension =>
    simp only [Instance.perform, Instance.withRegistry, Request.weight]
    split
    · next registry inserted =>
      obtain ⟨_, rfl⟩ := Extension.Registry.insert_eq_ok_iff.mp inserted
      have bound := registryWeight_insert target.registry (Text.trimmed name) extension
      simp only [effectWeight]
      omega
    · simp only [effectWeight, Instance.tell]
      omega
  | register name extension =>
    simp only [Instance.perform, Request.weight]
    split
    · simp only [effectWeight, activationWeight, Extension.activate]
      have weight := extension.initWeight_eq
      rw [Hook.weight_eq] at weight
      omega
    · simp only [effectWeight, Instance.tell]
      omega
  | unregister name =>
    simp only [Instance.perform, Request.weight]
    split
    · simp only [effectWeight, Instance.tell]
      omega
    · next extension present =>
      have found : target.registry.lookup (Text.trimmed name) = some extension := present
      have erased := registryWeight_erase found
      have weight := extension.exitWeight_eq
      rw [Hook.weight_eq] at weight
      simp only [effectWeight, activationWeight, Extension.activate, Extension.Registry.remove]
      omega
  | remove name =>
    have bound := registryWeight_erase_le target.registry (Text.trimmed name)
    simp only [Instance.perform, effectWeight, Extension.Registry.remove, Request.weight]
    omega
  | set key value =>
    simp only [Instance.perform, effectWeight, Request.weight, Instance.set]
    split <;> simp
  | check name =>
    simp only [Instance.perform, Request.weight]
    split <;> simp [effectWeight, Instance.tell]
  | start =>
    simp only [Instance.perform, Request.weight, Instance.start, Instance.finishStart,
      Instance.beginStart, Instance.becomeReady]
    cases target.refusal <;> simp [effectWeight]
  | _ => simp [Instance.perform, effectWeight, Instance.tell, Request.weight]

/-- A request in a session diminishes the work by less than its weight. -/
theorem potential_ask (session : Session) (request : Request) :
    (session.ask request).potential < session.potential + request.weight := by
  have bound := effectWeight_perform session.target request
  simp only [ask]
  split
  · next answer shape =>
    rw [potential_deliver]
    simp only [effectWeight, shape] at bound
    simp only [potential]
    omega
  · next activation shape =>
    simp only [effectWeight, shape] at bound
    simp only [potential, runningWeight]
    omega

/-- The end of a hook diminishes the work. -/
theorem potential_leave (session : Session) (top : Activation) (outer : List Activation)
    (shape : session.running = top :: outer) :
    (session.leave top outer).potential < session.potential := by
  unfold leave
  rw [potential_deliver]
  simp only [potential, shape, runningWeight, activationWeight]
  unfold Activation.conclude
  split
  · simp only
    omega
  · cases phase : top.phase with
    | exit =>
      simp only
      omega
    | init =>
      simp only
      cases inserted :
          Extension.Registry.insert session.target.registry top.name top.extension with
      | error failure =>
        simp only
        omega
      | ok registry =>
        obtain ⟨_, rfl⟩ := Extension.Registry.insert_eq_ok_iff.mp inserted
        have bound := registryWeight_insert session.target.registry (Text.trimmed top.name)
          top.extension
        simp only
        omega

/-- **Every step of a session with a running hook diminishes the work.** -/
theorem potential_step (session : Session) (busy : session.running ≠ []) :
    session.step.potential < session.potential := by
  unfold step
  split
  · next idle => exact absurd idle busy
  · next top outer shape =>
    split
    · exact session.potential_leave top outer shape
    · next request rest requests =>
      have bound := potential_ask
        { session with running := { top with rest := rest } :: outer } request
      have before : session.potential =
          Session.potential { session with running := { top with rest := rest } :: outer } +
            request.weight := by
        simp only [potential, shape, runningWeight, activationWeight, requests,
          requestsWeight]
        omega
      omega

/-- A session without a running hook stays as it is. -/
theorem steps_of_running_nil {session : Session} (idle : session.running = []) (count : Nat) :
    session.steps count = session := by
  induction count with
  | zero => rfl
  | succ count inductive_step =>
    have same : session.step = session := by simp [step, idle]
    rw [steps, same, inductive_step]

/-- As many steps as there is work leave no hook running. -/
theorem running_steps (session : Session) (count : Nat) (enough : session.potential ≤ count) :
    (session.steps count).running = [] := by
  induction count generalizing session with
  | zero =>
    cases shape : session.running with
    | nil => rw [steps, shape]
    | cons top outer =>
      simp only [potential, shape, runningWeight, activationWeight] at enough
      omega
  | succ count inductive_step =>
    by_cases idle : session.running = []
    · rw [steps_of_running_nil idle, idle]
    · have less := session.potential_step idle
      exact inductive_step session.step (by omega)

/-- **A session that has been settled has no hook running.** -/
theorem running_settle (session : Session) : session.settle.running = [] :=
  session.running_steps session.potential (Nat.le_refl _)

end Session

end InstanceHost
