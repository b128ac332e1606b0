/-
**Requests to an instance, and extensions that make them.**

An instance is driven by requests. Some of them hand it an extension, and an extension is told when
it comes and goes: its hooks make requests of their own to the same instance, and may fail
afterwards. Requests, extensions and hooks therefore contain each other.

* `Request`: what an instance can be asked for;
* `Extension`: a marker without hooks of its own, or one with a hook for coming and one for going;
* `Hook`: the requests to make, and the message to fail with;
* `Extension.hook`: the hook that an extension runs at a turn of its life;
* `Request.weight`: how much work a request can cause, the hooks of its extension included.
-/

import InstanceHost.Json.Basic

namespace InstanceHost

mutual

/-- What an instance can be asked for. -/
inductive Request where
  | get (key : String)
  | config
  | set (key : String) (value : Json)
  | isReady
  | status
  | names
  | size
  | contains (name : String)
  | lookup (name : String)
  /-- Whether an extension can be inserted under a name. -/
  | check (name : String)
  /-- Inserting an extension without telling it. -/
  | insert (name : String) (extension : Extension)
  /-- Inserting an extension after its hook for coming has run. -/
  | register (name : String) (extension : Extension)
  /-- Removing an extension and running its hook for going. -/
  | unregister (name : String)
  /-- Removing an extension without telling it. -/
  | remove (name : String)
  | describe
  /-- From now on refusing to start with a message, or no longer. -/
  | refuseStart (message : Option String)
  | start

/-- What can be registered with an instance (`Extension`). -/
inductive Extension where
  | marker (tag : String)
  | active (tag : String) (coming going : Hook)

/-- What an extension does when it comes or goes. -/
inductive Hook where
  /-- Requests made one after the other, and a message to fail with afterwards. -/
  | mk (requests : List Request) (failure : Option String)

end

/-- The request that stands for a missing one. -/
instance : Inhabited Request := ⟨.start⟩

/-- The extension that stands for a missing one. -/
instance : Inhabited Extension := ⟨.marker ""⟩

/-- The hook that stands for a missing one. -/
instance : Inhabited Hook := ⟨.mk [] none⟩

/-- A turn in the life of an extension. -/
inductive Phase where
  | init
  | exit
deriving DecidableEq, Repr

namespace Hook

/-- The requests that a hook makes. -/
def requests : Hook → List Request
  | .mk requests _ => requests

/-- The message that a hook fails with. -/
def failure : Hook → Option String
  | .mk _ failure => failure

/-- The hook that does nothing. -/
def idle : Hook := .mk [] none

end Hook

namespace Extension

/-- The mark by which an extension is told from others. -/
def tag : Extension → String
  | .marker tag => tag
  | .active tag _ _ => tag

/-- Whether an extension has hooks of its own. -/
def isActive : Extension → Bool
  | .marker _ => false
  | .active _ _ _ => true

/-- The hook that an extension runs at a turn of its life. -/
def hook : Phase → Extension → Hook
  | _, .marker _ => .idle
  | .init, .active _ coming _ => coming
  | .exit, .active _ _ going => going

end Extension

/-! ### Weight -/

mutual

/-- How much work a request can cause. -/
def Request.weight : Request → Nat
  | .insert _ extension => Extension.exitWeight extension + 1
  | .register _ extension => Extension.initWeight extension + Extension.exitWeight extension + 1
  | _ => 1

/-- How much work the hook for coming can cause. -/
def Extension.initWeight : Extension → Nat
  | .marker _ => 1
  | .active _ coming _ => Hook.weight coming

/-- How much work the hook for going can cause. -/
def Extension.exitWeight : Extension → Nat
  | .marker _ => 1
  | .active _ _ going => Hook.weight going

/-- How much work a hook can cause. -/
def Hook.weight : Hook → Nat
  | .mk requests _ => requestsWeight requests + 1

/-- How much work requests can cause together. -/
def requestsWeight : List Request → Nat
  | [] => 0
  | request :: rest => Request.weight request + requestsWeight rest

end

/-- A hook weighs one more than its requests. -/
theorem Hook.weight_eq (hook : Hook) : hook.weight = requestsWeight hook.requests + 1 := by
  cases hook
  rw [Hook.weight, Hook.requests]

/-- The weight for coming is that of the hook for coming. -/
theorem Extension.initWeight_eq (extension : Extension) :
    extension.initWeight = (extension.hook .init).weight := by
  cases extension
  · rw [Extension.initWeight, Extension.hook, Hook.idle, Hook.weight, requestsWeight]
  · rw [Extension.initWeight, Extension.hook]

/-- The weight for going is that of the hook for going. -/
theorem Extension.exitWeight_eq (extension : Extension) :
    extension.exitWeight = (extension.hook .exit).weight := by
  cases extension
  · rw [Extension.exitWeight, Extension.hook, Hook.idle, Hook.weight, requestsWeight]
  · rw [Extension.exitWeight, Extension.hook]

/-- Every request weighs something. -/
theorem Request.weight_pos (request : Request) : 0 < request.weight := by
  cases request <;> rw [Request.weight] <;> first | omega | (intros; contradiction)

end InstanceHost
