/-
**Why a call gets no instance.**

A call for an instance fails at one of four stages: its value is no configuration, the configuration
has no normal form, the module cannot be loaded, or the instance refuses. The failure keeps the
error of that stage as it was.

* `BootFailure.code`: the stage as a word;
* `BootFailure.message`: the wording of the stage's own error;
* `BootFailure.sources`: the wordings of the errors inside, the outermost first.
-/

import InstanceHost.Config.Basic
import InstanceHost.Config.Refusal
import InstanceHost.Module.Basic

namespace InstanceHost

/-- Why a call gets no instance (`BootstrapError`). -/
inductive BootFailure where
  | configType (mismatch : KindMismatch)
  | config (fault : ConfigFault)
  | moduleLoad (failure : LoadFailure)
  | construction (refusal : Refusal)
deriving DecidableEq, Repr

namespace BootFailure

/-- The word for the stage of a failure (`code`). -/
def code : BootFailure → String
  | .configType _ => "config_type"
  | .config _ => "config_invalid"
  | .moduleLoad _ => "module_load_failed"
  | .construction _ => "construction_failed"

/-- The wording of a failure. -/
def message : BootFailure → String
  | .configType mismatch => mismatch.message
  | .config fault => fault.message
  | .moduleLoad failure => failure.message
  | .construction refusal => refusal.message

/-- The wordings of the errors inside, the outermost first. -/
def sources (failure : BootFailure) : List String :=
  match failure with
  | .moduleLoad (.unreadable _ cause) => [failure.message, cause.message]
  | _ => [failure.message]

end BootFailure

end InstanceHost
