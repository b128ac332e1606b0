/-
**A call that finds an instance rewrites its configuration and nothing else.**

Whatever was done on a desk, a call with a string or an object that finds an instance published ends
in its first poll, and comes to this instance. It asks the loader for nothing, and all that it
changes besides the log are the items of the instance under the key of the configuration.

* `Service.Updates`: what such a call does to a service;
* `updates_of_current`: every such call does it;
* `update_rewrites_config_only`: so does every such call on a desk, whatever was done there before.
-/

import InstanceHost.Proofs.Call.Orderly
import InstanceHost.Proofs.Instance.Balance
import InstanceHost.Proofs.Instance.Keys

namespace InstanceHost

/-- **The configuration of an instance is rewritten**, and besides the log nothing else is. -/
structure Service.Updates (service after : Service) (id : Nat) (value : Json) : Prop where
  slot : after.slot = service.slot
  loader : after.loader = service.loader
  record : after.record = service.record
  calls : after.calls = service.calls
  files : after.host.files = service.host.files
  others : ∀ other, other ≠ id → after.host.find? other = service.host.find? other
  target : ∃ target changed, service.host.find? id = some target ∧
    after.host.find? id = some changed ∧ target.Updated changed value

theorem Config.ofJson_toJson (config : Config) : Config.ofJson config.toJson = .ok config := by
  cases config <;> rfl

/-- **A call that finds an instance published** ends in its first poll. -/
theorem updates_of_current {service : Service} {target : Instance} (config : Config)
    (numbered : service.host.Numbered) (published : service.current? = some target) :
    ∃ after,
      service.poll (.fresh (.value config.toJson)) = ⟨after, .finished (.ok target.id)⟩ ∧
      service.complete (.value config.toJson) = ⟨after, .finished (.ok target.id)⟩ ∧
      service.Updates after target.id config.toJson := by
  obtain ⟨changed, writing⟩ :
      ∃ changed, changed = (target.set configurationKey config.toJson).1 := ⟨_, rfl⟩
  have updated : target.Updated changed config.toJson := writing ▸ target.updated_set config.toJson
  have number : changed.id = target.id := by rw [updated.same]
  have reused : service.reuse? config =
      some (service.replace changed [.configUpdated target.id config.kindName], target.id) := by
    rw [Service.reuse?, published, writing]
    simp only [Instance.set_configurationKey, List.nil_append]
  have begins : service.begin (.value config.toJson) =
      ⟨(service.replace changed [.configUpdated target.id config.kindName]).log
        [.bootReused target.id], .finished (.ok target.id)⟩ := by
    rw [Service.begin, Config.ofJson_toJson]
    show service.beginConfig config = _
    rw [Service.beginConfig, reused]
  rw [Service.current?, Option.bind_eq_some_iff] at published
  obtain ⟨id, slot, stored⟩ := published
  have there : service.host.find? changed.id = some target := by
    rw [number, numbered id target stored]
    exact stored
  refine ⟨_, begins, complete_of_begin begins, rfl, rfl, rfl, rfl, rfl, fun other different => ?_,
    target, changed, number ▸ there, number ▸ Host.find?_replace_self there, updated⟩
  exact Host.find?_replace_of_ne (number ▸ different)

/-- **The configuration is rewritten and nothing else.** After any schedule on a desk that was not
used, requests that write items anywhere and register extensions included: if an instance is
published, a call with a string or an object ends in its first poll and comes to this instance. The
slot, the loader and what it was asked for, the other instances and calls and the files are as they
were, and the instance has its configuration rewritten and nothing else. -/
theorem update_rewrites_config_only (desk : Desk) (actions : List Action) (unused : desk.Unused) :
    let service := (desk.run actions).1.service
    ∀ id, service.slot = some id → ∀ config : Config,
      ∃ after, service.poll (.fresh (.value config.toJson)) = ⟨after, .finished (.ok id)⟩ ∧
        service.complete (.value config.toJson) = ⟨after, .finished (.ok id)⟩ ∧
        service.Updates after id config.toJson := by
  intro service id slot config
  have orderly : (desk.run actions).1.Orderly := desk.orderly_run unused.orderly actions
  have known := orderly.published id slot
  obtain ⟨target, found⟩ := known.exists_find?
  have number : target.id = id := orderly.tidy.numbered id target found
  have current : service.current? = some target := by
    rw [Service.current?, slot, Option.bind_some, found]
  exact number ▸ updates_of_current config orderly.tidy.numbered current

/-- An instance whose items were replaced, with a text in the place where the configuration was, and
with extensions. -/
def replaceItemsAndRegister : List Action :=
  [.complete (.value (.object [])), .request 0 (.set "" (.object [("kept", .bool true)])),
    .request 0 (.set "self" (.string "gone")), .request 0 (.register "desk" nestingExtension)]

theorem update_rewrites_config_only_items_replaced :
    let desk : Desk := ⟨nestedService [] none, []⟩
    let service := (desk.run replaceItemsAndRegister).1.service
    desk.Unused ∧ service.slot = some 0 ∧
      service.current?.map Instance.names = some ["desk", "inner"] ∧
      service.current?.map (fun target => target.config?.isSome) = some false ∧
      ∃ after, service.complete (.value (.string "\x7b\x7d")) = ⟨after, .finished (.ok 0)⟩ ∧
        service.Updates after 0 (.string "\x7b\x7d") := by
  intro desk service
  have unused : desk.Unused := ⟨(fun _ _ found => nomatch found), rfl, rfl, rfl⟩
  have slot : service.slot = some 0 := by decide +kernel
  obtain ⟨after, _, completes, updates⟩ :=
    update_rewrites_config_only desk replaceItemsAndRegister unused 0 slot (.serialized "\x7b\x7d")
  exact ⟨unused, slot, by decide +kernel, by decide +kernel, after, completes, updates⟩

end InstanceHost
