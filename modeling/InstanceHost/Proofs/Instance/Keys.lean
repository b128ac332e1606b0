/-
**Keys that have nothing to do with each other.**

A key names the path of its nonempty segments. Writing at a path changes what is read at the path,
above it and below it, and nothing else: two paths of which neither goes on from the other part at
some key, and there the tree is as it was, whatever stood on the way.

* `keyPath_append`: a key followed by another names their paths in a row;
* `exists_parting`: where two paths part;
* `Json.get?_put_of_parting`: a write is not noticed at such a path;
* `Instance.Updated`: an instance with its configuration rewritten and nothing else.
-/

import InstanceHost.Proofs.Call.Soundness
import InstanceHost.Proofs.Text.Padding

namespace InstanceHost

/-! ### Paths of keys -/

/-- **A key followed by another** names their paths in a row. -/
theorem keyPath_append (first second : String) :
    keyPath (first ++ "/" ++ second) = keyPath first ++ keyPath second := by
  have shape : (first ++ "/" ++ second).toList = first.toList ++ '/' :: second.toList := by
    rw [String.toList_append, String.toList_append, List.append_assoc]
    rfl
  rw [keyPath, shape, Text.pieces_append, List.filter_append, List.map_append]
  rfl

/-- **Where two paths part.** -/
theorem exists_parting {first second : List String} (beyond : ¬ first <+: second)
    (above : ¬ second <+: first) :
    ∃ shared key other rest others, first = shared ++ key :: rest ∧
      second = shared ++ other :: others ∧ key ≠ other := by
  induction first generalizing second with
  | nil => exact absurd List.nil_prefix beyond
  | cons key rest inductive_step =>
    cases second with
    | nil => exact absurd List.nil_prefix above
    | cons other others =>
      by_cases same : key = other
      · subst same
        obtain ⟨shared, one, two, left, right, rfl, rfl, different⟩ := inductive_step
          (fun prefixed => beyond (List.cons_prefix_cons.mpr ⟨rfl, prefixed⟩))
          (fun prefixed => above (List.cons_prefix_cons.mpr ⟨rfl, prefixed⟩))
        exact ⟨key :: shared, one, two, left, right, rfl, rfl, different⟩
      · exact ⟨[], key, other, rest, others, rfl, rfl, same⟩

/-- **A write is not noticed at a path that parts from it.** -/
theorem Json.get?_put_of_parting {written read : List String} (beyond : ¬ written <+: read)
    (above : ¬ read <+: written) (replacement value : Json) :
    (put replacement written value).get? read = value.get? read := by
  obtain ⟨shared, key, other, rest, others, rfl, rfl, different⟩ := exists_parting beyond above
  exact get?_put_of_ne replacement value shared different.symm rest others

/-! ### The configuration -/

/-- **An instance with its configuration rewritten**: nothing of it but its items has changed; its
configuration is the value, and inside it is read what is inside the value; and whatever a key names
that neither lies inside the configuration nor contains it is as it was. -/
structure Instance.Updated (target changed : Instance) (value : Json) : Prop where
  same : changed = { target with items := changed.items }
  config : changed.config? = some value
  below : ∀ key, changed.get? (configurationKey ++ "/" ++ key) = value.get? (keyPath key)
  others : ∀ key, ¬ keyPath configurationKey <+: keyPath key →
    ¬ keyPath key <+: keyPath configurationKey → changed.get? key = target.get? key

/-- Writing at the key of the configuration does so, whatever the items are. -/
theorem Instance.updated_set (target : Instance) (value : Json) :
    target.Updated (target.set configurationKey value).1 value := by
  have items : Json.object (target.set configurationKey value).1.items =
      Json.put value (keyPath configurationKey) (.object target.items) := by
    rw [set_configurationKey, keyPath_configurationKey, Json.object_putMember]
  refine ⟨?_, config?_set target value, fun key => ?_, fun key beyond above => ?_⟩
  · rw [set_configurationKey]
  · rw [get?, Items.get?, items, keyPath_append, Json.get?_put]
  · rw [get?, Items.get?, items, Json.get?_put_of_parting beyond above]
    rfl

end InstanceHost
