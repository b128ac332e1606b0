/-
**What configuration text describes.**

A text that reads as a JSON object describes this object: the blanks around it are cut off before it
is read as configuration text, and they are more than the blanks that JSON knows. Whatever a text
describes has its keys in order, be it an object or a list of options.

* `readConfig_of_parse`: a text that is a JSON object;
* `ordered_of_readConfig`: the entries of any text.
-/

import InstanceHost.Config.Options
import InstanceHost.Proofs.Json.Heredity
import InstanceHost.Proofs.Json.Locality
import InstanceHost.Proofs.Text.Padding

namespace InstanceHost

/-! ### Blanks around an object -/

theorem Text.isBlank_of_isSpacing {character : Char} (spacing : Json.isSpacing character = true) :
    Text.isBlank character = true := by
  simp only [Json.isSpacing, Bool.or_eq_true, beq_iff_eq] at spacing
  rcases spacing with ((rfl | rfl) | rfl) | rfl <;> decide

/-- **A text that is a JSON object** describes this object. -/
theorem readConfig_of_parse {text : String} {entries : Keyed Json}
    (reading : Json.parse text = .ok (.object entries)) : readConfig text = .ok entries := by
  obtain ⟨before, inside, behind, shape, spacing, again⟩ := Json.exists_of_readWhole reading
  have padding : Text.Padded ('\x7b' :: (inside ++ ['\x7d'])) text.toList := by
    refine ⟨before, behind,
      fun other member => Text.isBlank_of_isSpacing (spacing other member), ?_⟩
    rw [shape]
    simp
  rw [readConfig, padding.trim_eq, Text.trim_enclosed inside (by decide) (by decide)]
  show Config.readObjectText ('\x7b' :: (inside ++ ['\x7d'])) = _
  rw [Config.readObjectText, again]
  rfl

/-! ### The order of keys -/

namespace Config

theorem ordered_optionValue (characters : List Char) : (optionValue characters).Ordered := by
  unfold optionValue
  split
  · next value reading => exact (Json.fits_of_readWhole reading).1
  · trivial

theorem ordered_of_readAssignments {options : List (List Char)} {assignments : List Assignment}
    (reading : readAssignments options = .ok assignments) :
    ∀ assignment ∈ assignments, assignment.value.Ordered := by
  induction options generalizing assignments with
  | nil =>
    cases reading
    exact List.forall_mem_nil _
  | cons option rest inductive_step =>
    rw [readAssignments] at reading
    obtain ⟨assignment, first, reading⟩ := Json.exists_of_bind_eq_ok reading
    obtain ⟨others, further, ending⟩ := Json.exists_of_bind_eq_ok reading
    cases ending
    refine List.forall_mem_cons.mpr ⟨?_, inductive_step further⟩
    unfold readAssignment at first
    split at first
    · cases first
    · simp only at first
      split at first
      · cases first
      · cases first
        exact ordered_optionValue _

theorem ordered_assign {entries : Keyed Json} (assignments : List Assignment)
    (ordered : (Json.object entries).Ordered)
    (values : ∀ assignment ∈ assignments, assignment.value.Ordered) :
    (Json.object (assign entries assignments)).Ordered := by
  induction assignments generalizing entries with
  | nil => exact ordered
  | cons assignment rest inductive_step =>
    obtain ⟨first, others⟩ := List.forall_mem_cons.mp values
    have written := Json.hereditary_ordered.put assignment.path first ordered
    exact inductive_step (Json.hereditary_ordered.members written) others

end Config

/-- **The keys of whatever a text describes are in order.** -/
theorem ordered_of_readConfig {text : String} {entries : Keyed Json}
    (reading : readConfig text = .ok entries) : (Json.object entries).Ordered := by
  have empty : (Json.object []).Ordered := Json.hereditary_ordered.empty
  unfold readConfig Config.readTrimmed at reading
  split at reading
  · cases reading
    exact empty
  · unfold Config.readObjectText at reading
    split at reading
    · next value found =>
      cases reading
      exact Json.hereditary_ordered.members (Json.fits_of_readWhole found).1
    · cases reading
  · obtain ⟨assignments, found, ending⟩ := Json.exists_of_bind_eq_ok reading
    cases ending
    exact Config.ordered_assign assignments empty (Config.ordered_of_readAssignments found)

end InstanceHost
