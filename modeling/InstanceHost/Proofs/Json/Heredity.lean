/-
**Properties that parts inherit.**

That the keys are in order, and that every number is an integer, holds of an object exactly if it
holds of its members in order. Such a property passes from an object to its members, and writing a
member that has it keeps it. So it is kept by writing at a path and by laying one object over
another.

* `Hereditary`: what is needed of such a property;
* `hereditary_ordered`, `hereditary_integral`: the two properties;
* `Hereditary.put`, `Hereditary.overlayEntries`: what keeps them.
-/

import InstanceHost.Json.Overlay
import InstanceHost.Json.Path
import InstanceHost.Proofs.Json.Order

namespace InstanceHost.Json

/-- **A property that parts inherit**, and that writing a member keeps. -/
structure Hereditary (part : Json → Prop) : Prop where
  null : part .null
  empty : part (.object [])
  cons : ∀ key value rest, part (.object ((key, value) :: rest)) → part value ∧ part (.object rest)
  insert : ∀ key value entries, part (.object entries) → part value →
    part (.object (Keyed.insert key value entries))

/-! ### The two properties -/

theorem hereditary_ordered : Hereditary Ordered := by
  refine ⟨trivial, ⟨List.Pairwise.nil, trivial⟩, ?_, ?_⟩
  · rintro key value rest ⟨ascending, first, others⟩
    exact ⟨first, (List.pairwise_cons.mp ascending).2, others⟩
  · rintro key value entries ⟨ascending, all⟩ ordered
    refine ⟨Keyed.ascending_insert ascending, entriesOrdered_of_forall_mem fun entry member => ?_⟩
    rcases Keyed.eq_or_mem_of_mem_insert member with rfl | before
    · exact ordered
    · exact entry_ordered_of_mem all entry before

theorem entriesIntegral_of_forall_mem {entries : List (String × Json)}
    (all : ∀ entry ∈ entries, entry.2.Integral) : EntriesIntegral entries := by
  induction entries with
  | nil => trivial
  | cons entry rest inductive_step =>
    obtain ⟨first, others⟩ := List.forall_mem_cons.mp all
    exact ⟨first, inductive_step others⟩

theorem hereditary_integral : Hereditary Integral := by
  refine ⟨trivial, trivial, fun key value rest both => both, ?_⟩
  intro key value entries all integral
  refine entriesIntegral_of_forall_mem fun entry member => ?_
  rcases Keyed.eq_or_mem_of_mem_insert member with rfl | before
  · exact integral
  · exact entry_integral_of_mem all entry before

/-! ### What keeps such a property -/

namespace Hereditary

variable {part : Json → Prop}

section

variable (hereditary : Hereditary part)

include hereditary

theorem lookup {entries : Keyed Json} {key : String} {value : Json}
    (whole : part (.object entries)) (found : entries.lookup key = some value) : part value := by
  induction entries with
  | nil => cases found
  | cons entry rest inductive_step =>
    obtain ⟨first, others⟩ := hereditary.cons _ _ _ whole
    rw [Keyed.lookup] at found
    split at found
    · cases found
      exact first
    · split at found
      · cases found
      · exact inductive_step others found

theorem members {value : Json} (whole : part value) : part (.object value.members) := by
  cases value with
  | object entries => exact whole
  | _ => exact hereditary.empty

/-- What is read at a path has the property. -/
theorem get? {value found : Json} {path : List String} (whole : part value)
    (there : value.get? path = some found) : part found := by
  induction path generalizing value with
  | nil =>
    cases there
    exact whole
  | cons key rest inductive_step =>
    rw [Json.get?] at there
    cases member : value.members.lookup key with
    | none =>
      rw [member] at there
      cases there
    | some child =>
      rw [member] at there
      exact inductive_step (hereditary.lookup (hereditary.members whole) member) there

/-- **Writing at a path** keeps the property. -/
theorem put {replacement : Json} (path : List String) {value : Json} (new : part replacement)
    (old : part value) : part (put replacement path value) := by
  induction path generalizing value with
  | nil => exact new
  | cons key rest inductive_step =>
    refine hereditary.insert _ _ _ (hereditary.members old) (inductive_step ?_)
    cases found : value.members.lookup key with
    | none => exact hereditary.null
    | some child => exact hereditary.lookup (hereditary.members old) found

end

mutual

/-- **Laying one value over another** keeps the property. -/
theorem overlay (hereditary : Hereditary part) {lower : Option Json}
    (below : ∀ value, lower = some value → part value) :
    ∀ upper : Json, part upper → part (overlay lower upper)
  | .object entries, above => by
    unfold Json.overlay
    split
    · next under => exact overlayEntries hereditary (below _ rfl) entries above
    · exact above
  | .null, above => above
  | .bool _, above => above
  | .number _, above => above
  | .string _, above => above
  | .array _, above => above

/-- Laying members over members. -/
theorem overlayEntries (hereditary : Hereditary part) {lower : Keyed Json}
    (below : part (.object lower)) : ∀ upper : List (String × Json), part (.object upper) →
      part (.object (overlayEntries lower upper))
  | [], _ => below
  | (key, value) :: rest, above => by
    obtain ⟨first, others⟩ := hereditary.cons _ _ _ above
    unfold Json.overlayEntries
    have under : ∀ found, lower.lookup key = some found → part found := fun found present =>
      hereditary.lookup below present
    have written := overlay hereditary under value first
    exact overlayEntries hereditary (hereditary.insert _ _ _ below written) rest others

end

end Hereditary

end InstanceHost.Json
