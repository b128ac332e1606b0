/-
**The canonical text of an object is read back.**

An object becomes the text for an instance in its compact form, and the instance reads that text as
configuration text. The text starts with a brace and ends with one, so nothing is trimmed and it is
read as JSON and not as a list of options.

* `readConfig_text`: an object within the limit on containers is read back;
* `readConfig_text_of_lt`: any other object is refused;
* `canonical_of_toNormal`: the canonical text of an object is its compact form.
-/

import InstanceHost.Config.Basic
import InstanceHost.Config.Options
import InstanceHost.Proofs.Json.RoundTrip
import InstanceHost.Proofs.Text.Padding

namespace InstanceHost

namespace Json

theorem exists_compactEntries (rest : List (String × Json)) :
    ∃ middle, compactEntries rest = middle ++ ['\x7d'] := by
  induction rest with
  | nil => exact ⟨[], rfl⟩
  | cons entry others inductive_step =>
    obtain ⟨middle, shape⟩ := inductive_step
    refine ⟨',' :: '"' :: (memberText entry ++ middle), ?_⟩
    rw [compactEntries_cons, shape, List.cons_append, List.cons_append, List.append_assoc]

theorem exists_compact_object (entries : List (String × Json)) :
    ∃ middle, compact (.object entries) = '\x7b' :: (middle ++ ['\x7d']) := by
  cases entries with
  | nil => exact ⟨[], rfl⟩
  | cons entry rest =>
    obtain ⟨middle, shape⟩ := exists_compactEntries rest
    refine ⟨'"' :: (memberText entry ++ middle), ?_⟩
    rw [compact_object_cons, shape, List.cons_append, List.append_assoc]

end Json

/-- The text of an object is read as JSON. -/
theorem readConfig_text_eq (entries : Keyed Json) :
    readConfig (Json.object entries).text =
      Config.readObjectText (Json.object entries).compact := by
  obtain ⟨middle, shape⟩ := Json.exists_compact_object entries
  rw [readConfig, Json.text, String.toList_ofList, shape,
    Text.trim_enclosed middle (by decide) (by decide)]
  rfl

section

variable {entries : Keyed Json} (ordered : (Json.object entries).Ordered)
  (integral : (Json.object entries).Integral)

include ordered integral

/-- **An object within the limit on containers is read back.** -/
theorem readConfig_text (within : (Json.object entries).depth ≤ Json.containerLimit) :
    readConfig (Json.object entries).text = .ok entries := by
  rw [readConfig_text_eq, Config.readObjectText, Json.readWhole_compact ordered integral within]
  rfl

/-- **Any other object is refused.** -/
theorem readConfig_text_of_lt (beyond : Json.containerLimit < (Json.object entries).depth) :
    ∃ fault, readConfig (Json.object entries).text =
        .error (.invalidJson (Json.object entries).text fault) ∧
      fault.cause = .tooDeep := by
  obtain ⟨fault, refused, cause⟩ := Json.readWhole_compact_of_lt ordered integral beyond
  refine ⟨fault, ?_, cause⟩
  rw [readConfig_text_eq, Config.readObjectText, refused]
  rfl

end

/-- The canonical text of an object is its compact form. -/
theorem canonical_of_toNormal {entries : Keyed Json} {normal : NormalConfig}
    (resolved : (Config.structured entries).toNormal = .ok normal) :
    normal.canonical = (Json.object entries).text := by
  unfold Config.toNormal at resolved
  simp only at resolved
  split at resolved
  · cases resolved
    rfl
  · cases resolved

end InstanceHost
