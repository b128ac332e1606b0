/-
**What one object over another is, path by path.**

Laying one object over another goes down where both hold objects and lets the upper one win
everywhere else. Seen at a path: what the upper object has there is laid over what the lower one has
there, and nothing else of either counts. An object that is laid over something else than an object
is laid over an empty one, so that at a path one rule covers all kinds of values.

* `Overlaid`: what every path shows of one value over another;
* `lookup_overlayEntries`, `mem_names_overlayEntries`: a single member, and the names;
* `overlay_object`: an object over whatever is there;
* `get?_overlay_of_some`, `get?_overlay_of_none`: a path at which the upper value has something, and
  one at which it has nothing;
* `overlay_overlay`: laying a value over another again, by induction on the value;
* `overlaid_and_settled`: both for objects.
-/

import InstanceHost.Proofs.Json.Heredity

namespace InstanceHost

/-! ### Entries in order -/

namespace Keyed

variable {α : Type} {name : String} {value : α} {entries : Keyed α}

/-- In order, an entry is read under its name. -/
theorem lookup_of_mem (ordered : Ascending entries) (member : (name, value) ∈ entries) :
    lookup name entries = some value := by
  induction entries with
  | nil => cases member
  | cons entry rest inductive_step =>
    obtain ⟨key, old⟩ := entry
    obtain ⟨first, later⟩ := List.pairwise_cons.mp ordered
    rcases List.mem_cons.mp member with same | deeper
    · cases same
      rw [lookup, if_pos rfl]
    · have behind : key < name := first name (List.mem_map_of_mem deeper)
      rw [lookup, if_neg (ne_of_lt behind).symm, if_neg (String.lt_asymm behind)]
      exact inductive_step later deeper

theorem lookup_eq_none_of_not_mem (absent : name ∉ names entries) : lookup name entries = none := by
  induction entries with
  | nil => rfl
  | cons entry rest inductive_step =>
    obtain ⟨key, old⟩ := entry
    obtain ⟨different, others⟩ := not_or.mp (mt List.mem_cons.mpr absent)
    rw [lookup, if_neg different, inductive_step others, ite_self]

end Keyed

namespace Json

/-- **One value over another**, as every path shows it. What the upper value has at a path is there,
if it is no object; if it is an object, there is an object with the names of both sides. Where the
upper value has nothing, there is what the lower one has, unless the upper one has something on the
way that is no object, and behind that there is nothing. -/
structure Overlaid (lower upper merged : Json) : Prop where
  replaced : ∀ path value, upper.get? path = some value → value.isObject = false →
    merged.get? path = some value
  joined : ∀ path entries, upper.get? path = some (.object entries) →
    ∃ both : Keyed Json, merged.get? path = some (.object both) ∧
      ∀ name, name ∈ both.names ↔
        name ∈ Keyed.names entries ∨ name ∈ Keyed.names ((lower.get? path).elim [] members)
  kept : ∀ path, upper.get? path = none →
    (∀ above value, above <+: path → upper.get? above = some value → value.isObject = true) →
      merged.get? path = lower.get? path
  hidden : ∀ above next below value, upper.get? above = some value → value.isObject = false →
    merged.get? (above ++ next :: below) = none

/-! ### Members -/

section

variable {lower upper : Keyed Json}

/-- **The names of both sides.** -/
theorem mem_names_overlayEntries {name : String} :
    name ∈ Keyed.names (overlayEntries lower upper) ↔
      name ∈ Keyed.names lower ∨ name ∈ Keyed.names upper := by
  induction upper generalizing lower with
  | nil => simp [overlayEntries, Keyed.names]
  | cons entry rest inductive_step =>
    obtain ⟨key, value⟩ := entry
    have listed : name ∈ Keyed.names ((key, value) :: rest) ↔
        name = key ∨ name ∈ Keyed.names rest := List.mem_cons
    rw [overlayEntries, inductive_step, Keyed.mem_names_insert, listed, or_right_comm, or_comm,
      or_left_comm]

/-- **A member of one object over another.** -/
theorem lookup_overlayEntries (ordered : Keyed.Ascending upper) (name : String) :
    Keyed.lookup name (overlayEntries lower upper) =
      match upper.lookup name with
      | none => lower.lookup name
      | some value => some (overlay (lower.lookup name) value) := by
  induction upper generalizing lower with
  | nil => rfl
  | cons entry rest inductive_step =>
    obtain ⟨key, value⟩ := entry
    obtain ⟨first, later⟩ := List.pairwise_cons.mp ordered
    rw [overlayEntries, inductive_step later, Keyed.lookup.eq_2]
    by_cases same : name = key
    · subst same
      rw [Keyed.lookup_eq_none_of_lt first, if_pos rfl, Keyed.lookup_insert_self]
    · rw [if_neg same, Keyed.lookup_insert_of_ne same]
      by_cases before : name < key
      · rw [if_pos before, Keyed.lookup_eq_none_of_lt fun other member =>
          String.lt_trans before (first other member)]
      · rw [if_neg before]

end

/-! ### Values -/

section

variable {lower : Option Json} {upper value : Json}

theorem overlay_of_plain (plain : value.isObject = false) (lower : Option Json) :
    overlay lower value = value := by
  cases value with
  | object entries => cases plain
  | _ => rfl

/-- A value over nothing stays as it is. -/
theorem overlay_none (value : Json) : overlay none value = value := by
  cases value <;> rfl

/-- Entries behind all others are lined up. -/
theorem overlayEntries_append {earlier entries : Keyed Json}
    (ordered : Keyed.Ascending (earlier ++ entries)) :
    overlayEntries earlier entries = earlier ++ entries := by
  induction entries generalizing earlier with
  | nil => exact (List.append_nil _).symm
  | cons entry rest inductive_step =>
    obtain ⟨key, value⟩ := entry
    have last : ∀ other ∈ Keyed.names earlier, other < key := by
      unfold Keyed.Ascending Keyed.names at ordered
      rw [List.map_append] at ordered
      exact fun other member =>
        (List.pairwise_append.mp ordered).2.2 other member key List.mem_cons_self
    have absent : key ∉ Keyed.names earlier := fun member => String.lt_irrefl key (last key member)
    rw [overlayEntries, Keyed.lookup_eq_none_of_not_mem absent, overlay_none,
      Keyed.insert_of_forall_lt last, inductive_step (by rwa [List.append_assoc]),
      List.append_assoc]
    rfl

/-- **An object over whatever is there**: what is no object counts as an empty one. -/
theorem overlay_object {entries : Keyed Json} (ordered : Keyed.Ascending entries)
    (lower : Option Json) :
    overlay lower (.object entries) = .object (overlayEntries (lower.elim [] members) entries) := by
  have alone : overlayEntries [] entries = entries := overlayEntries_append ordered
  cases lower with
  | none => rw [overlay_none, Option.elim_none, alone]
  | some value =>
    cases value with
    | object below => rfl
    | _ => exact congrArg Json.object alone.symm

/-! ### Paths -/

theorem get?_cons (value : Json) (key : String) (rest : List String) :
    value.get? (key :: rest) = (value.members.lookup key).bind (·.get? rest) := by
  rw [get?]
  cases value.members.lookup key <;> rfl

theorem bind_get?_cons (lower : Option Json) (key : String) (rest : List String) :
    lower.bind (·.get? (key :: rest)) =
      (Keyed.lookup key (lower.elim [] members)).bind (·.get? rest) := by
  cases lower with
  | none => rfl
  | some value => exact get?_cons value key rest

/-- **Where the upper value has something**, this is laid over what the lower one has there. -/
theorem get?_overlay_of_some {path : List String} (ordered : upper.Ordered)
    (there : upper.get? path = some value) :
    (overlay lower upper).get? path = some (overlay (lower.bind (·.get? path)) value) := by
  induction path generalizing lower upper with
  | nil =>
    cases there
    cases lower <;> rfl
  | cons key rest inductive_step =>
    rw [get?_cons] at there
    obtain ⟨child, member, deeper⟩ := Option.bind_eq_some_iff.mp there
    cases upper with
    | object entries =>
      rw [members_object] at member
      rw [overlay_object ordered.1, get?_cons, members_object, lookup_overlayEntries ordered.1,
        member, bind_get?_cons]
      exact inductive_step (hereditary_ordered.lookup ordered member) deeper
    | _ => cases member

/-- **Where the upper value has nothing**, there is what the lower one has, if there are only
objects on the way. -/
theorem get?_overlay_of_none {path : List String} (ordered : upper.Ordered)
    (nothing : upper.get? path = none)
    (way : ∀ above value, above <+: path → upper.get? above = some value → value.isObject = true) :
    (overlay lower upper).get? path = lower.bind (·.get? path) := by
  induction path generalizing lower upper with
  | nil => cases nothing
  | cons key rest inductive_step =>
    have object : upper.isObject = true := way [] upper List.nil_prefix rfl
    cases upper with
    | object entries =>
      rw [get?_cons, members_object] at nothing
      rw [overlay_object ordered.1, get?_cons, members_object, lookup_overlayEntries ordered.1,
        bind_get?_cons]
      cases member : Keyed.lookup key entries with
      | none => rfl
      | some child =>
        rw [member] at nothing
        refine inductive_step (hereditary_ordered.lookup ordered member) nothing ?_
        intro above value shorter there
        refine way (key :: above) value (List.cons_prefix_cons.mpr ⟨rfl, shorter⟩) ?_
        rw [get?_cons, members_object, member]
        exact there
    | _ => cases object

theorem overlaid_overlay (ordered : upper.Ordered) (lower : Json) :
    Overlaid lower upper (overlay (some lower) upper) := by
  refine ⟨fun path value there plain => ?_, fun path entries there => ?_,
    fun path nothing way => ?_, fun above next below value there plain => ?_⟩
  · rw [get?_overlay_of_some ordered there, overlay_of_plain plain]
  · have inner : (Json.object entries).Ordered := hereditary_ordered.get? ordered there
    refine ⟨_, ?_, fun name => (@mem_names_overlayEntries _ entries name).trans or_comm⟩
    rw [get?_overlay_of_some ordered there, overlay_object inner.1]
    rfl
  · exact get?_overlay_of_none ordered nothing way
  · have standing : (overlay (some lower) upper).get? above = some value := by
      rw [get?_overlay_of_some ordered there, overlay_of_plain plain]
    rw [get?_append, standing]
    cases value with
    | object entries => cases plain
    | _ => rfl

end

/-! ### Once more -/

/-- Nothing changes where every member is settled. -/
theorem overlayEntries_of_settled {lower upper : Keyed Json}
    (settled : ∀ entry ∈ upper, ∃ value, lower.lookup entry.1 = some value ∧
      overlay (some value) entry.2 = value) : overlayEntries lower upper = lower := by
  induction upper with
  | nil => rfl
  | cons entry rest inductive_step =>
    obtain ⟨⟨value, member, same⟩, others⟩ := List.forall_mem_cons.mp settled
    rw [overlayEntries, member, same, Keyed.insert_lookup member, inductive_step others]

mutual

/-- **Laying a value over another again** changes nothing. -/
theorem overlay_overlay : ∀ upper : Json, upper.Ordered → ∀ lower,
    overlay (some (overlay lower upper)) upper = overlay lower upper
  | .object entries, ordered, lower => by
    have settled := entries_settled entries ordered.2
    rw [overlay_object ordered.1, overlay_object ordered.1, Option.elim_some, members_object,
      overlayEntries_of_settled]
    intro entry member
    have read := @lookup_overlayEntries (lower.elim [] members) entries ordered.1 entry.1
    rw [Keyed.lookup_of_mem ordered.1 member] at read
    exact ⟨_, read, settled entry member _⟩
  | .null, _, _ => rfl
  | .bool _, _, _ => rfl
  | .number _, _, _ => rfl
  | .string _, _, _ => rfl
  | .array _, _, _ => rfl

/-- The same of the members of an object. -/
theorem entries_settled : ∀ entries : List (String × Json), EntriesOrdered entries →
    ∀ entry ∈ entries, ∀ lower,
      overlay (some (overlay lower entry.2)) entry.2 = overlay lower entry.2
  | [], _ => List.forall_mem_nil _
  | (_, value) :: rest, ordered =>
    List.forall_mem_cons.mpr ⟨overlay_overlay value ordered.1, entries_settled rest ordered.2⟩

end

/-- **One object over another, path by path, and once more.** Every path shows of the two what
`Overlaid` says, and laying the same object over the result again changes nothing. -/
theorem overlaid_and_settled (lower upper : Keyed Json) (ordered : (Json.object upper).Ordered) :
    let merged := overlayEntries lower upper
    Overlaid (.object lower) (.object upper) (.object merged) ∧
      overlayEntries merged upper = merged :=
  ⟨overlaid_overlay ordered (.object lower),
    Json.object.inj (overlay_overlay _ ordered (some (.object lower)))⟩

/-- A flag over an object, an object over a text, and an empty object over an object. -/
theorem overlaid_and_settled_mixed :
    let lower : Keyed Json := [("a", .object [("x", .null), ("y", .object [("z", .null)])]),
      ("b", .string "text"), ("c", .object [("k", .null)])]
    let upper : Keyed Json := [("a", .object [("y", .bool false)]), ("b", .object [("in", .null)]),
      ("c", .object [])]
    let merged := overlayEntries lower upper
    (Json.object upper).Ordered ∧ (Json.object merged).get? ["a", "x"] = some .null ∧
      (Json.object merged).get? ["a", "y"] = some (.bool false) ∧
      (Json.object merged).get? ["a", "y", "z"] = none ∧
      (∃ both : Keyed Json, (Json.object merged).get? ["b"] = some (.object both) ∧
        ∀ name, name ∈ both.names ↔ name = "in") ∧
      (∃ both : Keyed Json, (Json.object merged).get? ["c"] = some (.object both) ∧
        ∀ name, name ∈ both.names ↔ name = "k") ∧
      overlayEntries merged upper = merged := by
  intro lower upper merged
  have outer : Keyed.Ascending upper := by
    simp only [Keyed.Ascending, Keyed.names, upper]
    decide
  have ordered : (Json.object upper).Ordered :=
    ⟨outer, ⟨List.pairwise_singleton _ _, trivial, trivial⟩,
      ⟨List.pairwise_singleton _ _, trivial, trivial⟩, ⟨List.Pairwise.nil, trivial⟩, trivial⟩
  obtain ⟨overlaid, settled⟩ := overlaid_and_settled lower upper ordered
  have way : ∀ above value, above <+: ["a", "x"] → (Json.object upper).get? above = some value →
      value.isObject = true := by
    intro above value shorter there
    rcases List.prefix_cons_iff.mp shorter with rfl | ⟨_, rfl, deeper⟩
    · cases there
      rfl
    · rcases List.prefix_cons_iff.mp deeper with rfl | ⟨_, rfl, _⟩ <;> cases there
      rfl
  have flag : (Json.object upper).get? ["a", "y"] = some (.bool false) := rfl
  refine ⟨ordered, ?_, overlaid.replaced _ _ flag rfl, overlaid.hidden ["a", "y"] "z" [] _ flag rfl,
    ?_, ?_, settled⟩
  · exact overlaid.kept ["a", "x"] rfl way
  · obtain ⟨both, there, names⟩ := overlaid.joined ["b"] [("in", .null)] rfl
    have below : Keyed.names (((Json.object lower).get? ["b"]).elim [] members) = [] := rfl
    exact ⟨both, there, fun name => (names name).trans (by rw [below]; simp [Keyed.names])⟩
  · obtain ⟨both, there, names⟩ := overlaid.joined ["c"] [] rfl
    have below : Keyed.names (((Json.object lower).get? ["c"]).elim [] members) = ["k"] := rfl
    exact ⟨both, there, fun name => (names name).trans (by rw [below]; simp [Keyed.names])⟩

end Json

end InstanceHost
