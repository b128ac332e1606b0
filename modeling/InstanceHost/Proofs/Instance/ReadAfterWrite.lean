/-
**What is read after a write.**

A key counts by the path of its nonempty segments only. A value that is written at a path is read
there, with all that lies inside it; a path that parts from the written one is as it was, also where
the write had to make objects of what stood on the way; and above the written path there are objects
now, each with the members it had before but for the one that leads down. The empty path names the
whole tree, which can only be replaced by an object.

* `Json.Holds`: what stands at a path of a value, and nothing behind what is no object;
* `Json.exists_get?_put_above`: a write seen from above;
* `exists_pieces_keyPath`: the segments of a key;
* `Instance.Written`: an instance after a write, as seen through every key;
* `read_after_write`: every key read after every write.
-/

import InstanceHost.Proofs.Instance.Keys

namespace InstanceHost

/-! ### Paths -/

/-- **What stands at a path**: the value itself, or what stands further down in a member. -/
inductive Json.Holds : Json → List String → Json → Prop
  | here {value : Json} : Holds value [] value
  | inside {entries : Keyed Json} {key : String} {rest : List String} {child found : Json}
      (member : entries.lookup key = some child) (deeper : Holds child rest found) :
      Holds (.object entries) (key :: rest) found

namespace Json

/-- **Reading finds what stands at a path**, and nothing else. -/
theorem get?_eq_some_iff {value found : Json} {path : List String} :
    value.get? path = some found ↔ value.Holds path found := by
  constructor
  · intro reading
    induction path generalizing value with
    | nil =>
      cases reading
      exact .here
    | cons key rest inductive_step =>
      rw [get?] at reading
      cases member : value.members.lookup key with
      | none =>
        rw [member] at reading
        cases reading
      | some child =>
        rw [member] at reading
        cases value with
        | object entries => exact .inside member (inductive_step reading)
        | _ => cases member
  · intro holds
    induction holds with
    | here => rfl
    | inside member _ inductive_step =>
      rw [get?, members_object, member]
      exact inductive_step

/-- **Above the written path there is an object**, with the members that were there before but for
the one on the way. -/
theorem exists_get?_put_above (replacement value : Json) (above : List String) (next : String)
    (rest : List String) :
    ∃ entries : Keyed Json, (put replacement (above ++ next :: rest) value).get? above =
        some (.object entries) ∧
      ∀ name, name ≠ next →
        entries.lookup name = Keyed.lookup name ((value.get? above).elim [] members) := by
  induction above generalizing value with
  | nil => exact ⟨_, rfl, fun name different => Keyed.lookup_insert_of_ne different _ _⟩
  | cons key others inductive_step =>
    obtain ⟨entries, reading, kept⟩ := inductive_step ((value.members.lookup key).getD .null)
    refine ⟨entries, ?_, fun name different => (kept name different).trans ?_⟩
    · rw [List.cons_append, put, get?, members_object, Keyed.lookup_insert_self]
      exact reading
    · -- a missing member counts as null, behind which nothing stands either
      rw [get?]
      cases value.members.lookup key with
      | some child => rfl
      | none => cases others <;> rfl

end Json

/-! ### Keys -/

/-- **The segments of a key** stand between its slashes; the empty ones do not count. -/
theorem exists_pieces_keyPath (key : String) :
    ∃ pieces, Text.joined '/' pieces = key.toList ∧ (∀ piece ∈ pieces, '/' ∉ piece) ∧
      keyPath key = (pieces.filter (· ≠ [])).map String.ofList :=
  ⟨Text.pieces '/' key.toList, Text.joined_pieces _ _,
    fun _ member => Text.not_mem_of_mem_pieces member, rfl⟩

namespace Instance

variable {target : Instance} {key : String}

/-- A write below the root puts the value at the path of the key. -/
theorem object_items_set (below : keyPath key ≠ []) (value : Json) :
    Json.object (target.set key value).1.items =
      Json.put value (keyPath key) (.object target.items) := by
  unfold set Items.set?
  cases path : keyPath key with
  | nil => exact absurd path below
  | cons next rest => rfl

theorem get?_set (below : keyPath key ≠ []) (value : Json) (read : String) :
    (target.set key value).1.get? read =
      (Json.put value (keyPath key) (.object target.items)).get? (keyPath read) := by
  rw [get?, Items.get?, object_items_set below]

/-- A write at the root. -/
theorem set_root (root : keyPath key = []) (value : Json) :
    (target.set key value).1 =
      if value.isObject then { target with items := value.members } else target := by
  unfold set Items.set? Items.setPath?
  rw [root]
  cases value <;> rfl

/-- **A key counts by its path.** -/
theorem set_and_get?_congr {other : String} (same : keyPath other = keyPath key) (value : Json) :
    target.set other value = target.set key value ∧ target.get? other = target.get? key := by
  unfold set Items.set? get? Items.get?
  rw [same]
  exact ⟨rfl, rfl⟩

/-- **An instance with a value written at a path**, as every key shows it: inside the path stands
what stands in the value; a path that parts from it is as it was; above it is an object with the
other members of the object that was there, if there was one. -/
structure Written (target changed : Instance) (path : List String) (value : Json) : Prop where
  inside : ∀ key below, keyPath key = path ++ below →
    ∀ found, changed.get? key = some found ↔ value.Holds below found
  apart : ∀ key, ¬ path <+: keyPath key → ¬ keyPath key <+: path →
    changed.get? key = target.get? key
  above : ∀ key next rest, path = keyPath key ++ next :: rest →
    ∃ entries : Keyed Json, changed.get? key = some (.object entries) ∧
      ∀ name, name ≠ next →
        entries.lookup name = Keyed.lookup name ((target.get? key).elim [] Json.members)

theorem written_set (below : keyPath key ≠ []) (value : Json) :
    target.Written (target.set key value).1 (keyPath key) value := by
  refine ⟨fun read inside path found => ?_, fun read beyond above => ?_,
    fun read next rest path => ?_⟩
  · rw [get?_set below, path, Json.get?_put, Json.get?_eq_some_iff]
  · rw [get?_set below, Json.get?_put_of_parting beyond above]
    rfl
  · rw [get?_set below, path]
    exact Json.exists_get?_put_above value (.object target.items) (keyPath read) next rest

/-- **Every key read after every write**, for every item tree. A write below the root is seen at
every key as `Written` says. A write at the root replaces the whole tree if the value is an object,
and else changes nothing that is read. Only the paths of keys count, and these are their nonempty
segments. -/
theorem read_after_write (target : Instance) (key : String) (value : Json) :
    let changed := (target.set key value).1
    changed = { target with items := changed.items } ∧
      (keyPath key ≠ [] → target.Written changed (keyPath key) value) ∧
      (keyPath key = [] →
        (value.isObject = true ↔ changed.get? "" = some value) ∧
        (value.isObject = false → ∀ read, changed.get? read = target.get? read)) ∧
      (∀ other, keyPath other = keyPath key →
        target.set other value = target.set key value ∧ target.get? other = target.get? key) ∧
      ∃ pieces, Text.joined '/' pieces = key.toList ∧ (∀ piece ∈ pieces, '/' ∉ piece) ∧
        keyPath key = (pieces.filter (· ≠ [])).map String.ofList := by
  intro changed
  refine ⟨?_, fun below => written_set below value, fun root => ⟨?_, ?_⟩,
    fun other same => set_and_get?_congr same value, exists_pieces_keyPath key⟩
  · show (target.set key value).1 = { target with items := (target.set key value).1.items }
    unfold set
    split <;> rfl
  · have whole : changed.get? "" = some (.object changed.items) := rfl
    rw [whole, show changed = _ from set_root root value]
    cases value <;> simp [Json.isObject]
  · intro other read
    rw [show changed = _ from set_root root value, other]
    rfl

/-- A write through an item that is no object, below which, beside which and above which is read. -/
theorem read_after_write_through_flag :
    let target := ofItems 0 [("a", .bool true), ("b", .object [("x", .null)])]
    let changed := (target.set "a//b/" (.object [("k", .string "v")])).1
    changed.get? "a/b/k" = some (.string "v") ∧ changed.get? "a/b/k/deeper" = none ∧
      changed.get? "b/x" = some .null ∧
      ∃ entries : Keyed Json, changed.get? "/a" = some (.object entries) ∧
        entries.lookup "c" = none := by
  intro target changed
  have path : keyPath "a//b/" = ["a", "b"] := by decide
  have written : target.Written changed ["a", "b"] (.object [("k", .string "v")]) :=
    path ▸ (read_after_write target "a//b/" _).2.1 (by rw [path]; exact List.cons_ne_nil _ _)
  have member : Keyed.lookup "k" [("k", Json.string "v")] = some (.string "v") := rfl
  refine ⟨(written.inside "a/b/k" ["k"] (by decide) _).mpr (.inside member .here), ?_,
    written.apart "b/x" (by decide) (by decide), ?_⟩
  · refine Option.eq_none_iff_forall_ne_some.mpr fun found reading => ?_
    have holds := (written.inside "a/b/k/deeper" ["k", "deeper"] (by decide) found).mp reading
    cases holds with
    | inside first further =>
      cases member.symm.trans first
      cases further
  · obtain ⟨entries, there, others⟩ := written.above "/a" "b" [] (by decide)
    exact ⟨entries, there, (others "c" (by decide)).trans rfl⟩

end Instance

end InstanceHost
