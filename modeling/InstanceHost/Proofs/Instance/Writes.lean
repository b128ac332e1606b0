/-
**The laws of writes.**

Writes are compared by the whole trees that they leave, so also by members that no key can name.
Two writes whose paths part can be made in either order, although each makes objects of whatever
stands on the way that they share. A write takes away what was written at its path or further down
just before. And writing what is read changes nothing, not at the root either.

* `Json.put_comm`: two writes in either order;
* `Json.put_put_append`: a write over an earlier one at its path or below;
* `Json.put_of_get?`: writing what is read;
* `Instance.set_below`: a write at a key that names a path;
* `writes_commute_absorb_restore`: the three laws for keys.
-/

import InstanceHost.Proofs.Instance.ReadAfterWrite

namespace InstanceHost

/-! ### Paths -/

namespace Json

/-- Two writes that part behind a shared way. -/
theorem put_comm_of_ne (one two value : Json) (shared : List String) {first second : String}
    (different : first ≠ second) (firstBelow secondBelow : List String) :
    put one (shared ++ first :: firstBelow) (put two (shared ++ second :: secondBelow) value) =
      put two (shared ++ second :: secondBelow)
        (put one (shared ++ first :: firstBelow) value) := by
  induction shared generalizing value with
  | nil =>
    simp only [List.nil_append, put, members_object]
    rw [Keyed.lookup_insert_of_ne different, Keyed.lookup_insert_of_ne different.symm,
      Keyed.insert_comm different]
  | cons key rest inductive_step =>
    simp only [List.cons_append, put, members_object, Keyed.lookup_insert_self, Option.getD_some,
      Keyed.insert_insert_self]
    rw [inductive_step]

/-- **Two writes whose paths part** can be made in either order. -/
theorem put_comm {first second : List String} (beyond : ¬ first <+: second)
    (above : ¬ second <+: first) (one two value : Json) :
    put one first (put two second value) = put two second (put one first value) := by
  obtain ⟨shared, key, other, rest, others, rfl, rfl, different⟩ := exists_parting beyond above
  exact put_comm_of_ne one two value shared different rest others

/-- **A write takes away an earlier one** at its path or below it. -/
theorem put_put_append (replacement earlier value : Json) (path below : List String) :
    put replacement path (put earlier (path ++ below) value) = put replacement path value := by
  induction path generalizing value with
  | nil => rfl
  | cons key rest inductive_step =>
    simp only [List.cons_append, put, members_object, Keyed.lookup_insert_self, Option.getD_some,
      Keyed.insert_insert_self]
    rw [inductive_step]

/-- **Writing what is read changes nothing.** -/
theorem put_of_get? {value found : Json} {path : List String}
    (reading : value.get? path = some found) : put found path value = value := by
  induction get?_eq_some_iff.mp reading with
  | here => rfl
  | inside member deeper inductive_step =>
    have same := inductive_step (get?_eq_some_iff.mpr deeper)
    rw [put, members_object, member, Option.getD_some, same, Keyed.insert_lookup member]

/-- A write below the root leaves an object. -/
theorem object_putMember_of_ne {path : List String} (below : path ≠ []) (value : Json)
    (entries : Keyed Json) :
    Json.object (putMember value path entries) = put value path (.object entries) := by
  cases path with
  | nil => exact absurd rfl below
  | cons key rest => exact object_putMember value key rest entries

end Json

/-! ### Keys -/

namespace Instance

variable {target : Instance} {key : String}

/-- A write at a key that names a path changes the items and is no event. -/
theorem set_below (below : keyPath key ≠ []) (value : Json) :
    target.set key value =
      ({ target with items := Json.putMember value (keyPath key) target.items }, []) := by
  unfold set Items.set?
  cases path : keyPath key with
  | nil => exact absurd path below
  | cons next rest => rfl

/-- A write changes nothing but the items. -/
theorem with_items_set (key : String) (value : Json) (items : Items) :
    { (target.set key value).1 with items := items } = { target with items := items } := by
  unfold set
  split <;> rfl

section

variable {first second longer : String}

theorem set_comm (beyond : ¬ keyPath first <+: keyPath second)
    (above : ¬ keyPath second <+: keyPath first) (one two : Json) :
    ((target.set first one).1.set second two).1 = ((target.set second two).1.set first one).1 := by
  have firstBelow : keyPath first ≠ [] := fun root => beyond (root ▸ List.nil_prefix)
  have secondBelow : keyPath second ≠ [] := fun root => above (root ▸ List.nil_prefix)
  have trees :
      Json.putMember two (keyPath second) (Json.putMember one (keyPath first) target.items) =
        Json.putMember one (keyPath first)
          (Json.putMember two (keyPath second) target.items) := by
    rw [Json.putMember, Json.object_putMember_of_ne firstBelow, Json.put_comm above beyond,
      ← Json.object_putMember_of_ne secondBelow, ← Json.putMember]
  simp only [set_below firstBelow, set_below secondBelow, trees]

theorem set_set_of_prefix (longerPath : keyPath key <+: keyPath longer) (value earlier : Json)
    (root : keyPath key = [] → value.isObject = true) :
    ((target.set longer earlier).1.set key value).1 = (target.set key value).1 := by
  by_cases below : keyPath key = []
  · rw [set_root below, set_root below, if_pos (root below), if_pos (root below), with_items_set]
  · obtain ⟨further, shape⟩ := longerPath
    have longerBelow : keyPath longer ≠ [] := by
      rw [← shape]
      exact List.append_ne_nil_of_left_ne_nil below further
    have trees : Json.putMember value (keyPath key)
          (Json.putMember earlier (keyPath longer) target.items) =
        Json.putMember value (keyPath key) target.items := by
      rw [Json.putMember, Json.object_putMember_of_ne longerBelow, ← shape, Json.put_put_append,
        Json.putMember]
    simp only [set_below longerBelow, set_below below, trees]

theorem set_of_get? {value : Json} (reading : target.get? key = some value) :
    (target.set key value).1 = target := by
  by_cases below : keyPath key = []
  · have whole : some (Json.object target.items) = some value := by
      rw [← reading, get?, Items.get?, below]
      rfl
    cases whole
    rw [set_root below]
    rfl
  · have trees : Json.putMember value (keyPath key) target.items = target.items := by
      rw [Json.putMember, Json.put_of_get? reading, Json.members_object]
    rw [set_below below, trees]

end

/-- **The laws of writes**, for every item tree: writes at keys whose paths part can be made in
either order; a write takes away an earlier one at its path or below it, at the root if an object is
written; and writing what is read leaves everything as it is. -/
theorem writes_commute_absorb_restore (target : Instance) :
    (∀ first second, ¬ keyPath first <+: keyPath second → ¬ keyPath second <+: keyPath first →
        ∀ one two, ((target.set first one).1.set second two).1 =
          ((target.set second two).1.set first one).1) ∧
      (∀ key longer, keyPath key <+: keyPath longer → ∀ value earlier,
        (keyPath key = [] → value.isObject = true) →
          ((target.set longer earlier).1.set key value).1 = (target.set key value).1) ∧
      ∀ key value, target.get? key = some value → (target.set key value).1 = target :=
  ⟨fun _ _ beyond above one two => set_comm beyond above one two,
    fun _ _ longerPath value earlier root => set_set_of_prefix longerPath value earlier root,
    fun _ _ reading => set_of_get? reading⟩

/-- Two writes that make an object of the same flag, a write that takes both away, and the flag
written back. -/
theorem writes_commute_absorb_restore_over_flag :
    let target := ofItems 0 [("a", .bool true), ("b", .null)]
    let both := ((target.set "a/x" .null).1.set "/a/y/z" (.bool false)).1
    both = ((target.set "/a/y/z" (.bool false)).1.set "a/x" .null).1 ∧
      both.get? "a" = some (.object [("x", .null), ("y", .object [("z", .bool false)])]) ∧
      (both.set "a/" (.bool true)).1 = ((target.set "a/x" .null).1.set "a/" (.bool true)).1 ∧
      (both.set "/" (.object [])).1 = ((target.set "a/x" .null).1.set "/" (.object [])).1 ∧
      (target.set "a" (.bool true)).1 = target := by
  intro target both
  obtain ⟨commute, _, restore⟩ := writes_commute_absorb_restore target
  have absorb := (writes_commute_absorb_restore (target.set "a/x" .null).1).2.1
  exact ⟨commute "a/x" "/a/y/z" (by decide) (by decide) _ _, by decide +kernel,
    absorb "a/" "/a/y/z" (by decide) _ _ (fun root => absurd root (by decide)),
    absorb "/" "/a/y/z" (by decide) _ _ (fun _ => rfl), restore "a" _ (by decide +kernel)⟩

end Instance

end InstanceHost
