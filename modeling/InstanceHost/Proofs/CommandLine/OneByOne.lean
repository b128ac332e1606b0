/-
**Options over a file, together or one by one.**

The options of an argument are put into an object of their own, and this object is laid over that of
the file. The same comes of putting the options into the object of the file at once, as long as no
value is an object and no path goes on from another. The step is one option: a value that is no
object is written into the upper one of two values, or into what comes of both. On the way to its
place both have made objects of whatever is none, unless the upper one had a value there that is no
object: then it hides what the lower one has, and the write brings it back. In an object that
options were put into, such a value stands only at the path of an option.

* `Json.overlayEntries_insert`: a member that is written before or after;
* `Json.overlay_put`: a value at a path, by induction on the path;
* `Config.exists_path_of_get?_assign`: where values stand that are no objects;
* `Config.overlayEntries_assign`: options in a row, by induction on their number;
* `options_laid_over_one_by_one`: the argument of a command line with a file.
-/

import InstanceHost.Proofs.CommandLine.Agreement
import InstanceHost.Proofs.Config.ReadBack
import InstanceHost.Proofs.Json.Overlay
import Mathlib.Data.List.Induction

namespace InstanceHost

/-! ### A write into the upper value -/

namespace Json

section

variable {lower entries : Keyed Json} {key : String} {value : Json}

/-- A member that the upper object does not have can be written into the lower one later. -/
theorem overlayEntries_insert_of_not_mem (absent : key ∉ Keyed.names entries) :
    overlayEntries (lower.insert key value) entries =
      (overlayEntries lower entries).insert key value := by
  induction entries generalizing lower with
  | nil => rfl
  | cons entry rest inductive_step =>
    obtain ⟨other, old⟩ := entry
    obtain ⟨different, later⟩ := not_or.mp (mt List.mem_cons.mpr absent)
    have apart : other ≠ key := fun same => different same.symm
    rw [overlayEntries, overlayEntries, Keyed.lookup_insert_of_ne apart,
      Keyed.insert_comm apart, inductive_step later]

/-- **A member that is written into the upper object** is laid over the member of the lower one, and
what the upper object had there does not count. -/
theorem overlayEntries_insert (ordered : Keyed.Ascending entries) :
    overlayEntries lower (Keyed.insert key value entries) =
      (overlayEntries lower entries).insert key (overlay (lower.lookup key) value) := by
  induction entries generalizing lower with
  | nil => rfl
  | cons entry rest inductive_step =>
    obtain ⟨other, old⟩ := entry
    obtain ⟨first, later⟩ := List.pairwise_cons.mp ordered
    rw [Keyed.insert]
    split
    · next same =>
      subst same
      have absent : key ∉ Keyed.names rest := fun member => String.lt_irrefl key (first key member)
      rw [overlayEntries, overlayEntries, overlayEntries_insert_of_not_mem absent,
        overlayEntries_insert_of_not_mem absent, Keyed.insert_insert_self]
    · next different =>
      split
      · next before =>
        have absent : key ∉ Keyed.names ((other, old) :: rest) := fun member => by
          rcases List.mem_cons.mp member with same | deeper
          · exact different same
          · exact String.lt_irrefl key (String.lt_trans before (first key deeper))
        rw [overlayEntries, overlayEntries_insert_of_not_mem absent]
      · rw [overlayEntries, overlayEntries, inductive_step later,
          Keyed.lookup_insert_of_ne different]

end

/-- One value over another, where either may be missing. -/
def overlay? (lower : Option Json) : Option Json → Option Json
  | none => lower
  | some value => some (overlay lower value)

section

variable {lower upper : Option Json}

/-- A missing value counts as null, which has no members. -/
theorem members_getD_null (value : Option Json) :
    (value.getD .null).members = value.elim [] members := by
  cases value <;> rfl

theorem members_of_plain {value : Json} (plain : value.isObject = false) : value.members = [] := by
  cases value with
  | object entries => cases plain
  | _ => rfl

theorem lookup_overlayEntries_eq_overlay? {lower upper : Keyed Json}
    (ordered : Keyed.Ascending upper) (key : String) :
    Keyed.lookup key (overlayEntries lower upper) =
      overlay? (lower.lookup key) (upper.lookup key) := by
  rw [lookup_overlayEntries ordered]
  cases upper.lookup key <;> rfl

/-- The members of an object over a value, where either may be missing. -/
theorem members_overlay? (ordered : ∀ value, upper = some value → value.Ordered)
    (object : ∀ value, upper = some value → value.isObject = true) :
    ((overlay? lower upper).getD .null).members =
      overlayEntries (lower.elim [] members) (upper.elim [] members) := by
  cases upper with
  | none => exact members_getD_null lower
  | some value =>
    cases value with
    | object entries => exact congrArg members (overlay_object (ordered _ rfl).1 lower)
    | _ => cases object _ rfl

/-- **A value that is no object can be written before or after** one value is laid over another, if
the upper one has only objects on the way to its place. -/
theorem overlay_put {replacement : Json} (plain : replacement.isObject = false)
    {path : List String} (ordered : ∀ value, upper = some value → value.Ordered)
    (way : ∀ above value, above <+: path → above ≠ path →
      upper.bind (·.get? above) = some value → value.isObject = true) :
    overlay lower (put replacement path (upper.getD .null)) =
      put replacement path ((overlay? lower upper).getD .null) := by
  induction path generalizing lower upper with
  | nil => exact overlay_of_plain plain lower
  | cons key rest inductive_step =>
    have object : ∀ value, upper = some value → value.isObject = true := by
      rintro value rfl
      exact way [] value List.nil_prefix (List.cons_ne_nil key rest).symm rfl
    have whole : (Json.object (upper.elim [] members)).Ordered := by
      cases upper with
      | none => exact hereditary_ordered.empty
      | some value => exact hereditary_ordered.members (ordered value rfl)
    have further : ∀ above value, above <+: rest → above ≠ rest →
        (Keyed.lookup key (upper.elim [] members)).bind (·.get? above) = some value →
          value.isObject = true := by
      intro above value shorter other there
      refine way (key :: above) value (List.cons_prefix_cons.mpr ⟨rfl, shorter⟩) ?_ ?_
      · exact fun same => other (List.cons.inj same).2
      · rw [bind_get?_cons]
        exact there
    have deeper := @inductive_step (Keyed.lookup key (lower.elim [] members)) _
      (fun value member => hereditary_ordered.lookup whole member) further
    rw [put, put, members_overlay? ordered object, members_getD_null,
      overlay_object (Keyed.ascending_insert whole.1), overlayEntries_insert whole.1,
      lookup_overlayEntries_eq_overlay? whole.1, deeper]

end

end Json

/-! ### Options in a row -/

namespace Config

section

variable {assignments : List Assignment}

theorem assign_concat (entries : Keyed Json) (assignments : List Assignment)
    (last : Assignment) :
    assign entries (assignments ++ [last]) =
      Json.putMember last.value last.path (assign entries assignments) :=
  List.foldl_append

/-- **A value that is no object** stands at the path of an assignment, where assignments of such
values were put into an empty object. -/
theorem exists_path_of_get?_assign (rooted : ∀ assignment ∈ assignments, assignment.path ≠ [])
    (values : ∀ assignment ∈ assignments, assignment.value.isObject = false)
    {path : List String} {value : Json}
    (there : (Json.object (assign [] assignments)).get? path = some value)
    (plain : value.isObject = false) : ∃ assignment ∈ assignments, assignment.path = path := by
  induction assignments using List.reverseRecOn with
  | nil =>
    cases path with
    | nil =>
      cases there
      cases plain
    | cons key rest => cases there
  | append_singleton earlier last inductive_step =>
    obtain ⟨earlierRooted, lastRooted⟩ := List.forall_mem_append.mp rooted
    obtain ⟨earlierValues, lastValues⟩ := List.forall_mem_append.mp values
    rw [assign_concat,
      Json.object_putMember_of_ne (lastRooted last List.mem_cons_self)] at there
    by_cases beyond : last.path <+: path
    · obtain ⟨below, rfl⟩ := beyond
      rw [Json.get?_put] at there
      cases below with
      | nil => exact ⟨last, List.mem_concat_self, (List.append_nil _).symm⟩
      | cons key rest =>
        -- nothing stands inside the value that was put here
        have none := Json.members_of_plain (lastValues last List.mem_cons_self)
        rw [Json.get?_cons_of_members_nil none] at there
        cases there
    · by_cases above : path <+: last.path
      · obtain ⟨below, shape⟩ := above
        cases below with
        | nil =>
          rw [List.append_nil] at shape
          exact absurd (shape ▸ List.prefix_rfl) beyond
        | cons next rest =>
          obtain ⟨entries, reading, _⟩ := Json.exists_get?_put_above last.value
            (.object (assign [] earlier)) path next rest
          rw [shape, there] at reading
          cases reading
          cases plain
      · rw [Json.get?_put_of_parting beyond above] at there
        obtain ⟨assignment, member, same⟩ := inductive_step earlierRooted earlierValues there
        exact ⟨assignment, List.mem_append_left _ member, same⟩

/-- **Assignments laid over entries together** are those put into them one by one, if no value is an
object and none goes on from the path of an earlier one. -/
theorem overlayEntries_assign (rooted : ∀ assignment ∈ assignments, assignment.path ≠ [])
    (values : ∀ assignment ∈ assignments, assignment.value.isObject = false)
    (ordered : ∀ assignment ∈ assignments, assignment.value.Ordered)
    (apart : assignments.Pairwise fun earlier later =>
      earlier.path <+: later.path → earlier.path = later.path) (lower : Keyed Json) :
    Json.overlayEntries lower (assign [] assignments) = assign lower assignments := by
  induction assignments using List.reverseRecOn with
  | nil => rfl
  | append_singleton earlier last inductive_step =>
    obtain ⟨earlierRooted, lastRooted⟩ := List.forall_mem_append.mp rooted
    obtain ⟨earlierValues, lastValues⟩ := List.forall_mem_append.mp values
    obtain ⟨earlierOrdered, _⟩ := List.forall_mem_append.mp ordered
    obtain ⟨earlierApart, _, before⟩ := List.pairwise_append.mp apart
    have below := lastRooted last List.mem_cons_self
    have whole : (Json.object (assign [] earlier)).Ordered :=
      ordered_assign earlier Json.hereditary_ordered.empty earlierOrdered
    have way : ∀ above value, above <+: last.path → above ≠ last.path →
        (Json.object (assign [] earlier)).get? above = some value → value.isObject = true := by
      intro above value shorter other there
      by_contra simple
      obtain ⟨assignment, member, rfl⟩ :=
        exists_path_of_get?_assign earlierRooted earlierValues there (Bool.not_eq_true _ ▸ simple)
      exact other (before assignment member last List.mem_cons_self shorter)
    have written := @Json.overlay_put (some (.object lower)) (some (.object (assign [] earlier))) _
      (lastValues last List.mem_cons_self) last.path
      (fun _ same => Option.some.inj same ▸ whole) way
    apply Json.object.inj
    calc Json.object (Json.overlayEntries lower (assign [] (earlier ++ [last])))
        = Json.overlay (some (.object lower))
            (.object (Json.putMember last.value last.path (assign [] earlier))) := by
          rw [assign_concat]
          rfl
      _ = Json.put last.value last.path
            (.object (Json.overlayEntries lower (assign [] earlier))) := by
          rw [Json.object_putMember_of_ne below]
          exact written
      _ = .object (assign lower (earlier ++ [last])) := by
          rw [inductive_step earlierRooted earlierValues earlierOrdered earlierApart,
            assign_concat, Json.object_putMember_of_ne below]

end

/-- An option below the path of an earlier one hides what the file has there, if both are laid over
it, and is put beside it, if they are put into it one by one. -/
example :
    let lower : Keyed Json := [("a", .object [("x", .null)])]
    let assignments : List Assignment := [⟨["a"], .null⟩, ⟨["a", "y"], .null⟩]
    Json.overlayEntries lower (assign [] assignments) =
        [("a", .object [("x", .null), ("y", .null)])] ∧
      assign lower assignments = [("a", .object [("y", .null)])] := by
  decide +kernel

theorem Setting.ordered_reading (setting : Setting) : setting.reading.Ordered := by
  rw [reading, ← optionValue_eq]
  exact ordered_optionValue setting.value

/-- **Settings laid over entries together** are those put into them one by one. -/
theorem Setting.overlayEntries_meaning {settings : List Setting}
    (values : ∀ setting ∈ settings, setting.reading.isObject = false)
    (apart : settings.Pairwise fun earlier later =>
      earlier.keys <+: later.keys → earlier.keys = later.keys) (lower : Keyed Json) :
    Json.overlayEntries lower (meaning settings) =
      settings.foldl (fun entries setting => Json.putMember setting.reading setting.keys entries)
        lower := by
  rw [meaning_eq_assign, overlayEntries_assign
    (List.forall_mem_map.mpr fun setting _ => setting.keys_ne_nil)
    (List.forall_mem_map.mpr values)
    (List.forall_mem_map.mpr fun setting _ => setting.ordered_reading)
    (List.pairwise_map.mpr apart), assign, List.foldl_map]
  rfl

end Config

/-! ### The argument of a command line -/

namespace CommandLine

open Config

theorem argumentConfig_eq {argument : String}
    (noString : ∀ content, Json.parse? argument ≠ some (.string content)) :
    argumentConfig argument = readConfig argument := by
  unfold argumentConfig
  split
  · next content found => exact absurd found (noString content)
  · rfl

/-- **Options over a file, together or one by one.** Whatever reads the file, and for every argument
that is accepted as option text, which neither starts with a brace nor is a JSON string: it is a
text of settings, and if no value of these is an object and the path of none goes on from that of
another, the configuration is that of the file with the settings put into it one by one, in order,
each at its path. Several settings may have the same path. -/
theorem options_laid_over_one_by_one {reader : FileReader} {files : FileSystem}
    {path argument : String} {lower upper : Keyed Json}
    (read : readFileWith reader files path = .ok lower)
    (plain : (Text.trim argument.toList).head? ≠ some '\x7b')
    (noString : ∀ content, Json.parse? argument ≠ some (.string content))
    (accepted : readConfig argument = .ok upper) :
    (∃ settings, Renders settings argument.toList) ∧
      ∀ settings, Renders settings argument.toList →
        (∀ setting ∈ settings, setting.reading.isObject = false) →
        (∀ one ∈ settings, ∀ other ∈ settings, one.keys <+: other.keys → one.keys = other.keys) →
          gatherConfigWith reader files (some path) argument =
            .ok (.object (settings.foldl
              (fun entries setting => Json.putMember setting.reading setting.keys entries)
              lower)) := by
  refine ⟨exists_renders plain accepted, fun settings renders values paths => ?_⟩
  have described : argumentConfig argument = .ok (Config.Setting.meaning settings) :=
    (argumentConfig_eq noString).trans (readConfig_of_renders plain renders)
  have apart : settings.Pairwise fun earlier later =>
      earlier.keys <+: later.keys → earlier.keys = later.keys :=
    List.pairwise_of_forall_mem_list paths
  have laid : overlayOf (argumentValue argument) = .ok (Config.Setting.meaning settings) := by
    rw [overlayOf_argumentValue, described]
  rw [← Config.Setting.overlayEntries_meaning values apart lower]
  simp only [gatherConfigWith, read, laid]
  rfl

/-- An option below a number of the file, two at one path of the file, and one beside them. -/
theorem options_laid_over_one_by_one_four_options :
    readFileWith Toml.parse? hostWithFile.host.files "host.toml" = .ok fileEntries ∧
      gatherConfigWith Toml.parse? hostWithFile.host.files (some "host.toml")
          "a.x=yes;b.c=3;b.d=;b.c=[\x7b\x7d]" =
        .ok (.object [("a", .object [("x", .string "yes")]),
          ("b", .object [("c", .array [.object []]), ("d", .string "")])]) := by
  have read : readFileWith Toml.parse? hostWithFile.host.files "host.toml" = .ok fileEntries := by
    decide +kernel
  let first : Config.Setting :=
    ⟨[['a'], ['x']], ['y', 'e', 's'], by decide, by decide +kernel, by decide, by decide⟩
  let second : Config.Setting :=
    ⟨[['b'], ['c']], ['3'], by decide, by decide +kernel, by decide, by decide⟩
  let third : Config.Setting :=
    ⟨[['b'], ['d']], [], by decide, by decide +kernel, by decide, by decide⟩
  let fourth : Config.Setting :=
    ⟨[['b'], ['c']], ['[', '\x7b', '\x7d', ']'], by decide, by decide +kernel, by decide, by decide⟩
  have written : ∀ setting : Config.Setting,
      setting.Written (Text.joined '.' setting.path ++ '=' :: setting.value) := fun setting =>
    ⟨setting.path, setting.value, List.forall₂_same.mpr fun _ _ => .refl _, .refl _, .refl _⟩
  have renders : Renders [first, second, third, fourth]
      "a.x=yes;b.c=3;b.d=;b.c=[\x7b\x7d]".toList :=
    ⟨_, .setting (written first) (.setting (written second) (.setting (written third)
      (.setting (written fourth) .nil))), by decide +kernel⟩
  have noString : ∀ content,
      Json.parse? "a.x=yes;b.c=3;b.d=;b.c=[\x7b\x7d]" ≠ some (.string content) := by
    have unread : Json.parse? "a.x=yes;b.c=3;b.d=;b.c=[\x7b\x7d]" = none := by decide +kernel
    rw [unread]
    exact nofun
  have plain : (Text.trim "a.x=yes;b.c=3;b.d=;b.c=[\x7b\x7d]".toList).head? ≠ some '\x7b' := by
    decide +kernel
  have laid := (options_laid_over_one_by_one read plain noString
    (readConfig_of_renders plain renders)).2 _ renders (by decide +kernel) (by decide +kernel)
  refine ⟨read, laid.trans ?_⟩
  decide +kernel

end CommandLine

end InstanceHost
