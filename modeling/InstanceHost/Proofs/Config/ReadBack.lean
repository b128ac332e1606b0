/-
**What a configuration text says is read at its key.**

Option text names the places of its values by segments with full stops between them, a key by
segments with slashes. An instance that is made from a text shows every value under the key with the
segments of its option, unless a later option stands at the same path, above it or below it: such an
option has replaced the value, or made an object of it, or changed what is inside. Nothing else is
there. Of a JSON text every member is read, at any depth.

* `keyOf`, `keyPath_keyOf`: the key with given segments;
* `Instance.exists_ofConfig`: the keys below the configuration;
* `Setting.get?_meaning_of_lasting`, `Setting.get?_meaning_of_apart`: what settings describe, read
  at the path of one of them, and at a path that parts from all;
* `Json.exists_object_of_readWhole`: a text with a brace in front is a whole JSON object;
* `settings_read_back`: every text.
-/

import InstanceHost.Proofs.Config.Grammar
import InstanceHost.Proofs.Instance.Writes

namespace InstanceHost

/-! ### Keys -/

/-- The key with given segments. -/
def keyOf (path : List String) : String :=
  String.ofList (Text.joined '/' (path.map String.toList))

/-- **A key names its segments**, if they are visible and hold no slash. -/
theorem keyPath_keyOf {path : List String}
    (segments : ∀ segment ∈ path, segment ≠ "" ∧ '/' ∉ segment.toList) :
    keyPath (keyOf path) = path := by
  cases path with
  | nil => rfl
  | cons first rest =>
    have whole : ∀ part ∈ (first :: rest).map String.toList, '/' ∉ part :=
      List.forall_mem_map.mpr fun segment member => (segments segment member).2
    have visible : ∀ part ∈ (first :: rest).map String.toList, decide (part ≠ []) = true :=
      List.forall_mem_map.mpr fun segment member =>
        decide_eq_true (mt String.toList_eq_nil_iff.mp (segments segment member).1)
    rw [keyPath, keyOf, String.toList_ofList, Text.pieces_joined (by simp) whole,
      List.filter_eq_self.mpr visible, List.map_map]
    simp only [Function.comp_def, String.ofList_toList, List.map_id']

/-- **The keys below the configuration** of a new instance. -/
theorem Instance.exists_ofConfig (id : Nat) {text : String} {config : Keyed Json}
    (accepted : readConfig text = .ok config) :
    ∃ made, Instance.ofConfig id text = .ok made ∧ ∀ key,
      made.get? (configurationKey ++ "/" ++ key) = (Json.object config).get? (keyPath key) := by
  refine ⟨ofItems id (configItems config), ?_, fun key => ?_⟩
  · rw [ofConfig, readItems, accepted]
    rfl
  · have below : keyPath configurationKey ≠ [] := by decide
    rw [get?, Items.get?, ofItems, configItems, Json.object_putMember_of_ne below, keyPath_append,
      Json.get?_put]

/-! ### JSON texts -/

namespace Json

theorem exists_object_of_readObject {element : List Char → Except Fault (Json × List Char)}
    {characters rest : List Char} {value : Json}
    (reading : readObject element characters = .ok (value, rest)) :
    ∃ entries, value = .object entries := by
  unfold readObject at reading
  split at reading
  · cases reading
  · cases reading
    exact ⟨[], rfl⟩
  · obtain ⟨⟨entries, behind⟩, _, ending⟩ := exists_of_bind_eq_ok reading
    cases ending
    exact ⟨entries, rfl⟩
  · cases reading

/-- **A text with a brace in front** is an object, if it is anything. -/
theorem exists_object_of_readWhole {budget : Nat} {rest : List Char} {value : Json}
    (reading : readWhole budget ('\x7b' :: rest) = .ok value) :
    ∃ entries, value = .object entries := by
  rw [readWhole] at reading
  obtain ⟨⟨found, behind⟩, first, reading⟩ := exists_of_bind_eq_ok reading
  have same : found = value := by
    simp only at reading
    split at reading
    · cases reading
      rfl
    · cases reading
  subst same
  cases budget with
  | zero => cases first
  | succ budget =>
    rw [readValue_object] at first
    exact exists_object_of_readObject first

end Json

/-! ### Settings -/

namespace Config

open Text

instance (segment : List Char) : Decidable (IsSegment segment) :=
  decidable_of_iff
    (segment ≠ [] ∧ trim segment = segment ∧ '.' ∉ segment ∧ '=' ∉ segment ∧ ';' ∉ segment)
    ⟨fun ⟨visible, trimmed, stop, equals, semicolon⟩ =>
        ⟨visible, trimmed, stop, equals, semicolon⟩,
      fun ⟨visible, trimmed, stop, equals, semicolon⟩ =>
        ⟨visible, trimmed, stop, equals, semicolon⟩⟩

namespace Setting

variable {settings : List Setting} {path : List String}

theorem keys_ne_nil (setting : Setting) : setting.keys ≠ [] :=
  fun none => setting.rooted (List.map_eq_nil_iff.mp none)

theorem meaning_concat (settings : List Setting) (setting : Setting) :
    meaning (settings ++ [setting]) =
      Json.putMember setting.reading setting.keys (meaning settings) :=
  List.foldl_append

/-- A setting whose path parts from another one leaves what is read there. -/
theorem get?_meaning_append (earlier later : List Setting)
    (apart : ∀ other ∈ later, ¬ other.keys <+: path ∧ ¬ path <+: other.keys) :
    (Json.object (meaning (earlier ++ later))).get? path =
      (Json.object (meaning earlier)).get? path := by
  induction later generalizing earlier with
  | nil => rw [List.append_nil]
  | cons other later inductive_step =>
    obtain ⟨⟨beyond, above⟩, others⟩ := List.forall_mem_cons.mp apart
    rw [List.append_cons, inductive_step _ others, meaning_concat,
      Json.object_putMember_of_ne other.keys_ne_nil, Json.get?_put_of_parting beyond above]

/-- **A setting is read at its path**, if all later ones part from it. -/
theorem get?_meaning_of_lasting (earlier : List Setting) (setting : Setting) (later : List Setting)
    (apart : ∀ other ∈ later, ¬ other.keys <+: setting.keys ∧ ¬ setting.keys <+: other.keys) :
    (Json.object (meaning (earlier ++ setting :: later))).get? setting.keys =
      some setting.reading := by
  have written := Json.get?_put setting.reading (.object (meaning earlier)) setting.keys []
  rw [List.append_nil] at written
  rw [List.append_cons, get?_meaning_append _ later apart, meaning_concat,
    Json.object_putMember_of_ne setting.keys_ne_nil, written]
  rfl

/-- **Nothing is read at a path that parts from all settings.** -/
theorem get?_meaning_of_apart (below : path ≠ [])
    (apart : ∀ setting ∈ settings, ¬ setting.keys <+: path ∧ ¬ path <+: setting.keys) :
    (Json.object (meaning settings)).get? path = none := by
  refine (get?_meaning_append [] settings apart).trans ?_
  cases path with
  | nil => exact absurd rfl below
  | cons key rest => exact Json.get?_cons_of_members_nil rfl key rest

/-- The segments of a setting make a key, if none holds a slash. -/
theorem keyPath_keyOf_keys {setting : Setting} (whole : ∀ segment ∈ setting.path, '/' ∉ segment) :
    keyPath (keyOf setting.keys) = setting.keys := by
  refine keyPath_keyOf (List.forall_mem_map.mpr fun segment member => ⟨fun empty => ?_, ?_⟩)
  · exact (setting.segments segment member).visible (String.ofList_eq_empty_iff.mp empty)
  · rw [String.toList_ofList]
    exact whole segment member

end Setting

/-! ### Texts -/

section

variable {text : String}

/-- A text of settings is accepted. -/
theorem readConfig_of_renders {settings : List Setting}
    (plain : (trim text.toList).head? ≠ some '\x7b') (renders : Renders settings text.toList) :
    readConfig text = .ok (Setting.meaning settings) := by
  rw [readConfig_eq plain, (renders_iff.mp renders).readAssignments, Setting.meaning_eq_assign]
  rfl

/-- No other text without a brace in front is. -/
theorem exists_renders {entries : Keyed Json} (plain : (trim text.toList).head? ≠ some '\x7b')
    (accepted : readConfig text = .ok entries) : ∃ settings, Renders settings text.toList := by
  rw [readConfig_eq plain] at accepted
  cases reading : readAssignments (visiblePieces (pieces ';' text.toList)) with
  | error reason =>
    rw [reading] at accepted
    cases accepted
  | ok assignments =>
    obtain ⟨settings, listed, _⟩ :=
      exists_listed (fun _ member => not_mem_of_mem_pieces member) reading
    exact ⟨settings, renders_iff.mpr listed⟩

/-- **A text with a brace in front that is accepted is a JSON object.** -/
theorem parse_of_readConfig {entries : Keyed Json}
    (brace : (trim text.toList).head? = some '\x7b') (accepted : readConfig text = .ok entries) :
    Json.parse (trimmed text) = .ok (.object entries) := by
  obtain ⟨rest, shape⟩ := List.head?_eq_some_iff.mp brace
  have object : readObjectText ('\x7b' :: rest) = .ok entries := by
    rw [readConfig, shape] at accepted
    exact accepted
  rw [Json.parse, trimmed, String.toList_ofList, shape]
  unfold readObjectText at object
  split at object
  · next value reading =>
    obtain ⟨inside, rfl⟩ := Json.exists_object_of_readWhole reading
    cases object
    exact reading
  · cases object

end

end Config

/-- **An instance that shows settings at their keys.** Each is read under the key with its segments,
if these make a key and no later setting stands at its path, above it or below it; and a key below
the configuration that parts from all settings names nothing. -/
structure Instance.Shows (target : Instance) (settings : List Config.Setting) : Prop where
  lasting : ∀ earlier setting later, settings = earlier ++ setting :: later →
    (∀ segment ∈ setting.path, '/' ∉ segment) →
    (∀ other ∈ later, ¬ other.keys <+: setting.keys ∧ ¬ setting.keys <+: other.keys) →
      target.get? (configurationKey ++ "/" ++ keyOf setting.keys) = some setting.reading
  absent : ∀ key, keyPath key ≠ [] →
    (∀ setting ∈ settings, ¬ setting.keys <+: keyPath key ∧ ¬ keyPath key <+: setting.keys) →
      target.get? (configurationKey ++ "/" ++ key) = none

namespace Config

open Text

theorem exists_shows {id : Nat} {text : String} {settings : List Setting}
    (accepted : readConfig text = .ok (Setting.meaning settings)) :
    ∃ made, Instance.ofConfig id text = .ok made ∧ made.Shows settings := by
  obtain ⟨made, making, below⟩ := Instance.exists_ofConfig id accepted
  refine ⟨made, making, fun earlier setting later shape whole apart => ?_, fun key some apart => ?_⟩
  · rw [below, Setting.keyPath_keyOf_keys whole, shape]
    exact Setting.get?_meaning_of_lasting earlier setting later apart
  · rw [below]
    exact Setting.get?_meaning_of_apart some apart

/-- **What a configuration text says is read at its key.** A text without a brace in front that is
accepted is one of settings, and an instance made from any text of settings shows them at their
keys. A text with a brace in front that is accepted is a JSON object, and each of its members is
read under the key with its segments, as long as these make a key. -/
theorem settings_read_back (id : Nat) (text : String) :
    ((trim text.toList).head? ≠ some '\x7b' →
        (∀ entries, readConfig text = .ok entries → ∃ settings, Renders settings text.toList) ∧
        ∀ settings, Renders settings text.toList →
          ∃ made, Instance.ofConfig id text = .ok made ∧ made.Shows settings) ∧
      ((trim text.toList).head? = some '\x7b' → ∀ entries, readConfig text = .ok entries →
        Json.parse (trimmed text) = .ok (.object entries) ∧
        ∃ made, Instance.ofConfig id text = .ok made ∧
          ∀ path, (∀ segment ∈ path, segment ≠ "" ∧ '/' ∉ segment.toList) → ∀ value,
            made.get? (configurationKey ++ "/" ++ keyOf path) = some value ↔
              (Json.object entries).Holds path value) := by
  refine ⟨fun plain => ⟨fun entries accepted => exists_renders plain accepted,
    fun settings renders => exists_shows (readConfig_of_renders plain renders)⟩,
    fun brace entries accepted => ⟨parse_of_readConfig brace accepted, ?_⟩⟩
  obtain ⟨made, making, below⟩ := Instance.exists_ofConfig id accepted
  refine ⟨made, making, fun path segments value => ?_⟩
  rw [below, keyPath_keyOf segments, Json.get?_eq_some_iff]

/-- Two settings with a shared parent, and a member of a JSON text behind one that no key names. -/
theorem settings_read_back_beside :
    (∃ made, Instance.ofConfig 7 "a.b=1;a.c=" = .ok made ∧
      made.get? "self/config/a/b" = some (.number (.integer 1 (by decide))) ∧
      made.get? "self/config/a/c" = some (.string "") ∧ made.get? "self/config/a/d" = none) ∧
    ∃ made, Instance.ofConfig 7 " \x7b\"k\":\x7b\"\":0,\"x\":[true]\x7d\x7d" = .ok made ∧
      made.get? "self/config/k/x" = some (.array [.bool true]) := by
  let first : Setting :=
    ⟨[['a'], ['b']], ['1'], by decide, by decide +kernel, by decide, by decide⟩
  let second : Setting :=
    ⟨[['a'], ['c']], [], by decide, by decide +kernel, by decide, by decide⟩
  have written : ∀ setting : Setting,
      setting.Written (joined '.' setting.path ++ '=' :: setting.value) := fun setting =>
    ⟨setting.path, setting.value, List.forall₂_same.mpr fun _ _ => .refl _, .refl _, .refl _⟩
  have renders : Renders [first, second] "a.b=1;a.c=".toList :=
    ⟨_, .setting (written first) (.setting (written second) .nil), by decide +kernel⟩
  obtain ⟨made, making, shows⟩ :=
    ((settings_read_back 7 "a.b=1;a.c=").1 (by decide +kernel)).2 _ renders
  have apart : ∀ other ∈ [second], ¬ other.keys <+: first.keys ∧ ¬ first.keys <+: other.keys :=
    List.forall_mem_singleton.mpr (by decide +kernel)
  have reading : first.reading = .number (.integer 1 (by decide)) := by decide +kernel
  have parts : ∀ setting ∈ [first, second],
      ¬ setting.keys <+: keyPath "a/d" ∧ ¬ keyPath "a/d" <+: setting.keys :=
    List.forall_mem_cons.mpr
      ⟨by decide +kernel, List.forall_mem_singleton.mpr (by decide +kernel)⟩
  refine ⟨⟨made, making, ?_, ?_, shows.absent "a/d" (by decide +kernel) parts⟩, ?_⟩
  · rw [← reading]
    exact shows.lasting [] first [second] rfl (by decide +kernel) apart
  · exact shows.lasting [first] second [] rfl (by decide +kernel) (List.forall_mem_nil _)
  · have accepted : readConfig " \x7b\"k\":\x7b\"\":0,\"x\":[true]\x7d\x7d" = .ok
        [("k", .object [("", .number (.integer 0 (by decide))), ("x", .array [.bool true])])] := by
      decide +kernel
    obtain ⟨-, made, making, member⟩ :=
      (settings_read_back 7 " \x7b\"k\":\x7b\"\":0,\"x\":[true]\x7d\x7d").2
        (by decide +kernel) _ accepted
    have segments : ∀ segment ∈ ["k", "x"], segment ≠ "" ∧ '/' ∉ segment.toList := by
      decide +kernel
    exact ⟨made, making, (member ["k", "x"] segments _).mpr (.inside rfl (.inside rfl .here))⟩

end Config

end InstanceHost
