/-
**The grammar of option text.**

Option text is a list of settings, with semicolons between them: each setting is a path of segments
with full stops between them, an equals sign, and the text of a value. Blanks may stand around every
segment, every value and every setting, and blank pieces between semicolons. `Renders` says when a
text is such a list; it mentions no reading. `Faulty` says when a piece is none.

* `Setting`: a path of segments with the text of a value;
* `Renders`: the texts of a list of settings;
* `Setting.readAssignment_trim`, `exists_written`: a piece is read as a setting just if it is one;
* `Listed.readAssignments`, `exists_listed`, `readAssignments_eq_error_iff`: so are pieces in a row,
  up to the first that is faulty;
* `option_text_grammar`: what option text is read as, and when it is refused.
-/

import InstanceHost.Config.Options
import InstanceHost.Proofs.Json.Order
import InstanceHost.Proofs.Json.Scalar
import InstanceHost.Proofs.Text.Padding
import Mathlib.Data.List.Forall2

namespace InstanceHost.Config

open Text

/-! ### Settings -/

/-- **A segment of a path**: it is visible, has no blanks around it, and holds none of the
characters that end it. -/
structure IsSegment (characters : List Char) : Prop where
  visible : characters ≠ []
  trimmed : trim characters = characters
  noStop : '.' ∉ characters
  noEquals : '=' ∉ characters
  noSemicolon : ';' ∉ characters

/-- **A path of segments with the text of a value**, which may be empty and hold any character but a
semicolon. -/
structure Setting where
  path : List (List Char)
  value : List Char
  rooted : path ≠ []
  segments : ∀ segment ∈ path, IsSegment segment
  trimmed : trim value = value
  noSemicolon : ';' ∉ value

namespace Setting

/-- **A piece of text that says a setting**, with blanks around every segment, the value and the
whole. -/
def Written (setting : Setting) (piece : List Char) : Prop :=
  ∃ segments value, List.Forall₂ Padded setting.path segments ∧ Padded setting.value value ∧
    Padded (joined '.' segments ++ '=' :: value) piece

/-- The value of a setting: what its text reads as, or else the text. -/
def reading (setting : Setting) : Json :=
  (Json.parse? (String.ofList setting.value)).getD (.string (String.ofList setting.value))

/-- The keys of a setting. -/
def keys (setting : Setting) : List String :=
  setting.path.map String.ofList

/-- **What settings describe**: an object into which each of them is put in order, at its path,
where objects are made of all that stands on the way. -/
def meaning (settings : List Setting) : Keyed Json :=
  settings.foldl (fun entries setting => Json.putMember setting.reading setting.keys entries) []

end Setting

/-- Pieces that say settings, and blank ones between them. -/
inductive Listed : List Setting → List (List Char) → Prop
  | nil : Listed [] []
  | blank {settings : List Setting} {piece : List Char} {pieces : List (List Char)}
      (blank : ∀ character ∈ piece, isBlank character = true) (rest : Listed settings pieces) :
      Listed settings (piece :: pieces)
  | setting {setting : Setting} {settings : List Setting} {piece : List Char}
      {pieces : List (List Char)} (written : setting.Written piece)
      (rest : Listed settings pieces) : Listed (setting :: settings) (piece :: pieces)

/-- **A text of settings.** -/
def Renders (settings : List Setting) (text : List Char) : Prop :=
  ∃ pieces, Listed settings pieces ∧ text = joined ';' pieces

/-- **A piece that is neither blank nor a setting**, with the reason: it has no equals sign, or a
segment before the first one is blank. -/
inductive Faulty (piece : List Char) : Refusal → Prop
  | noEquals (visible : ∃ character ∈ piece, isBlank character = false) (missing : '=' ∉ piece) :
      Faulty piece (.missingAssignment (String.ofList (trim piece)))
  | blankSegment {segments : List (List Char)} {segment value : List Char}
      (shape : piece = joined '.' segments ++ '=' :: value)
      (first : '=' ∉ joined '.' segments) (cut : ∀ other ∈ segments, '.' ∉ other)
      (member : segment ∈ segments) (blank : ∀ character ∈ segment, isBlank character = true) :
      Faulty piece (.emptySegment (String.ofList (trim piece)))

/-- **The first faulty piece** of a row, with the reason. -/
inductive FirstFaulty : List (List Char) → List Char → Refusal → Prop
  | here {piece : List Char} {later : List (List Char)} {refusal : Refusal}
      (faulty : Faulty piece refusal) : FirstFaulty (piece :: later) piece refusal
  | later {other piece : List Char} {pieces : List (List Char)} {refusal : Refusal}
      (sound : ∀ reason, ¬ Faulty other reason) (first : FirstFaulty pieces piece refusal) :
      FirstFaulty (other :: pieces) piece refusal

theorem FirstFaulty.faulty {pieces : List (List Char)} {piece : List Char} {refusal : Refusal}
    (first : FirstFaulty pieces piece refusal) : Faulty piece refusal := by
  induction first with
  | here faulty => exact faulty
  | later _ _ inductive_step => exact inductive_step

/-- **The wording of the reason** quotes the piece. -/
theorem Faulty.message {piece : List Char} {refusal : Refusal} (faulty : Faulty piece refusal) :
    ∃ reason ∈ ["expected path=value", "path has an empty segment"],
      refusal.message =
        "failed to parse option `" ++ String.ofList (trim piece) ++ "`: " ++ reason := by
  cases faulty with
  | noEquals =>
    refine ⟨_, List.mem_cons_self, ?_⟩
    rw [String.append_assoc]
    rfl
  | blankSegment =>
    refine ⟨_, List.mem_cons_of_mem _ List.mem_cons_self, ?_⟩
    rw [String.append_assoc]
    rfl

/-! ### One piece -/

theorem optionValue_eq (characters : List Char) :
    optionValue characters = (Json.parse? (String.ofList characters)).getD
      (.string (String.ofList characters)) := by
  rw [optionValue, Json.parse?, Json.parse, String.toList_ofList]
  cases Json.readWhole Json.containerLimit characters <;> rfl

/-- A piece without an equals sign. -/
theorem readAssignment_trim_of_not_mem {piece : List Char} (none : '=' ∉ piece) :
    readAssignment (trim piece) = .error (.missingAssignment (String.ofList (trim piece))) := by
  have absent : '=' ∉ trim piece :=
    fun member => none (((padded_trim piece).mem_iff (by decide)).mpr member)
  rw [readAssignment, cutAt_eq_none_iff.mpr absent]

/-- **A piece with an equals sign** is cut at the first one. -/
theorem readAssignment_trim {path : List Char} (first : '=' ∉ path) (value : List Char) :
    readAssignment (trim (path ++ '=' :: value)) =
      if [] ∈ (pieces '.' path).map trim then
        .error (.emptySegment (String.ofList (trim (path ++ '=' :: value))))
      else .ok ⟨((pieces '.' path).map trim).map String.ofList, optionValue (trim value)⟩ := by
  have absent : '=' ∉ trimStart path :=
    fun member => first (((padded_trimStart path).mem_iff (by decide)).mpr member)
  have cut : cutAt '=' (trim (path ++ '=' :: value)) = some (trimStart path, trimEnd value) := by
    rw [trim_divided path value (by decide)]
    exact cutAt_eq_some_iff.mpr ⟨rfl, absent⟩
  have segments : pathSegments (trimStart path) = (pieces '.' path).map trim := by
    rw [pathSegments, ← (padded_trim (trimStart path)).map_trim_pieces (by decide),
      ← (padded_trimStart path).map_trim_pieces (by decide)]
  rw [readAssignment, cut]
  simp only [segments, (padded_trimEnd value).trim_eq]

namespace Setting

variable {setting : Setting} {piece : List Char}

/-- A setting as an assignment. -/
def assignment (setting : Setting) : Assignment :=
  ⟨setting.keys, setting.reading⟩

theorem meaning_eq_assign (settings : List Setting) :
    meaning settings = assign [] (settings.map assignment) := by
  rw [assign, List.foldl_map]
  rfl

/-- The segments of a setting, with blanks around them. -/
theorem map_trim_eq {path segments : List (List Char)}
    (padded : List.Forall₂ Padded path segments)
    (trimmed : ∀ segment ∈ path, trim segment = segment) : segments.map trim = path := by
  induction padded with
  | nil => rfl
  | cons padding _ inductive_step =>
    obtain ⟨first, rest⟩ := List.forall_mem_cons.mp trimmed
    rw [List.map_cons, inductive_step rest, (padded_iff first).mp padding]

/-- A visible character of a padded segment is one of the segment. -/
theorem exists_segment {path segments : List (List Char)} {character : Char}
    (padded : List.Forall₂ Padded path segments) (visible : isBlank character = false)
    {segment : List Char} (member : segment ∈ segments) (there : character ∈ segment) :
    ∃ inside ∈ path, character ∈ inside := by
  induction padded with
  | nil => cases member
  | cons padding _ inductive_step =>
    rcases List.mem_cons.mp member with rfl | later
    · exact ⟨_, List.mem_cons_self, (padding.mem_iff visible).mp there⟩
    · obtain ⟨inside, among, found⟩ := inductive_step later
      exact ⟨inside, List.mem_cons_of_mem _ among, found⟩

/-- **A setting is read as its assignment.** -/
theorem readAssignment_trim (written : setting.Written piece) :
    readAssignment (trim piece) = .ok setting.assignment := by
  obtain ⟨segments, value, padded, padding, around⟩ := written
  have trimmed := map_trim_eq padded fun segment member => (setting.segments segment member).trimmed
  have some : segments ≠ [] := by
    rintro rfl
    exact setting.rooted trimmed.symm
  have noStop : ∀ segment ∈ segments, '.' ∉ segment := by
    intro segment member there
    obtain ⟨inside, among, found⟩ := exists_segment padded (by decide) member there
    exact (setting.segments inside among).noStop found
  have noEquals : '=' ∉ joined '.' segments := by
    intro there
    obtain ⟨segment, member, within⟩ := mem_of_mem_joined there (by decide)
    obtain ⟨inside, among, found⟩ := exists_segment padded (by decide) member within
    exact (setting.segments inside among).noEquals found
  have visible : [] ∉ setting.path := fun member => (setting.segments [] member).visible rfl
  rw [around.trim_eq, Config.readAssignment_trim noEquals, pieces_joined some noStop, trimmed,
    if_neg visible, padding.trim_eq, setting.trimmed, optionValue_eq]
  rfl

theorem Written.noSemicolon (written : setting.Written piece) : ';' ∉ piece := by
  obtain ⟨segments, value, padded, padding, around⟩ := written
  intro member
  rw [around.mem_iff (by decide), List.mem_append, List.mem_cons] at member
  rcases member with front | same | back
  · obtain ⟨segment, member, within⟩ := mem_of_mem_joined front (by decide)
    obtain ⟨inside, among, found⟩ := exists_segment padded (by decide) member within
    exact (setting.segments inside among).noSemicolon found
  · cases same
  · exact setting.noSemicolon ((padding.mem_iff (by decide)).mp back)

theorem Written.trim_ne_nil (written : setting.Written piece) : trim piece ≠ [] := by
  obtain ⟨segments, value, _, _, around⟩ := written
  rw [around.trim_eq, trim_divided _ _ (by decide)]
  exact List.append_ne_nil_of_right_ne_nil _ (List.cons_ne_nil _ _)

end Setting

/-- **What is read as an assignment is a setting.** -/
theorem exists_written {piece : List Char} {assignment : Assignment} (noSemicolon : ';' ∉ piece)
    (reading : readAssignment (trim piece) = .ok assignment) :
    ∃ setting : Setting, setting.Written piece ∧ setting.assignment = assignment := by
  cases cut : cutAt '=' piece with
  | none =>
    rw [readAssignment_trim_of_not_mem (cutAt_eq_none_iff.mp cut)] at reading
    cases reading
  | some sides =>
    obtain ⟨path, value⟩ := sides
    obtain ⟨rfl, first⟩ := cutAt_eq_some_iff.mp cut
    rw [readAssignment_trim first] at reading
    split at reading
    · cases reading
    · next visible =>
      cases reading
      rw [List.mem_append, List.mem_cons, not_or, not_or] at noSemicolon
      have segment : ∀ inside ∈ (pieces '.' path).map trim, IsSegment inside := by
        intro inside member
        obtain ⟨segment, among, rfl⟩ := List.mem_map.mp member
        have back : ∀ character, character ∈ trim segment → isBlank character = false →
            character ∈ segment :=
          fun _ there seen => ((padded_trim segment).mem_iff seen).mpr there
        have within : ∀ character ∈ segment, character ∈ path := fun character there => by
          rw [← joined_pieces '.' path]
          exact mem_joined among there
        exact ⟨fun empty => visible (empty ▸ member), trim_trim segment,
          fun there => not_mem_of_mem_pieces among (back _ there (by decide)),
          fun there => first (within _ (back _ there (by decide))),
          fun there => noSemicolon.1 (within _ (back _ there (by decide)))⟩
      refine ⟨⟨(pieces '.' path).map trim, trim value, ?_, segment, trim_trim value, ?_⟩,
        ⟨pieces '.' path, value, ?_, padded_trim value, ?_⟩, ?_⟩
      · exact fun none => pieces_ne_nil '.' path (List.map_eq_nil_iff.mp none)
      · exact fun there => noSemicolon.2.2 (((padded_trim value).mem_iff (by decide)).mpr there)
      · exact List.forall₂_map_left_iff.mpr
          (List.forall₂_same.mpr fun inside _ => padded_trim inside)
      · rw [joined_pieces]
        exact .refl _
      · rw [Setting.assignment, Setting.reading, optionValue_eq]
        rfl

/-- **A piece is refused exactly if it is faulty.** -/
theorem readAssignment_eq_error_iff {piece : List Char} {refusal : Refusal}
    (visible : trim piece ≠ []) :
    readAssignment (trim piece) = .error refusal ↔ Faulty piece refusal := by
  constructor
  · intro refused
    cases cut : cutAt '=' piece with
    | none =>
      have none := cutAt_eq_none_iff.mp cut
      rw [readAssignment_trim_of_not_mem none] at refused
      cases refused
      refine .noEquals ?_ none
      rw [ne_eq, trim_eq_nil_iff] at visible
      simpa using visible
    | some sides =>
      obtain ⟨path, value⟩ := sides
      obtain ⟨rfl, first⟩ := cutAt_eq_some_iff.mp cut
      rw [readAssignment_trim first] at refused
      split at refused
      · next empty =>
        cases refused
        obtain ⟨segment, member, blank⟩ := List.mem_map.mp empty
        rw [← joined_pieces '.' path] at first
        exact .blankSegment (by rw [joined_pieces]) first
          (fun other among => not_mem_of_mem_pieces among) member
          ((trim_eq_nil_iff segment).mp blank)
      · cases refused
  · intro faulty
    cases faulty with
    | noEquals _ none => exact readAssignment_trim_of_not_mem none
    | blankSegment shape first cut member blank =>
      subst shape
      rw [readAssignment_trim first, pieces_joined (List.ne_nil_of_mem member) cut, if_pos]
      exact List.mem_map.mpr ⟨_, member, (trim_eq_nil_iff _).mpr blank⟩

/-! ### Pieces in a row -/

/-- The pieces that are read: trimmed ones that are not blank. -/
def visiblePieces (pieces : List (List Char)) : List (List Char) :=
  (pieces.map trim).filter (· ≠ [])

variable {piece : List Char} {pieces : List (List Char)} {settings : List Setting}
  {refusal : Refusal}

theorem visiblePieces_cons_of_blank (blank : trim piece = []) (pieces : List (List Char)) :
    visiblePieces (piece :: pieces) = visiblePieces pieces := by
  rw [visiblePieces, List.map_cons, List.filter_cons_of_neg (by simp [blank])]
  rfl

theorem visiblePieces_cons (visible : trim piece ≠ []) (pieces : List (List Char)) :
    visiblePieces (piece :: pieces) = trim piece :: visiblePieces pieces := by
  rw [visiblePieces, List.map_cons, List.filter_cons_of_pos (by simp [visible])]
  rfl

/-- The blanks around a text are not seen in its pieces. -/
theorem optionPieces_trim (characters : List Char) :
    optionPieces (trim characters) = visiblePieces (Text.pieces ';' characters) := by
  rw [optionPieces, visiblePieces, (padded_trim characters).map_trim_pieces (by decide)]

theorem Faulty.trim_ne_nil (faulty : Faulty piece refusal) : trim piece ≠ [] := by
  cases faulty with
  | noEquals visible missing =>
    obtain ⟨character, member, seen⟩ := visible
    intro nothing
    rw [(trim_eq_nil_iff piece).mp nothing character member] at seen
    cases seen
  | blankSegment shape first cut member blank =>
    rw [shape, trim_divided _ _ (by decide)]
    exact List.append_ne_nil_of_right_ne_nil _ (List.cons_ne_nil _ _)

/-- **A list of settings is read as its assignments.** -/
theorem Listed.readAssignments (listed : Listed settings pieces) :
    readAssignments (visiblePieces pieces) = .ok (settings.map Setting.assignment) := by
  induction listed with
  | nil => rfl
  | blank blank _ inductive_step =>
    rw [visiblePieces_cons_of_blank ((trim_eq_nil_iff _).mpr blank)]
    exact inductive_step
  | setting written _ inductive_step =>
    rw [visiblePieces_cons written.trim_ne_nil, Config.readAssignments,
      Setting.readAssignment_trim written, inductive_step]
    rfl

/-- No piece of a list of settings holds a semicolon. -/
theorem Listed.noSemicolon (listed : Listed settings pieces) : ∀ piece ∈ pieces, ';' ∉ piece := by
  induction listed with
  | nil => exact List.forall_mem_nil _
  | blank blank _ inductive_step =>
    refine List.forall_mem_cons.mpr ⟨fun member => ?_, inductive_step⟩
    cases blank ';' member
  | setting written _ inductive_step =>
    exact List.forall_mem_cons.mpr ⟨written.noSemicolon, inductive_step⟩

/-- **What is read as assignments is a list of settings.** -/
theorem exists_listed {assignments : List Assignment} (whole : ∀ piece ∈ pieces, ';' ∉ piece)
    (reading : readAssignments (visiblePieces pieces) = .ok assignments) :
    ∃ settings, Listed settings pieces ∧ settings.map Setting.assignment = assignments := by
  induction pieces generalizing assignments with
  | nil =>
    cases reading
    exact ⟨[], .nil, rfl⟩
  | cons piece pieces inductive_step =>
    obtain ⟨noSemicolon, others⟩ := List.forall_mem_cons.mp whole
    by_cases blank : trim piece = []
    · rw [visiblePieces_cons_of_blank blank] at reading
      obtain ⟨settings, listed, same⟩ := inductive_step others reading
      exact ⟨settings, .blank ((trim_eq_nil_iff piece).mp blank) listed, same⟩
    · rw [visiblePieces_cons blank, readAssignments] at reading
      obtain ⟨assignment, first, reading⟩ := Json.exists_of_bind_eq_ok reading
      obtain ⟨rest, further, ending⟩ := Json.exists_of_bind_eq_ok reading
      cases ending
      obtain ⟨setting, written, rfl⟩ := exists_written noSemicolon first
      obtain ⟨settings, listed, rfl⟩ := inductive_step others further
      exact ⟨setting :: settings, .setting written listed, rfl⟩

/-- A piece without a fault does not count. -/
theorem exists_firstFaulty_cons_of_sound (sound : ∀ reason, ¬ Faulty piece reason) :
    (∃ found, FirstFaulty (piece :: pieces) found refusal) ↔
      ∃ found, FirstFaulty pieces found refusal := by
  constructor
  · rintro ⟨found, first⟩
    cases first with
    | here faulty => exact (sound _ faulty).elim
    | later _ first => exact ⟨found, first⟩
  · rintro ⟨found, first⟩
    exact ⟨found, .later sound first⟩

/-- **A row of pieces is refused exactly for the first that is faulty.** -/
theorem readAssignments_eq_error_iff :
    readAssignments (visiblePieces pieces) = .error refusal ↔
      ∃ piece, FirstFaulty pieces piece refusal := by
  induction pieces with
  | nil => exact ⟨nofun, fun ⟨_, first⟩ => nomatch first⟩
  | cons piece pieces inductive_step =>
    by_cases blank : trim piece = []
    · have sound : ∀ reason, ¬ Faulty piece reason := fun _ faulty => faulty.trim_ne_nil blank
      rw [visiblePieces_cons_of_blank blank, inductive_step, exists_firstFaulty_cons_of_sound sound]
    · rw [visiblePieces_cons blank, readAssignments]
      cases reading : readAssignment (trim piece) with
      | error reason =>
        have faulty := (readAssignment_eq_error_iff blank).mp reading
        constructor
        · intro refused
          cases refused
          exact ⟨piece, .here faulty⟩
        · rintro ⟨found, first⟩
          cases first with
          | here other =>
            cases reading.symm.trans ((readAssignment_eq_error_iff blank).mpr other)
            rfl
          | later sound _ => exact (sound _ faulty).elim
      | ok assignment =>
        have sound : ∀ reason, ¬ Faulty piece reason := fun _ faulty => by
          rw [(readAssignment_eq_error_iff blank).mpr faulty] at reading
          cases reading
        rw [exists_firstFaulty_cons_of_sound sound, ← inductive_step]
        cases readAssignments (visiblePieces pieces) with
        | error reason => exact Iff.rfl
        | ok rest => exact ⟨nofun, nofun⟩

/-- There is a first faulty piece exactly if there is any. -/
theorem exists_firstFaulty_iff :
    (∃ refusal piece, FirstFaulty pieces piece refusal) ↔
      ∃ piece ∈ pieces, ∃ refusal, Faulty piece refusal := by
  constructor
  · rintro ⟨refusal, piece, first⟩
    induction first with
    | here faulty => exact ⟨_, List.mem_cons_self, _, faulty⟩
    | later _ _ inductive_step =>
      obtain ⟨found, member, faulty⟩ := inductive_step
      exact ⟨found, List.mem_cons_of_mem _ member, faulty⟩
  · rintro ⟨piece, member, refusal, faulty⟩
    induction pieces with
    | nil => cases member
    | cons other pieces inductive_step =>
      by_cases sound : ∀ reason, ¬ Faulty other reason
      · rcases List.mem_cons.mp member with rfl | later
        · exact (sound refusal faulty).elim
        · obtain ⟨reason, found, first⟩ := inductive_step later
          exact ⟨reason, found, .later sound first⟩
      · obtain ⟨reason, earlier⟩ := Classical.not_forall.mp sound
        exact ⟨reason, other, .here (Classical.not_not.mp earlier)⟩

/-! ### Texts -/

/-- Text that does not start with a brace is read piece by piece. -/
theorem readConfig_eq {text : String} (plain : (trim text.toList).head? ≠ some '\x7b') :
    readConfig text =
      (readAssignments (visiblePieces (Text.pieces ';' text.toList))).map (assign []) := by
  rw [← optionPieces_trim]
  unfold readConfig readTrimmed
  split
  · next empty =>
    rw [empty]
    rfl
  · next rest shape =>
    rw [shape] at plain
    exact (plain rfl).elim
  · cases readAssignments (optionPieces (trim text.toList)) <;> rfl

/-- A text renders settings exactly if its pieces list them. -/
theorem renders_iff {text : List Char} :
    Renders settings text ↔ Listed settings (Text.pieces ';' text) := by
  constructor
  · rintro ⟨pieces, listed, rfl⟩
    by_cases some : pieces = []
    · subst some
      cases listed
      exact .blank (List.forall_mem_nil _) .nil
    · rwa [pieces_joined some listed.noSemicolon]
  · exact fun listed => ⟨_, listed, (joined_pieces ';' text).symm⟩

/-- **What option text is read as, and when it is refused.** For every text that does not start with
a brace: it is accepted exactly if it is a text of settings, and then describes what they describe;
it is refused exactly if one of its pieces between semicolons is faulty, and the refusal is that of
the first such piece, which it quotes. -/
theorem option_text_grammar (text : String) (plain : (trim text.toList).head? ≠ some '\x7b') :
    (∀ entries, readConfig text = .ok entries ↔
        ∃ settings, Renders settings text.toList ∧ entries = Setting.meaning settings) ∧
      ∃ pieces, text.toList = joined ';' pieces ∧ (∀ piece ∈ pieces, ';' ∉ piece) ∧
        ((∃ refusal, readConfig text = .error refusal) ↔
          ∃ piece ∈ pieces, ∃ refusal, Faulty piece refusal) ∧
        ∀ refusal, readConfig text = .error refusal →
          ∃ piece, FirstFaulty pieces piece refusal ∧
            ∃ reason ∈ ["expected path=value", "path has an empty segment"],
              refusal.message =
                "failed to parse option `" ++ String.ofList (trim piece) ++ "`: " ++ reason := by
  have whole : ∀ piece ∈ Text.pieces ';' text.toList, ';' ∉ piece :=
    fun _ member => not_mem_of_mem_pieces member
  have refused : ∀ refusal, readConfig text = .error refusal ↔
      ∃ piece, FirstFaulty (Text.pieces ';' text.toList) piece refusal := by
    intro refusal
    rw [readConfig_eq plain, ← readAssignments_eq_error_iff]
    cases readAssignments (visiblePieces (Text.pieces ';' text.toList)) with
    | error reason =>
      constructor
      · intro same
        cases same
        rfl
      · intro same
        cases same
        rfl
    | ok assignments => exact ⟨nofun, nofun⟩
  refine ⟨fun entries => ⟨fun accepted => ?_, ?_⟩, Text.pieces ';' text.toList,
    (joined_pieces ';' text.toList).symm, whole, ?_, fun refusal failed => ?_⟩
  · rw [readConfig_eq plain] at accepted
    cases reading : readAssignments (visiblePieces (Text.pieces ';' text.toList)) with
    | error reason =>
      rw [reading] at accepted
      cases accepted
    | ok assignments =>
      rw [reading] at accepted
      cases accepted
      obtain ⟨settings, listed, rfl⟩ := exists_listed whole reading
      exact ⟨settings, renders_iff.mpr listed, (Setting.meaning_eq_assign settings).symm⟩
  · rintro ⟨settings, renders, rfl⟩
    rw [readConfig_eq plain, (renders_iff.mp renders).readAssignments, Setting.meaning_eq_assign]
    rfl
  · rw [← exists_firstFaulty_iff]
    exact exists_congr refused
  · obtain ⟨piece, first⟩ := (refused refusal).mp failed
    exact ⟨piece, first, first.faulty.message⟩

/-- Three settings among blank pieces, of which the last is put beside the first, and a text with
two faulty pieces. -/
theorem option_text_grammar_spaced :
    (trim " a . b = x=1.5 ;; c=[1];\t; a.c = ".toList).head? ≠ some '\x7b' ∧
      (∃ settings, Renders settings " a . b = x=1.5 ;; c=[1];\t; a.c = ".toList ∧
        Setting.meaning settings =
          [("a", .object [("b", .string "x=1.5"), ("c", .string "")]),
            ("c", .array [.number (.integer 1 (by decide))])]) ∧
      (trim "a=1; b..c=2 ;d".toList).head? ≠ some '\x7b' ∧
      ∃ pieces piece, "a=1; b..c=2 ;d".toList = joined ';' pieces ∧
        FirstFaulty pieces piece (.emptySegment "b..c=2") ∧
        Refusal.message (.emptySegment "b..c=2") =
          "failed to parse option `b..c=2`: path has an empty segment" := by
  have plain : (trim " a . b = x=1.5 ;; c=[1];\t; a.c = ".toList).head? ≠ some '\x7b' := by
    decide +kernel
  have marred : (trim "a=1; b..c=2 ;d".toList).head? ≠ some '\x7b' := by decide +kernel
  obtain ⟨settings, renders, meaning⟩ :=
    ((option_text_grammar _ plain).1
      [("a", .object [("b", .string "x=1.5"), ("c", .string "")]),
        ("c", .array [.number (.integer 1 (by decide))])]).mp (by decide +kernel)
  obtain ⟨pieces, text, _, _, quoted⟩ := (option_text_grammar _ marred).2
  obtain ⟨piece, first, _⟩ := quoted (.emptySegment "b..c=2") (by decide +kernel)
  exact ⟨plain, ⟨settings, renders, meaning.symm⟩, marred, pieces, piece, text, first, rfl⟩

end InstanceHost.Config
