/-
**Blanks around a text and around its pieces.**

Trimming undoes padding: of all texts with blanks around the same inside, trimming leaves the same.
Cutting at a visible character and trimming the pieces does not see the blanks around the whole
either, and joining pieces that do not hold the separator is undone by cutting.

* `Padded`: a text with blanks around it;
* `padded_iff`: a padded text is one that trims to the inside;
* `trim_divided`: trimming around a visible character;
* `pieces_append`: cutting at a separator is cutting both sides of it;
* `pieces_joined`: cutting undoes joining;
* `Padded.map_trim_pieces`: the trimmed pieces of a padded text.
-/

import InstanceHost.Text.Blank
import InstanceHost.Text.Pieces
import Mathlib.Data.List.TakeWhile

namespace InstanceHost.Text

/-! ### Trimming -/

/-- **A text with blanks around it.** -/
def Padded (inside padded : List Char) : Prop :=
  ∃ before behind, (∀ character ∈ before ++ behind, isBlank character = true) ∧
    padded = before ++ inside ++ behind

/-- Blanks at the start do not count. -/
theorem trimStart_append {blanks : List Char}
    (blank : ∀ character ∈ blanks, isBlank character = true) (rest : List Char) :
    trimStart (blanks ++ rest) = trimStart rest :=
  List.dropWhile_append_of_pos blank

/-- Blanks at the end do not count. -/
theorem trimEnd_append (front : List Char) {blanks : List Char}
    (blank : ∀ character ∈ blanks, isBlank character = true) :
    trimEnd (front ++ blanks) = trimEnd front := by
  rw [trimEnd, List.reverse_append, trimStart_append fun character member =>
    blank character (List.mem_reverse.mp member), trimEnd]

/-- A visible character ends what is trimmed at the start. -/
theorem trimStart_divided (front : List Char) {character : Char} (rest : List Char)
    (visible : isBlank character = false) :
    trimStart (front ++ character :: rest) = trimStart front ++ character :: rest := by
  have stays : List.dropWhile isBlank (character :: rest) = character :: rest :=
    List.dropWhile_cons_of_neg (by rw [visible]; exact Bool.false_ne_true)
  unfold trimStart
  rw [List.dropWhile_append, stays]
  split
  · next empty => rw [List.isEmpty_iff.mp empty, List.nil_append]
  · rfl

/-- It ends what is trimmed at the end. -/
theorem trimEnd_divided (front : List Char) {character : Char} (rest : List Char)
    (visible : isBlank character = false) :
    trimEnd (front ++ character :: rest) = front ++ character :: trimEnd rest := by
  have backwards : (front ++ character :: rest).reverse =
      rest.reverse ++ character :: front.reverse := by
    simp
  rw [trimEnd, backwards, trimStart_divided _ _ visible, trimEnd]
  simp

/-- **Trimming around a visible character** trims each side at its own end. -/
theorem trim_divided (front : List Char) {character : Char} (rest : List Char)
    (visible : isBlank character = false) :
    trim (front ++ character :: rest) = trimStart front ++ character :: trimEnd rest := by
  rw [trim, trimStart_divided _ _ visible, trimEnd_divided _ _ visible]

/-- A text between visible characters is not trimmed. -/
theorem trim_enclosed (inside : List Char) {first last : Char} (starts : isBlank first = false)
    (ends : isBlank last = false) :
    trim (first :: (inside ++ [last])) = first :: (inside ++ [last]) := by
  have both : trim (first :: (inside ++ [last])) = first :: trimEnd (inside ++ [last]) :=
    trim_divided [] (inside ++ [last]) starts
  rw [both, trimEnd_divided inside [] ends]
  rfl

/-- What is trimmed at the start are blanks. -/
theorem padded_trimStart (characters : List Char) : Padded (trimStart characters) characters := by
  refine ⟨characters.takeWhile isBlank, [], fun character member => ?_, ?_⟩
  · rw [List.append_nil] at member
    exact List.mem_takeWhile_imp member
  · rw [List.append_nil]
    exact List.takeWhile_append_dropWhile.symm

/-- What is trimmed at the end are blanks. -/
theorem padded_trimEnd (characters : List Char) : Padded (trimEnd characters) characters := by
  obtain ⟨before, behind, blank, shape⟩ := padded_trimStart characters.reverse
  refine ⟨behind.reverse, before.reverse, fun character member => blank character ?_, ?_⟩
  · rw [← List.reverse_append] at member
    exact List.mem_reverse.mp member
  · have turned := congrArg List.reverse shape
    rw [List.reverse_reverse, List.reverse_append, List.reverse_append, ← List.append_assoc]
      at turned
    exact turned

theorem Padded.refl (characters : List Char) : Padded characters characters :=
  ⟨[], [], List.forall_mem_nil _, (List.append_nil _).symm⟩

theorem Padded.trans {inside middle padded : List Char} (inner : Padded inside middle)
    (outer : Padded middle padded) : Padded inside padded := by
  obtain ⟨before, behind, blank, rfl⟩ := inner
  obtain ⟨first, last, further, rfl⟩ := outer
  refine ⟨first ++ before, behind ++ last, fun character member => ?_, by simp⟩
  simp only [List.mem_append] at member blank further
  rcases member with (one | two) | (three | four)
  · exact further character (Or.inl one)
  · exact blank character (Or.inl two)
  · exact blank character (Or.inr three)
  · exact further character (Or.inr four)

/-- **What is trimmed are blanks.** -/
theorem padded_trim (characters : List Char) : Padded (trim characters) characters :=
  (padded_trimEnd _).trans (padded_trimStart characters)

/-- **Trimming does not see the blanks around a text.** -/
theorem Padded.trim_eq {inside padded : List Char} (padding : Padded inside padded) :
    trim padded = trim inside := by
  obtain ⟨before, behind, blank, rfl⟩ := padding
  have front : ∀ character ∈ before, isBlank character = true :=
    fun character member => blank character (List.mem_append_left _ member)
  have back : ∀ character ∈ behind, isBlank character = true :=
    fun character member => blank character (List.mem_append_right _ member)
  rw [trim, List.append_assoc, trimStart_append front, trim]
  unfold trimStart
  rw [List.dropWhile_append]
  split
  · next empty =>
    -- nothing is left of the inside, and nothing of the blanks behind it
    rw [List.isEmpty_iff.mp empty, ← trimStart, (trimStart_eq_nil_iff behind).mpr back]
  · exact trimEnd_append _ back

theorem trim_trim (characters : List Char) : trim (trim characters) = trim characters :=
  (padded_trim characters).trim_eq.symm

/-- **A padded text is one that trims to the inside**, if this is trimmed itself. -/
theorem padded_iff {inside padded : List Char} (trimmed : trim inside = inside) :
    Padded inside padded ↔ trim padded = inside := by
  constructor
  · exact fun padding => padding.trim_eq.trans trimmed
  · rintro rfl
    exact padded_trim padded

/-- A visible character of a padded text is one of the inside. -/
theorem Padded.mem_iff {inside padded : List Char} (padding : Padded inside padded)
    {character : Char} (visible : isBlank character = false) :
    character ∈ padded ↔ character ∈ inside := by
  obtain ⟨before, behind, blank, rfl⟩ := padding
  have outside : character ∉ before ++ behind := fun member => by
    rw [blank character member] at visible
    cases visible
  simp only [List.mem_append, not_or] at outside ⊢
  constructor
  · rintro ((front | middle) | back)
    · exact absurd front outside.1
    · exact middle
    · exact absurd back outside.2
  · exact fun member => Or.inl (Or.inr member)

/-! ### Pieces -/

/-- A text without the separator is one piece. -/
theorem pieces_of_not_mem {separator : Char} {characters : List Char}
    (absent : separator ∉ characters) : pieces separator characters = [characters] := by
  induction characters with
  | nil => rfl
  | cons character rest inductive_step =>
    rw [List.mem_cons, not_or] at absent
    rw [pieces, if_neg fun same => absent.1 same.symm, inductive_step absent.2]

/-- Cutting at a separator is cutting both sides of it. -/
theorem pieces_append (separator : Char) (first second : List Char) :
    pieces separator (first ++ separator :: second) =
      pieces separator first ++ pieces separator second := by
  induction first with
  | nil => simp only [List.nil_append, pieces, if_true, List.singleton_append]
  | cons character rest inductive_step =>
    rw [List.cons_append, pieces, pieces, inductive_step]
    split
    · rfl
    · cases shape : pieces separator rest with
      | nil => exact absurd shape (pieces_ne_nil separator rest)
      | cons piece others => rfl

/-- A text before the first separator belongs to the first piece. -/
theorem pieces_append_left {separator : Char} {front characters first : List Char}
    {others : List (List Char)} (absent : separator ∉ front)
    (shape : pieces separator characters = first :: others) :
    pieces separator (front ++ characters) = (front ++ first) :: others := by
  induction front with
  | nil => exact shape
  | cons character rest inductive_step =>
    rw [List.mem_cons, not_or] at absent
    rw [List.cons_append, pieces, if_neg fun same => absent.1 same.symm, inductive_step absent.2]
    rfl

/-- A text behind the last separator belongs to the last piece. -/
theorem exists_pieces_append_right {separator : Char} {back : List Char} (absent : separator ∉ back)
    (characters : List Char) :
    ∃ initial last, pieces separator characters = initial ++ [last] ∧
      pieces separator (characters ++ back) = initial ++ [last ++ back] := by
  induction characters with
  | nil => exact ⟨[], [], rfl, pieces_of_not_mem absent⟩
  | cons character rest inductive_step =>
    obtain ⟨initial, last, shape, longer⟩ := inductive_step
    by_cases same : character = separator
    · refine ⟨[] :: initial, last, ?_, ?_⟩
      · rw [pieces, if_pos same, shape, List.cons_append]
      · rw [List.cons_append, pieces, if_pos same, longer, List.cons_append]
    · rw [List.cons_append, pieces, pieces, if_neg same, if_neg same, shape, longer]
      cases initial with
      | nil => exact ⟨[], character :: last, rfl, rfl⟩
      | cons first others => exact ⟨(character :: first) :: others, last, rfl, rfl⟩

/-- **Cutting undoes joining**, if no part holds the separator. -/
theorem pieces_joined {separator : Char} {parts : List (List Char)} (some : parts ≠ [])
    (whole : ∀ part ∈ parts, separator ∉ part) :
    pieces separator (joined separator parts) = parts := by
  induction parts with
  | nil => exact absurd rfl some
  | cons part others inductive_step =>
    obtain ⟨first, rest⟩ := List.forall_mem_cons.mp whole
    cases others with
    | nil => exact pieces_of_not_mem first
    | cons next others =>
      rw [joined, pieces_append, pieces_of_not_mem first,
        inductive_step (List.cons_ne_nil _ _) rest]
      rfl

/-- A character of a part is one of the joined text. -/
theorem mem_joined {separator character : Char} {parts : List (List Char)} {part : List Char}
    (member : part ∈ parts) (there : character ∈ part) : character ∈ joined separator parts := by
  induction parts with
  | nil => cases member
  | cons first others inductive_step =>
    cases others with
    | nil => exact List.mem_singleton.mp member ▸ there
    | cons next others =>
      rw [joined, List.mem_append, List.mem_cons]
      rcases List.mem_cons.mp member with rfl | later
      · exact Or.inl there
      · exact Or.inr (Or.inr (inductive_step later))

/-- A character of a joined text is the separator or stands in a part. -/
theorem mem_of_mem_joined {separator character : Char} {parts : List (List Char)}
    (member : character ∈ joined separator parts) (other : character ≠ separator) :
    ∃ part ∈ parts, character ∈ part := by
  induction parts with
  | nil => cases member
  | cons part others inductive_step =>
    cases others with
    | nil => exact ⟨part, List.mem_cons_self, member⟩
    | cons next others =>
      rw [joined, List.mem_append, List.mem_cons] at member
      rcases member with first | same | later
      · exact ⟨part, List.mem_cons_self, first⟩
      · exact absurd same other
      · obtain ⟨found, there, inside⟩ := inductive_step later
        exact ⟨found, List.mem_cons_of_mem _ there, inside⟩

/-- **The trimmed pieces of a padded text** are those of the inside. -/
theorem Padded.map_trim_pieces {separator : Char} {inside padded : List Char}
    (padding : Padded inside padded) (visible : isBlank separator = false) :
    (pieces separator padded).map trim = (pieces separator inside).map trim := by
  obtain ⟨before, behind, blank, rfl⟩ := padding
  have absent : ∀ {blanks : List Char}, (∀ character ∈ blanks, isBlank character = true) →
      separator ∉ blanks := fun blank member => by
    rw [blank separator member] at visible
    cases visible
  have front : ∀ character ∈ before, isBlank character = true :=
    fun character member => blank character (List.mem_append_left _ member)
  have back : ∀ character ∈ behind, isBlank character = true :=
    fun character member => blank character (List.mem_append_right _ member)
  obtain ⟨initial, last, shape, longer⟩ :=
    exists_pieces_append_right (absent back) (before ++ inside)
  have ending : trim (last ++ behind) = trim last :=
    Padded.trim_eq ⟨[], behind, back, rfl⟩
  rw [longer, List.map_append, List.map_singleton, ending, ← List.map_singleton, ← List.map_append,
    ← shape]
  cases cut : pieces separator inside with
  | nil => exact absurd cut (pieces_ne_nil separator inside)
  | cons first others =>
    have opening : trim (before ++ first) = trim first :=
      Padded.trim_eq ⟨before, [], by rwa [List.append_nil], (List.append_nil _).symm⟩
    rw [pieces_append_left (absent front) cut, List.map_cons, List.map_cons, opening]

end InstanceHost.Text
