/-
**Cutting text at a character.**

Option text is cut at semicolons, full stops and the first equals sign, keys and paths at slashes.

* `pieces separator`: the parts between the separators, one more than there are separators;
* `cutAt separator`: the parts before and after the first separator, if there is one;
* `joined_pieces`: joining the pieces with the separator gives the text back;
* `cutAt_eq_some_iff`: a cut is where the separator stands first.
-/

namespace InstanceHost.Text

/-- The parts of a text between the occurrences of a separator. -/
def pieces (separator : Char) : List Char → List (List Char)
  | [] => [[]]
  | character :: rest =>
    if character = separator then [] :: pieces separator rest
    else match pieces separator rest with
      | [] => [[character]]
      | first :: others => (character :: first) :: others

/-- The parts before and after the first occurrence of a separator. -/
def cutAt (separator : Char) : List Char → Option (List Char × List Char)
  | [] => none
  | character :: rest =>
    if character = separator then some ([], rest)
    else (cutAt separator rest).map fun (before, after) => (character :: before, after)

/-- Texts joined with a separator between neighbours. -/
def joined (separator : Char) : List (List Char) → List Char
  | [] => []
  | [part] => part
  | part :: next :: others => part ++ separator :: joined separator (next :: others)

/-- There is always a piece. -/
theorem pieces_ne_nil (separator : Char) (characters : List Char) :
    pieces separator characters ≠ [] := by
  cases characters with
  | nil => simp [pieces]
  | cons character rest =>
    simp only [pieces]
    split
    · simp
    · split <;> simp

/-- **Joining undoes cutting.** -/
theorem joined_pieces (separator : Char) (characters : List Char) :
    joined separator (pieces separator characters) = characters := by
  induction characters with
  | nil => rfl
  | cons character rest inductive_step =>
    simp only [pieces]
    split
    · next same =>
      subst same
      cases shape : pieces character rest with
      | nil => exact absurd shape (pieces_ne_nil _ _)
      | cons first others =>
        rw [shape] at inductive_step
        simp [joined, inductive_step]
    · cases shape : pieces separator rest with
      | nil => exact absurd shape (pieces_ne_nil _ _)
      | cons first others =>
        rw [shape] at inductive_step
        cases others with
        | nil => simpa [joined] using inductive_step
        | cons next others => simpa [joined] using inductive_step

/-- No piece holds the separator. -/
theorem not_mem_of_mem_pieces {separator : Char} {characters piece : List Char}
    (member : piece ∈ pieces separator characters) : separator ∉ piece := by
  induction characters generalizing piece with
  | nil => simp_all [pieces]
  | cons character rest inductive_step =>
    simp only [pieces] at member
    split at member
    · rcases List.mem_cons.mp member with empty | later
      · simp [empty]
      · exact inductive_step later
    · next different =>
      cases shape : pieces separator rest with
      | nil => exact absurd shape (pieces_ne_nil _ _)
      | cons first others =>
        rw [shape] at member
        rcases List.mem_cons.mp member with same | later
        · subst same
          have clean : separator ∉ first :=
            inductive_step (by rw [shape]; exact List.mem_cons_self)
          simp only [List.mem_cons, not_or]
          exact ⟨fun same => different same.symm, clean⟩
        · exact inductive_step (by rw [shape]; exact List.mem_cons_of_mem _ later)

/-- **A cut is where the separator stands first.** -/
theorem cutAt_eq_some_iff {separator : Char} {characters before after : List Char} :
    cutAt separator characters = some (before, after) ↔
      characters = before ++ separator :: after ∧ separator ∉ before := by
  induction characters generalizing before with
  | nil => simp [cutAt]
  | cons character rest inductive_step =>
    simp only [cutAt]
    split
    · next same =>
      subst same
      cases before with
      | nil => simp [eq_comm]
      | cons first others =>
        simp only [Option.some.injEq, Prod.mk.injEq, List.cons_append, List.cons.injEq,
          List.mem_cons, not_or]
        constructor
        · rintro ⟨impossible, _⟩
          cases impossible
        · rintro ⟨⟨same, _⟩, different, _⟩
          exact absurd same different
    · next different =>
      simp only [Option.map_eq_some_iff, Prod.exists, Prod.mk.injEq]
      constructor
      · rintro ⟨start, stop, found, rfl, rfl⟩
        obtain ⟨rfl, clean⟩ := inductive_step.mp found
        refine ⟨rfl, ?_⟩
        simp only [List.mem_cons, not_or]
        exact ⟨fun same => different same.symm, clean⟩
      · rintro ⟨shape, clean⟩
        cases before with
        | nil => simp at shape; exact absurd shape.1 different
        | cons first others =>
          simp only [List.cons_append, List.cons.injEq] at shape
          simp only [List.mem_cons, not_or] at clean
          exact ⟨others, after, inductive_step.mpr ⟨shape.2, clean.2⟩, by rw [shape.1], rfl⟩

/-- There is no cut exactly when the separator does not occur. -/
theorem cutAt_eq_none_iff {separator : Char} {characters : List Char} :
    cutAt separator characters = none ↔ separator ∉ characters := by
  induction characters with
  | nil => simp [cutAt]
  | cons character rest inductive_step =>
    simp only [cutAt]
    split
    · next same => simp [same]
    · next different =>
      simp only [Option.map_eq_none_iff, inductive_step, List.mem_cons, not_or]
      exact ⟨fun clean => ⟨fun same => different same.symm, clean⟩, fun both => both.2⟩

end InstanceHost.Text
