/-
**What is left behind a value does not matter.**

The readers of containers stop at the bracket or the brace that closes them, and look no further. So
every reading of a value depends only on what it takes, and the blanks around a text that holds an
object can be cut off.

* `exists_of_readItems`, `exists_of_readEntries`: the contents of containers with their ends;
* `local_readValue`: values, by induction on the budget;
* `exists_of_readWhole`: a text with an object, without the blanks around it.
-/

import InstanceHost.Proofs.Json.ScalarLocality

namespace InstanceHost.Json

/-! ### Containers -/

/-- Blanks that are skipped are skipped whatever is kept behind them. -/
theorem exists_of_skipSpacing {characters behind : List Char}
    (skipped : skipSpacing characters = behind) :
    ∃ blanks, characters = blanks ++ behind ∧
      ∀ kept, kept <+: behind → skipSpacing (blanks ++ kept) = kept := by
  subst skipped
  exact ⟨characters.takeWhile isSpacing, List.takeWhile_append_dropWhile.symm,
    fun kept cut => dropWhile_append cut⟩

section

variable {element : Element} (reads : Local element)

/-- An item in front of another one. -/
theorem readItems_further {bound : Nat} {characters behind after visible : List Char} {item : Json}
    (first : element characters = .ok (item, behind)) (comma : skipSpacing behind = ',' :: after)
    (spaced : skipSpacing after = visible) (some : visible ≠ [])
    (inside : ∀ others, visible ≠ ']' :: others) :
    readItems element (bound + 1) characters =
      readItems element bound visible >>= fun answer => .ok (item :: answer.1, answer.2) := by
  rw [readItems, first, ok_bind]
  simp only [comma, spaced]
  rfl

include reads

/-- Items end with a bracket, whatever is kept behind it. -/
theorem exists_of_readItems {bound : Nat} {characters rest : List Char} {items : List Json}
    (reading : readItems element bound characters = .ok (items, rest)) :
    ∃ inside, characters = inside ++ ']' :: rest ∧
      ∀ more kept, inside.length < more → kept <+: rest →
        readItems element more (inside ++ ']' :: kept) = .ok (items, kept) := by
  induction bound generalizing characters items with
  | zero => cases reading
  | succ bound inductive_step =>
    rw [readItems] at reading
    obtain ⟨⟨item, behind⟩, first, reading⟩ := exists_of_bind_eq_ok reading
    simp only at reading
    split at reading
    · cases reading
    · next closing =>
      cases reading
      obtain ⟨start, rfl, again⟩ := reads _ _ _ first
      obtain ⟨blanks, rfl, skips⟩ := exists_of_skipSpacing closing
      refine ⟨start ++ blanks, by rw [List.append_assoc], fun more kept enough cut => ?_⟩
      have bracket : ']' :: kept <+: ']' :: rest := (List.prefix_cons_inj _).mpr cut
      obtain ⟨fewer, rfl⟩ := Nat.exists_eq_add_of_lt (Nat.zero_lt_of_lt enough)
      rw [List.append_assoc, readItems,
        again _ ((List.prefix_append_right_inj blanks).mpr bracket), ok_bind]
      simp only [skips _ bracket]
      rfl
    · next after comma =>
      obtain ⟨visible, spaced⟩ : ∃ visible, skipSpacing after = visible := ⟨_, rfl⟩
      rw [spaced] at reading
      split at reading
      · cases reading
      · cases reading
      · next nonempty unclosed =>
        obtain ⟨⟨others, last⟩, further, ending⟩ := exists_of_bind_eq_ok reading
        cases ending
        obtain ⟨start, rfl, again⟩ := reads _ _ _ first
        obtain ⟨blanks, rfl, skips⟩ := exists_of_skipSpacing comma
        obtain ⟨gaps, rfl, skips_on⟩ := exists_of_skipSpacing spaced
        obtain ⟨inside, rfl, onward⟩ := inductive_step further
        refine ⟨start ++ (blanks ++ ',' :: (gaps ++ inside)), by simp,
          fun more kept enough cut => ?_⟩
        have bracket : inside ++ ']' :: kept <+: inside ++ ']' :: last := by simpa using cut
        obtain ⟨fewer, rfl⟩ := Nat.exists_eq_add_of_lt (Nat.zero_lt_of_lt enough)
        have room : inside.length < fewer := by
          simp only [List.length_append, List.length_cons] at enough
          omega
        have shape : start ++ (blanks ++ ',' :: (gaps ++ inside)) ++ ']' :: kept =
            start ++ (blanks ++ ',' :: (gaps ++ (inside ++ ']' :: kept))) := by simp
        have first := again (blanks ++ ',' :: (gaps ++ (inside ++ ']' :: kept)))
          (by simpa using cut)
        have comma := skips (',' :: (gaps ++ (inside ++ ']' :: kept))) (by simpa using cut)
        rw [shape, Nat.zero_add, readItems_further first comma (skips_on _ bracket) (by simp)
          (fun others same => ?_), onward fewer kept room cut]
        · rfl
        · -- What is kept starts as the text did, and that was no bracket.
          obtain ⟨behind, closed⟩ := eq_cons_of_cut bracket same
          exact unclosed behind closed
    · cases reading

theorem exists_of_readArray {characters rest : List Char} {value : Json}
    (reading : readArray element characters = .ok (value, rest)) :
    ∃ inside, characters = inside ++ ']' :: rest ∧ ∀ kept, kept <+: rest →
      readArray element (inside ++ ']' :: kept) = .ok (value, kept) := by
  obtain ⟨visible, spaced⟩ : ∃ visible, skipSpacing characters = visible := ⟨_, rfl⟩
  rw [readArray, spaced] at reading
  split at reading
  · cases reading
  · cases reading
    obtain ⟨blanks, rfl, skips⟩ := exists_of_skipSpacing spaced
    refine ⟨blanks, rfl, fun kept cut => ?_⟩
    rw [readArray, skips _ ((List.prefix_cons_inj _).mpr cut)]
    rfl
  · next nonempty unclosed =>
    obtain ⟨⟨items, last⟩, found, ending⟩ := exists_of_bind_eq_ok reading
    cases ending
    obtain ⟨blanks, rfl, skips⟩ := exists_of_skipSpacing spaced
    obtain ⟨inside, rfl, again⟩ := exists_of_readItems reads found
    refine ⟨blanks ++ inside, by simp, fun kept cut => ?_⟩
    have bracket : inside ++ ']' :: kept <+: inside ++ ']' :: rest := by simpa using cut
    have enough : inside.length < (inside ++ ']' :: kept).length := by simp
    rw [List.append_assoc, readArray, skips _ bracket]
    split
    · next empty => simp at empty
    · next same =>
      obtain ⟨behind, closed⟩ := eq_cons_of_cut bracket same
      exact absurd closed (unclosed behind)
    · rw [again _ kept enough cut]
      rfl

theorem local_readMember : Local (readMember element) := by
  intro characters entry rest reading
  rw [readMember] at reading
  obtain ⟨⟨key, behind⟩, first, reading⟩ := exists_of_bind_eq_ok reading
  simp only at reading
  split at reading
  · cases reading
  · next after colon =>
    obtain ⟨⟨value, last⟩, found, ending⟩ := exists_of_bind_eq_ok reading
    cases ending
    obtain ⟨start, rfl, again⟩ := local_readString _ _ _ first
    obtain ⟨blanks, rfl, skips⟩ := exists_of_skipSpacing colon
    obtain ⟨taken, rfl, further⟩ := reads _ _ _ found
    refine ⟨start ++ (blanks ++ ':' :: taken), by simp, fun kept cut => ?_⟩
    have shape : start ++ (blanks ++ ':' :: taken) ++ kept =
        start ++ (blanks ++ ':' :: (taken ++ kept)) := by simp
    rw [shape, readMember, again _ (by simpa using cut), ok_bind]
    simp only [skips (':' :: (taken ++ kept)) (by simpa using cut)]
    rw [further kept cut]
    rfl
  · cases reading

/-- Members end with a brace, whatever is kept behind it. -/
theorem exists_of_readEntries {bound : Nat} {earlier entries : Keyed Json}
    {characters rest : List Char}
    (reading : readEntries element bound earlier characters = .ok (entries, rest)) :
    ∃ inside, characters = inside ++ '\x7d' :: rest ∧
      ∀ more kept, inside.length < more → kept <+: rest →
        readEntries element more earlier (inside ++ '\x7d' :: kept) = .ok (entries, kept) := by
  induction bound generalizing characters earlier with
  | zero => cases reading
  | succ bound inductive_step =>
    rw [readEntries] at reading
    obtain ⟨⟨⟨key, value⟩, behind⟩, first, reading⟩ := exists_of_bind_eq_ok reading
    simp only at reading
    split at reading
    · cases reading
    · next closing =>
      cases reading
      obtain ⟨start, rfl, again⟩ := local_readMember reads _ _ _ first
      obtain ⟨blanks, rfl, skips⟩ := exists_of_skipSpacing closing
      refine ⟨start ++ blanks, by rw [List.append_assoc], fun more kept enough cut => ?_⟩
      have brace : '\x7d' :: kept <+: '\x7d' :: rest := (List.prefix_cons_inj _).mpr cut
      obtain ⟨fewer, rfl⟩ := Nat.exists_eq_add_of_lt (Nat.zero_lt_of_lt enough)
      rw [List.append_assoc, readEntries,
        again _ ((List.prefix_append_right_inj blanks).mpr brace), ok_bind]
      simp only [skips _ brace]
      rfl
    · next after comma =>
      obtain ⟨visible, spaced⟩ : ∃ visible, skipSpacing after = visible := ⟨_, rfl⟩
      rw [spaced] at reading
      split at reading
      · cases reading
      · next others =>
        obtain ⟨inside, rfl, onward⟩ := inductive_step reading
        obtain ⟨start, rfl, again⟩ := local_readMember reads _ _ _ first
        obtain ⟨blanks, rfl, skips⟩ := exists_of_skipSpacing comma
        obtain ⟨gaps, rfl, skips_on⟩ := exists_of_skipSpacing spaced
        refine ⟨start ++ (blanks ++ ',' :: (gaps ++ '"' :: inside)), by simp,
          fun more kept enough cut => ?_⟩
        have shape : start ++ (blanks ++ ',' :: (gaps ++ '"' :: inside)) ++ '\x7d' :: kept =
            start ++ (blanks ++ ',' :: (gaps ++ '"' :: (inside ++ '\x7d' :: kept))) := by simp
        obtain ⟨fewer, rfl⟩ := Nat.exists_eq_add_of_lt (Nat.zero_lt_of_lt enough)
        have room : inside.length < fewer := by
          simp only [List.length_append, List.length_cons] at enough
          omega
        rw [shape, Nat.zero_add, readEntries, again _ (by simpa using cut), ok_bind]
        simp only [skips (',' :: (gaps ++ '"' :: (inside ++ '\x7d' :: kept))) (by simpa using cut),
          skips_on ('"' :: (inside ++ '\x7d' :: kept)) (by simpa using cut)]
        exact onward fewer kept room cut
      · cases reading
      · cases reading
    · cases reading

/-- An object ends with a brace, whatever is kept behind it. -/
theorem exists_of_readObject {characters rest : List Char} {value : Json}
    (reading : readObject element characters = .ok (value, rest)) :
    ∃ inside, characters = inside ++ '\x7d' :: rest ∧ ∀ kept, kept <+: rest →
      readObject element (inside ++ '\x7d' :: kept) = .ok (value, kept) := by
  obtain ⟨visible, spaced⟩ : ∃ visible, skipSpacing characters = visible := ⟨_, rfl⟩
  rw [readObject, spaced] at reading
  split at reading
  · cases reading
  · cases reading
    obtain ⟨blanks, rfl, skips⟩ := exists_of_skipSpacing spaced
    refine ⟨blanks, rfl, fun kept cut => ?_⟩
    rw [readObject, skips _ ((List.prefix_cons_inj _).mpr cut)]
    rfl
  · next after =>
    obtain ⟨⟨entries, last⟩, found, ending⟩ := exists_of_bind_eq_ok reading
    cases ending
    obtain ⟨blanks, rfl, skips⟩ := exists_of_skipSpacing spaced
    obtain ⟨inside, rfl, again⟩ := exists_of_readEntries reads found
    refine ⟨blanks ++ '"' :: inside, by simp, fun kept cut => ?_⟩
    have enough : inside.length < (inside ++ '\x7d' :: kept).length + 1 := by
      simp only [List.length_append]
      omega
    have shape : blanks ++ '"' :: inside ++ '\x7d' :: kept =
        blanks ++ '"' :: (inside ++ '\x7d' :: kept) := by simp
    rw [shape, readObject, skips ('"' :: (inside ++ '\x7d' :: kept)) (by simpa using cut)]
    simp only [again _ kept enough cut]
    rfl
  · cases reading

end

/-! ### Values -/

/-- A value, from its first character on. -/
theorem local_readValue_cons {budget : Nat} {character : Char}
    (visible : isSpacing character = false) (inner : ∀ fewer < budget, Local (readValue fewer)) :
    Local fun rest => readValue budget (character :: rest) := by
  by_cases bracket : character = '['
  · subst bracket
    cases budget with
    | zero => exact .of_refusing fun rest answer reading => by cases reading
    | succ budget =>
      simp only [readValue_array]
      intro characters value rest reading
      obtain ⟨inside, rfl, again⟩ := exists_of_readArray (inner budget (Nat.lt_succ_self _)) reading
      refine ⟨inside ++ [']'], by simp, fun kept cut => ?_⟩
      rw [List.append_assoc, List.singleton_append]
      exact again kept cut
  · by_cases brace : character = '\x7b'
    · subst brace
      cases budget with
      | zero => exact .of_refusing fun rest answer reading => by cases reading
      | succ budget =>
        simp only [readValue_object]
        intro characters value rest reading
        obtain ⟨inside, rfl, again⟩ :=
          exists_of_readObject (inner budget (Nat.lt_succ_self _)) reading
        refine ⟨inside ++ ['\x7d'], by simp, fun kept cut => ?_⟩
        rw [List.append_assoc, List.singleton_append]
        exact again kept cut
    · simp only [readValue_scalar visible bracket brace]
      exact local_readScalar character

theorem readValue_of_skipSpacing {budget : Nat} {characters visible : List Char}
    (spaced : skipSpacing characters = visible) :
    readValue budget characters = readValue budget visible := by
  subst spaced
  have again : skipSpacing (skipSpacing characters) = skipSpacing characters :=
    dropWhile_of_cut (List.prefix_refl _)
  cases budget <;> rw [readValue, readValue, again]

/-- **A value is the same whatever is kept behind it.** -/
theorem local_readValue (budget : Nat) : Local (readValue budget) := by
  induction budget using Nat.strong_induction_on with
  | _ budget inductive_step =>
    intro characters value rest reading
    obtain ⟨visible, spaced⟩ : ∃ visible, skipSpacing characters = visible := ⟨_, rfl⟩
    rw [readValue_of_skipSpacing spaced] at reading
    cases visible with
    | nil => cases budget <;> cases reading
    | cons character others =>
      have plain : isSpacing character = false := eq_false_of_dropWhile spaced
      obtain ⟨taken, rfl, again⟩ := local_readValue_cons plain inductive_step _ _ _ reading
      obtain ⟨blanks, rfl, skips⟩ := exists_of_skipSpacing spaced
      refine ⟨blanks ++ character :: taken, by simp, fun kept cut => ?_⟩
      rw [List.append_assoc, readValue_of_skipSpacing (skips _ (by simpa using cut))]
      exact again kept cut

/-! ### Whole texts -/

/-- Only a brace starts an object. -/
theorem eq_brace_of_readValue {budget : Nat} {character : Char} {others rest : List Char}
    {entries : Keyed Json} (visible : isSpacing character = false)
    (reading : readValue budget (character :: others) = .ok (.object entries, rest)) :
    character = '\x7b' ∧ ∃ fewer, budget = fewer + 1 := by
  by_cases brace : character = '\x7b'
  · subst brace
    cases budget with
    | zero => cases reading
    | succ budget => exact ⟨rfl, budget, rfl⟩
  · exfalso
    by_cases bracket : character = '['
    · subst bracket
      cases budget with
      | zero => cases reading
      | succ budget =>
        rw [readValue_array, readArray] at reading
        split at reading
        · cases reading
        · cases reading
        · obtain ⟨_, _, ending⟩ := exists_of_bind_eq_ok reading
          cases ending
    · rw [readValue_scalar visible bracket brace] at reading
      have flat : Fits 0 (.object entries) := fits_of_readScalar reading
      exact absurd flat.2 (Nat.not_succ_le_zero _)

/-- **A text with an object**, without the blanks around it. -/
theorem exists_of_readWhole {budget : Nat} {characters : List Char} {entries : Keyed Json}
    (reading : readWhole budget characters = .ok (.object entries)) :
    ∃ blanks inside after, characters = blanks ++ '\x7b' :: (inside ++ '\x7d' :: after) ∧
      (∀ blank ∈ blanks ++ after, isSpacing blank = true) ∧
      readWhole budget ('\x7b' :: (inside ++ ['\x7d'])) = .ok (.object entries) := by
  rw [readWhole] at reading
  obtain ⟨⟨value, rest⟩, first, reading⟩ := exists_of_bind_eq_ok reading
  simp only at reading
  split at reading
  · next ended =>
    cases reading
    obtain ⟨visible, spaced⟩ : ∃ visible, skipSpacing characters = visible := ⟨_, rfl⟩
    rw [readValue_of_skipSpacing spaced] at first
    cases visible with
    | nil => cases budget <;> cases first
    | cons character others =>
      obtain ⟨rfl, fewer, rfl⟩ := eq_brace_of_readValue (eq_false_of_dropWhile spaced) first
      rw [readValue_object] at first
      obtain ⟨inside, rfl, again⟩ := exists_of_readObject (local_readValue fewer) first
      refine ⟨characters.takeWhile isSpacing, inside, rest, ?_, ?_, ?_⟩
      · rw [← spaced, skipSpacing, List.takeWhile_append_dropWhile]
      · intro blank member
        rcases List.mem_append.mp member with before | behind
        · exact List.mem_takeWhile_imp before
        · exact List.dropWhile_eq_nil_iff.mp ended blank behind
      · rw [readWhole, readValue_object, again [] List.nil_prefix]
        rfl
  · cases reading

end InstanceHost.Json
