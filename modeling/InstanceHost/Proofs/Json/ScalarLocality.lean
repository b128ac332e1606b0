/-
**What is left behind a scalar does not matter.**

A reader answers a value with the characters behind it. Any end of these may be cut off: the reader
answers the same value, with whatever is kept. It may look at the character behind what it takes,
but whether there is one makes no difference.

* `Takes`: a reading that takes these characters, whatever is kept of the others;
* `Local`: every reading of a reader is such a reading;
* `local_pastDigits`, `local_readNumber`: numerals, which end where no digit follows;
* `local_readString`: strings;
* `local_readScalar`: values that are no containers.
-/

import Mathlib.Data.List.TakeWhile
import InstanceHost.Proofs.Json.Order

namespace InstanceHost.Json

/-! ### Readings -/

section

variable {ε α β : Type}

/-- **A reading that takes all but the rest**, whatever is kept of the rest. -/
def Takes (read : List Char → Except ε (α × List Char)) (characters : List Char) (value : α)
    (rest : List Char) : Prop :=
  ∃ taken, characters = taken ++ rest ∧
    ∀ kept, kept <+: rest → read (taken ++ kept) = .ok (value, kept)

/-- **Every reading takes all but the rest.** -/
def Local (read : List Char → Except ε (α × List Char)) : Prop :=
  ∀ characters value rest, read characters = .ok (value, rest) → Takes read characters value rest

namespace Takes

variable {read other : List Char → Except ε (α × List Char)} {characters rest : List Char}
  {value : α}

/-- A reading that takes nothing. -/
theorem nothing (answers : ∀ kept, kept <+: rest → read kept = .ok (value, kept)) :
    Takes read rest value rest :=
  ⟨[], rfl, answers⟩

/-- A reading behind a character that was taken. -/
theorem cons {character : Char}
    (behind : Takes (fun characters => read (character :: characters)) characters value rest) :
    Takes read (character :: characters) value rest := by
  obtain ⟨taken, rfl, again⟩ := behind
  exact ⟨character :: taken, rfl, again⟩

/-- The reader may be another one behind which the same was read. -/
theorem congr (takes : Takes other characters value rest)
    (same : ∀ kept, kept <+: characters → read kept = other kept) :
    Takes read characters value rest := by
  obtain ⟨taken, rfl, again⟩ := takes
  refine ⟨taken, rfl, fun kept cut => ?_⟩
  rw [same _ ((List.prefix_append_right_inj taken).mpr cut)]
  exact again kept cut

end Takes

namespace Local

variable {read : List Char → Except ε (α × List Char)}

/-- Readers may be given by the first character, if they refuse where there is none. -/
theorem of_cons (refuses : ∀ answer, read [] ≠ .ok answer)
    (behind : ∀ character, Local fun rest => read (character :: rest)) : Local read := by
  intro characters value rest reading
  cases characters with
  | nil => exact absurd reading (refuses _)
  | cons character others => exact .cons (behind character others value rest reading)

/-- A reader that answers nothing. -/
theorem of_refusing (refuses : ∀ characters answer, read characters ≠ .ok answer) : Local read :=
  fun characters _ _ reading => absurd reading (refuses characters _)

/-- A reader that takes nothing. -/
theorem pure (value : α) :
    Local fun characters => (.ok (value, characters) : Except ε (α × List Char)) := by
  intro characters other rest reading
  cases reading
  exact .nothing fun _ _ => rfl

/-- One reader behind the other. -/
theorem bind {next : α → List Char → Except ε (β × List Char)} (one : Local read)
    (two : ∀ value, Local (next value)) :
    Local fun characters => read characters >>= fun answer => next answer.1 answer.2 := by
  intro characters value rest reading
  simp only at reading
  obtain ⟨⟨found, behind⟩, first, second⟩ := exists_of_bind_eq_ok reading
  obtain ⟨start, rfl, again⟩ := one _ _ _ first
  obtain ⟨taken, rfl, further⟩ := two found _ _ _ second
  refine ⟨start ++ taken, (List.append_assoc _ _ _).symm, fun kept cut => ?_⟩
  simp only [List.append_assoc]
  rw [again _ ((List.prefix_append_right_inj taken).mpr cut)]
  exact further kept cut

end Local

end

/-! ### Runs of characters -/

section

variable {test : Char → Bool} {characters kept : List Char}

/-- The first character that is kept, if there is one, is the first one there was. -/
theorem eq_cons_of_cut {first : Char} {others : List Char} (cut : kept <+: characters)
    (shape : kept = first :: others) : ∃ behind, characters = first :: behind := by
  obtain ⟨gone, rfl⟩ := cut
  exact ⟨others ++ gone, by rw [shape, List.cons_append]⟩

/-- What holds of nothing and of whatever starts with a character holds of what is kept. -/
theorem forall_of_head {property : List Char → Prop} {first : Char} {others : List Char}
    (none : property []) (some : ∀ behind, property (first :: behind)) :
    ∀ kept, kept <+: first :: others → property kept := by
  intro kept cut
  cases kept with
  | nil => exact none
  | cons head last =>
    obtain ⟨behind, shape⟩ := eq_cons_of_cut cut rfl
    cases shape
    exact some last

theorem eq_false_of_dropWhile {first : Char} {behind : List Char}
    (shape : characters.dropWhile test = first :: behind) : test first = false := by
  have some : characters.dropWhile test ≠ [] := shape ▸ List.cons_ne_nil first behind
  have outside := List.head_dropWhile_not test some
  simpa only [shape, List.head_cons] using outside

theorem dropWhile_of_cut (cut : kept <+: characters.dropWhile test) :
    kept.dropWhile test = kept := by
  cases kept with
  | nil => rfl
  | cons first others =>
    obtain ⟨behind, shape⟩ := eq_cons_of_cut cut rfl
    rw [List.dropWhile_cons, eq_false_of_dropWhile shape]
    rfl

/-- Dropping a run leaves what is kept behind it. -/
theorem dropWhile_append (cut : kept <+: characters.dropWhile test) :
    (characters.takeWhile test ++ kept).dropWhile test = kept := by
  rw [List.dropWhile_append_of_pos fun _ member => List.mem_takeWhile_imp member]
  exact dropWhile_of_cut cut

theorem takeWhile_append (cut : kept <+: characters.dropWhile test) :
    (characters.takeWhile test ++ kept).takeWhile test = characters.takeWhile test := by
  have split := List.takeWhile_append_dropWhile (p := test)
    (l := characters.takeWhile test ++ kept)
  rw [dropWhile_append cut] at split
  exact List.append_cancel_right split

end

/-! ### Numerals -/

section

variable {α : Type}

theorem startsWithDigit_of_cut {characters kept : List Char} (cut : kept <+: characters)
    (other : startsWithDigit characters = false) : startsWithDigit kept = false := by
  cases kept with
  | nil => rfl
  | cons first others =>
    obtain ⟨behind, rfl⟩ := eq_cons_of_cut cut rfl
    exact other

theorem continues_of_cut {characters kept : List Char} (cut : kept <+: characters)
    (other : continues characters = false) : continues kept = false := by
  cases kept with
  | nil => rfl
  | cons first others =>
    obtain ⟨behind, rfl⟩ := eq_cons_of_cut cut rfl
    exact other

/-- Readers that may first drop a run of digits. -/
theorem local_pastDigits {more : Nat → List Char → Except Fault (α × List Char)}
    {other : List Char → Except Fault (α × List Char)} (one : ∀ count, Local (more count))
    (two : Local other) :
    Local fun characters =>
      if startsWithDigit characters then
        more (characters.takeWhile Char.isDigit).length (characters.dropWhile Char.isDigit)
      else other characters := by
  intro characters value rest reading
  simp only at reading
  cases starts : startsWithDigit characters with
  | false =>
    rw [starts] at reading
    refine (two _ _ _ reading).congr fun kept cut => ?_
    rw [startsWithDigit_of_cut cut starts]
    rfl
  | true =>
    rw [starts] at reading
    obtain ⟨taken, shape, again⟩ := one _ _ _ _ reading
    -- The run is taken as a whole, so the other reader starts behind it again.
    refine ⟨characters.takeWhile Char.isDigit ++ taken, ?_, fun kept cut => ?_⟩
    · rw [List.append_assoc, ← shape, List.takeWhile_append_dropWhile]
    · have behind : taken ++ kept <+: characters.dropWhile Char.isDigit :=
        shape ▸ (List.prefix_append_right_inj taken).mpr cut
      have still :
          startsWithDigit (characters.takeWhile Char.isDigit ++ (taken ++ kept)) = true := by
        cases characters with
        | nil => cases starts
        | cons first others =>
          have digit : first.isDigit = true := starts
          rw [List.takeWhile_cons_of_pos digit]
          exact digit
      simp only [List.append_assoc]
      rw [if_pos still, takeWhile_append behind, dropWhile_append behind]
      exact again kept cut

theorem local_appendDigits (significand count : Nat) :
    Local fun characters =>
      let (longer, total, rest) := appendDigits significand count characters
      (.ok ((longer, total), rest) : Except Fault ((Nat × Nat) × List Char)) := by
  intro characters value rest reading
  induction characters generalizing significand count with
  | nil =>
    cases reading
    refine .nothing fun kept cut => ?_
    rw [List.prefix_nil.mp cut]
    rfl
  | cons character others inductive_step =>
    by_cases further : character.isDigit ∧
        significand * 10 + digitValue character ≤ significandLimit
    · simp only [appendDigits, if_pos further] at reading
      refine .cons ?_
      simp only [appendDigits, if_pos further]
      exact inductive_step _ _ reading
    · simp only [appendDigits, if_neg further] at reading
      cases reading
      refine .nothing (forall_of_head rfl fun behind => ?_)
      simp only [appendDigits, if_neg further]

theorem local_close (numeral : Numeral) : Local numeral.close := by
  intro characters value rest reading
  unfold Numeral.close at reading
  split at reading
  · next number scaled =>
    cases reading
    refine .nothing fun kept _ => ?_
    simp only [Numeral.close, scaled]
  · cases reading

theorem local_appendExponent (exponent : Nat) : Local (appendExponent exponent) := by
  intro characters value rest reading
  induction characters generalizing exponent with
  | nil =>
    cases reading
    refine .nothing fun kept cut => ?_
    rw [List.prefix_nil.mp cut]
    rfl
  | cons character others inductive_step =>
    rw [appendExponent] at reading
    split at reading
    · next digit =>
      simp only at reading
      split at reading
      · next small =>
        refine .cons ?_
        simp only [appendExponent, if_pos digit, if_pos small]
        exact inductive_step _ reading
      · cases reading
    · next other =>
      cases reading
      refine .nothing (forall_of_head rfl fun behind => ?_)
      rw [appendExponent, if_neg other]

/-- An exponent beyond its limit is beyond it whatever follows. -/
theorem exists_of_appendExponent {exponent : Nat} {characters rest : List Char}
    (beyond : appendExponent exponent characters = .error rest) :
    ∃ taken, characters = taken ++ rest ∧
      ∀ kept, appendExponent exponent (taken ++ kept) = .error kept := by
  induction characters generalizing exponent with
  | nil => cases beyond
  | cons character others inductive_step =>
    rw [appendExponent] at beyond
    split at beyond
    · next digit =>
      simp only at beyond
      split at beyond
      · next small =>
        obtain ⟨taken, rfl, again⟩ := inductive_step beyond
        refine ⟨character :: taken, rfl, fun kept => ?_⟩
        rw [List.cons_append, appendExponent, if_pos digit]
        simp only [if_pos small]
        exact again kept
      · next large =>
        cases beyond
        refine ⟨[character], rfl, fun kept => ?_⟩
        rw [List.singleton_append, appendExponent, if_pos digit]
        simp only [if_neg large]
    · cases beyond

theorem local_readExponentDigits (numeral : Numeral) (downward : Bool) :
    Local (readExponentDigits numeral downward) := by
  refine .of_cons (fun answer reading => by cases reading) fun character => ?_
  intro characters value rest reading
  simp only [readExponentDigits] at reading
  split at reading
  · next digit =>
    split at reading
    · next exponent behind appended =>
      obtain ⟨start, rfl, again⟩ := local_appendExponent _ _ _ _ appended
      obtain ⟨taken, rfl, further⟩ := local_close _ _ _ _ reading
      refine ⟨start ++ taken, (List.append_assoc _ _ _).symm, fun kept cut => ?_⟩
      simp only [readExponentDigits, if_pos digit, List.append_assoc]
      rw [again _ ((List.prefix_append_right_inj taken).mpr cut)]
      exact further kept cut
    · next behind appended =>
      obtain ⟨start, rfl, again⟩ := exists_of_appendExponent appended
      split at reading
      · cases reading
      · next small =>
        cases reading
        -- The digits behind the limit do not count, but they are taken.
        refine ⟨start ++ behind.takeWhile Char.isDigit, ?_, fun kept cut => ?_⟩
        · rw [List.append_assoc, List.takeWhile_append_dropWhile]
        · simp only [readExponentDigits, if_pos digit, List.append_assoc]
          rw [again]
          simp only [if_neg small, dropWhile_append cut]
  · cases reading

theorem local_readExponent (numeral : Numeral) : Local (readExponent numeral) := by
  intro characters value rest reading
  cases characters with
  | nil => cases reading
  | cons character others =>
    by_cases plus : character = '+'
    · subst plus
      exact .cons (local_readExponentDigits numeral false _ _ _ reading)
    · by_cases minus : character = '-'
      · subst minus
        exact .cons (local_readExponentDigits numeral true _ _ _ reading)
      · have unsigned : ∀ others, readExponent numeral (character :: others) =
            readExponentDigits numeral false (character :: others) := by
          intro others
          simp [readExponent, readExponentSign, plus, minus]
        rw [unsigned] at reading
        exact (local_readExponentDigits numeral false _ _ _ reading).congr
          (forall_of_head rfl unsigned)

theorem readAfterFraction_of_ne {numeral : Numeral} {characters : List Char}
    (small : ∀ others, characters ≠ 'e' :: others) (large : ∀ others, characters ≠ 'E' :: others) :
    readAfterFraction numeral characters = numeral.close characters := by
  unfold readAfterFraction
  split
  · exact absurd rfl (small _)
  · exact absurd rfl (large _)
  · rfl

theorem local_readAfterFraction (numeral : Numeral) : Local (readAfterFraction numeral) := by
  intro characters value rest reading
  unfold readAfterFraction at reading
  split at reading
  · exact .cons (local_readExponent numeral _ _ _ reading)
  · exact .cons (local_readExponent numeral _ _ _ reading)
  · next small large =>
    refine (local_close numeral _ _ _ reading).congr fun kept cut => ?_
    refine readAfterFraction_of_ne (fun others shape => ?_) fun others shape => ?_
    · obtain ⟨behind, same⟩ := eq_cons_of_cut cut shape
      exact small behind same
    · obtain ⟨behind, same⟩ := eq_cons_of_cut cut shape
      exact large behind same

/-- What follows the point and the digits behind it, given the significand and the count of these
digits. -/
def readBehindPoint (numeral : Numeral) (found : Nat × Nat) (rest : List Char) :
    Except Fault (Binary64 × List Char) :=
  let longer := { numeral with significand := found.1, power := numeral.power - found.2 }
  if startsWithDigit rest then readAfterFraction longer (rest.dropWhile Char.isDigit)
  else if found.2 = 0 then
    match rest with
    | [] => .error (.before .endInValue [])
    | character :: rest => .error (.within .invalidNumber (character :: rest) 1)
  else readAfterFraction longer rest

theorem local_readBehindPoint (numeral : Numeral) (found : Nat × Nat) :
    Local (readBehindPoint numeral found) := by
  refine local_pastDigits (fun _ => local_readAfterFraction _) ?_
  intro characters value rest reading
  simp only at reading
  split at reading
  · split at reading <;> cases reading
  · next some =>
    refine (local_readAfterFraction _ _ _ _ reading).congr fun kept _ => ?_
    rw [if_neg some]

theorem local_readFraction (numeral : Numeral) : Local (readFraction numeral) :=
  (local_appendDigits numeral.significand 0).bind (local_readBehindPoint numeral)

theorem local_readAfterInteger (numeral : Numeral) : Local (readAfterInteger numeral) := by
  intro characters value rest reading
  unfold readAfterInteger at reading
  split at reading
  · exact .cons (local_readFraction numeral _ _ _ reading)
  · next other =>
    refine (local_readAfterFraction numeral _ _ _ reading).congr fun kept cut => ?_
    unfold readAfterInteger
    split
    · next behind =>
      obtain ⟨others, same⟩ := eq_cons_of_cut cut rfl
      exact absurd same (other others)
    · rfl

theorem local_withBinary {read : List Char → Except Fault (Binary64 × List Char)}
    (reads : Local read) : Local fun characters => withBinary (read characters) := by
  intro characters value rest reading
  simp only at reading
  cases found : read characters with
  | error fault =>
    rw [found] at reading
    cases reading
  | ok answer =>
    obtain ⟨number, behind⟩ := answer
    rw [found] at reading
    cases reading
    obtain ⟨taken, rfl, again⟩ := reads _ _ _ found
    refine ⟨taken, rfl, fun kept cut => ?_⟩
    simp only [again kept cut, withBinary]

/-- A fraction or an exponent behind its mark. -/
theorem local_behindMark (numeral : Numeral) {mark : Char} (continuing : continues [mark] = true) :
    Local fun rest => readAfterInteger numeral (mark :: rest) := by
  simp only [continues, Bool.or_eq_true, beq_iff_eq] at continuing
  rcases continuing with (rfl | rfl) | rfl
  · exact local_readFraction numeral
  · exact local_readExponent numeral
  · exact local_readExponent numeral

theorem local_readInteger (negative : Bool) (significand : Nat) :
    Local (readInteger negative significand) := by
  intro characters value rest reading
  -- Minus zero is no integer whatever follows. Otherwise a mark decides, which is taken if there is
  -- one; where there is none, nothing is taken, and none is there in front of what is kept.
  by_cases zero : negative = true ∧ significand = 0
  · have always : ∀ kept, readInteger negative significand kept =
        withBinary (readAfterInteger ⟨negative, significand, 0⟩ kept) := by
      intro kept
      simp only [readInteger]
      rw [if_pos (Or.inr zero)]
    rw [always] at reading
    exact (local_withBinary (local_readAfterInteger _) _ _ _ reading).congr fun kept _ =>
      always kept
  · cases onward : continues characters with
    | false =>
      have ends : ∀ kept, kept <+: characters →
          ¬ (continues kept = true ∨ negative = true ∧ significand = 0) := by
        rintro kept cut (onwards | zeroes)
        · rw [continues_of_cut cut onward] at onwards
          cases onwards
        · exact zero zeroes
      simp only [readInteger] at reading
      rw [if_neg (ends _ (List.prefix_refl _))] at reading
      by_cases inRange : integerRange (if negative then -significand else significand)
      · rw [dif_pos inRange] at reading
        cases reading
        refine .nothing fun kept cut => ?_
        simp only [readInteger]
        rw [if_neg (ends _ cut), dif_pos inRange]
      · rw [dif_neg inRange] at reading
        refine (local_withBinary (local_close _) _ _ _ reading).congr fun kept cut => ?_
        simp only [readInteger]
        rw [if_neg (ends _ cut), dif_neg inRange]
    | true =>
      cases characters with
      | nil => cases onward
      | cons mark others =>
        have marked : ∀ kept, readInteger negative significand (mark :: kept) =
            withBinary (readAfterInteger ⟨negative, significand, 0⟩ (mark :: kept)) := by
          intro kept
          have continuing : continues (mark :: kept) = true := onward
          simp only [readInteger]
          rw [if_pos (Or.inl continuing)]
        rw [marked] at reading
        refine .cons ?_
        exact (local_withBinary (local_behindMark _ onward) _ _ _ reading).congr fun kept _ =>
          marked kept

/-- A numeral from its first character on. -/
theorem local_readNumber_cons (negative : Bool) (character : Char) :
    Local fun rest => readNumber negative (character :: rest) := by
  by_cases zero : character = '0'
  · subst zero
    intro characters value rest reading
    simp only [readNumber, if_true] at reading
    split at reading
    · cases reading
    · next other =>
      simp only [Bool.not_eq_true] at other
      refine (local_readInteger negative 0 _ _ _ reading).congr fun kept cut => ?_
      simp only [readNumber, if_true]
      rw [startsWithDigit_of_cut cut other]
      rfl
  · by_cases digit : character.isDigit = true
    · have larger : ∀ found count : Nat, Local fun rest =>
          withBinary (readAfterInteger ⟨negative, found, count⟩ rest) := fun found count =>
        local_withBinary (local_readAfterInteger _)
      have behind : ∀ found : Nat × Nat, Local fun rest =>
          if startsWithDigit rest then
            withBinary (readAfterInteger
              ⟨negative, found.1, (rest.takeWhile Char.isDigit).length⟩
              (rest.dropWhile Char.isDigit))
          else readInteger negative found.1 rest := fun found =>
        local_pastDigits (larger found.1) (local_readInteger negative found.1)
      simp only [readNumber, if_neg zero, if_pos digit]
      exact (local_appendDigits _ 0).bind behind
    · refine .of_refusing fun others answer reading => ?_
      simp only [readNumber, if_neg zero, if_neg digit] at reading
      cases reading

theorem local_readNumber (negative : Bool) : Local (readNumber negative) :=
  .of_cons (fun answer reading => by cases reading) (local_readNumber_cons negative)

end

/-! ### Strings -/

theorem local_readCodeUnit : Local readCodeUnit := by
  intro characters value rest reading
  unfold readCodeUnit at reading
  split at reading
  · cases reading
  · split at reading
    · next first second third fourth behind _ =>
      split at reading
      · next unit digits =>
        cases reading
        refine ⟨[first, second, third, fourth], rfl, fun kept _ => ?_⟩
        have long : ¬ byteLength (first :: second :: third :: fourth :: kept) < 4 := by
          have size : ∀ other : Char, 0 < other.utf8Size := Char.utf8Size_pos
          have sizes := And.intro (And.intro (size first) (size second))
            (And.intro (size third) (size fourth))
          simp only [byteLength]
          omega
        show readCodeUnit (first :: second :: third :: fourth :: kept) = _
        rw [readCodeUnit, if_neg long]
        simp only [digits]
      · cases reading
    · cases reading

theorem eq_cons_of_expectEscape {expected : Char} {characters rest : List Char}
    (reading : expectEscape expected characters = .ok rest) : characters = expected :: rest := by
  unfold expectEscape at reading
  split at reading
  · cases reading
  · split at reading
    · next same =>
      cases reading
      rw [same]
    · cases reading

theorem expectEscape_cons (expected : Char) (rest : List Char) :
    expectEscape expected (expected :: rest) = .ok rest :=
  if_pos rfl

theorem local_readFromUnit (unit : Nat) : Local (readFromUnit unit) := by
  intro characters value rest reading
  unfold readFromUnit at reading
  split at reading
  · cases reading
  · next leading =>
    split at reading
    · next surrogate =>
      obtain ⟨letter, backslash, reading⟩ := exists_of_bind_eq_ok reading
      obtain ⟨digits, mark, reading⟩ := exists_of_bind_eq_ok reading
      obtain ⟨⟨trailing, behind⟩, second, reading⟩ := exists_of_bind_eq_ok reading
      simp only at reading
      split at reading
      · next paired =>
        obtain ⟨rfl, rfl⟩ := Prod.mk.inj (Except.ok.inj reading)
        cases eq_cons_of_expectEscape backslash
        cases eq_cons_of_expectEscape mark
        obtain ⟨taken, rfl, again⟩ := local_readCodeUnit _ _ _ second
        refine ⟨'\\' :: 'u' :: taken, rfl, fun kept cut => ?_⟩
        rw [readFromUnit, if_neg leading, if_pos surrogate, List.cons_append, expectEscape_cons,
          ok_bind, List.cons_append, expectEscape_cons, ok_bind, again kept cut, ok_bind]
        simp only [if_pos paired]
        rfl
      · cases reading
    · next plain =>
      cases reading
      refine .nothing fun kept _ => ?_
      rw [readFromUnit, if_neg leading, if_neg plain]

theorem local_readEscape : Local readEscape := by
  refine .of_cons (fun answer reading => by cases reading) fun letter => ?_
  simp only [readEscape]
  cases shortEscape? letter with
  | some character => exact .pure character
  | none =>
    by_cases unicode : letter = 'u'
    · simp only [if_pos unicode]
      exact local_readCodeUnit.bind local_readFromUnit
    · refine .of_refusing fun rest answer reading => ?_
      simp only [if_neg unicode] at reading
      cases reading

/-- The bound does not matter either, if it is no less than the number of characters taken. -/
theorem exists_of_readCharacters {bound : Nat} {characters content rest : List Char}
    (reading : readCharacters bound characters = .ok (content, rest)) :
    ∃ taken, characters = taken ++ rest ∧ ∀ more kept, taken.length ≤ more → kept <+: rest →
      readCharacters more (taken ++ kept) = .ok (content, kept) := by
  induction bound generalizing characters content with
  | zero => cases characters <;> cases reading
  | succ bound inductive_step =>
    cases characters with
    | nil => cases reading
    | cons character behind =>
      rw [readCharacters] at reading
      split at reading
      · next closing =>
        cases reading
        refine ⟨[character], rfl, fun more kept enough _ => ?_⟩
        obtain ⟨fewer, rfl⟩ := Nat.exists_eq_add_of_le' enough
        rw [List.singleton_append, List.length_singleton, readCharacters, if_pos closing]
      · next inside =>
        split at reading
        · next escape =>
          obtain ⟨⟨escaped, after⟩, first, reading⟩ := exists_of_bind_eq_ok reading
          obtain ⟨⟨others, last⟩, further, ending⟩ := exists_of_bind_eq_ok reading
          cases ending
          obtain ⟨start, rfl, again⟩ := local_readEscape _ _ _ first
          obtain ⟨taken, rfl, onward⟩ := inductive_step further
          refine ⟨character :: (start ++ taken), by simp, fun more kept enough cut => ?_⟩
          rw [List.length_cons, List.length_append] at enough
          obtain ⟨fewer, rfl⟩ := Nat.exists_eq_add_of_le' (Nat.le_of_add_left_le enough)
          rw [List.cons_append, List.append_assoc, readCharacters, if_neg inside, if_pos escape,
            again _ ((List.prefix_append_right_inj taken).mpr cut), ok_bind]
          simp only [onward fewer kept (by omega) cut]
          rfl
        · next plain =>
          split at reading
          · cases reading
          · next visible =>
            obtain ⟨⟨others, last⟩, further, ending⟩ := exists_of_bind_eq_ok reading
            cases ending
            obtain ⟨taken, rfl, onward⟩ := inductive_step further
            refine ⟨character :: taken, rfl, fun more kept enough cut => ?_⟩
            rw [List.length_cons] at enough
            obtain ⟨fewer, rfl⟩ := Nat.exists_eq_add_of_le' (Nat.le_of_add_left_le enough)
            rw [List.cons_append, readCharacters, if_neg inside, if_neg plain, if_neg visible,
              onward fewer kept (by omega) cut]
            rfl

theorem local_readString : Local readString := by
  intro characters value rest reading
  rw [readString] at reading
  obtain ⟨⟨content, behind⟩, first, ending⟩ := exists_of_bind_eq_ok reading
  cases ending
  obtain ⟨taken, rfl, again⟩ := exists_of_readCharacters first
  refine ⟨taken, rfl, fun kept cut => ?_⟩
  have enough : taken.length ≤ (taken ++ kept).length := by
    rw [List.length_append]
    exact Nat.le_add_right _ _
  rw [readString, again _ kept enough cut]
  rfl

/-! ### Scalars -/

theorem readWord_eq_ok {word characters rest : List Char}
    (reading : readWord word characters = .ok rest) :
    characters = word ++ rest ∧ ∀ kept, readWord word (word ++ kept) = .ok kept := by
  induction word generalizing characters with
  | nil =>
    cases reading
    exact ⟨rfl, fun _ => rfl⟩
  | cons expected word inductive_step =>
    cases characters with
    | nil => cases reading
    | cons found behind =>
      rw [readWord] at reading
      split at reading
      · next same =>
        obtain ⟨shape, again⟩ := inductive_step reading
        refine ⟨by rw [same, shape, List.cons_append], fun kept => ?_⟩
        rw [List.cons_append, readWord, if_pos rfl]
        exact again kept
      · cases reading

theorem local_word (value : Json) (word : List Char) :
    Local fun rest => readWord word rest >>= fun rest => .ok (value, rest) := by
  intro characters found rest reading
  obtain ⟨behind, spelled, ending⟩ := exists_of_bind_eq_ok reading
  cases ending
  obtain ⟨rfl, again⟩ := readWord_eq_ok spelled
  refine ⟨word, rfl, fun kept _ => ?_⟩
  simp only [again]
  rfl

/-- A reader whose value becomes another one. -/
theorem Local.map {α β : Type} {read : List Char → Except Fault (α × List Char)}
    (reads : Local read) (change : α → β) :
    Local fun characters => read characters >>= fun answer =>
      (.ok (change answer.1, answer.2) : Except Fault (β × List Char)) :=
  reads.bind fun value => .pure (change value)

theorem local_readScalar (character : Char) : Local (readScalar character) := by
  unfold readScalar
  by_cases null : character = 'n'
  · simp only [if_pos null]
    exact local_word _ _
  simp only [if_neg null]
  by_cases yes : character = 't'
  · simp only [if_pos yes]
    exact local_word _ _
  simp only [if_neg yes]
  by_cases no : character = 'f'
  · simp only [if_pos no]
    exact local_word _ _
  simp only [if_neg no]
  by_cases minus : character = '-'
  · simp only [if_pos minus]
    exact (local_readNumber true).map Json.number
  simp only [if_neg minus]
  by_cases digit : character.isDigit = true
  · simp only [if_pos digit]
    exact (local_readNumber_cons false character).map Json.number
  simp only [if_neg digit]
  by_cases quote : character = '"'
  · simp only [if_pos quote]
    exact local_readString.map Json.string
  · simp only [if_neg quote]
    exact .of_refusing fun rest answer reading => by cases reading

end InstanceHost.Json
