/-
**Strings and integers are read as they were written.**

A string is read back whatever characters it holds, and an integer of the range of `integerRange` is
read back as an integer, if no character follows that could belong to the numeral.

* `readCharacters_escaped`: one character of a string, escaped or not;
* `readScalar_quoted`: a whole string;
* `appendDigits_append`: digits whose value stays within the limit;
* `readScalar_integer`: an integer in front of the end of a part.
-/

import InstanceHost.Json.Reader
import InstanceHost.Json.Writer

namespace InstanceHost.Json

/-! ### Strings -/

theorem escaped_ne_nil (character : Char) : escaped character ≠ [] := by
  unfold escaped
  repeat' split
  all_goals exact List.cons_ne_nil _ _

/-- The escape of a control character is read as its number. -/
theorem codeUnit?_control : ∀ code < 32,
    codeUnit? '0' '0' (hexDigit (code / 16)) (hexDigit (code % 16)) = some code := by
  decide

theorem readEscape_control {character : Char} (control : character.toNat < 0x20)
    (rest : List Char) :
    readEscape ('u' :: '0' :: '0' :: hexDigit (character.toNat / 16) ::
      hexDigit (character.toNat % 16) :: rest) = .ok (character, rest) := by
  have unit := codeUnit?_control character.toNat control
  have size : ∀ other : Char, 0 < other.utf8Size := Char.utf8Size_pos
  have enough : ¬ byteLength ('0' :: '0' :: hexDigit (character.toNat / 16) ::
      hexDigit (character.toNat % 16) :: rest) < 4 := by
    have first := size (hexDigit (character.toNat / 16))
    have second := size (hexDigit (character.toNat % 16))
    have zero : '0'.utf8Size = 1 := by decide
    simp only [byteLength, zero]
    omega
  have plain : ¬ (0xDC00 ≤ character.toNat ∧ character.toNat ≤ 0xDFFF) := by omega
  have simple : ¬ (0xD800 ≤ character.toNat ∧ character.toNat ≤ 0xDBFF) := by omega
  have letter : shortEscape? 'u' = none := by decide
  rw [readEscape, letter]
  simp only [if_true, readCodeUnit, if_neg enough, unit]
  show readFromUnit character.toNat rest = _
  rw [readFromUnit, if_neg plain, if_neg simple, Char.ofNat_toNat]

/-- An escape, by what stands behind its backslash. -/
theorem readCharacters_escape (letters : List Char) {rest : List Char} {character : Char}
    (bound : Nat) (escape : readEscape (letters ++ rest) = .ok (character, rest)) :
    readCharacters (bound + 1) ('\\' :: (letters ++ rest)) =
      (do
        let (others, rest) ← readCharacters bound rest
        return (character :: others, rest)) := by
  rw [readCharacters, if_neg (by decide), if_pos rfl, escape]
  rfl

/-- **One character of a string**, escaped or not. -/
theorem readCharacters_escaped (character : Char) (bound : Nat) (rest : List Char) :
    readCharacters (bound + 1) (escaped character ++ rest) =
      (do
        let (others, rest) ← readCharacters bound rest
        return (character :: others, rest)) := by
  unfold escaped
  split
  · next same => exact same ▸ readCharacters_escape ['"'] bound rfl
  split
  · next same => exact same ▸ readCharacters_escape ['\\'] bound rfl
  split
  · next same => exact same ▸ readCharacters_escape ['b'] bound rfl
  split
  · next same => exact same ▸ readCharacters_escape ['t'] bound rfl
  split
  · next same => exact same ▸ readCharacters_escape ['n'] bound rfl
  split
  · next same => exact same ▸ readCharacters_escape ['f'] bound rfl
  split
  · next same => exact same ▸ readCharacters_escape ['r'] bound rfl
  split
  · next control =>
    exact readCharacters_escape ['u', '0', '0', hexDigit (character.toNat / 16),
      hexDigit (character.toNat % 16)] bound (readEscape_control control rest)
  · next mark backslash _ _ _ _ _ visible =>
    rw [List.singleton_append, readCharacters, if_neg mark, if_neg backslash, if_neg visible]

/-- **A whole string**, up to its closing mark. -/
theorem readCharacters_quoted (characters rest : List Char) (bound : Nat)
    (enough : characters.length < bound) :
    readCharacters bound (characters.flatMap escaped ++ '"' :: rest) = .ok (characters, rest) := by
  induction characters generalizing bound with
  | nil =>
    obtain ⟨bound, rfl⟩ := Nat.exists_eq_add_one.mpr (Nat.zero_lt_of_lt enough)
    rw [List.flatMap_nil, List.nil_append, readCharacters, if_pos rfl]
  | cons character others inductive_step =>
    obtain ⟨bound, rfl⟩ := Nat.exists_eq_add_one.mpr (Nat.zero_lt_of_lt enough)
    rw [List.flatMap_cons, List.append_assoc, readCharacters_escaped,
      inductive_step bound (Nat.lt_of_succ_lt_succ enough)]
    rfl

theorem length_le_flatMap_escaped (characters : List Char) :
    characters.length ≤ (characters.flatMap escaped).length := by
  induction characters with
  | nil => exact Nat.le_refl _
  | cons character others inductive_step =>
    have one : 0 < (escaped character).length := List.length_pos_iff.mpr (escaped_ne_nil character)
    rw [List.flatMap_cons, List.length_append, List.length_cons]
    omega

/-- A string behind its opening mark, as a text. -/
theorem readString_quoted (content : String) (rest : List Char) :
    readString (content.toList.flatMap escaped ++ '"' :: rest) = .ok (content, rest) := by
  have shorter := length_le_flatMap_escaped content.toList
  have enough : content.toList.length < (content.toList.flatMap escaped ++ '"' :: rest).length := by
    rw [List.length_append, List.length_cons]
    omega
  rw [readString, readCharacters_quoted _ _ _ enough]
  show Except.ok (String.ofList content.toList, rest) = _
  rw [String.ofList_toList]

theorem readScalar_quoted (content : String) (rest : List Char) :
    readScalar '"' (content.toList.flatMap escaped ++ '"' :: rest) =
      .ok (.string content, rest) := by
  simp only [readScalar, Char.reduceEq, Char.reduceIsDigit, Bool.false_eq_true, if_false, if_true,
    readString_quoted]
  rfl

/-! ### Integers -/

/-- What follows a value: the end of the text, or the end of an item or a member. -/
def Delimited : List Char → Prop
  | [] => True
  | character :: _ => character = ',' ∨ character = ']' ∨ character = '\x7d'

theorem Delimited.startsWithDigit {rest : List Char} (delimited : Delimited rest) :
    startsWithDigit rest = false := by
  cases rest with
  | nil => rfl
  | cons character others => rcases delimited with rfl | rfl | rfl <;> rfl

theorem Delimited.continues {rest : List Char} (delimited : Delimited rest) :
    continues rest = false := by
  cases rest with
  | nil => rfl
  | cons character others => rcases delimited with rfl | rfl | rfl <;> rfl

theorem le_ofDigitChars (digits : List Char) (significand : Nat) :
    significand ≤ Nat.ofDigitChars 10 digits significand := by
  induction digits generalizing significand with
  | nil => exact Nat.le_of_eq Nat.ofDigitChars_nil.symm
  | cons digit others inductive_step =>
    rw [Nat.ofDigitChars_cons]
    exact Nat.le_trans (by omega) (inductive_step _)

/-- **Digits whose value stays within the limit** are all read. -/
theorem appendDigits_append (digits : List Char) {rest : List Char} (significand count : Nat)
    (decimal : ∀ digit ∈ digits, digit.isDigit = true) (delimited : Delimited rest)
    (small : Nat.ofDigitChars 10 digits significand ≤ significandLimit) :
    appendDigits significand count (digits ++ rest) =
      (Nat.ofDigitChars 10 digits significand, count + digits.length, rest) := by
  induction digits generalizing significand count with
  | nil =>
    rw [Nat.ofDigitChars_nil]
    cases rest with
    | nil => rfl
    | cons character others =>
      have last : character.isDigit = false := delimited.startsWithDigit
      rw [List.nil_append, appendDigits, if_neg (by simp [last])]
      rfl
  | cons digit others inductive_step =>
    have next : 10 * significand + (digit.toNat - '0'.toNat) =
        significand * 10 + digitValue digit := by
      rw [Nat.mul_comm]
      rfl
    rw [Nat.ofDigitChars_cons, next] at small ⊢
    have within : significand * 10 + digitValue digit ≤ significandLimit :=
      Nat.le_trans (le_ofDigitChars others _) small
    rw [List.cons_append, appendDigits, if_pos ⟨decimal digit List.mem_cons_self, within⟩,
      inductive_step _ _ (fun other member => decimal other (List.mem_cons_of_mem _ member)) small,
      List.length_cons, Nat.add_assoc, Nat.add_comm 1]

/-- The digits of a number but zero do not start with a zero. -/
theorem toDigits_eq_cons {value : Nat} (positive : 0 < value) :
    ∃ first others, Nat.toDigits 10 value = first :: others ∧ first ≠ '0' := by
  induction value using Nat.strongRecOn with
  | ind value inductive_step =>
    by_cases single : value < 10
    · refine ⟨value.digitChar, [], Nat.toDigits_of_lt_base single, ?_⟩
      have apart : ∀ digit < 10, 0 < digit → digit.digitChar ≠ '0' := by decide
      exact apart value single positive
    · obtain ⟨first, others, digits, apart⟩ := inductive_step (value / 10) (by omega) (by omega)
      refine ⟨first, others ++ [(value % 10).digitChar], ?_, apart⟩
      rw [Nat.toDigits_of_base_le (by decide) (Nat.le_of_not_lt single), digits, List.cons_append]

/-- A numeral behind its sign. Zero has none. -/
theorem readNumber_toDigits {negative : Bool} {value : Nat} {rest : List Char}
    (delimited : Delimited rest) (nonzero : ¬ (negative = true ∧ value = 0))
    (inRange : integerRange (if negative then -value else value)) :
    readNumber negative (Nat.toDigits 10 value ++ rest) = .ok (.integer _ inRange, rest) := by
  have ends : readInteger negative value rest = .ok (.integer _ inRange, rest) := by
    rw [readInteger, delimited.continues, if_neg (by simpa using nonzero), dif_pos inRange]
  rcases Nat.eq_zero_or_pos value with rfl | positive
  · rw [Nat.toDigits_zero, List.singleton_append, readNumber, if_pos rfl,
      delimited.startsWithDigit, if_neg (by decide)]
    exact ends
  · obtain ⟨first, others, digits, apart⟩ := toDigits_eq_cons positive
    have decimal : ∀ digit ∈ first :: others, digit.isDigit = true := fun digit member =>
      Nat.isDigit_of_mem_toDigits (by decide) (by decide) (digits ▸ member)
    have total : Nat.ofDigitChars 10 others (digitValue first) = value := by
      have whole : Nat.ofDigitChars 10 (Nat.toDigits 10 value) 0 = value :=
        Nat.ofDigitChars_ten_toDigits
      rw [digits, Nat.ofDigitChars_cons, Nat.mul_zero, Nat.zero_add] at whole
      exact whole
    have small : value ≤ significandLimit := by
      unfold integerRange at inRange
      unfold significandLimit
      cases negative <;> simp at inRange <;> omega
    have reading := appendDigits_append others (digitValue first) 0
      (fun digit member => decimal digit (List.mem_cons_of_mem _ member)) delimited
      (total.symm ▸ small)
    rw [total] at reading
    rw [digits, List.cons_append, readNumber, if_neg apart,
      if_pos (decimal first List.mem_cons_self), reading]
    show (if startsWithDigit rest then _ else readInteger negative value rest) = _
    rw [delimited.startsWithDigit, if_neg (by decide)]
    exact ends

theorem ne_of_isDigit {character other : Char} (digit : character.isDigit = true)
    (plain : other.isDigit = false) : character ≠ other := by
  rintro rfl
  rw [digit] at plain
  cases plain

/-- **An integer** in front of the end of a part. -/
theorem readScalar_integer {value : Int} (inRange : integerRange value) {rest : List Char}
    (delimited : Delimited rest) :
    ∃ first others, writeInteger value = first :: others ∧
      (first = '-' ∨ first.isDigit = true) ∧
      readScalar first (others ++ rest) = .ok (.number (.integer value inRange), rest) := by
  by_cases negative : value < 0
  · obtain ⟨size, rfl⟩ : ∃ size : Nat, value = -(size : Int) := ⟨value.natAbs, by omega⟩
    have nonzero : ¬ (true = true ∧ size = 0) := by omega
    have reading := readNumber_toDigits delimited nonzero inRange
    refine ⟨'-', Nat.toDigits 10 size, ?_, Or.inl rfl, ?_⟩
    · rw [writeInteger, if_pos negative, Int.natAbs_neg, Int.natAbs_natCast]
    · simp only [readScalar, Char.reduceEq, if_false, if_true, reading]
      rfl
  · obtain ⟨size, rfl⟩ : ∃ size : Nat, value = size := ⟨value.toNat, by omega⟩
    have unsigned : ¬ (false = true ∧ size = 0) := fun both => Bool.false_ne_true both.1
    have reading := readNumber_toDigits delimited unsigned inRange
    have some_digit : Nat.toDigits 10 size ≠ [] := Nat.toDigits_ne_nil
    obtain ⟨first, others, digits⟩ := List.exists_cons_of_ne_nil some_digit
    have decimal : first.isDigit = true :=
      Nat.isDigit_of_mem_toDigits (by decide) (by decide) (digits ▸ List.mem_cons_self)
    rw [digits, List.cons_append] at reading
    refine ⟨first, others, ?_, Or.inr decimal, ?_⟩
    · rw [writeInteger, if_neg negative, Int.natAbs_natCast, digits]
    · rw [readScalar, if_neg (ne_of_isDigit decimal (by decide)),
        if_neg (ne_of_isDigit decimal (by decide)), if_neg (ne_of_isDigit decimal (by decide)),
        if_neg (ne_of_isDigit decimal (by decide)), if_pos decimal, reading]
      rfl

end InstanceHost.Json
