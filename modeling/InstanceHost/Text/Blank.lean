/-
**Blank characters and trimming.**

Configuration text, option paths, extension names and log settings are read without the blank
characters around them. *Blank* is the Unicode property `White_Space`: twenty-five code points, all
in the basic plane.

* `isBlank`: the property, as a test on a code point;
* `trimStart`, `trimEnd`, `trim`: what is left without the blanks at the start, at the end, at both;
* `trim_eq_nil_iff`: nothing is left exactly when every character is blank.
-/

namespace InstanceHost.Text

/-- The Unicode property `White_Space`. -/
def isBlank (character : Char) : Bool :=
  let code := character.toNat
  (0x09 ≤ code && code ≤ 0x0D) || code == 0x20 || code == 0x85 || code == 0xA0 || code == 0x1680 ||
    (0x2000 ≤ code && code ≤ 0x200A) || code == 0x2028 || code == 0x2029 || code == 0x202F ||
    code == 0x205F || code == 0x3000

/-- The characters from the first that is not blank. -/
def trimStart (characters : List Char) : List Char :=
  characters.dropWhile isBlank

/-- The characters up to the last that is not blank. -/
def trimEnd (characters : List Char) : List Char :=
  (trimStart characters.reverse).reverse

/-- The characters without the blanks at both ends. -/
def trim (characters : List Char) : List Char :=
  trimEnd (trimStart characters)

/-- A text without the blanks at both ends. -/
def trimmed (text : String) : String :=
  String.ofList (trim text.toList)

/-- A text that holds blanks only. -/
def isBlankText (text : String) : Bool :=
  text.toList.all isBlank

/-! ### What trimming leaves -/

/-- Nothing is left at the start exactly when every character is blank. -/
theorem trimStart_eq_nil_iff (characters : List Char) :
    trimStart characters = [] ↔ ∀ character ∈ characters, isBlank character = true := by
  induction characters with
  | nil => simp [trimStart]
  | cons first rest inductive_step =>
    by_cases blank : isBlank first = true
    · have skipped : trimStart (first :: rest) = trimStart rest := by simp [trimStart, blank]
      rw [skipped, inductive_step]
      simp [blank]
    · simp [trimStart, blank]

/-- What is left at the start begins with a visible character. -/
theorem isBlank_of_trimStart_eq_cons {characters rest : List Char} {character : Char}
    (shape : trimStart characters = character :: rest) : isBlank character = false := by
  induction characters with
  | nil => simp [trimStart] at shape
  | cons first others inductive_step =>
    by_cases blank : isBlank first = true
    · rw [show trimStart (first :: others) = trimStart others by simp [trimStart, blank]] at shape
      exact inductive_step shape
    · simp only [Bool.not_eq_true] at blank
      rw [show trimStart (first :: others) = first :: others by simp [trimStart, blank]] at shape
      cases shape
      exact blank

/-- **Trimming leaves nothing exactly of blank text.** -/
theorem trim_eq_nil_iff (characters : List Char) :
    trim characters = [] ↔ ∀ character ∈ characters, isBlank character = true := by
  constructor
  · intro nothing
    have remaining := (trimStart_eq_nil_iff _).mp (List.reverse_eq_nil_iff.mp nothing)
    have empty : trimStart characters = [] := by
      cases shape : trimStart characters with
      | nil => rfl
      | cons first rest =>
        have visible := isBlank_of_trimStart_eq_cons shape
        rw [remaining first (by simp [shape])] at visible
        cases visible
    exact (trimStart_eq_nil_iff _).mp empty
  · intro blank
    rw [trim, (trimStart_eq_nil_iff _).mpr blank]
    rfl

end InstanceHost.Text
