/-
**Numbers and words in TOML.**

Integers are decimal with an optional sign, or written to the bases 16, 8 and 2 behind `0x`, `0o`
and `0b`; underscores may stand between digits. Decimal numbers have no leading zeros. Floats have a
fraction or an exponent, or are the words `inf` and `nan`, for which the values here have no number.
An integer that does not fit into 64 bits and a float past the finite ones are no values.

* `readScalar?`: the value of a text without blanks that is no string.
-/

import InstanceHost.Binary64.Decimal
import InstanceHost.Text.Pieces
import InstanceHost.Toml.DateTime

namespace InstanceHost.Toml

/-- The digits of a text in which single underscores may stand between digits. -/
def digits? (isDigit : Char → Bool) (characters : List Char) : Option (List Char) :=
  let parts := Text.pieces '_' characters
  if parts.all fun part => part ≠ [] && part.all isDigit then some parts.flatten else none

/-- The number that digits stand for. -/
def ofDigits (base : Nat) (digits : List Char) : Nat :=
  digits.foldl (fun value digit => value * base + (Json.hexValue? digit).getD 0) 0

/-- A digit below a base. -/
def isDigitBelow (base : Nat) (character : Char) : Bool :=
  match Json.hexValue? character with
  | some value => value < base
  | none => false

/-- The sign of a number, and what follows it. -/
def readSign : List Char → Bool × List Char
  | '+' :: rest => (false, rest)
  | '-' :: rest => (true, rest)
  | rest => (false, rest)

/-- Decimal digits without leading zeros. -/
def decimalDigits? (characters : List Char) : Option (List Char) := do
  let digits ← digits? Char.isDigit characters
  if 1 < digits.length ∧ digits.head? = some '0' then none else some digits

/-! ### Integers -/

/-- An integer as a value. -/
def integer? (value : Int) : Option Json :=
  if inRange : integerRange value then some (.number (.integer value inRange)) else none

/-- An integer with a given base behind its mark. -/
def readBased? (base : Nat) (characters : List Char) : Option Json := do
  let digits ← digits? (isDigitBelow base) characters
  integer? (ofDigits base digits)

/-- A decimal integer. -/
def readDecimal? (characters : List Char) : Option Json := do
  let (negative, rest) := readSign characters
  let digits ← decimalDigits? rest
  let magnitude : Int := ofDigits 10 digits
  integer? (if negative then -magnitude else magnitude)

/-- An integer. -/
def readInteger? : List Char → Option Json
  | '0' :: 'x' :: rest => readBased? 16 rest
  | '0' :: 'o' :: rest => readBased? 8 rest
  | '0' :: 'b' :: rest => readBased? 2 rest
  | characters => readDecimal? characters

/-! ### Floats -/

/-- A text up to the mark of its exponent, and the exponent if there is one. -/
def splitExponent (characters : List Char) : List Char × Option (List Char) :=
  let isMark := fun character => character == 'e' || character == 'E'
  match characters.dropWhile (! isMark ·) with
  | [] => (characters, none)
  | _ :: exponent => (characters.takeWhile (! isMark ·), some exponent)

/-- The value of an exponent; no exponent counts as zero. -/
def readExponent? : Option (List Char) → Option Int
  | none => some 0
  | some characters => do
    let (negative, rest) := readSign characters
    let digits ← digits? Char.isDigit rest
    let magnitude : Int := ofDigits 10 digits
    return if negative then -magnitude else magnitude

/-- The integral digits and the digits of the fraction, if there is one. -/
def splitFraction? (characters : List Char) : Option (List Char × List Char × Bool) :=
  match Text.cutAt '.' characters with
  | none => do return (← decimalDigits? characters, [], false)
  | some (whole, fraction) => do
    return (← decimalDigits? whole, ← digits? Char.isDigit fraction, true)

/-- A float with digits. -/
def readFloat? (characters : List Char) : Option Json := do
  let (negative, rest) := readSign characters
  let (mantissa, exponent) := splitExponent rest
  let (whole, fraction, pointed) ← splitFraction? mantissa
  let power ← readExponent? exponent
  if pointed = false ∧ exponent = none then none
  else do
    let value ← Binary64.nearestDecimal negative (ofDigits 10 (whole ++ fraction))
      (power - fraction.length)
    return .number (.binary value)

/-- The words that stand for no finite number. -/
def isUnboundedWord (characters : List Char) : Bool :=
  let (_, word) := readSign characters
  word == ['i', 'n', 'f'] || word == ['n', 'a', 'n']

/-! ### Scalars -/

/-- The key under which a date-time stands as a text. -/
def dateTimeKey : String := "$__toml_private_datetime"

/-- A date-time as a value. -/
def dateTime (text : List Char) : Json :=
  .object [(dateTimeKey, .string (String.ofList text))]

/-- **The value of a text without blanks that is no string.** -/
def readScalar? (characters : List Char) : Option Json :=
  if characters = ['t', 'r', 'u', 'e'] then some (.bool true)
  else if characters = ['f', 'a', 'l', 's', 'e'] then some (.bool false)
  else if isUnboundedWord characters then some .null
  else match readDateTime? characters with
    | some text => some (dateTime text)
    | none => (readInteger? characters).or (readFloat? characters)

end InstanceHost.Toml
