/-
**Writing JSON text.**

The compact form has no blanks; the indented form puts every item and member on a line of its own,
two spaces deeper than its container, and keeps empty containers closed. Strings escape the
quotation mark, the backslash and the control characters below U+0020 and nothing else. Binary64
numbers are written with the fewest digits that read back, as `FloatLayout` lays them out.

* `Json.compact`, `Json.indented`: the two forms, as characters;
* `Json.text`, `Json.prettyText`: the same as strings.
-/

import InstanceHost.Binary64.Shortest
import InstanceHost.Json.Basic

namespace InstanceHost

/-- Where a decimal is written with plain digits, and where with an exponent. -/
structure FloatLayout where
  /-- The least power of ten of the first digit that is written plainly. -/
  lowestPlain : Int
  /-- The greatest power of ten of the first digit that is written plainly. -/
  highestPlain : Int

/-- Numbers from `0.00001` to below `10 ^ 16` have plain digits and always a decimal point; all
others have an exponent with its sign. -/
def JsonNumber.layout : FloatLayout := ⟨-5, 15⟩

/-- A decimal in a layout. -/
def FloatLayout.write (layout : FloatLayout) (decimal : Binary64.Scientific) : List Char :=
  let digits := decimal.digits
  let exponent := decimal.exponent
  if layout.lowestPlain ≤ exponent ∧ exponent ≤ layout.highestPlain then
    if exponent < 0 then
      '0' :: '.' :: List.replicate (-exponent - 1).toNat '0' ++ digits
    else
      let whole := exponent.toNat + 1
      let padded := digits ++ List.replicate (whole - digits.length) '0'
      let fraction := padded.drop whole
      padded.take whole ++ '.' :: (if fraction = [] then ['0'] else fraction)
  else
    let mantissa := digits.take 1 ++ (if digits.length ≤ 1 then [] else '.' :: digits.drop 1)
    let sign := if exponent < 0 then '-' else '+'
    mantissa ++ 'e' :: sign :: Nat.toDigits 10 exponent.natAbs

/-- An integer in decimal digits. -/
def writeInteger (value : Int) : List Char :=
  if value < 0 then '-' :: Nat.toDigits 10 value.natAbs else Nat.toDigits 10 value.natAbs

/-- A binary64 number with the fewest digits that read back. -/
def writeBinary64 (value : Binary64) : List Char :=
  let magnitude :=
    if value.rank = 0 then ['0', '.', '0']
    else JsonNumber.layout.write (Binary64.shortest value.rank)
  if value.negative then '-' :: magnitude else magnitude

/-- A number as JSON text. -/
def JsonNumber.write : JsonNumber → List Char
  | .integer value _ => writeInteger value
  | .binary value => writeBinary64 value

namespace Json

/-! ### Strings -/

/-- A digit of base sixteen, in lower case. -/
def hexDigit (value : Nat) : Char :=
  Nat.digitChar value

/-- A character inside a JSON string. -/
def escaped (character : Char) : List Char :=
  if character = '"' then ['\\', '"']
  else if character = '\\' then ['\\', '\\']
  else if character = '\x08' then ['\\', 'b']
  else if character = '\t' then ['\\', 't']
  else if character = '\n' then ['\\', 'n']
  else if character = '\x0c' then ['\\', 'f']
  else if character = '\r' then ['\\', 'r']
  else if character.toNat < 0x20 then
    ['\\', 'u', '0', '0', hexDigit (character.toNat / 16), hexDigit (character.toNat % 16)]
  else [character]

/-- A string between quotation marks. -/
def quoted (characters : List Char) : List Char :=
  '"' :: characters.flatMap escaped ++ ['"']

/-! ### The compact form -/

mutual

/-- A value without blanks. -/
def compact : Json → List Char
  | .null => ['n', 'u', 'l', 'l']
  | .bool true => ['t', 'r', 'u', 'e']
  | .bool false => ['f', 'a', 'l', 's', 'e']
  | .number value => value.write
  | .string value => quoted value.toList
  | .array [] => ['[', ']']
  | .array (item :: rest) => '[' :: compact item ++ compactItems rest
  | .object [] => ['\x7b', '\x7d']
  | .object ((key, value) :: rest) =>
    '\x7b' :: quoted key.toList ++ ':' :: compact value ++ compactEntries rest

/-- The items after the first, up to the closing bracket. -/
def compactItems : List Json → List Char
  | [] => [']']
  | item :: rest => ',' :: compact item ++ compactItems rest

/-- The members after the first, up to the closing brace. -/
def compactEntries : List (String × Json) → List Char
  | [] => ['\x7d']
  | (key, value) :: rest =>
    ',' :: quoted key.toList ++ ':' :: compact value ++ compactEntries rest

end

/-- The compact form as a text. -/
def text (value : Json) : String :=
  String.ofList value.compact

/-! ### The indented form -/

/-- The start of a line at a level of indentation. -/
def lineStart (level : Nat) : List Char :=
  '\n' :: List.replicate (2 * level) ' '

mutual

/-- A value whose container stands at a level of indentation. -/
def indented (level : Nat) : Json → List Char
  | .array [] => ['[', ']']
  | .array (item :: rest) =>
    '[' :: lineStart (level + 1) ++ indented (level + 1) item ++ indentedItems level rest
  | .object [] => ['\x7b', '\x7d']
  | .object ((key, value) :: rest) =>
    '\x7b' :: lineStart (level + 1) ++ quoted key.toList ++ ':' :: ' ' ::
      indented (level + 1) value ++ indentedEntries level rest
  | .null => compact .null
  | .bool value => compact (.bool value)
  | .number value => value.write
  | .string value => quoted value.toList

/-- The items after the first, up to the closing bracket. -/
def indentedItems (level : Nat) : List Json → List Char
  | [] => lineStart level ++ [']']
  | item :: rest =>
    ',' :: lineStart (level + 1) ++ indented (level + 1) item ++ indentedItems level rest

/-- The members after the first, up to the closing brace. -/
def indentedEntries (level : Nat) : List (String × Json) → List Char
  | [] => lineStart level ++ ['\x7d']
  | (key, value) :: rest =>
    ',' :: lineStart (level + 1) ++ quoted key.toList ++ ':' :: ' ' ::
      indented (level + 1) value ++ indentedEntries level rest

end

/-- The indented form as a text. -/
def prettyText (value : Json) : String :=
  String.ofList (value.indented 0)

end Json

end InstanceHost
