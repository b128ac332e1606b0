/-
**Reading a JSON text.**

The reader takes the characters from the front and answers a value with the characters behind it, or
a fault. Blanks between the parts are space, tab, line feed and carriage return. At most
`containerLimit` arrays and objects may be open at one place. Of members with the same key the last
one counts.

* `readNumber`: a numeral; one without fraction and exponent that fits into 64 bits is an integer,
  every other one a binary64 number;
* `readString`: the characters of a string behind its opening mark, escapes resolved;
* `readItems`, `readEntries`: the contents of containers, over a reader of the values in them;
* `readValue`: a value, by the number of containers that may still be opened;
* `parse`: a whole text.

The loops count down the number of characters left, which never runs out before the text does.
-/

import InstanceHost.Binary64.Decimal
import InstanceHost.Json.Basic
import InstanceHost.Json.Failure

namespace InstanceHost.Json

/-- A blank between the parts of a JSON text. -/
def isSpacing (character : Char) : Bool :=
  character == ' ' || character == '\t' || character == '\n' || character == '\r'

/-- The characters from the first that is no blank. -/
def skipSpacing (characters : List Char) : List Char :=
  characters.dropWhile isSpacing

/-! ### Words -/

/-- The rest of a word that has to follow. -/
def readWord : (word characters : List Char) → Except Fault (List Char)
  | [], rest => .ok rest
  | _ :: _, [] => .error (.before .endInValue [])
  | expected :: word, found :: rest =>
    if found = expected then readWord word rest
    else .error (.within .expectedWord (found :: rest) 1)

/-! ### Numerals -/

/-- The value of a decimal digit. -/
def digitValue (character : Char) : Nat :=
  character.toNat - '0'.toNat

/-- Whether a digit comes next. -/
def startsWithDigit : List Char → Bool
  | character :: _ => character.isDigit
  | [] => false

/-- The greatest significand that is kept exactly: what fits into 64 bits. -/
def significandLimit : Nat := 18446744073709551615

/-- The greatest exponent that a numeral may spell: what fits into 31 bits. -/
def exponentLimit : Nat := 2147483647

/-- Appends digits to a significand as long as it stays within the limit, counting them. -/
def appendDigits (significand count : Nat) : List Char → Nat × Nat × List Char
  | [] => (significand, count, [])
  | character :: rest =>
    if character.isDigit ∧ significand * 10 + digitValue character ≤ significandLimit then
      appendDigits (significand * 10 + digitValue character) (count + 1) rest
    else (significand, count, character :: rest)

/-- A numeral with a fraction or an exponent, as far as it is read. -/
structure Numeral where
  negative : Bool
  significand : Nat
  power : Int

/-- The number that a complete numeral stands for. -/
def Numeral.close (numeral : Numeral) (rest : List Char) : Except Fault (Binary64 × List Char) :=
  match Binary64.scaledDecimal numeral.negative numeral.significand numeral.power with
  | some value => .ok (value, rest)
  | none => .error (.before .numberOutOfRange rest)

/-- Appends digits to an exponent. Past the limit the characters behind the digit that passed it are
left. -/
def appendExponent (exponent : Nat) : List Char → Except (List Char) (Nat × List Char)
  | [] => .ok (exponent, [])
  | character :: rest =>
    if character.isDigit then
      let longer := exponent * 10 + digitValue character
      if longer ≤ exponentLimit then appendExponent longer rest else .error rest
    else .ok (exponent, character :: rest)

/-- The sign of an exponent; no sign is a plus. -/
def readExponentSign : List Char → Bool × List Char
  | '+' :: rest => (false, rest)
  | '-' :: rest => (true, rest)
  | rest => (false, rest)

/-- The digits of an exponent, by its sign. Past the limit the number is zero or out of range. -/
def readExponentDigits (numeral : Numeral) (downward : Bool) :
    List Char → Except Fault (Binary64 × List Char)
  | [] => .error (.before .endInValue [])
  | character :: rest =>
    if character.isDigit then
      match appendExponent (digitValue character) rest with
      | .ok (exponent, rest) =>
        let shift : Int := if downward then -exponent else exponent
        Numeral.close { numeral with power := numeral.power + shift } rest
      | .error rest =>
        if numeral.significand ≠ 0 ∧ downward = false then
          .error (.before .numberOutOfRange rest)
        else .ok (.zero numeral.negative, rest.dropWhile Char.isDigit)
    else .error (.within .invalidNumber (character :: rest) 1)

/-- The exponent of a numeral behind its mark. -/
def readExponent (numeral : Numeral) (characters : List Char) :
    Except Fault (Binary64 × List Char) :=
  let (downward, rest) := readExponentSign characters
  readExponentDigits numeral downward rest

/-- What may follow the fraction. -/
def readAfterFraction (numeral : Numeral) : List Char → Except Fault (Binary64 × List Char)
  | 'e' :: rest => readExponent numeral rest
  | 'E' :: rest => readExponent numeral rest
  | rest => numeral.close rest

/-- The fraction of a numeral behind its point. Digits that pass the limit do not count. -/
def readFraction (numeral : Numeral) (characters : List Char) :
    Except Fault (Binary64 × List Char) :=
  let (significand, count, rest) := appendDigits numeral.significand 0 characters
  let longer := { numeral with significand := significand, power := numeral.power - count }
  if startsWithDigit rest then readAfterFraction longer (rest.dropWhile Char.isDigit)
  else if count = 0 then
    match rest with
    | [] => .error (.before .endInValue [])
    | character :: rest => .error (.within .invalidNumber (character :: rest) 1)
  else readAfterFraction longer rest

/-- What may follow the integral digits. -/
def readAfterInteger (numeral : Numeral) : List Char → Except Fault (Binary64 × List Char)
  | '.' :: rest => readFraction numeral rest
  | rest => readAfterFraction numeral rest

/-- Whether a fraction or an exponent follows the integral digits. -/
def continues : List Char → Bool
  | character :: _ => character == '.' || character == 'e' || character == 'E'
  | [] => false

/-- A reading of a binary64 number as one of a JSON number. -/
def withBinary : Except Fault (Binary64 × List Char) → Except Fault (JsonNumber × List Char)
  | .ok (value, rest) => .ok (.binary value, rest)
  | .error fault => .error fault

/-- A numeral whose integral digits are complete. Minus zero is no integer. -/
def readInteger (negative : Bool) (significand : Nat) (rest : List Char) :
    Except Fault (JsonNumber × List Char) :=
  let value : Int := if negative then -significand else significand
  if continues rest ∨ (negative = true ∧ significand = 0) then
    withBinary (readAfterInteger ⟨negative, significand, 0⟩ rest)
  else if inRange : integerRange value then .ok (.integer value inRange, rest)
  else withBinary (Numeral.close ⟨negative, significand, 0⟩ rest)

/-- A numeral behind its sign. -/
def readNumber (negative : Bool) : List Char → Except Fault (JsonNumber × List Char)
  | [] => .error (.before .endInValue [])
  | character :: rest =>
    if character = '0' then
      if startsWithDigit rest then .error (.within .invalidNumber rest 1)
      else readInteger negative 0 rest
    else if character.isDigit then
      let (significand, _, rest) := appendDigits (digitValue character) 0 rest
      if startsWithDigit rest then
        let extra := (rest.takeWhile Char.isDigit).length
        withBinary
          (readAfterInteger ⟨negative, significand, extra⟩ (rest.dropWhile Char.isDigit))
      else readInteger negative significand rest
    else .error (.within .invalidNumber (character :: rest) 1)

/-! ### Strings -/

/-- The value of a digit of base sixteen. -/
def hexValue? (character : Char) : Option Nat :=
  if character.isDigit then some (digitValue character)
  else if 'a' ≤ character ∧ character ≤ 'f' then some (character.toNat - 'a'.toNat + 10)
  else if 'A' ≤ character ∧ character ≤ 'F' then some (character.toNat - 'A'.toNat + 10)
  else none

/-- The code unit that four digits of base sixteen stand for. -/
def codeUnit? (first second third fourth : Char) : Option Nat := do
  let first ← hexValue? first
  let second ← hexValue? second
  let third ← hexValue? third
  let fourth ← hexValue? fourth
  return ((first * 16 + second) * 16 + third) * 16 + fourth

/-- The code unit of an escape; four bytes are looked at. -/
def readCodeUnit (characters : List Char) : Except Fault (Nat × List Char) :=
  if byteLength characters < 4 then .error (.before .endInString [])
  else
    match characters with
    | first :: second :: third :: fourth :: rest =>
      match codeUnit? first second third fourth with
      | some unit => .ok (unit, rest)
      | none => .error (.within .invalidEscape characters 4)
    | _ => .error (.within .invalidEscape characters 4)

/-- A character that has to follow a leading surrogate. -/
def expectEscape (expected : Char) : List Char → Except Fault (List Char)
  | [] => .error (.before .endInString [])
  | character :: rest =>
    if character = expected then .ok rest
    else .error (.within .unpairedEscape (character :: rest) 1)

/-- The character that a code unit starts; a leading surrogate needs a trailing one. -/
def readFromUnit (unit : Nat) (rest : List Char) : Except Fault (Char × List Char) :=
  if 0xDC00 ≤ unit ∧ unit ≤ 0xDFFF then .error (.before .loneSurrogate rest)
  else if 0xD800 ≤ unit ∧ unit ≤ 0xDBFF then do
    let rest ← expectEscape '\\' rest
    let rest ← expectEscape 'u' rest
    let (trailing, rest) ← readCodeUnit rest
    if 0xDC00 ≤ trailing ∧ trailing ≤ 0xDFFF then
      return (Char.ofNat ((unit - 0xD800) * 0x400 + (trailing - 0xDC00) + 0x10000), rest)
    else .error (.before .loneSurrogate rest)
  else .ok (Char.ofNat unit, rest)

/-- The character that an escape of one letter stands for. -/
def shortEscape? (letter : Char) : Option Char :=
  if letter = '"' then some '"'
  else if letter = '\\' then some '\\'
  else if letter = '/' then some '/'
  else if letter = 'b' then some '\x08'
  else if letter = 'f' then some '\x0c'
  else if letter = 'n' then some '\n'
  else if letter = 'r' then some '\r'
  else if letter = 't' then some '\t'
  else none

/-- An escape behind its backslash. -/
def readEscape : List Char → Except Fault (Char × List Char)
  | [] => .error (.before .endInString [])
  | letter :: rest =>
    match shortEscape? letter with
    | some character => .ok (character, rest)
    | none =>
      if letter = 'u' then do
        let (unit, rest) ← readCodeUnit rest
        readFromUnit unit rest
      else .error (.within .invalidEscape (letter :: rest) 1)

/-- The characters of a string up to its closing mark, with a bound on their number. -/
def readCharacters : (bound : Nat) → List Char → Except Fault (List Char × List Char)
  | _, [] => .error (.before .endInString [])
  | 0, rest => .error (.before .endInString rest)
  | bound + 1, character :: rest =>
    if character = '"' then .ok ([], rest)
    else if character = '\\' then do
      let (escaped, rest) ← readEscape rest
      let (others, rest) ← readCharacters bound rest
      return (escaped :: others, rest)
    else if character.toNat < 0x20 then
      .error (.within .controlCharacter (character :: rest) 1)
    else do
      let (others, rest) ← readCharacters bound rest
      return (character :: others, rest)

/-- A string behind its opening mark. -/
def readString (characters : List Char) : Except Fault (String × List Char) := do
  let (content, rest) ← readCharacters characters.length characters
  return (String.ofList content, rest)

/-! ### Containers -/

/-- The items of an array from where one is due, over a reader of values. -/
def readItems (element : List Char → Except Fault (Json × List Char)) :
    (bound : Nat) → List Char → Except Fault (List Json × List Char)
  | 0, rest => .error (.before .endInArray rest)
  | bound + 1, characters => do
    let (item, rest) ← element characters
    match skipSpacing rest with
    | [] => .error (.before .endInArray [])
    | ']' :: rest => return ([item], rest)
    | ',' :: rest =>
      match skipSpacing rest with
      | [] => .error (.before .endInValue [])
      | ']' :: rest => .error (.within .trailingComma (']' :: rest) 1)
      | rest =>
        let (others, rest) ← readItems element bound rest
        return (item :: others, rest)
    | rest => .error (.within .expectedItemEnd rest 1)

/-- An array behind its opening bracket. -/
def readArray (element : List Char → Except Fault (Json × List Char)) (characters : List Char) :
    Except Fault (Json × List Char) :=
  match skipSpacing characters with
  | [] => .error (.before .endInArray [])
  | ']' :: rest => .ok (.array [], rest)
  | rest => do
    let (items, rest) ← readItems element rest.length rest
    return (.array items, rest)

/-- A member of an object, behind the opening mark of its key. -/
def readMember (element : List Char → Except Fault (Json × List Char)) (characters : List Char) :
    Except Fault ((String × Json) × List Char) := do
  let (key, rest) ← readString characters
  match skipSpacing rest with
  | [] => .error (.before .endInObject [])
  | ':' :: rest =>
    let (value, rest) ← element rest
    return ((key, value), rest)
  | rest => .error (.within .expectedColon rest 1)

/-- The members of an object behind the opening mark of a key, added to those before it. -/
def readEntries (element : List Char → Except Fault (Json × List Char)) :
    (bound : Nat) → Keyed Json → List Char → Except Fault (Keyed Json × List Char)
  | 0, _, rest => .error (.before .endInObject rest)
  | bound + 1, earlier, characters => do
    let ((key, value), rest) ← readMember element characters
    let entries := earlier.insert key value
    match skipSpacing rest with
    | [] => .error (.before .endInObject [])
    | '\x7d' :: rest => return (entries, rest)
    | ',' :: rest =>
      match skipSpacing rest with
      | [] => .error (.before .endInValue [])
      | '"' :: rest => readEntries element bound entries rest
      | '\x7d' :: rest => .error (.within .trailingComma ('\x7d' :: rest) 1)
      | rest => .error (.within .keyNotString rest 1)
    | rest => .error (.within .expectedMemberEnd rest 1)

/-- An object behind its opening brace. -/
def readObject (element : List Char → Except Fault (Json × List Char)) (characters : List Char) :
    Except Fault (Json × List Char) :=
  match skipSpacing characters with
  | [] => .error (.before .endInObject [])
  | '\x7d' :: rest => .ok (.object [], rest)
  | '"' :: rest => do
    let (entries, rest) ← readEntries element (rest.length + 1) [] rest
    return (.object entries, rest)
  | rest => .error (.within .keyNotString rest 1)

/-! ### Values -/

/-- A value that is no container, whose first character is given. -/
def readScalar (character : Char) (rest : List Char) : Except Fault (Json × List Char) :=
  if character = 'n' then do return (.null, ← readWord ['u', 'l', 'l'] rest)
  else if character = 't' then do return (.bool true, ← readWord ['r', 'u', 'e'] rest)
  else if character = 'f' then do return (.bool false, ← readWord ['a', 'l', 's', 'e'] rest)
  else if character = '-' then do
    let (value, rest) ← readNumber true rest
    return (.number value, rest)
  else if character.isDigit then do
    let (value, rest) ← readNumber false (character :: rest)
    return (.number value, rest)
  else if character = '"' then do
    let (value, rest) ← readString rest
    return (.string value, rest)
  else .error (.within .expectedValue (character :: rest) 1)

/-- A value, after blanks, in which at most `budget` containers may be open at one place. -/
def readValue : (budget : Nat) → List Char → Except Fault (Json × List Char)
  | budget, characters =>
    match skipSpacing characters with
    | [] => .error (.before .endInValue [])
    | character :: rest =>
      if character = '[' then
        match budget with
        | 0 => .error (.within .tooDeep (character :: rest) 1)
        | budget + 1 => readArray (readValue budget) rest
      else if character = '\x7b' then
        match budget with
        | 0 => .error (.within .tooDeep (character :: rest) 1)
        | budget + 1 => readObject (readValue budget) rest
      else readScalar character rest

/-- A text that holds one value and blanks around it. -/
def readWhole (budget : Nat) (characters : List Char) : Except Fault Json := do
  let (value, rest) ← readValue budget characters
  match skipSpacing rest with
  | [] => return value
  | rest => .error (.within .trailingCharacters rest 1)

/-- The greatest number of containers around a place. -/
def containerLimit : Nat := 127

/-- **A JSON text.** -/
def parse (text : String) : Except Fault Json :=
  readWhole containerLimit text.toList

/-- The value of a JSON text, if it is one. -/
def parse? (text : String) : Option Json :=
  (parse text).toOption

end InstanceHost.Json
