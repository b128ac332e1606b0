/-
**Why and where a text is no JSON value.**

A failure has a cause and a place. While a text is read the place is known by what is still unread,
so a `Fault` counts the unread bytes; against the whole text this becomes a line, counted from one,
and a column, the number of bytes of that line that were read or looked at.

* `Cause.message`: the wording of each cause;
* `placeOf`: the line and the column after a number of bytes;
* `Fault.message`: cause and place together.
-/

namespace InstanceHost.Json

/-- Why a text is no JSON value. -/
inductive Cause where
  | endInArray
  | endInObject
  | endInString
  /-- The text ends where a value is due, or inside a word or a number. -/
  | endInValue
  | expectedColon
  /-- An item is followed neither by a comma nor by the end of the array. -/
  | expectedItemEnd
  | expectedMemberEnd
  | expectedWord
  | expectedValue
  | invalidEscape
  | invalidNumber
  /-- A number is larger than every binary64 number. -/
  | numberOutOfRange
  | controlCharacter
  | keyNotString
  | loneSurrogate
  /-- The last comma of an array or object has nothing behind it. -/
  | trailingComma
  | trailingCharacters
  /-- An escaped leading surrogate is not followed by an escape. -/
  | unpairedEscape
  | tooDeep
deriving DecidableEq, Repr

/-- The wording of a cause. -/
def Cause.message : Cause → String
  | .endInArray => "EOF while parsing a list"
  | .endInObject => "EOF while parsing an object"
  | .endInString => "EOF while parsing a string"
  | .endInValue => "EOF while parsing a value"
  | .expectedColon => "expected `:`"
  | .expectedItemEnd => "expected `,` or `]`"
  | .expectedMemberEnd => "expected `,` or `\x7d`"
  | .expectedWord => "expected ident"
  | .expectedValue => "expected value"
  | .invalidEscape => "invalid escape"
  | .invalidNumber => "invalid number"
  | .numberOutOfRange => "number out of range"
  | .controlCharacter => "control character (\\u0000-\\u001F) found while parsing a string"
  | .keyNotString => "key must be a string"
  | .loneSurrogate => "lone leading surrogate in hex escape"
  | .trailingComma => "trailing comma"
  | .trailingCharacters => "trailing characters"
  | .unpairedEscape => "unexpected end of hex escape"
  | .tooDeep => "recursion limit exceeded"

/-- The number of bytes of a text. -/
def byteLength : List Char → Nat
  | [] => 0
  | character :: rest => character.utf8Size + byteLength rest

/-- A cause with the number of bytes behind its place. -/
structure Fault where
  cause : Cause
  /-- How many bytes were neither read nor looked at. -/
  unread : Nat
deriving DecidableEq, Repr

/-- A fault in front of the rest of the text. -/
def Fault.before (cause : Cause) (rest : List Char) : Fault :=
  ⟨cause, byteLength rest⟩

/-- A fault that the next bytes of the rest show. -/
def Fault.within (cause : Cause) (rest : List Char) (bytes : Nat) : Fault :=
  ⟨cause, byteLength rest - bytes⟩

/-- A line, and how many of its bytes lie before a place. -/
structure Place where
  /-- The line, counted from one. -/
  line : Nat
  /-- The number of bytes of the line before the place. -/
  column : Nat
deriving DecidableEq, Repr

/-- The place a number of bytes behind a given place. -/
def placeAfter (place : Place) : (bytes : Nat) → List Char → Place
  | 0, _ => place
  | bytes + 1, [] => ⟨place.line, place.column + (bytes + 1)⟩
  | bytes + 1, character :: rest =>
    if character = '\n' then placeAfter ⟨place.line + 1, 0⟩ bytes rest
    else if bytes + 1 ≤ character.utf8Size then ⟨place.line, place.column + (bytes + 1)⟩
    else placeAfter ⟨place.line, place.column + character.utf8Size⟩
      (bytes + 1 - character.utf8Size) rest

/-- The place after a number of bytes of a text. -/
def placeOf (bytes : Nat) (characters : List Char) : Place :=
  placeAfter ⟨1, 0⟩ bytes characters

/-- Cause and place of a fault in a text. -/
def Fault.message (fault : Fault) (characters : List Char) : String :=
  let place := placeOf (byteLength characters - fault.unread) characters
  fault.cause.message ++ " at line " ++ toString place.line ++ " column " ++ toString place.column

end InstanceHost.Json
