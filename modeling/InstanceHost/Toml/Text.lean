/-
**Strings in TOML.**

A string stands between quotation marks and resolves escapes, or between apostrophes and does not.
With three marks on each side it may go over several lines; a line break right behind the opening
marks does not count, and up to two marks may stand right before the closing ones. A backslash at
the end of a line takes away all blanks and line breaks up to the next character.

* `readBasic?`, `readLiteral?`: strings on one line, behind their opening mark;
* `readLongBasic?`, `readLongLiteral?`: strings over several lines, behind their opening marks.

Each reader takes at most as many steps as there are characters.
-/

import InstanceHost.Json.Reader

namespace InstanceHost.Toml

/-- A blank within a line. -/
def isSpace (character : Char) : Bool :=
  character == ' ' || character == '\t'

/-- A character that may stand in a line: everything but control characters, of which the tab is
allowed. -/
def isLineCharacter (character : Char) : Bool :=
  character == '\t' || (0x20 ≤ character.toNat && character.toNat != 0x7F)

/-- The characters behind a line break, if one comes next. -/
def lineBreak? : List Char → Option (List Char)
  | '\n' :: rest => some rest
  | '\r' :: '\n' :: rest => some rest
  | _ => none

/-! ### Escapes -/

/-- The character with a number, if there is one. -/
def character? (code : Nat) : Option Char :=
  if code < 0xD800 ∨ (0xDFFF < code ∧ code < 0x110000) then some (Char.ofNat code) else none

/-- The character whose number has a count of digits to base sixteen. -/
def readCode? (count : Nat) (characters : List Char) : Option (Char × List Char) := do
  let digits := characters.take count
  let values ← digits.mapM Json.hexValue?
  if values.length < count then none
  else do
    let character ← character? (values.foldl (fun code value => code * 16 + value) 0)
    return (character, characters.drop count)

/-- The character that an escape of one letter stands for. -/
def shortEscape? (letter : Char) : Option Char :=
  if letter = 'b' then some '\x08'
  else if letter = 't' then some '\t'
  else if letter = 'n' then some '\n'
  else if letter = 'f' then some '\x0c'
  else if letter = 'r' then some '\r'
  else if letter = 'e' then some '\x1b'
  else if letter = '"' then some '"'
  else if letter = '\\' then some '\\'
  else none

/-- An escape behind its backslash. -/
def readEscape? : List Char → Option (Char × List Char)
  | [] => none
  | letter :: rest =>
    match shortEscape? letter with
    | some character => some (character, rest)
    | none =>
      if letter = 'x' then readCode? 2 rest
      else if letter = 'u' then readCode? 4 rest
      else if letter = 'U' then readCode? 8 rest
      else none

/-! ### Strings on one line -/

/-- The characters up to the closing quotation mark. -/
def readBasicFrom : (bound : Nat) → List Char → Option (List Char × List Char)
  | 0, _ => none
  | _, [] => none
  | bound + 1, character :: rest =>
    if character = '"' then some ([], rest)
    else if character = '\\' then do
      let (escaped, rest) ← readEscape? rest
      let (others, rest) ← readBasicFrom bound rest
      return (escaped :: others, rest)
    else if isLineCharacter character then do
      let (others, rest) ← readBasicFrom bound rest
      return (character :: others, rest)
    else none

/-- A string on one line behind its opening quotation mark. -/
def readBasic? (characters : List Char) : Option (List Char × List Char) :=
  readBasicFrom characters.length characters

/-- A string on one line behind its opening apostrophe. -/
def readLiteral? : List Char → Option (List Char × List Char)
  | [] => none
  | character :: rest =>
    if character = '\'' then some ([], rest)
    else if isLineCharacter character then do
      let (others, rest) ← readLiteral? rest
      return (character :: others, rest)
    else none

/-! ### Strings over several lines -/

/-- The number of marks that come next, up to five. -/
def markCount (mark : Char) (characters : List Char) : Nat :=
  ((characters.take 5).takeWhile (· == mark)).length

/-- The characters without blanks and line breaks in front. -/
def skipLines : (bound : Nat) → List Char → List Char
  | 0, rest => rest
  | bound + 1, characters =>
    let rest := characters.dropWhile isSpace
    match lineBreak? rest with
    | some rest => skipLines bound rest
    | none => rest

/-- The characters behind a backslash at the end of a line, if it is at the end of one. -/
def continueLine? (characters : List Char) : Option (List Char) :=
  match lineBreak? (characters.dropWhile isSpace) with
  | some rest => some (skipLines rest.length rest)
  | none => none

/-- The characters up to the closing marks; with escapes, if asked for. -/
def readLongFrom (mark : Char) (escapes : Bool) :
    (bound : Nat) → List Char → Option (List Char × List Char)
  | 0, _ => none
  | _, [] => none
  | bound + 1, character :: rest =>
    if character = mark then
      let count := markCount mark (character :: rest)
      if 3 ≤ count then
        some (List.replicate (count - 3) mark, (character :: rest).drop count)
      else do
        let (others, rest) ← readLongFrom mark escapes bound rest
        return (character :: others, rest)
    else if escapes ∧ character = '\\' then
      match continueLine? rest with
      | some rest => readLongFrom mark escapes bound rest
      | none => do
        let (escaped, rest) ← readEscape? rest
        let (others, rest) ← readLongFrom mark escapes bound rest
        return (escaped :: others, rest)
    else if character = '\r' ∧ rest.head? ≠ some '\n' then none
    else if character = '\r' ∨ character = '\n' ∨ isLineCharacter character then do
      let (others, rest) ← readLongFrom mark escapes bound rest
      return (character :: others, rest)
    else none

/-- A string over several lines behind its opening marks. -/
def readLong? (mark : Char) (escapes : Bool) (characters : List Char) :
    Option (List Char × List Char) :=
  let content := (lineBreak? characters).getD characters
  readLongFrom mark escapes (content.length + 1) content

/-- A string over several lines behind its opening quotation marks. -/
def readLongBasic? (characters : List Char) : Option (List Char × List Char) :=
  readLong? '"' true characters

/-- A string over several lines behind its opening apostrophes. -/
def readLongLiteral? (characters : List Char) : Option (List Char × List Char) :=
  readLong? '\'' false characters

end InstanceHost.Toml
