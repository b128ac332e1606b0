/-
**Reading TOML documents.**

A document is a sequence of lines. A line is blank, gives a heading, or puts a value under a dotted
key of the table of the last heading; it may end with a comment. Arrays and inline tables may go
over several lines, with comments everywhere but within a dotted key, and may end with a comma. At
most `containerLimit` of them may be open at one place, and a dotted key has at most `keyLimit`
parts.

* `readKey?`: a dotted key;
* `readValue?`: a value, by the number of arrays and inline tables that may still be opened;
* `parse?`: the members of the object that a document stands for.
-/

import InstanceHost.Toml.Scalar
import InstanceHost.Toml.Table
import InstanceHost.Toml.Text

namespace InstanceHost.Toml

/-! ### Blanks and comments -/

/-- The characters from the first that is no blank. -/
def skipSpaces (characters : List Char) : List Char :=
  characters.dropWhile isSpace

/-- The characters behind the comment whose mark was read. -/
def skipComment? : List Char → Option (List Char)
  | [] => some []
  | character :: rest =>
    if (lineBreak? (character :: rest)).isSome then some (character :: rest)
    else if isLineCharacter character then skipComment? rest
    else none

/-- The characters behind blanks, line breaks and comments. -/
def skipTrivia? : (bound : Nat) → List Char → Option (List Char)
  | 0, rest => some rest
  | bound + 1, characters =>
    match skipSpaces characters with
    | '#' :: rest => do skipTrivia? bound (← skipComment? rest)
    | rest =>
      match lineBreak? rest with
      | some rest => skipTrivia? bound rest
      | none => some rest

/-- The characters behind all blanks, line breaks and comments. -/
def skipAll? (characters : List Char) : Option (List Char) :=
  skipTrivia? (characters.length + 1) characters

/-- The characters behind the end of a line. -/
def endLine? (characters : List Char) : Option (List Char) := do
  let rest ← match skipSpaces characters with
    | '#' :: rest => skipComment? rest
    | rest => some rest
  match rest with
  | [] => some []
  | rest => lineBreak? rest

/-! ### Keys -/

/-- A character of a key without marks. -/
def isBareCharacter (character : Char) : Bool :=
  character.isAlphanum || character == '_' || character == '-'

/-- A part of a dotted key. -/
def readSimpleKey? : List Char → Option (String × List Char)
  | '"' :: rest => do
    let (content, rest) ← readBasic? rest
    return (String.ofList content, rest)
  | '\'' :: rest => do
    let (content, rest) ← readLiteral? rest
    return (String.ofList content, rest)
  | characters =>
    let key := characters.takeWhile isBareCharacter
    if key = [] then none
    else some (String.ofList key, characters.dropWhile isBareCharacter)

/-- A dotted key of at most a number of parts: those before the last, and the last. -/
def readParts? : (count : Nat) → List Char → Option ((List String × String) × List Char)
  | 0, _ => none
  | count + 1, characters => do
    let (part, rest) ← readSimpleKey? (skipSpaces characters)
    match skipSpaces rest with
    | '.' :: rest =>
      let ((path, key), rest) ← readParts? count rest
      return ((part :: path, key), rest)
    | rest => return (([], part), rest)

/-- The greatest number of parts of a dotted key. -/
def keyLimit : Nat := 80

/-- A dotted key: the parts before the last, and the last. -/
def readKey? (characters : List Char) : Option ((List String × String) × List Char) :=
  readParts? keyLimit characters

/-! ### Values -/

/-- A character of a number, a word or a date-time. -/
def isScalarCharacter (character : Char) : Bool :=
  character.isAlphanum || character == '_' || character == '+' || character == '-' ||
    character == '.' || character == ':'

/-- Whether a time follows a space. -/
def timeFollows : List Char → Bool
  | ' ' :: first :: second :: ':' :: _ => first.isDigit && second.isDigit
  | _ => false

/-- The text of a number, a word or a date-time; a date may have its time behind a space. -/
def takeScalar (characters : List Char) : List Char × List Char :=
  let text := characters.takeWhile isScalarCharacter
  let rest := characters.dropWhile isScalarCharacter
  if isBareDate text && timeFollows rest then
    (text ++ ' ' :: (rest.drop 1).takeWhile isScalarCharacter,
      (rest.drop 1).dropWhile isScalarCharacter)
  else (text, rest)

/-- A string as a value. -/
def asString (read : Option (List Char × List Char)) : Option (Json × List Char) :=
  read.map fun (content, rest) => (.string (String.ofList content), rest)

/-- A value that is no array and no inline table. -/
def readSimple? : List Char → Option (Json × List Char)
  | '"' :: '"' :: '"' :: rest => asString (readLongBasic? rest)
  | '"' :: rest => asString (readBasic? rest)
  | '\'' :: '\'' :: '\'' :: rest => asString (readLongLiteral? rest)
  | '\'' :: rest => asString (readLiteral? rest)
  | characters => do
    let (text, rest) := takeScalar characters
    let value ← readScalar? text
    return (value, rest)

/-- The items of an array up to its closing bracket, over a reader of values. -/
def readItems? (element : List Char → Option (Json × List Char)) :
    (bound : Nat) → List Char → Option (List Json × List Char)
  | 0, _ => none
  | bound + 1, characters => do
    match ← skipAll? characters with
    | ']' :: rest => return ([], rest)
    | rest =>
      let (item, rest) ← element rest
      match ← skipAll? rest with
      | ']' :: rest => return ([item], rest)
      | ',' :: rest =>
        let (others, rest) ← readItems? element bound rest
        return (item :: others, rest)
      | _ => none

/-- The entries of an inline table up to its closing brace, added to those before them. -/
def readEntries? (element : List Char → Option (Json × List Char)) :
    (bound : Nat) → Table → List Char → Option (Table × List Char)
  | 0, _, _ => none
  | bound + 1, earlier, characters => do
    match ← skipAll? characters with
    | '\x7d' :: rest => return (earlier, rest)
    | rest =>
      let ((path, key), rest) ← readKey? rest
      let rest ← expect? '=' (← skipAll? rest)
      let (value, rest) ← element (← skipAll? rest)
      let entries ← Table.addDotted? path key value ⟨.headed, earlier⟩
      match ← skipAll? rest with
      | '\x7d' :: rest => return (entries, rest)
      | ',' :: rest => readEntries? element bound entries rest
      | _ => none

/-- A value in which at most `budget` arrays and inline tables may be open at one place. -/
def readValue? : (budget : Nat) → List Char → Option (Json × List Char)
  | 0, characters =>
    match characters with
    | '[' :: _ => none
    | '\x7b' :: _ => none
    | characters => readSimple? characters
  | budget + 1, characters =>
    match characters with
    | '[' :: rest => do
      let (items, rest) ← readItems? (readValue? budget) (rest.length + 1) rest
      return (.array items, rest)
    | '\x7b' :: rest => do
      let (entries, rest) ← readEntries? (readValue? budget) (rest.length + 1) [] rest
      return (.object (toMembers entries), rest)
    | characters => readSimple? characters

/-- The greatest number of arrays and inline tables around a place. -/
def containerLimit : Nat := 80

/-! ### Documents -/

/-- A document as far as it is read: its tables, and the path of the last heading. -/
structure Draft where
  root : Table
  heading : List String

/-- A heading behind its opening brackets, of which there are one or two. -/
def readHeading? (draft : Draft) (listed : Bool) (characters : List Char) :
    Option (Draft × List Char) := do
  let ((path, key), rest) ← readKey? characters
  let rest ← expect? ']' rest
  let rest ← if listed then expect? ']' rest else some rest
  let rest ← endLine? rest
  let root ← if listed then draft.root.openListed? path key else draft.root.openTable? path key
  return (⟨root, path ++ [key]⟩, rest)

/-- A value under a dotted key. -/
def readDefinition? (draft : Draft) (characters : List Char) : Option (Draft × List Char) := do
  let ((path, key), rest) ← readKey? characters
  let rest ← expect? '=' rest
  let (value, rest) ← readValue? containerLimit (skipSpaces rest)
  let rest ← endLine? rest
  let root ← draft.root.define? draft.heading path key value
  return (⟨root, draft.heading⟩, rest)

/-- A line that starts with something else than blanks. -/
def readLine? (draft : Draft) : List Char → Option (Draft × List Char)
  | '[' :: '[' :: rest => readHeading? draft true rest
  | '[' :: rest => readHeading? draft false rest
  | characters => readDefinition? draft characters

/-- The lines of a document. -/
def readLines? : (bound : Nat) → Draft → List Char → Option Draft
  | 0, draft, characters => if characters = [] then some draft else none
  | bound + 1, draft, characters => do
    match ← skipAll? characters with
    | [] => return draft
    | rest =>
      let (next, rest) ← readLine? draft rest
      readLines? bound next rest

/-- The mark at the start of a text that tells the order of its bytes. -/
def byteOrderMark : Char := '\ufeff'

/-- The characters of a text without its byte order mark. -/
def withoutMark : List Char → List Char
  | [] => []
  | first :: rest => if first = byteOrderMark then rest else first :: rest

/-- **The members of the object that a document stands for.** -/
def parse? (text : String) : Option (Keyed Json) := do
  let characters := withoutMark text.toList
  let draft ← readLines? (characters.length + 1) ⟨[], []⟩ characters
  return draft.root.toJson

end InstanceHost.Toml
