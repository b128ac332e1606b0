/-
**Dates and times in TOML.**

A date-time is a date, a time, or both with a `T` or a space between them and perhaps an offset from
universal time. The seconds of a time may be left out; a fraction of a second has any number of
digits, of which nine count.

* `readDateTime?`: the date-time that a text spells, in its normal spelling: `T` and `Z` in upper
  case, no zeros at the end of a fraction, and no offset of minus nothing.
-/

import InstanceHost.Json.Reader

namespace InstanceHost.Toml

open Json (digitValue)

/-- A number of two digits. -/
def twoDigits? : List Char → Option (Nat × List Char)
  | first :: second :: rest =>
    if first.isDigit && second.isDigit then some (digitValue first * 10 + digitValue second, rest)
    else none
  | _ => none

/-- A number of two digits up to a limit. -/
def twoDigitsUpTo? (limit : Nat) (characters : List Char) : Option (Nat × List Char) := do
  let (value, rest) ← twoDigits? characters
  if value ≤ limit then some (value, rest) else none

/-- A character that has to follow. -/
def expect? (expected : Char) : List Char → Option (List Char)
  | character :: rest => if character = expected then some rest else none
  | [] => none

/-- A number below hundred in two digits. -/
def spellTwo (value : Nat) : List Char :=
  [Nat.digitChar (value / 10), Nat.digitChar (value % 10)]

/-! ### Dates -/

/-- Whether a year has a leap day. -/
def isLeapYear (year : Nat) : Bool :=
  year % 4 == 0 && (year % 100 != 0 || year % 400 == 0)

/-- The number of days of a month. -/
def daysIn (year month : Nat) : Nat :=
  if month = 2 then if isLeapYear year then 29 else 28
  else if month = 4 ∨ month = 6 ∨ month = 9 ∨ month = 11 then 30
  else 31

/-- A date. -/
def readDate? (characters : List Char) : Option (List Char × List Char) := do
  let (century, rest) ← twoDigits? characters
  let (yearInCentury, rest) ← twoDigits? rest
  let rest ← expect? '-' rest
  let (month, rest) ← twoDigitsUpTo? 12 rest
  let rest ← expect? '-' rest
  let year := century * 100 + yearInCentury
  let (day, rest) ← twoDigitsUpTo? (daysIn year month) rest
  if month = 0 ∨ day = 0 then none
  else some (spellTwo century ++ spellTwo yearInCentury ++ '-' :: spellTwo month ++
    '-' :: spellTwo day, rest)

/-! ### Times -/

/-- The number of digits of a fraction that count. -/
def fractionDigits : Nat := 9

/-- The normal spelling of a fraction of a second. -/
def spellFraction (digits : List Char) : List Char :=
  let kept := ((digits.take fractionDigits).reverse.dropWhile (· == '0')).reverse
  '.' :: if kept = [] then ['0'] else kept

/-- The fraction of a second, if there is one. -/
def readFraction? : List Char → Option (List Char × List Char)
  | '.' :: rest =>
    let digits := rest.takeWhile Char.isDigit
    if digits = [] then none else some (spellFraction digits, rest.dropWhile Char.isDigit)
  | rest => some ([], rest)

/-- The seconds of a time, if there are any. The last one may be a leap second. -/
def readSeconds? : List Char → Option (List Char × List Char)
  | ':' :: rest => do
    let (second, rest) ← twoDigitsUpTo? 60 rest
    let (fraction, rest) ← readFraction? rest
    return (':' :: spellTwo second ++ fraction, rest)
  | rest => some ([], rest)

/-- A time. -/
def readTime? (characters : List Char) : Option (List Char × List Char) := do
  let (hour, rest) ← twoDigitsUpTo? 23 characters
  let rest ← expect? ':' rest
  let (minute, rest) ← twoDigitsUpTo? 59 rest
  let (seconds, rest) ← readSeconds? rest
  return (spellTwo hour ++ ':' :: spellTwo minute ++ seconds, rest)

/-- An offset of hours and minutes behind its sign. -/
def readOffset? (sign : Char) (characters : List Char) : Option (List Char) := do
  let (hours, rest) ← twoDigitsUpTo? 23 characters
  let rest ← expect? ':' rest
  let (minutes, rest) ← twoDigitsUpTo? 59 rest
  let normal := if hours = 0 ∧ minutes = 0 then '+' else sign
  if rest = [] then some (normal :: spellTwo hours ++ ':' :: spellTwo minutes) else none

/-- What may follow the time of a date-time. -/
def readZone? : List Char → Option (List Char)
  | [] => some []
  | ['Z'] => some ['Z']
  | ['z'] => some ['Z']
  | '+' :: rest => readOffset? '+' rest
  | '-' :: rest => readOffset? '-' rest
  | _ => none

/-- A character between a date and a time. -/
def isDateSeparator (character : Char) : Bool :=
  character == 'T' || character == 't' || character == ' '

/-- What may follow a date. -/
def readAfterDate? : List Char → Option (List Char)
  | [] => some []
  | separator :: rest =>
    if isDateSeparator separator then do
      let (time, rest) ← readTime? rest
      let zone ← readZone? rest
      return 'T' :: time ++ zone
    else none

/-- A time that stands alone. -/
def readLocalTime? (characters : List Char) : Option (List Char) := do
  let (time, rest) ← readTime? characters
  if rest = [] then some time else none

/-- **The date-time that a text spells**, in its normal spelling. -/
def readDateTime? (characters : List Char) : Option (List Char) :=
  match readDate? characters with
  | some (date, rest) => (readAfterDate? rest).map (date ++ ·)
  | none => readLocalTime? characters

/-- Whether a text starts like a date with its time still to come behind a space. -/
def isBareDate (characters : List Char) : Bool :=
  match readDate? characters with
  | some (_, rest) => rest == []
  | none => false

end InstanceHost.Toml
