/-
**Lines of a text.**

A line ends with a line feed, which may have one carriage return before it; neither belongs to the
line. What stands behind the last line feed is a line as it is, unless it is empty.

* `lines`: the lines of a text.
-/

import InstanceHost.Text.Pieces

namespace InstanceHost.Text

/-- A line without the carriage return at its end. -/
def withoutReturn (line : List Char) : List Char :=
  if line.getLast? = some '\r' then line.dropLast else line

/-- The lines that the pieces between line feeds stand for. -/
def linesOfPieces : List (List Char) → List (List Char)
  | [] => []
  | [last] => if last = [] then [] else [last]
  | line :: rest => withoutReturn line :: linesOfPieces rest

/-- **The lines of a text.** -/
def lines (characters : List Char) : List (List Char) :=
  linesOfPieces (pieces '\n' characters)

end InstanceHost.Text
