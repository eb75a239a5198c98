/-
Lines.  A line ends at a line feed, together with a carriage return just before it; what follows the
last line feed is a line of its own only when it is not empty.
-/

namespace Minipack.Text

/-- Drops one carriage return at the end. -/
def dropReturn (line : List Char) : List Char :=
  match line.getLast? with
  | some '\r' => line.dropLast
  | _ => line

/-- The lines of a text, where `line` holds the current line's characters in reverse. -/
def linesFrom (line : List Char) : List Char → List (List Char)
  | [] => if line.isEmpty then [] else [line.reverse]
  | '\n' :: rest => dropReturn line.reverse :: linesFrom [] rest
  | c :: rest => linesFrom (c :: line) rest

/-- The lines of a text without their ends. -/
def lines (text : List Char) : List (List Char) :=
  linesFrom [] text

/-- The number of line feeds, which is the zero-based number of the line a text ends on. -/
def lineFeeds (text : List Char) : Nat :=
  text.count '\n'

end Minipack.Text
