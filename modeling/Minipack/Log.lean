/-
Log lines: what a build tells while it runs.
-/

namespace Minipack

/-- How important a line is. -/
inductive LogLevel where
  | error
  | warn
  | info
deriving DecidableEq, Repr

/-- A line with the part of the build that it comes from. -/
structure LogLine where
  level : LogLevel
  topic : String
  text : String
deriving DecidableEq, Repr

namespace LogLine

/-- The escape sequence of a level's colour. -/
def colour : LogLevel → String
  | .error => "\x1b[31m"
  | .warn => "\x1b[33m"
  | .info => "\x1b[36m"

/-- The line as a terminal shows it: the topic in bold and in colour, then the text. -/
def render (line : LogLine) : String :=
  colour line.level ++ "\x1b[1m[" ++ line.topic ++ "]\x1b[0m " ++ line.text

/-- Whether the line goes to the stream of errors. -/
def isWarning (line : LogLine) : Bool :=
  line.level != .info

end LogLine

end Minipack
