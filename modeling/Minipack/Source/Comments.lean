/-
Removing comments.

Style sheets and templates have comments between two marks; one that is not closed stays.  In
scripts a comment runs to the end of the line, or between two marks up to the end of the text if
need be, and what looks like a comment inside a quoted literal is none.
-/

namespace Minipack.Source

/-- What follows the first occurrence of a mark. -/
def after? (mark : List Char) : List Char → Option (List Char)
  | [] => if mark.isEmpty then some [] else none
  | c :: rest =>
    if mark.isPrefixOf (c :: rest) then some ((c :: rest).drop mark.length) else after? mark rest

/-- Drops what lies between two marks, with the marks, at most `fuel` times. -/
def dropBetween (first last : List Char) : Nat → List Char → List Char
  | 0, text => text
  | _, [] => []
  | fuel + 1, c :: rest =>
    if first.isPrefixOf (c :: rest) then
      match after? last ((c :: rest).drop first.length) with
      | some rest => dropBetween first last fuel rest
      | none => c :: rest
    else c :: dropBetween first last fuel rest

/-- A style sheet without its comments. -/
def stripBlockComments (text : List Char) : List Char :=
  dropBetween ['/', '*'] ['*', '/'] text.length text

/-- A template without its comments. -/
def stripMarkupComments (text : List Char) : List Char :=
  dropBetween ['<', '!', '-', '-'] ['-', '-', '>'] text.length text

/-- Where in a script a character stands. -/
inductive ScriptState where
  | code
  /-- In a literal that the given quote ends. -/
  | quoted (quote : Char)
  /-- Behind a backslash in a literal. -/
  | escaped (quote : Char)
  | lineComment
  /-- In a comment between marks; `star` says that a star came before. -/
  | blockComment (star : Bool)
deriving DecidableEq, Repr

/-- Whether a character opens a literal. -/
def isQuote (c : Char) : Bool :=
  c == '\x22' || c == '\x27' || c == '\x60'

/-- The state behind a character of a literal. -/
def afterQuoted (quote c : Char) : ScriptState :=
  if c = '\\' then .escaped quote else if c = quote then .code else .quoted quote

/-- The text without comments from a state on. -/
def stripFrom : ScriptState → List Char → List Char
  | _, [] => []
  | .code, '/' :: '/' :: rest => stripFrom .lineComment rest
  | .code, '/' :: '*' :: rest => stripFrom (.blockComment false) rest
  | .code, c :: rest => c :: stripFrom (if isQuote c then .quoted c else .code) rest
  | .quoted quote, c :: rest => c :: stripFrom (afterQuoted quote c) rest
  | .escaped quote, c :: rest => c :: stripFrom (.quoted quote) rest
  | .lineComment, c :: rest =>
    if c = '\n' then c :: stripFrom .code rest else stripFrom .lineComment rest
  | .blockComment star, c :: rest =>
    if star && c = '/' then stripFrom .code rest else stripFrom (.blockComment (c == '*')) rest

/-- A script without its comments; line ends after comments stay. -/
def stripScriptComments (text : List Char) : List Char :=
  stripFrom .code text

end Minipack.Source
