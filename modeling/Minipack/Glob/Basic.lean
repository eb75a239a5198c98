/-
Glob patterns.

A pattern is a list of tokens: a plain character, `?` for any character, `*` for any run of
characters, `**` for any run of folders, and sets in brackets, negated by `!`.  A pattern is matched
against a whole text, in which slashes are characters like any other; only `**` looks at them, and
it can end at the front of the text, behind a slash, or at the end.

`Glob.read` gives the tokens or the position and kind of a mistake.
-/

namespace Minipack

/-- A part of a set in brackets. -/
inductive GlobSpan where
  | one (c : Char)
  | range (first last : Char)
deriving DecidableEq, Repr

/-- A part of a pattern. -/
inductive GlobToken where
  | char (c : Char)
  | anyChar
  | anyRun
  | anyFolders
  | within (spans : List GlobSpan)
  | except (spans : List GlobSpan)
deriving DecidableEq, Repr

/-- A pattern. -/
abbrev Glob := List GlobToken

/-- What is wrong with a pattern. -/
inductive GlobMistake where
  | tooManyStars
  | mixedStars
  | invalidSet
deriving DecidableEq, Repr

/-- What is wrong, and at which character. -/
structure GlobFault where
  position : Nat
  mistake : GlobMistake
deriving DecidableEq, Repr

/-- The fault in words. -/
def GlobFault.message (fault : GlobFault) : String :=
  let what := match fault.mistake with
    | .tooManyStars => "wildcards are either regular \x60*\x60 or recursive \x60**\x60"
    | .mixedStars => "recursive wildcards must form a single path component"
    | .invalidSet => "invalid range pattern"
  s!"Pattern syntax error near position {fault.position}: " ++ what

namespace Glob

/-- The parts of a set. -/
def spans : List Char → List GlobSpan
  | a :: '-' :: b :: rest => .range a b :: spans rest
  | a :: rest => .one a :: spans rest
  | [] => []

/-- A token that stands for `**`, unless there is one already behind another token. -/
def pushFolders (done : List GlobToken) : List GlobToken :=
  match done with
  | .anyFolders :: _ :: _ => done
  | _ => .anyFolders :: done

/-- What follows a bracket: a set of at least one character and the characters after it. -/
def set? (cs : List Char) : Option (GlobToken × Nat) :=
  let (negated, body) := match cs with
    | '!' :: rest => (true, rest)
    | rest => (false, rest)
  match body with
  | [] => none
  | first :: rest =>
    let inner := rest.takeWhile (· != ']')
    if inner.length = rest.length then none
    else
      let parts := spans (first :: inner)
      some (if negated then .except parts else .within parts,
        inner.length + 2 + if negated then 1 else 0)

/--
Reads tokens, where `done` holds the tokens before in reverse order, `before` the character before,
and `position` counts the characters before.
-/
def readFrom (fuel : Nat) (position : Nat) (before : Option Char) (done : List GlobToken)
    (cs : List Char) : Except GlobFault Glob :=
  match fuel, cs with
  | 0, _ => .ok done.reverse
  | _, [] => .ok done.reverse
  | fuel + 1, '*' :: rest =>
    let more := rest.takeWhile (· == '*')
    let after := rest.drop more.length
    let next := position + 1 + more.length
    match more with
    | [] => readFrom fuel next (some '*') (.anyRun :: done) after
    | [_] =>
      if before.any (· != '/') then .error ⟨position - 1, .mixedStars⟩
      else match after with
        | [] => readFrom fuel next (some '*') (pushFolders done) []
        | c :: rest =>
          if c = '/' then readFrom fuel (next + 1) (some '/') (pushFolders done) rest
          else .error ⟨next, .mixedStars⟩
    | _ => .error ⟨position + 2, .tooManyStars⟩
  | fuel + 1, '?' :: rest => readFrom fuel (position + 1) (some '?') (.anyChar :: done) rest
  | fuel + 1, '[' :: rest =>
    match set? rest with
    | some (token, length) =>
      readFrom fuel (position + 1 + length) (some ']') (token :: done) (rest.drop length)
    | none => .error ⟨position, .invalidSet⟩
  | fuel + 1, c :: rest => readFrom fuel (position + 1) (some c) (.char c :: done) rest

/-- The tokens of a pattern. -/
def read (pattern : String) : Except GlobFault Glob :=
  readFrom (pattern.length + 1) 0 none [] pattern.toList

/-- Whether a part of a set holds a character. -/
def spanHolds (c : Char) : GlobSpan → Bool
  | .one d => c == d
  | .range first last => first ≤ c && c ≤ last

/-- The places at which a run of folders may end. -/
def folderEnds : List Char → List (List Char)
  | [] => [[]]
  | c :: rest => if c = '/' then rest :: folderEnds rest else folderEnds rest

/-- The ends of a text, longest first. -/
def tails : List Char → List (List Char)
  | [] => [[]]
  | c :: rest => (c :: rest) :: tails rest

/-- Whether a token stands for one character. -/
def tokenHolds (c : Char) : GlobToken → Bool
  | .char d => c == d
  | .anyChar => true
  | .within spans => spans.any (spanHolds c)
  | .except spans => !spans.any (spanHolds c)
  | .anyRun => false
  | .anyFolders => false

/-- Whether a pattern matches all of a text. -/
def accepts : Glob → List Char → Bool
  | [], cs => cs.isEmpty
  | .anyRun :: rest, cs => (tails cs).any (accepts rest)
  | .anyFolders :: rest, cs => accepts rest cs || (folderEnds cs).any (accepts rest)
  | token :: rest, cs =>
    match cs with
    | [] => false
    | c :: cs => tokenHolds c token && accepts rest cs

/-- Whether a pattern matches all of a text. -/
def isMatch (glob : Glob) (text : String) : Bool :=
  accepts glob text.toList

/-- Whether a pattern is a run of folders. -/
def isRecursive (glob : Glob) : Bool :=
  glob.contains .anyFolders

/-- The text of a pattern of plain characters. -/
def plain? : Glob → Option (List Char)
  | [] => some []
  | .char c :: rest => (plain? rest).map (c :: ·)
  | _ => none

end Glob

end Minipack
