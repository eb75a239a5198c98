/-
Scanning a source for references.

A recogniser looks at the front of a text, knowing the character before it, and finds a hit there or
not.  A hit is a piece of text with a captured part inside.  `segments` cuts a text into hits and
single characters between them, from left to right and without overlap, and `replaceCaptured` puts
other texts in place of the captured parts.
-/

namespace Minipack.Source

/-- A piece of text with a captured part, and what kind of piece it is. -/
structure Hit (τ : Type) where
  lead : List Char
  captured : List Char
  trail : List Char
  tag : τ

namespace Hit

variable {τ : Type}

/-- The whole piece. -/
def text (hit : Hit τ) : List Char :=
  hit.lead ++ hit.captured ++ hit.trail

/-- The piece with another text in place of the captured part. -/
def substitute (hit : Hit τ) (replacement : List Char) : List Char :=
  hit.lead ++ replacement ++ hit.trail

/-- The captured part as a string. -/
def capturedText (hit : Hit τ) : String :=
  String.ofList hit.captured

theorem substitute_captured (hit : Hit τ) : hit.substitute hit.captured = hit.text := rfl

end Hit

/-- Finds a hit at the front of a text, given the character before it. -/
abbrev Recogniser (τ : Type) := Option Char → List Char → Option (Hit τ)

/-- A part of a source. -/
inductive Segment (τ : Type) where
  | kept (c : Char)
  | hit (hit : Hit τ)

variable {τ : Type}

/-- The text of a part. -/
def Segment.text : Segment τ → List Char
  | kept c => [c]
  | hit h => h.text

/-- Cuts a text into hits and the characters between them. -/
def segments (find : Recogniser τ) (before : Option Char) (text : List Char) : List (Segment τ) :=
  match text with
  | [] => []
  | c :: rest =>
    match find before (c :: rest) with
    | none => .kept c :: segments find (some c) rest
    | some hit =>
      .hit hit :: segments find hit.text.getLast? (rest.drop (hit.text.length - 1))
termination_by text.length
decreasing_by all_goals simp only [List.length_drop, List.length_cons]; omega

/-- The hits in a text. -/
def hits (find : Recogniser τ) (text : List Char) : List (Hit τ) :=
  (segments find none text).filterMap fun
    | .kept _ => none
    | .hit hit => some hit

/--
Puts texts in place of captured parts.  `replace` is asked once for each hit, from left to right; it
keeps the hit, or gives a text and something to collect, or ends everything with an error.
-/
def replaceCaptured {ε α : Type} (replace : Hit τ → Except ε (Option (List Char × α))) :
    List (Segment τ) → Except ε (List Char × List α)
  | [] => .ok ([], [])
  | .kept c :: rest =>
    match replaceCaptured replace rest with
    | .ok (text, found) => .ok (c :: text, found)
    | .error e => .error e
  | .hit hit :: rest =>
    match replace hit with
    | .error e => .error e
    | .ok change =>
      match replaceCaptured replace rest with
      | .error e => .error e
      | .ok (text, found) =>
        match change with
        | none => .ok (hit.text ++ text, found)
        | some (replacement, thing) => .ok (hit.substitute replacement ++ text, thing :: found)

end Minipack.Source
