/-
Regular expressions over characters, and the texts they match.

An expression takes the positions of a text to positions of it: `Regex.ends text r starts` holds the
positions at which a match of `r` can end that begins at one of `starts`.  Positions lie between the
characters, so that a text of `n` characters has `n + 1` of them, and a match found anywhere in the
text is an end of some start.
-/
import Minipack.Text.Blank
import Minipack.Text.CaseFold
import Minipack.Text.Property
import Minipack.Text.Word

namespace Minipack

/-- A set of characters. -/
inductive CharClass where
  | nothing
  /-- The characters from `first` to `last`. -/
  | range (first last : Char)
  | word
  | digit
  | blank
  /-- The characters of a named set. -/
  | named (ranges : List (Nat × Nat))
  | either (a b : CharClass)
  | both (a b : CharClass)
  | other (a : CharClass)
  /-- The characters with a variant in the set. -/
  | anyCase (a : CharClass)
  /-- The characters with an ASCII variant in the set. -/
  | anyAsciiCase (a : CharClass)

namespace CharClass

/-- A set of one character. -/
def one (c : Char) : CharClass :=
  range c c

/-- What lies in `a` but not in `b`. -/
def minus (a b : CharClass) : CharClass :=
  both a (other b)

/-- What lies in exactly one of `a` and `b`. -/
def differing (a b : CharClass) : CharClass :=
  either (minus a b) (minus b a)

/-- All characters. -/
def anything : CharClass :=
  other nothing

/-- Whether a set holds a character. -/
def holds : CharClass → Char → Bool
  | nothing, _ => false
  | range first last, c => first ≤ c && c ≤ last
  | word, c => Text.isWord c
  | digit, c => Text.isDecimalDigit c
  | blank, c => Text.isBlank c
  | named ranges, c => ranges.any fun r => r.1 ≤ c.toNat && c.toNat ≤ r.2
  | either a b, c => a.holds c || b.holds c
  | both a b, c => a.holds c && b.holds c
  | other a, c => !a.holds c
  | anyCase a, c => (Text.caseVariants c).any a.holds
  | anyAsciiCase a, c => (Text.asciiVariants c).any a.holds

end CharClass

/-- A condition on a position. -/
inductive Anchor where
  | textStart
  | textEnd
  | lineStart
  | lineEnd
  /-- As `lineStart`, where a carriage return with its line feed also ends a line. -/
  | returnStart
  | returnEnd
  | boundary
  | noBoundary
  | wordStart
  | wordEnd
  /-- No word character before. -/
  | halfStart
  /-- No word character after. -/
  | halfEnd
deriving DecidableEq, Repr

namespace Anchor

/-- Whether the condition holds between two neighbours, where `isWord` tells word characters. -/
def holds (isWord : Char → Bool) (before after : Option Char) : Anchor → Bool
  | textStart => before.isNone
  | textEnd => after.isNone
  | lineStart => before.all (· == '\n')
  | lineEnd => after.all (· == '\n')
  | returnStart => before.all (· == '\n') || (before == some '\r' && after != some '\n')
  | returnEnd => after.all (· == '\r') || (after == some '\n' && before != some '\r')
  | boundary => before.any isWord != after.any isWord
  | noBoundary => before.any isWord == after.any isWord
  | wordStart => !before.any isWord && after.any isWord
  | wordEnd => before.any isWord && !after.any isWord
  | halfStart => !before.any isWord
  | halfEnd => !after.any isWord

end Anchor

/-- A regular expression. -/
inductive Regex where
  | nothing
  | char (set : CharClass)
  /-- A condition, with ASCII word characters only when `ascii` is set. -/
  | anchor (ascii : Bool) (condition : Anchor)
  | sequence (first second : Regex)
  | either (a b : Regex)
  /-- At least `least` and at most `most` matches of an expression in a row. -/
  | repeated (r : Regex) (least : Nat) (most : Option Nat)

namespace Regex

/-- Merges two increasing lists. -/
def merge (a b : List Nat) : List Nat :=
  (List.merge a b).eraseReps

/-- Takes `step` so many times, or fewer when nothing changes any more. -/
def steps (step : List Nat → List Nat) : Nat → List Nat → List Nat
  | 0, positions => positions
  | n + 1, positions =>
    let next := step positions
    if next = positions then positions else steps step n next

/-- What at most `rounds` more steps from `fresh` reach, together with `known`. -/
def reach (step : List Nat → List Nat) : Nat → List Nat → List Nat → List Nat
  | 0, known, _ => known
  | rounds + 1, known, fresh =>
    -- a position that is known already leads nowhere new
    let found := (step fresh).filter fun i => !known.contains i
    if found.isEmpty then known else reach step rounds (merge known found) found

/-- Where matches end that start at one of the given positions. -/
def ends (text : Array Char) : Regex → List Nat → List Nat
  | nothing, starts => starts
  | char set, starts => starts.filterMap fun i =>
      match text[i]? with
      | some c => if set.holds c then some (i + 1) else none
      | none => none
  | anchor ascii condition, starts => starts.filter fun i =>
      condition.holds (if ascii then Text.isAsciiWord else Text.isWord)
        (if i = 0 then none else text[i - 1]?) text[i]?
  | sequence first second, starts => second.ends text (first.ends text starts)
  | either a b, starts => merge (a.ends text starts) (b.ends text starts)
  | repeated r least most, starts =>
    let begun := steps (r.ends text) least starts
    let rounds := match most with
      | some most => most - least
      | none => text.size + 1
    reach (r.ends text) rounds begun begun

/-- Whether a match lies anywhere in a text. -/
def isMatch (r : Regex) (text : String) : Bool :=
  let chars := text.toList.toArray
  !(r.ends chars (List.range (chars.size + 1))).isEmpty

end Regex

end Minipack
