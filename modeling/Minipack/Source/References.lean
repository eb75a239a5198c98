/-
The references that sources make to other files, by recognisers that know nothing else of their
languages.

* `required` finds `require("specifier")`;
* `imported` finds `@import "specifier"`;
* `addressed` finds `url(specifier)`, with or without quotes;
* `tagged` finds a `src` with a plain value in certain tags, where the tag's name is the hit's tag;
* `environment` finds `process.env.NAME`.
-/
import Minipack.Source.Scan
import Minipack.Text.Blank
import Minipack.Text.Word

namespace Minipack.Source

/-- Whether a character quotes a specifier. -/
def isSpecifierQuote (c : Char) : Bool :=
  c == '\x22' || c == '\x27'

/-- Whether a character stands in a plain specifier. -/
def isSpecifierChar (c : Char) : Bool :=
  Text.isWord c || c == '@' || c == '~' || c == '-' || c == '.' || c == '/'

/-- What follows a word at the front. -/
def expect? (word text : List Char) : Option (List Char) :=
  if word.isPrefixOf text then some (text.drop word.length) else none

/-- The blanks at the front and what follows them. -/
def blanks (text : List Char) : List Char × List Char :=
  (text.takeWhile Text.isBlank, text.dropWhile Text.isBlank)

/-- A quote at the front and what follows it. -/
def quote? : List Char → Option (Char × List Char)
  | c :: rest => if isSpecifierQuote c then some (c, rest) else none
  | [] => none

/-- Characters of a kind at the front, at least one, and what follows them. -/
def some? (kind : Char → Bool) (text : List Char) : Option (List Char × List Char) :=
  let taken := text.takeWhile kind
  if taken.isEmpty then none else some (taken, text.dropWhile kind)

/-- A call of `require` with a plain specifier. -/
def required : Recogniser Unit := fun _ text => do
  let name := "require(".toList
  let (gap, rest) := blanks (← expect? name text)
  let (opening, rest) ← quote? rest
  let (specifier, rest) ← some? isSpecifierChar rest
  let (closing, rest) ← quote? rest
  let (gap', rest) := blanks rest
  let _ ← expect? [')'] rest
  return ⟨name ++ gap ++ [opening], specifier, closing :: gap' ++ [')'], ()⟩

/-- An import of a style sheet. -/
def imported : Recogniser Unit := fun _ text => do
  let name := "@import".toList
  let (gap, rest) ← some? Text.isBlank (← expect? name text)
  let (opening, rest) ← quote? rest
  let (specifier, rest) ← some? (fun c => !isSpecifierQuote c) rest
  let (closing, _) ← quote? rest
  return ⟨name ++ gap ++ [opening], specifier, [closing], ()⟩

/-- Whether a character stands in an address. -/
def isAddressChar (c : Char) : Bool :=
  !(isSpecifierQuote c || c == '(' || c == ')' || Text.isBlank c)

/-- A quote at the front, if there is one, and what follows it. -/
def optionalQuote (text : List Char) : List Char × List Char :=
  match quote? text with
  | some (c, rest) => ([c], rest)
  | none => ([], text)

/-- An address in a style sheet. -/
def addressed : Recogniser Unit := fun _ text => do
  let name := "url(".toList
  let (gap, rest) := blanks (← expect? name text)
  let (opening, rest) := optionalQuote rest
  let (specifier, rest) ← some? isAddressChar rest
  let (closing, rest) := optionalQuote rest
  let (gap', rest) := blanks rest
  let _ ← expect? [')'] rest
  return ⟨name ++ gap ++ opening, specifier, closing ++ gap' ++ [')'], ()⟩

/-- The names of the tags that refer to files. -/
def tagNames : List String :=
  ["wxs", "import", "include", "image", "cover-image"]

/-- The name of a tag at the front, and what follows it. -/
def tagName? (text : List Char) : Option (String × List Char) :=
  tagNames.findSome? fun name =>
    match expect? name.toList text with
    | some rest => if Text.isWordAt rest.head? then none else some (name, rest)
    | none => none

/-- A `src` attribute with a plain value at the front: the text before the value, the value, a
quote. -/
def sourceValue? (before : Option Char) (text : List Char) :
    Option (List Char × List Char × List Char) := do
  if Text.isWordAt before then none
  let name := "src".toList
  let (gap, rest) := blanks (← expect? name text)
  let (gap', rest) := blanks (← expect? ['='] rest)
  let (opening, rest) ← quote? rest
  let (value, rest) ← some? isSpecifierChar rest
  let (closing, _) ← quote? rest
  return (name ++ gap ++ '=' :: gap' ++ [opening], value, [closing])

/-- The first `src` attribute with a plain value before the end of the tag. -/
def sourceInTag? (before : Option Char) : List Char → Option (List Char × List Char × List Char)
  | [] => none
  | c :: rest =>
    match sourceValue? before (c :: rest) with
    | some found => some found
    | none =>
      if c = '>' then none
      else (sourceInTag? (some c) rest).map fun (lead, found) => (c :: lead, found)

/-- A tag with a `src` attribute. -/
def tagged : Recogniser String := fun _ text => do
  let (name, rest) ← tagName? (← expect? ['<'] text)
  let (lead, value, closing) ← sourceInTag? name.toList.getLast? rest
  return ⟨'<' :: name.toList ++ lead, value, closing, name⟩

/-- Whether a character can begin the name of a variable. -/
def isNameStart (c : Char) : Bool :=
  c.isAlpha || c == '_'

/-- A variable of the environment, which no word character touches. -/
def environment : Recogniser Unit := fun before text => do
  if Text.isWordAt before then none
  let lead := "process.env.".toList
  let (name, rest) ← some? Text.isAsciiWord (← expect? lead text)
  -- a letter of another alphabet behind the name makes it a longer word
  if !name.head?.any isNameStart || Text.isWordAt rest.head? then none
  return ⟨lead, name, [], ()⟩

end Minipack.Source
