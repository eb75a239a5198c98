/-
How a template is put together.

A template is made of text, comments and tags, and a tag of attributes with quoted values
(`Markup`). Tags that include files or show them name these by `src` attributes (`Tag.sources`), and
a template is rewritten by putting other texts in place of their values (`Markup.rewritten`).

References are looked for in the text as it stands, without regard to quotes.  So an attribute can
hide a reference that follows it in its tag, by an angle bracket, or be taken for one itself.  A
template is clear when none of this happens in it (`Markup.isClear`): nothing opens in an attribute
(`Attribute.isClosed`), and up to the first reference of its tag none is seen in it
(`Attribute.isCalm`).
-/
import Minipack.Proofs.Source.Commenting
import Minipack.Proofs.Source.Recognisers

namespace Minipack.Source

/-! ### Names and text -/

/-- Whether a character may stand in the name of a tag or of an attribute. -/
def isMarkupName (c : Char) : Bool :=
  !(Text.isBlank c || isSpecifierQuote c || c == '=' || c == '<' || c == '>' || c == '/')

/-- Whether a text is the name of a tag; that of a closing tag begins with a slash. -/
def isTagName : List Char → Bool
  | [] => false
  | c :: rest => (c.isAlpha || c == '/') && rest.all isMarkupName

/-- Whether a tag or a comment begins when an angle bracket is followed by this character. -/
def isTagStart (c : Char) : Bool :=
  c.isAlpha || c == '/' || c == '!'

/-- Whether no tag and no comment begins in a text. -/
def isText : List Char → Bool
  | [] => true
  | c :: rest => (c != '<' || rest.head?.any fun d => !isTagStart d) && isText rest

/-! ### What is seen without regard to quotes -/

/-- Whether a comment, or a tag that refers to files, opens at the front of a text. -/
def opens (text : List Char) : Bool :=
  markupMarks.first.isPrefixOf text || ((expect? ['<'] text).bind tagName?).isSome

/-- Whether nothing opens at a character of the piece that a text begins with. -/
def isClosed (piece rest : List Char) : Bool :=
  throughout (fun tail => !opens tail) piece rest

/-- Whether no `src` with a plain value is seen at a character of the piece that a text begins with;
`before` stands before the piece. -/
def isUnseen : Option Char → List Char → List Char → Bool
  | _, [], _ => true
  | before, c :: piece, rest =>
    (sourceValue? before (c :: (piece ++ rest))).isNone && isUnseen (some c) piece rest

/-! ### Attributes -/

/-- An attribute with a quoted value, and the blanks before it. -/
structure Attribute where
  gap : List Char
  name : List Char
  /-- The blanks before the sign. -/
  ahead : List Char
  /-- The blanks after the sign. -/
  behind : List Char
  quote : Char
  value : List Char
  gap_ne_nil : gap ≠ []
  isBlank_gap : ∀ c ∈ gap, Text.isBlank c = true
  name_ne_nil : name ≠ []
  isMarkupName_name : ∀ c ∈ name, isMarkupName c = true
  isBlank_ahead : ∀ c ∈ ahead, Text.isBlank c = true
  isBlank_behind : ∀ c ∈ behind, Text.isBlank c = true
  isSpecifierQuote_quote : isSpecifierQuote quote = true
  quote_not_mem_value : quote ∉ value

namespace Attribute

/-- An attribute behind one blank, with its value in double quotes. -/
def ofStrings (name value : String) (hname : name.toList ≠ [])
    (hchars : name.toList.all isMarkupName = true) (hvalue : '\x22' ∉ value.toList) :
    Attribute where
  gap := [' ']
  name := name.toList
  ahead := []
  behind := []
  quote := '\x22'
  value := value.toList
  gap_ne_nil := by decide
  isBlank_gap := List.forall_mem_singleton.2 (by decide)
  name_ne_nil := hname
  isMarkupName_name := List.all_eq_true.1 hchars
  isBlank_ahead := by simp
  isBlank_behind := by simp
  isSpecifierQuote_quote := by decide
  quote_not_mem_value := hvalue

/-- What stands before the value. -/
def lead (a : Attribute) : List Char :=
  a.gap ++ a.name ++ a.ahead ++ '=' :: a.behind ++ [a.quote]

/-- The attribute with another value. -/
def textWith (a : Attribute) (value : List Char) : List Char :=
  a.lead ++ value ++ [a.quote]

/-- The attribute as it is written. -/
def text (a : Attribute) : List Char :=
  a.textWith a.value

/-- Whether the attribute is named `src` and its value is a plain specifier. -/
def isSource (a : Attribute) : Bool :=
  a.name == "src".toList && !a.value.isEmpty && a.value.all isSpecifierChar

/-- Whether no comment and no tag that refers to files opens in the attribute. -/
def isClosed (a : Attribute) : Bool :=
  Source.isClosed a.text []

/-- Whether no `src` with a plain value is seen in the attribute. -/
def isCalm (a : Attribute) : Bool :=
  isUnseen none a.text []

end Attribute

/-! ### Tags -/

/-- A tag with its attributes. -/
structure Tag where
  name : String
  attributes : List Attribute
  /-- The blanks before the end. -/
  gap : List Char := []
  /-- Whether a slash closes the tag at once. -/
  slash : Bool := false
  isTagName_name : isTagName name.toList = true
  isBlank_gap : ∀ c ∈ gap, Text.isBlank c = true

namespace Tag

/-- A tag that is closed at once. -/
def ofName (name : String) (hname : isTagName name.toList = true) (attributes : List Attribute) :
    Tag where
  name := name
  attributes := attributes
  slash := true
  isTagName_name := hname
  isBlank_gap := by simp

/-- What stands behind the attributes. -/
def ending (tag : Tag) : List Char :=
  tag.gap ++ (if tag.slash then ['/', '>'] else ['>'])

/-- The tag with some texts in place of its attributes. -/
def textWith (tag : Tag) (text : Attribute → List Char) : List Char :=
  '<' :: tag.name.toList ++ tag.attributes.flatMap text ++ tag.ending

/-- Whether the tag refers to files. -/
def isNamed (tag : Tag) : Bool :=
  tagNames.contains tag.name

/-- Whether the tag refers to a file by the attribute. -/
def refers (tag : Tag) (a : Attribute) : Bool :=
  tag.isNamed && a.isSource

/-- The values by which the tag refers to files, with its name. -/
def sources (tag : Tag) : List (String × String) :=
  (tag.attributes.filter tag.refers).map fun a => (tag.name, String.ofList a.value)

/-- An attribute of the tag, with another value if the tag refers to a file by it. -/
def attributeWith (f : String → String → String) (tag : Tag) (a : Attribute) : List Char :=
  if tag.refers a then a.textWith (f tag.name (String.ofList a.value)).toList else a.text

/-- The tag with other values by which it refers to files. -/
def rewritten (f : String → String → String) (tag : Tag) : List Char :=
  tag.textWith (tag.attributeWith f)

/-- Whether at most one of the attributes refers to a file, nothing before it hides it, and nothing
else is taken for one up to it. -/
def isInOrder (refers : Attribute → Bool) : List Attribute → Bool
  | [] => true
  | a :: rest =>
    if refers a then rest.all fun b => !refers b
    else a.isCalm && (!a.value.contains '>' || rest.all fun b => !refers b) && isInOrder refers rest

/-- Whether the tag is what it seems to be when it is read without regard to quotes. -/
def isClear (tag : Tag) : Bool :=
  tag.attributes.all Attribute.isClosed &&
    ((tagName? tag.name.toList).isNone || isInOrder tag.refers tag.attributes)

end Tag

/-! ### Templates -/

/-- A part of a template. -/
inductive Markup where
  | text (chars : List Char) (isText_chars : isText chars = true)
  /-- A comment by what stands between its marks. -/
  | comment (body : List Char) (open_body : ¬ ['-', '-', '>'] <:+: body ++ ['-', '-'])
  | tag (tag : Tag)

namespace Markup

/-- The part as it is written. -/
def source : Markup → List Char
  | text chars _ => chars
  | comment body _ => ['<', '!', '-', '-'] ++ body ++ ['-', '-', '>']
  | tag t => t.textWith Attribute.text

/-- The part without comments, with other values by which tags refer to files. -/
def rewritten (f : String → String → String) : Markup → List Char
  | text chars _ => chars
  | comment _ _ => []
  | tag t => t.rewritten f

/-- The values by which tags refer to files, with the names of the tags. -/
def sources : Markup → List (String × String)
  | text _ _ => []
  | comment _ _ => []
  | tag t => t.sources

/-- Whether tags are what they seem to be. -/
def isClear : Markup → Bool
  | text _ _ => true
  | comment _ _ => true
  | tag t => t.isClear

end Markup

end Minipack.Source
