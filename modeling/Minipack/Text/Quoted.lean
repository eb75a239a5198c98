/-
Quoted text, the form in which messages show a text as a value: double quotes around it, a backslash
before quotes and backslashes, short escapes for the common controls, and the code point in braces
for whatever has no visible form of its own.

`quote` is the form of a plain text.  `quotePath` is the form of a file name, in which single quotes
are escaped too.
-/
import Minipack.Text.Printable

namespace Minipack.Text

/-- The code point of `c` in lower-case hexadecimal digits. -/
def hexCode (c : Char) : List Char :=
  Nat.toDigits 16 c.toNat

/-- A character as it stands between the quotes; `single` asks for single quotes to be escaped. -/
def escapeQuoted (single : Bool) (c : Char) : List Char :=
  if c = '\x00' then ['\\', '0']
  else if c = '\t' then ['\\', 't']
  else if c = '\r' then ['\\', 'r']
  else if c = '\n' then ['\\', 'n']
  else if c = '\\' then ['\\', '\\']
  else if c = '\x22' then ['\\', '\x22']
  else if c = '\x27' && single then ['\\', '\x27']
  else if isPrintable c && !isExtending c then [c]
  else ['\\', 'u', '\x7b'] ++ hexCode c ++ ['\x7d']

/-- Puts double quotes around the escaped characters of `text`. -/
def quoteWith (single : Bool) (text : String) : String :=
  String.ofList ('\x22' :: text.toList.flatMap (escapeQuoted single) ++ ['\x22'])

/-- A text as a quoted value. -/
def quote (text : String) : String :=
  quoteWith false text

/-- A file name as a quoted value. -/
def quotePath (text : String) : String :=
  quoteWith true text

end Minipack.Text
