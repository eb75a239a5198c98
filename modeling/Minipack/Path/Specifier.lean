/-
Specifiers: the texts by which one file names another.

A specifier is read from a folder by `joinSpecifier`, where a slash at the front does not leave that
folder, and is written for a folder by `relativeSpecifier`, always with `./` or `../` at the front.
`rebase` moves a path from one folder to another, and `withExtname` swaps an extension that may be
given with its dot.
-/
import Minipack.Path.Basic

namespace Minipack.Path

/-- Whether a character separates steps in a specifier. -/
def isSlash (c : Char) : Bool :=
  c == '/' || c == '\\'

/-- The normal path that `specifier` names when it is read from `base`. -/
def joinSpecifier (base : Path) (specifier : String) : Path :=
  (base.join ⟨String.ofList (specifier.toList.dropWhile isSlash)⟩).normalize

/-- The specifier that reaches `target` from the folder `base`. -/
def relativeSpecifier (base target : Path) : String :=
  let way := (target.relativeTo base).text
  if "../".toList.isPrefixOf way.toList || way = ".." then way else "./" ++ way

/-- Moves `p` from below `source` to the same place below `target`. -/
def rebase? (p source target : Path) : Option Path :=
  (p.strip? source).map target.join

/-- Swaps the extension of `p`; dots at the front of `extname` are dropped. -/
def withExtname (p : Path) (extname : String) : Path :=
  p.withExtension (String.ofList (extname.toList.dropWhile (· == '.')))

end Minipack.Path

namespace Minipack

/-- Drops a byte order mark at the front of a content. -/
def stripMark (content : ByteArray) : ByteArray :=
  if (content.extract 0 3).toList = [0xef, 0xbb, 0xbf] then content.extract 3 content.size
  else content

end Minipack
