/-
Resolving a file by its kind, which its extension tells.
-/
import Minipack.Resolve.Descriptor
import Minipack.Resolve.Markup
import Minipack.Resolve.Script
import Minipack.Resolve.Style

namespace Minipack

/-- The kinds of files whose references are followed. -/
inductive SourceKind where
  | descriptor
  | style
  | markup
  | moduleScript
  | script
deriving DecidableEq, Repr

namespace SourceKind

/-- The kind of a file; other files are copied as they are. -/
def of? (file : Path) : Option SourceKind :=
  match (file.extension?.getD "").toLower with
  | "json" => some .descriptor
  | "wxss" => some .style
  | "css" => some .style
  | "scss" => some .style
  | "sass" => some .style
  | "less" => some .style
  | "wxml" => some .markup
  | "wxs" => some .moduleScript
  | "js" => some .script
  | "ts" => some .script
  | _ => none

/-- Follows the references of a file. -/
def resolve (config : Config) (disk : Disk) (file : Path) (source : ByteArray) :
    SourceKind → Except Error Resolve.Resolved
  | descriptor => Resolve.resolveDescriptor config disk file source
  | style => Resolve.resolveStyle config disk file source
  | markup => Resolve.resolveMarkup config disk file source
  | moduleScript => Resolve.resolveModuleScript config disk file source
  | script => Resolve.resolveScript config disk file source

end SourceKind

namespace Resolve

/-- Follows the references of a file of any kind. -/
def resolveFile (config : Config) (disk : Disk) (file : Path) (source : ByteArray) :
    Except Error Resolved :=
  match SourceKind.of? file with
  | some kind => kind.resolve config disk file source
  | none => .ok ⟨source, []⟩

/-- What following the references of a file has to tell. -/
def resolveLog (config : Config) (disk : Disk) (file : Path) (source : ByteArray) : List LogLine :=
  match SourceKind.of? file with
  | some .style => styleLog config disk file source
  | _ => []

end Resolve

end Minipack
