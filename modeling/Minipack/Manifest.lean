/-
Manifests: the parts of a descriptor that a build follows.

An app descriptor lists pages, packages with pages of their own, components, and the icons of a tab
bar.  Packages may be given under two spellings of one name; the first counts unless it is empty.
-/
import Minipack.Json.Reader
import Minipack.Json.Shape
import Minipack.Path.Basic

namespace Minipack

/-- A package of pages below a folder of its own. -/
structure SubPackage where
  root : Option String := none
  pages : List String := []
deriving DecidableEq, Repr

/-- An entry of a tab bar. -/
structure TabItem where
  icon : Option String := none
  selectedIcon : Option String := none
deriving DecidableEq, Repr

/-- What a descriptor refers to. -/
structure Manifest where
  pages : List String := []
  packages : List SubPackage := []
  /-- Packages under the spelling in lower case. -/
  lowerPackages : List SubPackage := []
  usingComponents : List (String × String) := []
  publicComponents : List (String × String) := []
  tabs : Option (List TabItem) := none
deriving DecidableEq, Repr

namespace SubPackage

/-- Reads a package. -/
def ofDocument : Document → Except ShapeFault SubPackage :=
  Document.toRecord "struct SubPackage" ["root", "pages"] (fun package name value => do
    match name with
    | "root" => return { package with root := ← value.toOption Document.toText }
    | _ => return { package with pages := ← value.toListOf Document.toText }) {}

end SubPackage

namespace TabItem

/-- Reads an entry of a tab bar. -/
def ofDocument : Document → Except ShapeFault TabItem :=
  Document.toRecord "struct TabItem" ["iconPath", "selectedIconPath"] (fun item name value => do
    match name with
    | "iconPath" => return { item with icon := ← value.toOption Document.toText }
    | _ => return { item with selectedIcon := ← value.toOption Document.toText }) {}

end TabItem

namespace Manifest

/-- Reads the entries of a tab bar. -/
def tabsOfDocument : Document → Except ShapeFault (List TabItem) :=
  Document.toRecord "struct TabBar" ["list"] (fun _ _ value => value.toListOf TabItem.ofDocument) []

/-- Reads one field. -/
def setField (manifest : Manifest) (name : String) (value : Document) :
    Except ShapeFault Manifest := do
  match name with
  | "pages" => return { manifest with pages := ← value.toListOf Document.toText }
  | "subPackages" => return { manifest with packages := ← value.toListOf SubPackage.ofDocument }
  | "subpackages" =>
    return { manifest with lowerPackages := ← value.toListOf SubPackage.ofDocument }
  | "usingComponents" => return { manifest with usingComponents := ← value.toTable }
  | "publicComponents" => return { manifest with publicComponents := ← value.toTable }
  | _ => return { manifest with tabs := ← value.toOption tabsOfDocument }

/-- Reads a manifest. -/
def ofDocument : Document → Except ShapeFault Manifest :=
  Document.toRecord "struct Manifest"
    ["pages", "subPackages", "subpackages", "usingComponents", "publicComponents", "tabBar"]
    setField {}

/-- Reads a manifest from bytes. -/
def read (content : ByteArray) : Except ShapeFault Manifest :=
  match Document.read? content.toList with
  | some document => ofDocument document
  | none => .error .noDocument

/-- The packages under the spelling that counts. -/
def subPackages (manifest : Manifest) : List SubPackage :=
  if manifest.packages.isEmpty then manifest.lowerPackages else manifest.packages

/-- A page of a package, seen from the folder of the manifest. -/
def packagePage (package : SubPackage) (page : String) : String :=
  match package.root with
  | some root => if root.isEmpty then page else (Path.join ⟨root⟩ ⟨page⟩).text
  | none => page

/-- The pages of the manifest and then those of its packages. -/
def allPages (manifest : Manifest) : List String :=
  manifest.pages ++ manifest.subPackages.flatMap fun package =>
    package.pages.map (packagePage package)

/-- The icons of the tab bar, each once, in order. -/
def tabIcons (manifest : Manifest) : List String :=
  let icons := (manifest.tabs.getD []).flatMap fun item =>
    item.icon.toList ++ item.selectedIcon.toList
  icons.foldl (fun seen icon => if seen.contains icon then seen else seen ++ [icon]) []

/-- The components that are used and those that are offered. -/
def components (manifest : Manifest) : List String :=
  manifest.usingComponents.map Prod.snd ++ manifest.publicComponents.map Prod.snd

end Manifest

end Minipack
