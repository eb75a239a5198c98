/-
References of templates: scripts and templates that are included, and media files.

An included file is compiled and named by its compiled place; so is a file of a package.  Other
files are copied to the static folder and named by their address.
-/
import Minipack.Resolve.Lookup
import Minipack.Source.Comments

namespace Minipack.Resolve

/-- Whether a tag refers to a file that is compiled, judged by the specifier. -/
def isCompiledSource (config : Config) (tag specifier : String) : Bool :=
  ["wxs", "import", "include"].contains tag &&
    match (Path.mk specifier).extension? with
    | none => true
    | some extension =>
      extension == "wxml" || extension == "wxs" || (config.rule? ⟨specifier⟩).isSome

/-- The file that a tag includes, with the extension that may be left out. -/
def findTemplate (config : Config) (disk : Disk) (file : Path) (tag specifier : String) :
    Option Path :=
  let target := locate config file specifier
  if disk.isFile target then some target
  else if target.extension?.isSome then none
  else [target.withExtension (if tag = "wxs" then "wxs" else "wxml")].find? disk.isFile

/-- The reference that a tag makes. -/
def tagReference (config : Config) (disk : Disk) (file : Path) (tag specifier : String) :
    Except Error Reference :=
  let compiled (target : Option Path) : Except Error Reference :=
    match target with
    | some target => .ok (compiledReference config file target specifier none "")
    | none => .error (.resolve file (.missingSource tag specifier))
  if isCompiledSource config tag specifier then
    compiled (findTemplate config disk file tag specifier)
  else if isPackage specifier then
    compiled (findPackageResource config disk file specifier)
  else
    let target := locate config file specifier
    if disk.isFile target then
      let dependency := staticDependency config file target specifier
      .ok ⟨dependency, config.publicUrl dependency.destination⟩
    else .error (.resolve file (.missingMedia tag specifier target))

/-- Resolves a template. -/
def resolveMarkup (config : Config) (disk : Disk) (file : Path) (source : ByteArray) :
    Except Error Resolved := do
  let text := Source.stripMarkupComments (← decodeSource source)
  let (text, dependencies) ← replaceReferences Source.tagged
    (fun hit => (tagReference config disk file hit.tag hit.capturedText).map some) text
  return .ofText text dependencies

end Minipack.Resolve
