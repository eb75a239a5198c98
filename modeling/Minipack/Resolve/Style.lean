/-
References of style sheets: imported sheets, which are compiled, and resources named by addresses,
which are copied to the static folder.

An import that cannot be found stays as it is and is told; an address that cannot be found is an
error.
-/
import Minipack.Resolve.Lookup
import Minipack.Source.Comments

namespace Minipack.Resolve

/-- The sheet that a path stands for, with an extension or the underscore of a part left out. -/
def findStyle (disk : Disk) (extension : String) (path : Path) : Option Path :=
  if disk.isFile path then some path
  else
    match path.fileName? with
    | none => none
    | some name =>
      let names := [name ++ "." ++ extension, name ++ ".wxss", "_" ++ name ++ "." ++ extension]
      (names.map path.withFileName).find? disk.isFile

/-- The sheet that a style sheet imports. -/
def findImported (config : Config) (disk : Disk) (file : Path) (specifier : String) : Option Path :=
  let extension := file.extension?.getD "wxss"
  if isPackage specifier then
    let name := String.ofList (specifier.toList.dropWhile (· == '~'))
    (config.folderOf file).ancestors.findSome? fun folder =>
      findStyle disk extension ((folder.child "node_modules").child name)
  else findStyle disk extension (locate config file specifier)

/-- The reference that an import makes, unless it leads outside or nowhere. -/
def importReference? (config : Config) (disk : Disk) (file : Path) (specifier : String) :
    Option Reference :=
  if isRemote specifier then none
  else (findImported config disk file specifier).map fun target =>
    compiledReference config file target specifier none ""

/-- Splits an address before its query or fragment. -/
def splitSuffix (specifier : String) : String × String :=
  let text := specifier.toList
  let path := text.takeWhile fun c => c != '?' && c != '#'
  (String.ofList path, String.ofList (text.drop path.length))

/-- The reference that an address makes, unless it leads outside. -/
def addressReference (config : Config) (disk : Disk) (file : Path) (specifier : String) :
    Except Error (Option Reference) :=
  if isRemote specifier || beginsWith specifier "#" then .ok none
  else
    let (path, suffix) := splitSuffix specifier
    if isPackage path then
      match findPackageResource config disk file path with
      | some target => .ok (some (compiledReference config file target specifier none suffix))
      | none => .error (.resolve file (.unresolvedUrl specifier))
    else
      let target := locate config file path
      if disk.isFile target then
        let dependency := staticDependency config file target specifier
        let text := config.publicUrl dependency.destination ++ suffix
        .ok (some ⟨dependency.replaceWith text, text⟩)
      else .error (.resolve file (.missingUrl specifier target))

/-- The line that tells of an import that leads nowhere. -/
def unresolvedImport (file : Path) (specifier : String) : LogLine :=
  ⟨.warn, "resolver", s!"{file.display}: cannot resolve @import \x22{specifier}\x22"⟩

/-- The imports of a style sheet without comments that lead nowhere, as lines to tell. -/
def unresolvedImports (config : Config) (disk : Disk) (file : Path) (text : List Char) :
    List LogLine :=
  let specifiers := (Source.hits Source.imported text).map Source.Hit.capturedText
  (specifiers.filter fun specifier =>
    !isRemote specifier && (findImported config disk file specifier).isNone).map
      (unresolvedImport file)

/-- Resolves a style sheet. -/
def resolveStyle (config : Config) (disk : Disk) (file : Path) (source : ByteArray) :
    Except Error Resolved := do
  let text := Source.stripBlockComments (← decodeSource source)
  let (text, imports) ← replaceReferences Source.imported
    (fun hit => .ok (importReference? config disk file hit.capturedText)) text
  -- addresses are looked for in the text that already has its imports replaced
  let (text, resources) ← replaceReferences Source.addressed
    (fun hit => addressReference config disk file hit.capturedText) text
  return .ofText (Text.trimBlank text) (imports ++ resources)

/-- What resolving a style sheet has to tell. -/
def styleLog (config : Config) (disk : Disk) (file : Path) (source : ByteArray) : List LogLine :=
  match decodeSource source with
  | .ok text => unresolvedImports config disk file (Source.stripBlockComments text)
  | .error _ => []

end Minipack.Resolve
