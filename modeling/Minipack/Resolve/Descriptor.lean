/-
References of descriptors: pages, components, icons and the main file of a plugin.

The app descriptor is a manifest and must list pages; in other descriptors pages and components are
taken as far as they are given.  The project descriptor refers to nothing, but the folders it names
are changed for the output, where the source folder's name is gone.
-/
import Minipack.Json.Writer
import Minipack.Resolve.Lookup

namespace Minipack.Resolve

/-! ### The project descriptor -/

/-- A folder seen from the project, as seen from the output. -/
def stripBuildFolder (config : Config) (folder : String) : String :=
  let names := [config.src.fileName?, config.out.fileName?]
  let steps := (Path.mk folder).components.filter (· != .current)
  let steps := match steps with
    | .name first :: rest => if names.contains (some first) then rest else steps
    | steps => steps
  let rest := (Path.ofComponents steps).text
  if rest.isEmpty then "./"
  else if folder.toList.getLast? = some '/' then rest ++ "/"
  else rest

/-- The fields of the project descriptor that name folders. -/
def folderFields : List String :=
  ["miniprogramRoot", "pluginRoot"]

/-- A member of the project descriptor as seen from the output. -/
def outputMember (config : Config) : String × Json → String × Json
  | (name, .string folder) =>
    (name, .string (if folderFields.contains name then stripBuildFolder config folder else folder))
  | member => member

/-- The project descriptor as seen from the output. -/
def outputProject (config : Config) : Json → Json
  | .object members => .object (members.map (outputMember config))
  | document => document

/-! ### Pages and components -/

/-- References to the files of a module. -/
def moduleDependencies (config : Config) (file : Path) (name : String) (targets : List Path) :
    List Dependency :=
  targets.map fun target =>
    { file, target, destination := config.destination target, required := name }

/-- References to the files of a page. -/
def pageDependencies (config : Config) (disk : Disk) (file : Path) (page : String) :
    Except Error (List Dependency) :=
  let base := if beginsWith page "/" then config.src else config.folderOf file
  match findModule config disk page base with
  | some targets => .ok (moduleDependencies config file page targets)
  | none => .error (.resolve file (.missingPageFolder page))

/-- References to the files of pages. -/
def pagesDependencies (config : Config) (disk : Disk) (file : Path) (pages : List String) :
    Except Error (List Dependency) :=
  (pages.mapM (pageDependencies config disk file)).map List.flatten

/-- References to the files of a component, looked up next to the descriptor and then from the
source folder.  A component of another plugin, or one that is not found, makes none. -/
def componentDependencies (config : Config) (disk : Disk) (file : Path) (component : String) :
    List Dependency :=
  if beginsWith component "plugin://" then []
  else
    let bases :=
      if beginsWith component "/" then [config.src] else [config.folderOf file, config.src]
    match bases.findSome? fun base => findModule config disk component base with
    | some targets => moduleDependencies config file component targets
    | none => []

/-- References that a manifest makes to pages and icons. -/
def manifestDependencies (config : Config) (disk : Disk) (file : Path) (manifest : Manifest) :
    Except Error (List Dependency) :=
  if manifest.pages.isEmpty then .error (.resolve file .noPages)
  else do
    let pages ← pagesDependencies config disk file manifest.allPages
    let icons := manifest.tabIcons.map fun icon =>
      staticDependency config file (locate config file icon) icon
    return pages ++ icons

/-- References that another descriptor makes to pages and to its main file. -/
def descriptorDependencies (config : Config) (disk : Disk) (file : Path) (document : Json) :
    Except Error (List Dependency) := do
  let names := ((document.get? "pages").map Json.strings).getD []
  let pages ← pagesDependencies config disk file names
  let main := ((document.get? "main").bind Json.string?).toList.map fun main =>
    let target := locate config file main
    { file, target, destination := config.destination target, required := main : Dependency }
  return pages ++ main

/-- The components that a descriptor uses and offers. -/
def componentNames (document : Json) : List String :=
  ["usingComponents", "publicComponents"].flatMap fun field =>
    ((document.get? field).map Json.strings).getD []

/-- Resolves a descriptor. -/
def resolveDescriptor (config : Config) (disk : Disk) (file : Path) (source : ByteArray) :
    Except Error Resolved :=
  match Json.read? source.toList with
  | none => .error (.resolve file .invalidJson)
  | some document =>
    if file == config.projectFile then
      .ok ⟨((outputProject config document).pretty ++ "\n").toUTF8, []⟩
    else do
      let dependencies ←
        if file == config.manifestFile then
          match Manifest.ofDocument (Document.ofJson document) with
          | .ok manifest => manifestDependencies config disk file manifest
          | .error fault => .error (.resolve file (.invalidManifest fault))
        else descriptorDependencies config disk file document
      let components := (componentNames document).flatMap (componentDependencies config disk file)
      return ⟨source, dependencies ++ components⟩

end Minipack.Resolve
