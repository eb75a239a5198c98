/-
Looking up what a specifier names.

A specifier with a slash at the front is taken from the source folder, others from the folder of the
file they stand in.  Modules are all files of one name, whatever their extension; scripts may leave
out an extension or the name of an index; packages are looked for in the `node_modules` folder of
every folder above.
-/
import Minipack.Config.Basic
import Minipack.Glob.Search
import Minipack.Source.References

namespace Minipack.Resolve

/-- What a file refers to, and its content with the references as the output has them. -/
structure Resolved where
  content : ByteArray
  dependencies : List Dependency

/-- A reference, and the text that stands for it in the compiled file. -/
structure Reference where
  dependency : Dependency
  text : String

/-- Whether a text begins with another. -/
def beginsWith (text start : String) : Bool :=
  start.toList.isPrefixOf text.toList

/-- The path that a specifier in a file points at. -/
def locate (config : Config) (file : Path) (specifier : String) : Path :=
  if beginsWith specifier "/" then config.src.joinSpecifier specifier
  else (config.folderOf file).joinSpecifier specifier

/-- The specifier by which a file reaches another once both are compiled. -/
def compiledSpecifier (config : Config) (file target : Path) : String :=
  ((config.destination file).parent?.getD config.out).relativeSpecifier (config.destination target)

/-- A reference to a file that is compiled too. -/
def compiledReference (config : Config) (file target : Path) (required : String)
    (kind : Option ChunkKind) (suffix : String) : Reference :=
  let text := compiledSpecifier config file target ++ suffix
  let dependency : Dependency :=
    { file, target, destination := config.destination target, required, kind }
  ⟨dependency.replaceWith text, text⟩

/-- A reference to a resource, which is copied to the static folder and named by its address. -/
def staticDependency (config : Config) (file target : Path) (required : String) : Dependency :=
  let destination := config.staticDestination target
  let dependency : Dependency := { file, target, destination, required }
  dependency.replaceWith (config.publicUrl destination)

/-- Whether a specifier names something outside of the project. -/
def isRemote (specifier : String) : Bool :=
  beginsWith specifier "http://" || beginsWith specifier "https://" || beginsWith specifier "//" ||
    beginsWith specifier "data:"

/-- Whether a specifier names a file of a package. -/
def isPackage (specifier : String) : Bool :=
  beginsWith specifier "~" || beginsWith specifier "@"

/-! ### Modules -/

/-- The extensions that belong to a module whatever the rules say. -/
def moduleExtensions : List String :=
  ["json", "js", "ts", "wxml", "wxss"]

/-- Whether a file belongs to the module of a name. -/
def isModuleFile (config : Config) (disk : Disk) (stem : String) (file : Path) : Bool :=
  disk.isFile file && file.stem? == some stem &&
    (file.extension?.any moduleExtensions.contains || (config.rule? file).isSome)

/-- The files of the module that a name seen from a folder stands for; none without its folder. -/
def findModule (config : Config) (disk : Disk) (name : String) (base : Path) :
    Option (List Path) :=
  let target := base.joinSpecifier name
  match target.parent?, target.fileName? with
  | some folder, some stem =>
    match disk.names folder with
    | .error _ => none
    | .ok names =>
      some ((names.map folder.child).filter (isModuleFile config disk stem))
  | _, _ => none

/-! ### Scripts and packages -/

/-- The file that a path stands for, with an extension or an index left out. -/
def findScript (disk : Disk) (path : Path) : Option Path :=
  let extended := ["js", "ts", "json"].map fun extension => Path.mk (path.text ++ "." ++ extension)
  let indices := ["index.js", "index.ts"].map path.child
  (path :: (extended ++ indices)).find? disk.isFile

/-- The main file of a package, when its descriptor can be read. -/
def packageMain? (disk : Disk) (package : Path) : Option Path := do
  let content ← disk.read? (package.child "package.json")
  let descriptor ← Json.read? content.toList
  let main := ((descriptor.get? "main").bind Json.string?).getD "index.js"
  findScript disk (package.joinSpecifier main)

/-- A specifier without the marks of a package. -/
def packageName (specifier : String) : String :=
  String.ofList ((specifier.toList.dropWhile (· == '~')).dropWhile (· == '/'))

/-- The file of a package that a specifier names, from the nearest folder that has it. -/
def findPackage (disk : Disk) (specifier : String) (base : Path) : Option Path :=
  base.ancestors.findSome? fun folder =>
    let candidate := (folder.child "node_modules").child (packageName specifier)
    match packageMain? disk candidate with
    | some main => some main
    | none => findScript disk candidate

/-- The file of a package that a resource specifier names. -/
def findPackageResource (config : Config) (disk : Disk) (file : Path) (specifier : String) :
    Option Path :=
  (findPackage disk specifier (config.folderOf file)).filter disk.isFile

/-! ### Replacing -/

/-- Reads a source as text. -/
def decodeSource (source : ByteArray) : Except Error (List Char) :=
  match Text.decode source with
  | .ok text => .ok text.toList
  | .error fault => .error (.notText source fault)

/-- Replaces the references of a text and collects them. -/
def replaceReferences {τ : Type} (find : Source.Recogniser τ)
    (resolve : Source.Hit τ → Except Error (Option Reference)) (text : List Char) :
    Except Error (List Char × List Dependency) :=
  Source.replaceCaptured (fun hit => (resolve hit).map fun found =>
    found.map fun reference => (reference.text.toList, reference.dependency))
    (Source.segments find none text)

/-- A resolved source of changed text. -/
def Resolved.ofText (text : List Char) (dependencies : List Dependency) : Resolved :=
  ⟨(String.ofList text).toUTF8, dependencies⟩

end Minipack.Resolve
