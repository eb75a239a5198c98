/-
Compiling one file: reading it, following its references and running its loaders.
-/
import Minipack.Chunk.Registry
import Minipack.Loader.Chain
import Minipack.Resolve.Basic

namespace Minipack

/-- A file to compile. -/
structure Task where
  file : Path
  /-- Where the file is written, if not where its path tells. -/
  destination : Option Path := none
  kind : ChunkKind := .entry

namespace Task

/-- Compiles a known chunk again in its role. -/
def ofChunk (chunk : Chunk) : Task :=
  ⟨chunk.file, chunk.destination?, chunk.kind⟩

/-- Compiles the target of a reference. -/
def ofDependency (dependency : Dependency) : Task :=
  ⟨dependency.target, some dependency.destination, dependency.kind.getD .entry⟩

end Task

namespace Compile

/-- The content of a file to compile. -/
def readSource (disk : Disk) (file : Path) : Except Error ByteArray :=
  match disk.read file with
  | .ok source => .ok source
  | .error .notFound => .error (.fileNotFound file.display)
  | .error fault => .error (.system (.disk fault))

/-- The chunk of a source, with the destinations that the file had before. -/
def compileSource (config : Config) (disk : Disk) (registry : Registry) (task : Task)
    (source : ByteArray) : Except Error Chunk := do
  let rule := config.rule? task.file
  let resolved ← Resolve.resolveFile config disk task.file source
  let transformed ← runLoaders config .compile ((rule.map Rule.loaders).getD []) task.file task.kind
    resolved.content none
  let chunk : Chunk := {
    file := task.file
    kind := task.kind
    content := transformed.content
    sourceMap := transformed.sourceMap
    dependencies := resolved.dependencies ++ transformed.dependencies
    destinations := [task.destination.getD (config.destination task.file)]
    rule := rule
    hash := digest source }
  let known := ((registry.get? task.file).map Chunk.destinations).getD []
  return chunk.addDestinations known

/-- Compiles one file. -/
def compileFile (config : Config) (disk : Disk) (registry : Registry) (task : Task) :
    Except Error Chunk :=
  match readSource disk task.file with
  | .error error => .error error
  | .ok source => compileSource config disk registry task source

/-- What compiling a file has to tell. -/
def fileLog (config : Config) (disk : Disk) (task : Task) : List LogLine :=
  match readSource disk task.file with
  | .error _ => []
  | .ok source => Resolve.resolveLog config disk task.file source

end Compile

end Minipack
