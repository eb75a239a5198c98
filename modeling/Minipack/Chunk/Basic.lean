/-
Chunks: the compiled form of one source file, with what it refers to and where it is written.
-/
import Minipack.Digest
import Minipack.Rule

namespace Minipack

/-- A reference from one file to another. -/
structure Dependency where
  /-- The file that holds the reference. -/
  file : Path
  /-- The file referred to. -/
  target : Path
  /-- Where the target is written. -/
  destination : Path
  /-- The specifier as written in the source. -/
  required : String
  /-- The specifier that the compiled file has instead, when it differs. -/
  replacement : Option String := none
  kind : Option ChunkKind := none
  /-- A file that a loader took in: it matters for changes but is not compiled on its own. -/
  embedded : Bool := false

namespace Dependency

/-- The dependency with the specifier of the compiled file, which is kept only when it differs. -/
def replaceWith (dependency : Dependency) (specifier : String) : Dependency :=
  if specifier = dependency.required then dependency
  else { dependency with replacement := some specifier }

/-- The specifier as the compiled file has it. -/
def specifier (dependency : Dependency) : String :=
  dependency.replacement.getD dependency.required

/-- All specifiers by which the compiled file may name the target. -/
def specifiers (dependency : Dependency) : List String :=
  dependency.required :: dependency.replacement.toList

end Dependency

/-- A compiled file. -/
structure Chunk where
  file : Path
  kind : ChunkKind
  content : ByteArray := .empty
  sourceMap : Option String := none
  dependencies : List Dependency := []
  /-- Where the chunk is written, without repetitions, the primary destination first. -/
  destinations : List Path := []
  rule : Option Rule := none
  /-- The digest of the source. -/
  hash : String := ""

namespace Chunk

/-- The primary destination. -/
def destination? (chunk : Chunk) : Option Path :=
  chunk.destinations.head?

/-- The chunk with one destination more, unless it is known. -/
def addDestination (chunk : Chunk) (destination : Path) : Chunk :=
  if chunk.destinations.contains destination then chunk
  else { chunk with destinations := chunk.destinations ++ [destination] }

/-- The chunk with all the given destinations. -/
def addDestinations (chunk : Chunk) (destinations : List Path) : Chunk :=
  destinations.foldl addDestination chunk

/-- Whether the chunk refers to a file. -/
def dependsOn (chunk : Chunk) (file : Path) : Bool :=
  chunk.dependencies.any fun dependency => dependency.target == file

/-- Whether the primary destination is a script. -/
def isScript (chunk : Chunk) : Bool :=
  (chunk.destination?.bind Path.extension?) == some "js"

/-- The references whose targets are compiled on their own. -/
def followed (chunk : Chunk) : List Dependency :=
  chunk.dependencies.filter fun dependency => !dependency.embedded

/-- The content as text. -/
def contentText (chunk : Chunk) : String :=
  Text.decodeLossy chunk.content

end Chunk

end Minipack
