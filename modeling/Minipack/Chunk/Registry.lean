/-
The registry of all chunks of a build, one for each file, in the order of their paths.
-/
import Minipack.Chunk.Basic
import Minipack.Keyed

namespace Minipack

/-- Chunks by file. -/
structure Registry where
  chunks : List Chunk := []

namespace Registry

/-- Puts a chunk in, in place of the chunk of the same file. -/
def add (registry : Registry) (chunk : Chunk) : Registry :=
  ⟨Keyed.insert Chunk.file chunk registry.chunks⟩

/-- The chunk of a file. -/
def get? (registry : Registry) (file : Path) : Option Chunk :=
  Keyed.find? Chunk.file file registry.chunks

/-- Whether there is a chunk of a file. -/
def has (registry : Registry) (file : Path) : Bool :=
  (registry.get? file).isSome

/-- Changes the chunk of a file, when there is one. -/
def update (registry : Registry) (file : Path) (change : Chunk → Chunk) : Registry :=
  match registry.get? file with
  | some chunk => registry.add (change chunk)
  | none => registry

/-- Gives the chunk of a file one destination more, and tells whether it was new. -/
def addDestination (registry : Registry) (file destination : Path) : Registry × Bool :=
  match registry.get? file with
  | some chunk =>
    if chunk.destinations.contains destination then (registry, false)
    else (registry.add (chunk.addDestination destination), true)
  | none => (registry, false)

/-- Drops the chunk of a file. -/
def delete (registry : Registry) (file : Path) : Registry :=
  ⟨Keyed.erase Chunk.file file registry.chunks⟩

/-- Moves all chunks out. -/
def takeAll (registry : Registry) : List Chunk × Registry :=
  (registry.chunks, {})

/-- Drops all chunks. -/
def clear (_ : Registry) : Registry := {}

/-- The chunks that refer to a file. -/
def dependents (registry : Registry) (file : Path) : List Chunk :=
  registry.chunks.filter fun chunk => chunk.dependsOn file

end Registry

end Minipack
