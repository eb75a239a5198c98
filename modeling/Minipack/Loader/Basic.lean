/-
Loaders: steps that change the content of a file while it is compiled.

A loader is a function of the file, its content, its role and the options bound to it, so that the
same input always gives the same output.
-/
import Minipack.Chunk.Kind
import Minipack.Error
import Minipack.Json.Basic

namespace Minipack

/-- What a loader sees of the file. -/
structure LoaderInput where
  file : Path
  content : ByteArray
  sourceMap : Option String
  kind : ChunkKind

/-- The folders of the build and the options of the binding. -/
structure LoaderContext where
  root : Path
  src : Path
  out : Path
  sourceMap : Bool
  options : Json

/-- What a loader makes of it. -/
structure LoaderOutput where
  content : ByteArray
  /-- A new source map; without one the old stays. -/
  sourceMap : Option String := none
  /-- Files that were read, and whose changes matter. -/
  files : List Path := []

/-- A named transformation. -/
structure Loader where
  name : String
  transform : LoaderInput → LoaderContext → Except LoaderFailure LoaderOutput

end Minipack
