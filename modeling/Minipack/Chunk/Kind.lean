/-
The roles that a compiled file plays in the output.
-/

namespace Minipack

/-- The role of a chunk. -/
inductive ChunkKind where
  /-- Reached from the manifest and written to its own destination. -/
  | entry
  /-- Required by another script, and there to be packed. -/
  | bundle
  /-- The table of packed modules. -/
  | bundler
  /-- Kept out of the bundle and written on its own. -/
  | scatter
deriving DecidableEq, Repr

namespace ChunkKind

/-- All kinds. -/
def all : List ChunkKind := [entry, bundle, bundler, scatter]

/-- The name of a kind. -/
def name : ChunkKind → String
  | entry => "entry"
  | bundle => "bundle"
  | bundler => "bundler"
  | scatter => "scatter"

/-- The name of a kind with a capital. -/
def title : ChunkKind → String
  | entry => "Entry"
  | bundle => "Bundle"
  | bundler => "Bundler"
  | scatter => "Scatter"

/-- The kind of a name. -/
def ofName? (name : String) : Option ChunkKind :=
  all.find? fun kind => kind.name == name

/-- Whether the written output carries its source map along. -/
def carriesSourceMap : ChunkKind → Bool
  | entry => false
  | bundle => true
  | bundler => true
  | scatter => true

end ChunkKind

end Minipack
