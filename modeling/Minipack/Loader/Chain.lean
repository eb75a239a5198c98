/-
Running the loaders of a rule over one file, each on the output of the one before.
-/
import Minipack.Config.Basic

namespace Minipack

/-- Which loaders of a rule take part. -/
inductive LoaderPass where
  /-- Those that apply to the kind of the chunk. -/
  | compile
  /-- Those that list the kind by name. -/
  | explicit
deriving DecidableEq, Repr

/-- Whether a binding takes part. -/
def LoaderPass.includes (pass : LoaderPass) (kind : ChunkKind) (binding : LoaderBinding) : Bool :=
  match pass with
  | compile => binding.appliesTo kind
  | explicit => binding.targets kind

/-- What a chain of loaders has made so far. -/
structure Transformed where
  content : ByteArray
  sourceMap : Option String
  dependencies : List Dependency := []

namespace Transformed

/-- The reference to a file that a loader took in. -/
def embed (config : Config) (file target : Path) : Dependency where
  file := file
  target := target
  destination := config.destination target
  required := ""
  embedded := true

/-- Runs one loader. -/
def step (config : Config) (file : Path) (kind : ChunkKind) (made : Transformed)
    (binding : LoaderBinding) : Except Error Transformed :=
  let input : LoaderInput := ⟨file, made.content, made.sourceMap, kind⟩
  match binding.loader.transform input (config.loaderContext binding.options) with
  | .error failure =>
    .error (.loader (if failure.file.isSome then failure else failure.inFile file))
  | .ok output => .ok {
      content := output.content
      sourceMap := output.sourceMap.or made.sourceMap
      dependencies := made.dependencies ++ output.files.map (embed config file) }

end Transformed

/-- Runs the loaders that take part in a pass. -/
def runLoaders (config : Config) (pass : LoaderPass) (bindings : List LoaderBinding) (file : Path)
    (kind : ChunkKind) (content : ByteArray) (sourceMap : Option String) :
    Except Error Transformed :=
  (bindings.filter (pass.includes kind)).foldlM (Transformed.step config file kind)
    ⟨content, sourceMap, []⟩

end Minipack
