/-
What resolving a file depends on.

Resolving asks the disk which files there are, and reads nothing but the descriptors of packages; of
the configuration it does not ask for the manifest.  So a file resolves in the same way on two disks
of one layout with the same package descriptors, whatever the manifest
(`Resolve.Alike.resolveFile`), and so it compiles in the same way when its own content is the same
(`Compile.compileFile_of_alike`).  The files of an app are found without reading any
(`Build.appFiles_of_alike`).
-/
import Minipack.Build.Basic
import Minipack.Proofs.Disk.Layout

namespace Minipack

/-! ### The manifest is not asked for -/

section

variable (config : Config) (manifest : Manifest)

theorem Config.rule?_manifest :
    Config.rule? { config with manifest := manifest } = config.rule? := rfl

theorem Config.destination_manifest :
    Config.destination { config with manifest := manifest } = config.destination := rfl

namespace Resolve

theorem locate_manifest : locate { config with manifest := manifest } = locate config := rfl

theorem compiledReference_manifest :
    compiledReference { config with manifest := manifest } = compiledReference config := rfl

theorem isCompiledSource_manifest :
    isCompiledSource { config with manifest := manifest } = isCompiledSource config := rfl

theorem moduleDependencies_manifest :
    moduleDependencies { config with manifest := manifest } = moduleDependencies config := rfl

end Resolve

end

/-! ### Disks of one layout -/

namespace Resolve

/-- Two disks of one layout on which packages are described in the same way. -/
structure Alike (old new : Disk) : Prop where
  layout : new.layout = old.layout
  packages : ∀ folder : Path, new.read (folder.child "package.json") =
    old.read (folder.child "package.json")

namespace Alike

variable {old new : Disk} (h : Alike old new)
include h

theorem isFile : new.isFile = old.isFile :=
  Disk.isFile_of_layout h.layout

/-! ### Lookups -/

theorem findScript : findScript new = findScript old := by
  funext path
  unfold Resolve.findScript
  rw [h.isFile]

theorem packageMain? : packageMain? new = packageMain? old := by
  funext package
  unfold Resolve.packageMain? Disk.read?
  rw [h.packages, h.findScript]

theorem findPackage : findPackage new = findPackage old := by
  funext specifier base
  unfold Resolve.findPackage
  rw [h.packageMain?, h.findScript]

theorem findCandidate : findCandidate new = findCandidate old := by
  funext candidate
  unfold Resolve.findCandidate
  rw [Disk.search_of_layout h.layout, h.findScript]

theorem findStyle : findStyle new = findStyle old := by
  funext extension path
  unfold Resolve.findStyle
  rw [h.isFile]

variable (config : Config) (manifest : Manifest)

theorem findModule :
    findModule { config with manifest := manifest } new = findModule config old := by
  funext name base
  unfold Resolve.findModule isModuleFile
  rw [Disk.names_of_layout h.layout, h.isFile, Config.rule?_manifest]

theorem findPackageResource :
    findPackageResource { config with manifest := manifest } new =
      findPackageResource config old := by
  funext file specifier
  unfold Resolve.findPackageResource
  rw [h.findPackage, h.isFile]

/-! ### Templates -/

theorem findTemplate :
    findTemplate { config with manifest := manifest } new = findTemplate config old := by
  funext file tag specifier
  unfold Resolve.findTemplate
  rw [h.isFile]
  rfl

theorem tagReference :
    tagReference { config with manifest := manifest } new = tagReference config old := by
  funext file tag specifier
  unfold Resolve.tagReference
  rw [h.findTemplate, h.findPackageResource, h.isFile, isCompiledSource_manifest,
    compiledReference_manifest, locate_manifest]
  rfl

theorem resolveMarkup :
    resolveMarkup { config with manifest := manifest } new = resolveMarkup config old := by
  funext file source
  unfold Resolve.resolveMarkup
  rw [h.tagReference]

/-! ### Scripts -/

theorem findAlias :
    findAlias { config with manifest := manifest } new = findAlias config old := by
  funext specifier
  unfold Resolve.findAlias
  rw [h.findCandidate]

theorem scriptReference :
    scriptReference { config with manifest := manifest } new = scriptReference config old := by
  funext file specifier
  unfold Resolve.scriptReference findRequired
  rw [h.findAlias, h.findScript, h.findPackage]
  rfl

theorem moduleScriptReference :
    moduleScriptReference { config with manifest := manifest } new =
      moduleScriptReference config old := by
  funext file specifier
  unfold Resolve.moduleScriptReference findModuleScript
  rw [h.isFile]
  rfl

/-! ### Style sheets -/

theorem importReference? :
    importReference? { config with manifest := manifest } new = importReference? config old := by
  funext file specifier
  unfold Resolve.importReference? findImported
  rw [h.findStyle]
  rfl

theorem addressReference :
    addressReference { config with manifest := manifest } new = addressReference config old := by
  funext file specifier
  unfold Resolve.addressReference
  rw [h.findPackageResource, h.isFile, compiledReference_manifest, locate_manifest]
  rfl

theorem resolveStyle :
    resolveStyle { config with manifest := manifest } new = resolveStyle config old := by
  funext file source
  unfold Resolve.resolveStyle
  rw [h.importReference?, h.addressReference]

/-! ### Descriptors -/

theorem pagesDependencies :
    pagesDependencies { config with manifest := manifest } new = pagesDependencies config old := by
  funext file pages
  unfold Resolve.pagesDependencies pageDependencies
  rw [h.findModule, moduleDependencies_manifest]

theorem componentDependencies :
    componentDependencies { config with manifest := manifest } new =
      componentDependencies config old := by
  funext file component
  unfold Resolve.componentDependencies
  rw [h.findModule]
  rfl

theorem resolveDescriptor :
    resolveDescriptor { config with manifest := manifest } new = resolveDescriptor config old := by
  funext file source
  unfold Resolve.resolveDescriptor manifestDependencies descriptorDependencies
  rw [h.pagesDependencies, h.componentDependencies]
  rfl

/-! ### All files -/

theorem resolveFile :
    resolveFile { config with manifest := manifest } new = resolveFile config old := by
  funext file source
  unfold Resolve.resolveFile
  cases SourceKind.of? file with
  | none => rfl
  | some kind =>
    cases kind with
    | descriptor => exact congrFun (congrFun (h.resolveDescriptor config manifest) file) source
    | style => exact congrFun (congrFun (h.resolveStyle config manifest) file) source
    | markup => exact congrFun (congrFun (h.resolveMarkup config manifest) file) source
    | moduleScript =>
      show resolveRequires (Resolve.moduleScriptReference _ new file) source = _
      rw [h.moduleScriptReference]
      rfl
    | script =>
      show resolveRequires (Resolve.scriptReference _ new file) source = _
      rw [h.scriptReference]
      rfl

end Alike

end Resolve

/-! ### Compiling and entries -/

variable {old new : Disk}

theorem Compile.runLoaders_manifest (config : Config) (manifest : Manifest) :
    runLoaders { config with manifest := manifest } = runLoaders config := rfl

/-- A file of unchanged content compiles as before. -/
theorem Compile.compileFile_of_alike (h : Resolve.Alike old new) (config : Config)
    (manifest : Manifest) (registry : Registry) {task : Task}
    (hread : new.read task.file = old.read task.file) :
    compileFile { config with manifest := manifest } new registry task =
      compileFile config old registry task := by
  unfold compileFile readSource compileSource
  rw [hread, h.resolveFile, runLoaders_manifest, Config.rule?_manifest,
    Config.destination_manifest]

/-- Neither the files of the app nor the descriptor of the plugin depend on the content of files or
on the manifest. -/
theorem Build.appFiles_of_alike (h : Resolve.Alike old new) (config : Config)
    (manifest : Manifest) :
    appFiles { config with manifest := manifest } new = appFiles config old := by
  unfold appFiles
  rw [h.findModule]

theorem Build.pluginFiles_of_alike (h : Resolve.Alike old new) (config : Config)
    (manifest : Manifest) :
    pluginFiles { config with manifest := manifest } new = pluginFiles config old := by
  unfold pluginFiles
  rw [h.isFile]

end Minipack
