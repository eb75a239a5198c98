/-
The clean plugin empties folders of the output before a build.

It refuses to remove the root, the source folder and every folder above the source folder.
-/
import Minipack.Plugin.Basic

namespace Minipack.Plugin

/-- A folder that can be cleaned. -/
inductive CleanTarget where
  | out
  | static
  | temp
deriving DecidableEq, Repr

namespace CleanTarget

/-- All targets by name. -/
def named : List (String × CleanTarget) :=
  [("out", out), ("static", static), ("temp", temp)]

/-- The folder of a target. -/
def folder (settings : Settings) : CleanTarget → Path
  | out => settings.out
  | static => settings.static
  | temp => settings.temp

end CleanTarget

/-- Whether removing a folder would take the project with it. -/
def isProtected (settings : Settings) (folder : Path) : Bool :=
  folder == settings.root || folder == settings.src || settings.src.startsWith folder

/-- Removes one folder, when it is there and not protected. -/
def cleanFolder (settings : Settings) (folder : Path) : HookStep := fun disk =>
  if isProtected settings folder then
    { disk, log := [⟨.warn, "clean", s!"refusing to remove {folder.display}"⟩] }
  else if disk.has folder then
    match disk.removeTree folder with
    | (disk, none) =>
      { disk, log := [⟨.info, "clean", s!"removed {folder.display}"⟩], waited := true }
    | (disk, some fault) => { disk, error := some (.system (.disk fault)), waited := true }
  else { disk }

/-- The plugin that cleans the given targets in order. -/
def clean (targets : List CleanTarget) : Plugin where
  name := "clean"
  before settings := targets.map fun target => cleanFolder settings (target.folder settings)

/-- The plugin with the targets of its options, all of them when the options name none. -/
def cleanWith (options : Json) : Except Error Plugin :=
  match options.get? "dirs" with
  | none => .ok (clean (CleanTarget.named.map Prod.snd))
  | some dirs =>
    match (Document.ofJson dirs).toListOf (Document.toVariant CleanTarget.named) with
    | .ok targets => .ok (clean targets)
    | .error fault => .error (.config (.cleanOptions fault))

end Minipack.Plugin
