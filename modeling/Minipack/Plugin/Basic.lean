/-
Plugins: steps that run around a build.

A plugin has a background hook, which is started when a build begins and is not waited for, steps to
take before the build, and a hook that may add chunks of its own.  Hooks see the settings and may
change the disk.
-/
import Minipack.Chunk.Basic
import Minipack.Config.Settings
import Minipack.Disk.Change
import Minipack.Log

namespace Minipack

/-- What a step of a plugin leaves behind. -/
structure HookResult where
  disk : Disk
  log : List LogLine := []
  /-- What ended the step early. -/
  error : Option Error := none
  /-- Whether the step waited for the system, so that background hooks had their turn. -/
  waited : Bool := false

/-- A step of a plugin. -/
abbrev HookStep := Disk → HookResult

/-- A named set of hooks. -/
structure Plugin where
  name : String
  background : Settings → HookStep := fun _ disk => { disk }
  before : Settings → List HookStep := fun _ => []
  /-- The chunks that join the build, or what went wrong, and what there is to tell. -/
  beforeCompile : Settings → Except Error (List Chunk) × List LogLine := fun _ => (.ok [], [])

end Minipack
