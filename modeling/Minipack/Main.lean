/-
The command line: reads the project from the file system, runs the command on it, and writes back
what has changed.

Everything that is decided is decided in the modules that this one calls.  Files are read into a
disk, and after a run the file system is made to agree with the disk.
-/
import Minipack.Command.Help
import Minipack.Command.Run

namespace Minipack.Command

/-! ### Reading the file system -/

/-- The place of an absolute path. -/
def placeOf (path : String) : Place :=
  (Path.components ⟨path⟩).filterMap Component.name?

/-- Reads a file or folder at a path without links, with all that it holds; links are kept
as links. -/
partial def readTree (disk : Disk) (path : String) : IO Disk := do
  let real ← IO.FS.realPath path
  if ← real.isDir then
    let entries ← real.readDir
    let disk := disk.set (placeOf path) .folder
    entries.foldlM (fun disk entry => do
      let inside := path ++ "/" ++ entry.fileName
      try
        let target ← IO.FS.realPath inside
        if target.toString = inside then readTree disk inside
        else return disk.set (placeOf inside) (.link target.toString)
      catch _ => return disk) disk
  else
    return disk.set (placeOf path) (.file (← IO.FS.readBinFile path))

/-- Puts the folders above a place on a disk. -/
def addFolders (disk : Disk) (place : Place) : Disk :=
  (List.range place.length).foldl (fun disk n =>
    if n = 0 then disk else disk.set (place.take n) .folder) disk

/-- Reads what is at a path, if anything is there. -/
def readPath (disk : Disk) (path : String) : IO Disk := do
  try
    let real := (← IO.FS.realPath path).toString
    readTree (addFolders disk (placeOf real)) real
  catch _ => return disk

/-- Reads the project of a command: its root and its configuration file. -/
def readProject (options : Options) : IO Disk := do
  let current := (← IO.currentDir).toString
  let disk : Disk := { Disk.empty with current := placeOf current }
  let disk := (addFolders disk (placeOf current)).set (placeOf current) .folder
  let disk ← readPath disk options.root
  match options.config with
  | some file => readPath disk ((Path.mk options.root).child file).text
  | none => return disk

/-- The variables of the process. -/
def readEnvironment : IO Envify.Environment := do
  let content ← try IO.FS.readBinFile "/proc/self/environ" catch _ => pure ByteArray.empty
  return ((Text.decodeLossy content).splitOn "\x00").filterMap fun line =>
    match line.splitOn "=" with
    | name :: value :: more => some (name, "=".intercalate (value :: more))
    | _ => none

/-! ### Writing the file system -/

/-- The path of a place. -/
def pathOf (place : Place) : String :=
  (Disk.pathOf place).text

/-- Makes the file system agree with a disk that was read as `before`. -/
def writeBack (before after : Disk) : IO Unit := do
  for (place, entry) in before.entries.reverse do
    if (after.entryAt? place).isNone then
      match entry with
      | .folder => IO.FS.removeDir (pathOf place)
      | _ => IO.FS.removeFile (pathOf place)
  for (place, entry) in after.entries do
    if before.entryAt? place ≠ some entry then
      match entry with
      | .folder => IO.FS.createDirAll (pathOf place)
      | .file content => IO.FS.writeBinFile (pathOf place) content
      | .link _ => pure ()

/-- Prints what there is to tell from line `start` on. -/
def printLog (config : Config) (log : List LogLine) (start : Nat) : IO Unit := do
  let (out, err) := shown config (log.drop start)
  let stdout ← IO.getStdout
  let stderr ← IO.getStderr
  out.forM stdout.putStrLn
  err.forM stderr.putStrLn
  stdout.flush

/-! ### Following changes -/

/-- The edits that lead from the files below a folder to those that were read anew. -/
def editsBetween (folder : Place) (before after : Disk) : List Watch.Edit :=
  let written := after.entries.filterMap fun (place, entry) =>
    match entry with
    | .file content =>
      if folder.isPrefixOf place && before.entryAt? place != some entry then
        some (.write (Disk.pathOf place) content)
      else none
    | _ => none
  let removed := before.entries.filterMap fun (place, _) =>
    if folder.isPrefixOf place && (after.entryAt? place).isNone then
      some (.remove (Disk.pathOf place))
    else none
  removed ++ written

/-- Looks for changes again and again. -/
partial def watchLoop (session : Watch.Session) : IO Unit := do
  IO.sleep 100
  let folder := session.build.config.src.text
  let seen ← readPath Disk.empty folder
  let edits := editsBetween (placeOf folder) session.build.disk seen
  if edits.isEmpty then watchLoop session
  else
    let start ← IO.monoNanosNow
    let (after, events) ← IO.lazyPure fun _ => session.take edits
    let elapsed := durationText ((← IO.monoNanosNow) - start)
    let after := tellEvents after events elapsed
    let before := (Watch.applyAll session.build.disk edits).1
    writeBack before after.build.disk
    printLog after.build.config after.build.log session.build.log.length
    watchLoop after

/-! ### Running -/

/-- Ends a run: prints what is left to tell, and gives the code of the process. -/
def finish (config : Config) (before : Disk) (told : Nat) (progress : Progress) : IO UInt32 := do
  writeBack before progress.build.disk
  printLog config progress.build.log told
  match progress with
  | .finished _ => return 0
  | .failed _ error =>
    (← IO.getStderr).putStrLn (failureLine error)
    return 1
  | .watching session =>
    watchLoop session
    return 0

/-- Runs the command with options. -/
def runOptions (options : Options) : IO UInt32 := do
  let environment ← readEnvironment
  let disk ← readProject options
  match configure environment disk options with
  | .error error =>
    (← IO.getStderr).putStrLn (failureLine error)
    return 1
  | .ok config =>
    let build := prepare config disk
    printLog config build.log 0
    let start ← IO.monoNanosNow
    let (after, result) ← IO.lazyPure fun _ => build.run
    let elapsed := durationText ((← IO.monoNanosNow) - start)
    finish config disk build.log.length (conclude elapsed after result)

end Minipack.Command

/-- Reads the arguments and runs the command. -/
def main (arguments : List String) : IO UInt32 := do
  match Minipack.Command.Options.read arguments with
  | .ok options => Minipack.Command.runOptions options
  | .error refusal =>
    let stream ← if refusal.exitCode = 0 then IO.getStdout else IO.getStderr
    refusal.lines.forM stream.putStrLn
    return refusal.exitCode.toUInt32
