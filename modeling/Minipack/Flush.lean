/-
Writing chunks to their destinations.

First the folders of all destinations are made, then the files are written, each whether or not
others fail.
-/
import Minipack.Base64
import Minipack.Config.Basic

namespace Minipack

/-- A written file and its size. -/
structure Written where
  destination : Path
  size : Nat

namespace Flush

/-- What comes before a source map at the end of a script. -/
def mapMark : String :=
  "\n//# sourceMappingURL=data:application/json;charset=utf-8;base64,"

/-- The bytes that are written for a chunk: without a byte order mark, and with the source map if
the kind of chunk carries it. -/
def render (settings : Settings) (chunk : Chunk) : ByteArray :=
  let content := stripMark chunk.content
  match chunk.sourceMap with
  | some map =>
    if settings.sourceMap && chunk.kind.carriesSourceMap then
      content ++ (mapMark ++ String.ofList (Base64.encode map.toUTF8.toList)).toUTF8
    else content
  | none => content

/-- A file to write. -/
structure Output where
  destination : Path
  content : ByteArray

/-- The files to write for chunks. -/
def outputs (settings : Settings) (chunks : List Chunk) : List Output :=
  chunks.flatMap fun chunk =>
    let content := render settings chunk
    chunk.destinations.map fun destination => ⟨destination, content⟩

/-- Makes the folder of each file, and pairs the file with what went wrong. -/
def makeFolders (disk : Disk) : List Output → Disk × List (Output × Option DiskFault)
  | [] => (disk, [])
  | output :: rest =>
    let (disk, fault) :=
      match output.destination.parent? with
      | some folder => disk.makeFolders folder
      | none => (disk, none)
    let (disk, made) := makeFolders disk rest
    (disk, (output, fault) :: made)

/-- Writes each file whose folder could be made, and pairs the file with what went wrong. -/
def writeFiles (disk : Disk) :
    List (Output × Option DiskFault) → Disk × List (Output × Option DiskFault)
  | [] => (disk, [])
  | (output, some fault) :: rest =>
    let (disk, written) := writeFiles disk rest
    (disk, (output, some fault) :: written)
  | (output, none) :: rest =>
    let (disk, fault) := disk.write output.destination output.content
    let (disk, written) := writeFiles disk rest
    (disk, (output, fault) :: written)

/-- What was written, in the order of the paths, or how many files failed and why the first did. -/
def report (written : List (Output × Option DiskFault)) : Except Error (List Written) :=
  match written.filterMap Prod.snd with
  | fault :: rest => .error (.flush (rest.length + 1) (.system (.disk fault)))
  | [] =>
    let files := written.map fun w => (⟨w.1.destination, w.1.content.size⟩ : Written)
    .ok (files.mergeSort fun a b => compare a.destination b.destination != .gt)

/-- A line for each file that failed. -/
def failureLog (written : List (Output × Option DiskFault)) : List LogLine :=
  (written.filterMap Prod.snd).map fun fault =>
    ⟨.error, "flush", (Error.system (.disk fault)).message⟩

end Flush

/-- Writes chunks to their destinations. -/
def flush (settings : Settings) (disk : Disk) (chunks : List Chunk) :
    Disk × Except Error (List Written) × List LogLine :=
  let (disk, made) := Flush.makeFolders disk (Flush.outputs settings chunks)
  let (disk, written) := Flush.writeFiles disk made
  (disk, Flush.report written, Flush.failureLog written)

end Minipack
