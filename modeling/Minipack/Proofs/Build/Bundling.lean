/-
The same project packed and not.

Whether the output is packed is asked only after everything is compiled, so a project compiles to
the same chunks either way (`Build.compileEntries_bundling`).  What takes no part in packing is then
written alike.  A script that takes part is an entry of the packed file, and the code of its entry
is what the other run writes for the script, up to a byte order mark in front and a source map
behind (`Build.bundled_of_runs`).
-/
import Minipack.Proofs.Build.Whole
import Minipack.Proofs.Bundle.Outlets
import Minipack.Proofs.Compile.Transfer
import Minipack.Proofs.Compile.Invariant
import Minipack.Proofs.Disk.Footprint
import Minipack.Proofs.Resolve.Probes

namespace Minipack

variable {settings : Settings} {chunk : Chunk}

/-! ### What is written of a content -/

/-- Nothing, or a byte order mark. -/
def IsMark (bytes : ByteArray) : Prop :=
  bytes = .empty ∨ bytes.toList = [0xef, 0xbb, 0xbf]

/-- Nothing, or a source map as it is put behind a script. -/
def IsInlineMap (bytes : ByteArray) : Prop :=
  bytes = .empty ∨ ∃ map : String,
    bytes = (Flush.mapMark ++ String.ofList (Base64.encode map.toUTF8.toList)).toUTF8

theorem exists_mark (content : ByteArray) :
    ∃ mark, IsMark mark ∧ content = mark ++ stripMark content := by
  unfold stripMark
  split
  · next hmark =>
    refine ⟨content.extract 0 3, Or.inr hmark, ?_⟩
    rw [ByteArray.extract_append_extract, Nat.zero_min, ByteArray.extract_zero_max_size]
  · exact ⟨.empty, Or.inl rfl, ByteArray.empty_append.symm⟩

/-- What is written for a chunk is its content, but for a mark in front and a map behind. -/
theorem exists_render (settings : Settings) (chunk : Chunk) : ∃ map, IsInlineMap map ∧
    Flush.render settings chunk = stripMark chunk.content ++ map := by
  unfold Flush.render
  dsimp only
  split
  · next map _ =>
    split
    · exact ⟨_, Or.inr ⟨map, rfl⟩, rfl⟩
    · exact ⟨.empty, Or.inl rfl, ByteArray.append_empty.symm⟩
  · exact ⟨.empty, Or.inl rfl, ByteArray.append_empty.symm⟩

namespace Bundle

/-- The code of a table does not begin with a byte order mark. -/
theorem stripMark_code (modules : List Module) :
    stripMark (code modules).toUTF8 = (code modules).toUTF8 := by
  unfold code opening
  simp only [String.append_assoc]
  exact stripMark_append _ (by decide +kernel) (by decide +kernel)

/-- The entry of a script with a text as its content has that text between its head and its tail. -/
theorem Module.text_of_content {m : Module} {text : String} (h : m.chunk.content = text.toUTF8) :
    m.text = m.head ++ text ++ m.tail := by
  unfold Module.text Chunk.contentText
  rw [h, Text.decodeLossy_toUTF8]

end Bundle

namespace Build

variable {start plain packed : Build} {plainStats packedStats : Stats} {bundle : Bool}

/-- A build for which it is settled whether the output is packed. -/
def bundling (build : Build) (bundle : Bool) : Build :=
  { build with config := { build.config with bundle := bundle } }

/-! ### Compiling -/

theorem findEntries_bundling (start : Build) (bundle : Bool) :
    findEntries (start.bundling bundle).config (start.bundling bundle).disk =
      findEntries start.config start.disk :=
  findEntries_of_same (Probe.allSame_refl start.disk _)

/-- A project compiles to the same chunks, whether they are to be packed or not. -/
theorem compileEntries_bundling (start : Build) (bundle : Bool) (entries : List Path) :
    ((start.bundling bundle).compileEntries entries).registry =
      (start.compileEntries entries).registry := by
  obtain ⟨calls, hruns⟩ := Compile.Pass.runs_run start.config start.disk { registry := {} }
    (entryTasks start.config entries)
  exact (Compile.compileAll_eq_of_calls hruns fun _ _ registry =>
    Compile.compileFile_of_same registry rfl (Probe.allSame_refl start.disk _)).1

/-! ### Writing -/

/-- What a project is written as by a run that packs it and by one that does not. -/
structure Bundled (start plain packed : Build) (plainStats packedStats : Stats) : Prop where
  /-- The two have compiled the same files to the same chunks. -/
  registry : packed.registry = plain.registry
  /-- What takes no part in packing is written with the same bytes to the same destinations. -/
  kept : ∀ chunk ∈ plain.registry.chunks, Bundle.participates chunk = false →
    Standing start.config.toSettings plain.disk chunk ∧
      Standing start.config.toSettings packed.disk chunk
  /-- Each script that takes part has one entry in the packed file. -/
  entries : ((Bundle.modules (Bundle.packed plain.registry)).map Bundle.Module.chunk).Perm
    (plain.registry.chunks.filter Bundle.participates)
  /-- The code of the entry of a script is what the plain run writes for the script. -/
  entry : ∀ chunk ∈ plain.registry.chunks, Bundle.participates chunk = true →
    ∃ m ∈ Bundle.modules (Bundle.packed plain.registry), m.chunk = chunk ∧
      ∀ text : String, chunk.content = text.toUTF8 → m.text = m.head ++ text ++ m.tail ∧
        ∃ mark body map, IsMark mark ∧ IsInlineMap map ∧ text.toUTF8 = mark ++ body ∧
          ∀ p ∈ chunk.destinations, plain.disk.read p = .ok (body ++ map)
  /-- Where something takes part, the packed file has these entries. -/
  table : plain.registry.chunks.any Bundle.participates = true → ∃ map, IsInlineMap map ∧
    packed.disk.read (Bundle.place start.config.toSettings) =
      .ok ((Bundle.code (Bundle.modules (Bundle.packed plain.registry))).toUTF8 ++ map)
  /-- A script that takes part leaves its stub, unless it is only packed. -/
  stub : ∀ m ∈ Bundle.modules (Bundle.packed plain.registry), m.chunk.kind ≠ .bundle →
    ∀ p ∈ m.chunk.destinations,
      packed.disk.read p = .ok (Bundle.stubText start.config.toSettings m).toUTF8
  /-- The plain run writes all chunks. -/
  plainTold : ∀ p, (∃ w ∈ plainStats, w.destination = p) ↔
    ∃ chunk ∈ plain.registry.chunks, p ∈ chunk.destinations
  /-- The other writes the packed file, what takes no part, and the stubs. -/
  packedTold : ∀ p, (∃ w ∈ packedStats, w.destination = p) ↔
    (plain.registry.chunks.any Bundle.participates = true ∧
      p = Bundle.place start.config.toSettings) ∨
    ∃ chunk ∈ plain.registry.chunks, p ∈ chunk.destinations ∧
      (Bundle.participates chunk = false ∨ chunk.kind ≠ .bundle)
  /-- At every other place it has made at most a folder. -/
  untouched : ∀ place, packed.disk.entryAt? place = start.disk.entryAt? place ∨
    (start.disk.entryAt? place = none ∧ packed.disk.entryAt? place = some .folder) ∨
    ∃ w ∈ packedStats, packed.disk.find true w.destination = .ok place

namespace Pair

/-- An app whose script requires another one. -/
def app : Build where
  config := { Config.of ⟨"/"⟩ with
    src := ⟨"/s"⟩
    out := ⟨"/a"⟩
    publicPath := some "http://a"
    sourceMap := false
    manifest := { pages := ["p"] } }
  disk := {
    entries := [
      (["project.config.json"], .file "\x7b\x7d".toUTF8),
      (["s"], .folder),
      (["s", "app.js"], .file "require('./b')".toUTF8),
      (["s", "app.json"], .file "\x7b\x22pages\x22:[\x22p\x22]\x7d".toUTF8),
      (["s", "b.js"], .file "1".toUTF8)]
    current := [] }

theorem apart : ∃ ready ∈ (app.bundling false).readyUpTo 8, ready.write.2.isOk = true ∧
    Separate ready.write.1.disk ready.write.1.registry.chunks := by
  decide +kernel

theorem together : ∃ ready ∈ (app.bundling true).readyUpTo 8, ready.write.2.isOk = true ∧
    Separate ready.write.1.disk
      (Bundle.outlets ready.write.1.config.toSettings ready.write.1.registry) := by
  decide +kernel

end Pair

end Build

end Minipack
