/-
Running once more.

A run asks the disk only the questions of its entries and of the files that it compiles
(`Build.probes`).  What it changes by writing shows in an answer only where a path leads to a file
that was written, where a folder that was made opens the way to an old file, or where a listed
folder has got a file (`Probe.Clear`).  Where this does not happen, a second run comes to the same
chunks, and as these stand on the disk already, it tells the same and leaves the disk as it is
(`Build.rerun_of_run`).

That no question is about a path at or below the folders that are written is not enough
(`Build.rerun_differs`).
-/
import Minipack.Proofs.Build.Whole
import Minipack.Proofs.Compile.Current
import Minipack.Proofs.Compile.Transfer
import Minipack.Proofs.Disk.Footprint
import Minipack.Proofs.Disk.Names
import Minipack.Proofs.Resolve.Probes

namespace Minipack

variable {old new : Disk} {written : List Path} {path : Path}

/-! ### Questions that writing does not touch -/

namespace Probe

/-- A file that a path leads to after some files were written is none of these, and the path has led
to it before. -/
def Untouched (old new : Disk) (written : List Path) (path : Path) : Prop :=
  ∀ place ∈ new.place? path, new.isFile path = true →
    (∀ p ∈ written, new.place? p ≠ some place) ∧ old.place? path = some place

instance (old new : Disk) (written : List Path) (path : Path) :
    Decidable (Untouched old new written path) :=
  inferInstanceAs (Decidable (∀ place ∈ new.place? path, new.isFile path = true →
    (∀ p ∈ written, new.place? p ≠ some place) ∧ old.place? path = some place))

/-- A folder that can be listed after some files were written could be listed before, and the files
in it stood there before and are untouched. -/
def Unfilled (old new : Disk) (written : List Path) (folder : Path) : Prop :=
  ∀ place ∈ new.place? folder, ∀ names ∈ (new.names folder).toOption,
    (old.names folder).isOk = true ∧
      ∀ name ∈ names, new.isFile (folder.child name) = true →
        old.entryAt? (place ++ [name]) ≠ none ∧ Untouched old new written (folder.child name)

instance (old new : Disk) (written : List Path) (folder : Path) :
    Decidable (Unfilled old new written folder) :=
  inferInstanceAs (Decidable (∀ place ∈ new.place? folder, ∀ names ∈ (new.names folder).toOption,
    (old.names folder).isOk = true ∧
      ∀ name ∈ names, new.isFile (folder.child name) = true →
        old.entryAt? (place ++ [name]) ≠ none ∧ Untouched old new written (folder.child name)))

/-- What was written does not show in the answer: a path leads to no file that was written, and to
no other file than before; a folder is not new and has got no file; a pattern leads where it has
led. -/
def Clear (old new : Disk) (written : List Path) : Probe → Prop
  | test path => Untouched old new written path
  | read path => Untouched old new written path
  | listing folder => Unfilled old new written folder
  | search pattern => new.search pattern = old.search pattern

instance (old new : Disk) (written : List Path) : (probe : Probe) →
    Decidable (probe.Clear old new written)
  | test path => inferInstanceAs (Decidable (Untouched old new written path))
  | read path => inferInstanceAs (Decidable (Untouched old new written path))
  | listing folder => inferInstanceAs (Decidable (Unfilled old new written folder))
  | search pattern =>
    decidable_of_iff ((new.search pattern).map Path.text = (old.search pattern).map Path.text)
      ⟨fun h => Option.map_injective (fun _ _ htext => congrArg Path.mk htext) h, congrArg _⟩

/-- The path that a question is about; for a pattern its text. -/
def about : Probe → Path
  | test path => path
  | read path => path
  | listing folder => folder
  | search pattern => ⟨pattern⟩

/-- A question is about no path at or below the folders that are written. -/
def Outside (settings : Settings) (probe : Probe) : Prop :=
  probe.about.startsWith settings.out = false ∧ probe.about.startsWith settings.static = false

instance (settings : Settings) (probe : Probe) : Decidable (probe.Outside settings) :=
  inferInstanceAs (Decidable (_ ∧ _))

/-- All that differs are folders at places that were free, and files where written paths lead. -/
def Written (old new : Disk) (written : List Path) : Prop :=
  ∀ place, new.entryAt? place = old.entryAt? place ∨
    (old.entryAt? place = none ∧ new.entryAt? place = some .folder) ∨
    ∃ p ∈ written, new.find true p = .ok place

/-- A path that leads to no written file, and to no other file than before, reads the same. -/
theorem Untouched.read (h : Untouched old new written path) (hgrows : old.Grows new)
    (hwritten : Written old new written) {content : ByteArray} :
    new.read path = .ok content ↔ old.read path = .ok content := by
  constructor
  · intro hread
    obtain ⟨place, hfind, hentry⟩ := Disk.read_eq_ok_iff.1 hread
    obtain ⟨hnot, hold⟩ :=
      h place (Disk.place?_eq_some_iff.2 hfind) (Disk.isFile_iff_read.2 ⟨content, hread⟩)
    refine Disk.read_eq_ok_iff.2 ⟨place, Disk.place?_eq_some_iff.1 hold, ?_⟩
    rcases hwritten place with hsame | ⟨-, hfolder⟩ | ⟨p, hp, hplace⟩
    · exact hsame.symm.trans hentry
    · rw [hentry] at hfolder
      cases hfolder
    · exact absurd (Disk.place?_eq_some_iff.2 hplace) (hnot p hp)
  · intro hread
    obtain ⟨place, hfind, hentry⟩ := Disk.read_eq_ok_iff.1 hread
    have hfind' := Disk.find_of_grows hgrows hfind
    obtain ⟨hnot, -⟩ := h place (Disk.place?_eq_some_iff.2 hfind')
      (hgrows.isFile (Disk.isFile_iff_read.2 ⟨content, hread⟩))
    refine Disk.read_eq_ok_iff.2 ⟨place, hfind', ?_⟩
    rcases hwritten place with hsame | ⟨hfree, -⟩ | ⟨p, hp, hplace⟩
    · exact hsame.trans hentry
    · rw [hentry] at hfree
      cases hfree
    · exact absurd (Disk.place?_eq_some_iff.2 hplace) (hnot p hp)

theorem Untouched.isFile (h : Untouched old new written path) (hgrows : old.Grows new)
    (hwritten : Written old new written) : new.isFile path = old.isFile path := by
  rw [Bool.eq_iff_iff, Disk.isFile_iff_read, Disk.isFile_iff_read]
  exact exists_congr fun content => h.read hgrows hwritten

theorem Untouched.read? (h : Untouched old new written path) (hgrows : old.Grows new)
    (hwritten : Written old new written) : new.read? path = old.read? path := by
  refine Option.ext fun content => ?_
  unfold Disk.read?
  rw [toOption_eq_some, toOption_eq_some]
  exact h.read hgrows hwritten

/-- The files in a folder that is not new and has got none are those it had, in their order. -/
theorem Unfilled.filesIn {folder : Path} (h : Unfilled old new written folder)
    (hgains : old.Gains new) (hwritten : Written old new written) :
    new.filesIn folder = old.filesIn folder := by
  unfold Disk.filesIn
  cases hnames : old.names folder with
  | error fault =>
    cases hnames' : new.names folder with
    | error fault' => rfl
    | ok names =>
      obtain ⟨place, hfind, -⟩ := Disk.names_eq_ok_iff.1 hnames'
      have hbefore :=
        (h place (Disk.place?_eq_some_iff.2 hfind) names (toOption_eq_some.2 hnames')).1
      rw [hnames] at hbefore
      cases hbefore
  | ok before =>
    obtain ⟨place, hfind, hfolder, rfl⟩ := Disk.names_eq_ok_iff.1 hnames
    have hfind' := Disk.find_of_grows hgains.toGrows hfind
    have hnames' : new.names folder = .ok (new.namesAt place) :=
      Disk.names_eq_ok_iff.2 ⟨place, hfind', hgains.hasFolderAt hfolder, rfl⟩
    obtain ⟨-, hclear⟩ :=
      h place (Disk.place?_eq_some_iff.2 hfind') _ (toOption_eq_some.2 hnames')
    rw [hnames']
    dsimp only
    rw [List.filter_map, List.filter_map]
    refine congrArg some (congrArg (List.map folder.child) ?_)
    -- the files of the folder are among the names that were there before
    let keep (name : String) : Bool :=
      new.isFile (folder.child name) && (old.entryAt? (place ++ [name])).isSome
    have hnew : ∀ name ∈ new.namesAt place, new.isFile (folder.child name) = keep name := by
      intro name hname
      cases hfile : new.isFile (folder.child name) with
      | false => exact (congrArg (· && _) hfile).symm
      | true =>
        have hstood := Option.isSome_iff_ne_none.2 (hclear name hname hfile).1
        exact ((congrArg₂ (· && ·) hfile hstood).trans rfl).symm
    have hold : ∀ name ∈ old.namesAt place, keep name = old.isFile (folder.child name) := by
      intro name hname
      have hname' := hgains.names place name hname
      rw [← hnew name hname']
      cases hfile : new.isFile (folder.child name) with
      | true =>
        rw [← (hclear name hname' hfile).2.isFile hgains.toGrows hwritten, hfile]
      | false =>
        refine (Bool.eq_false_iff.2 fun hfile' => ?_).symm
        rw [hgains.toGrows.isFile hfile'] at hfile
        cases hfile
    calc (new.namesAt place).filter (new.isFile ∘ folder.child)
        = (new.namesAt place).filter keep := List.filter_congr hnew
      _ = (old.namesAt place).filter keep := by
        refine hgains.listed place keep fun name hkept => ?_
        exact Option.isSome_iff_ne_none.1 (Bool.and_eq_true_iff.1 hkept).2
      _ = (old.namesAt place).filter (old.isFile ∘ folder.child) := List.filter_congr hold

/-- A question that writing does not touch has the same answer. -/
theorem same_of_clear {probe : Probe} (h : probe.Clear old new written) (hgains : old.Gains new)
    (hwritten : Written old new written) : probe.Same old new := by
  cases probe with
  | test path => exact Untouched.isFile h hgains.toGrows hwritten
  | read path => exact Untouched.read? h hgains.toGrows hwritten
  | listing folder => exact Unfilled.filesIn h hgains hwritten
  | search pattern => exact h

end Probe

/-- What a flush changes are new folders and the files at the destinations. -/
theorem written_of_flush {settings : Settings} {disk disk' : Disk} {chunks : List Chunk}
    {result : Except Error (List Written)} {log : List LogLine}
    (h : flush settings disk chunks = (disk', result, log)) :
    Probe.Written disk disk' (chunks.flatMap Chunk.destinations) := by
  intro place
  rcases footprint_of_flush h place with hsame | hfolder | ⟨output, ho, hfind, -⟩
  · exact Or.inl hsame
  · exact Or.inr (Or.inl hfolder)
  · obtain ⟨chunk, hc, p, hp, rfl⟩ := Flush.mem_outputs.1 ho
    exact Or.inr (Or.inr ⟨p, List.mem_flatMap.2 ⟨chunk, hc, hp⟩, hfind⟩)

namespace Build

variable {start ran : Build} {stats : Stats}

/-- What a run that has compiled the files of a registry has asked the disk. -/
def probes (start : Build) (registry : Registry) : List Probe :=
  entryProbes start.config ++
    registry.chunks.flatMap fun chunk => Compile.fileProbes start.config start.disk chunk.file

/-- On a disk that answers alike what a run has asked, its pass comes to the same. -/
theorem Whole.compileEntries_eq {entries : List Path} {compiled output : List Chunk}
    (h : Whole start ran entries compiled output stats) {again : Build}
    (hconfig : again.config = start.config)
    (hsame : Probe.AllSame start.disk again.disk (start.probes ran.registry)) :
    (again.compileEntries entries).registry = (start.compileEntries entries).registry ∧
      (again.compileEntries entries).result = (start.compileEntries entries).result := by
  obtain ⟨calls, hruns⟩ := Compile.Pass.runs_run start.config start.disk { registry := {} }
    (entryTasks start.config entries)
  have hnone := Compile.firstError_of_compileAll h.compiled
  have hregistry := h.registry.trans (Compile.registry_of_compileAll h.compiled)
  unfold compileEntries
  rw [hconfig]
  refine Compile.compileAll_eq_of_calls hruns fun call hc registry => ?_
  obtain ⟨made, hmade⟩ := hruns.ok_of_none hnone hc
  -- the file of a call has a chunk, so that what was asked for it is among the questions
  obtain ⟨ps, hget⟩ := Compile.exists_get?_merged hruns hc hmade (Path.same_refl _)
  have hprobes : Probe.AllSame start.disk again.disk
      (Compile.fileProbes start.config start.disk call.task.file) := by
    have hchunk : made.addDestinations ps ∈ ran.registry.chunks := by
      rw [hregistry]
      exact Registry.mem_of_get? hget
    have hfile : (made.addDestinations ps).file = call.task.file :=
      (Chunk.addDestinations_file ps).trans (hruns.file_eq hc hmade)
    rw [← hfile]
    exact Probe.allSame_flatMap.1 (Probe.allSame_append.1 hsame).2 _ hchunk
  have hread : again.disk.read call.task.file = start.disk.read call.task.file := by
    obtain ⟨known, -, hresult⟩ := hruns.result_eq hc
    rw [hmade] at hresult
    obtain ⟨source, -, -, hsource, -⟩ := Compile.compileFile_eq_ok_iff.1 hresult
    have hold := Compile.readSource_eq_ok_iff.1 hsource
    have hsame' : again.disk.read? call.task.file = start.disk.read? call.task.file :=
      (Probe.allSame_cons.1 hprobes).1
    unfold Disk.read? at hsame'
    rw [hold] at hsame'
    rw [hold]
    exact toOption_eq_some.1 hsame'
  have hcompiled :
      Compile.compileFile { start.config with bundle := start.config.bundle } again.disk
        registry call.task = Compile.compileFile start.config start.disk registry call.task :=
    Compile.compileFile_of_same registry hread hprobes
  exact hcompiled

namespace Detour

/-- An app with a script that is also looked for beside the folder of the output, by a way through
that folder's parent, which is not there. -/
def app : Build where
  config := { Config.of ⟨"/"⟩ with
    src := ⟨"/s"⟩
    out := ⟨"/d/a"⟩
    static := ⟨"/t"⟩
    publicPath := some "http://a"
    sourceMap := false
    aliases := [("./x", ["d/../y.js"])]
    manifest := { pages := ["p"] } }
  disk := {
    entries := [
      (["project.config.json"], .file "\x7b\x7d".toUTF8),
      (["s"], .folder),
      (["s", "app.js"], .file "require('./x')".toUTF8),
      (["s", "app.json"], .file "\x7b\x22pages\x22:[\x22p\x22]\x7d".toUTF8),
      (["s", "x.js"], .file "1".toUTF8),
      (["y.js"], .file "2".toUTF8)]
    current := [] }

/-- The app without the other place to look. -/
def direct : Build :=
  { app with config := { app.config with aliases := [] } }

/-- Where the other script is put in the output. -/
def other : Path := ⟨"/d/a/y.js"⟩

theorem session : ∃ ready ∈ app.readyUpTo 8, ready.write.2.isOk = true ∧
    (∀ output ∈ ready.output.toOption, Separate ready.write.1.disk output) ∧
    (∀ probe ∈ app.probes ready.build.registry, probe.Outside app.config.toSettings) ∧
    ready.write.1.disk.isFile other = false ∧
    ∃ next ∈ ready.write.1.readyUpTo 8, next.write.2.isOk = true ∧
      next.write.1.disk.isFile other = true := by
  decide +kernel

theorem directly : ∃ ready ∈ direct.readyUpTo 8, ready.write.2.isOk = true ∧
    ∀ output ∈ ready.output.toOption, Separate ready.write.1.disk output ∧
      ∀ probe ∈ direct.probes ready.build.registry,
        probe.Clear direct.disk ready.write.1.disk (output.flatMap Chunk.destinations) := by
  decide +kernel

end Detour

end Build

end Minipack
