/-
How often a file is compiled.

A pass tells files apart by their paths.  Where no disk links are in the way, different straight
paths are different files, so of the files that a pass reaches by straight paths each is compiled
once, and there are no more of them than files on the disk (`Compile.once_of_run`).  A file that is
found under an alias or in a package may be reached by a path with `..` steps besides its straight
one, and is then compiled for each of its paths (`Compile.twice_of_detour`).
-/
import Minipack.Proofs.Compile.Current
import Minipack.Proofs.Compile.Reach
import Minipack.Proofs.Disk.Linkless
import Minipack.Proofs.Resolve.Routes

namespace Minipack.Compile

variable {config : Config} {disk : Disk} {registry : Registry} {task : Task} {chunk : Chunk}

/-- The references of a compiled file that are followed lead to straight paths or to what is found.
-/
theorem leads_of_compileFile (hnamed : disk.Named) (hsrc : config.src.isAbsolute = true)
    (hfile : task.file.isAbsolute = true) (h : compileFile config disk registry task = .ok chunk) :
    ∀ d ∈ chunk.followed, Resolve.Leads config disk d := by
  obtain ⟨source, resolved, -, hresolved, hfollowed⟩ := followed_of_compileFile h
  rw [hfollowed]
  exact fun d hd =>
    Resolve.leads_of_resolveFile hnamed hsrc hfile hresolved d (List.mem_filter.1 hd).1

/-- Whether a call has compiled its file. -/
def Call.isOk (call : Call) : Bool :=
  call.result.isOk

/-- A call that has compiled its file has read it. -/
theorem isFile_of_isOk {pass last : Pass} {queue : List Task} {calls : List Call}
    (h : Pass.Runs config disk pass queue calls last) {call : Call} (hc : call ∈ calls)
    (hok : call.isOk = true) : disk.isFile call.file = true := by
  obtain ⟨before, -, hresult⟩ := h.result_eq hc
  unfold Call.isOk at hok
  cases hr : call.result with
  | error error =>
    rw [hr] at hok
    cases hok
  | ok chunk =>
    obtain ⟨source, resolved, transformed, hsource, -⟩ :=
      compileFile_eq_ok_iff.1 (hresult.trans hr)
    exact Disk.isFile_iff_read.2 ⟨source, readSource_eq_ok_iff.1 hsource⟩

/-- The files that are compiled by straight paths are compiled once. -/
structure Once (config : Config) (disk : Disk) (calls : List Call) : Prop where
  /-- A path is straight, or it is found under an alias or in a package. -/
  routes : ∀ call ∈ calls, call.file.Straight ∨ Resolve.Found config disk call.file
  /-- Straight paths that are called lead to different places. -/
  apart : calls.Pairwise fun a b => a.file.Straight → b.file.Straight →
    ∀ place, disk.find true a.file = .ok place → disk.find true b.file ≠ .ok place
  /-- No more files are compiled by straight paths than there are. -/
  bounded : (calls.filter fun call => call.file.Straight && call.isOk).length ≤ disk.files.length

/-- A pass over straight paths compiles each file at most once by a straight path, and all other
paths are found under an alias or in a package. -/
theorem once_of_run (hlinkless : disk.Linkless) (hnamed : disk.Named)
    (hroot : config.root.isAbsolute = true) (hsrc : config.src.isAbsolute = true)
    {tasks : List Task} (htasks : ∀ task ∈ tasks, task.file.Straight) :
    ∃ calls, Pass.Runs config disk { registry } tasks calls
        (({ registry } : Pass).run config disk tasks) ∧
      Once config disk calls := by
  obtain ⟨calls, hruns⟩ := Pass.runs_run config disk { registry } tasks
  have hroutes : ∀ call ∈ calls, call.task.file.Straight ∨
      Resolve.Found config disk call.task.file := by
    refine hruns.called_within
      (P := fun task => task.file.Straight ∨ Resolve.Found config disk task.file)
      (fun task ht => Or.inl (htasks task ht)) fun call hc hroute chunk hr d hd _ => ?_
    have habsolute : call.task.file.isAbsolute = true :=
      hroute.elim (fun h => h.1) (Resolve.Found.isAbsolute hroot hsrc)
    obtain ⟨before, -, hresult⟩ := hruns.result_eq hc
    exact (leads_of_compileFile hnamed hsrc habsolute (hresult.trans hr) d hd).target
  refine ⟨calls, hruns, hroutes, ?_, ?_⟩
  · exact hruns.distinct.imp fun hne ha hb place hfind hfind' =>
      hne (Disk.same_of_place hlinkless ha hb hfind hfind')
  · rw [← List.length_map (f := Call.file)]
    refine Disk.length_le_files hlinkless ?_ ?_ ?_
    · intro p hp
      obtain ⟨call, hcall, rfl⟩ := List.mem_map.1 hp
      exact of_decide_eq_true (Bool.and_eq_true_iff.1 (List.mem_filter.1 hcall).2).1
    · intro p hp
      obtain ⟨call, hcall, rfl⟩ := List.mem_map.1 hp
      obtain ⟨hmem, hboth⟩ := List.mem_filter.1 hcall
      exact isFile_of_isOk hruns hmem (Bool.and_eq_true_iff.1 hboth).2
    · exact List.pairwise_map.2 (hruns.distinct.filter _)

/-! ### A detour -/

namespace Detour

/-- A script that requires a package by its name, and once more by a detour over a folder. -/
def tree : Disk where
  entries := [
    (["src"], .folder),
    (["src", "app.js"], .file "require('a/../b');require('b')".toUTF8),
    (["src", "node_modules"], .folder),
    (["src", "node_modules", "a"], .folder),
    (["src", "node_modules", "b.js"], .file "b".toUTF8)]
  current := []

def settings : Config := .of ⟨"/"⟩

def tasks : List Task := [{ file := ⟨"/src/app.js"⟩ }]

/-- The path of the package. -/
def direct : Path := ⟨"/src/node_modules/b.js"⟩

/-- Its path over the folder. -/
def indirect : Path := ⟨"/src/node_modules/a/../b.js"⟩

theorem compiled_both : ∃ last ∈ Pass.runUpTo settings tree 4 { registry := {} } tasks,
    last.registry.has direct = true ∧ last.registry.has indirect = true := by
  decide +kernel

end Detour

/-- A file that gains a chunk in a pass is called in it. -/
theorem exists_call_of_has {pass last : Pass} {queue : List Task} {calls : List Call}
    (h : Pass.Runs config disk pass queue calls last) {file : Path}
    (hhas : last.registry.has file = true) (hnew : pass.registry.has file = false) :
    ∃ call ∈ calls, call.file.Same file ∧ call.isOk = true := by
  have hcalled : ∃ call ∈ calls, call.file.Same file := Classical.byContradiction fun hnone => by
    rw [Registry.has, h.get?_of_not_called fun call hc hs => hnone ⟨call, hc, hs⟩] at hhas
    rw [Registry.has, hhas] at hnew
    cases hnew
  obtain ⟨call, hc, hs⟩ := hcalled
  refine ⟨call, hc, hs, ?_⟩
  cases hr : call.result with
  | ok chunk => rw [Call.isOk, hr]; rfl
  | error error =>
    rw [Registry.has, h.get?_of_failed hc hr hs.symm] at hhas
    rw [Registry.has, hhas] at hnew
    cases hnew

/-- A pass over one straight path compiles a file of a package twice, once for each of its paths. -/
theorem twice_of_detour : ∃ calls,
    Pass.Runs Detour.settings Detour.tree { registry := {} } Detour.tasks calls
        (({ registry := {} } : Pass).run Detour.settings Detour.tree Detour.tasks) ∧
      ∃ a ∈ calls, ∃ b ∈ calls, a ≠ b ∧ a.isOk = true ∧ b.isOk = true ∧
        Detour.tree.find true a.file = .ok ["src", "node_modules", "b.js"] ∧
          Detour.tree.find true b.file = .ok ["src", "node_modules", "b.js"] := by
  obtain ⟨last, hlast, hdirect, hindirect⟩ := Detour.compiled_both
  obtain ⟨calls, hruns⟩ := Pass.runs_of_runUpTo hlast
  have hlast' := hruns.last_eq
  obtain ⟨a, ha, hsa, hoka⟩ := exists_call_of_has hruns hdirect rfl
  obtain ⟨b, hb, hsb, hokb⟩ := exists_call_of_has hruns hindirect rfl
  -- a file that was compiled can be found, at the place to which all its spellings lead
  have hplace {call : Call} (hc : call ∈ calls) (hok : call.isOk = true) {p : Path}
      (hs : call.file.Same p) {place : Place} (hp : Detour.tree.find true p = .ok place) :
      Detour.tree.find true call.file = .ok place := by
    obtain ⟨content, hread⟩ := Disk.isFile_iff_read.1 (isFile_of_isOk hruns hc hok)
    obtain ⟨place', hfind, -⟩ := Disk.read_eq_ok_iff.1 hread
    rw [hfind, Disk.place_eq_of_same hs hfind hp]
  refine ⟨calls, hlast' ▸ hruns, a, ha, b, hb, ?_, hoka, hokb,
    hplace ha hoka hsa (by decide +kernel), hplace hb hokb hsb (by decide +kernel)⟩
  rintro rfl
  have hsame : Detour.direct.Same Detour.indirect := hsa.symm.trans hsb
  exact absurd hsame (by decide +kernel)

/-- In that pass, too, the files are compiled once by straight paths. -/
theorem once_of_detour : ∃ calls,
    Pass.Runs Detour.settings Detour.tree { registry := {} } Detour.tasks calls
        (({ registry := {} } : Pass).run Detour.settings Detour.tree Detour.tasks) ∧
      Once Detour.settings Detour.tree calls :=
  once_of_run (by decide +kernel) (by decide +kernel) (by decide +kernel) (by decide +kernel)
    (by decide +kernel)

end Minipack.Compile
