/-
Where the references of an output lead.

The compiled form of a file names what it refers to by the way from its own place, where
`Config.destination` puts it.  So in every copy of the file that is written to this folder a
relative specifier leads to the place of its target, and after a run a file stands there
(`Build.reaches_of_run`).

A file that is also named by its address, as a resource is, is written to the static folder, too,
with the same content.  From there its relative specifiers need not lead anywhere
(`Build.astray_of_published`).
-/
import Minipack.Proofs.Build.Settled
import Minipack.Proofs.Build.Steps
import Minipack.Proofs.Bundle.Linking
import Minipack.Proofs.Flush
import Minipack.Proofs.Resolve.Wording

namespace Minipack.Build

variable {start after : Build} {stats : Stats} {chunk : Chunk} {d : Dependency} {p : Path}

/-- The folder in which a destination lies. -/
def folderFor (config : Config) (p : Path) : Path :=
  p.parent?.getD config.out

/-- A relative specifier, read from a folder without the query or fragment that the source has,
leads to the destination of the reference, and a file stands there. -/
def ReachesFrom (build : Build) (folder : Path) (d : Dependency) : Prop :=
  ∃ path suffix, d.specifier = path ++ suffix ∧
    (suffix = "" ∨ suffix = (Resolve.splitSuffix d.required).2) ∧
    folder.joinSpecifier path = d.destination.normalize ∧
    ∃ q, q.Same d.destination ∧ build.disk.isFile q = true

/-- The references of a chunk that is up to date are worded in one of two ways. -/
theorem worded_of_current {config : Config} {disk : Disk} (hrules : config.rules = [])
    (hkind : SourceKind.of? chunk.file ≠ some .descriptor)
    (h : Compile.Current config disk chunk) :
    ∀ d ∈ chunk.dependencies, Resolve.Worded config chunk.file d := by
  obtain ⟨source, resolved, -, hresolved, hdependencies⟩ :=
    Compile.dependencies_of_compileFile hrules h
  have hsame : chunk.dependencies = resolved.dependencies := hdependencies
  rw [hsame]
  exact Resolve.worded_of_resolveFile hkind hresolved

/-- After a run a file stands at the destination of every reference that is followed. -/
theorem exists_isFile_of_ran {entries : List Path} {chunks : List Chunk}
    (hran : Ran start after entries chunks) (hc : chunk ∈ after.registry.chunks)
    (hd : d ∈ chunk.followed) : ∃ q, q.Same d.destination ∧ after.disk.isFile q = true := by
  obtain ⟨target, htarget, hp⟩ := (upToDate_of_ran hran).closed chunk hc d hd
  obtain ⟨q, hq, hs⟩ := Path.contains_iff.1 hp
  obtain ⟨stats, log, hflush⟩ := hran.flushed
  obtain ⟨-, houtputs, -⟩ := flush_spec hflush
  obtain ⟨place, hfind, output, -, -, hentry⟩ := houtputs ⟨q, Flush.render _ target⟩
    (Flush.mem_outputs.2 ⟨target, Registry.mem_of_get? htarget, q, hq, rfl⟩)
  refine ⟨q, hs, Disk.isFile_iff_read.2 ⟨output.content, ?_⟩⟩
  exact Disk.read_eq_ok_iff.2 ⟨place, hfind, hentry⟩

/-- After a run without rules and plugins, the relative specifiers of style sheets, templates and
scripts lead to files that are written, from each destination in the folder where the compiled file
belongs. -/
theorem reaches_of_run (h : start.Plain) (hrules : start.config.rules = [])
    (hout : start.config.out.isAbsolute = true)
    (hremote : Config.isRemoteAddress start.config.publicAddress = true)
    (hrun : start.run = (after, .ok stats)) :
    ∀ chunk ∈ after.registry.chunks, SourceKind.of? chunk.file ≠ some .descriptor →
      ∀ p ∈ chunk.destinations, (folderFor start.config p).Same
        (folderFor start.config (start.config.destination chunk.file)) →
      ∀ d ∈ chunk.dependencies, Resolve.beginsWith d.specifier "." = true →
        ReachesFrom after (folderFor start.config p) d := by
  intro chunk hc hkind p _ hfolder d hd hrelative
  obtain ⟨entries, chunks, hran⟩ := run_spec h hrun
  have hworded := worded_of_current hrules hkind ((upToDate_of_ran hran).current chunk hc) d hd
  have habsolute := Resolve.isAbsolute_destination hrules hout
  obtain ⟨path, suffix, hspecifier, hsuffix, hjoin⟩ := hworded.joinSpecifier hremote hrelative
    (Path.isAbsolute_parent (habsolute chunk.file) hout) (habsolute d.target)
  refine ⟨path, suffix, hspecifier, hsuffix, ?_, ?_⟩
  · rw [Path.joinSpecifier_congr hfolder]
    exact hjoin
  · exact exists_isFile_of_ran hran hc (Chunk.mem_followed.2 ⟨hd, hworded.embedded⟩)

/-! ### A published style sheet -/

namespace Publishing

/-- An app whose style sheet both imports another and publishes it; the other imports it in turn. -/
def app : Build where
  config := { Config.of ⟨"/"⟩ with
    publicPath := some "http://a"
    manifest := { pages := ["p"] } }
  disk := {
    entries := [
      (["project.config.json"], .file "\x7b\x7d".toUTF8),
      (["src"], .folder),
      (["src", "a.wxss"], .file "@import './app.wxss'".toUTF8),
      (["src", "app.json"], .file "\x7b\"pages\":[\"p\"]\x7d".toUTF8),
      (["src", "app.wxss"], .file "@import './a.wxss';url(a.wxss)".toUTF8)]
    current := [] }

/-- The style sheet of the app, as it is compiled. -/
def own : Path := ⟨"/app/app.wxss"⟩

/-- The published copy of the other one. -/
def copy : Path := ⟨"/static/a.wxss"⟩

/-- A relative reference of the style sheet that is written to a destination. -/
def relative (chunk : Chunk) (p : Path) (d : Dependency) : Bool :=
  SourceKind.of? chunk.file ≠ some .descriptor && Resolve.beginsWith d.specifier "." &&
    chunk.destinations.any fun q => q.text == p.text

theorem relative_iff : relative chunk p d = true ↔
    (SourceKind.of? chunk.file ≠ some .descriptor ∧ Resolve.beginsWith d.specifier "." = true) ∧
      p ∈ chunk.destinations := by
  rw [relative, Bool.and_eq_true, Bool.and_eq_true, decide_eq_true_iff, List.any_eq_true]
  apply and_congr_right
  intro _
  constructor
  · rintro ⟨q, hq, htext⟩
    rw [← text_inj.1 (beq_iff_eq.1 htext)]
    exact hq
  · intro hp
    exact ⟨p, hp, beq_self_eq_true _⟩

theorem session : ∃ ran ∈ app.runUpTo 12, ran.2.isOk = true ∧
    (∃ chunk ∈ ran.1.registry.chunks, ∃ d ∈ chunk.dependencies,
      relative chunk own d = true ∧
        (folderFor ran.1.config own).Same
          (folderFor ran.1.config (ran.1.config.destination chunk.file))) ∧
    ∃ chunk ∈ ran.1.registry.chunks, ∃ d ∈ chunk.dependencies,
      relative chunk copy d = true ∧ (Resolve.splitSuffix d.required).2 = "" ∧
        ((folderFor ran.1.config copy).joinSpecifier d.specifier).text ≠
          d.destination.normalize.text ∧
        ran.1.disk.isFile ((folderFor ran.1.config copy).joinSpecifier d.specifier) = false := by
  decide +kernel

/-- The run of the app. -/
theorem ran {result : Build × Except Error Stats} (h : result ∈ app.runUpTo 12)
    (hok : result.2.isOk = true) :
    (∃ stats, app.run = (result.1, .ok stats)) ∧ result.1.config = app.config := by
  have hplain : app.Plain := ⟨rfl, rfl, rfl⟩
  obtain ⟨stats, hrun⟩ := exists_run_of_runUpTo hplain h hok
  obtain ⟨entries, chunks, hran⟩ := run_spec hplain hrun
  exact ⟨⟨stats, hrun⟩, hran.config⟩

end Publishing

/-- The style sheet of the app names the other one by a specifier that leads to it. -/
theorem reaches_of_published : ∃ ran stats, Publishing.app.run = (ran, .ok stats) ∧
    ∃ chunk ∈ ran.registry.chunks, ∃ p ∈ chunk.destinations, ∃ d ∈ chunk.dependencies,
      Resolve.beginsWith d.specifier "." = true ∧
        ReachesFrom ran (folderFor Publishing.app.config p) d := by
  obtain ⟨⟨ran, result⟩, hran, hok, ⟨chunk, hc, d, hd, hrelative, hfolder⟩, -⟩ := Publishing.session
  obtain ⟨⟨stats, hrun⟩, hconfig⟩ := Publishing.ran hran hok
  obtain ⟨⟨hkind, hdot⟩, hp⟩ := Publishing.relative_iff.1 hrelative
  dsimp only at hc hfolder hconfig hrun
  rw [hconfig] at hfolder
  refine ⟨ran, stats, hrun, chunk, hc, _, hp, d, hd, hdot, ?_⟩
  exact reaches_of_run ⟨rfl, rfl, rfl⟩ rfl (by decide) (by decide +kernel) hrun chunk hc hkind _ hp
    hfolder d hd hdot

/-- In the published copy of the other one the specifier of the style sheet of the app does not lead
to it. -/
theorem astray_of_published : ∃ ran stats, Publishing.app.run = (ran, .ok stats) ∧
    ∃ chunk ∈ ran.registry.chunks, SourceKind.of? chunk.file ≠ some .descriptor ∧
      ∃ p ∈ chunk.destinations, ∃ d ∈ chunk.dependencies,
        Resolve.beginsWith d.specifier "." = true ∧
          ¬ ReachesFrom ran (folderFor Publishing.app.config p) d ∧
            ran.disk.isFile ((folderFor Publishing.app.config p).joinSpecifier d.specifier) =
              false := by
  obtain ⟨⟨ran, result⟩, hran, hok, -, chunk, hc, d, hd, hrelative, hsuffix, hjoin, hfile⟩ :=
    Publishing.session
  obtain ⟨⟨stats, hrun⟩, hconfig⟩ := Publishing.ran hran hok
  obtain ⟨⟨hkind, hdot⟩, hp⟩ := Publishing.relative_iff.1 hrelative
  dsimp only at hc hjoin hfile hconfig hrun
  rw [hconfig] at hjoin hfile
  refine ⟨ran, stats, hrun, chunk, hc, hkind, _, hp, d, hd, hdot, ?_, hfile⟩
  rintro ⟨path, suffix, hspecifier, hempty, hleads, -⟩
  -- the specifier has no suffix, so it is read as a whole
  obtain rfl : suffix = "" := by
    rcases hempty with hempty | hempty
    · exact hempty
    · exact hempty.trans hsuffix
  rw [String.append_empty] at hspecifier
  rw [hspecifier, hleads] at hjoin
  exact hjoin rfl

end Minipack.Build
