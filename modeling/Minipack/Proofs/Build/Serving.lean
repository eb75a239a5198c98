/-
Resources while developing.

A style sheet or template names a resource by its address below the public address, and the file is
written to the static folder.  A server of that folder takes the path part of the address for a way
below the folder.  So where nothing but slashes follows the authority of the public address, it
answers with what was written (`Build.offered_of_run`).  A public address with a path of its own
puts that path in front of the way, and the server does not find the file
(`Build.missing_of_prefix`).
-/
import Minipack.Proofs.Build.Origins
import Minipack.Proofs.Build.Whole
import Minipack.Proofs.Compile.Current
import Minipack.Proofs.Resolve.Published

namespace Minipack.Build

variable {start ran : Build} {entries : List Path} {compiled output : List Chunk} {stats : Stats}
  {chunk : Chunk} {d : Dependency}

/-! ### What is written for a reference -/

/-- A run without plugins leaves its chunks up to date, packed or not. -/
theorem Whole.upToDate (h : Whole start ran entries compiled output stats) :
    Compile.UpToDate start.config start.disk ran.registry := by
  rw [h.registry]
  exact Compile.upToDate_compileAll h.compiled

/-- The files of a build without plugins are absolute paths. -/
theorem Whole.isAbsolute_file (h : Whole start ran entries compiled output stats)
    (hr : start.config.Regular) (hn : start.disk.Named) (hc : chunk ∈ ran.registry.chunks) :
    chunk.file.isAbsolute = true := by
  have hplaced : ∀ chunk ∈ (start.compileEntries entries).registry.chunks,
      chunk.Placed start.config :=
    (Compile.invariant_placed hr hn).compileAll (placed_entryTasks hr hn h.found)
      fun _ hc => by cases hc
  rw [h.registry] at hc
  exact (hplaced chunk hc).reached.isAbsolute hr

/-- The target of a reference has an output of its own: it is not only packed. -/
def Apparent (config : Config) (registry : Registry) (d : Dependency) : Prop :=
  config.bundle = true → ∀ target ∈ registry.get? d.target,
    Bundle.participates target = false ∨ target.kind ≠ .bundle

/-- What is written for a reference has the destination of the reference. -/
theorem Whole.exists_written (h : Whole start ran entries compiled output stats)
    (hc : chunk ∈ ran.registry.chunks) (hd : d ∈ chunk.followed)
    (happarent : Apparent start.config ran.registry d) :
    ∃ w ∈ stats, w.destination.Same d.destination := by
  obtain ⟨target, htarget, hcontains⟩ := h.upToDate.closed chunk hc d hd
  obtain ⟨p, hp, hsame⟩ := Path.contains_iff.1 hcontains
  have hmem := Registry.mem_of_get? htarget
  have houtput : ∃ o ∈ output, p ∈ o.destinations := by
    rcases h.output_cases with ⟨hbundle, hpacked⟩ | ⟨-, rfl⟩
    · exact (Bundle.mem_destinations_of_pack hpacked p).2
        (Or.inr ⟨target, hmem, hp, happarent hbundle target htarget⟩)
    · exact ⟨target, hmem, hp⟩
  obtain ⟨w, hw, rfl⟩ := (h.told p).2 houtput
  exact ⟨w, hw, hsame⟩

/-- What a run tells to be written can be read. -/
theorem Whole.exists_read (h : Whole start ran entries compiled output stats) {w : Written}
    (hw : w ∈ stats) : ∃ content, ran.disk.read w.destination = .ok content := by
  obtain ⟨log, hflush⟩ := h.flushed
  obtain ⟨o, ho, hp⟩ := (h.told w.destination).1 ⟨w, hw, rfl⟩
  obtain ⟨-, houtputs, -⟩ := flush_spec hflush
  obtain ⟨place, hfind, made, -, -, hentry⟩ := houtputs ⟨w.destination, Flush.render _ o⟩
    (Flush.mem_outputs.2 ⟨o, ho, _, hp, rfl⟩)
  exact ⟨made.content, Disk.read_eq_ok_iff.2 ⟨place, hfind, hentry⟩⟩

/-! ### What is served -/

/-- The file of a reference is written, unless it is only packed, and the server of the static
folder answers a request for its address with what is written at the destination of the reference,
unless links lead out of the folder. -/
structure Offered (config : Config) (ran : Build) (stats : Stats) (d : Dependency) : Prop where
  written : Apparent config ran.registry d → ∃ w ∈ stats, w.destination.Same d.destination
  answered : ∀ w ∈ stats, w.destination.Same d.destination →
    StaticServer.Sheltered ran.disk config.static d.destination →
      ∃ content, ran.disk.read w.destination = .ok content ∧
        (StaticServer.answer ran.disk config.static .get
          (StaticServer.pathPart d.specifier)).status = 200 ∧
        (StaticServer.answer ran.disk config.static .get
          (StaticServer.pathPart d.specifier)).body = content

/-- After a run without rules and plugins, where the public address has no path of its own, what
style sheets and templates name by address is served as it is written. -/
theorem offered_of_run (h : start.Bare) (hr : start.config.Regular) (hn : start.disk.Named)
    (hrules : start.config.rules = []) (horigin : IsOrigin start.config.publicAddress)
    (hrun : start.run = (ran, .ok stats)) :
    ∀ chunk ∈ ran.registry.chunks, SourceKind.of? chunk.file = some .style ∨
        SourceKind.of? chunk.file = some .markup →
      ∀ d ∈ chunk.dependencies, Resolve.beginsWith d.specifier "." = false →
        (∀ c ∈ start.config.wayOf d.target, c.isUnreserved = true) →
          Offered start.config ran stats d := by
  intro chunk hc hkind d hd haddress hunreserved
  obtain ⟨entries, compiled, output, hwhole⟩ := h.exists_whole hrun
  obtain ⟨source, resolved, -, hresolved, hdependencies⟩ :=
    Compile.dependencies_of_compileFile hrules (hwhole.upToDate.current chunk hc)
  have hmem : d ∈ resolved.dependencies := by
    rw [← show chunk.dependencies = resolved.dependencies from hdependencies]
    exact hd
  have hpublished : Resolve.Published start.config d := by
    refine (Resolve.published_or_relative hkind hresolved d hmem).resolve_right fun hrelative => ?_
    rw [haddress] at hrelative
    cases hrelative
  -- the destination lies below the static folder, by the way of the target
  have htarget : d.target.isAbsolute = true := by
    have hleads := Resolve.leads_of_resolveFile hn hr.settings.src.1
      (hwhole.isAbsolute_file hr hn hc) hresolved d hmem
    exact hleads.target.elim (fun hs => hs.1)
      (Resolve.Found.isAbsolute hr.settings.root.1 hr.settings.src.1)
  have hdestination : d.destination.isAbsolute = true := by
    rw [hpublished.destination]
    exact Settings.isAbsolute_staticDestination hr.settings htarget
  obtain ⟨q, hstrip, hway⟩ := Settings.exists_strip?_staticDestination hr.settings htarget
  rw [← hpublished.destination] at hstrip
  have hplain := fun c hc => isUnreserved_spec (Path.unreserved_of_body (hway ▸ hunreserved) c hc)
  refine ⟨hwhole.exists_written hc (Chunk.mem_followed.2 ⟨hd, hpublished.embedded⟩),
    fun w hw hsame hsheltered => ?_⟩
  obtain ⟨content, hread⟩ := hwhole.exists_read hw
  -- the destination leads where the file was written
  have hread' : ran.disk.read d.destination = .ok content := by
    obtain ⟨root, -, -, place, hfound, -⟩ := hsheltered
    have hplace := Disk.place?_eq_some_iff.1 hfound
    obtain ⟨there, hthere, hentry⟩ := Disk.read_eq_ok_iff.1 hread
    obtain rfl := Disk.place_eq_of_same hsame hthere hplace
    exact Disk.read_eq_ok_iff.2 ⟨there, hplace, hentry⟩
  refine ⟨content, hread, ?_⟩
  rw [hpublished.pathPart_specifier hr.settings horigin hstrip
    fun c hc => (hplain c hc).2]
  exact StaticServer.answer_of_sheltered hr.settings.static.1 hdestination hstrip hsheltered hplain
    hread'

/-! ### A resource -/

namespace Resource

/-- An app whose style sheet names a file by its address. -/
def app (address : String) : Build where
  config := { Config.of ⟨"/"⟩ with
    src := ⟨"/s"⟩
    out := ⟨"/a"⟩
    static := ⟨"/t"⟩
    publicPath := some address
    sourceMap := false
    manifest := { pages := ["p"] } }
  disk := {
    entries := [
      (["project.config.json"], .file "\x7b\x7d".toUTF8),
      (["s"], .folder),
      (["s", "app.json"], .file "\x7b\x22pages\x22:[\x22p\x22]\x7d".toUTF8),
      (["s", "app.wxss"], .file "url(x)".toUTF8),
      (["s", "x"], .file "1".toUTF8)]
    current := [] }

/-- The app with a public address without a path. -/
def direct : Build :=
  app "http://h:1"

/-- The app with a public address with a path. -/
def behind : Build :=
  app "http://h:1/b"

/-- A reference of a style sheet by address, to a file of unreserved names. -/
def ByAddress (config : Config) (chunk : Chunk) (d : Dependency) : Prop :=
  SourceKind.of? chunk.file = some .style ∧ Resolve.beginsWith d.specifier "." = false ∧
    ∀ c ∈ config.wayOf d.target, c.isUnreserved = true

instance (config : Config) (chunk : Chunk) (d : Dependency) :
    Decidable (ByAddress config chunk d) :=
  inferInstanceAs (Decidable (_ ∧ _ ∧ _))

theorem session : ∃ ready ∈ direct.readyUpTo 8, ready.write.2.isOk = true ∧
    ∃ chunk ∈ ready.build.registry.chunks, ∃ d ∈ chunk.dependencies,
      ByAddress direct.config chunk d ∧
        StaticServer.Sheltered ready.write.1.disk direct.config.static d.destination := by
  decide +kernel

theorem session_behind : ∃ ready ∈ behind.readyUpTo 8, ready.write.2.isOk = true ∧
    ∃ chunk ∈ ready.build.registry.chunks, ∃ d ∈ chunk.dependencies,
      ByAddress behind.config chunk d ∧ ready.write.1.disk.isFile d.destination = true ∧
        (StaticServer.answer ready.write.1.disk behind.config.static .get
          (StaticServer.pathPart d.specifier)).status = 404 := by
  decide +kernel

theorem regular : direct.config.Regular where
  settings := ⟨by decide, by decide, by decide, by decide, by decide⟩
  plugin := nofun
  extnames := nofun

theorem origin : IsOrigin direct.config.publicAddress :=
  ⟨"http".toList, "h:1".toList, [], rfl, by decide, by decide, by decide, nofun⟩

end Resource

/-- The style sheet of the app names a file that is written, and the server answers with it. -/
theorem offered_of_resource : ∃ ran stats, Resource.direct.run = (ran, .ok stats) ∧
    ∃ chunk ∈ ran.registry.chunks, ∃ d ∈ chunk.dependencies,
      Resource.ByAddress Resource.direct.config chunk d ∧ ∃ w ∈ stats, ∃ content,
        w.destination.Same d.destination ∧ ran.disk.read w.destination = .ok content ∧
        (StaticServer.answer ran.disk Resource.direct.config.static .get
          (StaticServer.pathPart d.specifier)).status = 200 ∧
        (StaticServer.answer ran.disk Resource.direct.config.static .get
          (StaticServer.pathPart d.specifier)).body = content := by
  have hbare : Resource.direct.Bare := ⟨rfl, rfl⟩
  obtain ⟨ready, hready, hok, chunk, hc, d, hd, haddress, hsheltered⟩ := Resource.session
  obtain ⟨stats, hrun, hregistry, -⟩ := hbare.exists_run_of_readyUpTo hready hok
  rw [← hregistry] at hc
  have hoffered : Offered Resource.direct.config ready.write.1 stats d :=
    offered_of_run hbare Resource.regular (by decide) rfl Resource.origin hrun chunk hc
      (Or.inl haddress.1) d hd haddress.2.1 haddress.2.2
  obtain ⟨w, hw, hsame⟩ := hoffered.written nofun
  obtain ⟨content, hread, hstatus, hbody⟩ := hoffered.answered w hw hsame hsheltered
  exact ⟨_, stats, hrun, chunk, hc, d, hd, haddress, w, hw, content, hsame, hread, hstatus, hbody⟩

/-- Where the public address has a path, the server does not find the file that is written. -/
theorem missing_of_prefix : Resource.behind.config.publicAddress = "http://h:1/b" ∧
    ∃ ran stats, Resource.behind.run = (ran, .ok stats) ∧
      ∃ chunk ∈ ran.registry.chunks, ∃ d ∈ chunk.dependencies,
        Resource.ByAddress Resource.behind.config chunk d ∧
          ran.disk.isFile d.destination = true ∧
            (StaticServer.answer ran.disk Resource.behind.config.static .get
              (StaticServer.pathPart d.specifier)).status = 404 := by
  have hbare : Resource.behind.Bare := ⟨rfl, rfl⟩
  obtain ⟨ready, hready, hok, chunk, hc, d, hd, haddress, hfile, hstatus⟩ := Resource.session_behind
  obtain ⟨stats, hrun, hregistry, -⟩ := hbare.exists_run_of_readyUpTo hready hok
  rw [← hregistry] at hc
  exact ⟨rfl, _, stats, hrun, chunk, hc, d, hd, haddress, hfile, hstatus⟩

end Minipack.Build
