/-
Rebuilding agrees with building afresh.

A build is kept when it has run and has taken batches since, each of which lists the files that
others have changed and has no failure (`Build.Kept`).  At all times it is settled on its disk, and
all its chunks stand there (`Build.Kept.upheld`).

A fresh run on that disk goes over files that the kept build knows, and to destinations that it has
written: the files with which a build begins are known, and so is what a known file refers to
(`Build.invariant_covered`).  So at each destination of the fresh run stands what is written for
that file in the role in which it is known.  This is what the fresh run writes when it meets the
file in the same role, or when roles make no difference (`Build.agrees_of_kept`); else it need not
be (`Build.stale_after_promotion`).
-/
import Minipack.Proofs.Build.Settled
import Minipack.Proofs.Build.Standing
import Minipack.Proofs.Compile.Invariant
import Minipack.Proofs.Compile.Order
import Minipack.Proofs.Disk.Editing

namespace Minipack

variable {config : Config} {disk : Disk} {registry : Registry} {chunk chunk' : Chunk}

/-! ### Roles -/

/-- What is written for a file does not depend on its role: no loader is bound to roles or asks for
them, and no source map is written. -/
structure Config.RoleFree (config : Config) : Prop extends config.KindFree where
  maps : config.sourceMap = false ∨ ∀ rule ∈ config.rules, ∀ binding ∈ rule.loaders,
    ∀ input context output, binding.loader.transform input context = .ok output →
      output.sourceMap = none

namespace Compile

/-- Loaders that make no source map leave a file without one. -/
theorem sourceMap_of_runLoaders {bindings : List LoaderBinding} {file : Path} {kind : ChunkKind}
    {pass : LoaderPass} {content : ByteArray} {made : Transformed}
    (h : ∀ binding ∈ bindings, ∀ input context output,
      binding.loader.transform input context = .ok output → output.sourceMap = none)
    (hrun : runLoaders config pass bindings file kind content none = .ok made) :
    made.sourceMap = none := by
  refine of_runLoaders (P := fun made => made.sourceMap = none) rfl
    (fun start hstart binding hb output houtput => ?_) hrun
  rw [hstart, h binding hb _ _ output houtput]
  rfl

/-- What a current chunk is made of. -/
theorem Current.made (h : Current config disk chunk) : ∃ source resolved transformed,
    readSource disk chunk.file = .ok source ∧
      Resolve.resolveFile config disk chunk.file source = .ok resolved ∧
      runLoaders config .compile (bindingsOf config chunk.file) chunk.file chunk.kind
        resolved.content none = .ok transformed ∧
      chunk.content = transformed.content ∧ chunk.sourceMap = transformed.sourceMap := by
  obtain ⟨source, resolved, transformed, hs, hr, ht, heq⟩ := compileFile_eq_ok_iff.1 h
  rw [Chunk.addDestinations_eq] at heq
  exact ⟨source, resolved, transformed, hs, hr, ht, congrArg Chunk.content heq,
    congrArg Chunk.sourceMap heq⟩

/-- In all roles the same is written for a file when roles make no difference. -/
theorem Current.render_of_roleFree (hfree : config.RoleFree) (h : Current config disk chunk)
    (h' : Current config disk chunk') (hfile : chunk.file = chunk'.file) :
    Flush.render config.toSettings chunk = Flush.render config.toSettings chunk' := by
  obtain ⟨source, resolved, transformed, hs, hr, ht, hcontent, hmap⟩ := h.made
  obtain ⟨source', resolved', transformed', hs', hr', ht', hcontent', hmap'⟩ := h'.made
  rw [hfile, hs'] at hs
  obtain rfl := Except.ok.inj hs
  rw [hfile, hr'] at hr
  obtain rfl := Except.ok.inj hr
  rw [hfile, runLoaders_of_kindFree hfree.toKindFree _ chunk.kind chunk'.kind, ht'] at ht
  obtain rfl := Except.ok.inj ht
  unfold Flush.render
  rw [hcontent, hcontent', hmap, hmap']
  rcases hfree.maps with hnone | hnone
  · -- maps are not written
    have hoff : config.toSettings.sourceMap = false := hnone
    simp only [hoff, Bool.false_and, Bool.false_eq_true, if_false]
  · have hmade : transformed'.sourceMap = none := by
      refine sourceMap_of_runLoaders (fun binding hb => ?_) ht'
      obtain ⟨rule, hrule, hbinding⟩ := exists_rule_of_mem_bindingsOf hb
      exact hnone rule hrule binding hbinding
    rw [hmade]

end Compile

/-! ### Known files -/

namespace Registry

/-- A file is known by this spelling, and written to this destination. -/
def Knows (registry : Registry) (file p : Path) : Prop :=
  ∃ chunk ∈ registry.chunks, chunk.file = file ∧ chunk.destinations.contains p = true

/-- The file of a chunk is known, and written to all its destinations. -/
def Covers (registry : Registry) (chunk : Chunk) : Prop :=
  ∃ kept ∈ registry.chunks, kept.file = chunk.file ∧
    ∀ p ∈ chunk.destinations, kept.destinations.contains p = true

theorem Sorted.eq_of_same (h : registry.Sorted) (hc : chunk ∈ registry.chunks)
    (hc' : chunk' ∈ registry.chunks) (hs : chunk.file.Same chunk'.file) : chunk = chunk' := by
  have hget := h.get?_of_mem hc
  rw [get?_congr hs, h.get?_of_mem hc'] at hget
  exact (Option.some.inj hget).symm

/-- A chunk with one destination more is covered when the file is known with that destination. -/
theorem Covers.addDestination (h : registry.Covers chunk) (hsorted : registry.Sorted)
    {file p : Path} (hp : registry.Knows file p) (hs : file.Same chunk.file) :
    registry.Covers (chunk.addDestination p) := by
  obtain ⟨kept, hk, hfile, hdestinations⟩ := h
  obtain ⟨kept', hk', rfl, hcontains⟩ := hp
  obtain rfl := hsorted.eq_of_same hk' hk (hfile ▸ hs)
  refine ⟨kept', hk', by rw [hfile, Chunk.addDestination_file], fun q hq => ?_⟩
  rcases Chunk.mem_addDestination hq with hq | rfl
  · exact hdestinations q hq
  · exact hcontains

end Registry

namespace Build

/-- Every file goes by one spelling: those with which a build begins and those that known files
refer to are known by the spelling in which they are met. -/
structure Spelled (config : Config) (disk : Disk) (registry : Registry) : Prop where
  entries : ∀ file ∈ config.projectFile :: (findEntries config disk).toOption.getD [],
    ∀ chunk ∈ registry.chunks, chunk.file.Same file → chunk.file = file
  references : ∀ chunk ∈ registry.chunks, ∀ d ∈ chunk.followed, ∀ target ∈ registry.chunks,
    target.file.Same d.target → target.file = d.target

instance : Decidable (Spelled config disk registry) :=
  decidable_of_iff
    ((∀ file ∈ config.projectFile :: (findEntries config disk).toOption.getD [],
        ∀ chunk ∈ registry.chunks, chunk.file.Same file → chunk.file.text = file.text) ∧
      ∀ chunk ∈ registry.chunks, ∀ d ∈ chunk.followed, ∀ target ∈ registry.chunks,
        target.file.Same d.target → target.file.text = d.target.text)
    ⟨fun ⟨hentries, hreferences⟩ =>
        ⟨fun file hf chunk hc hs => text_inj.1 (hentries file hf chunk hc hs),
          fun chunk hc d hd target ht hs => text_inj.1 (hreferences chunk hc d hd target ht hs)⟩,
      fun h => ⟨fun file hf chunk hc hs => text_inj.2 (h.entries file hf chunk hc hs),
        fun chunk hc d hd target ht hs => text_inj.2 (h.references chunk hc d hd target ht hs)⟩⟩

variable {build start after fresh : Build} {known : Registry} {changes : List Change}

/-- What a known file refers to is known. -/
theorem Spelled.knows (h : Spelled config disk known) (hup : Compile.UpToDate config disk known)
    (hc : chunk ∈ known.chunks) {d : Dependency} (hd : d ∈ chunk.followed) :
    known.Knows d.target d.destination := by
  obtain ⟨target, hget, hp⟩ := hup.closed chunk hc d hd
  have hmem := Registry.mem_of_get? hget
  exact ⟨target, hmem, h.references chunk hc d hd target hmem (Registry.same_of_get? hget).symm, hp⟩

/-- A pass that begins with known files goes over known files alone. -/
theorem invariant_covered (hup : Compile.UpToDate config disk known)
    (hspelled : Spelled config disk known) :
    Compile.Invariant config disk
      (fun task => known.Knows task.file (task.destination.getD (config.destination task.file)))
      known.Covers fun d => known.Knows d.target d.destination where
  compiled := by
    intro registry task chunk hasked hregistry h
    obtain ⟨kept, hk, hfile, hdestination⟩ := hasked
    have hfollowed : chunk.followed = kept.followed :=
      (Compile.followed_eq h (hup.current kept hk) hfile.symm).trans (Chunk.followed_congr rfl)
    refine ⟨⟨kept, hk, hfile.trans (Compile.file_of_compileFile h).symm, fun p hp => ?_⟩, ?_⟩
    · obtain ⟨source, resolved, transformed, -, -, -, rfl⟩ := Compile.compileFile_eq_ok_iff.1 h
      rcases Chunk.mem_addDestinations hp with hp | hp
      · obtain rfl := List.mem_singleton.1 hp
        exact hdestination
      · -- a destination that the file had before
        unfold Compile.knownDestinations at hp
        cases hget : registry.get? task.file with
        | none =>
          rw [hget] at hp
          cases hp
        | some old =>
          rw [hget] at hp
          obtain ⟨kept', hk', hfile', hdestinations⟩ := hregistry old (Registry.mem_of_get? hget)
          have hs : kept'.file.Same kept.file := by
            rw [hfile', hfile]
            exact (Registry.same_of_get? hget).symm
          obtain rfl := hup.sorted.eq_of_same hk' hk hs
          exact hdestinations p hp
    · intro d hd
      rw [hfollowed] at hd
      exact hspelled.knows hup hk hd
  followed := fun h => h
  merged := fun hchunk hd hs => hchunk.addDestination hup.sorted hd hs

/-- A run on the disk of a settled build goes over files that the build knows. -/
theorem covered_of_ran (h : Settled start.config start.disk known)
    (hspelled : Spelled start.config start.disk known) {entries : List Path} {chunks : List Chunk}
    (hran : Ran start after entries chunks) :
    ∀ chunk ∈ after.registry.chunks, known.Covers chunk := by
  have hasked : ∀ task ∈ entryTasks start.config entries, known.Knows task.file
      (task.destination.getD (start.config.destination task.file)) := by
    intro task ht
    obtain ⟨file, hfile, rfl⟩ := List.mem_map.1 ht
    obtain ⟨chunk, hget, hdestination⟩ :=
      h.rooted.entry h.upToDate h.configured.manifest hran.found hfile
    have hmem := Registry.mem_of_get? hget
    have hentry : file ∈ start.config.projectFile ::
        (findEntries start.config start.disk).toOption.getD [] := by
      rw [hran.found]
      exact hfile
    have heq := hspelled.entries file hentry chunk hmem (Registry.same_of_get? hget).symm
    exact ⟨chunk, hmem, heq, hdestination heq⟩
  rw [hran.registry]
  exact (invariant_covered h.upToDate hspelled).compileAll hasked nofun

/-! ### Kept builds -/

/-- A build that has run, and has taken batches since.  Between batches others change the contents
of files, and each batch lists what they have changed and has no failure.  At no time do two chunks
share a destination, and what is written is not read. -/
inductive Kept : Build → Prop
  | run {start build : Build} {stats : Stats} :
      start.Plain →
      start.config.Settled start.disk →
      start.run = (build, .ok stats) →
      Separate build.disk build.registry.chunks →
      Unread build.config build.registry start.disk build.disk →
      Kept build
  | batch {build : Build} {disk : Disk} (changes : List Change) :
      Kept build →
      Edits build disk →
      Lists build disk changes →
      (∀ event ∈ (handleChanges { build with disk := disk } changes).2, event.isFailed = false) →
      Separate (handleChanges { build with disk := disk } changes).1.disk
        (handleChanges { build with disk := disk } changes).1.registry.chunks →
      Unread (handleChanges { build with disk := disk } changes).1.config
        (handleChanges { build with disk := disk } changes).1.registry disk
        (handleChanges { build with disk := disk } changes).1.disk →
      Kept (handleChanges { build with disk := disk } changes).1

/-- What holds of a kept build at all times: it is settled, and all its chunks stand. -/
structure Upheld (build : Build) : Prop where
  settled : Settled build.config build.disk build.registry
  remembers : build.Remembers []

/-- A batch without a failure forgets nothing. -/
theorem forgottenAfter_of_ok (h : build.Remembers [])
    (hok : ∀ event ∈ (build.handleChanges changes).2, event.isFailed = false) :
    build.forgottenAfter changes [] = [] := by
  by_cases htasks : (build.taken changes).2.1 = []
  · exact forgottenAfter_of_nil htasks
  · cases he : ((build.taken changes).1.pass (build.taken changes).2.1).firstError with
    | none =>
      rw [forgottenAfter_of_none he]
      rfl
    | some error =>
      -- the failed pass is told
      have hplain := (pruned_taken h.plain.bare h.sorted changes).plain h.plain
      rw [handleChanges_of_ne_nil htasks, recompile_of_error hplain he] at hok
      cases hok _ (List.mem_append_right _ (List.mem_singleton_self _))

theorem upheld_run (hp : start.Plain) (hconfig : start.config.Settled start.disk) {stats : Stats}
    (hrun : start.run = (build, .ok stats)) (hseparate : Separate build.disk build.registry.chunks)
    (hunread : Unread build.config build.registry start.disk build.disk) : build.Upheld := by
  obtain ⟨entries, chunks, hran⟩ := run_spec hp hrun
  refine ⟨?_, remembers_run hp hrun hseparate⟩
  have hsettled := settled_run hconfig hran
  rw [← hran.config] at hsettled
  exact hsettled.unread hunread

theorem Upheld.batch (h : build.Upheld) (hedits : Edits build disk)
    (hlists : Lists build disk changes)
    (hok : ∀ event ∈ (handleChanges { build with disk := disk } changes).2,
      event.isFailed = false)
    (hseparate : Separate (handleChanges { build with disk := disk } changes).1.disk
      (handleChanges { build with disk := disk } changes).1.registry.chunks)
    (hunread : Unread (handleChanges { build with disk := disk } changes).1.config
      (handleChanges { build with disk := disk } changes).1.registry disk
      (handleChanges { build with disk := disk } changes).1.disk) :
    (handleChanges { build with disk := disk } changes).1.Upheld := by
  have hedited : Remembers { build with disk := disk } [] := h.remembers.edit hedits.outputs
  refine ⟨(settled_batch h.remembers.plain h.settled hedits hlists hok).unread hunread, ?_⟩
  have hwrites : (handleChanges { build with disk := disk } changes).2.any
      WatchEvent.isUnwritten = false := by
    refine List.any_eq_false.2 fun event he hunwritten => ?_
    have hfailed := hok event he
    cases event with
    | failed error => cases hfailed
    | _ => cases hunwritten
  have hafter := hedited.batch hwrites hseparate
  rwa [forgottenAfter_of_ok hedited hok] at hafter

/-- A kept build is settled and its chunks stand. -/
theorem Kept.upheld (h : Kept build) : build.Upheld := by
  induction h with
  | run hp hconfig hrun hseparate hunread => exact upheld_run hp hconfig hrun hseparate hunread
  | batch changes _ hedits hlists hok hseparate hunread ih =>
    exact ih.batch hedits hlists hok hseparate hunread

/-- Wherever a fresh run on the disk of a kept build writes, there stands what is written for the
same file in the role in which it is kept: what the fresh run writes, when the role is the same or
makes no difference. -/
theorem agrees_of_kept (h : Kept build)
    (hspelled : Spelled build.config build.disk build.registry) (hp : fresh.Plain)
    (hconfig : build.config.resolve build.disk = .ok fresh.config) (hdisk : fresh.disk = build.disk)
    {stats : Stats} (hrun : fresh.run = (after, .ok stats)) :
    ∀ chunk ∈ after.registry.chunks, ∃ kept ∈ build.registry.chunks, kept.file = chunk.file ∧
      (∀ p ∈ chunk.destinations, ∃ q : Path, q.Same p ∧
        build.disk.read q = .ok (Flush.render build.config.toSettings kept)) ∧
      (kept.kind = chunk.kind ∨ build.config.RoleFree →
        Flush.render build.config.toSettings kept =
          Flush.render build.config.toSettings chunk) := by
  obtain ⟨hsettled, hremembers⟩ := h.upheld
  have hresolved : fresh.config = build.config := hsettled.configured.resolve_eq hconfig
  obtain ⟨entries, chunks, hran⟩ := run_spec hp hrun
  rw [← hresolved, ← hdisk] at hsettled hspelled
  have hfresh : Settled fresh.config fresh.disk after.registry :=
    settled_run hsettled.configured hran
  intro chunk hc
  obtain ⟨kept, hk, hfile, hcontains⟩ := covered_of_ran hsettled hspelled hran chunk hc
  refine ⟨kept, hk, hfile, fun p hp => ?_, ?_⟩
  · obtain ⟨q, hq, hs⟩ := Path.contains_iff.1 (hcontains p hp)
    exact ⟨q, hs, hremembers.standing kept hk rfl q hq⟩
  · have hkept := hsettled.upToDate.current kept hk
    have hcurrent := hfresh.upToDate.current chunk hc
    rw [← hresolved]
    rintro (hkind | hfree)
    · exact hkept.render_eq hcurrent hfile hkind _
    · exact hkept.render_of_roleFree hfree hcurrent hfile

/-- A disk does not differ from itself. -/
theorem Unread.refl (config : Config) (registry : Registry) (disk : Disk) :
    Unread config registry disk disk where
  sources := fun _ _ => ⟨rfl, fun _ _ => rfl⟩
  manifest := rfl
  project := rfl
  app := rfl
  plugin := rfl

/-! ### A file that becomes a page -/

namespace Promotion

/-- A loader that puts a mark behind a file. -/
def mark : Loader where
  name := "mark"
  transform := fun input _ => .ok { content := input.content ++ "!".toUTF8 }

/-- An app whose script requires another, with marks for the files of pages.  It has been built
before. -/
def app : Build where
  config := { Config.of ⟨"/"⟩ with
    publicPath := some "http://a"
    rules := [{
      test := ⟨"x", .char (.one 'x')⟩
      loaders := [{ loader := mark, kinds := some [.entry] }] }]
    manifest := { pages := ["p"] } }
  disk := {
    entries := [
      (["app"], .folder),
      (["app", "app.js"], .file "require('./x.js')".toUTF8),
      (["app", "app.json"], .file "\x7b\"pages\":[\"p\"]\x7d".toUTF8),
      (["app", "project.config.json"], .file "\x7b\x7d\n".toUTF8),
      (["app", "x.js"], .file "x".toUTF8),
      (["project.config.json"], .file "\x7b\x7d".toUTF8),
      (["src"], .folder),
      (["src", "app.js"], .file "require('./x.js')".toUTF8),
      (["src", "app.json"], .file "\x7b\"pages\":[\"p\"]\x7d".toUTF8),
      (["src", "x.js"], .file "x".toUTF8)]
    current := [] }

/-- The descriptor of the app. -/
def descriptor : Path :=
  Path.child ⟨"/src"⟩ "app.json"

/-- The other script is listed as a page. -/
def edited (ran : Build) : Build :=
  { ran with disk :=
      (ran.disk.write descriptor "\x7b\"pages\":[\"p\",\"x\"]\x7d".toUTF8).1 }

/-- The descriptor of the app has changed. -/
def listed : List Change := [⟨descriptor, .modified⟩]

/-- A fresh build on the disk of another. -/
def anew (build : Build) : Build :=
  { config := build.config, disk := build.disk }

theorem anew_config (build : Build) : (anew build).config = build.config := rfl

theorem anew_disk (build : Build) : (anew build).disk = build.disk := rfl

/-- What others have changed, as far as it is decided by the disks. -/
def Edited (build : Build) (disk : Disk) : Prop :=
  build.disk.Linkless ∧ build.disk.isFile descriptor = true ∧
    ((build.config.readPluginRoot disk).isNone ∧ build.config.pluginRoot.isNone) ∧
    (∀ chunk ∈ build.registry.chunks, ∀ p ∈ chunk.destinations, disk.read p = build.disk.read p) ∧
    ∀ chunk ∈ build.registry.chunks, disk.read chunk.file = build.disk.read chunk.file ∨
      ((disk.read? chunk.file).map digest ≠ some chunk.hash ∧ (descriptor == chunk.file) = true)

instance (build : Build) (disk : Disk) : Decidable (Edited build disk) :=
  have : DecidableEq ByteArray := ByteArray.instDecidableEq
  inferInstanceAs (Decidable (_ ∧ _))

theorem session : ∃ ran ∈ app.runUpTo 8, ran.2.isOk = true ∧
    (ran.1.disk.entries = app.disk.entries ∧ ran.1.disk.current = []) ∧
    Separate ran.1.disk ran.1.registry.chunks ∧
    Edited ran.1 (edited ran.1).disk ∧
    (∀ change ∈ listed, ran.1.registry.has change.path = true →
      Takes (edited ran.1) change) ∧
    ∃ done ∈ (edited ran.1).handleChangesUpTo 8 listed,
      (∀ event ∈ done.2, event.isFailed = false) ∧
      Separate done.1.disk done.1.registry.chunks ∧
      Unread done.1.config done.1.registry (edited ran.1).disk done.1.disk ∧
      Spelled done.1.config done.1.disk done.1.registry ∧
      (done.1.config.resolve done.1.disk).isOk = true ∧
      ∃ again ∈ (anew done.1).runUpTo 8, again.2.isOk = true ∧
        ∃ chunk ∈ again.1.registry.chunks, ∃ p ∈ chunk.destinations,
          again.1.disk.read p = .ok (Flush.render done.1.config.toSettings chunk) ∧
          done.1.disk.read p ≠ again.1.disk.read p := by
  decide +kernel

/-- The app is what its disk tells. -/
theorem settled_app : app.config.Settled app.disk where
  address := nofun
  plugin := Option.isNone_iff_eq_none.1 (by decide +kernel)
  manifest := toOption_eq_some.1 (by decide +kernel)

/-- Others have changed the descriptor alone. -/
theorem edits_of_edited {ran : Build}
    (h : Edited ran (edited ran).disk) : Edits ran (edited ran).disk := by
  obtain ⟨hlinks, hfile, ⟨hroot, hnone⟩, houtputs, hsources⟩ := h
  refine ⟨?_, ?_, houtputs, fun chunk hc content hread hdigest => ?_⟩
  · exact Resolve.alike_of_write hlinks (by decide) (by decide) hfile _
  · rw [Option.isNone_iff_eq_none.1 hroot, Option.isNone_iff_eq_none.1 hnone]
  · rcases hsources chunk hc with hsame | ⟨hdiffers, -⟩
    · exact hsame ▸ hread
    · rw [Disk.read?, hread] at hdiffers
      exact absurd (congrArg some hdigest) hdiffers

/-- The batch lists what has changed. -/
theorem lists_of_edited {ran : Build} (h : Edited ran (edited ran).disk)
    (htakes : ∀ change ∈ listed, ran.registry.has change.path = true → Takes (edited ran) change) :
    Lists ran (edited ran).disk listed where
  changed := by
    intro chunk hc hne
    obtain ⟨-, -, -, -, hsources⟩ := h
    rcases hsources chunk hc with hsame | ⟨-, hdescriptor⟩
    · exact absurd hsame hne
    · exact ⟨_, List.mem_singleton_self _, Path.beq_iff_same.1 hdescriptor⟩
  takes := htakes

/-- The build after the batch that makes the other script a page. -/
def promoted : Build :=
  ((edited app.run.1).handleChanges listed).1

/-- The build is kept, and a fresh run on its disk writes other bytes. -/
theorem promoted_spec : Kept promoted ∧
    Spelled promoted.config promoted.disk promoted.registry ∧ (anew promoted).Plain ∧
    promoted.config.resolve promoted.disk = .ok (anew promoted).config ∧
    ∃ after stats, (anew promoted).run = (after, .ok stats) ∧
      ∃ chunk ∈ after.registry.chunks, ∃ p ∈ chunk.destinations,
        after.disk.read p = .ok (Flush.render promoted.config.toSettings chunk) ∧
        promoted.disk.read p ≠ after.disk.read p := by
  -- the steps of the session are bounded, and each bounded run is the run
  obtain ⟨ran, hran, hok, ⟨hentries, hcurrent⟩, hseparate, hedited, htakes, done, hdone, hevents,
    hseparate', hunread, hspelled, hresolve, again, hagain, hok', hwrites⟩ := session
  have hplain : app.Plain := ⟨rfl, rfl, rfl⟩
  obtain ⟨stats, hrun⟩ := exists_run_of_runUpTo hplain hran hok
  have hdisk : ran.1.disk = app.disk := by
    cases hd : ran.1.disk with
    | mk entries current =>
      rw [hd] at hentries hcurrent
      exact congrArg₂ Disk.mk hentries hcurrent
  have hstarted : Kept ran.1 := by
    refine .run hplain settled_app hrun hseparate ?_
    rw [hdisk]
    exact .refl _ _ _
  have hremembers := hstarted.upheld.remembers
  have hplain' : (edited ran.1).Plain :=
    ⟨hremembers.plain.plugins, hremembers.plain.bundle, hremembers.plain.pending⟩
  obtain rfl := handleChanges_eq_of_upTo hplain' hremembers.sorted hdone
  have hpromoted : promoted = ((edited ran.1).handleChanges listed).1 := by
    rw [promoted, hrun]
  rw [← hpromoted] at hseparate' hunread hspelled hresolve hagain hwrites
  have hkept : Kept promoted := by
    rw [hpromoted] at hseparate' hunread ⊢
    exact .batch listed hstarted (edits_of_edited hedited) (lists_of_edited hedited htakes) hevents
      hseparate' hunread
  obtain ⟨hsettled, hremembers'⟩ := hkept.upheld
  have hfresh : (anew promoted).Plain := by
    refine ⟨?_, ?_, rfl⟩ <;> rw [anew_config]
    · exact hremembers'.plain.plugins
    · exact hremembers'.plain.bundle
  obtain ⟨stats', hagain⟩ := exists_run_of_runUpTo hfresh hagain hok'
  refine ⟨hkept, hspelled, hfresh, ?_, again.1, stats', hagain, hwrites⟩
  cases hresolved : promoted.config.resolve promoted.disk with
  | error error =>
    rw [hresolved] at hresolve
    cases hresolve
  | ok resolved =>
    rw [hsettled.configured.resolve_eq hresolved, anew_config]

end Promotion

/-- When the other script has become a page, what is written for each file of a fresh run stands in
the role in which the file is kept. -/
theorem agrees_after_promotion : Kept Promotion.promoted ∧
    ∃ after stats, (Promotion.anew Promotion.promoted).run = (after, .ok stats) ∧
      ∀ chunk ∈ after.registry.chunks, ∃ kept ∈ Promotion.promoted.registry.chunks,
        kept.file = chunk.file ∧
        (∀ p ∈ chunk.destinations, ∃ q : Path, q.Same p ∧ Promotion.promoted.disk.read q =
          .ok (Flush.render Promotion.promoted.config.toSettings kept)) ∧
        (kept.kind = chunk.kind ∨ Promotion.promoted.config.RoleFree →
          Flush.render Promotion.promoted.config.toSettings kept =
            Flush.render Promotion.promoted.config.toSettings chunk) := by
  obtain ⟨hkept, hspelled, hplain, hresolve, after, stats, hrun, -⟩ := Promotion.promoted_spec
  exact ⟨hkept, after, stats, hrun,
    agrees_of_kept hkept hspelled hplain hresolve (Promotion.anew_disk _) hrun⟩

/-- When the other script has become a page, a fresh run writes it with the mark, and the kept build
has it without. -/
theorem stale_after_promotion : Kept Promotion.promoted ∧
    Promotion.promoted.config.resolve Promotion.promoted.disk =
      .ok (Promotion.anew Promotion.promoted).config ∧
    (Promotion.anew Promotion.promoted).Plain ∧
    ∃ after stats, (Promotion.anew Promotion.promoted).run = (after, .ok stats) ∧
      ∃ chunk ∈ after.registry.chunks, ∃ p ∈ chunk.destinations,
        after.disk.read p = .ok (Flush.render Promotion.promoted.config.toSettings chunk) ∧
        Promotion.promoted.disk.read p ≠ after.disk.read p := by
  obtain ⟨hkept, -, hplain, hresolve, hrest⟩ := Promotion.promoted_spec
  exact ⟨hkept, hresolve, hplain, hrest⟩

end Build

end Minipack
