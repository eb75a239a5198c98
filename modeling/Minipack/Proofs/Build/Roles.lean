/-
The roles of compiled files.

A pass calls a file for the task that meets it first, and the chunk keeps the role and the primary
destination of that task (`Build.exists_cast`); a later reference only adds its destination.  When
the chunks are packed, what is written for a file is decided by its role: a chunk that takes no part
is written as it is, one that takes part leaves a stub, and one that is only required leaves nothing
(`Bundle.outlet`).

So a reference gets what its kind asks for, unless its file was met first in another role
(`Build.answered_of_run`).  A component that is first met as a required script has no output at all
(`Build.missing_of_required`).
-/
import Minipack.Proofs.Build.Plugins
import Minipack.Proofs.Compile.Current

namespace Minipack

namespace Build

variable {start ran : Build} {config : Config} {registry : Registry} {entries : List Path}
  {compiled output : List Chunk} {target : Chunk} {stats : Stats}

/-! ### Which role a file has -/

/-- A file has its role and its primary destination from an entry of the build, from a reference, or
from a plugin. -/
inductive Cast (start ran : Build) (entries : List Path) (target : Chunk) : Prop
  | entry {file : Path} : file ∈ ran.config.projectFile :: entries → file.Same target.file →
      target.kind = .entry → Cast start ran entries target
  | reference {chunk : Chunk} {e : Dependency} : chunk ∈ ran.registry.chunks → e ∈ chunk.followed →
      e.target.Same target.file → target.kind = e.kind.getD .entry →
      target.destination? = some e.destination → Cast start ran entries target
  | plugin : start.Supplies target.file → Cast start ran entries target

/-- After a run the chunk of a file has the role of what met the file first. -/
theorem exists_cast (h : Finished start ran entries compiled output stats)
    (ht : target ∈ ran.registry.chunks) : Cast start ran entries target := by
  obtain ⟨calls, hruns⟩ := Compile.Pass.runs_run start.prepared.config start.prepared.disk
    { registry := start.prepared.registry } (entryTasks start.prepared.config entries)
  have hnone := Compile.firstError_of_compileAll h.compiled
  have hregistry : ran.registry =
      (start.prepared.pass (entryTasks start.prepared.config entries)).merged.1 :=
    h.registry.trans (Compile.registry_of_compileAll h.compiled)
  have hget := h.sorted_registry.get?_of_mem ht
  rw [hregistry] at hget
  rcases Compile.called_or_kept hruns hnone hget with
    ⟨made, ps, rfl, ⟨call, hc, hsame, hmade⟩ | ⟨hold, -⟩⟩
  · obtain ⟨registry, -, hresult⟩ := hruns.result_eq hc
    rw [hmade] at hresult
    have hkind : (made.addDestinations ps).kind = call.task.kind := by
      rw [Chunk.addDestinations_kind, Compile.kind_of_compileFile hresult]
    have hprimary : (made.addDestinations ps).destination? =
        some (call.task.destination.getD (start.prepared.config.destination call.task.file)) :=
      Chunk.destination?_addDestinations (Compile.destination?_of_compileFile hresult) ps
    rcases hruns.caused hc with hentry | ⟨other, ho, chunk, hchunk, e, he, htask⟩
    · obtain ⟨file, hfile, htask⟩ := List.mem_map.1 hentry
      rw [start.prepared_config, ← h.config_eq] at hfile
      rw [← htask] at hkind
      rw [Compile.Call.file, ← htask] at hsame
      exact .entry hfile hsame hkind
    · -- the file with the reference has its chunk in the registry
      obtain ⟨qs, hstored⟩ := Compile.exists_get?_merged hruns ho hchunk (Path.same_refl _)
      have hmem : chunk.addDestinations qs ∈ ran.registry.chunks := by
        rw [hregistry]
        exact Registry.mem_of_get? hstored
      have hfollowed : e ∈ (chunk.addDestinations qs).followed := by
        rw [Chunk.followed_congr (Chunk.addDestinations_dependencies qs)]
        exact he
      rw [htask] at hkind hprimary
      rw [Compile.Call.file, htask] at hsame
      exact .reference hmem hfollowed hsame hkind hprimary
  · -- a file that is not called had its chunk before
    exact .plugin (supplies_of_prepared (Registry.has_of_get? hold))

/-- After a run the references that are followed, of a chunk that no plugin supplies, have their
targets written to their destinations. -/
theorem writes_of_finished (h : Finished start ran entries compiled output stats) {chunk : Chunk}
    (hc : chunk ∈ ran.registry.chunks) (hsupplies : ¬ start.Supplies chunk.file) {d : Dependency}
    (hd : d ∈ chunk.dependencies) (hembedded : d.embedded = false) :
    ran.registry.Writes d.target d.destination := by
  obtain ⟨calls, hruns⟩ := Compile.Pass.runs_run start.prepared.config start.prepared.disk
    { registry := start.prepared.registry } (entryTasks start.prepared.config entries)
  have hnone := Compile.firstError_of_compileAll h.compiled
  have hregistry : ran.registry =
      (start.prepared.pass (entryTasks start.prepared.config entries)).merged.1 :=
    h.registry.trans (Compile.registry_of_compileAll h.compiled)
  have hget := h.sorted_registry.get?_of_mem hc
  rw [hregistry] at hget ⊢
  -- the file had no chunk before, so it was called
  rcases Compile.called_or_kept hruns hnone hget with
    ⟨made, ps, rfl, ⟨call, hcall, -, hmade⟩ | ⟨hold, -⟩⟩
  · have hfollowed : d ∈ made.followed := by
      rw [← Chunk.followed_congr (Chunk.addDestinations_dependencies ps)]
      exact Chunk.mem_followed.2 ⟨hd, hembedded⟩
    exact Compile.writes_of_followed hruns hnone hcall hmade hfollowed
  · exact absurd (supplies_of_prepared (Registry.has_of_get? hold)) hsupplies

/-! ### What a reference gets -/

/-- A reference gets what its kind asks for: a file at its destination, the target's own chunk
there, or the place of a module when the target is a script. -/
def Fulfilled (registry : Registry) (output : List Chunk) (d : Dependency) (target : Chunk) :
    Prop :=
  match d.kind with
  | none => ∃ o ∈ output, o.destinations.contains d.destination = true
  | some .scatter => target ∈ output ∧ target.destinations.contains d.destination = true
  | some .bundle => target.isScript = true →
      ∃ m ∈ Bundle.modules (Bundle.packed registry), m.destination.Same d.destination
  | some _ => True

/-- The target of a reference has a role that does not suit the reference. -/
inductive Overruled (config : Config) (registry : Registry) (output : List Chunk) (d : Dependency)
    (target : Chunk) : Prop
  /-- A file is asked for, but the target is only packed, and nothing is written for it. -/
  | packed : d.kind = none → Bundle.participates target = true → target.kind = .bundle →
      (∀ o ∈ output, o.file.Same target.file → o.kind = .bundler) →
      Overruled config registry output d target
  /-- The target itself is asked for, but it is packed and leaves a stub at most. -/
  | stubbed : d.kind = some .scatter → Bundle.participates target = true →
      (∀ o ∈ output, o.file.Same target.file → o.kind = .bundler ∨
        ∃ m ∈ Bundle.modules (Bundle.packed registry), m.chunk = target ∧
          o = Bundle.stub config.toSettings m) →
      Overruled config registry output d target
  /-- A module is asked for, but the target takes no part. -/
  | apart : d.kind = some .bundle → target.isScript = true → Bundle.participates target = false →
      Overruled config registry output d target
  /-- A module is asked for, but that of the target has another place. -/
  | elsewhere {p : Path} : d.kind = some .bundle → Bundle.participates target = true →
      target.destination? = some p → ¬ p.Same d.destination →
      Overruled config registry output d target

/-- Something else than a reference has decided on the role of its target. -/
inductive Rival (start ran : Build) (entries : List Path) (d : Dependency) : Prop
  | entry {file : Path} : file ∈ ran.config.projectFile :: entries → file.Same d.target →
      Rival start ran entries d
  | reference {chunk : Chunk} {e : Dependency} : chunk ∈ ran.registry.chunks → e ∈ chunk.followed →
      e.target.Same d.target → e.kind ≠ d.kind ∨ ¬ e.destination.Same d.destination →
      Rival start ran entries d
  | plugin : start.Supplies d.target → Rival start ran entries d

variable {d : Dependency}

/-- A reference that does not get what it asks for is overruled. -/
theorem fulfilled_or_overruled (h : Bundle.Outlet config registry output target)
    (ht : target ∈ registry.chunks) (hd : target.destinations.contains d.destination = true) :
    Fulfilled registry output d target ∨ Overruled config registry output d target := by
  unfold Fulfilled
  cases hkind : d.kind with
  | none =>
    cases hp : Bundle.participates target with
    | false => exact Or.inl ⟨target, h.whole hp, hd⟩
    | true =>
      by_cases hbundle : target.kind = .bundle
      · refine Or.inr (.packed hkind hp hbundle fun o ho hsame => ?_)
        exact (h.only hp o ho hsame).resolve_right fun hstub => hstub.1 hbundle
      · -- the stub is written in place of the target
        obtain ⟨m, hm, hchunk⟩ := Bundle.exists_module ht hp
        refine Or.inl ⟨_, h.stub m hm hchunk hbundle, ?_⟩
        show m.chunk.destinations.contains d.destination = true
        rw [hchunk]
        exact hd
  | some kind =>
    cases kind with
    | entry => exact Or.inl trivial
    | bundler => exact Or.inl trivial
    | scatter =>
      cases hp : Bundle.participates target with
      | false => exact Or.inl ⟨h.whole hp, hd⟩
      | true =>
        refine Or.inr (.stubbed hkind hp fun o ho hsame => ?_)
        exact (h.only hp o ho hsame).imp_right fun hstub => hstub.2
    | bundle =>
      cases hscript : target.isScript with
      | false => exact Or.inl fun hs => (by cases hs)
      | true =>
        cases hp : Bundle.participates target with
        | false => exact Or.inr (.apart hkind hscript hp)
        | true =>
          obtain ⟨m, hm, hchunk⟩ := Bundle.exists_module ht hp
          have hprimary : target.destination? = some m.destination := by
            rw [← hchunk]
            exact (Bundle.modules_spec hm).2.1
          by_cases hsame : m.destination.Same d.destination
          · exact Or.inl fun _ => ⟨m, hm, hsame⟩
          · exact Or.inr (.elsewhere hkind hp hprimary hsame)

/-- What overrules a reference is not a reference of the same kind to the same destination. -/
theorem rival_of_overruled (h : Cast start ran entries target) (hsame : d.target.Same target.file)
    (ho : Overruled config registry output d target) : Rival start ran entries d := by
  cases h with
  | entry hfile hs hkind => exact .entry hfile (hs.trans hsame.symm)
  | plugin h => exact .plugin (h.congr hsame)
  | @reference chunk e hchunk he hs hkind hprimary =>
    refine .reference hchunk he (hs.trans hsame.symm) ?_
    -- being overruled takes another kind, or another destination
    cases ho with
    | packed hnone hp hbundle _ =>
      refine Or.inl fun heq => ?_
      rw [heq, hnone, hbundle] at hkind
      cases hkind
    | stubbed hscatter hp _ =>
      refine Or.inl fun heq => ?_
      rw [heq, hscatter] at hkind
      unfold Bundle.participates at hp
      rw [hkind, Option.getD_some] at hp
      simp at hp
    | apart hbundle hscript hp =>
      refine Or.inl fun heq => ?_
      rw [heq, hbundle] at hkind
      unfold Bundle.participates at hp
      rw [hkind, hscript, Option.getD_some] at hp
      simp at hp
    | elsewhere hbundle hp hplace hother =>
      rw [hprimary] at hplace
      rw [← Option.some.inj hplace] at hother
      exact Or.inr hother

/-- After a run that packs, every reference that is followed, of a chunk that the build has
compiled, leads to a chunk with its destination, and gets what its kind asks for, unless that chunk
was made for something else. -/
theorem answered_of_run (hrun : start.run = (ran, .ok stats))
    (hbundle : start.config.bundle = true) :
    ∃ entries compiled output, Finished start ran entries compiled output stats ∧
      ∀ chunk ∈ ran.registry.chunks, ¬ start.Supplies chunk.file →
        ∀ d ∈ chunk.dependencies, d.embedded = false →
          ∃ target, ran.registry.get? d.target = some target ∧
            target.destinations.contains d.destination = true ∧
            (Fulfilled ran.registry output d target ∨
              Overruled ran.config ran.registry output d target ∧ Rival start ran entries d) := by
  obtain ⟨entries, compiled, output, h⟩ := exists_finished hrun
  refine ⟨entries, compiled, output, h, fun chunk hc hsupplies d hd hembedded => ?_⟩
  have hpack := h.pack_of_bundle hbundle
  obtain ⟨target, hget, hcontains⟩ := writes_of_finished h hc hsupplies hd hembedded
  have ht := Registry.mem_of_get? hget
  refine ⟨target, hget, hcontains, ?_⟩
  rcases fulfilled_or_overruled (Bundle.outlet h.sorted_registry hpack ht) ht hcontains
    with hyes | hno
  · exact Or.inl hyes
  · exact Or.inr ⟨hno, rival_of_overruled (exists_cast h ht) (Registry.same_of_get? hget) hno⟩


/-! ### A component that is required first -/

namespace Required

/-- An app whose script requires the script of one of its components. -/
def app : Build where
  config := { Config.of ⟨"/p"⟩ with
    publicPath := some "http://a"
    bundle := true
    sourceMap := false
    manifest := { pages := ["p"], usingComponents := [("c", "/c")] } }
  disk := {
    entries := [
      (["p"], .folder),
      (["p", "project.config.json"], .file "\x7b\x7d".toUTF8),
      (["p", "src"], .folder),
      (["p", "src", "app.js"], .file "require('./c')".toUTF8),
      (["p", "src", "app.json"],
        .file "\x7b\"pages\":[\"p\"],\"usingComponents\":\x7b\"c\":\"/c\"\x7d\x7d".toUTF8),
      (["p", "src", "c.js"], .file "c".toUTF8)]
    current := [] }

theorem bare : app.Bare :=
  ⟨rfl, rfl⟩

theorem written : ∃ ready ∈ app.readyUpTo 8, ready.write.2.isOk = true ∧
    ∃ output ∈ ready.output.toOption, ∃ chunk ∈ ready.build.registry.chunks,
      ∃ d ∈ chunk.dependencies, d.embedded = false ∧ d.kind = none ∧
        ∀ o ∈ output, o.destinations.contains d.destination = false := by
  decide +kernel

theorem finished : ∃ ran stats entries compiled output, app.run = (ran, .ok stats) ∧
    Finished app ran entries compiled output stats ∧
      ∃ chunk ∈ ran.registry.chunks, ∃ d ∈ chunk.dependencies, d.embedded = false ∧ d.kind = none ∧
        ∀ o ∈ output, o.destinations.contains d.destination = false := by
  obtain ⟨ready, hready, hwritten, output, houtput, hmissing⟩ := written
  have hrunReady := runReady_of_readyUpTo bare hready
  have hrun : app.run = ready.write := by
    rw [run_eq, hrunReady]
  cases hwrite : ready.write with
  | mk ran result =>
    rw [hwrite] at hrun hwritten
    cases result with
    | error error => cases hwritten
    | ok stats =>
      obtain ⟨entries, compiled, chunks, h⟩ := exists_finished hrun
      have hfinal := h.ready
      rw [hrunReady] at hfinal
      obtain rfl : output = chunks := by
        rw [hfinal] at houtput
        exact (Option.some.inj houtput).symm
      have hregistry : ran.registry = ready.build.registry := by
        rw [hfinal]
        exact h.registry
      rw [← hregistry] at hmissing
      exact ⟨ran, stats, entries, compiled, output, hrun, h, hmissing⟩

end Required

/-- A component that is first met as a required script is only packed: nothing is written to the
destination of the reference to it. -/
theorem missing_of_required : Required.app.config.bundle = true ∧
    ∃ ran stats entries compiled output, Required.app.run = (ran, .ok stats) ∧
      Finished Required.app ran entries compiled output stats ∧
        ∃ chunk ∈ ran.registry.chunks, ∃ d ∈ chunk.dependencies, d.embedded = false ∧
          d.kind = none ∧ ∀ o ∈ output, o.destinations.contains d.destination = false :=
  ⟨rfl, Required.finished⟩

/-- The references of that app are answered, or overruled by another one. -/
theorem answered_of_required : ∃ ran stats, Required.app.run = (ran, .ok stats) ∧
    Required.app.config.bundle = true ∧
    ∃ entries compiled output, Finished Required.app ran entries compiled output stats ∧
      ∀ chunk ∈ ran.registry.chunks, ¬ Required.app.Supplies chunk.file →
        ∀ d ∈ chunk.dependencies, d.embedded = false →
          ∃ target, ran.registry.get? d.target = some target ∧
            target.destinations.contains d.destination = true ∧
            (Fulfilled ran.registry output d target ∨
              Overruled ran.config ran.registry output d target ∧
                Rival Required.app ran entries d) := by
  obtain ⟨ran, stats, -, -, -, hrun, -⟩ := Required.finished
  exact ⟨ran, stats, hrun, rfl, answered_of_run hrun rfl⟩

end Build

end Minipack
