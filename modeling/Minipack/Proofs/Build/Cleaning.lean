/-
What the clean plugin spares.

The guard of the plugin compares components, and the removal goes where the components lead.  So a
target is removed with the source tree or with the root when its components do not tell that these
lie at or below it (`Plugin.Overlooked`): it may have `..` steps, or lie above the root while the
source folder does not.  Where no target is overlooked, the files below the source folder stay but
those below a target strictly inside, and so does the root (`Plugin.spared_of_clean`).  No target is
where the folders of the settings have no `..` steps and the source folder lies at or below the root
(`Plugin.not_overlooked_of_straight`).  An overlooked target that is a folder is emptied
(`Plugin.entryAt?_of_overlooked`).
-/
import Minipack.Plugin.Clean
import Minipack.Proofs.Build.Stages
import Minipack.Proofs.Disk.Pruning

namespace Minipack

/-- Where nothing is pending, a step leaves the disk to the next one, or it is the last. -/
theorem Build.exists_runBefore_cons {build : Build} (hidle : build.pending = []) (step : HookStep)
    (rest : List HookStep) : ∃ next : Build, next.disk = (step build.disk).disk ∧
      next.pending = [] ∧ ((build.runBefore (step :: rest)).1.disk = next.disk ∨
        build.runBefore (step :: rest) = next.runBefore rest) := by
  obtain ⟨next, hnext⟩ : ∃ next, next =
    ({ build with disk := (step build.disk).disk } : Build).tell (step build.disk).log := ⟨_, rfl⟩
  have hpending : next.pending = [] := by rw [hnext]; exact hidle
  refine ⟨next, by rw [hnext]; rfl, hpending, ?_⟩
  rw [runBefore, ← hnext, waitIf_of_pending hpending]
  split
  · exact Or.inl rfl
  · exact Or.inr rfl

namespace Plugin

variable {settings : Settings} {disk disk' : Disk} {folder : Path}

/-- The guard lets a folder pass, though the source folder or the root lies at or below it. -/
def Overlooked (settings : Settings) (disk : Disk) (folder : Path) : Prop :=
  isProtected settings folder = false ∧
    (disk.aim folder <+: disk.aim settings.src ∨ disk.aim folder <+: disk.aim settings.root)

instance (settings : Settings) (disk : Disk) (folder : Path) :
    Decidable (Overlooked settings disk folder) :=
  inferInstanceAs (Decidable (_ ∧ (_ ∨ _)))

/-- The source tree and the root have outlived the cleaning of targets. -/
structure Spared (settings : Settings) (targets : List CleanTarget) (disk disk' : Disk) : Prop where
  /-- A file below the source folder is there with its content, unless it lay below a target
  strictly inside the source folder. -/
  files : ∀ place content, (disk.aim settings.src).Inside place →
    disk.entryAt? place = some (.file content) →
      disk'.entryAt? place = some (.file content) ∨
        ∃ target ∈ targets, isProtected settings (target.folder settings) = false ∧
          (disk.aim settings.src).Inside (disk.aim (target.folder settings)) ∧
          (disk.aim (target.folder settings)).Inside place
  /-- The root is there. -/
  root : disk.hasFolderAt (disk.aim settings.root) = true →
    disk'.hasFolderAt (disk.aim settings.root) = true

/-! ### One target -/

/-- The disk behind the cleaning of a folder that is there and that the guard lets pass. -/
theorem disk_cleanFolder (hpassed : isProtected settings folder = false)
    (hhas : disk.has folder = true) :
    (cleanFolder settings folder disk).disk = (disk.removeTree folder).1 := by
  unfold cleanFolder
  rw [hpassed, if_neg Bool.false_ne_true, if_pos hhas]
  split
  · next hremove => rw [hremove]
  · next hremove => rw [hremove]

/-- Cleaning a folder changes nothing or prunes the disk where the folder leads. -/
theorem prunes_cleanFolder (h : disk.Linkless) (settings : Settings) (folder : Path) :
    (cleanFolder settings folder disk).disk = disk ∨
      isProtected settings folder = false ∧
        disk.Prunes (cleanFolder settings folder disk).disk (disk.aim folder) := by
  cases hpassed : isProtected settings folder with
  | true =>
    unfold cleanFolder
    rw [if_pos hpassed]
    exact Or.inl rfl
  | false =>
    cases hhas : disk.has folder with
    | true =>
      rw [disk_cleanFolder hpassed hhas]
      exact Or.inr ⟨rfl, Disk.prunes_removeTree h folder⟩
    | false =>
      unfold cleanFolder
      rw [hpassed, if_neg Bool.false_ne_true, hhas, if_neg Bool.false_ne_true]
      exact Or.inl rfl

/-- A folder that is overlooked is emptied. -/
theorem entryAt?_of_overlooked (h : disk.Linkless) (hfolder : disk.isFolder folder = true)
    (hover : Overlooked settings disk folder) {place : Place}
    (hinside : (disk.aim folder).Inside place) :
    (cleanFolder settings folder disk).disk.entryAt? place = none := by
  unfold Disk.isFolder Disk.entry? at hfolder
  cases hfind : disk.find true folder with
  | error fault =>
    rw [hfind] at hfolder
    cases hfolder
  | ok there =>
    obtain rfl := Disk.place_of_find h hfind
    rw [hfind] at hfolder
    dsimp only at hfolder
    have hstands : disk.hasFolderAt (disk.aim folder) = true := by
      unfold Disk.hasFolderAt
      exact hfolder
    have hhas : disk.has folder = true := by
      rw [Disk.has, Disk.entry?, hfind]
      dsimp only
      rw [Disk.hasFolderAt_iff.1 hstands]
      rfl
    rw [disk_cleanFolder hover.1 hhas]
    exact Disk.entryAt?_of_removeTree h ((Disk.find_congr h false true folder).trans hfind) hstands
      hinside

/-- The guard sees all there is to see where no folder has `..` steps and the source folder lies at
or below the root. -/
theorem not_overlooked_of_straight (disk : Disk) (hroot : settings.root.Straight)
    (hsrc : settings.src.Straight) (hbelow : settings.src.startsWith settings.root = true)
    (hfolder : folder.Straight) : ¬ Overlooked settings disk folder := by
  rintro ⟨hpassed, hplaces⟩
  have haim {p : Path} (hp : p.Straight) : disk.aim p = p.place :=
    (disk.aim_of_straight hp).trans hp.place_eq.symm
  have habove : folder.place <+: settings.src.place := by
    rw [haim hfolder, haim hsrc, haim hroot] at hplaces
    rcases hplaces with hsource | hroot'
    · exact hsource
    · exact hroot'.trans ((hsrc.startsWith_iff hroot).1 hbelow)
  rw [isProtected, (hsrc.startsWith_iff hfolder).2 habove, Bool.or_true] at hpassed
  cases hpassed

/-! ### All targets -/

/-- A run of the plugin keeps what stands, unless it lies below a target that is not protected or is
that target. -/
theorem kept_of_clean (build : Build) (hlinkless : build.disk.Linkless) (hidle : build.pending = [])
    {targets : List CleanTarget} {place : Place} {entry : Entry}
    (hentry : build.disk.entryAt? place = some entry)
    (hfree : ∀ target ∈ targets, isProtected settings (target.folder settings) = false →
      ¬ ((build.disk.aim (target.folder settings)).Inside place ∨
        place = build.disk.aim (target.folder settings) ∧ entry = .folder)) :
    (build.runBefore ((clean targets).before settings)).1.disk.entryAt? place = some entry := by
  show (build.runBefore (targets.map _)).1.disk.entryAt? place = some entry
  induction targets generalizing build with
  | nil => exact hentry
  | cons target rest ih =>
    -- the first target leaves a disk on which the others lead where they led
    obtain ⟨hcurrent, hlinkless', hkept⟩ :
        (∀ p, (cleanFolder settings (target.folder settings) build.disk).disk.aim p =
          build.disk.aim p) ∧
        (cleanFolder settings (target.folder settings) build.disk).disk.Linkless ∧
        (cleanFolder settings (target.folder settings) build.disk).disk.entryAt? place =
          some entry := by
      rcases prunes_cleanFolder hlinkless settings (target.folder settings) with
        hsame | ⟨hpassed, hprunes⟩
      · rw [hsame]
        exact ⟨fun _ => rfl, hlinkless, hentry⟩
      · exact ⟨hprunes.aim, hprunes.linkless hlinkless,
          (hprunes.kept place entry hentry).resolve_right (hfree target List.mem_cons_self hpassed)⟩
    obtain ⟨next, hdisk, hnext, hrun⟩ := Build.exists_runBefore_cons hidle
      (cleanFolder settings (target.folder settings))
      (rest.map fun target => cleanFolder settings (target.folder settings))
    rw [← hdisk] at hcurrent hlinkless' hkept
    rw [List.map_cons]
    rcases hrun with hlast | hrest
    · rw [hlast]
      exact hkept
    · rw [hrest]
      refine ih next hlinkless' hnext hkept fun other hother => ?_
      rw [hcurrent]
      exact hfree other (List.mem_cons_of_mem _ hother)

/-- Where no target is overlooked, the plugin spares the source tree and the root. -/
theorem spared_of_clean {config : Config} {disk : Disk} {targets : List CleanTarget}
    (hlinkless : disk.Linkless)
    (hseen : ∀ target ∈ targets,
      ¬ Overlooked config.toSettings disk (target.folder config.toSettings)) :
    Spared config.toSettings targets disk
      ((Build.runBefore { config, disk } ((clean targets).before config.toSettings)).1.disk) := by
  refine ⟨fun place content hinside hfile => ?_, fun hroot => ?_⟩
  · refine Classical.or_iff_not_imp_right.2 fun hnone => ?_
    refine kept_of_clean { config, disk } hlinkless rfl hfile fun target ht hpassed hgone => ?_
    rcases hgone with hbelow | ⟨-, hfolder⟩
    · -- what is above a file below the source folder is above or inside the source folder
      refine hnone ⟨target, ht, hpassed, ?_, hbelow⟩
      rcases List.prefix_or_prefix_of_prefix hbelow.1 hinside.1 with habove | hunder
      · exact absurd ⟨hpassed, Or.inl habove⟩ (hseen target ht)
      · exact ⟨hunder, fun heq => hseen target ht ⟨hpassed, Or.inl (heq ▸ List.prefix_rfl)⟩⟩
    · cases hfolder
  · refine Disk.hasFolderAt_iff.2 (kept_of_clean { config, disk } hlinkless rfl
      (Disk.hasFolderAt_iff.1 hroot) fun target ht hpassed hgone => ?_)
    rcases hgone with hbelow | ⟨hplace, -⟩
    · exact hseen target ht ⟨hpassed, Or.inr hbelow.1⟩
    · exact hseen target ht ⟨hpassed, Or.inr (hplace ▸ List.prefix_rfl)⟩

namespace Outlying

/-- One target lies in the source folder, one beside it by way of it, and one is the root. -/
def config : Config :=
  { Config.of ⟨"/p"⟩ with
    out := ⟨"/p/src/out"⟩
    static := ⟨"/p/src/../static"⟩
    temp := ⟨"/p/./"⟩ }

def volume : Disk where
  entries := [(["p"], .folder), (["p", "src"], .folder), (["p", "src", "a"], .file .empty),
    (["p", "src", "out"], .folder), (["p", "src", "out", "b"], .file .empty),
    (["p", "static"], .folder), (["p", "static", "c"], .file .empty)]
  current := []

end Outlying

/-- The targets are removed or refused, and the sources stay. -/
theorem spared_outlying :
    Spared Outlying.config.toSettings [.out, .static, .temp] Outlying.volume
      ((Build.runBefore { config := Outlying.config, disk := Outlying.volume }
        ((clean [.out, .static, .temp]).before Outlying.config.toSettings)).1.disk) :=
  spared_of_clean (by decide +kernel) (by decide +kernel)

namespace Roundabout

/-- The folder of temporary files is the source folder, by way of it. -/
def config : Config :=
  { Config.of ⟨"/p"⟩ with temp := ⟨"/p/src/../src"⟩ }

def volume : Disk where
  entries := [(["p"], .folder), (["p", "src"], .folder),
    (["p", "src", "app.json"], .file .empty)]
  current := []

end Roundabout

namespace Above

/-- The folder of the output lies above the root, and the source folder elsewhere. -/
def config : Config :=
  { Config.of ⟨"/p/q"⟩ with src := ⟨"/s"⟩, out := ⟨"/p"⟩ }

def volume : Disk where
  entries := [(["p"], .folder), (["p", "q"], .folder), (["s"], .folder)]
  current := []

end Above

/-- A target with a `..` step takes the sources, and one above the root takes the root. -/
theorem not_spared_roundabout :
    ¬ Spared Roundabout.config.toSettings [.temp] Roundabout.volume
        ((Build.runBefore { config := Roundabout.config, disk := Roundabout.volume }
          ((clean [.temp]).before Roundabout.config.toSettings)).1.disk) ∧
      ¬ Spared Above.config.toSettings [.out] Above.volume
        ((Build.runBefore { config := Above.config, disk := Above.volume }
          ((clean [.out]).before Above.config.toSettings)).1.disk) := by
  constructor
  · intro hspared
    have hfile :=
      hspared.files ["p", "src", "app.json"] .empty (by decide +kernel) (by decide +kernel)
    revert hfile
    decide +kernel
  · intro hspared
    have hroot := hspared.root (by decide +kernel)
    revert hroot
    decide +kernel

end Plugin

end Minipack
