/-
Files of modules.

The files of a module are entries of one folder, the one in which its name is looked for
(`Resolve.findModule_eq_some_iff`).  The folder is reached by a normal path, so the files are
straight (`Resolve.straight_findModule`), and each is written in one way only
(`Resolve.tidy_findModule`).
-/
import Minipack.Proofs.Disk.Named
import Minipack.Proofs.Path.Tidy
import Minipack.Resolve.Lookup

namespace Minipack.Resolve

variable {config : Config} {disk : Disk} {name : String} {base : Path} {files : List Path}

/-- A module is found when its folder can be listed. -/
theorem findModule_eq_some_iff :
    findModule config disk name base = some files ↔ ∃ folder stem names,
      (base.joinSpecifier name).parent? = some folder ∧
      (base.joinSpecifier name).fileName? = some stem ∧ disk.names folder = .ok names ∧
      files = (names.map folder.child).filter (isModuleFile config disk stem) := by
  unfold findModule
  dsimp only
  cases (base.joinSpecifier name).parent? with
  | none => simp
  | some folder =>
    cases (base.joinSpecifier name).fileName? with
    | none => simp
    | some stem =>
      cases hnames : disk.names folder with
      | error fault => simp [hnames]
      | ok names => simp [hnames, eq_comm]

/-- The files of a module are straight. -/
theorem straight_findModule (hnamed : disk.Named) (hbase : base.isAbsolute = true)
    (h : findModule config disk name base = some files) : ∀ file ∈ files, file.Straight := by
  obtain ⟨folder, stem, names, hparent, -, hnames, rfl⟩ := findModule_eq_some_iff.1 h
  have hfolder : folder.Straight := (Path.straight_joinSpecifier hbase _).parent? hparent
  intro file hfile
  obtain ⟨entry, hentry, rfl⟩ := List.mem_map.1 (List.mem_filter.1 hfile).1
  exact hfolder.child (hnamed.names hnames entry hentry)

/-- The folder of a module is tidy and in normal form, however the module is named. -/
theorem exists_folder_findModule (h : findModule config disk name base = some files) :
    ∃ folder stem names,
      folder.Tidy ∧ Path.Reduced folder.components.reverse ∧ disk.names folder = .ok names ∧
      files = (names.map folder.child).filter (isModuleFile config disk stem) := by
  obtain ⟨folder, stem, names, hparent, hstem, hnames, hfiles⟩ := findModule_eq_some_iff.1 h
  obtain ⟨folder', hparent', htidy, hreduced⟩ := Path.exists_folder_normalize hstem
  obtain rfl := Option.some.inj (hparent.symm.trans hparent')
  exact ⟨folder, stem, names, htidy, hreduced, hnames, hfiles⟩

/-- The files of a module are tidy. -/
theorem tidy_findModule (hnamed : disk.Named) (h : findModule config disk name base = some files) :
    ∀ file ∈ files, file.Tidy := by
  obtain ⟨folder, stem, names, htidy, -, hnames, rfl⟩ := exists_folder_findModule h
  intro file hfile
  obtain ⟨entry, hentry, rfl⟩ := List.mem_map.1 (List.mem_filter.1 hfile).1
  exact htidy.child (hnamed.names hnames entry hentry)

end Minipack.Resolve
