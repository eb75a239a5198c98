/-
What the server of static files hands out.

A request is answered with a file exactly when it leads, with links followed, to a file in the
served folder (`StaticServer.LeadsInto`), wherever links, `..` steps and absolute requests lead on
the way, and it is answered that nothing was found otherwise (`StaticServer.confined_of_named`).  A
walk never ends at a link, so the path of the place where it ends leads there again
(`Disk.find_of_canonical`).  The folder of a place is a front of its names and not of its text, and
what stands outside the served folder is not looked at: disks that differ in the files outside are
served alike.
-/
import Minipack.Proofs.Disk.Editing
import Minipack.Proofs.StaticServer

namespace Minipack

variable {disk other : Disk} {folder p : Path} {root place there : Place}

namespace Disk

/-- What a walk with links followed ends at is no link. -/
theorem Leads.stands {n : Nat} {start : Place} {pieces : List (List Char)}
    (h : Leads disk n start pieces place) (hrooted : disk.Rooted start)
    (hstart : ∃ entry, disk.entryAt? start = some entry ∧ entry.isLink = false) :
    ∃ entry, disk.entryAt? place = some entry ∧ entry.isLink = false := by
  induction h with
  | here => exact hstart
  | idle _ _ _ ih => exact ih hrooted hstart
  | @up n start place rest _ _ ih =>
    rcases List.eq_nil_or_concat start with rfl | ⟨init, last, rfl⟩
    · exact ih hrooted hstart
    · rw [List.concat_eq_append] at hrooted
      rw [List.concat_eq_append, List.dropLast_concat] at ih
      exact ih hrooted.of_append ⟨.folder, hasFolderAt_iff.1 (hrooted init last [] rfl).1, rfl⟩
  | name hfolder hentry hstands hlink _ ih =>
    exact ih (hrooted.concat hfolder (by rwa [String.toList_ofList])) ⟨_, hstands, hlink⟩
  | @link n start place piece rest target hfolder _ _ _ ih =>
    unfold startOf at ih
    split at ih
    · exact ih disk.rooted_nil ⟨.folder, rfl, rfl⟩
    · exact ih hrooted hstart

/-- The path of the place of an absolute path leads there again, if it leads anywhere. -/
theorem find_of_canonical (habsolute : p.isAbsolute = true) (h : disk.find true p = .ok place)
    (hagain : disk.find true (pathOf place) = .ok there) : there = place := by
  obtain ⟨hrooted, hnamed⟩ := rooted_of_find habsolute h
  obtain ⟨entry, hentry, hlink⟩ :=
    (leads_of_find habsolute h).stands disk.rooted_nil ⟨.folder, rfl, rfl⟩
  obtain ⟨-, hnul, hsize, -⟩ := spot_eq_ok_iff.1 (find_eq_ok_iff.1 hagain)
  rw [find_pathOf hrooted hnamed ⟨hnul, hsize⟩ hentry hlink] at hagain
  exact (Except.ok.inj hagain).symm

end Disk

namespace StaticServer

variable {file : String} {content : ByteArray}

/-- A request leads, with links followed, to a file in the folder that has this content, and the
system takes the path of its place. -/
def LeadsInto (disk : Disk) (folder : Path) (file : String) (content : ByteArray) : Prop :=
  ∃ root, disk.find true folder = .ok root ∧
    ∃ place, disk.find true ((Disk.pathOf root).child file) = .ok place ∧ root <+: place ∧
      Disk.Openable (Disk.pathOf place) ∧ disk.entryAt? place = some (.file content)

/-- What a request that is answered with a path has led to. -/
theorem exists_of_locate? (hn : disk.Named) (h : locate? disk folder file = some p) :
    ∃ root place content, disk.find true folder = .ok root ∧
      disk.find true ((Disk.pathOf root).child file) = .ok place ∧ root <+: place ∧
      p = Disk.pathOf place ∧ disk.find true p = .ok place ∧
      disk.entryAt? place = some (.file content) := by
  unfold locate? Disk.canonical at h
  cases hroot : disk.find true folder with
  | error fault =>
    rw [hroot] at h
    cases h
  | ok root =>
    rw [hroot] at h
    cases hplace : disk.find true ((Disk.pathOf root).child file) with
    | error fault =>
      simp only [Except.toOption, Option.bind_eq_bind, Option.bind_some, hplace, Option.bind_none,
        reduceCtorEq] at h
    | ok place =>
      simp only [Except.toOption, Option.bind_eq_bind, Option.bind_some, hplace,
        Option.ite_none_right_eq_some, Bool.and_eq_true, Option.some.injEq] at h
      obtain ⟨⟨hstarts, hfile⟩, rfl⟩ := h
      have habsolute := Path.isAbsolute_join (Disk.isAbsolute_pathOf root) ⟨file⟩
      have hnamed := (Disk.rooted_of_find habsolute hplace).2
      have hrootNamed : root.Named := Disk.named_spot hn (Disk.find_eq_ok_iff.1 hroot)
      obtain ⟨content, hread⟩ := Disk.isFile_iff_read.1 hfile
      obtain ⟨there, hthere, hentry⟩ := Disk.read_eq_ok_iff.1 hread
      -- asking for the path of the place leads to the place
      obtain rfl := Disk.find_of_canonical habsolute hplace hthere
      exact ⟨root, there, content, rfl, hplace,
        (Disk.startsWith_pathOf hrootNamed hnamed).1 hstarts, rfl, hthere, hentry⟩

/-- How a request for a file of a folder is answered. -/
structure Confined (disk : Disk) (folder : Path) (file : String) : Prop where
  /-- With the content of what it leads to, when that is a file in the folder. -/
  served : ∀ content, LeadsInto disk folder file content →
    ∃ kind, serve disk folder file = ⟨200, some kind, content⟩
  /-- In every other case with the status that tells that there is none. -/
  refused : (∀ content, ¬ LeadsInto disk folder file content) →
    serve disk folder file = ⟨404, none, ("File not found: " ++ file).toUTF8⟩
  /-- The contents of files outside the folder make no difference. -/
  unseen : ∀ other : Disk, other.layout = disk.layout →
    (∀ root place, disk.find true folder = .ok root → root <+: place →
      other.entryAt? place = disk.entryAt? place) →
    serve other folder file = serve disk folder file

theorem served_of_leadsInto (hn : disk.Named) (h : LeadsInto disk folder file content) :
    ∃ kind, serve disk folder file = ⟨200, some kind, content⟩ := by
  obtain ⟨root, hroot, place, hplace, hbelow, hopen, hentry⟩ := h
  have hrootNamed : root.Named := Disk.named_spot hn (Disk.find_eq_ok_iff.1 hroot)
  exact ⟨_, serve_of_find hrootNamed hroot hplace hbelow hopen hentry⟩

theorem refused_of_not_leadsInto (hn : disk.Named)
    (h : ∀ content, ¬ LeadsInto disk folder file content) :
    serve disk folder file = ⟨404, none, ("File not found: " ++ file).toUTF8⟩ := by
  unfold serve
  cases hlocate : locate? disk folder file with
  | none =>
    show refusal (.fileNotFound file) = _
    rfl
  | some p =>
    obtain ⟨root, place, content, hroot, hplace, hbelow, rfl, hagain, hentry⟩ :=
      exists_of_locate? hn hlocate
    obtain ⟨-, hnul, hsize, -⟩ := Disk.spot_eq_ok_iff.1 (Disk.find_eq_ok_iff.1 hagain)
    exact absurd ⟨root, hroot, place, hplace, hbelow, ⟨hnul, hsize⟩, hentry⟩ (h content)

/-- Whether a request leads to a file of the folder does not depend on what files hold. -/
theorem locate?_of_layout (h : other.layout = disk.layout) :
    locate? other folder file = locate? disk folder file := by
  have hfind : ∀ path, other.find true path = disk.find true path := fun path => by
    rw [← Disk.find_layout other, h, Disk.find_layout]
  have hcanonical : other.canonical = disk.canonical := by
    funext path
    unfold Disk.canonical
    rw [hfind]
  unfold locate?
  rw [hcanonical, Disk.isFile_of_layout h]

/-- A request is answered with a file when it leads to one in the folder, with links followed, and
with nothing in every other case; what files outside the folder hold is never seen. -/
theorem confined_of_named (hn : disk.Named) (folder : Path) (file : String) :
    Confined disk folder file where
  served := fun content h => served_of_leadsInto hn h
  refused := refused_of_not_leadsInto hn
  unseen := by
    intro other hlayout hinside
    unfold serve
    rw [locate?_of_layout hlayout]
    cases hlocate : locate? disk folder file with
    | none => rfl
    | some p =>
      obtain ⟨root, place, content, hroot, -, hbelow, rfl, hagain, -⟩ :=
        exists_of_locate? hn hlocate
      dsimp only
      rw [Disk.read_of_layout hlayout fun found hfound => ?_]
      obtain rfl : place = found := Except.ok.inj (hagain.symm.trans hfound)
      exact hinside root place hroot hbelow

/-! ### A folder behind links -/

namespace Linked

/-- The served folder is a link, and in it there are a link to a file of the folder, a link that
leads out, and one that leads to itself; beside it lie a folder whose name goes on and a secret. -/
def volume : Disk where
  entries := [
    (["p"], .folder),
    (["p", "out"], .link "real/static"),
    (["p", "real"], .folder),
    (["p", "real", "static"], .folder),
    (["p", "real", "static", "a.png"], .file "a".toUTF8),
    (["p", "real", "static", "circle"], .link "circle"),
    (["p", "real", "static", "in"], .link "/p/out/a.png"),
    (["p", "real", "static", "up"], .link "../../secret"),
    (["p", "real", "static2"], .folder),
    (["p", "real", "static2", "b"], .file "b".toUTF8),
    (["p", "secret"], .file "s".toUTF8)]
  current := ["p"]

/-- The disk with another secret. -/
def elsewhere : Disk := volume.set ["p", "secret"] (.file "t".toUTF8)

theorem leadsInto_volume : LeadsInto volume ⟨"out"⟩ "../static/in" "a".toUTF8 :=
  ⟨["p", "real", "static"], by decide +kernel, ["p", "real", "static", "a.png"], by decide +kernel,
    by decide +kernel, by decide +kernel, by decide +kernel⟩

/-- Only the secret is another one. -/
theorem inside_elsewhere : ∀ root place, volume.find true ⟨"out"⟩ = .ok root → root <+: place →
    elsewhere.entryAt? place = volume.entryAt? place := by
  intro root place hroot hbelow
  have hserved : volume.find true ⟨"out"⟩ = .ok ["p", "real", "static"] := by decide +kernel
  obtain rfl := Except.ok.inj (hserved.symm.trans hroot)
  refine Disk.entryAt?_set_of_ne ?_ _
  rintro rfl
  exact absurd hbelow (by decide)

end Linked

/-- A link and a way back into the folder are followed; what leads out, nowhere or to a folder is
refused. -/
theorem confined_linked : Linked.volume.Named ∧
    (∃ kind, serve Linked.volume ⟨"out"⟩ "../static/in" = ⟨200, some kind, "a".toUTF8⟩) ∧
    (∀ file ∈ ["up", "../static2/b", "/p/secret", "circle", ".", "x"],
      serve Linked.volume ⟨"out"⟩ file = ⟨404, none, ("File not found: " ++ file).toUTF8⟩) ∧
    serve Linked.elsewhere ⟨"out"⟩ "up" = serve Linked.volume ⟨"out"⟩ "up" := by
  have hnamed : Linked.volume.Named := by decide +kernel
  refine ⟨hnamed, ?_, fun file hfile => ?_, ?_⟩
  · exact (confined_of_named hnamed _ _).served _ Linked.leadsInto_volume
  · have hstatus : (serve Linked.volume ⟨"out"⟩ file).status = 404 := by
      revert file
      decide +kernel
    refine (confined_of_named hnamed _ _).refused fun content h => ?_
    obtain ⟨kind, hserved⟩ := (confined_of_named hnamed _ _).served content h
    rw [hserved] at hstatus
    cases hstatus
  · have hsecret : Linked.volume.entryAt? ["p", "secret"] = some (.file "s".toUTF8) := by
      decide +kernel
    exact (confined_of_named hnamed _ _).unseen _ (Disk.layout_set hsecret) Linked.inside_elsewhere

end StaticServer

end Minipack
