/-
What the server of static files answers.

A way without percent signs is read as it is written (`StaticServer.unescape_utf8`).  It is then
followed from the served folder with its links followed, and what it leads to must lie in that
folder (`StaticServer.Sheltered`).  So a request for what a path is below the folder is answered
with what the path reads (`StaticServer.answer_of_sheltered`).
-/
import Mathlib.Data.List.TakeWhile
import Minipack.Proofs.Disk.Leading
import Minipack.Proofs.Flush
import Minipack.Proofs.Json.Writing
import Minipack.Proofs.Path.Moves
import Minipack.StaticServer

namespace Minipack

variable {disk : Disk} {folder p q : Path} {root place : Place}

/-! ### Folders and what lies below -/

namespace Disk

/-- The components of the path of a place are its names. -/
theorem components_pathOf (hnamed : place.Named) :
    (pathOf place).components = .root :: place.map .name := by
  rw [Path.components_of_isAbsolute (isAbsolute_pathOf place), Path.body]
  by_cases hne : place = []
  · subst hne
    rfl
  · rw [pieces_pathOf hnamed hne, Path.bodyComponents_cons_of_idle rfl]
    refine congrArg _ ?_
    clear hne
    induction place with
    | nil => rfl
    | cons name names ih =>
      have hname := Component.isName_name.1 (hnamed name List.mem_cons_self)
      have hbusy : Path.isIdle name.toList = false := by
        simp [Path.isIdle, hname.2.1, hname.2.2.1]
      rw [List.map_cons, Path.bodyComponents_cons_of_busy hbusy, Path.componentOf,
        if_neg hname.2.2.2, String.ofList_toList,
        ih fun name hn => hnamed name (List.mem_cons_of_mem _ hn)]
      rfl

/-- One path of places starts with another when the names do. -/
theorem startsWith_pathOf (hroot : root.Named) (hplace : place.Named) :
    (pathOf place).startsWith (pathOf root) = true ↔ root <+: place := by
  rw [Path.startsWith, components_pathOf hplace, components_pathOf hroot,
    List.isPrefixOf_iff_prefix, List.cons_prefix_cons,
    List.prefix_map_iff_of_injective fun _ _ h => Component.name.inj h]
  exact and_iff_right rfl

/-- An absolute path leads to a place of names, below which all is as the walk found it. -/
theorem rooted_of_find (habsolute : p.isAbsolute = true) (h : disk.find true p = .ok place) :
    disk.Rooted place ∧ place.Named := by
  have hleads := leads_of_find habsolute h
  refine ⟨hleads.rooted disk.rooted_nil, ?_⟩
  have hnamed : (Spot.taken place).place.Named := named_walk (fun _ hn => by cases hn)
    (fun piece hpiece => Path.not_mem_of_mem_pieces hpiece) (leads_iff.2 hleads)
  exact hnamed

/-- What a path is below a folder leads from the folder, with links followed, to where the path
leads. -/
theorem find_join_of_strip? (hfolder : folder.isAbsolute = true) (hp : p.isAbsolute = true)
    (hstrip : p.strip? folder = some q) (hq : q.body ≠ [])
    (hroot : disk.find true folder = .ok root)
    (hplace : disk.find true p = .ok place) (hopen : Openable ((pathOf root).join q)) :
    disk.find true ((pathOf root).join q) = .ok place := by
  obtain ⟨hrelative, hcomponents⟩ := Path.strip?_spec (Path.components_ne_nil hfolder) hstrip
  obtain ⟨-, hlast⟩ := Path.busy_ends_of_strip? hp hfolder hstrip hq
  -- the steps of the path are those of the folder and what is left
  have hsteps : Path.busy (Path.pieces p.text.toList) =
      Path.busy (Path.pieces folder.text.toList) ++ Path.busy (Path.pieces q.text.toList) := by
    rw [Path.components_of_isAbsolute hp, Path.components_of_isAbsolute hfolder] at hcomponents
    rw [List.cons_append] at hcomponents
    have hbody := (List.cons.inj hcomponents).2
    unfold Path.body Path.bodyComponents at hbody
    rw [← List.map_append] at hbody
    exact List.map_injective_iff.2 (fun _ _ h => Path.componentOf_inj h) hbody
  -- the walk of the path comes to the folder and goes on from there
  have hwalk := (leads_of_find hp hplace).busy
  obtain ⟨there, m, hm, hfront, hrest⟩ := hwalk.split hsteps
  have hthere : there = root := by
    have htaken := leads_iff.2 hfront
    rw [leads_iff.2 (leads_of_find hfolder hroot).busy] at htaken
    exact (Spot.taken.inj (Except.ok.inj htaken)).symm
  subst hthere
  have hne : Path.busy (Path.pieces q.text.toList) ≠ [] := fun hnil => hq (by
    rw [Path.body, Path.bodyComponents]
    exact congrArg _ hnil)
  obtain ⟨hrooted, hnamed⟩ := rooted_of_find hfolder hroot
  refine find_child_pathOf hrooted hnamed (hrest.folder hne) ?_ hopen hm
    (hrest.fill (.of_busy hlast))
  exact fun hslash => Bool.eq_false_iff.1 hrelative (beq_iff_eq.2 hslash)

end Disk

namespace StaticServer

/-- Where a path leads, with links followed, lies in the folder, and the paths by which a server of
the folder asks for it can be opened. -/
def Sheltered (disk : Disk) (folder p : Path) : Prop :=
  ∃ root ∈ disk.place? folder, disk.hasFolderAt root = true ∧ ∃ place ∈ disk.place? p,
    root <+: place ∧ Disk.Openable (Disk.pathOf place) ∧
      Disk.Openable ((Disk.pathOf root).join ((p.strip? folder).getD p))

instance (disk : Disk) (folder p : Path) : Decidable (Sheltered disk folder p) :=
  inferInstanceAs (Decidable (∃ root ∈ disk.place? folder, _ ∧ ∃ place ∈ disk.place? p, _))

/-- A file in a folder has steps below it. -/
theorem Sheltered.body_ne_nil (h : Sheltered disk folder p) (hfolder : folder.isAbsolute = true)
    (hstrip : p.strip? folder = some q) {content : ByteArray} (hread : disk.read p = .ok content) :
    q.body ≠ [] := by
  obtain ⟨root, hroot, hisFolder, -⟩ := h
  obtain ⟨there, hthere, hentry⟩ := Disk.read_eq_ok_iff.1 hread
  intro hnil
  -- else it is another spelling of the folder
  obtain ⟨-, hcomponents⟩ := Path.strip?_spec (Path.components_ne_nil hfolder) hstrip
  rw [hnil, List.append_nil] at hcomponents
  obtain rfl := Disk.place_eq_of_same hcomponents hthere (Disk.place?_eq_some_iff.1 hroot)
  rw [Disk.hasFolderAt_iff.1 hisFolder] at hentry
  cases hentry

/-- A request that leads to a file in the folder is answered with the file. -/
theorem serve_of_find {file : String} {content : ByteArray} (hrootNamed : root.Named)
    (hroot : disk.find true folder = .ok root)
    (hplace : disk.find true ((Disk.pathOf root).child file) = .ok place) (hbelow : root <+: place)
    (hopen : Disk.Openable (Disk.pathOf place))
    (hentry : disk.entryAt? place = some (.file content)) :
    serve disk folder file =
      ⟨200, some (contentType (((Disk.pathOf place).extension?.getD "").map Char.toLower)),
        content⟩ := by
  obtain ⟨hrooted, hnamed⟩ := Disk.rooted_of_find
    (Path.isAbsolute_join (Disk.isAbsolute_pathOf root) ⟨file⟩) hplace
  have hread : disk.read (Disk.pathOf place) = .ok content :=
    Disk.read_eq_ok_iff.2 ⟨place, Disk.find_pathOf hrooted hnamed hopen hentry rfl, hentry⟩
  have hlocate : locate? disk folder file = some (Disk.pathOf place) := by
    have hcanonical : disk.canonical folder = .ok (Disk.pathOf root) := by
      rw [Disk.canonical, hroot]
    have hcanonical' : disk.canonical ((Disk.pathOf root).child file) =
        .ok (Disk.pathOf place) := by
      rw [Disk.canonical, hplace]
    have hstarts := (Disk.startsWith_pathOf hrootNamed hnamed).2 hbelow
    have hisFile := Disk.isFile_iff_read.2 ⟨content, hread⟩
    simp only [locate?, hcanonical, hcanonical', Except.toOption, hstarts, hisFile, Bool.and_self,
      if_true, Option.bind_eq_bind, Option.bind_some]
  unfold serve
  rw [hlocate]
  dsimp only
  rw [hread]

/-- What a path is below the folder is answered with what the path reads. -/
theorem serve_of_sheltered (hfolder : folder.isAbsolute = true) (hp : p.isAbsolute = true)
    (hstrip : p.strip? folder = some q) (h : Sheltered disk folder p)
    {content : ByteArray} (hread : disk.read p = .ok content) :
    (serve disk folder q.text).status = 200 ∧ (serve disk folder q.text).body = content := by
  have hq := h.body_ne_nil hfolder hstrip hread
  obtain ⟨root, hroot, -, place, hplace, hbelow, hopen, hway⟩ := h
  rw [Option.mem_def, Disk.place?_eq_some_iff] at hroot hplace
  rw [hstrip, Option.getD_some] at hway
  have hfound := Disk.find_join_of_strip? hfolder hp hstrip hq hroot hplace hway
  obtain ⟨there, hthere, hentry⟩ := Disk.read_eq_ok_iff.1 hread
  obtain rfl : place = there := Except.ok.inj (hplace.symm.trans hthere)
  rw [serve_of_find (Disk.rooted_of_find hfolder hroot).2 hroot hfound hbelow hopen hentry]
  exact ⟨rfl, rfl⟩

/-! ### Ways as they are asked for -/

/-- Bytes without a percent sign stay as they are. -/
theorem unescape_of_not_mem {bytes : List UInt8} (h : 37 ∉ bytes) : unescape bytes = bytes := by
  induction bytes with
  | nil => rfl
  | cons b rest ih =>
    rw [List.mem_cons, not_or] at h
    obtain ⟨hb, hrest⟩ := h
    rw [unescape.eq_def]
    split
    · exact absurd (List.cons.inj ‹_›).1.symm hb
    · next heq =>
      obtain ⟨rfl, rfl⟩ := List.cons.inj heq
      rw [ih hrest]
    · next heq => cases heq

/-- A percent sign comes from a percent sign alone. -/
theorem not_mem_utf8 {text : List Char} (h : '%' ∉ text) : 37 ∉ utf8 text := by
  intro hmem
  obtain ⟨c, hc, hb⟩ := List.mem_flatMap.1 hmem
  by_cases hascii : c.toNat ≤ 127
  · rw [utf8EncodeChar_ascii hascii, List.mem_singleton] at hb
    have hnat : c.toNat = 37 := by
      have hmod := congrArg UInt8.toNat hb
      rw [UInt8.toNat_ofNat'] at hmod
      have hsmall : c.toNat % 256 = c.toNat := Nat.mod_eq_of_lt (by omega)
      exact (hmod.trans hsmall).symm
    have hpercent : c = '%' := Char.ext (UInt32.toNat.inj hnat)
    exact h (hpercent ▸ hc)
  · have hlarge := le_of_mem_utf8EncodeChar (Nat.lt_of_not_le hascii) hb
    exact absurd hlarge (by decide)

/-- A way without percent signs is looked for as it is written. -/
theorem find_of_plain {way : String} (h : '%' ∉ way.toList) :
    find disk folder way.toList = serve disk folder way := by
  have hbytes : (⟨(unescape (String.ofList way.toList).toUTF8.toList).toArray⟩ : ByteArray) =
      way.toUTF8 := by
    rw [String.ofList_toList, toList_toUTF8, unescape_of_not_mem (not_mem_utf8 h)]
    refine ByteArray.ext ?_
    rw [← data_toUTF8, Array.toArray_toList]
  unfold find
  rw [hbytes, Text.decode_toUTF8]

/-- The path part of an address: what follows its authority, up to a query or fragment. -/
def pathPart (address : String) : String :=
  let behind := (address.toList.dropWhile (· != ':')).drop 3
  String.ofList (pathOf (behind.dropWhile (· != '/')))

/-- A request for a way that is written without percent signs, and without what ends a path. -/
theorem answer_of_plain {way : String} (hne : way.toList ≠ []) (h : '%' ∉ way.toList)
    (hends : ∀ c ∈ way.toList, c ≠ '?' ∧ c ≠ '#') :
    answer disk folder .get ("/" ++ way) = serve disk folder way := by
  have hpath : pathOf ("/" ++ way).toList = '/' :: way.toList := by
    rw [String.toList_append]
    refine List.takeWhile_eq_self_iff.2 fun c hc => ?_
    rcases List.mem_cons.1 hc with rfl | hc
    · rfl
    · simp [hends c hc]
  rw [← find_of_plain h]
  cases hway : way.toList with
  | nil => exact absurd hway hne
  | cons c rest =>
    unfold answer
    rw [hpath, hway]
    rfl

/-- So is a request for what a path is below the folder. -/
theorem answer_of_sheltered (hfolder : folder.isAbsolute = true) (hp : p.isAbsolute = true)
    (hstrip : p.strip? folder = some q) (h : Sheltered disk folder p)
    (hplain : ∀ c ∈ q.text.toList, c ≠ '%' ∧ c ≠ '?' ∧ c ≠ '#') {content : ByteArray}
    (hread : disk.read p = .ok content) :
    (answer disk folder .get ("/" ++ q.text)).status = 200 ∧
      (answer disk folder .get ("/" ++ q.text)).body = content := by
  have hne : q.text.toList ≠ [] := by
    intro hnil
    refine h.body_ne_nil hfolder hstrip hread ?_
    rw [Path.body, hnil]
    rfl
  rw [answer_of_plain hne (fun hmem => (hplain _ hmem).1 rfl) fun c hc => (hplain c hc).2]
  exact serve_of_sheltered hfolder hp hstrip h hread

end StaticServer

end Minipack
