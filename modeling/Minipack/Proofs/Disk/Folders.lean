/-
The folders above a file.

The text of a path goes on behind the text of its parent (`Path.exists_text_of_parent?`), and a walk
that goes on behind some pieces has come to a folder there (`Disk.folder_of_walk`).  So all parents
of what is there are folders (`Disk.folder_of_mem_parents`), and making the folders of a file that
is there finds them made (`Disk.makeFolders_of_isFile`).
-/
import Minipack.Proofs.Disk.Growth
import Minipack.Proofs.Path.Parent

namespace Minipack

namespace Path

/-! ### Texts of parents -/

theorem intercalate_append {a b : List (List Char)} (ha : a ≠ []) (hb : b ≠ []) :
    ['/'].intercalate (a ++ b) = ['/'].intercalate a ++ '/' :: ['/'].intercalate b := by
  induction a with
  | nil => exact absurd rfl ha
  | cons first rest ih =>
    cases rest with
    | nil =>
      obtain ⟨next, after, rfl⟩ := List.exists_cons_of_ne_nil hb
      rw [List.singleton_append, List.intercalate_cons_cons, List.intercalate_singleton]
      simp
    | cons second more =>
      rw [List.cons_append, List.cons_append, List.intercalate_cons_cons, ← List.cons_append,
        ih (List.cons_ne_nil _ _), List.intercalate_cons_cons]
      simp

/-- A text is put together again from its front and its pieces. -/
theorem unsplit_eq {p : Path} (hp : p.text.toList ≠ []) {front : Option Component}
    {body : List (List Char)} (h : split p.text.toList = (front, body)) :
    front = some .root ∧ p.text.toList = '/' :: ['/'].intercalate body ∨
      front = some .current ∧ p.text.toList = ['/'].intercalate (['.'] :: body) ∨
      front = none ∧ p.text.toList = ['/'].intercalate body := by
  have htext := intercalate_pieces p.text.toList
  unfold split at h
  cases hpieces : pieces p.text.toList with
  | nil => exact absurd hpieces (pieces_ne_nil _)
  | cons first rest =>
    rw [hpieces] at h htext
    dsimp only at h
    split at h
    · next hfirst =>
      obtain rfl := List.isEmpty_iff.1 hfirst
      cases rest with
      | nil => exact absurd htext.symm hp
      | cons second more =>
        obtain ⟨rfl, rfl⟩ := Prod.mk.inj h
        exact Or.inl ⟨rfl, htext.symm⟩
    · split at h
      · next hdot =>
        obtain ⟨rfl, rfl⟩ := Prod.mk.inj h
        rw [hdot] at htext
        exact Or.inr (Or.inl ⟨rfl, htext.symm⟩)
      · obtain ⟨rfl, rfl⟩ := Prod.mk.inj h
        exact Or.inr (Or.inr ⟨rfl, htext.symm⟩)

/-- A path without text has no parent. -/
theorem parent?_of_empty {p : Path} (h : p.text.toList = []) : p.parent? = none := by
  unfold parent?
  rw [h]
  rfl

/-- The text of a path goes on behind that of its parent, unless this is the root or empty. -/
theorem exists_text_of_parent? {p q : Path} (h : p.parent? = some q) :
    q.text.toList = [] ∨ q.text.toList = ['/'] ∨
      ∃ more, p.text.toList = q.text.toList ++ '/' :: more := by
  by_cases hp : p.text.toList = []
  · rw [parent?_of_empty hp] at h
    cases h
  · unfold parent? at h
    cases hsplit : split p.text.toList with
    | mk front body =>
      rw [hsplit] at h
      dsimp only at h
      split at h
      · split at h
        · rw [← Option.some.inj h]
          exact Or.inl rfl
        · cases h
      · next hsteps =>
        obtain rfl := Option.some.inj h
        -- the pieces of the parent are the first of the pieces, and there are others behind them
        obtain ⟨more, hmore, hbody⟩ : ∃ more, more ≠ [] ∧
            trimEnd (trimEnd body).dropLast ++ more = body := by
          obtain ⟨before, hbefore⟩ := trimEnd_isPrefix (trimEnd body).dropLast
          obtain ⟨after, hafter⟩ := trimEnd_isPrefix body
          refine ⟨before ++ [(trimEnd body).getLast hsteps] ++ after, by simp, ?_⟩
          rw [← List.append_assoc, ← List.append_assoc, hbefore,
            List.dropLast_concat_getLast, hafter]
        generalize trimEnd (trimEnd body).dropLast = steps at hbody
        have hjoin (hnil : steps ≠ []) : ['/'].intercalate body =
            ['/'].intercalate steps ++ '/' :: ['/'].intercalate more := by
          rw [← hbody, intercalate_append hnil hmore]
        rcases unsplit_eq hp hsplit with ⟨rfl, htext⟩ | ⟨rfl, htext⟩ | ⟨rfl, htext⟩
        · by_cases hnil : steps = []
          · subst hnil
            exact Or.inr (Or.inl rfl)
          · refine Or.inr (Or.inr ⟨['/'].intercalate more, ?_⟩)
            rw [htext, hjoin hnil, unsplit, String.toList_ofList, List.cons_append]
        · refine Or.inr (Or.inr ⟨['/'].intercalate more, ?_⟩)
          rw [htext, ← hbody, ← List.cons_append, intercalate_append (List.cons_ne_nil _ _) hmore]
          cases steps with
          | nil => rfl
          | cons first rest =>
            show _ = (String.ofList (['.'] ++ '/' :: ['/'].intercalate (first :: rest))).toList ++ _
            rw [String.toList_ofList, List.intercalate_cons_cons]
            rfl
        · by_cases hnil : steps = []
          · subst hnil
            exact Or.inl rfl
          · refine Or.inr (Or.inr ⟨['/'].intercalate more, ?_⟩)
            rw [htext, hjoin hnil, unsplit, String.toList_ofList]

end Path

namespace Disk

variable {disk : Disk} {follow follow' : Bool} {p q : Path} {place : Place}

/-! ### Walking on -/

/-- A walk that goes on behind some pieces has come to a folder there.  When the last link is not
followed, the walk over these pieces alone may end at the link. -/
theorem folder_of_walkWith
    {jump jump' : Place → List (List Char) → Except DiskFault Spot}
    (hjump : ∀ start pieces rest, rest ≠ [] → jump start (pieces ++ rest) = .ok (.taken place) →
      ∃ there, jump' start pieces = .ok (.taken there) ∧
        (follow' = true → disk.hasFolderAt there = true))
    {start : Place} {pieces rest : List (List Char)} (hrest : rest ≠ [])
    (h : disk.walkWith follow jump start (pieces ++ rest) = .ok (.taken place)) :
    ∃ there, disk.walkWith follow' jump' start pieces = .ok (.taken there) ∧
      (follow' = true → disk.hasFolderAt there = true) := by
  rw [endsAt_iff] at h
  induction pieces generalizing start with
  | nil =>
    obtain ⟨piece, after, rfl⟩ := List.exists_cons_of_ne_nil hrest
    exact ⟨start, rfl, fun _ => h.folder⟩
  | cons piece more ih =>
    rw [List.cons_append] at h
    cases h with
    | idle hfolder hidle h =>
      rw [walkWith_of_isIdle hfolder hidle]
      exact ih h
    | up hfolder h =>
      rw [walkWith_up hfolder]
      exact ih h
    | free _ _ _ _ hspot => cases hspot
    | stay _ _ _ hend => exact absurd hend (List.append_ne_nil_of_right_ne_nil more hrest)
    -- a link in the end of the shorter walk is followed here, but need not be there
    | link hfolder hentry hlink _ hj =>
      rw [walkWith_of_isEntry hfolder hentry, hlink]
      dsimp only
      split
      · next hend =>
        refine ⟨_, rfl, fun hfollow => ?_⟩
        rw [hfollow, Bool.not_true, Bool.and_false] at hend
        cases hend
      · rw [← List.append_assoc] at hj
        exact hjump _ _ _ hrest hj
    | name hfolder hentry hstands hlink h =>
      rw [walkWith_of_entryAt? hfolder hentry hstands hlink]
      exact ih h

theorem folder_of_walk {links : Nat} {start : Place} {pieces rest : List (List Char)}
    (hrest : rest ≠ []) (h : disk.walk follow links start (pieces ++ rest) = .ok (.taken place)) :
    ∃ there, disk.walk follow' links start pieces = .ok (.taken there) ∧
      (follow' = true → disk.hasFolderAt there = true) := by
  induction links generalizing start pieces rest with
  | zero =>
    rw [walk] at h ⊢
    exact folder_of_walkWith (fun _ _ _ _ hj => by cases hj) hrest h
  | succ links ih =>
    rw [walk] at h ⊢
    refine folder_of_walkWith (fun next more after hafter hj => ?_) hrest h
    exact ih hafter hj

/-! ### Parents -/

/-- The root is a folder. -/
theorem folder_of_root (disk : Disk) (follow : Bool) (hq : q.text.toList = ['/']) :
    ∃ there, disk.find follow q = .ok there ∧ (follow = true → disk.hasFolderAt there = true) := by
  refine ⟨[], find_eq_ok_iff.2 (spot_eq_ok_iff.2 ?_), fun _ => rfl⟩
  rw [hq]
  refine ⟨by decide, by decide, by decide +kernel, ?_⟩
  rw [maxLinks, walk]
  exact walkWith_of_empty rfl rfl

/-- The parent of what is there is a folder. -/
theorem folder_of_parent? (follow' : Bool) (h : disk.find follow p = .ok place)
    (hparent : p.parent? = some q) (hq : q.text.toList ≠ []) :
    ∃ there, disk.find follow' q = .ok there ∧
      (follow' = true → disk.hasFolderAt there = true) := by
  rcases Path.exists_text_of_parent? hparent with hempty | hroot | ⟨more, htext⟩
  · exact absurd hempty hq
  · exact folder_of_root disk follow' hroot
  · obtain ⟨-, hnul, hsize, hwalk⟩ := spot_eq_ok_iff.1 (find_eq_ok_iff.1 h)
    rw [htext] at hnul hsize hwalk
    have hstart : startOf disk.current (q.text.toList ++ '/' :: more) =
        startOf disk.current q.text.toList := by
      unfold startOf
      rw [List.head?_append, List.head?_eq_some_head hq, Option.some_or]
    rw [hstart, Path.pieces_append] at hwalk
    obtain ⟨there, hthere, hfolder⟩ := folder_of_walk (Path.pieces_ne_nil more) hwalk
    refine ⟨there, find_eq_ok_iff.2 (spot_eq_ok_iff.2 ⟨hq, ?_, ?_, hthere⟩), hfolder⟩
    · rw [List.contains_append, Bool.or_eq_false_iff] at hnul
      exact hnul.1
    · refine Nat.le_trans ?_ hsize
      rw [size, size, String.ofList_append, String.utf8ByteSize_append]
      exact Nat.le_add_right _ _

/-- All parents of what is there are folders. -/
theorem folder_of_mem_parents {n : Nat} (h : disk.find follow p = .ok place)
    (hq : q ∈ p.parents n) (hne : q.text.toList ≠ []) :
    ∃ there, disk.find follow' q = .ok there ∧
      (follow' = true → disk.hasFolderAt there = true) := by
  induction n generalizing p follow place with
  | zero => cases hq
  | succ n ih =>
    rw [Path.parents] at hq
    split at hq
    · cases hq
    · next parent hparent =>
      rcases List.mem_cons.1 hq with rfl | hq
      · exact folder_of_parent? _ h hparent hne
      · by_cases hempty : parent.text.toList = []
        · cases n with
          | zero => cases hq
          | succ n =>
            rw [Path.parents, Path.parent?_of_empty hempty] at hq
            cases hq
        · obtain ⟨there, hthere, -⟩ := folder_of_parent? true h hparent hempty
          exact ih hthere hq

/-! ### Making folders that are there -/

theorem makeEach_of_folders {paths : List Path}
    (h : ∀ q ∈ paths, ∀ follow, ∃ there, disk.find follow q = .ok there ∧
      (follow = true → disk.hasFolderAt there = true)) :
    disk.makeEach paths = (disk, none) := by
  induction paths with
  | nil => rfl
  | cons path rest ih =>
    obtain ⟨there, hthere, -⟩ := h path List.mem_cons_self false
    obtain ⟨folder, hfind, hfolder⟩ := h path List.mem_cons_self true
    have hmade : disk.makeFolder path = (disk, some .occupied) := by
      rw [makeFolder, find_eq_ok_iff.1 hthere]
    have hisFolder : disk.isFolder path = true := by
      rw [isFolder, entry?, hfind]
      dsimp only
      rw [hasFolderAt_iff.1 (hfolder rfl)]
    rw [makeEach, hmade]
    dsimp only
    rw [if_pos hisFolder]
    exact ih fun q hq => h q (List.mem_cons_of_mem _ hq)

/-- Making the folders of a file that is there changes nothing, and has no fault. -/
theorem makeFolders_of_isFile (h : disk.isFile p = true) {folder : Path}
    (hparent : p.parent? = some folder) : disk.makeFolders folder = (disk, none) := by
  obtain ⟨content, hread⟩ := isFile_iff_read.1 h
  obtain ⟨place, hfind, -⟩ := read_eq_ok_iff.1 hread
  have hancestors : folder.ancestors = p.parents (folder.components.length + 2) := by
    rw [Path.parents, hparent]
    rfl
  rw [makeFolders, hancestors]
  refine makeEach_of_folders fun q hq follow => ?_
  obtain ⟨hq, hne⟩ := List.mem_filter.1 (List.mem_reverse.1 hq)
  refine folder_of_mem_parents hfind hq fun hempty => ?_
  rw [String.toList_eq_nil_iff.1 hempty] at hne
  cases hne

end Disk

end Minipack
