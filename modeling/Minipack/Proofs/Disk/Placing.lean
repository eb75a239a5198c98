/-
The places of paths.

On a disk without links an absolute path leads to its place (`Path.place`) or nowhere.  The
components of a straight path are those of its place, and the place of its parent is the folder
above (`Path.Straight.exists_parent?`).  Where the folders above its place stand, what such a path
comes to depends on nothing but its spelling and what stands there (`Disk.spot_of_paved`).
-/
import Minipack.Proofs.Disk.Footprint
import Minipack.Proofs.Disk.Leading

namespace Minipack

namespace Path

/-- The place to which an absolute path leads where there are no links. -/
def place (p : Path) : Place :=
  lead [] (pieces p.text.toList)

variable {p q : Path} {init : Place} {name : String}

/-! ### Components -/

namespace Straight

/-- The names of the place are the pieces of the text that leave a component. -/
theorem place_eq (h : p.Straight) :
    p.place = (busy (pieces p.text.toList)).map String.ofList :=
  (lead_of_forth (straight_iff_pieces.1 h).2).trans (List.nil_append _)

/-- A straight path is the root and the names of its place. -/
theorem components_eq (h : p.Straight) : p.components = .root :: p.place.map .name := by
  rw [components_of_isAbsolute h.1, h.place_eq, List.map_map]
  refine congrArg (Component.root :: ·) (List.map_congr_left fun piece hpiece => ?_)
  have hforth : piece ≠ ['.', '.'] := fun heq =>
    (straight_iff_pieces.1 h).2 (heq ▸ (List.mem_filter.1 hpiece).1)
  rw [componentOf, if_neg hforth]
  rfl

theorem text_ne (h : p.Straight) : p.text ≠ "" := by
  obtain ⟨rest, hrest⟩ := isAbsolute_iff.1 h.1
  intro hempty
  rw [hempty] at hrest
  cases hrest

theorem place_of_components (h : p.Straight) {names : Place}
    (hnames : p.components = .root :: names.map .name) : p.place = names := by
  rw [h.components_eq] at hnames
  exact (List.map_inj_right fun _ _ => Component.name.inj).1 (List.cons.inj hnames).2

theorem named (h : p.Straight) : p.place.Named := by
  intro name hname
  refine isName_of_mem (p := p) ?_
  rw [h.components_eq]
  exact List.mem_cons_of_mem _ (List.mem_map_of_mem hname)

/-- A straight path lies below another when its place does. -/
theorem startsWith_iff (hp : p.Straight) (hq : q.Straight) :
    p.startsWith q = true ↔ q.place <+: p.place := by
  rw [startsWith, List.isPrefixOf_iff_prefix, hp.components_eq, hq.components_eq,
    List.prefix_cons_inj, List.prefix_map_iff]
  constructor
  · rintro ⟨front, hfront, hmap⟩
    rwa [(List.map_inj_right fun _ _ => Component.name.inj).1 hmap]
  · exact fun hbelow => ⟨q.place, hbelow, rfl⟩

end Straight

/-! ### The end of a text -/

/-- The idle pieces at the end of a text. -/
def trail (p : Path) : List (List Char) :=
  (pieces p.text.toList).rtakeWhile isIdle

theorem isIdle_of_mem_trail {piece : List Char} (h : piece ∈ p.trail) : isIdle piece = true :=
  List.mem_rtakeWhile_imp h

/-- The pieces of a straight path are those that lead to the folder of its last name, the last name
and the idle pieces behind it. -/
theorem Straight.pieces_eq (h : p.Straight) (hplace : p.place = init ++ [name]) :
    ∃ front, pieces p.text.toList = front ++ name.toList :: p.trail ∧
      (busy front).map String.ofList = init := by
  have hsplit : trimEnd (pieces p.text.toList) ++ p.trail = pieces p.text.toList :=
    trimEnd_append_rtakeWhile _
  have hidle : busy p.trail = [] :=
    List.filter_eq_nil_iff.2 fun piece hpiece => by simp [isIdle_of_mem_trail hpiece]
  have hbusy : busy (trimEnd (pieces p.text.toList)) = busy (pieces p.text.toList) := by
    calc busy (trimEnd (pieces p.text.toList))
        = busy (trimEnd (pieces p.text.toList)) ++ busy p.trail := by
          rw [hidle, List.append_nil]
      _ = busy (trimEnd (pieces p.text.toList) ++ p.trail) := (List.filter_append _ _).symm
      _ = busy (pieces p.text.toList) := by rw [hsplit]
  rw [h.place_eq, ← hbusy] at hplace
  rcases List.eq_nil_or_concat (trimEnd (pieces p.text.toList)) with hnil | ⟨front, last, hlast⟩
  · rw [hnil] at hplace
    exact absurd hplace.symm (List.append_ne_nil_of_right_ne_nil _ (List.cons_ne_nil _ _))
  · rw [List.concat_eq_append] at hlast
    have hname : isIdle last = false := isIdle_getLast_trimEnd hlast
    rw [hlast, busy, List.filter_append, List.filter_cons_of_pos (by simp [hname]),
      List.map_append] at hplace
    obtain ⟨hfront, hend⟩ := List.append_inj' hplace rfl
    obtain rfl : String.ofList last = name := (List.cons.inj hend).1
    refine ⟨front, ?_, hfront⟩
    rw [String.toList_ofList, ← hsplit, hlast, List.append_assoc]
    rfl

/-- The parent of a straight path that is not the root names the place above, and its text ends in a
name. -/
theorem Straight.exists_parent? (h : p.Straight) (hplace : p.place = init ++ [name]) :
    ∃ q, p.parent? = some q ∧ q.Straight ∧ q.place = init ∧ (q.place ≠ [] → q.trail = []) := by
  have hcomponents : p.components = (.root :: init.map .name) ++ [.name name] := by
    rw [h.components_eq, hplace, List.map_append]
    rfl
  obtain ⟨q, hparent, hinit⟩ := parent?_spec hcomponents
  have hstraight : q.Straight := h.parent? hparent
  have hq : q.place = init := hstraight.place_of_components hinit
  refine ⟨q, hparent, hstraight, hq, fun hne => ?_⟩
  obtain ⟨rest, hrest⟩ := isAbsolute_iff.1 h.1
  have hslash : ∀ piece ∈ pieces rest, '/' ∉ piece := fun _ => not_mem_of_mem_pieces
  rw [Path.parent?, hrest, split_slash] at hparent
  dsimp only at hparent
  split at hparent
  · cases hparent
  · obtain rfl := Option.some.inj hparent
    rcases List.eq_nil_or_concat (trimEnd (trimEnd (pieces rest)).dropLast) with
      hnil | ⟨front, last, hlast⟩
    · -- the parent is the root
      rw [hnil] at hstraight hne
      exact absurd (hstraight.place_of_components rfl) hne
    · rw [List.concat_eq_append] at hlast
      have hpieces : ∀ piece ∈ front ++ [last], '/' ∉ piece := by
        intro piece hpiece
        rw [← hlast] at hpiece
        exact hslash piece (((trimEnd_isPrefix _).trans
          ((List.dropLast_prefix _).trans (trimEnd_isPrefix _))).subset hpiece)
      rw [hlast, trail, unsplit, String.toList_ofList, pieces_slash, pieces,
        List.splitOn_intercalate '/' hpieces (by simp), ← List.cons_append,
        List.rtakeWhile_concat_neg]
      rw [isIdle_getLast_trimEnd hlast]
      exact Bool.false_ne_true

/-- The folders above a path are those above its parent and the parent. -/
theorem Straight.ancestors_eq (h : p.Straight) (hplace : p.place = init ++ [name])
    (hparent : p.parent? = some q) : p.ancestors = p :: q.ancestors := by
  have hcomponents : p.components = (.root :: init.map .name) ++ [.name name] := by
    rw [h.components_eq, hplace, List.map_append]
    rfl
  obtain ⟨q', hparent', hinit⟩ := parent?_spec hcomponents
  obtain rfl := Option.some.inj (hparent.symm.trans hparent')
  have hlength : p.components.length = q.components.length + 1 := by
    rw [hcomponents, hinit, List.length_append]
    rfl
  rw [ancestors, parents, hparent, hlength]
  rfl

theorem mem_ancestors (p : Path) : p ∈ p.ancestors := by
  rw [ancestors]
  exact List.mem_cons_self

/-- The root has no folders above. -/
theorem Straight.ancestors_of_root (h : p.Straight) (hplace : p.place = []) :
    p.ancestors = [p] := by
  have hcomponents : p.components = [.root] := by
    rw [h.components_eq, hplace]
    rfl
  rw [ancestors, parents, parent?_of_components_root hcomponents]

/-- The places of a straight path and of the folders above it are all fronts of its place. -/
theorem Straight.forall_ancestors (h : p.Straight) {P : Place → Prop} :
    (∀ a ∈ p.ancestors, P a.place) ↔ ∀ front, front <+: p.place → P front := by
  generalize hplace : p.place = place
  induction place using List.reverseRecOn generalizing p with
  | nil =>
    rw [h.ancestors_of_root hplace, List.forall_mem_singleton, hplace]
    exact ⟨fun hP front hfront => List.prefix_nil.1 hfront ▸ hP, fun hP => hP [] List.prefix_rfl⟩
  | append_singleton init name ih =>
    obtain ⟨q, hparent, hq, rfl, -⟩ := h.exists_parent? hplace
    rw [h.ancestors_eq hplace hparent, List.forall_mem_cons, ih hq rfl, hplace]
    constructor
    · rintro ⟨hself, hparents⟩ front hfront
      rcases List.prefix_concat_iff.1 hfront with rfl | hfront
      · exact hself
      · exact hparents front hfront
    · exact fun hP => ⟨hP _ List.prefix_rfl,
        fun front hfront => hP front (hfront.trans (List.prefix_append _ _))⟩

end Path

namespace Disk

variable {disk old new : Disk} {p : Path} {init place : Place} {name : String}

/-! ### Where paths lead -/

/-- No link stands anywhere. -/
def Unlinked (disk : Disk) : Prop :=
  ∀ place target, disk.entryAt? place ≠ some (.link target)

theorem Linkless.unlinked (h : disk.Linkless) : disk.Unlinked :=
  fun _ => h.entryAt?

theorem Made.unlinked (h : old.Made new) (hold : old.Unlinked) : new.Unlinked := by
  intro place target hlink
  rcases h place with hsame | ⟨-, hfolder⟩
  · exact hold place target (hsame.symm.trans hlink)
  · cases hfolder.symm.trans hlink

theorem Unlinked.set (h : disk.Unlinked) (hne : place ≠ []) {entry : Entry}
    (hentry : entry.isLink = false) : (disk.set place entry).Unlinked := by
  intro other target hlink
  by_cases hother : other = place
  · rw [hother, entryAt?_set_self hne] at hlink
    rw [Option.some.inj hlink] at hentry
    cases hentry
  · exact h other target ((entryAt?_set_of_ne hother entry).symm.trans hlink)

/-- A folder stands at the place and at all places above, and a walk gets there. -/
def Paved (disk : Disk) (place : Place) : Prop :=
  disk.Rooted place ∧ disk.hasFolderAt place = true

theorem paved_nil (disk : Disk) : disk.Paved [] :=
  ⟨disk.rooted_nil, rfl⟩

theorem Paved.of_append {more : Place} (h : disk.Paved (init ++ more)) : disk.Paved init := by
  refine ⟨h.1.of_append, ?_⟩
  cases more with
  | nil => simpa using h.2
  | cons name more => exact (h.1 init name more rfl).1

theorem Paved.concat (h : disk.Paved init) (hentry : IsEntry name.toList)
    (hfolder : disk.hasFolderAt (init ++ [name]) = true) : disk.Paved (init ++ [name]) :=
  ⟨h.1.concat h.2 hentry, hfolder⟩

theorem Paved.mono (h : old.Paved place)
    (hfolders : ∀ front, front <+: place → old.hasFolderAt front = true →
      new.hasFolderAt front = true) : new.Paved place := by
  refine ⟨fun front name more heq => ?_, hfolders place List.prefix_rfl h.2⟩
  obtain ⟨hfolder, hentry⟩ := h.1 front name more heq
  exact ⟨hfolders front ⟨name :: more, heq.symm⟩ hfolder, hentry⟩

/-- A walk goes through the folders that its pieces name, and on behind them. -/
theorem walkWith_of_paved {follow : Bool}
    {jump : Place → List (List Char) → Except DiskFault Spot} (start : Place)
    {front : List (List Char)} (rest : List (List Char))
    (h : disk.Paved (start ++ (Path.busy front).map String.ofList)) :
    disk.walkWith follow jump start (front ++ rest) =
      disk.walkWith follow jump (start ++ (Path.busy front).map String.ofList) rest := by
  induction front generalizing start with
  | nil => rw [List.nil_append, Path.busy, List.filter_nil, List.map_nil, List.append_nil]
  | cons piece front ih =>
    rw [List.cons_append]
    by_cases hidle : Path.isIdle piece = true
    · have hbusy : Path.busy (piece :: front) = Path.busy front :=
        List.filter_cons_of_neg (by simpa using hidle)
      rw [hbusy] at h ⊢
      rw [walkWith_of_isIdle h.of_append.2 hidle, ih _ h]
    · have hbusy : Path.busy (piece :: front) = piece :: Path.busy front :=
        List.filter_cons_of_pos (by simpa using hidle)
      have hassoc : start ++ String.ofList piece :: (Path.busy front).map String.ofList =
          start ++ [String.ofList piece] ++ (Path.busy front).map String.ofList :=
        List.append_cons _ _ _
      rw [hbusy, List.map_cons] at h ⊢
      obtain ⟨hfolder, hentry⟩ := h.1 start _ _ rfl
      rw [String.toList_ofList] at hentry
      rw [hassoc] at h ⊢
      have hthere := hasFolderAt_iff.1 h.of_append.2
      rw [walkWith_of_entryAt? hfolder hentry hthere rfl, ih _ h]

/-- Why the system does not take the text of a path or its last name. -/
def spellingFault? (p : Path) : Option DiskFault :=
  if p.text.toList.contains '\x00' then some .invalidPath
  else if maxPathSize < size p.text.toList then some .tooLong
  else if p.place.getLast?.any fun name => maxNameSize < size name.toList then some .tooLong
  else none

/-- What the last step of a straight path comes to in the folder above its place. -/
def arrive (disk : Disk) (p : Path) : Except DiskFault Spot :=
  match disk.entryAt? p.place with
  | none =>
    if p.trail.all List.isEmpty then .ok (.free p.place !p.trail.isEmpty) else .error .notFound
  | some (.file _) => if p.trail.isEmpty then .ok (.taken p.place) else .error .notFolder
  | some _ => .ok (.taken p.place)

theorem walk_eq_walkWith (disk : Disk) (follow : Bool) (n : Nat) :
    ∃ jump, disk.walk follow n = disk.walkWith follow jump := by
  cases n with
  | zero => exact ⟨_, rfl⟩
  | succ n => exact ⟨_, rfl⟩

/-- Where the folders above its place stand, a straight path is followed when its spelling is taken.
-/
theorem spot_of_paved (hlinks : disk.Unlinked) (hp : p.Straight)
    (h : disk.Paved p.place.dropLast) (follow : Bool) :
    disk.spot follow p = match spellingFault? p with
      | some fault => .error fault
      | none => disk.arrive p := by
  obtain ⟨rest, hrest⟩ := Path.isAbsolute_iff.1 hp.1
  have hne : p.text.toList.isEmpty = false := by rw [hrest]; rfl
  have hstart : startOf disk.current p.text.toList = [] := by rw [startOf, hrest]; rfl
  obtain ⟨jump, hwalk⟩ := disk.walk_eq_walkWith follow maxLinks
  unfold spot spellingFault?
  dsimp only
  rw [hne, hstart, hwalk, if_neg Bool.false_ne_true]
  split
  · rfl
  split
  · rfl
  rcases List.eq_nil_or_concat p.place with hplace | ⟨init, name, hplace⟩
  · -- a path to the root has idle pieces only
    have hbusy : Path.busy (Path.pieces p.text.toList) = [] :=
      List.map_eq_nil_iff.1 (hp.place_eq.symm.trans hplace)
    have hidle : ∀ piece ∈ Path.pieces p.text.toList, Path.isIdle piece = true := by
      simpa [Path.busy] using hbusy
    rw [walkWith_of_idle rfl hidle, arrive, hplace]
    rfl
  · rw [List.concat_eq_append] at hplace
    rw [hplace, List.dropLast_concat] at h
    obtain ⟨front, hpieces, rfl⟩ := hp.pieces_eq hplace
    have hname : Component.IsName (.name name) :=
      hp.named name (hplace ▸ List.mem_append_right _ (List.mem_singleton_self name))
    obtain ⟨-, hempty, hdot, hforth⟩ := Component.isName_name.1 hname
    have hbusy : ¬ Path.isIdle name.toList = true := by simp [Path.isIdle, hempty, hdot]
    rw [hpieces, walkWith_of_paved [] _ h, List.nil_append, walkWith, h.2, Bool.not_true,
      if_neg Bool.false_ne_true, if_neg hbusy, if_neg hforth, String.ofList_toList, ← hplace,
      hplace, List.getLast?_concat, ← hplace]
    simp only [Option.any_some, decide_eq_true_eq]
    split
    · rfl
    unfold arrive
    cases hentry : disk.entryAt? p.place with
    | none => rfl
    | some entry =>
      cases entry with
      | link target => exact absurd hentry (hlinks _ _)
      | folder => exact walkWith_of_idle (hasFolderAt_iff.2 hentry) fun _ =>
          Path.isIdle_of_mem_trail
      | file content =>
        -- a file is not walked through, not even by idle pieces
        have hnot : disk.hasFolderAt p.place = false := by
          rw [hasFolderAt, hentry]
        cases htrail : p.trail with
        | nil => rfl
        | cons piece more =>
          dsimp only
          rw [walkWith, hnot]
          rfl

/-- The last name of a spelling that is taken can be an entry. -/
theorem isEntry_of_spelling (hp : p.Straight) (hplace : p.place = init ++ [name])
    (h : spellingFault? p = none) : IsEntry name.toList := by
  have hname : Component.IsName (.name name) :=
    hp.named name (hplace ▸ List.mem_append_right _ (List.mem_singleton_self name))
  obtain ⟨-, hempty, hdot, hforth⟩ := Component.isName_name.1 hname
  refine ⟨by simp [Path.isIdle, hempty, hdot], hforth, Nat.not_lt.1 fun hlong => ?_⟩
  unfold spellingFault? at h
  rw [hplace, List.getLast?_concat, Option.any_some, if_pos (decide_eq_true hlong)] at h
  split at h
  · cases h
  · split at h <;> cases h

/-- A folder whose path is taken can be walked to when those above it can. -/
theorem Paved.of_dropLast (h : disk.Paved p.place.dropLast) (hp : p.Straight)
    (hspelling : spellingFault? p = none) (hfolder : disk.hasFolderAt p.place = true) :
    disk.Paved p.place := by
  rcases List.eq_nil_or_concat p.place with hplace | ⟨init, name, hplace⟩
  · rw [hplace]
    exact disk.paved_nil
  · rw [List.concat_eq_append] at hplace
    have hentry := isEntry_of_spelling hp hplace hspelling
    rw [hplace] at h hfolder ⊢
    rw [List.dropLast_concat] at h
    exact h.concat hentry hfolder

/-- What is put elsewhere is in nobody's way. -/
theorem Paved.set (h : disk.Paved init) (hplace : ¬ place <+: init) (entry : Entry) :
    (disk.set place entry).Paved init := by
  refine h.mono fun front hfront hfolder => hasFolderAt_iff.2 ?_
  have hne : front ≠ place := fun heq => hplace (heq ▸ hfront)
  rw [entryAt?_set_of_ne hne, hasFolderAt_iff.1 hfolder]

theorem not_prefix_dropLast (hne : place ≠ []) : ¬ place <+: place.dropLast := by
  intro hprefix
  have hlength := hprefix.length_le
  rw [List.length_dropLast] at hlength
  have := List.length_pos_iff.2 hne
  omega

end Disk

end Minipack
