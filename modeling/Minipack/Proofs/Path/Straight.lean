/-
Straight paths.

A path is straight when it starts at the root and never steps back (`Path.Straight`): its components
are the root and names (`Path.straight_iff`).  Normal forms of absolute paths are straight
(`Path.straight_normalize`), and a straight path is its own normal form
(`Path.Straight.normalComponents`).  Entries, parents and paths with another last name stay
straight, so a path leaves the straight ones only when a text with a `..` step is joined to it.
-/
import Minipack.Proofs.Disk.Spelling
import Minipack.Proofs.Path.Extension
import Minipack.Proofs.Path.Parent

namespace Minipack.Path

/-- A path that starts at the root and never steps back. -/
def Straight (p : Path) : Prop :=
  p.isAbsolute = true ∧ Component.parent ∉ p.components

instance (p : Path) : Decidable p.Straight :=
  inferInstanceAs (Decidable (_ ∧ _))

variable {p q : Path}

/-! ### Components -/

/-- An absolute path is the root and its steps. -/
theorem components_of_isAbsolute (h : p.isAbsolute = true) : p.components = .root :: p.body := by
  rw [components_eq, front_of_isAbsolute h]
  rfl

/-- A path whose first component is the root is absolute. -/
theorem isAbsolute_of_components {rest : List Component} (h : p.components = .root :: rest) :
    p.isAbsolute = true := by
  refine isAbsolute_of_front ?_
  rcases front_cases p with hf | hf | hf
  · -- without a front the first component is a step
    have hbody : p.body = .root :: rest := by
      rw [← h, components_eq, hf]
      rfl
    rcases isStep_of_mem_body (hbody ▸ List.mem_cons_self) with hstep | ⟨s, hstep, -⟩ <;>
      cases hstep
  · exact hf
  · rw [components_eq, hf] at h
    cases (List.cons.inj h).1

/-- A straight path is the root and names. -/
theorem straight_iff :
    p.Straight ↔ ∃ names, (∀ c ∈ names, c.IsName) ∧ p.components = .root :: names := by
  constructor
  · rintro ⟨habsolute, hparent⟩
    have hcomponents := components_of_isAbsolute habsolute
    refine ⟨p.body, fun c hc => (isStep_of_mem_body hc).resolve_left ?_, hcomponents⟩
    rintro rfl
    exact hparent (hcomponents ▸ List.mem_cons_of_mem _ hc)
  · rintro ⟨names, hnames, hcomponents⟩
    refine ⟨isAbsolute_of_components hcomponents, fun hmem => ?_⟩
    rw [hcomponents] at hmem
    rcases List.mem_cons.1 hmem with h | h
    · cases h
    · obtain ⟨s, hs, -⟩ := hnames _ h
      cases hs

theorem Straight.of_same (h : p.Straight) (hs : p.Same q) : q.Straight := by
  obtain ⟨names, hnames, hcomponents⟩ := straight_iff.1 h
  exact straight_iff.2 ⟨names, hnames, Eq.trans hs.symm hcomponents⟩

/-- No piece of a straight path is a `..` step. -/
theorem straight_iff_pieces :
    p.Straight ↔ p.isAbsolute = true ∧ ['.', '.'] ∉ pieces p.text.toList := by
  refine and_congr_right fun h => not_congr ?_
  rw [components_of_isAbsolute h, List.mem_cons]
  constructor
  · rintro (hc | hc)
    · cases hc
    · obtain ⟨piece, hpiece, heq⟩ := List.mem_map.1 hc
      have hparent : piece = ['.', '.'] := componentOf_inj heq
      rw [← hparent]
      exact (List.mem_filter.1 hpiece).1
  · exact fun hpiece => Or.inr (List.mem_map.2 ⟨_, List.mem_filter.2 ⟨hpiece, rfl⟩, rfl⟩)

/-! ### Normal forms -/

theorem Straight.normalComponents (h : p.Straight) : p.normalComponents = p.components := by
  obtain ⟨names, hnames, hcomponents⟩ := straight_iff.1 h
  have hroot : cancel [] (.root :: names) = cancel [.root] names := by
    rw [cancel]
    all_goals simp
  rw [Path.normalComponents, hcomponents, hroot, cancel_names hnames, List.reverse_append,
    List.reverse_reverse]
  rfl

theorem components_normalize (h : p.isAbsolute = true) :
    p.normalize.components = p.normalComponents := by
  obtain ⟨names, hnames, hnormal⟩ := normalComponents_of_isAbsolute h
  rw [normalize, hnormal]
  exact components_ofComponents fun c hc => Or.inr (hnames c hc)

theorem straight_normalize (h : p.isAbsolute = true) : p.normalize.Straight := by
  obtain ⟨names, hnames, hnormal⟩ := normalComponents_of_isAbsolute h
  exact straight_iff.2 ⟨names, hnames, (components_normalize h).trans hnormal⟩

/-- A specifier that is read from an absolute folder names a straight path. -/
theorem straight_joinSpecifier {base : Path} (h : base.isAbsolute = true) (specifier : String) :
    (base.joinSpecifier specifier).Straight :=
  straight_normalize (isAbsolute_join h _)

/-! ### Entries and parents -/

theorem Straight.child (h : p.Straight) {name : String} (hname : Component.IsName (.name name)) :
    (p.child name).Straight := by
  obtain ⟨names, hnames, hcomponents⟩ := straight_iff.1 h
  refine straight_iff.2 ⟨names ++ [.name name], fun c hc => ?_, ?_⟩
  · rcases List.mem_append.1 hc with hc | hc
    · exact hnames c hc
    · rw [List.mem_singleton.1 hc]
      exact hname
  · rw [components_child p hname, hcomponents]
    rfl

/-- The root has no parent. -/
theorem parent?_of_components_root (h : p.components = [.root]) : p.parent? = none := by
  obtain ⟨habsolute, -⟩ := straight_iff.2 ⟨[], nofun, h⟩
  obtain ⟨rest, hrest⟩ := isAbsolute_iff.1 habsolute
  have hbody : bodyComponents (pieces rest) = [] := by
    have hcomponents := components_of_isAbsolute habsolute
    rw [h, body, hrest, pieces_slash, bodyComponents_cons_of_idle rfl] at hcomponents
    exact (List.cons.inj hcomponents).2.symm
  have htrim : trimEnd (pieces rest) = [] := by
    rcases List.eq_nil_or_concat (trimEnd (pieces rest)) with hnil | ⟨init, last, hlast⟩
    · exact hnil
    · rw [List.concat_eq_append] at hlast
      have hbusy : isIdle last = false := isIdle_getLast_trimEnd hlast
      rw [← bodyComponents_trimEnd, hlast, bodyComponents_append] at hbody
      have hnone := (List.append_eq_nil_iff.1 hbody).2
      rw [bodyComponents, List.filter_cons_of_pos (by simp [hbusy])] at hnone
      cases hnone
  rw [parent?, hrest, split_slash]
  dsimp only
  rw [htrim]
  rfl

theorem Straight.parent? (h : p.Straight) (hq : p.parent? = some q) : q.Straight := by
  obtain ⟨names, hnames, hcomponents⟩ := straight_iff.1 h
  rcases List.eq_nil_or_concat names with rfl | ⟨init, last, rfl⟩
  · rw [parent?_of_components_root hcomponents] at hq
    cases hq
  · rw [List.concat_eq_append] at hnames hcomponents
    have hlast : last.IsName :=
      hnames last (List.mem_append_right _ (List.mem_singleton_self last))
    obtain ⟨s, rfl, -⟩ := hlast
    rw [← List.cons_append] at hcomponents
    obtain ⟨parent, hparent, hinit⟩ := parent?_spec hcomponents
    obtain rfl := Option.some.inj (hparent.symm.trans hq)
    exact straight_iff.2 ⟨init, fun c hc => hnames c (List.mem_append_left _ hc), hinit⟩

theorem Straight.withFileName (h : p.Straight) {name : String}
    (hname : Component.IsName (.name name)) : (p.withFileName name).Straight := by
  unfold Path.withFileName
  split
  · exact h.child hname
  · cases hparent : p.parent? with
    | none => exact h.child hname
    | some folder => exact (h.parent? hparent).child hname

/-- The last name of a path is its last component. -/
theorem fileName?_eq_some_iff {name : String} :
    p.fileName? = some name ↔ p.components.getLast? = some (.name name) := by
  unfold fileName?
  constructor
  · intro h
    obtain ⟨c, hlast, hname⟩ := Option.bind_eq_some_iff.1 h
    cases c with
    | name s => rw [hlast, Option.some.inj hname]
    | root => cases hname
    | current => cases hname
    | parent => cases hname
  · intro h
    rw [h]
    rfl

/-- A path whose last step is a name ends in that name. -/
theorem fileName?_of_components {init : List Component} {name : String}
    (h : p.components = init ++ [.name name]) : p.fileName? = some name := by
  rw [fileName?_eq_some_iff, h, List.getLast?_concat]

theorem exists_components_of_fileName? {name : String} (h : p.fileName? = some name) :
    ∃ init, p.components = init ++ [.name name] :=
  List.getLast?_eq_some_iff.1 (fileName?_eq_some_iff.1 h)

/-- The spelling of a path does not matter for its last name. -/
theorem fileName?_of_same (hs : p.Same q) : p.fileName? = q.fileName? := by
  have hcomponents : p.components = q.components := hs
  rw [fileName?, hcomponents, fileName?]

/-- The names of a path are steps of its body. -/
theorem mem_body_of_mem {name : String} (h : .name name ∈ p.components) :
    .name name ∈ p.body := by
  rw [components_eq] at h
  refine (List.mem_append.1 h).resolve_left fun hfront => ?_
  rcases front_cases p with hf | hf | hf <;> rw [hf] at hfront
  · cases hfront
  · cases List.mem_singleton.1 hfront
  · cases List.mem_singleton.1 hfront

theorem isName_of_mem {name : String} (h : .name name ∈ p.components) :
    Component.IsName (.name name) :=
  (isStep_of_mem_body (mem_body_of_mem h)).resolve_left nofun

theorem mem_of_fileName? {name : String} (h : p.fileName? = some name) :
    .name name ∈ p.components :=
  List.mem_of_getLast? (fileName?_eq_some_iff.1 h)

/-- The last name of a path is a name. -/
theorem isName_of_fileName? {name : String} (h : p.fileName? = some name) :
    Component.IsName (.name name) :=
  isName_of_mem (mem_of_fileName? h)

/-! ### Extensions -/

/-- The text of an absolute path ends in a piece behind a slash. -/
theorem exists_last_piece (h : p.isAbsolute = true) :
    ∃ before last, p.text.toList = before ++ '/' :: last ∧ '/' ∉ last := by
  obtain ⟨rest, hrest⟩ := isAbsolute_iff.1 h
  have hslash : '/' ∈ p.text.toList.reverse := by
    rw [hrest]
    exact List.mem_reverse.2 List.mem_cons_self
  -- the last slash is the first from behind
  obtain ⟨after, before, hsplit, hafter⟩ := List.eq_append_cons_of_mem hslash
  refine ⟨before.reverse, after.reverse, ?_, fun hm => hafter (List.mem_reverse.1 hm)⟩
  rw [← List.reverse_reverse p.text.toList, hsplit, List.reverse_append, List.reverse_cons,
    List.append_assoc]
  rfl

/-- The text of a straight path with an extension more is that of a straight path. -/
theorem Straight.extend (h : p.Straight) {ext : String} (hslash : '/' ∉ ext.toList)
    (hdot : '.' ∉ ext.toList) (hne : ext.toList ≠ []) :
    (Path.mk (p.text ++ "." ++ ext)).Straight := by
  obtain ⟨habsolute, hpieces⟩ := straight_iff_pieces.1 h
  obtain ⟨before, last, htext, hlast⟩ := exists_last_piece habsolute
  have hmore : (p.text ++ "." ++ ext).toList = before ++ '/' :: (last ++ '.' :: ext.toList) := by
    rw [String.toList_append, String.toList_append, htext, List.append_assoc, List.append_assoc]
    rfl
  have hnew : '/' ∉ last ++ '.' :: ext.toList := by
    rw [List.mem_append, List.mem_cons, not_or, not_or]
    exact ⟨hlast, by decide, hslash⟩
  refine straight_iff_pieces.2 ⟨?_, fun hm => ?_⟩
  · obtain ⟨rest, hrest⟩ := isAbsolute_iff.1 habsolute
    refine isAbsolute_iff.2 ⟨rest ++ '.' :: ext.toList, ?_⟩
    have hlonger : p.text.toList ++ '.' :: ext.toList = '/' :: (rest ++ '.' :: ext.toList) := by
      rw [hrest]
      rfl
    rw [hmore, ← hlonger, htext, List.append_assoc]
    rfl
  · rw [hmore, pieces_append, pieces_of_not_mem hnew] at hm
    rw [htext, pieces_append] at hpieces
    rcases List.mem_append.1 hm with hm | hm
    · exact hpieces (List.mem_append_left _ hm)
    · -- the new piece ends in the extension, which is no dot
      have heq : last ++ '.' :: ext.toList = ['.', '.'] := (List.mem_singleton.1 hm).symm
      obtain ⟨init, c, hext⟩ := List.eq_nil_or_concat ext.toList |>.resolve_left hne
      rw [List.concat_eq_append] at hext
      have hc : c = '.' := by
        have hgl := congrArg List.getLast? heq
        rw [hext, ← List.cons_append, ← List.append_assoc, List.getLast?_concat] at hgl
        exact Option.some.inj hgl
      exact hdot (hext ▸ hc ▸ List.mem_append_right _ (List.mem_singleton_self _))

/-- A path with another extension has another last name. -/
theorem components_replaceExtension {init : List Component} {name last ext : String}
    (h : p.components = init ++ [.name name])
    (hlast : last.toList = if ext.isEmpty then (splitName name.toList).1
      else (splitName name.toList).1 ++ '.' :: ext.toList)
    (hname : Component.IsName (.name last)) :
    (p.replaceExtension ext).components = init ++ [.name last] := by
  have hfile : p.fileName? = some name := fileName?_of_components h
  obtain ⟨hfront, hslash, hfirst⟩ := split_spec p.text.toList
  obtain ⟨steps, hsteps, hinit⟩ := exists_steps h
  obtain ⟨s, hs, hslash', hempty, hdot, hparent⟩ := hname
  obtain rfl := Component.name.inj hs
  have hfirsts : steps ++ [name.toList] <+: (split p.text.toList).2 :=
    hsteps ▸ trimEnd_isPrefix _
  have hpieces : ∀ piece ∈ steps ++ [last.toList], '/' ∉ piece := by
    intro piece hp
    rcases List.mem_append.1 hp with hp | hp
    · exact hslash piece (hfirsts.subset (List.mem_append_left _ hp))
    · rw [List.mem_singleton.1 hp]
      exact hslash'
  have hbody : bodyComponents [last.toList] = [.name last] := by
    have hidle : isIdle last.toList = false := by simp [isIdle, hempty, hdot]
    rw [bodyComponents, List.filter_cons_of_pos (by simp [hidle])]
    show [componentOf last.toList] = _
    rw [componentOf, if_neg hparent, String.ofList_toList]
  unfold replaceExtension
  rw [hfile]
  dsimp only
  rw [hsteps, List.dropLast_concat, ← hlast, components_unsplit hfront hpieces,
    bodyComponents_append, ← List.append_assoc, hinit, hbody]
  -- a path without a front does not get one from its new name
  intro hnone first rest hcons
  cases steps with
  | nil =>
    obtain ⟨rfl, -⟩ := List.cons.inj hcons
    exact ⟨hempty, hdot⟩
  | cons second steps =>
    obtain ⟨more, hmore⟩ := hfirsts
    obtain rfl : second = first := (List.cons.inj hcons).1
    exact hfirst hnone second _ hmore.symm

/-- A name without an extension is its own stem. -/
theorem splitName_of_none {name : List Char} (h : (splitName name).2 = none) :
    (splitName name).1 = name := by
  unfold splitName at h ⊢
  dsimp only at h ⊢
  split
  · rfl
  · next hbefore =>
    rw [if_neg hbefore] at h
    cases h

/-- A path without an extension, when it is given one, has it behind its last name. -/
theorem components_withExtension_of_none {init : List Component} {name : String}
    (h : p.components = init ++ [.name name]) (hnone : p.extension? = none) {ext : String}
    (hslash : '/' ∉ ext.toList) (hne : ext.isEmpty = false) :
    (p.withExtension ext).components = init ++ [.name (name ++ "." ++ ext)] := by
  have hfile : p.fileName? = some name := fileName?_of_components h
  have hstem : (splitName name.toList).1 = name.toList := by
    rw [extension?, hfile] at hnone
    exact splitName_of_none (Option.map_eq_none_iff.1 hnone)
  unfold Path.withExtension
  rw [hnone]
  refine components_replaceExtension h ?_ (isName_append (isName_of_fileName? hfile) hslash)
  rw [hne, hstem, String.toList_append, String.toList_append, List.append_assoc]
  rfl

/-- An extension given to a path without one leaves it straight. -/
theorem Straight.withExtension (h : p.Straight) (hnone : p.extension? = none) {ext : String}
    (hslash : '/' ∉ ext.toList) (hne : ext.isEmpty = false) : (p.withExtension ext).Straight := by
  cases hfile : p.fileName? with
  | none =>
    unfold Path.withExtension replaceExtension
    rw [hnone, hfile]
    exact h
  | some name =>
    obtain ⟨names, hnames, hcomponents⟩ := straight_iff.1 h
    have hlast := fileName?_eq_some_iff.1 hfile
    rcases List.eq_nil_or_concat names with rfl | ⟨init, last, rfl⟩
    · rw [hcomponents] at hlast
      cases hlast
    · rw [List.concat_eq_append] at hnames hcomponents
      rw [← List.cons_append] at hcomponents
      rw [hcomponents, List.getLast?_concat] at hlast
      obtain rfl := Option.some.inj hlast
      refine straight_iff.2 ⟨init ++ [.name (name ++ "." ++ ext)], fun c hc => ?_, ?_⟩
      · rcases List.mem_append.1 hc with hc | hc
        · exact hnames c (List.mem_append_left _ hc)
        · rw [List.mem_singleton.1 hc]
          exact isName_append (isName_of_fileName? hfile) hslash
      · exact components_withExtension_of_none hcomponents hnone hslash hne

/-- The extension of a name holds no slash. -/
theorem not_mem_of_extension? {ext : String} (h : p.extension? = some ext) :
    '/' ∉ ext.toList := by
  obtain ⟨name, hfile, hext⟩ := Option.bind_eq_some_iff.1 h
  obtain ⟨after, hafter, rfl⟩ := Option.map_eq_some_iff.1 hext
  obtain ⟨s, hs, hslash, -⟩ := isName_of_fileName? hfile
  obtain rfl := Component.name.inj hs
  rw [String.toList_ofList]
  unfold splitName at hafter
  dsimp only at hafter
  split at hafter
  · cases hafter
  · obtain rfl := Option.some.inj hafter
    intro hm
    exact hslash (List.mem_reverse.1 ((List.takeWhile_prefix _).subset (List.mem_reverse.1 hm)))

end Minipack.Path
