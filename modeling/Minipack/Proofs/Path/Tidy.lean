/-
Tidy paths.

A path is tidy when its text is what its components are put together to (`Path.Tidy`), so that tidy
paths with the same components have the same text.  The folder of a normal path is tidy
(`Path.exists_folder_normalize`), and so are the entries of a tidy folder (`Path.Tidy.child`).

The components of a normal path are reduced: they stay as they are when they are reduced again
(`Path.reduced_cancel`), and so do those of its folder and of the entries of the folder
(`Path.normalComponents_child`).
-/
import Minipack.Proofs.Disk.Folders
import Minipack.Proofs.Path.Extension
import Minipack.Proofs.Path.Moves

namespace Minipack.Path

/-! ### Reduced components -/

/-- Reversed components in normal form. -/
def Reduced (done : List Component) : Prop :=
  cancel [] done.reverse = done

theorem Reduced.cons (c : Component) {done : List Component} (h : Reduced done)
    (hc : cancel done [c] = c :: done) : Reduced (c :: done) := by
  rw [Reduced, List.reverse_cons, cancel_append, h, hc]

/-- A name cancels nothing. -/
theorem cancel_name (done : List Component) (name : String) :
    cancel done [.name name] = .name name :: done := by
  rw [cancel] <;> simp [cancel]

/-- What stands before a name is reduced as well. -/
theorem Reduced.tail {name : String} {done : List Component} (h : Reduced (.name name :: done)) :
    Reduced done := by
  rw [Reduced, List.reverse_cons, cancel_append, cancel_name] at h
  exact (List.cons.inj h).2

/-- Reducing keeps what is done reduced. -/
theorem Reduced.cancel {done : List Component} (h : Reduced done) (cs : List Component) :
    Reduced (Path.cancel done cs) := by
  fun_induction Path.cancel done cs with
  | case1 done => exact h
  | case2 done rest ih => exact ih h
  | case3 done s rest ih => exact ih h.tail
  | case4 rest ih => exact ih h
  | case5 done c rest hcurrent hname hroot ih =>
    refine ih (h.cons c ?_)
    rw [Path.cancel]
    · rfl
    · exact hcurrent
    · exact hname
    · exact hroot

theorem reduced_cancel (cs : List Component) : Reduced (Path.cancel [] cs) :=
  Reduced.cancel (show Reduced [] from rfl) cs

/-- What is reduced goes on with a name. -/
theorem Reduced.name {done : List Component} (h : Reduced done) (name : String) :
    Path.cancel [] (done.reverse ++ [.name name]) = .name name :: done := by
  rw [cancel_append, h, cancel_name]

/-! ### Putting components together -/

/-- A piece that leaves a component. -/
def IsPiece (piece : List Char) : Prop :=
  isIdle piece = false ∧ '/' ∉ piece

/-- The pieces of some steps. -/
def piecesOf (steps : List Component) : List (List Char) :=
  steps.map fun c => c.text.toList

theorem isPiece_of_isStep {c : Component} (h : c.IsStep) : IsPiece c.text.toList := by
  rcases h with rfl | ⟨s, rfl, hslash, hempty, hdot, -⟩
  · exact (by decide : isIdle ['.', '.'] = false ∧ '/' ∉ ['.', '.'])
  · refine ⟨?_, hslash⟩
    simp [isIdle, Component.text, hempty, hdot]

theorem isPiece_of_mem_piecesOf {steps : List Component} (h : ∀ c ∈ steps, c.IsStep)
    {piece : List Char} (hp : piece ∈ piecesOf steps) : IsPiece piece := by
  obtain ⟨c, hc, rfl⟩ := List.mem_map.1 hp
  exact isPiece_of_isStep (h c hc)

/-- A text that ends in a piece is not empty, nor does it end in a slash. -/
theorem not_over {front last : List Char} {init : List (List Char)} (h : IsPiece last) :
    ¬ (front ++ ['/'].intercalate (init ++ [last]) = [] ∨
      (front ++ ['/'].intercalate (init ++ [last])).getLast? = some '/') := by
  have hlast : last ≠ [] := by
    rintro rfl
    cases h.1
  have htext : ∃ start, front ++ ['/'].intercalate (init ++ [last]) = start ++ last := by
    cases init with
    | nil => exact ⟨front, by rw [List.nil_append, List.intercalate_singleton]⟩
    | cons first rest =>
      refine ⟨front ++ ['/'].intercalate (first :: rest) ++ ['/'], ?_⟩
      rw [intercalate_append (List.cons_ne_nil _ _) (List.cons_ne_nil _ _),
        List.intercalate_singleton]
      simp only [List.append_assoc, List.singleton_append]
  obtain ⟨start, hstart⟩ := htext
  rw [hstart]
  rintro (hnil | hslash)
  · exact hlast (List.append_eq_nil_iff.1 hnil).2
  · -- its last character is one of the piece
    rw [List.getLast?_append, List.getLast?_eq_some_getLast hlast] at hslash
    exact h.2 (Option.some.inj hslash ▸ List.getLast_mem hlast)

/-- A step that is joined is one piece more. -/
theorem joinText_intercalate {front : List Char} (hfront : front = [] ∨ front = ['/'])
    {done : List (List Char)} (hdone : ∀ piece ∈ done, IsPiece piece)
    {c : Component} (hc : c.IsStep) :
    joinText (front ++ ['/'].intercalate done) c.text.toList =
      front ++ ['/'].intercalate (done ++ [c.text.toList]) := by
  have hhead : c.text.toList.head? ≠ some '/' := fun h =>
    (isPiece_of_isStep hc).2 (List.mem_of_mem_head? h)
  rw [joinText_of_relative hhead]
  rcases done.eq_nil_or_concat with rfl | ⟨init, last, heq⟩
  · have hnil : front ++ ['/'].intercalate ([] : List (List Char)) = front := List.append_nil _
    rw [hnil, List.nil_append, List.intercalate_singleton, if_pos]
    rcases hfront with rfl | rfl
    · exact Or.inl rfl
    · exact Or.inr rfl
  · rw [List.concat_eq_append] at heq
    subst heq
    have hne : init ++ [last] ≠ [] := List.append_ne_nil_of_right_ne_nil _ (List.cons_ne_nil _ _)
    rw [if_neg (not_over (hdone last (List.mem_append_right _ (List.mem_singleton_self _)))),
      intercalate_append hne (List.cons_ne_nil _ _), List.intercalate_singleton, List.append_assoc]

theorem toList_foldl_join {front : List Char} (hfront : front = [] ∨ front = ['/'])
    {steps : List Component} (h : ∀ c ∈ steps, c.IsStep) {done : List (List Char)}
    (hdone : ∀ piece ∈ done, IsPiece piece) {p : Path}
    (hp : p.text.toList = front ++ ['/'].intercalate done) :
    (steps.foldl (fun p c => p.join ⟨c.text⟩) p).text.toList =
      front ++ ['/'].intercalate (done ++ piecesOf steps) := by
  induction steps generalizing done p with
  | nil => rw [piecesOf, List.map_nil, List.append_nil]; exact hp
  | cons c rest ih =>
    have hc := h c List.mem_cons_self
    have hnext : (p.join ⟨c.text⟩).text.toList =
        front ++ ['/'].intercalate (done ++ [c.text.toList]) := by
      rw [join, String.toList_ofList, hp]
      exact joinText_intercalate hfront hdone hc
    have hmore : ∀ piece ∈ done ++ [c.text.toList], IsPiece piece :=
      List.forall_mem_append.2 ⟨hdone, List.forall_mem_singleton.2 (isPiece_of_isStep hc)⟩
    rw [List.foldl_cons, ih (fun d hd => h d (List.mem_cons_of_mem _ hd)) hmore hnext,
      List.append_assoc]
    rfl

/-- The fronts of normal paths. -/
def IsFront (front : Option Component) : Prop :=
  front = none ∨ front = some .root

variable {front : Option Component} {steps : List Component}

/-- The text of a normal path. -/
theorem unsplit_piecesOf (hf : IsFront front) (h : ∀ c ∈ steps, c.IsStep) :
    unsplit front (piecesOf steps) = ofComponents (front.toList ++ steps) := by
  have hnone : ∀ piece ∈ ([] : List (List Char)), IsPiece piece := List.forall_mem_nil _
  rcases hf with rfl | rfl
  · have htext := toList_foldl_join (Or.inl rfl) h hnone (p := ⟨""⟩) rfl
    exact congrArg Path.mk
      (String.toList_injective (by rw [String.toList_ofList]; exact htext.symm))
  · have htext := toList_foldl_join (Or.inr rfl) h hnone (p := ⟨"/"⟩) rfl
    rw [Option.toList_some, List.singleton_append, ofComponents, List.foldl_cons, empty_join]
    exact congrArg Path.mk
      (String.toList_injective (by rw [String.toList_ofList]; exact htext.symm))

/-- A normal path is split into its front and the pieces of its steps. -/
theorem split_ofComponents (hf : IsFront front) (h : ∀ c ∈ steps, c.IsStep) (hne : steps ≠ []) :
    split (ofComponents (front.toList ++ steps)).text.toList = (front, piecesOf steps) := by
  have hpieces : pieces (['/'].intercalate (piecesOf steps)) = piecesOf steps :=
    List.splitOn_intercalate '/' (fun piece hp => (isPiece_of_mem_piecesOf h hp).2)
      (fun hnil => hne (List.map_eq_nil_iff.1 hnil))
  rw [← unsplit_piecesOf hf h]
  rcases hf with rfl | rfl
  · rw [unsplit, String.toList_ofList, split, hpieces]
    obtain ⟨first, rest, hsteps⟩ := List.exists_cons_of_ne_nil hne
    have hfirst : isIdle first.text.toList = false :=
      (isPiece_of_isStep (h first (hsteps ▸ List.mem_cons_self))).1
    rw [isIdle, Bool.or_eq_false_iff] at hfirst
    rw [hsteps]
    show (if first.text.toList.isEmpty = true then _ else _) = _
    rw [if_neg (by simp [hfirst.1]), if_neg (by simpa using hfirst.2)]
    rfl
  · rw [unsplit, String.toList_ofList, split_slash, hpieces]

/-- The folder of a normal path. -/
theorem parent?_ofComponents (hf : IsFront front) (h : ∀ c ∈ steps, c.IsStep) {last : Component}
    (hlast : last.IsStep) :
    (ofComponents (front.toList ++ (steps ++ [last]))).parent? =
      some (ofComponents (front.toList ++ steps)) := by
  have hall : ∀ c ∈ steps ++ [last], c.IsStep :=
    List.forall_mem_append.2 ⟨h, List.forall_mem_singleton.2 hlast⟩
  have hpieces : piecesOf (steps ++ [last]) = piecesOf steps ++ [last.text.toList] :=
    List.map_append
  have htrim : trimEnd (piecesOf steps) = piecesOf steps := by
    rcases steps.eq_nil_or_concat with rfl | ⟨init, c, heq⟩
    · rfl
    · rw [List.concat_eq_append] at heq
      subst heq
      rw [piecesOf, List.map_append]
      exact trimEnd_append (isPiece_of_isStep (h c (List.mem_append_right _ List.mem_cons_self))).1
  unfold parent?
  rw [split_ofComponents hf hall (List.append_ne_nil_of_right_ne_nil _ (List.cons_ne_nil _ _)),
    hpieces]
  dsimp only
  rw [trimEnd_append (isPiece_of_isStep hlast).1]
  split
  · next hnil => exact absurd hnil (List.append_ne_nil_of_right_ne_nil _ (List.cons_ne_nil _ _))
  · rw [List.dropLast_concat, htrim, unsplit_piecesOf hf h]

/-- Steps and their root are the components of their path. -/
theorem components_ofComponents_of_ne_nil (hf : IsFront front) (h : ∀ c ∈ steps, c.IsStep)
    (hne : front.toList ++ steps ≠ []) :
    (ofComponents (front.toList ++ steps)).components = front.toList ++ steps := by
  rcases hf with rfl | rfl
  · have hsplit := split_ofComponents (Or.inl rfl) h hne
    rw [components_eq, Path.front, hsplit]
    exact body_ofComponents h
  · exact components_ofComponents h

/-! ### Normal paths -/

theorem isStep_of_mem_cancel {done cs : List Component} (hdone : ∀ c ∈ done, c.IsStep)
    (hcs : ∀ c ∈ cs, c.IsStep) : ∀ c ∈ cancel done cs, c.IsStep := by
  fun_induction cancel done cs with
  | case1 done => exact hdone
  | case2 done rest ih => exact ih hdone (List.forall_mem_cons.1 hcs).2
  | case3 done s rest ih =>
    exact ih (List.forall_mem_cons.1 hdone).2 (List.forall_mem_cons.1 hcs).2
  | case4 rest ih => exact ih hdone (List.forall_mem_cons.1 hcs).2
  | case5 done c rest _ _ _ ih =>
    obtain ⟨hc, hrest⟩ := List.forall_mem_cons.1 hcs
    exact ih (List.forall_mem_cons.2 ⟨hc, hdone⟩) hrest

/-- A normal form is a row of steps, behind the root or behind nothing. -/
theorem exists_normalComponents (p : Path) :
    ∃ front steps, IsFront front ∧ (∀ c ∈ steps, c.IsStep) ∧
      p.normalComponents = front.toList ++ steps := by
  cases hp : p.isAbsolute with
  | true =>
    obtain ⟨names, hnames, hnormal⟩ := normalComponents_of_isAbsolute hp
    exact ⟨some .root, names, Or.inr rfl, fun c hc => Or.inr (hnames c hc), hnormal⟩
  | false =>
    refine ⟨none, (cancel [] p.body).reverse, Or.inl rfl, fun c hc => ?_, ?_⟩
    · exact isStep_of_mem_cancel (List.forall_mem_nil _)
        (fun c hc => isStep_of_mem_body hc) c (List.mem_reverse.1 hc)
    · rw [normalComponents, components_eq]
      rcases front_of_relative hp with h | h <;> rw [h]
      · rfl
      · show (cancel [] (.current :: p.body)).reverse = _
        rw [cancel]
        rfl

/-- The components of a normal path are those of its normal form, unless nothing is left. -/
theorem components_normalize_of_ne_nil {p : Path} (h : p.normalComponents ≠ []) :
    p.normalize.components = p.normalComponents := by
  obtain ⟨front, steps, hf, hsteps, hnormal⟩ := p.exists_normalComponents
  rw [normalize, if_neg (by rwa [List.isEmpty_iff]), hnormal]
  exact components_ofComponents_of_ne_nil hf hsteps (hnormal ▸ h)

/-! ### Tidy paths -/

/-- The path is what its components are put together to. -/
def Tidy (p : Path) : Prop :=
  ofComponents p.components = p

variable {p q : Path}

/-- Tidy paths have one spelling. -/
theorem Tidy.eq_of_same (h : p.Tidy) (hq : q.Tidy) (hs : p.Same q) : p = q := by
  rw [← h, ← hq]
  exact congrArg ofComponents hs

theorem Tidy.child (h : p.Tidy) {name : String} (hname : Component.IsName (.name name)) :
    (p.child name).Tidy := by
  rw [Tidy, components_child p hname, ofComponents, List.foldl_append]
  show (ofComponents p.components).join ⟨name⟩ = p.child name
  rw [h]
  rfl

/-- The folder of a normal path that ends in a name is tidy and reduced. -/
theorem exists_folder_normalize {name : String} (h : p.normalize.fileName? = some name) :
    ∃ folder, p.normalize.parent? = some folder ∧ folder.Tidy ∧
      Reduced folder.components.reverse := by
  have hne : p.normalComponents ≠ [] := by
    intro hnil
    have hdot : p.normalize = ⟨"."⟩ := by
      rw [normalize, if_pos (List.isEmpty_iff.2 hnil)]
    have hnone : fileName? ⟨"."⟩ = none := by decide +kernel
    rw [hdot, hnone] at h
    cases h
  obtain ⟨init, hinit⟩ := exists_components_of_fileName? h
  obtain ⟨folder, hparent, hfolder⟩ := parent?_spec hinit
  rw [components_normalize_of_ne_nil hne] at hinit
  have hreduced : Reduced (.name name :: folder.components.reverse) := by
    rw [hfolder, ← List.reverse_concat, ← hinit, normalComponents, List.reverse_reverse]
    exact reduced_cancel _
  refine ⟨folder, hparent, ?_, hreduced.tail⟩
  obtain ⟨front, steps, hf, hsteps, hnormal⟩ := p.exists_normalComponents
  rcases steps.eq_nil_or_concat with rfl | ⟨before, last, heq⟩
  · -- a front is no name
    rw [hinit, List.append_nil] at hnormal
    rcases hf with rfl | rfl
    · exact absurd hnormal (List.append_ne_nil_of_right_ne_nil _ (List.cons_ne_nil _ _))
    · have hlast := congrArg List.getLast? hnormal
      rw [List.getLast?_concat] at hlast
      cases hlast
  · rw [List.concat_eq_append] at heq
    subst heq
    have hbefore : ∀ c ∈ before, c.IsStep := fun c hc => hsteps c (List.mem_append_left _ hc)
    have hlast : last.IsStep := hsteps last (List.mem_append_right _ (List.mem_singleton_self _))
    have hfolder' : folder = ofComponents (front.toList ++ before) := by
      rw [normalize, if_neg (by rwa [List.isEmpty_iff]), hnormal,
        parent?_ofComponents hf hbefore hlast] at hparent
      exact (Option.some.inj hparent).symm
    rw [hinit, ← List.append_assoc] at hnormal
    rw [Tidy, hfolder, (List.append_inj' hnormal rfl).1, hfolder']

/-- An entry of a folder in normal form is in normal form. -/
theorem normalComponents_child (h : Reduced p.components.reverse) {name : String}
    (hname : Component.IsName (.name name)) :
    (p.child name).normalComponents = p.components ++ [.name name] := by
  have hrelative : isAbsolute ⟨name⟩ = false := isAbsolute_of_isName hname
  have hbody : body ⟨name⟩ = [.name name] := body_of_isName hname
  have hcancel := h.name name
  rw [List.reverse_reverse] at hcancel
  rw [child, normalComponents_join_relative p hrelative, hbody, hcancel, List.reverse_cons,
    List.reverse_reverse]

/-- A name that is read from a reduced folder is an entry of the folder. -/
theorem Tidy.parent?_joinSpecifier {folder base : Path} (h : folder.Tidy)
    (hreduced : Reduced folder.components.reverse) (hs : base.Same folder) {name : String}
    (hname : Component.IsName (.name name))
    (hslash : name.toList.dropWhile isSlash = name.toList) :
    (base.joinSpecifier name).parent? = some folder ∧
      (base.joinSpecifier name).fileName? = some name := by
  have hnormal : (base.joinSpecifier name).components = folder.components ++ [.name name] := by
    have hchild := normalComponents_child hreduced hname
    have hne : (folder.child name).normalComponents ≠ [] := by
      rw [hchild]
      exact List.append_ne_nil_of_right_ne_nil _ (List.cons_ne_nil _ _)
    rw [joinSpecifier_congr hs, joinSpecifier, hslash, String.ofList_toList, ← hchild]
    exact components_normalize_of_ne_nil hne
  have hstem : (base.joinSpecifier name).fileName? = some name := fileName?_of_components hnormal
  obtain ⟨parent, hparent, htidy, -⟩ := exists_folder_normalize hstem
  obtain ⟨parent', hparent', hcomponents⟩ := parent?_spec hnormal
  obtain rfl := Option.some.inj (hparent'.symm.trans hparent)
  exact ⟨hparent'.trans (congrArg some (htidy.eq_of_same h hcomponents)), hstem⟩

end Minipack.Path
