/-
The folder of an entry.

The components of an entry are those of its folder and its name (`Path.components_child`), and the
components of the parent are all but the last (`Path.parent?_spec`).  So the parent of an entry is
its folder, in some spelling.  A specifier is read in the same way from every spelling of a folder
(`Path.joinSpecifier_congr`).
-/
import Mathlib.Data.List.DropRight
import Minipack.Path.Specifier
import Minipack.Proofs.Path.Specifier

namespace Minipack.Path

/-! ### Fronts -/

/-- The front and the pieces behind it: no piece holds a slash, and without a front the first piece
is neither empty nor a dot. -/
theorem split_spec (text : List Char) :
    ((split text).1 = none ∨ (split text).1 = some .root ∨ (split text).1 = some .current) ∧
      (∀ piece ∈ (split text).2, '/' ∉ piece) ∧
      ((split text).1 = none → ∀ first rest, (split text).2 = first :: rest →
        first ≠ [] ∧ first ≠ ['.']) := by
  have hall : ∀ piece ∈ pieces text, '/' ∉ piece := fun piece => not_mem_of_mem_pieces
  unfold split
  cases hp : pieces text with
  | nil => exact absurd hp (pieces_ne_nil text)
  | cons first rest =>
    rw [hp] at hall
    dsimp only
    have hrest : ∀ piece ∈ rest, '/' ∉ piece := fun piece h => hall piece (List.mem_cons_of_mem _ h)
    split
    · split
      · exact ⟨Or.inl rfl, nofun, nofun⟩
      · exact ⟨Or.inr (Or.inl rfl), hrest, nofun⟩
    · next hfirst =>
      split
      · exact ⟨Or.inr (Or.inr rfl), hrest, nofun⟩
      · next hdot =>
        refine ⟨Or.inl rfl, hall, fun _ first' rest' h => ?_⟩
        obtain ⟨rfl, rfl⟩ := List.cons.inj h
        exact ⟨fun he => hfirst (List.isEmpty_iff.2 he), hdot⟩

/-- The components of a text that is put together from a front and pieces. -/
theorem components_unsplit {front : Option Component} {body : List (List Char)}
    (hfront : front = none ∨ front = some .root ∨ front = some .current)
    (hslash : ∀ piece ∈ body, '/' ∉ piece)
    (hfirst : front = none → ∀ first rest, body = first :: rest → first ≠ [] ∧ first ≠ ['.']) :
    (unsplit front body).components = front.toList ++ bodyComponents body := by
  have hpieces (h : body ≠ []) : pieces (['/'].intercalate body) = body :=
    List.splitOn_intercalate '/' hslash h
  have hbody (text : List Char) (htext : pieces text = body ∨ body = [] ∧ text = []) :
      bodyComponents (pieces text) = bodyComponents body := by
    rcases htext with h | ⟨rfl, rfl⟩
    · rw [h]
    · rfl
  have hjoined : bodyComponents (pieces (['/'].intercalate body)) = bodyComponents body := by
    by_cases h : body = []
    · exact hbody _ (Or.inr ⟨h, by rw [h]; rfl⟩)
    · exact hbody _ (Or.inl (hpieces h))
  -- the first piece tells which front was put together
  rcases hfront with rfl | rfl | rfl
  · cases body with
    | nil => rfl
    | cons first rest =>
      obtain ⟨hempty, hdot⟩ := hfirst rfl first rest rfl
      have hsplit : split (['/'].intercalate (first :: rest)) = (none, first :: rest) := by
        rw [split, hpieces (List.cons_ne_nil _ _)]
        dsimp only
        rw [if_neg fun h => hempty (List.isEmpty_iff.1 h), if_neg hdot]
      rw [components, unsplit, String.toList_ofList, hsplit]
  · rw [components, unsplit, String.toList_ofList, split_slash]
    exact congrArg (Component.root :: ·) hjoined
  · cases body with
    | nil => decide +kernel
    | cons first rest =>
      have hsplit : split (Component.current.text.toList ++ '/' ::
          ['/'].intercalate (first :: rest)) = (some .current, first :: rest) := by
        show split (['.'] ++ '/' :: ['/'].intercalate (first :: rest)) = _
        rw [split, pieces_append, hpieces (List.cons_ne_nil _ _)]
        rfl
      rw [components, unsplit]
      dsimp only [List.isEmpty_cons]
      rw [if_neg Bool.false_ne_true, String.toList_ofList, hsplit]
      intro h
      cases h

/-- The components of an entry. -/
theorem components_child (p : Path) {name : String} (hname : Component.IsName (.name name)) :
    (p.child name).components = p.components ++ [.name name] := by
  have hbody : body ⟨name⟩ = [.name name] := body_of_isName hname
  have hrelative : isAbsolute ⟨name⟩ = false := isAbsolute_of_isName hname
  by_cases hp : p.text.toList = []
  · obtain ⟨text⟩ := p
    obtain rfl : text = "" := String.toList_eq_nil_iff.1 hp
    obtain ⟨s, hs, hslash, hempty, hdot, -⟩ := hname
    obtain rfl : name = s := Component.name.inj hs
    have hchild : child ⟨""⟩ name = ⟨name⟩ := empty_join ⟨name⟩
    have hfront : front ⟨name⟩ = none := by
      show (split name.toList).1 = none
      rw [split, pieces_of_not_mem hslash]
      dsimp only
      rw [if_neg fun h => hempty (List.isEmpty_iff.1 h), if_neg hdot]
    rw [hchild, components_eq, hfront, hbody]
    rfl
  · rw [child, components_join hp hrelative, hbody]

/-! ### Parents -/

theorem trimEnd_isPrefix (body : List (List Char)) : trimEnd body <+: body := by
  have hsuffix : body.reverse.dropWhile isIdle <:+ body.reverse := List.dropWhile_suffix _
  unfold trimEnd
  rw [← List.reverse_suffix, List.reverse_reverse]
  exact hsuffix

/-- What is dropped at the end are all idle pieces there. -/
theorem trimEnd_append_rtakeWhile (body : List (List Char)) :
    trimEnd body ++ body.rtakeWhile isIdle = body := by
  rw [trimEnd, List.rtakeWhile, ← List.reverse_append, List.takeWhile_append_dropWhile,
    List.reverse_reverse]

/-- So they leave no component. -/
theorem bodyComponents_trimEnd (body : List (List Char)) :
    bodyComponents (trimEnd body) = bodyComponents body := by
  have hnone : bodyComponents (body.rtakeWhile isIdle) = [] := by
    rw [bodyComponents, List.filter_eq_nil_iff.2, List.map_nil]
    intro piece hp
    simp [List.mem_rtakeWhile_imp hp]
  calc bodyComponents (trimEnd body)
      = bodyComponents (trimEnd body ++ body.rtakeWhile isIdle) := by
        rw [bodyComponents_append, hnone, List.append_nil]
    _ = bodyComponents body := by rw [trimEnd_append_rtakeWhile]

/-- What is left ends in a piece that leaves a component. -/
theorem isIdle_getLast_trimEnd {body init : List (List Char)} {last : List Char}
    (h : trimEnd body = init ++ [last]) : isIdle last = false := by
  have hreverse : body.reverse.dropWhile isIdle = last :: init.reverse := by
    rw [trimEnd, List.reverse_eq_iff, List.reverse_append] at h
    exact h
  have hne : body.reverse.dropWhile isIdle ≠ [] := by
    rw [hreverse]
    exact List.cons_ne_nil _ _
  have hhead : isIdle ((body.reverse.dropWhile isIdle).head hne) = false :=
    List.head_dropWhile_not isIdle hne
  simpa only [hreverse, List.head_cons] using hhead

/-- The last piece that leaves a component is the last name, and the pieces before leave the rest.
-/
theorem exists_steps {p : Path} {init : List Component} {name : String}
    (h : p.components = init ++ [.name name]) :
    ∃ steps, trimEnd (split p.text.toList).2 = steps ++ [name.toList] ∧
      (split p.text.toList).1.toList ++ bodyComponents steps = init := by
  have hcomponents : (split p.text.toList).1.toList ++
      bodyComponents (trimEnd (split p.text.toList).2) = init ++ [.name name] := by
    rw [bodyComponents_trimEnd]
    exact h
  rcases List.eq_nil_or_concat (trimEnd (split p.text.toList).2) with hnil | ⟨steps, last, hsteps⟩
  · -- a front is no name
    rw [hnil] at hcomponents
    change _ ++ [] = _ at hcomponents
    rw [List.append_nil] at hcomponents
    have hlast : (split p.text.toList).1.toList.getLast? = some (.name name) := by
      rw [hcomponents, List.getLast?_concat]
    rcases (split_spec p.text.toList).1 with hf | hf | hf <;> rw [hf] at hlast <;> cases hlast
  · rw [List.concat_eq_append] at hsteps
    have hlast : isIdle last = false := isIdle_getLast_trimEnd hsteps
    have hone : bodyComponents [last] = [componentOf last] := by
      rw [bodyComponents, List.filter_cons_of_pos (by simp [hlast])]
      rfl
    rw [hsteps, bodyComponents_append, ← List.append_assoc, hone] at hcomponents
    obtain ⟨hinit, hname⟩ := List.append_inj' hcomponents rfl
    refine ⟨steps, ?_, hinit⟩
    have hpiece : componentOf last = .name name := (List.cons.inj hname).1
    unfold componentOf at hpiece
    split at hpiece
    · cases hpiece
    · rw [hsteps, ← Component.name.inj hpiece, String.toList_ofList]

/-- The parent has all components but the last. -/
theorem parent?_spec {p : Path} {init : List Component} {name : String}
    (h : p.components = init ++ [.name name]) :
    ∃ q, p.parent? = some q ∧ q.components = init := by
  obtain ⟨hfront, hslash, hfirst⟩ := split_spec p.text.toList
  obtain ⟨steps, hsteps, hinit⟩ := exists_steps h
  have hsub : trimEnd steps <+: (split p.text.toList).2 :=
    (trimEnd_isPrefix steps).trans ((List.prefix_append steps [name.toList]).trans
      (hsteps ▸ trimEnd_isPrefix (split p.text.toList).2))
  refine ⟨unsplit (split p.text.toList).1 (trimEnd steps), ?_, ?_⟩
  · unfold parent?
    dsimp only
    split
    · next h =>
      rw [hsteps] at h
      exact absurd h (List.append_ne_nil_of_right_ne_nil _ (List.cons_ne_nil _ _))
    · rw [hsteps, List.dropLast_concat]
  · rw [components_unsplit hfront (fun piece hp => hslash piece (hsub.subset hp)),
      bodyComponents_trimEnd, hinit]
    intro hnone first rest hcons
    obtain ⟨more, hmore⟩ := hsub
    rw [hcons] at hmore
    exact hfirst hnone first (rest ++ more) hmore.symm

/-- The folder of an absolute path is absolute. -/
theorem isAbsolute_parent {p folder : Path} (h : p.isAbsolute = true)
    (hf : folder.isAbsolute = true) : (p.parent?.getD folder).isAbsolute = true := by
  obtain ⟨rest, hrest⟩ := isAbsolute_iff.1 h
  rw [parent?, hrest, split_slash]
  dsimp only
  split
  · exact hf
  · rw [Option.getD_some, unsplit, isAbsolute, String.toList_ofList]
    rfl

/-! ### Reading a specifier from a folder -/

/-- The front of a relative path is no step. -/
theorem front_of_relative {q : Path} (hq : q.isAbsolute = false) :
    q.front = none ∨ q.front = some .current := by
  rcases (split_spec q.text.toList).1 with h | h | h
  · exact Or.inl h
  · have habsolute : q.isAbsolute = true := by
      rw [isAbsolute_iff]
      -- only a text that begins with a slash has the root at its front
      unfold split at h
      cases hp : pieces q.text.toList with
      | nil => exact absurd hp (pieces_ne_nil _)
      | cons first rest =>
        rw [hp] at h
        dsimp only at h
        have htext := intercalate_pieces q.text.toList
        rw [hp] at htext
        split at h
        · next hfirst =>
          split at h
          · cases h
          · next hrest =>
            obtain ⟨second, more, rfl⟩ := List.exists_cons_of_ne_nil
              fun hnil : rest = [] => hrest (List.isEmpty_iff.2 hnil)
            rw [List.isEmpty_iff.1 hfirst] at htext
            exact ⟨_, htext.symm⟩
        · split at h <;> cases h
    rw [habsolute] at hq
    cases hq
  · exact Or.inr h

/-- The normal form of a relative path behind any path. -/
theorem normalComponents_join_relative (p : Path) {q : Path} (hq : q.isAbsolute = false) :
    (p.join q).normalComponents = (cancel [] (p.components ++ q.body)).reverse := by
  by_cases hp : p.text.toList = []
  · obtain ⟨text⟩ := p
    obtain rfl : text = "" := String.toList_eq_nil_iff.1 hp
    rw [empty_join, normalComponents, components_eq q]
    rcases front_of_relative hq with h | h <;> rw [h]
    · rfl
    · show (cancel [] (.current :: q.body)).reverse = _
      rw [cancel]
      rfl
  · rw [normalComponents, components_join hp hq]

/-- A specifier without the slashes at its front is relative. -/
theorem isAbsolute_dropWhile (specifier : String) :
    isAbsolute ⟨String.ofList (specifier.toList.dropWhile isSlash)⟩ = false := by
  rw [← Bool.not_eq_true, isAbsolute_iff]
  rintro ⟨rest, hrest⟩
  rw [String.toList_ofList] at hrest
  have hne : specifier.toList.dropWhile isSlash ≠ [] := by
    rw [hrest]
    exact List.cons_ne_nil _ _
  have hhead : isSlash ((specifier.toList.dropWhile isSlash).head hne) = false :=
    List.head_dropWhile_not isSlash hne
  simp only [hrest, List.head_cons] at hhead
  exact absurd hhead (by decide)

/-- A specifier is read in the same way from every spelling of a folder. -/
theorem joinSpecifier_congr {base base' : Path} (h : base.Same base') (specifier : String) :
    base.joinSpecifier specifier = base'.joinSpecifier specifier := by
  have hrelative := isAbsolute_dropWhile specifier
  have hcomponents : base.components = base'.components := h
  unfold joinSpecifier normalize
  rw [normalComponents_join_relative base hrelative, normalComponents_join_relative base' hrelative,
    hcomponents]

end Minipack.Path
