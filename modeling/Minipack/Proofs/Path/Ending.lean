/-
The name that a path ends in, as it is written.

A path ends in a name when the name is its whole text or stands behind the last slash (`EndsIn`).
Such a path has that name as its file name, and the path that a specifier points at ends in the name
that the specifier ends in (`endsIn_joinSpecifier`), wherever it is read.
-/
import Minipack.Proofs.Path.Tidy

namespace Minipack.Path

variable {p : Path} {name : String}

/-- The text of a path is a name, or a name stands behind a slash at its end. -/
def EndsIn (p : Path) (name : String) : Prop :=
  p.text.toList = name.toList ∨ ∃ front, p.text.toList = front ++ '/' :: name.toList

theorem exists_body_of_endsIn (h : p.EndsIn name) (hname : Component.IsName (.name name)) :
    ∃ steps, p.body = steps ++ [.name name] := by
  have hbody : bodyComponents (pieces name.toList) = [.name name] := body_of_isName hname
  rcases h with h | ⟨front, h⟩
  · exact ⟨[], by rw [body, h, hbody, List.nil_append]⟩
  · exact ⟨bodyComponents (pieces front),
      by rw [body, h, pieces_append, bodyComponents_append, hbody]⟩

theorem fileName?_of_endsIn (h : p.EndsIn name) (hname : Component.IsName (.name name)) :
    p.fileName? = some name := by
  obtain ⟨steps, hsteps⟩ := exists_body_of_endsIn h hname
  have hcomponents := p.components_eq
  rw [hsteps, ← List.append_assoc] at hcomponents
  exact fileName?_of_components hcomponents

theorem endsIn_child (p : Path) (hname : Component.IsName (.name name)) :
    (p.child name).EndsIn name := by
  obtain ⟨s, hs, hslash, -⟩ := hname
  obtain rfl := Component.name.inj hs
  have hhead : name.toList.head? ≠ some '/' := fun h => hslash (List.mem_of_head? h)
  rw [EndsIn, child, join, String.toList_ofList, joinText_of_relative hhead]
  split
  · next hover =>
    rcases hover with hnil | hlast
    · exact Or.inl (by rw [hnil, List.nil_append])
    · obtain ⟨front, hfront⟩ := List.getLast?_eq_some_iff.1 hlast
      exact Or.inr ⟨front, by rw [hfront, List.append_assoc, List.singleton_append]⟩
  · exact Or.inr ⟨_, rfl⟩

/-- What is dropped at the front of a specifier belongs to no name. -/
theorem endsIn_dropWhile {specifier : String} (h : EndsIn ⟨specifier⟩ name)
    (hname : Component.IsName (.name name)) (hback : '\\' ∉ specifier.toList) :
    EndsIn ⟨String.ofList (specifier.toList.dropWhile isSlash)⟩ name := by
  obtain ⟨s, hs, hslash, hne, -⟩ := hname
  obtain rfl := Component.name.inj hs
  have hkept : name.toList.dropWhile isSlash = name.toList := by
    obtain ⟨c, rest, hcons⟩ := List.exists_cons_of_ne_nil hne
    have hc : isSlash c = false := by
      rw [← Bool.not_eq_true, isSlash, Bool.or_eq_true, beq_iff_eq, beq_iff_eq]
      rintro (rfl | rfl)
      · exact hslash (hcons ▸ List.mem_cons_self)
      · refine hback ?_
        rcases h with h | ⟨front, h⟩
        · rw [h, hcons]
          exact List.mem_cons_self
        · rw [h, hcons]
          exact List.mem_append_right _ (List.mem_cons_of_mem _ List.mem_cons_self)
    rw [hcons, List.dropWhile_cons_of_neg (by rw [hc]; exact Bool.false_ne_true)]
  rw [EndsIn, String.toList_ofList]
  rcases h with h | ⟨front, h⟩
  · exact Or.inl (by rw [h, hkept])
  · rw [h, List.dropWhile_append]
    split
    · left
      rw [List.dropWhile_cons_of_pos (by rfl), hkept]
    · exact Or.inr ⟨_, rfl⟩

/-- What a specifier points at ends in the name that the specifier ends in. -/
theorem endsIn_joinSpecifier (base : Path) {specifier : String} (h : EndsIn ⟨specifier⟩ name)
    (hname : Component.IsName (.name name)) (hback : '\\' ∉ specifier.toList) :
    (base.joinSpecifier specifier).EndsIn name := by
  obtain ⟨steps, hsteps⟩ := exists_body_of_endsIn (endsIn_dropWhile h hname hback) hname
  have hnormal := normalComponents_join_relative base (isAbsolute_dropWhile specifier)
  rw [hsteps, ← List.append_assoc, cancel_append, cancel_name, List.reverse_cons] at hnormal
  rw [joinSpecifier, normalize, hnormal, if_neg (by simp), ofComponents, List.foldl_append]
  exact endsIn_child _ hname

/-- A path without an extension, when it is given one. -/
theorem extension?_withExtension (h : p.fileName? = some name) (hnone : p.extension? = none)
    {ext : String} (hslash : '/' ∉ ext.toList) (hdot : '.' ∉ ext.toList)
    (hne : ext.isEmpty = false) :
    (p.withExtension ext).extension? = some ext := by
  obtain ⟨init, hinit⟩ := exists_components_of_fileName? h
  have hname := isName_of_fileName? h
  have hfile : (p.withExtension ext).fileName? = some (name ++ "." ++ ext) :=
    fileName?_of_components (components_withExtension_of_none hinit hnone hslash hne)
  have hstem : name.toList ≠ [] := by
    obtain ⟨s, hs, -, hempty, -⟩ := hname
    obtain rfl := Component.name.inj hs
    exact hempty
  have htext : (name ++ "." ++ ext).toList = name.toList ++ '.' :: ext.toList := by
    rw [String.toList_append, String.toList_append, List.append_assoc]
    rfl
  rw [extension?, hfile, Option.bind_some, htext, splitName_append hstem hdot, Option.map_some,
    String.ofList_toList]

end Minipack.Path
