/-
The extension of an entry.

The text of an entry of an absolute folder ends in the name of the entry, and the name is its last
piece (`Path.exists_split_child`).  So taking the extension away from an entry gives the entry whose
name is the stem (`Path.child_withExtension`).
-/
import Minipack.Proofs.Path.Components

namespace Minipack.Path

/-! ### Names -/

/-- A name is cut at its last dot. -/
theorem splitName_append {stem ext : List Char} (hstem : stem ≠ []) (hext : '.' ∉ ext) :
    splitName (stem ++ '.' :: ext) = (stem, some ext) := by
  have hafter : ((stem ++ '.' :: ext).reverse.takeWhile (· != '.')).reverse = ext := by
    have hall : ∀ c ∈ ext.reverse, (c != '.') = true := by
      intro c hc
      rw [bne_iff_ne]
      rintro rfl
      exact hext (List.mem_reverse.1 hc)
    rw [List.reverse_append, List.reverse_cons, List.append_assoc, List.singleton_append,
      List.takeWhile_append_of_pos hall, List.takeWhile_cons_of_neg (by decide), List.append_nil,
      List.reverse_reverse]
  have hlength : (stem ++ '.' :: ext).length - ext.length - 1 = stem.length := by
    rw [List.length_append, List.length_cons]
    omega
  have hbefore : (stem ++ '.' :: ext).take stem.length = stem := List.take_left
  simp only [splitName, hafter, hlength, hbefore]
  exact if_neg (by simpa using hstem)

/-! ### Entries of a folder -/

/-- The text of an absolute path is put together again from its pieces. -/
theorem unsplit_split {rest : List Char} :
    unsplit (some .root) (pieces rest) = ⟨String.ofList ('/' :: rest)⟩ := by
  rw [unsplit, intercalate_pieces]

/-- A name that follows a slash behind the root is the last piece. -/
theorem exists_pieces_append (before : List Char) (h : ∃ rest, before ++ ['/'] = '/' :: rest) :
    ∃ init, ∀ name : List Char, '/' ∉ name →
      ∃ rest, before ++ '/' :: name = '/' :: rest ∧ pieces rest = init ++ [name] := by
  cases before with
  | nil => exact ⟨[], fun name hname => ⟨name, rfl, pieces_of_not_mem hname⟩⟩
  | cons c before =>
    obtain ⟨rest, hrest⟩ := h
    obtain rfl : c = '/' := (List.cons.inj hrest).1
    refine ⟨pieces before, fun name hname => ⟨before ++ '/' :: name, rfl, ?_⟩⟩
    rw [pieces_append, pieces_of_not_mem hname]

/-- The text of an entry ends in its name, which is its last piece. -/
theorem exists_pieces_child {p : Path} (h : p.isAbsolute = true) :
    ∃ before init, ∀ name : String, '/' ∉ name.toList →
      (p.child name).text.toList = before ++ '/' :: name.toList ∧
        ∃ rest, before ++ '/' :: name.toList = '/' :: rest ∧
          pieces rest = init ++ [name.toList] := by
  obtain ⟨rest, hrest⟩ := isAbsolute_iff.1 h
  have hhead {name : List Char} (hname : '/' ∉ name) : name.head? ≠ some '/' := by
    intro hh
    exact hname (List.mem_of_mem_head? hh)
  by_cases hlast : p.text.toList.getLast? = some '/'
  · obtain ⟨before, hbefore⟩ := List.getLast?_eq_some_iff.1 hlast
    obtain ⟨init, hinit⟩ := exists_pieces_append before ⟨rest, hbefore ▸ hrest⟩
    refine ⟨before, init, fun name hname => ⟨?_, hinit _ hname⟩⟩
    rw [child, join, String.toList_ofList, joinText_of_relative (hhead hname),
      if_pos (Or.inr hlast), hbefore, List.append_assoc]
    rfl
  · obtain ⟨init, hinit⟩ := exists_pieces_append p.text.toList
      ⟨rest ++ ['/'], by rw [hrest, List.cons_append]⟩
    refine ⟨p.text.toList, init, fun name hname => ⟨?_, hinit _ hname⟩⟩
    have hne : p.text.toList ≠ [] := by
      rw [hrest]
      exact List.cons_ne_nil _ _
    rw [child, join, String.toList_ofList, joinText_of_relative (hhead hname),
      if_neg (not_or.2 ⟨hne, hlast⟩)]

/-- The last component of an entry is its name. -/
theorem fileName?_child {p : Path} (h : p.isAbsolute = true) {name : String}
    (hname : Component.IsName (.name name)) : (p.child name).fileName? = some name := by
  have hne : p.text.toList ≠ [] := by
    obtain ⟨rest, hrest⟩ := isAbsolute_iff.1 h
    rw [hrest]
    exact List.cons_ne_nil _ _
  have hbody : body ⟨name⟩ = [.name name] := body_of_isName hname
  have hrelative : isAbsolute ⟨name⟩ = false := isAbsolute_of_isName hname
  rw [fileName?, child, components_join hne hrelative, hbody, List.getLast?_append]
  rfl

theorem isIdle_of_isName {name : String} (h : Component.IsName (.name name)) :
    isIdle name.toList = false := by
  obtain ⟨s, hs, -, hempty, hdot, -⟩ := h
  obtain rfl : name = s := Component.name.inj hs
  simp [isIdle, hempty, hdot]

/-- A name with an extension is a name, and so is what is left when only the dot stays. -/
theorem isName_append {stem ext : String} (hstem : Component.IsName (.name stem))
    (hslash : '/' ∉ ext.toList) : Component.IsName (.name (stem ++ "." ++ ext)) := by
  obtain ⟨s, hs, hslash', hempty, hdot, -⟩ := hstem
  obtain rfl : stem = s := Component.name.inj hs
  have htext : (stem ++ "." ++ ext).toList = stem.toList ++ '.' :: ext.toList := by
    rw [String.toList_append, String.toList_append, List.append_assoc]
    rfl
  obtain ⟨c, rest, hcons⟩ := List.exists_cons_of_ne_nil hempty
  refine ⟨_, rfl, ?_, ?_, ?_, ?_⟩ <;> rw [htext]
  · simpa [hslash'] using hslash
  · rw [hcons]
    exact List.cons_ne_nil _ _
  · rw [hcons]
    intro h
    exact absurd (List.cons.inj h).2 (List.append_ne_nil_of_right_ne_nil _ (List.cons_ne_nil _ _))
  · intro h
    rw [hcons] at h hdot
    obtain ⟨rfl, hrest⟩ := List.cons.inj h
    cases rest with
    | nil => exact hdot rfl
    | cons d rest =>
      have := (List.cons.inj hrest).2
      exact List.append_ne_nil_of_right_ne_nil _ (List.cons_ne_nil _ _) this

/-- A piece that leaves a component stays at the end. -/
theorem trimEnd_append {init : List (List Char)} {piece : List Char} (h : isIdle piece = false) :
    trimEnd (init ++ [piece]) = init ++ [piece] := by
  rw [trimEnd, List.reverse_append, List.reverse_singleton, List.singleton_append,
    List.dropWhile_cons_of_neg (by simp [h]), List.reverse_cons, List.reverse_reverse]

/-- An entry whose name ends in a dot, without the dot. -/
theorem child_replaceExtension {p : Path} (h : p.isAbsolute = true) {stem : String}
    (hstem : Component.IsName (.name stem)) :
    (p.child (stem ++ ".")).replaceExtension "" = p.child stem := by
  have hname : Component.IsName (.name (stem ++ ".")) := by
    have hdotted : Component.IsName (.name (stem ++ "." ++ "")) :=
      isName_append hstem List.not_mem_nil
    rwa [String.append_empty] at hdotted
  have hbusy : isIdle (stem ++ ".").toList = false := isIdle_of_isName hname
  have htext : (stem ++ ".").toList = stem.toList ++ ['.'] := String.toList_append
  obtain ⟨s, hs, hslash, hempty, -⟩ := hstem
  obtain rfl : stem = s := Component.name.inj hs
  have hslash' : '/' ∉ (stem ++ ".").toList := by
    rw [htext]
    simpa using hslash
  obtain ⟨before, init, hchild⟩ := exists_pieces_child h
  obtain ⟨hdotted, rest, hrest, hpieces⟩ := hchild (stem ++ ".") hslash'
  obtain ⟨hplain, rest', hrest', hpieces'⟩ := hchild stem hslash
  have hcut : splitName (stem ++ ".").toList = (stem.toList, some []) := by
    rw [htext]
    exact splitName_append hempty List.not_mem_nil
  have hlast : (if "".isEmpty = true then stem.toList else stem.toList ++ '.' :: "".toList) =
      stem.toList := if_pos rfl
  rw [replaceExtension, fileName?_child h hname]
  dsimp only
  rw [hdotted, hrest, split_slash, hcut, hpieces]
  dsimp only
  rw [trimEnd_append hbusy, List.dropLast_concat, hlast, ← hpieces', unsplit_split, ← hrest',
    ← hplain, String.ofList_toList]

/-- An entry without its extension is the entry of the stem. -/
theorem child_withExtension {p : Path} (h : p.isAbsolute = true) {stem ext : String}
    (hstem : Component.IsName (.name stem)) (hslash : '/' ∉ ext.toList) (hdot : '.' ∉ ext.toList) :
    (p.child (stem ++ "." ++ ext)).withExtension "" = p.child stem := by
  have hname : Component.IsName (.name (stem ++ "." ++ ext)) := isName_append hstem hslash
  have hreplace := child_replaceExtension h hstem
  have htext : (stem ++ "." ++ ext).toList = (stem ++ ".").toList ++ ext.toList :=
    String.toList_append
  obtain ⟨s, hs, hslash', hempty, -⟩ := hstem
  obtain rfl : stem = s := Component.name.inj hs
  have hextension : (p.child (stem ++ "." ++ ext)).extension? = some ext := by
    rw [extension?, fileName?_child h hname]
    show (splitName (stem ++ "." ++ ext).toList).2.map String.ofList = _
    rw [htext, String.toList_append, List.append_assoc]
    show (splitName (stem.toList ++ '.' :: ext.toList)).2.map String.ofList = _
    rw [splitName_append hempty hdot, Option.map_some, String.ofList_toList]
  -- dropping the extension leaves the dot
  have hdrop : (⟨String.ofList ((p.child (stem ++ "." ++ ext)).text.toList.take
      ((p.child (stem ++ "." ++ ext)).text.length - ext.length))⟩ : Path) =
        p.child (stem ++ ".") := by
    have hslash1 : '/' ∉ (stem ++ ".").toList := by
      rw [String.toList_append]
      simpa using hslash'
    have hslash2 : '/' ∉ (stem ++ "." ++ ext).toList := by
      rw [htext]
      simpa [hslash1] using ⟨hslash', hslash⟩
    obtain ⟨before, init, hchild⟩ := exists_pieces_child h
    obtain ⟨hdotted, -⟩ := hchild (stem ++ ".") hslash1
    obtain ⟨hfull, -⟩ := hchild (stem ++ "." ++ ext) hslash2
    have happend : (p.child (stem ++ "." ++ ext)).text.toList =
        (p.child (stem ++ ".")).text.toList ++ ext.toList := by
      rw [hfull, hdotted, htext, List.append_assoc, List.cons_append]
    have hlength : (p.child (stem ++ "." ++ ext)).text.length - ext.length =
        (p.child (stem ++ ".")).text.toList.length := by
      rw [← String.length_toList, ← String.length_toList, happend, List.length_append,
        Nat.add_sub_cancel]
    rw [hlength, happend, List.take_left, String.ofList_toList]
  rw [withExtension, hextension]
  dsimp only
  rw [hdrop, hreplace]

end Minipack.Path
