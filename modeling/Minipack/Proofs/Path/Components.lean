/-
The components of joined paths.

The components of a path are its front, which is the root, the current folder or nothing, followed
by its body, which are the steps that its pieces leave (`Path.components_eq`).  A slash between two
texts puts their bodies one after the other (`Path.body_join`), and the front is that of the first
(`Path.front_join`).  So a path put together from steps has these steps as its body
(`Path.body_ofComponents`).
-/
import Minipack.Path.Basic

namespace Minipack

namespace Component

/-- A name that is written and read as one step. -/
def IsName (c : Component) : Prop :=
  ∃ s : String, c = .name s ∧ '/' ∉ s.toList ∧ s.toList ≠ [] ∧ s.toList ≠ ['.'] ∧
    s.toList ≠ ['.', '.']

theorem isName_name {s : String} : IsName (.name s) ↔
    '/' ∉ s.toList ∧ s.toList ≠ [] ∧ s.toList ≠ ['.'] ∧ s.toList ≠ ['.', '.'] :=
  ⟨fun ⟨_, hs, h⟩ => name.inj hs ▸ h, fun h => ⟨s, rfl, h⟩⟩

instance : DecidablePred IsName
  | .name _ => decidable_of_iff _ isName_name.symm
  | .root => isFalse nofun
  | .current => isFalse nofun
  | .parent => isFalse nofun

/-- A name or a parent step. -/
def IsStep (c : Component) : Prop :=
  c = .parent ∨ c.IsName

end Component

namespace Path

/-! ### Pieces -/

theorem pieces_append (a b : List Char) : pieces (a ++ '/' :: b) = pieces a ++ pieces b :=
  List.splitOn_append_cons_self a b

theorem pieces_slash (a : List Char) : pieces ('/' :: a) = [] :: pieces a :=
  pieces_append [] a

theorem pieces_of_not_mem {a : List Char} (h : '/' ∉ a) : pieces a = [a] :=
  List.splitOn_eq_singleton h

theorem pieces_ne_nil (a : List Char) : pieces a ≠ [] :=
  List.splitOn_ne_nil '/' a

theorem intercalate_pieces (a : List Char) : ['/'].intercalate (pieces a) = a :=
  List.intercalate_splitOn '/'

/-- A character other than a slash belongs to the first piece. -/
theorem pieces_cons_of_ne {c : Char} (hc : c ≠ '/') (a : List Char) :
    pieces (c :: a) = (pieces a).modifyHead (c :: ·) := by
  rw [pieces, List.splitOn_cons_eq_if_modifyHead, if_neg (by simpa using hc)]
  rfl

/-- No piece holds a slash. -/
theorem not_mem_of_mem_pieces {a piece : List Char} (h : piece ∈ pieces a) : '/' ∉ piece := by
  induction a generalizing piece with
  | nil =>
    obtain rfl := List.mem_singleton.1 h
    exact List.not_mem_nil
  | cons c a ih =>
    by_cases hc : c = '/'
    · rw [hc, pieces_slash] at h
      rcases List.mem_cons.1 h with rfl | h
      · exact List.not_mem_nil
      · exact ih h
    · obtain ⟨first, rest, hp⟩ := List.exists_cons_of_ne_nil (pieces_ne_nil a)
      have hcons : pieces (c :: a) = (c :: first) :: rest := by
        rw [pieces_cons_of_ne hc, hp]
        rfl
      rw [hcons] at h
      rw [hp] at ih
      rcases List.mem_cons.1 h with rfl | h
      · intro hm
        rcases List.mem_cons.1 hm with hm | hm
        · exact hc hm.symm
        · exact ih List.mem_cons_self hm
      · exact ih (List.mem_cons_of_mem _ h)

/-! ### The body -/

/-- The steps of a path after its front. -/
def body (p : Path) : List Component :=
  bodyComponents (pieces p.text.toList)

/-- What stands before the steps. -/
def front (p : Path) : Option Component :=
  (split p.text.toList).1

theorem bodyComponents_append (a b : List (List Char)) :
    bodyComponents (a ++ b) = bodyComponents a ++ bodyComponents b := by
  rw [bodyComponents, List.filter_append, List.map_append]
  rfl

theorem bodyComponents_cons_of_idle {piece : List Char} (h : isIdle piece = true)
    (rest : List (List Char)) : bodyComponents (piece :: rest) = bodyComponents rest := by
  rw [bodyComponents, List.filter_cons_of_neg (by simp [h])]
  rfl

/-- A piece of the front leaves no step, so the steps are those of all pieces. -/
theorem bodyComponents_split (text : List Char) :
    bodyComponents (split text).2 = bodyComponents (pieces text) := by
  unfold split
  cases pieces text with
  | nil => rfl
  | cons first rest =>
    dsimp only
    split
    · next hempty =>
      have hidle : isIdle first = true := by rw [isIdle, hempty]; rfl
      rw [bodyComponents_cons_of_idle hidle]
      split
      · next hrest => rw [List.isEmpty_iff.1 hrest]
      · rfl
    · split
      · next hdot => rw [hdot, bodyComponents_cons_of_idle rfl]
      · rfl

/-- A path is its front and its body. -/
theorem components_eq (p : Path) : p.components = p.front.toList ++ p.body := by
  show (split p.text.toList).1.toList ++ bodyComponents (split p.text.toList).2 = _
  rw [bodyComponents_split]
  rfl

/-- The body of a path consists of steps. -/
theorem isStep_of_mem_body {p : Path} {c : Component} (h : c ∈ p.body) : c.IsStep := by
  obtain ⟨piece, hp, rfl⟩ := List.mem_map.1 h
  obtain ⟨hmem, hbusy⟩ := List.mem_filter.1 hp
  have hslash : '/' ∉ piece := not_mem_of_mem_pieces hmem
  have hidle : ¬ (piece = [] ∨ piece = ['.']) := by
    simpa [isIdle] using hbusy
  rw [componentOf]
  split
  · exact Or.inl rfl
  · next hparent =>
    refine Or.inr ⟨String.ofList piece, rfl, ?_, ?_, ?_, ?_⟩ <;> rw [String.toList_ofList]
    · exact hslash
    · exact fun h => hidle (Or.inl h)
    · exact fun h => hidle (Or.inr h)
    · exact hparent

/-- A step is the body of its own text. -/
theorem body_of_isStep {c : Component} (h : c.IsStep) : body ⟨c.text⟩ = [c] := by
  rcases h with rfl | ⟨s, rfl, hslash, hempty, hdot, hparent⟩
  · decide +kernel
  · have hidle : isIdle s.toList = false := by
      simp [isIdle, hempty, hdot]
    show bodyComponents (pieces s.toList) = _
    rw [pieces_of_not_mem hslash, bodyComponents, List.filter_cons_of_pos (by simp [hidle])]
    show [componentOf s.toList] = _
    rw [componentOf, if_neg hparent, String.ofList_toList]

/-- A name, as a path, is that name. -/
theorem body_of_isName {name : String} (h : Component.IsName (.name name)) :
    body ⟨name⟩ = [.name name] :=
  body_of_isStep (c := .name name) (Or.inr h)

/-! ### Joining -/

/-- Whether a text starts at the root. -/
theorem isAbsolute_iff {p : Path} : p.isAbsolute = true ↔ ∃ rest, p.text.toList = '/' :: rest := by
  rw [isAbsolute, beq_iff_eq, List.head?_eq_some_iff]

theorem split_slash (rest : List Char) : split ('/' :: rest) = (some .root, pieces rest) := by
  rw [split, pieces_slash]
  have hne : (pieces rest).isEmpty = false := List.isEmpty_eq_false_iff.2 (pieces_ne_nil rest)
  simp [hne]

theorem front_of_isAbsolute {p : Path} (h : p.isAbsolute = true) : p.front = some .root := by
  obtain ⟨rest, hp⟩ := isAbsolute_iff.1 h
  rw [front, hp, split_slash]

/-- The text of a relative path behind another path. -/
theorem joinText_of_relative {a b : List Char} (hb : b.head? ≠ some '/') :
    joinText a b = if a = [] ∨ a.getLast? = some '/' then a ++ b else a ++ '/' :: b := by
  rw [joinText, if_neg hb]
  simp only [Bool.or_eq_true, List.isEmpty_iff, decide_eq_true_eq]

/-- Joining puts a relative path behind the steps of another. -/
theorem body_join {p q : Path} (hq : q.isAbsolute = false) :
    (p.join q).body = p.body ++ q.body := by
  have hhead : q.text.toList.head? ≠ some '/' := by
    intro h
    rw [isAbsolute, h] at hq
    cases hq
  rw [body, join, String.toList_ofList, joinText_of_relative hhead]
  split
  · next hend =>
    rcases hend with hempty | hlast
    · rw [body, hempty]
      rfl
    · -- the slash is there already
      obtain ⟨init, hinit⟩ := List.getLast?_eq_some_iff.1 hlast
      rw [body, hinit, List.append_assoc, List.singleton_append, pieces_append, pieces_append,
        bodyComponents_append, bodyComponents_append]
      show _ = _ ++ bodyComponents [[]] ++ _
      rw [bodyComponents_cons_of_idle rfl]
      simp [body, bodyComponents]
  · rw [pieces_append, bodyComponents_append]
    rfl

/-- Seen from the empty path, a path is itself. -/
theorem empty_join (q : Path) : join ⟨""⟩ q = q := by
  show Path.mk (String.ofList (joinText [] q.text.toList)) = q
  have htext : joinText [] q.text.toList = q.text.toList := by
    unfold joinText
    split <;> rfl
  rw [htext, String.ofList_toList]

theorem join_of_isAbsolute {p q : Path} (hq : q.isAbsolute = true) : p.join q = q := by
  obtain ⟨rest, hrest⟩ := isAbsolute_iff.1 hq
  rw [join, joinText, hrest, if_pos List.head?_cons, ← hrest, String.ofList_toList]

theorem isAbsolute_join {p : Path} (hp : p.isAbsolute = true) (q : Path) :
    (p.join q).isAbsolute = true := by
  obtain ⟨rest, hrest⟩ := isAbsolute_iff.1 hp
  rw [isAbsolute, join, String.toList_ofList, joinText, hrest]
  split
  · next hq => rw [hq]; rfl
  · split <;> rfl

/-- A slash and what follows it leave the front alone. -/
theorem split_append_fst {a : List Char} (ha : a ≠ []) (b : List Char) :
    (split (a ++ '/' :: b)).1 = (split a).1 := by
  rw [split, split, pieces_append]
  cases hp : pieces a with
  | nil => exact absurd hp (pieces_ne_nil a)
  | cons first rest =>
    rw [List.cons_append]
    dsimp only
    split
    · next hempty =>
      -- a text whose first piece is empty starts with a slash, so that more pieces follow
      have hrest : rest.isEmpty = false := by
        rw [List.isEmpty_eq_false_iff]
        rintro rfl
        apply ha
        rw [← intercalate_pieces a, hp, List.isEmpty_iff.1 hempty]
        rfl
      have hboth : (rest ++ pieces b).isEmpty = false := by
        rw [List.isEmpty_eq_false_iff] at hrest ⊢
        exact List.append_ne_nil_of_left_ne_nil hrest _
      rw [hrest, hboth]
      rfl
    · split <;> rfl

/-- The front of a joined path is that of the first, when there is a first. -/
theorem front_join {p q : Path} (hp : p.text.toList ≠ []) (hq : q.isAbsolute = false) :
    (p.join q).front = p.front := by
  have hhead : q.text.toList.head? ≠ some '/' := by
    intro h
    rw [isAbsolute, h] at hq
    cases hq
  rw [front, join, String.toList_ofList, joinText_of_relative hhead]
  split
  · next hend =>
    obtain ⟨init, hinit⟩ := List.getLast?_eq_some_iff.1 (hend.resolve_left hp)
    rw [front, hinit, List.append_assoc, List.singleton_append]
    cases init with
    | nil => rw [List.nil_append, List.nil_append, split_slash, split_slash]
    | cons c init =>
      rw [split_append_fst (List.cons_ne_nil c init), split_append_fst (List.cons_ne_nil c init)]
  · exact split_append_fst hp _

/-- The components of a relative path read from another. -/
theorem components_join {p q : Path} (hp : p.text.toList ≠ []) (hq : q.isAbsolute = false) :
    (p.join q).components = p.components ++ q.body := by
  rw [components_eq, front_join hp hq, body_join hq, components_eq, List.append_assoc]

theorem join_text_ne_nil {p q : Path} (hp : p.text.toList ≠ []) : (p.join q).text.toList ≠ [] := by
  rw [join, String.toList_ofList, joinText]
  split
  · next hq =>
    intro h
    rw [h] at hq
    cases hq
  · split
    · exact List.append_ne_nil_of_left_ne_nil hp _
    · exact List.append_ne_nil_of_left_ne_nil hp _

/-! ### Paths of steps -/

theorem isAbsolute_of_isStep {c : Component} (h : c.IsStep) : isAbsolute ⟨c.text⟩ = false := by
  rcases h with rfl | ⟨s, rfl, hslash, -⟩
  · decide +kernel
  · rw [← Bool.not_eq_true, isAbsolute_iff]
    rintro ⟨rest, hrest⟩
    apply hslash
    change s.toList = '/' :: rest at hrest
    rw [hrest]
    exact List.mem_cons_self

theorem isAbsolute_of_isName {name : String} (h : Component.IsName (.name name)) :
    isAbsolute ⟨name⟩ = false :=
  isAbsolute_of_isStep (c := .name name) (Or.inr h)

/-- Steps that are joined to a path follow its components. -/
theorem components_foldl_join {steps : List Component} (h : ∀ c ∈ steps, c.IsStep) {p : Path}
    (hp : p.text.toList ≠ []) :
    (steps.foldl (fun p c => p.join ⟨c.text⟩) p).components = p.components ++ steps := by
  induction steps generalizing p with
  | nil => exact (List.append_nil _).symm
  | cons c steps ih =>
    have hc : c.IsStep := h c List.mem_cons_self
    rw [List.foldl_cons, ih (fun d hd => h d (List.mem_cons_of_mem _ hd)) (join_text_ne_nil hp),
      components_join hp (isAbsolute_of_isStep hc), body_of_isStep hc, List.append_assoc]
    rfl

theorem body_foldl_join {steps : List Component} (h : ∀ c ∈ steps, c.IsStep) (p : Path) :
    (steps.foldl (fun p c => p.join ⟨c.text⟩) p).body = p.body ++ steps := by
  induction steps generalizing p with
  | nil => exact (List.append_nil _).symm
  | cons c steps ih =>
    have hc : c.IsStep := h c List.mem_cons_self
    rw [List.foldl_cons, ih fun d hd => h d (List.mem_cons_of_mem _ hd),
      body_join (isAbsolute_of_isStep hc), body_of_isStep hc, List.append_assoc]
    rfl

/-- The path of steps has these steps as its body. -/
theorem body_ofComponents {steps : List Component} (h : ∀ c ∈ steps, c.IsStep) :
    (ofComponents steps).body = steps := by
  rw [ofComponents, body_foldl_join h]
  show bodyComponents [[]] ++ steps = steps
  rw [bodyComponents_cons_of_idle rfl]
  rfl

/-- The path of the root and steps has these components. -/
theorem components_ofComponents {steps : List Component} (h : ∀ c ∈ steps, c.IsStep) :
    (ofComponents (.root :: steps)).components = .root :: steps := by
  have hroot : join ⟨""⟩ ⟨Component.root.text⟩ = ⟨"/"⟩ := empty_join _
  rw [ofComponents, List.foldl_cons, hroot, components_foldl_join h (by decide)]
  rfl

end Path

end Minipack
