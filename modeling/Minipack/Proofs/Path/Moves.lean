/-
Moving paths and swapping extensions.

What is left of a path below a folder are the steps behind those of the folder (`Path.strip?_spec`),
so a path that is moved to another folder keeps these steps.  Swapping the extension of a path
changes its last name alone: the stem stays and the new extension follows a dot, also where slashes
follow the name in the text of the path (`Path.components_withExtension`).
-/
import Minipack.Proofs.Path.Straight

namespace Minipack.Path

variable {p q base : Path}

/-! ### Steps below a folder -/

theorem bodyComponents_dropWhile (body : List (List Char)) :
    bodyComponents (body.dropWhile isIdle) = bodyComponents body := by
  induction body with
  | nil => rfl
  | cons piece rest ih =>
    cases hidle : isIdle piece with
    | true => rw [List.dropWhile_cons_of_pos hidle, ih, bodyComponents_cons_of_idle hidle]
    | false => rw [List.dropWhile_cons_of_neg (by simp [hidle])]

theorem bodyComponents_cons_of_busy {piece : List Char} (h : isIdle piece = false)
    (rest : List (List Char)) :
    bodyComponents (piece :: rest) = componentOf piece :: bodyComponents rest := by
  rw [bodyComponents, List.filter_cons_of_pos (by simp [h])]
  rfl

/-- Dropping pieces drops the components that they leave. -/
theorem bodyComponents_dropSteps (n : Nat) (body : List (List Char)) :
    bodyComponents (dropSteps n body) = (bodyComponents body).drop n := by
  induction body generalizing n with
  | nil => cases n <;> rfl
  | cons piece rest ih =>
    cases n with
    | zero => exact bodyComponents_dropWhile (piece :: rest)
    | succ n =>
      rw [dropSteps]
      cases hidle : isIdle piece with
      | true => rw [if_pos rfl, ih, bodyComponents_cons_of_idle hidle]
      | false =>
        rw [if_neg Bool.false_ne_true, ih, bodyComponents_cons_of_busy hidle, List.drop_succ_cons]

theorem dropSteps_suffix (n : Nat) (body : List (List Char)) : dropSteps n body <:+ body := by
  induction body generalizing n with
  | nil => cases n <;> exact List.suffix_rfl
  | cons piece rest ih =>
    cases n with
    | zero => exact List.dropWhile_suffix _
    | succ n =>
      rw [dropSteps]
      split
      · exact (ih (n + 1)).trans (List.suffix_cons piece rest)
      · exact (ih n).trans (List.suffix_cons piece rest)

/-- What is left begins with a piece that leaves a component. -/
theorem isIdle_head_dropSteps {n : Nat} {body rest : List (List Char)} {first : List Char}
    (h : dropSteps n body = first :: rest) : isIdle first = false := by
  induction body generalizing n with
  | nil => cases n <;> cases h
  | cons piece more ih =>
    cases n with
    | zero =>
      have hne : (piece :: more).dropWhile isIdle ≠ [] := by
        change (piece :: more).dropWhile isIdle = _ at h
        rw [h]
        exact List.cons_ne_nil _ _
      have hhead : isIdle (((piece :: more).dropWhile isIdle).head hne) = false :=
        List.head_dropWhile_not isIdle hne
      change (piece :: more).dropWhile isIdle = _ at h
      simpa only [h, List.head_cons] using hhead
    | succ n =>
      rw [dropSteps] at h
      split at h
      · exact ih h
      · exact ih h

/-- A path of steps alone has no front. -/
theorem body_of_forall_isStep (h : ∀ c ∈ p.components, c.IsStep) :
    p.isAbsolute = false ∧ p.body = p.components := by
  have hfront : p.front = none := by
    cases hf : p.front with
    | none => rfl
    | some c =>
      have hmem : c ∈ p.components := by
        rw [components_eq, hf]
        exact List.mem_cons_self
      rcases front_cases p with hc | hc | hc <;> rw [hf] at hc
      · cases hc
      all_goals
        obtain rfl := Option.some.inj hc
        rcases h _ hmem with hs | ⟨s, hs, -⟩ <;> cases hs
  refine ⟨Bool.eq_false_iff.2 fun ha => ?_, ?_⟩
  · rw [front_of_isAbsolute ha] at hfront
    cases hfront
  · rw [components_eq, hfront]
    rfl

/-- The body of a path holds its components but for the front. -/
theorem body_eq_filter (p : Path) :
    p.body = p.components.filter fun c => c != .root && c != .current := by
  have hbody : (p.body.filter fun c => c != .root && c != .current) = p.body := by
    refine List.filter_eq_self.2 fun c hc => ?_
    rcases isStep_of_mem_body hc with rfl | ⟨s, rfl, -⟩ <;> rfl
  rw [components_eq, List.filter_append, hbody]
  rcases front_cases p with hf | hf | hf <;> rw [hf] <;> rfl

/-- Steps behind a path are steps of its body. -/
theorem body_of_components {steps : List Component} (hsteps : ∀ c ∈ steps, c.IsStep)
    (h : p.components = base.components ++ steps) : p.body = base.body ++ steps := by
  rw [body_eq_filter, body_eq_filter, h, List.filter_append]
  refine congrArg (_ ++ ·) (List.filter_eq_self.2 fun c hc => ?_)
  rcases hsteps c hc with rfl | ⟨s, rfl, -⟩ <;> rfl

/-- The steps of two spellings of a path are the same. -/
theorem Same.body_eq (h : p.Same q) : p.body = q.body := by
  have hcomponents : p.components = q.components := h
  rw [body_eq_filter, body_eq_filter, hcomponents]

theorem components_ne_nil (h : p.isAbsolute = true) : p.components ≠ [] := by
  rw [components_of_isAbsolute h]
  exact List.cons_ne_nil _ _

/-- Dropping steps from the pieces of a path leaves a relative path of the other steps. -/
theorem unsplit_dropSteps (p : Path) (n : Nat) :
    (unsplit none (trimEnd (dropSteps n (split p.text.toList).2))).isAbsolute = false ∧
      (unsplit none (trimEnd (dropSteps n (split p.text.toList).2))).body = p.body.drop n := by
  have hsub : trimEnd (dropSteps n (split p.text.toList).2) <+:
      dropSteps n (split p.text.toList).2 := trimEnd_isPrefix _
  have hcomponents : (unsplit none (trimEnd (dropSteps n (split p.text.toList).2))).components =
      p.body.drop n := by
    rw [components_unsplit (Or.inl rfl), bodyComponents_trimEnd, bodyComponents_dropSteps,
      bodyComponents_split]
    · rfl
    · exact fun piece hpiece =>
        (split_spec p.text.toList).2.1 piece ((dropSteps_suffix _ _).subset (hsub.subset hpiece))
    · intro _ first rest hcons
      obtain ⟨tail, htail⟩ := hsub
      rw [hcons, List.cons_append] at htail
      have hidle : isIdle first = false := isIdle_head_dropSteps htail.symm
      simpa [isIdle] using hidle
  have hall : ∀ c ∈ p.body.drop n, c.IsStep :=
    fun c hc => isStep_of_mem_body (List.mem_of_mem_drop hc)
  obtain ⟨hrelative, hself⟩ := body_of_forall_isStep (hcomponents ▸ hall)
  exact ⟨hrelative, hself.trans hcomponents⟩

/-- A path is left with its steps behind those of a folder in front of it. -/
theorem exists_strip? (hb : base.components ≠ []) (h : base.components <+: p.components) :
    ∃ q, p.strip? base = some q ∧ q.isAbsolute = false ∧
      p.components = base.components ++ q.body := by
  obtain ⟨first, steps, hsteps⟩ := List.exists_cons_of_ne_nil hb
  obtain ⟨more, hmore⟩ := h
  have hcomponents := components_eq p
  unfold strip?
  dsimp only
  rw [if_pos (List.isPrefixOf_iff_prefix.2 ⟨more, hmore⟩), hsteps, List.length_cons]
  rw [hsteps, List.cons_append] at hmore
  -- the front, when there is one, is a step of the folder
  cases hfront : (split p.text.toList).1 with
  | none =>
    obtain ⟨hrelative, hbody⟩ := unsplit_dropSteps p (steps.length + 1)
    have hpath : p.components = p.body := by
      rw [hcomponents, front, hfront]
      rfl
    refine ⟨_, rfl, hrelative, ?_⟩
    rw [hbody, ← hpath, ← hmore, ← List.cons_append, ← List.length_cons (a := first),
      List.drop_left]
  | some c =>
    obtain ⟨hrelative, hbody⟩ := unsplit_dropSteps p steps.length
    have hpath : p.components = c :: p.body := by
      rw [hcomponents, front, hfront]
      rfl
    refine ⟨_, rfl, hrelative, ?_⟩
    rw [hpath] at hmore ⊢
    obtain ⟨rfl, hrest⟩ := List.cons.inj hmore
    rw [hbody, ← hrest, List.drop_left, List.cons_append]

/-- What is left of a path below a folder are its steps behind those of the folder. -/
theorem strip?_spec (hb : base.components ≠ []) (h : p.strip? base = some q) :
    q.isAbsolute = false ∧ p.components = base.components ++ q.body := by
  have hstart : base.components <+: p.components := by
    unfold strip? at h
    dsimp only at h
    split at h
    · next hstart => exact List.isPrefixOf_iff_prefix.1 hstart
    · cases h
  obtain ⟨left, hleft, hspec⟩ := exists_strip? hb hstart
  rw [h] at hleft
  obtain rfl := Option.some.inj hleft
  exact hspec

/-- Seen from an empty path, a relative path is left with all its steps. -/
theorem exists_strip?_of_nil (hb : base.components = []) (hp : p.isAbsolute = false) :
    ∃ q, p.strip? base = some q ∧ q.isAbsolute = false ∧ q.body = p.body := by
  obtain ⟨hfront, hslash, hfirst⟩ := split_spec p.text.toList
  have hsub := trimEnd_isPrefix (split p.text.toList).2
  have hsame : (unsplit (split p.text.toList).1 (trimEnd (split p.text.toList).2)).Same p := by
    show (unsplit (split p.text.toList).1 (trimEnd (split p.text.toList).2)).components = _
    rw [components_unsplit hfront (fun piece hpiece => hslash piece (hsub.subset hpiece)),
      bodyComponents_trimEnd]
    · rfl
    · intro hnone first rest hcons
      obtain ⟨tail, htail⟩ := hsub
      rw [hcons, List.cons_append] at htail
      exact hfirst hnone first (rest ++ tail) htail.symm
  have hstrip : p.strip? base =
      some (unsplit (split p.text.toList).1 (trimEnd (split p.text.toList).2)) := by
    unfold strip?
    rw [hb]
    rfl
  refine ⟨_, hstrip, ?_, hsame.body_eq⟩
  refine Bool.eq_false_iff.2 fun ha => ?_
  have hroot := Eq.trans hsame.symm (components_of_isAbsolute ha)
  rw [isAbsolute_of_components hroot] at hp
  cases hp

/-- What is left, when it has steps, begins and ends with a piece that leaves one. -/
theorem busy_ends_of_strip? (hp : p.isAbsolute = true) (hb : base.isAbsolute = true)
    (h : p.strip? base = some q) (hq : q.body ≠ []) :
    (∀ first ∈ (pieces q.text.toList).head?, isIdle first = false) ∧
      ∀ last ∈ (pieces q.text.toList).getLast?, isIdle last = false := by
  obtain ⟨rest, hrest⟩ := isAbsolute_iff.1 hp
  have hbase : base.components = .root :: base.body := components_of_isAbsolute hb
  unfold strip? at h
  dsimp only at h
  split at h
  · rw [hrest, split_slash, hbase, List.length_cons] at h
    dsimp only at h
    obtain rfl := Option.some.inj h
    -- the pieces that are left
    obtain ⟨left, hleft⟩ : ∃ left, left = trimEnd (dropSteps base.body.length (pieces rest)) :=
      ⟨_, rfl⟩
    have hsub : left <+: dropSteps base.body.length (pieces rest) := hleft ▸ trimEnd_isPrefix _
    have htext : (unsplit none left).text.toList = ['/'].intercalate left := String.toList_ofList
    rw [← hleft] at hq ⊢
    have hne : left ≠ [] := by
      rintro rfl
      exact hq rfl
    have hpieces : pieces (unsplit none left).text.toList = left := by
      rw [htext]
      refine List.splitOn_intercalate '/' (fun piece hpiece => ?_) hne
      exact not_mem_of_mem_pieces ((dropSteps_suffix _ _).subset (hsub.subset hpiece))
    rw [hpieces]
    constructor
    · intro first hfirst
      obtain ⟨more, hmore⟩ := List.head?_eq_some_iff.1 hfirst
      obtain ⟨tail, htail⟩ := hsub
      rw [hmore, List.cons_append] at htail
      exact isIdle_head_dropSteps htail.symm
    · intro last hlast
      obtain ⟨init, hinit⟩ := List.getLast?_eq_some_iff.1 hlast
      exact isIdle_getLast_trimEnd (hleft.symm.trans hinit)
  · cases h

/-- Where a path starts is not changed by what is put behind it. -/
theorem isAbsolute_join_of_relative (hq : q.isAbsolute = false) :
    (p.join q).isAbsolute = p.isAbsolute := by
  by_cases hempty : p.text.toList = []
  · obtain ⟨text⟩ := p
    obtain rfl : text = "" := String.toList_eq_nil_iff.1 hempty
    rw [empty_join, hq]
    rfl
  · have hfront := front_join hempty hq
    refine Bool.eq_iff_iff.2 ⟨fun ha => ?_, fun ha => isAbsolute_join ha q⟩
    rw [front_of_isAbsolute ha] at hfront
    exact isAbsolute_of_front hfront.symm

/-- A path that is put together from steps is relative. -/
theorem isAbsolute_ofComponents {steps : List Component} (h : ∀ c ∈ steps, c.IsStep) :
    (ofComponents steps).isAbsolute = false := by
  have hjoin : ∀ (steps : List Component) (p : Path), (∀ c ∈ steps, c.IsStep) →
      p.isAbsolute = false →
        (steps.foldl (fun p c => p.join ⟨c.text⟩) p).isAbsolute = false := by
    intro steps
    induction steps with
    | nil => exact fun p _ hp => hp
    | cons c rest ih =>
      intro p hsteps hp
      refine ih _ (fun d hd => hsteps d (List.mem_cons_of_mem _ hd)) ?_
      rw [isAbsolute_join_of_relative (isAbsolute_of_isStep (hsteps c List.mem_cons_self)), hp]
  exact hjoin steps ⟨""⟩ h rfl

/-! ### Extensions -/

/-- The last piece of a text and the first piece of what follows are one piece. -/
theorem exists_joint_piece (start rest : List Char) : ∃ init last first more,
    pieces start = init ++ [last] ∧ pieces rest = first :: more ∧
      pieces (start ++ rest) = init ++ (last ++ first) :: more := by
  obtain ⟨first, more, hrest⟩ := List.exists_cons_of_ne_nil (pieces_ne_nil rest)
  induction start with
  | nil => exact ⟨[], [], first, more, rfl, hrest, hrest⟩
  | cons c start ih =>
    obtain ⟨init, last, first, more, hstart, hrest, hwhole⟩ := ih
    by_cases hc : c = '/'
    · refine ⟨[] :: init, last, first, more, ?_, hrest, ?_⟩
      · rw [hc, pieces_slash, hstart, List.cons_append]
      · rw [hc, List.cons_append, pieces_slash, hwhole, List.cons_append]
    · rw [List.cons_append, pieces_cons_of_ne hc, pieces_cons_of_ne hc, hstart, hwhole]
      cases init with
      | nil => exact ⟨[], c :: last, first, more, rfl, hrest, rfl⟩
      | cons piece init => exact ⟨(c :: piece) :: init, last, first, more, rfl, hrest, rfl⟩

theorem isIdle_of_append {piece more : List Char} (h : isIdle (piece ++ more) = true) :
    isIdle piece = true := by
  cases piece with
  | nil => rfl
  | cons c piece =>
    have hdot : c :: (piece ++ more) = ['.'] := by simpa [isIdle] using h
    obtain ⟨rfl, hnil⟩ := List.cons.inj hdot
    obtain ⟨rfl, -⟩ := List.append_eq_nil_iff.1 hnil
    rfl

/-- What begins a text whose pieces are idle has idle pieces. -/
theorem isIdle_of_prefix {start rest : List Char}
    (hidle : ∀ piece ∈ pieces (start ++ rest), isIdle piece = true) :
    ∀ piece ∈ pieces start, isIdle piece = true := by
  obtain ⟨init, last, first, more, hstart, -, hwhole⟩ := exists_joint_piece start rest
  rw [hwhole] at hidle
  rw [hstart]
  intro piece hpiece
  rcases List.mem_append.1 hpiece with hpiece | hpiece
  · exact hidle piece (List.mem_append_left _ hpiece)
  · obtain rfl := List.mem_singleton.1 hpiece
    exact isIdle_of_append (hidle _ (List.mem_append_right _ List.mem_cons_self))

theorem bodyComponents_eq_nil_iff {body : List (List Char)} :
    bodyComponents body = [] ↔ ∀ piece ∈ body, isIdle piece = true := by
  rw [bodyComponents, List.map_eq_nil_iff, List.filter_eq_nil_iff]
  exact forall₂_congr fun piece _ => by simp

/-- A text stands around each of its pieces, and another piece may stand there instead. -/
theorem exists_around {text : List Char} {before after : List (List Char)} {piece : List Char}
    (h : pieces text = before ++ piece :: after) :
    ∃ start rest, text = start ++ (piece ++ rest) ∧ (rest = [] ∨ ∃ more, rest = '/' :: more) ∧
      (pieces rest).tail = after ∧
      ∀ other rest', '/' ∉ other → (rest' = [] ∨ ∃ more, rest' = '/' :: more) →
        pieces (start ++ (other ++ rest')) = before ++ other :: (pieces rest').tail := by
  have hpiece : '/' ∉ piece :=
    not_mem_of_mem_pieces (h ▸ List.mem_append_right _ List.mem_cons_self)
  have hother {other rest' : List Char} (ho : '/' ∉ other)
      (hr : rest' = [] ∨ ∃ more, rest' = '/' :: more) :
      pieces (other ++ rest') = other :: (pieces rest').tail := by
    rcases hr with rfl | ⟨more, rfl⟩
    · rw [List.append_nil, pieces_of_not_mem ho]
      rfl
    · rw [pieces_append, pieces_of_not_mem ho, pieces_slash]
      rfl
  -- the induction is on the pieces before, each of which takes its slash with it
  induction before generalizing text with
  | nil =>
    cases after with
    | nil =>
      have htext : text = piece := by
        rw [← intercalate_pieces text, h, List.nil_append, List.intercalate_singleton]
      exact ⟨[], [], by simp [htext], Or.inl rfl, rfl, fun _ _ => hother⟩
    | cons next after =>
      have htext : text = piece ++ '/' :: ['/'].intercalate (next :: after) := by
        rw [← intercalate_pieces text, h, List.nil_append, List.intercalate_cons_cons]
        simp
      have hafter : pieces (['/'].intercalate (next :: after)) = next :: after := by
        refine List.splitOn_intercalate '/' (fun p hp => ?_) (List.cons_ne_nil _ _)
        exact not_mem_of_mem_pieces (h ▸ List.mem_append_right _ (List.mem_cons_of_mem _ hp))
      refine ⟨[], _, htext, Or.inr ⟨_, rfl⟩, ?_, fun _ _ => hother⟩
      rw [pieces_slash, List.tail_cons, hafter]
  | cons first before ih =>
    have htext : text = first ++ '/' :: ['/'].intercalate (before ++ piece :: after) := by
      cases hcons : before ++ piece :: after with
      | nil => exact absurd hcons (by simp)
      | cons next more =>
        rw [← intercalate_pieces text, h, List.cons_append, hcons, List.intercalate_cons_cons]
        simp
    have hmem : ∀ p ∈ first :: (before ++ piece :: after), '/' ∉ p := by
      intro p hp
      rw [← List.cons_append, ← h] at hp
      exact not_mem_of_mem_pieces hp
    have hfirst : '/' ∉ first := hmem first List.mem_cons_self
    have hrest : pieces (['/'].intercalate (before ++ piece :: after)) =
        before ++ piece :: after :=
      List.splitOn_intercalate '/' (fun p hp => hmem p (List.mem_cons_of_mem _ hp)) (by simp)
    obtain ⟨start, rest, hstart, hslash, hafter, hpieces⟩ := ih hrest
    refine ⟨first ++ '/' :: start, rest, ?_, hslash, hafter, fun other rest' ho hr => ?_⟩
    · rw [htext, hstart, List.append_assoc]
      rfl
    · rw [List.append_assoc, List.cons_append, pieces_append, pieces_of_not_mem hfirst,
        hpieces other rest' ho hr]
      rfl

/-- A name with an extension is its stem, a dot and the extension. -/
theorem splitName_of_some {name ext : List Char} (h : (splitName name).2 = some ext) :
    (splitName name).1 ≠ [] ∧ '.' ∉ ext ∧ name = (splitName name).1 ++ '.' :: ext := by
  have hall : ∀ c ∈ name.reverse.takeWhile (· != '.'), (c != '.') = true := fun c hc =>
    List.all_eq_true.1 List.all_takeWhile c hc
  obtain ⟨after, hafter⟩ : ∃ after, name.reverse.takeWhile (· != '.') = after := ⟨_, rfl⟩
  unfold splitName at h ⊢
  dsimp only at h ⊢
  rw [hafter] at h ⊢ hall
  split at h
  · cases h
  · next hbefore =>
    obtain rfl := Option.some.inj h
    rw [if_neg hbefore]
    dsimp only
    have hne : name.take (name.length - after.reverse.length - 1) ≠ [] :=
      fun he => hbefore (List.isEmpty_iff.2 he)
    refine ⟨hne, fun hm => ?_, ?_⟩
    · have hdot := hall _ (List.mem_reverse.1 hm)
      simp at hdot
    · have hsplit : after ++ name.reverse.dropWhile (· != '.') = name.reverse :=
        hafter ▸ List.takeWhile_append_dropWhile
      cases hdrop : name.reverse.dropWhile (· != '.') with
      | nil =>
        -- a name without a dot has nothing before it
        rw [hdrop, List.append_nil] at hsplit
        exfalso
        apply hne
        rw [hsplit, List.reverse_reverse, Nat.sub_self]
        rfl
      | cons c stem =>
        have hhead : (c != '.') = false := by
          have hne' : name.reverse.dropWhile (· != '.') ≠ [] := by
            rw [hdrop]
            exact List.cons_ne_nil _ _
          have hnot := List.head_dropWhile_not (· != '.') hne'
          simpa only [hdrop, List.head_cons] using hnot
        obtain rfl : c = '.' := by simpa using hhead
        have hname : name = stem.reverse ++ '.' :: after.reverse := by
          rw [hdrop] at hsplit
          rw [← List.reverse_reverse name, ← hsplit, List.reverse_append, List.reverse_cons,
            List.append_assoc]
          rfl
        have hlength : name.length - after.reverse.length - 1 = stem.reverse.length := by
          rw [hname, List.length_append, List.length_cons]
          omega
        rw [hlength]
        conv => rhs; rw [hname]
        rw [List.take_left, ← hname]

/-- Cutting a text off behind a stem leaves the stem and its dot. -/
theorem exists_take (stem old : List Char) {rest : List Char}
    (hrest : rest = [] ∨ ∃ more, rest = '/' :: more) :
    ∃ kept left,
      (stem ++ '.' :: old ++ rest).take ((stem ++ '.' :: old ++ rest).length - old.length) =
        stem ++ '.' :: kept ++ left ∧
      kept <+: old ∧ left <+: rest ∧ (left = [] ∨ ∃ more, left = '/' :: more) := by
  have hlength : (stem ++ '.' :: old ++ rest).length - old.length =
      stem.length + 1 + rest.length := by
    simp only [List.length_append, List.length_cons]
    omega
  have htake : (stem ++ '.' :: old ++ rest).take (stem.length + 1 + rest.length) =
      stem ++ '.' :: ((old ++ rest).take rest.length) := by
    have hcons : stem ++ '.' :: old ++ rest = (stem ++ ['.']) ++ (old ++ rest) := by simp
    have hstem : stem.length + 1 = (stem ++ ['.']).length := by simp
    rw [hcons, hstem, List.take_length_add_append, List.append_assoc]
    rfl
  rw [hlength, htake, List.take_append]
  refine ⟨old.take rest.length, rest.take (rest.length - old.length), by simp, List.take_prefix _ _,
    List.take_prefix _ _, ?_⟩
  rcases hrest with rfl | ⟨more, rfl⟩
  · exact Or.inl List.take_nil
  · cases ('/' :: more).length - old.length with
    | zero => exact Or.inl rfl
    | succ n => exact Or.inr ⟨more.take n, rfl⟩

/-- A stem that goes on after a dot leaves a step. -/
theorem isIdle_of_stem {stem : List Char} (hstem : stem ≠ []) (rest : List Char) :
    isIdle (stem ++ '.' :: rest) = false := by
  simp [isIdle, List.append_eq_cons_iff, hstem]

/-- It is a name, unless it is two dots. -/
theorem isName_of_stem {stem rest : List Char} (hstem : stem ≠ [])
    (hdots : stem ++ '.' :: rest ≠ ['.', '.']) (hslash : '/' ∉ stem ++ '.' :: rest) :
    Component.IsName (.name (String.ofList (stem ++ '.' :: rest))) := by
  refine Component.isName_name.2 ⟨?_, ?_, ?_, ?_⟩ <;> rw [String.toList_ofList]
  · exact hslash
  · simp
  · simp [List.append_eq_cons_iff, hstem]
  · exact hdots

/-- Two dots are a dot and nothing behind it. -/
theorem append_eq_dots_iff {stem rest : List Char} (hstem : stem ≠ []) :
    stem ++ '.' :: rest = ['.', '.'] ↔ stem = ['.'] ∧ rest = [] := by
  constructor
  · intro h
    rcases List.append_eq_cons_iff.1 h with ⟨rfl, -⟩ | ⟨stem', rfl, hrest⟩
    · exact absurd rfl hstem
    · rcases List.append_eq_cons_iff.1 hrest.symm with ⟨rfl, hnil⟩ | ⟨_, rfl, hnil⟩
      · exact ⟨rfl, (List.cons.inj hnil).2⟩
      · exact absurd hnil (by simp)
  · rintro ⟨rfl, rfl⟩
    rfl

/-- A name at the end of an absolute path stands in its text with nothing behind it that leaves a
step, and another piece may stand there instead. -/
theorem exists_around_name (h : p.isAbsolute = true) {init : List Component} {name : String}
    (hc : p.components = init ++ [.name name]) :
    ∃ start after, p.text.toList = '/' :: start ++ name.toList ++ after ∧
      (after = [] ∨ ∃ more, after = '/' :: more) ∧
      ∀ (other left : List Char), '/' ∉ other → isIdle other = false → left <+: after →
        (left = [] ∨ ∃ more, left = '/' :: more) →
          components ⟨String.ofList ('/' :: start ++ other ++ left)⟩ =
            init ++ [componentOf other] := by
  obtain ⟨rest, hrest⟩ := isAbsolute_iff.1 h
  obtain ⟨steps, hsteps, hinit⟩ := exists_steps hc
  rw [hrest, split_slash] at hsteps hinit
  -- the pieces behind the last name are idle
  obtain ⟨idles, hidles⟩ := trimEnd_isPrefix (pieces rest)
  have hidle : ∀ piece ∈ idles, isIdle piece = true := by
    have hsame := bodyComponents_trimEnd (pieces rest)
    rw [← hidles, bodyComponents_append, hidles] at hsame
    exact bodyComponents_eq_nil_iff.1 (List.self_eq_append_right.1 hsame)
  rw [hsteps, List.append_assoc] at hidles
  obtain ⟨start, after, hstart, hafter, htail, hpieces⟩ := exists_around hidles.symm
  have hafter' : ∀ piece ∈ pieces after, isIdle piece = true := by
    rcases hafter with rfl | ⟨more, rfl⟩
    · intro piece hp
      rw [List.mem_singleton.1 hp]
      rfl
    · rw [pieces_slash, List.tail_cons] at htail
      rw [pieces_slash, htail]
      exact List.forall_mem_cons.2 ⟨rfl, hidle⟩
  refine ⟨start, after, ?_, hafter, ?_⟩
  · rw [hrest, hstart, List.cons_append, List.cons_append, List.append_assoc]
  · rintro other left hslash hbusy ⟨left', rfl⟩ hleft
    have hnothing : bodyComponents (pieces left).tail = [] :=
      bodyComponents_eq_nil_iff.2 fun piece hpiece =>
        isIdle_of_prefix hafter' piece (List.mem_of_mem_tail hpiece)
    have habsolute : isAbsolute ⟨String.ofList ('/' :: start ++ other ++ left)⟩ = true :=
      isAbsolute_iff.2 ⟨_, String.toList_ofList⟩
    rw [components_of_isAbsolute habsolute, body, String.toList_ofList, List.cons_append,
      List.cons_append, List.append_assoc, pieces_slash, hpieces other left hslash hleft,
      bodyComponents_cons_of_idle rfl, bodyComponents_append, bodyComponents_cons_of_busy hbusy,
      hnothing, ← List.cons_append]
    exact congrArg (· ++ _) hinit

/-- Cutting the extension off a name with one leaves its stem, the dot and a part of the extension:
the cut is as long as the extension, and slashes behind the name are cut first. -/
theorem exists_components_cut (h : p.isAbsolute = true) {init : List Component} {name : String}
    (hc : p.components = init ++ [.name name]) {stem old : List Char} (hstem : stem ≠ [])
    (hslash : '/' ∉ name.toList) (hname : name.toList = stem ++ '.' :: old) :
    ∃ kept, kept <+: old ∧
      components ⟨String.ofList (p.text.toList.take (p.text.length - old.length))⟩ =
        init ++ [componentOf (stem ++ '.' :: kept)] := by
  obtain ⟨start, after, htext, hafter, haround⟩ := exists_around_name h hc
  obtain ⟨kept, left, htake, hkept, hprefix, hleft⟩ := exists_take ('/' :: start ++ stem) old hafter
  have hwhole : p.text.toList = '/' :: start ++ stem ++ '.' :: old ++ after := by
    rw [htext, hname]
    simp
  have hcut : p.text.toList.take (p.text.length - old.length) =
      '/' :: start ++ (stem ++ '.' :: kept) ++ left := by
    rw [← String.length_toList, hwhole, htake]
    simp
  have hclean : '/' ∉ stem ++ '.' :: kept := by
    rw [hname] at hslash
    simp only [List.mem_append, List.mem_cons, not_or] at hslash ⊢
    exact ⟨hslash.1, hslash.2.1, fun hm => hslash.2.2 (hkept.subset hm)⟩
  refine ⟨kept, hkept, ?_⟩
  rw [hcut]
  exact haround _ _ hclean (isIdle_of_stem hstem kept) hprefix hleft

/-- Swapping the extension changes the last name alone, unless its stem is a dot: then a `..` step
may stay behind when the extension is cut off. -/
theorem components_withExtension (h : p.isAbsolute = true) {init : List Component}
    {name ext : String} (hc : p.components = init ++ [.name name]) (hslash : '/' ∉ ext.toList)
    (hne : ext.isEmpty = false) :
    (p.withExtension ext).components =
        init ++ [.name (String.ofList (splitName name.toList).1 ++ "." ++ ext)] ∨
      (splitName name.toList).1 = ['.'] ∧
        (p.withExtension ext).components = init ++ [.parent] := by
  have hfile : p.fileName? = some name := fileName?_of_components hc
  cases hext : p.extension? with
  | none =>
    left
    have hnone : (splitName name.toList).2 = none := by
      rw [extension?, hfile] at hext
      exact Option.map_eq_none_iff.1 hext
    rw [splitName_of_none hnone, String.ofList_toList]
    exact components_withExtension_of_none hc hext hslash hne
  | some old =>
    obtain ⟨s, hs, hclean, -, -⟩ := isName_of_fileName? hfile
    obtain rfl := Component.name.inj hs
    obtain ⟨ext', hext', rfl⟩ : ∃ ext', (splitName name.toList).2 = some ext' ∧
        String.ofList ext' = old := by
      rw [extension?, hfile] at hext
      exact Option.map_eq_some_iff.1 hext
    obtain ⟨hstem, hdot, hname⟩ := splitName_of_some hext'
    generalize (splitName name.toList).1 = stem at hstem hname ⊢
    -- the old extension is cut off first, and the new one is put behind the stem
    obtain ⟨kept, hkept, hcut⟩ := exists_components_cut h hc hstem hclean hname
    have hswap : p.withExtension ext = replaceExtension
        ⟨String.ofList (p.text.toList.take (p.text.length - ext'.length))⟩ ext := by
      rw [withExtension, hext]
      dsimp only
      rw [← String.length_toList (s := String.ofList ext'), String.toList_ofList]
    rw [hswap]
    have hstem' : '/' ∉ stem := fun hm => hclean (hname ▸ List.mem_append_left _ hm)
    by_cases hdots : stem ++ '.' :: kept = ['.', '.']
    · -- what is left of a name of dots has no name to swap
      rw [hdots, componentOf, if_pos rfl] at hcut
      refine Or.inr ⟨((append_eq_dots_iff hstem).1 hdots).1, ?_⟩
      rw [replaceExtension, fileName?, hcut, List.getLast?_concat]
      exact hcut
    · left
      rw [componentOf, if_neg hdots] at hcut
      have htext :
          String.ofList stem ++ "." ++ ext = String.ofList (stem ++ '.' :: ext.toList) := by
        rw [String.ofList_append, String.append_assoc, ← List.singleton_append,
          String.ofList_append, String.ofList_toList]
      refine components_replaceExtension hcut ?_ ?_
      · rw [htext, String.toList_ofList, String.toList_ofList,
          splitName_append hstem fun hm => hdot (hkept.subset hm), hne]
        rfl
      · rw [htext]
        refine isName_of_stem hstem (fun he => ?_) (by simp [hstem', hslash])
        rw [String.toList_eq_nil_iff.1 ((append_eq_dots_iff hstem).1 he).2] at hne
        cases hne

/-- A path that does not end in a name has no extension to swap. -/
theorem withExtension_of_fileName? (h : p.fileName? = none) (ext : String) :
    p.withExtension ext = p := by
  have hnone : p.extension? = none := by
    rw [extension?, h]
    rfl
  rw [withExtension, hnone]
  dsimp only
  rw [replaceExtension, h]

theorem isAbsolute_withExtension (h : p.isAbsolute = true) {ext : String}
    (hslash : '/' ∉ ext.toList) (hne : ext.isEmpty = false) :
    (p.withExtension ext).isAbsolute = true := by
  cases hfile : p.fileName? with
  | none => rwa [withExtension_of_fileName? hfile]
  | some name =>
    obtain ⟨init, hinit⟩ := exists_components_of_fileName? hfile
    have hswap := components_withExtension h hinit hslash hne
    -- the root stands before the last name
    rw [components_of_isAbsolute h] at hinit
    cases init with
    | nil => cases (List.cons.inj hinit).1
    | cons first init =>
      rw [← (List.cons.inj hinit).1] at hswap
      rcases hswap with hswap | ⟨-, hswap⟩ <;> exact isAbsolute_of_components hswap

/-- A path with another extension that ends in a name had another name there. -/
theorem exists_components_of_withExtension (h : p.isAbsolute = true) {name ext : String}
    (hslash : '/' ∉ ext.toList) (hne : ext.isEmpty = false)
    (hname : (p.withExtension ext).fileName? = some name) :
    ∃ init last, p.components = init ++ [.name last] ∧
      (p.withExtension ext).components = init ++ [.name name] := by
  cases hfile : p.fileName? with
  | none =>
    rw [withExtension_of_fileName? hfile, hfile] at hname
    cases hname
  | some last =>
    obtain ⟨init, hinit⟩ := exists_components_of_fileName? hfile
    refine ⟨init, last, hinit, ?_⟩
    rcases components_withExtension h hinit hslash hne with hswap | ⟨-, hswap⟩ <;>
      rw [fileName?_eq_some_iff, hswap, List.getLast?_concat] at hname
    · rw [hswap, Option.some.inj hname]
    · cases hname

end Minipack.Path
