/-
Reading back a specifier.

Normalising runs through the components with a stack, so it can be done in parts
(`Path.cancel_append`), and the normal form of a joined path is reached from the components of the
first path (`Path.normalComponents_join`).  The normal form of an absolute path is the root followed
by names (`Path.normalComponents_of_isAbsolute`).

The way from a folder to a target climbs out of what the two do not share and then goes down to the
target.  Reading it from the folder undoes the climbing and gives the normal path of the target:
`Path.joinSpecifier_relativeSpecifier`.
-/
import Minipack.Path.Specifier
import Minipack.Proofs.Path.Components

namespace Minipack.Path

/-! ### Normal forms -/

theorem cancel_append (done a b : List Component) :
    cancel done (a ++ b) = cancel (cancel done a) b := by
  fun_induction cancel done a with
  | case1 done => rfl
  | case2 done rest ih => rw [List.cons_append, cancel, ih]
  | case3 done s rest ih => rw [List.cons_append, cancel, ih]
  | case4 rest ih => rw [List.cons_append, cancel, ih]
  | case5 done c rest hcurrent hname hroot ih =>
    rw [List.cons_append, cancel, ih]
    · exact hcurrent
    · exact hname
    · exact hroot

/-- Names go onto the stack. -/
theorem cancel_names {names : List Component} (h : ∀ c ∈ names, c.IsName)
    (done : List Component) : cancel done names = names.reverse ++ done := by
  induction names generalizing done with
  | nil => rfl
  | cons c names ih =>
    obtain ⟨s, rfl, -⟩ := h c List.mem_cons_self
    rw [cancel, ih fun d hd => h d (List.mem_cons_of_mem _ hd), List.reverse_cons,
      List.append_assoc]
    rfl
    all_goals simp

/-- As many parent steps take names off the stack. -/
theorem cancel_parents {names : List Component} (h : ∀ c ∈ names, c.IsName)
    (done : List Component) :
    cancel (names ++ done) (names.map fun _ => .parent) = done := by
  induction names with
  | nil => rfl
  | cons c names ih =>
    obtain ⟨s, rfl, -⟩ := h c List.mem_cons_self
    rw [List.map_cons, List.cons_append, cancel]
    exact ih fun d hd => h d (List.mem_cons_of_mem _ hd)

/-- Steps behind the root leave names behind the root. -/
theorem exists_cancel_root {steps names : List Component} (hs : ∀ c ∈ steps, c.IsStep)
    (hn : ∀ c ∈ names, c.IsName) :
    ∃ left, (∀ c ∈ left, c.IsName) ∧ cancel (names ++ [.root]) steps = left ++ [.root] := by
  induction steps generalizing names with
  | nil => exact ⟨names, hn, rfl⟩
  | cons c steps ih =>
    have hrest : ∀ d ∈ steps, d.IsStep := fun d hd => hs d (List.mem_cons_of_mem _ hd)
    rcases hs c List.mem_cons_self with rfl | hc
    · cases names with
      -- above the root is the root
      | nil =>
        rw [List.nil_append, cancel]
        exact ih hrest hn
      | cons d names =>
        obtain ⟨s, rfl, -⟩ := hn d List.mem_cons_self
        rw [List.cons_append, cancel]
        exact ih hrest fun d hd => hn d (List.mem_cons_of_mem _ hd)
    · have hname := hc
      obtain ⟨s, rfl, -⟩ := hname
      have hpush : cancel (names ++ [.root]) (.name s :: steps) =
          cancel ((.name s :: names) ++ [.root]) steps := by
        rw [cancel, List.cons_append]
        all_goals simp
      rw [hpush]
      refine ih hrest fun d hd => ?_
      rcases List.mem_cons.1 hd with rfl | hd
      · exact hc
      · exact hn d hd

/-- The normal form of an absolute path. -/
theorem normalComponents_of_isAbsolute {p : Path} (h : p.isAbsolute = true) :
    ∃ names, (∀ c ∈ names, c.IsName) ∧ p.normalComponents = .root :: names := by
  have hbody : ∀ c ∈ p.body, c.IsStep := fun c hc => isStep_of_mem_body hc
  have hnone : ∀ c ∈ ([] : List Component), c.IsName := fun c hc => nomatch hc
  obtain ⟨left, hleft, hcancel⟩ := exists_cancel_root hbody hnone
  refine ⟨left.reverse, fun c hc => hleft c (List.mem_reverse.1 hc), ?_⟩
  rw [normalComponents, components_eq, front_of_isAbsolute h, Option.toList_some,
    List.singleton_append, cancel]
  · change (cancel ([] ++ [Component.root]) p.body).reverse = _
    rw [hcancel, List.reverse_append]
    rfl
  all_goals simp

/-- The normal form of a joined path is reached from the components of the first path. -/
theorem normalComponents_join {p q : Path} (hp : p.text.toList ≠ []) (hq : q.isAbsolute = false) :
    (p.join q).normalComponents = (cancel p.normalComponents.reverse q.body).reverse := by
  rw [normalComponents, normalComponents, components_join hp hq, cancel_append,
    List.reverse_reverse]

/-! ### The way to a target -/

theorem dropShared_eq (a b : List Component) :
    ∃ shared, a = shared ++ (dropShared a b).1 ∧ b = shared ++ (dropShared a b).2 := by
  fun_induction dropShared a b with
  | case1 as c bs ih =>
    obtain ⟨shared, ha, hb⟩ := ih
    exact ⟨c :: shared, congrArg (c :: ·) ha, congrArg (c :: ·) hb⟩
  | case2 a as b bs hne => exact ⟨[], rfl, rfl⟩
  | case3 as bs hne => exact ⟨[], rfl, rfl⟩

theorem root_join_of_isAbsolute {p : Path} (h : p.isAbsolute = true) : join ⟨"/"⟩ p = p :=
  join_of_isAbsolute h

/-- The way from a folder to a target climbs over names and goes down over names, and leads from the
normal form of the one to that of the other. -/
theorem relativeTo_of_isAbsolute {base target : Path} (hb : base.isAbsolute = true)
    (ht : target.isAbsolute = true) :
    ∃ shared up down, (∀ c ∈ up, c.IsName) ∧ (∀ c ∈ down, c.IsName) ∧
      base.normalComponents = shared ++ up ∧ target.normalComponents = shared ++ down ∧
      target.relativeTo base = ofComponents (up.map (fun _ => .parent) ++ down) := by
  obtain ⟨names, hnames, hbase⟩ := normalComponents_of_isAbsolute hb
  obtain ⟨names', hnames', htarget⟩ := normalComponents_of_isAbsolute ht
  obtain ⟨shared, hs, hs'⟩ := dropShared_eq names' names
  refine ⟨.root :: shared, (dropShared names' names).2, (dropShared names' names).1, ?_, ?_, ?_, ?_,
    ?_⟩
  · intro c hc
    refine hnames c ?_
    rw [hs']
    exact List.mem_append_right _ hc
  · intro c hc
    refine hnames' c ?_
    rw [hs]
    exact List.mem_append_right _ hc
  · rw [hbase, List.cons_append, ← hs']
  · rw [htarget, List.cons_append, ← hs]
  · simp only [relativeTo, root_join_of_isAbsolute ht, root_join_of_isAbsolute hb, htarget, hbase,
      dropShared, if_true]

/-- A specifier starts with a dot, and its steps are those of the way to the target. -/
theorem relativeSpecifier_spec (base target : Path) :
    ∃ rest, (base.relativeSpecifier target).toList = '.' :: rest ∧
      body ⟨base.relativeSpecifier target⟩ = (target.relativeTo base).body := by
  unfold relativeSpecifier
  generalize target.relativeTo base = way
  obtain ⟨way⟩ := way
  dsimp only
  split
  · next hclimb =>
    refine ⟨way.toList.tail, ?_, rfl⟩
    rcases Bool.or_eq_true_iff.1 hclimb with h | h
    · obtain ⟨rest, hrest⟩ := List.isPrefixOf_iff_prefix.1 h
      rw [← hrest]
      rfl
    · rw [of_decide_eq_true h]
      rfl
  · refine ⟨'/' :: way.toList, ?_, ?_⟩
    · rw [String.toList_append]
      rfl
    · rw [body, body, String.toList_append]
      change bodyComponents (pieces (['.'] ++ '/' :: way.toList)) = _
      rw [pieces_append, bodyComponents_append]
      rfl

/-- A specifier that is written for a folder and read from it names the normal path of the target.
-/
theorem joinSpecifier_relativeSpecifier {base target : Path} (hb : base.isAbsolute = true)
    (ht : target.isAbsolute = true) :
    base.joinSpecifier (base.relativeSpecifier target) = target.normalize := by
  obtain ⟨shared, up, down, hup, hdown, hbase, htarget, hway⟩ := relativeTo_of_isAbsolute hb ht
  obtain ⟨rest, hdot, hbody⟩ := relativeSpecifier_spec base target
  have hsteps : ∀ c ∈ up.map (fun _ => Component.parent) ++ down, c.IsStep := by
    intro c hc
    rcases List.mem_append.1 hc with hc | hc
    · obtain ⟨-, -, rfl⟩ := List.mem_map.1 hc
      exact Or.inl rfl
    · exact Or.inr (hdown c hc)
  have hrelative : isAbsolute ⟨base.relativeSpecifier target⟩ = false := by
    rw [isAbsolute, hdot]
    rfl
  have hnonempty : base.text.toList ≠ [] := by
    obtain ⟨rest, hrest⟩ := isAbsolute_iff.1 hb
    rw [hrest]
    exact List.cons_ne_nil _ _
  -- climbing takes off what is not shared, and going down puts the rest of the target on
  have hnormal : (base.join ⟨base.relativeSpecifier target⟩).normalComponents =
      target.normalComponents := by
    rw [normalComponents_join hnonempty hrelative, hbody, hway, body_ofComponents hsteps,
      cancel_append, hbase, List.reverse_append]
    have hpop : cancel (up.reverse ++ shared.reverse) (up.map fun _ => .parent) =
        shared.reverse := by
      have hmap : up.map (fun _ => Component.parent) = up.reverse.map fun _ => .parent := by
        rw [List.map_reverse, List.map_const', List.reverse_replicate]
      rw [hmap]
      exact cancel_parents (fun c hc => hup c (List.mem_reverse.1 hc)) _
    rw [hpop, cancel_names hdown, List.reverse_append, List.reverse_reverse, List.reverse_reverse,
      htarget]
  have hdrop : (base.relativeSpecifier target).toList.dropWhile isSlash =
      (base.relativeSpecifier target).toList := by
    rw [hdot]
    rfl
  rw [joinSpecifier, hdrop, String.ofList_toList, normalize, normalize, hnormal]

end Minipack.Path
