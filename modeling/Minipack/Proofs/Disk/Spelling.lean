/-
Spellings of a path.

Two spellings of one path have the same front and, but for idle pieces, the same pieces
(`Path.same_iff`, `Path.busy_of_same`).  An idle piece leaves a walk where it is, though a walk may
fail there when it stands behind a file.  So two spellings that both lead somewhere lead to the same
place (`Disk.place_eq_of_same`).
-/
import Minipack.Proofs.Disk.Growth
import Minipack.Proofs.Path.Components

namespace Minipack

namespace Path

/-! ### Spellings -/

/-- The pieces of a text that leave a component. -/
def busy (pieces : List (List Char)) : List (List Char) :=
  pieces.filter fun piece => !isIdle piece

/-- A front is a slash, a dot or nothing. -/
theorem front_cases (p : Path) :
    p.front = none ∨ p.front = some .root ∨ p.front = some .current := by
  unfold front split
  cases pieces p.text.toList with
  | nil => exact Or.inl rfl
  | cons first rest =>
    dsimp only
    split
    · split
      · exact Or.inl rfl
      · exact Or.inr (Or.inl rfl)
    · split
      · exact Or.inr (Or.inr rfl)
      · exact Or.inl rfl

/-- Spellings of one path have the same front and the same body. -/
theorem same_iff {p q : Path} : p.Same q ↔ p.front = q.front ∧ p.body = q.body := by
  have hstep {r : Path} {c : Component} {rest : List Component} (h : c :: rest = r.body) :
      c ≠ .root ∧ c ≠ .current := by
    have hc : c.IsStep := isStep_of_mem_body (h ▸ List.mem_cons_self)
    rcases hc with rfl | ⟨s, rfl, -⟩
    · exact ⟨nofun, nofun⟩
    · exact ⟨nofun, nofun⟩
  constructor
  · intro h
    have heq : p.front.toList ++ p.body = q.front.toList ++ q.body := by
      rw [← components_eq, ← components_eq]
      exact h
    -- a step of the body is neither the root nor a dot, so the fronts do not mix
    rcases front_cases p with hp | hp | hp <;> rcases front_cases q with hq | hq | hq <;>
      rw [hp, hq] at heq ⊢
    · exact ⟨rfl, heq⟩
    · exact absurd rfl (hstep heq.symm).1
    · exact absurd rfl (hstep heq.symm).2
    · exact absurd rfl (hstep heq).1
    · exact ⟨rfl, (List.cons.inj heq).2⟩
    · cases (List.cons.inj heq).1
    · exact absurd rfl (hstep heq).2
    · cases (List.cons.inj heq).1
    · exact ⟨rfl, (List.cons.inj heq).2⟩
  · rintro ⟨hfront, hbody⟩
    show p.components = q.components
    rw [components_eq, components_eq, hfront, hbody]

/-- The component of a busy piece tells the piece. -/
theorem componentOf_inj {a b : List Char} (h : componentOf a = componentOf b) : a = b := by
  unfold componentOf at h
  split at h
  · next ha =>
    split at h
    · next hb => rw [ha, hb]
    · cases h
  · split at h
    · cases h
    · exact String.ofList_injective (Component.name.inj h)

theorem busy_of_same {p q : Path} (h : p.Same q) :
    busy (pieces p.text.toList) = busy (pieces q.text.toList) := by
  have hbody : (busy (pieces p.text.toList)).map componentOf =
      (busy (pieces q.text.toList)).map componentOf := (same_iff.1 h).2
  exact (List.map_inj_right fun _ _ => componentOf_inj).1 hbody

/-- A path with a slash at its front starts at the root. -/
theorem isAbsolute_of_front {p : Path} (h : p.front = some .root) : p.isAbsolute = true := by
  rw [isAbsolute_iff]
  unfold front split at h
  have htext := intercalate_pieces p.text.toList
  cases hp : pieces p.text.toList with
  | nil =>
    rw [hp] at h
    cases h
  | cons first rest =>
    rw [hp] at h htext
    dsimp only at h
    split at h
    · next hfirst =>
      split at h
      · cases h
      · next hrest =>
        obtain ⟨next, more, rfl⟩ :=
          List.exists_cons_of_ne_nil fun he => hrest (List.isEmpty_iff.2 he)
        rw [List.isEmpty_iff.1 hfirst, List.intercalate_cons_cons] at htext
        exact ⟨_, htext.symm⟩
    · split at h <;> cases h

theorem isAbsolute_of_same {p q : Path} (h : p.Same q) (hp : p.isAbsolute = true) :
    q.isAbsolute = true :=
  isAbsolute_of_front ((same_iff.1 h).1 ▸ front_of_isAbsolute hp)

end Path

namespace Disk

/-! ### Idle pieces -/

/-- The one list of pieces lacks some idle pieces of the other. -/
inductive Thinner : List (List Char) → List (List Char) → Prop
  | nil : Thinner [] []
  | keep {piece thin full} : Thinner thin full → Thinner (piece :: thin) (piece :: full)
  | drop {piece thin full} :
      Path.isIdle piece = true → Thinner thin full → Thinner thin (piece :: full)

theorem Thinner.append {thin full : List (List Char)} (h : Thinner thin full)
    (front : List (List Char)) : Thinner (front ++ thin) (front ++ full) := by
  induction front with
  | nil => exact h
  | cons piece front ih => exact .keep ih

theorem thinner_busy (pieces : List (List Char)) : Thinner (Path.busy pieces) pieces := by
  induction pieces with
  | nil => exact .nil
  | cons piece rest ih =>
    unfold Path.busy
    rw [List.filter_cons]
    split
    · exact .keep ih
    · next hidle => exact .drop (by simpa using hidle) ih

variable {disk : Disk}

/-- A walk that ends at something ends there without the idle pieces. -/
theorem walkWith_of_thinner {p : Place}
    {jump : Place → List (List Char) → Except DiskFault Spot}
    (hjump : ∀ place thin full, Thinner thin full → jump place full = .ok (.taken p) →
      jump place thin = .ok (.taken p))
    {place : Place} {thin full : List (List Char)} (h : Thinner thin full)
    (hw : disk.walkWith true jump place full = .ok (.taken p)) :
    disk.walkWith true jump place thin = .ok (.taken p) := by
  rw [endsAt_iff] at hw ⊢
  induction h generalizing place with
  | nil => exact hw
  | drop hidle _ ih =>
    -- no other step begins with an idle piece
    cases hw with
    | idle _ _ hw => exact ih hw
    | up => cases hidle
    | free _ hentry => exact absurd hidle (Bool.eq_false_iff.1 hentry.busy)
    | stay _ hentry => exact absurd hidle (Bool.eq_false_iff.1 hentry.busy)
    | link _ hentry => exact absurd hidle (Bool.eq_false_iff.1 hentry.busy)
    | name _ hentry => exact absurd hidle (Bool.eq_false_iff.1 hentry.busy)
  | keep hrest ih =>
    cases hw with
    | idle hfolder hidle hw => exact .idle hfolder hidle (ih hw)
    | up hfolder hw => exact .up hfolder (ih hw)
    | free _ _ _ _ hspot => cases hspot
    | stay _ _ _ _ hfollow => cases hfollow
    | link hfolder hentry hlink _ hj =>
      exact .link hfolder hentry hlink (Bool.and_false _) (hjump _ _ _ (hrest.append _) hj)
    | name hfolder hentry hstands hlink hw => exact .name hfolder hentry hstands hlink (ih hw)

theorem walk_of_thinner {links : Nat} {place p : Place} {thin full : List (List Char)}
    (h : Thinner thin full) (hw : disk.walk true links place full = .ok (.taken p)) :
    disk.walk true links place thin = .ok (.taken p) := by
  induction links generalizing place thin full with
  | zero => exact walkWith_of_thinner (fun _ _ _ _ hj => by cases hj) h hw
  | succ links ih =>
    have hjump : ∀ place thin full, Thinner thin full →
        disk.walk true links place full = .ok (.taken p) →
          disk.walk true links place thin = .ok (.taken p) := fun _ _ _ ht hj => ih ht hj
    exact walkWith_of_thinner hjump h hw

/-! ### Places -/

theorem startOf_of_same {p q : Path} (h : p.Same q) (place : Place) :
    startOf place p.text.toList = startOf place q.text.toList := by
  have habsolute : p.isAbsolute = q.isAbsolute :=
    Bool.eq_iff_iff.2 ⟨Path.isAbsolute_of_same h, Path.isAbsolute_of_same h.symm⟩
  unfold Path.isAbsolute at habsolute
  unfold startOf
  by_cases hq : q.text.toList.head? = some '/'
  · rw [hq, beq_self_eq_true, beq_iff_eq] at habsolute
    rw [if_pos hq, if_pos habsolute]
  · rw [if_neg hq, if_neg fun hp => ?_]
    rw [hp, beq_self_eq_true] at habsolute
    exact hq (beq_iff_eq.1 habsolute.symm)

/-- Two spellings of a path that both lead somewhere lead to the same place. -/
theorem place_eq_of_same {p q : Path} (h : p.Same q) {a b : Place}
    (hp : disk.find true p = .ok a) (hq : disk.find true q = .ok b) : a = b := by
  rw [find_eq_ok_iff, spot_eq_ok_iff] at hp hq
  have hp' := walk_of_thinner (thinner_busy _) hp.2.2.2
  have hq' := walk_of_thinner (thinner_busy _) hq.2.2.2
  rw [Path.busy_of_same h, startOf_of_same h, hq'] at hp'
  cases hp'
  rfl

/-- So they read the same. -/
theorem read_eq_of_same {p q : Path} (h : p.Same q) {x y : ByteArray}
    (hp : disk.read p = .ok x) (hq : disk.read q = .ok y) : x = y := by
  obtain ⟨a, ha, hx⟩ := read_eq_ok_iff.1 hp
  obtain ⟨b, hb, hy⟩ := read_eq_ok_iff.1 hq
  obtain rfl := place_eq_of_same h ha hb
  exact Entry.file.inj (Option.some.inj (hx.symm.trans hy))

end Disk

end Minipack
