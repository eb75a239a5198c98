/-
Lookups in lists that are kept in the order of a key.

`Keyed.find?` walks past the smaller keys and stops at the first key that is not smaller, and
`Keyed.insert` puts its thing exactly where that walk stops.  So a lookup after an insertion is
answered without knowing that the list is sorted (`find?_insert_self`, `find?_insert_of_ne`).  That
the list is sorted matters for what the list holds: a thing is found under its key exactly when it
is a member (`Sorted.find?_eq_some_iff`), and erasing a key leaves nothing with that key
(`Sorted.find?_erase_self`).
-/
import Minipack.Keyed

namespace Minipack.Keyed

open Std

variable {α κ : Type} [Ord κ] [TransOrd κ] {key : α → κ}

/-- The keys are strictly increasing. -/
def Sorted (key : α → κ) (l : List α) : Prop :=
  l.Pairwise fun a b => compare (key a) (key b) = .lt

/-! ### Looking up -/

omit [TransOrd κ] in
/-- What is found has the key. -/
theorem compare_of_find? {k : κ} {a : α} {l : List α} (h : find? key k l = some a) :
    compare k (key a) = .eq := by
  induction l with
  | nil => simp [find?] at h
  | cons b rest ih =>
    rw [find?] at h
    cases hc : compare k (key b) with
    | lt => simp [hc] at h
    | eq =>
      rw [hc] at h
      obtain rfl := Option.some.inj h
      exact hc
    | gt =>
      rw [hc] at h
      exact ih h

omit [TransOrd κ] in
/-- What is found is a member. -/
theorem mem_of_find? {k : κ} {a : α} {l : List α} (h : find? key k l = some a) : a ∈ l := by
  induction l with
  | nil => simp [find?] at h
  | cons b rest ih =>
    rw [find?] at h
    cases hc : compare k (key b) with
    | lt => simp [hc] at h
    | eq =>
      rw [hc] at h
      obtain rfl := Option.some.inj h
      exact List.mem_cons_self
    | gt =>
      rw [hc] at h
      exact List.mem_cons_of_mem _ (ih h)

/-- Equal keys find the same. -/
theorem find?_congr {k k' : κ} (h : compare k k' = .eq) (l : List α) :
    find? key k l = find? key k' l := by
  induction l with
  | nil => rfl
  | cons b rest ih =>
    rw [find?, find?, TransCmp.congr_left h, ih]

/-! ### Inserting -/

omit [TransOrd κ] in
theorem mem_insert_of_ne {a b : α} {l : List α} (hb : b ∈ l)
    (hne : compare (key a) (key b) ≠ .eq) : b ∈ insert key a l := by
  induction l with
  | nil => simp at hb
  | cons c rest ih =>
    rw [insert]
    cases hc : compare (key a) (key c) with
    | lt => exact List.mem_cons_of_mem _ hb
    | eq =>
      rcases List.mem_cons.1 hb with rfl | hb
      · exact absurd hc hne
      · exact List.mem_cons_of_mem _ hb
    | gt =>
      rcases List.mem_cons.1 hb with rfl | hb
      · exact List.mem_cons_self
      · exact List.mem_cons_of_mem _ (ih hb)

omit [TransOrd κ] in
theorem mem_insert_self (a : α) (l : List α) : a ∈ insert key a l := by
  induction l with
  | nil => exact List.mem_cons_self
  | cons c rest ih =>
    rw [insert]
    cases compare (key a) (key c) with
    | lt => exact List.mem_cons_self
    | eq => exact List.mem_cons_self
    | gt => exact List.mem_cons_of_mem _ ih

omit [TransOrd κ] in
/-- An insertion brings in nothing but the thing inserted. -/
theorem eq_or_mem_of_mem_insert {a b : α} {l : List α} (h : b ∈ insert key a l) :
    b = a ∨ b ∈ l := by
  induction l with
  | nil => exact Or.inl (List.mem_singleton.1 h)
  | cons c rest ih =>
    rw [insert] at h
    cases hc : compare (key a) (key c) with
    | lt =>
      rw [hc] at h
      exact List.mem_cons.1 h
    | eq =>
      rw [hc] at h
      exact (List.mem_cons.1 h).imp_right (List.mem_cons_of_mem _)
    | gt =>
      rw [hc] at h
      rcases List.mem_cons.1 h with rfl | h
      · exact Or.inr List.mem_cons_self
      · exact (ih h).imp_right (List.mem_cons_of_mem _)

omit [TransOrd κ] in
/-- An entry of changed value is found under the same key. -/
theorem find?_map {β : Type} {key' : β → κ} {f : α → β}
    (h : ∀ a, key' (f a) = key a) (k : κ) (l : List α) :
    find? key' k (l.map f) = (find? key k l).map f := by
  induction l with
  | nil => rfl
  | cons a rest ih =>
    rw [List.map_cons, find?, find?, h]
    cases compare k (key a) with
    | lt => rfl
    | eq => rfl
    | gt => exact ih

/-- What was inserted is found under its key. -/
theorem find?_insert_self {k : κ} {a : α} (h : compare k (key a) = .eq) (l : List α) :
    find? key k (insert key a l) = some a := by
  induction l with
  | nil => simp [insert, find?, h]
  | cons b rest ih =>
    rw [insert]
    cases hc : compare (key a) (key b) with
    | lt => simp [find?, h]
    | eq => simp [find?, h]
    | gt =>
      have hk : compare k (key b) = .gt := by rw [TransCmp.congr_left h, hc]
      simp only [find?, hk, ih]

/-- Other keys find what they found before. -/
theorem find?_insert_of_ne {k : κ} {a : α} (h : compare k (key a) ≠ .eq) (l : List α) :
    find? key k (insert key a l) = find? key k l := by
  induction l with
  | nil =>
    cases hc : compare k (key a) with
    | eq => exact absurd hc h
    | lt => simp [insert, find?, hc]
    | gt => simp [insert, find?, hc]
  | cons b rest ih =>
    rw [insert]
    cases hab : compare (key a) (key b) with
    | lt =>
      cases hk : compare k (key a) with
      | eq => exact absurd hk h
      | lt =>
        have hkb : compare k (key b) = .lt := TransCmp.lt_trans hk hab
        simp [find?, hk, hkb]
      | gt => simp [find?, hk]
    | eq =>
      have hkb : compare k (key b) = compare k (key a) := (TransCmp.congr_right hab).symm
      cases hk : compare k (key a) with
      | eq => exact absurd hk h
      | lt => simp [find?, hk, hkb]
      | gt => simp [find?, hk, hkb]
    | gt =>
      rw [find?, find?, ih]

omit [TransOrd κ] in
/-- Putting in what is there changes nothing. -/
theorem insert_of_find? {a : α} {l : List α} (h : find? key (key a) l = some a) :
    insert key a l = l := by
  induction l with
  | nil => cases h
  | cons b rest ih =>
    unfold find? at h
    unfold insert
    cases hcmp : compare (key a) (key b) with
    | lt =>
      rw [hcmp] at h
      cases h
    | eq =>
      rw [hcmp] at h
      obtain rfl := Option.some.inj h
      rfl
    | gt =>
      rw [hcmp] at h
      exact congrArg (b :: ·) (ih h)

omit [TransOrd κ] in
/-- Putting a thing in place of another, or one that is passed over, leaves what is taken of all. -/
theorem filterMap_insert {β : Type} {f : α → Option β} {a : α} {l : List α}
    (hkey : ∀ b, compare (key a) (key b) = .eq → f b = f a)
    (h : f a = none ∨ find? key (key a) l ≠ none) :
    (insert key a l).filterMap f = l.filterMap f := by
  induction l with
  | nil =>
    rcases h with hnone | hfound
    · exact List.filterMap_cons_none hnone
    · exact absurd rfl hfound
  | cons b rest ih =>
    unfold insert
    unfold find? at h
    cases hcmp : compare (key a) (key b) with
    | lt =>
      rw [hcmp] at h
      rcases h with hnone | hfound
      · exact List.filterMap_cons_none hnone
      · exact absurd rfl hfound
    | eq =>
      dsimp only
      rw [List.filterMap_cons, List.filterMap_cons, hkey b hcmp]
    | gt =>
      rw [hcmp] at h
      dsimp only
      rw [List.filterMap_cons, List.filterMap_cons, ih h]

/-! ### Sorted lists -/

omit [TransOrd κ] in
theorem Sorted.nil : Sorted key ([] : List α) := List.Pairwise.nil

/-- An insertion keeps the order. -/
theorem Sorted.insert {l : List α} (h : Sorted key l) (a : α) : Sorted key (insert key a l) := by
  induction l with
  | nil => exact List.pairwise_singleton _ _
  | cons b rest ih =>
    obtain ⟨hb, hrest⟩ := List.pairwise_cons.1 h
    rw [Keyed.insert]
    cases hc : compare (key a) (key b) with
    | lt =>
      refine List.pairwise_cons.2 ⟨fun c hcmem => ?_, h⟩
      rcases List.mem_cons.1 hcmem with rfl | hcmem
      · exact hc
      · exact TransCmp.lt_trans hc (hb c hcmem)
    | eq =>
      refine List.pairwise_cons.2 ⟨fun c hcmem => ?_, hrest⟩
      exact TransCmp.lt_of_eq_of_lt hc (hb c hcmem)
    | gt =>
      refine List.pairwise_cons.2 ⟨fun c hcmem => ?_, ih hrest⟩
      rcases eq_or_mem_of_mem_insert hcmem with rfl | hcmem
      · exact OrientedCmp.lt_of_gt hc
      · exact hb c hcmem

/-- A member is found under its key. -/
theorem Sorted.find?_of_mem {l : List α} (h : Sorted key l) {a : α} (ha : a ∈ l) :
    find? key (key a) l = some a := by
  induction l with
  | nil => simp at ha
  | cons b rest ih =>
    obtain ⟨hb, hrest⟩ := List.pairwise_cons.1 h
    rcases List.mem_cons.1 ha with rfl | ha
    · simp [find?, ReflCmp.compare_self]
    · have hc : compare (key a) (key b) = .gt := OrientedCmp.gt_of_lt (hb a ha)
      simp only [find?, hc, ih hrest ha]

theorem Sorted.find?_eq_some_iff {l : List α} (h : Sorted key l) {k : κ} {a : α} :
    find? key k l = some a ↔ a ∈ l ∧ compare k (key a) = .eq := by
  constructor
  · intro hf
    exact ⟨mem_of_find? hf, compare_of_find? hf⟩
  · rintro ⟨ha, hk⟩
    rw [find?_congr hk, h.find?_of_mem ha]

omit [TransOrd κ] in
/-- A key smaller than all others is not found. -/
theorem find?_eq_none_of_lt {k : κ} {l : List α} (h : ∀ b ∈ l, compare k (key b) = .lt) :
    find? key k l = none := by
  cases l with
  | nil => rfl
  | cons b rest => simp [find?, h b List.mem_cons_self]

/-- An erased key is not found. -/
theorem Sorted.find?_erase_self {l : List α} (h : Sorted key l) {k k' : κ}
    (hk : compare k' k = .eq) : find? key k' (erase key k l) = none := by
  induction l with
  | nil => rfl
  | cons b rest ih =>
    obtain ⟨hb, hrest⟩ := List.pairwise_cons.1 h
    have hkb : compare k' (key b) = compare k (key b) := TransCmp.congr_left hk
    rw [erase]
    cases hc : compare k (key b) with
    | lt => simp [find?, hkb, hc]
    | eq => exact find?_eq_none_of_lt fun c hcmem =>
        TransCmp.lt_of_eq_of_lt (hkb.trans hc) (hb c hcmem)
    | gt => simp only [find?, hkb, hc, ih hrest]

/-- Other keys find what they found before an erasure. -/
theorem Sorted.find?_erase_of_ne {l : List α} (h : Sorted key l) {k k' : κ}
    (hk : compare k' k ≠ .eq) : find? key k' (erase key k l) = find? key k' l := by
  induction l with
  | nil => rfl
  | cons b rest ih =>
    obtain ⟨hb, hrest⟩ := List.pairwise_cons.1 h
    rw [erase]
    cases hc : compare k (key b) with
    | lt => rfl
    | eq =>
      show find? key k' rest = find? key k' (b :: rest)
      rw [find?]
      cases hkb : compare k' (key b) with
      | lt => exact find?_eq_none_of_lt fun c hcmem => TransCmp.lt_trans hkb (hb c hcmem)
      | eq => exact absurd (TransCmp.eq_trans hkb (OrientedCmp.eq_symm hc)) hk
      | gt => rfl
    | gt =>
      show find? key k' (b :: erase key k rest) = find? key k' (b :: rest)
      rw [find?, find?, ih hrest]

omit [TransOrd κ] in
/-- What is found is found when others are dropped. -/
theorem find?_filter {k : κ} {a : α} {l : List α} (h : find? key k l = some a) {p : α → Bool}
    (hp : p a = true) : find? key k (l.filter p) = some a := by
  induction l with
  | nil => cases h
  | cons b rest ih =>
    rw [find?] at h
    rw [List.filter_cons]
    cases hc : compare k (key b) with
    | lt =>
      rw [hc] at h
      cases h
    | eq =>
      rw [hc] at h
      obtain rfl := Option.some.inj h
      rw [if_pos hp, find?, hc]
    | gt =>
      rw [hc] at h
      split
      · rw [find?, hc]
        exact ih h
      · exact ih h

omit [TransOrd κ] in
/-- What is found is found when another key is erased. -/
theorem find?_erase {k k' : κ} {a : α} {l : List α} (h : find? key k l = some a)
    (hne : compare k' (key a) ≠ .eq) : find? key k (erase key k' l) = some a := by
  -- what is erased is not what is found
  induction l with
  | nil => cases h
  | cons b rest ih =>
    rw [erase]
    cases hc' : compare k' (key b) with
    | lt => exact h
    | eq =>
      rw [find?] at h
      cases hc : compare k (key b) with
      | lt =>
        rw [hc] at h
        cases h
      | eq =>
        rw [hc] at h
        obtain rfl := Option.some.inj h
        exact absurd hc' hne
      | gt =>
        rw [hc] at h
        exact h
    | gt =>
      dsimp only
      rw [find?] at h ⊢
      cases hc : compare k (key b) with
      | lt =>
        rw [hc] at h
        cases h
      | eq =>
        rw [hc] at h
        exact h
      | gt =>
        rw [hc] at h
        exact ih h

omit [TransOrd κ] in
theorem erase_sublist (k : κ) (l : List α) : (erase key k l).Sublist l := by
  induction l with
  | nil => exact List.Sublist.refl _
  | cons b rest ih =>
    rw [erase]
    cases compare k (key b) with
    | lt => exact List.Sublist.refl _
    | eq => exact List.sublist_cons_self _ _
    | gt => exact ih.cons_cons _

omit [TransOrd κ] in
/-- Erasing keeps the order. -/
theorem Sorted.erase {l : List α} (h : Sorted key l) (k : κ) : Sorted key (erase key k l) :=
  h.sublist (erase_sublist k l)

/-- Two sorted lists in which every key finds the same are the same. -/
theorem Sorted.eq_of_find? {l l' : List α} (h : Sorted key l) (h' : Sorted key l')
    (hfind : ∀ k, find? key k l = find? key k l') : l = l' := by
  have hnodup {m : List α} (hm : Sorted key m) : m.Nodup := by
    apply hm.imp
    rintro a b hlt rfl
    have hself : compare (key a) (key a) = .eq := ReflCmp.compare_self
    rw [hself] at hlt
    cases hlt
  have hperm : l.Perm l' := by
    apply (List.perm_ext_iff_of_nodup (hnodup h) (hnodup h')).2
    intro a
    constructor
    · intro ha
      exact mem_of_find? ((hfind (key a)).symm.trans (h.find?_of_mem ha))
    · intro ha
      exact mem_of_find? ((hfind (key a)).trans (h'.find?_of_mem ha))
  apply hperm.eq_of_pairwise _ h h'
  intro a b _ _ hlt hgt
  rw [OrientedCmp.gt_of_lt hlt] at hgt
  cases hgt

/-! ### Collecting -/

omit [TransOrd κ] in
/-- What is collected from a list is in the list. -/
theorem mem_of_mem_ofList {l : List α} {b : α} (h : b ∈ ofList key l) : b ∈ l := by
  have hfold : ∀ (l collected : List α),
      b ∈ l.foldl (fun collected a => insert key a collected) collected →
        b ∈ collected ∨ b ∈ l := by
    intro l
    induction l with
    | nil => exact fun collected hb => Or.inl hb
    | cons a l ih =>
      intro collected hb
      rcases ih _ hb with hb | hb
      · rcases eq_or_mem_of_mem_insert hb with rfl | hb
        · exact Or.inr List.mem_cons_self
        · exact Or.inl hb
      · exact Or.inr (List.mem_cons_of_mem _ hb)
  exact (hfold l [] h).resolve_left List.not_mem_nil

/-- What is collected is in the order of the keys. -/
theorem sorted_ofList (l : List α) : Sorted key (ofList key l) := by
  have hfold : ∀ (l collected : List α), Sorted key collected →
      Sorted key (l.foldl (fun collected a => insert key a collected) collected) := by
    intro l
    induction l with
    | nil => exact fun _ h => h
    | cons a l ih => exact fun _ h => ih _ (h.insert a)
  exact hfold l [] .nil

/-- A key finds what was collected for it last. -/
theorem find?_ofList (k : κ) (l : List α) :
    find? key k (ofList key l) = l.reverse.find? fun a => compare k (key a) == .eq := by
  have hfold : ∀ (l collected : List α),
      find? key k (l.foldl (fun collected a => insert key a collected) collected) =
        (l.reverse.find? fun a => compare k (key a) == .eq).or (find? key k collected) := by
    intro l
    induction l with
    | nil => exact fun _ => rfl
    | cons a l ih =>
      intro collected
      rw [List.foldl_cons, ih, List.reverse_cons, List.find?_append, Option.or_assoc]
      congr 1
      rw [List.find?_singleton]
      by_cases hk : compare k (key a) = .eq
      · rw [find?_insert_self hk, if_pos (beq_iff_eq.2 hk)]
        rfl
      · rw [find?_insert_of_ne hk, if_neg fun h => hk (beq_iff_eq.1 h)]
        rfl
  rw [ofList, hfold]
  exact Option.or_none

end Minipack.Keyed
