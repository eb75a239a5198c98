/-
Reading a document and reading the value it has.

A typed reader may be given a document as it was read, or the document of its value, where strings
have been decoded and repeated members have become one.  A reader is stable when the second way
gives what the first one gives (`Document.Stable`).  Readers of texts, options, lists and tables are
stable, and so is the reader of a record when those of its fields are (`Document.stable_toRecord`):
a known member may not be repeated, and members that are not known are passed over.

The manifest of an app is read as it stands when it is loaded, and by its value when the app
descriptor is resolved.  Both ways give the same manifest (`Manifest.ofDocument_ofJson`).
-/
import Mathlib.Data.List.Forall2
import Minipack.Manifest
import Minipack.Proofs.Outcome
import Minipack.Proofs.Text

namespace Minipack

/-! ### Texts -/

/-- The literal of a text is read as that text. -/
theorem RawText.text?_ofString (s : String) : (RawText.ofString s).text? = some s := by
  have hbytes : s.toUTF8.toList.toByteArray = s.toByteArray := by
    refine ByteArray.ext (Array.ext' ?_)
    rw [List.toList_data_toByteArray]
    exact toList_eq s.toUTF8
  show String.fromUTF8? s.toUTF8.toList.toByteArray = some s
  rw [hbytes, String.fromUTF8?, dif_pos s.isValidUTF8]
  rfl

namespace Document

/-- A reader that gives for the document of a value what it gives for a document of that value. -/
def Stable {α : Type} (read : Document → Except ShapeFault α) : Prop :=
  ∀ depth document value a, jsonAt depth document = some value → read document = .ok a →
    read (ofJson value) = .ok a

/-- A document of another shape than expected is not read. -/
theorem mismatch_ne_ok {α : Type} {document : Document} {expected : String} {a : α} :
    document.mismatch expected ≠ .ok a := by
  unfold mismatch
  split <;> exact nofun

theorem validText_eq_ok_iff {raw : RawText} {s : String} :
    validText raw = .ok s ↔ raw.text? = some s := by
  unfold validText
  split
  · next text h =>
    rw [h]
    exact ⟨fun h => congrArg some (Except.ok.inj h),
      fun h => congrArg Except.ok (Option.some.inj h)⟩
  · next h =>
    rw [h]
    exact ⟨nofun, nofun⟩

theorem validText_ofString (s : String) : validText (RawText.ofString s) = .ok s :=
  validText_eq_ok_iff.2 (RawText.text?_ofString s)

/-- Only strings are texts. -/
theorem toText_eq_ok_iff {document : Document} {s : String} :
    document.toText = .ok s ↔ ∃ raw, document = .string raw ∧ raw.text? = some s := by
  constructor
  · intro h
    unfold toText at h
    split at h
    · exact ⟨_, rfl, validText_eq_ok_iff.1 h⟩
    · exact absurd h mismatch_ne_ok
  · rintro ⟨raw, rfl, h⟩
    exact validText_eq_ok_iff.2 h

theorem stable_toText : Stable toText := by
  intro depth document value a hvalue ha
  obtain ⟨raw, rfl, hraw⟩ := toText_eq_ok_iff.1 ha
  obtain ⟨s, hs, rfl⟩ := Option.map_eq_some_iff.1 hvalue
  obtain rfl := Option.some.inj (hs.symm.trans hraw)
  exact validText_ofString s

/-! ### Options and lists -/

section

variable {α : Type} {read : Document → Except ShapeFault α}

theorem toOption_of_ne_null {document : Document} (h : document ≠ .null) :
    toOption read document = (read document).map some := by
  unfold toOption
  split
  · exact absurd rfl h
  · rfl

/-- Only nothing has nothing as its value. -/
theorem ofJson_ne_null {depth : Nat} {document : Document} {value : Json}
    (hvalue : jsonAt depth document = some value) (h : document ≠ .null) :
    ofJson value ≠ .null := by
  cases document with
  | null => exact absurd rfl h
  | bool flag => cases hvalue; exact nofun
  | number n =>
    obtain ⟨_, -, rfl⟩ := Option.map_eq_some_iff.1 hvalue
    exact nofun
  | string raw =>
    obtain ⟨_, -, rfl⟩ := Option.map_eq_some_iff.1 hvalue
    exact nofun
  | array items =>
    rw [jsonAt] at hvalue
    split at hvalue
    · cases hvalue
    · obtain ⟨_, -, rfl⟩ := Option.map_eq_some_iff.1 hvalue
      exact nofun
  | object members =>
    rw [jsonAt] at hvalue
    split at hvalue
    · cases hvalue
    · obtain ⟨_, -, rfl⟩ := Option.map_eq_some_iff.1 hvalue
      exact nofun

theorem Stable.toOption (h : Stable read) : Stable (toOption read) := by
  intro depth document value a hvalue ha
  by_cases hnull : document = .null
  · subst hnull
    cases hvalue
    exact ha
  · rw [toOption_of_ne_null hnull] at ha
    obtain ⟨x, hx, rfl⟩ := map_eq_ok.1 ha
    rw [toOption_of_ne_null (ofJson_ne_null hvalue hnull), h depth document value x hvalue hx]
    rfl

/-- The items of an array have the values of its value. -/
theorem jsonItems_eq_some_iff {depth : Nat} {items : List Document} {values : List Json} :
    jsonItems depth items = some values ↔
      List.Forall₂ (fun item value => jsonAt depth item = some value) items values := by
  induction items generalizing values with
  | nil =>
    rw [jsonItems, List.forall₂_nil_left_iff]
    exact ⟨fun h => (Option.some.inj h).symm, fun h => congrArg some h.symm⟩
  | cons item rest ih =>
    rw [jsonItems, List.forall₂_cons_left_iff]
    simp only [bind, Option.bind_eq_some_iff, pure, Option.some.injEq]
    constructor
    · rintro ⟨value, hvalue, values, hvalues, rfl⟩
      exact ⟨value, values, hvalue, ih.1 hvalues, rfl⟩
    · rintro ⟨value, values, hvalue, hvalues, rfl⟩
      exact ⟨value, hvalue, values, ih.2 hvalues, rfl⟩

theorem ofItems_eq_map (values : List Json) : ofItems values = values.map ofJson := by
  induction values with
  | nil => rfl
  | cons value rest ih => rw [ofItems, ih, List.map_cons]

theorem toListOf_eq_ok_iff {document : Document} {l : List α} :
    toListOf read document = .ok l ↔
      ∃ items, document = .array items ∧
        List.Forall₂ (fun item x => read item = .ok x) items l := by
  constructor
  · intro h
    unfold toListOf at h
    split at h
    · exact ⟨_, rfl, mapM_eq_ok.1 h⟩
    · exact absurd h mismatch_ne_ok
  · rintro ⟨items, rfl, h⟩
    exact mapM_eq_ok.2 h

theorem Stable.toListOf (h : Stable read) : Stable (toListOf read) := by
  intro depth document value a hvalue ha
  obtain ⟨items, rfl, hitems⟩ := toListOf_eq_ok_iff.1 ha
  rw [jsonAt] at hvalue
  split at hvalue
  · cases hvalue
  · obtain ⟨values, hvalues, rfl⟩ := Option.map_eq_some_iff.1 hvalue
    refine toListOf_eq_ok_iff.2 ⟨_, rfl, ?_⟩
    rw [ofItems_eq_map, List.forall₂_map_left_iff]
    -- item by item
    have hall := jsonItems_eq_some_iff.1 hvalues
    clear hvalues hvalue ha
    induction hall generalizing a with
    | nil =>
      rw [List.forall₂_nil_left_iff.1 hitems]
      exact .nil
    | cons hfirst _ ih =>
      obtain ⟨x, xs, hx, hxs, rfl⟩ := List.forall₂_cons_left_iff.1 hitems
      exact .cons (h _ _ _ x hfirst hx) (ih xs hxs)

end

/-! ### Records -/

section

variable {α : Type} {set : α → String → Document → Except ShapeFault α} {names : List String}

/-- Fields that are set one after the other. -/
inductive Fields (set : α → String → Document → Except ShapeFault α) :
    α → List (String × Document) → α → Prop
  | nil {draft} : Fields set draft [] draft
  | cons {draft next last name document rest} :
      set draft name document = .ok next →
      Fields set next rest last →
      Fields set draft ((name, document) :: rest) last

/-- The members of known names. -/
def known {β : Type} (names : List String) (members : List (String × β)) : List (String × β) :=
  members.filter fun member => names.contains member.1

theorem fields_iff_foldlM {draft last : α} {fields : List (String × Document)} :
    Fields set draft fields last ↔
      fields.foldlM (fun draft (name, value) => set draft name value) draft = .ok last := by
  induction fields generalizing draft with
  | nil =>
    constructor
    · intro h
      cases h
      rfl
    · intro h
      obtain rfl := Except.ok.inj h
      exact .nil
  | cons field rest ih =>
    rw [List.foldlM_cons, bind_eq_ok]
    constructor
    · intro h
      cases h with
      | cons hfirst hrest => exact ⟨_, hfirst, ih.1 hrest⟩
    · rintro ⟨next, hfirst, hrest⟩
      exact .cons hfirst (ih.2 hrest)

/-- Reading the members of a record. -/
def recordStep (names : List String) (set : α → String → Document → Except ShapeFault α) :
    α × List String → RawText × Document → Except ShapeFault (α × List String) :=
  fun (draft, seen) (name, value) => do
    let name ← validText name
    if !names.contains name then return (draft, seen)
    if seen.contains name then .error (.repeatedField name)
    return (← set draft name value, name :: seen)

/-- The members that are known are set in their order, none of them twice. -/
theorem fields_of_recordStep {draft last : α} {seen seen' : List String}
    {members : List (RawText × Document)}
    (h : members.foldlM (recordStep names set) (draft, seen) = .ok (last, seen')) :
    ∃ fields, List.Forall₂ (fun member field => member.1.text? = some field.1 ∧
        member.2 = field.2) members fields ∧
      Fields set draft (known names fields) last ∧
      (∀ field ∈ known names fields, seen.contains field.1 = false) ∧
      (known names fields).Pairwise fun a b => a.1 ≠ b.1 := by
  induction members generalizing draft seen with
  | nil =>
    obtain ⟨rfl, rfl⟩ := Prod.mk.inj (Except.ok.inj h)
    exact ⟨[], .nil, .nil, nofun, .nil⟩
  | cons member rest ih =>
    obtain ⟨raw, document⟩ := member
    rw [List.foldlM_cons, bind_eq_ok] at h
    obtain ⟨⟨next, seen''⟩, hstep, hrest⟩ := h
    rw [recordStep, bind_eq_ok] at hstep
    obtain ⟨name, hname, hstep⟩ := hstep
    rw [validText_eq_ok_iff] at hname
    dsimp only at hstep
    split at hstep
    · next hunknown =>
      -- the member is passed over
      obtain ⟨rfl, rfl⟩ := Prod.mk.inj (pure_eq_ok.1 hstep)
      obtain ⟨fields, hall, hset, hseen, hdistinct⟩ := ih hrest
      have hskip : known names ((name, document) :: fields) = known names fields :=
        List.filter_cons_of_neg (by simpa using hunknown)
      refine ⟨(name, document) :: fields, .cons ⟨hname, rfl⟩ hall, ?_⟩
      rw [hskip]
      exact ⟨hset, hseen, hdistinct⟩
    · next hknown =>
      split at hstep
      · cases hstep
      · next hnew =>
        simp only [bind_eq_ok, pure_eq_ok, Prod.mk.injEq] at hstep
        obtain ⟨_, hset, rfl, rfl⟩ := hstep
        obtain ⟨fields, hall, hsets, hseen, hdistinct⟩ := ih hrest
        have htake : known names ((name, document) :: fields) =
            (name, document) :: known names fields :=
          List.filter_cons_of_pos (by simpa using hknown)
        have hlater : ∀ field ∈ known names fields,
            name ≠ field.1 ∧ seen.contains field.1 = false := by
          intro field hf
          have hboth := hseen field hf
          rw [List.contains_cons, Bool.or_eq_false_iff] at hboth
          exact ⟨(beq_eq_false_iff_ne.1 hboth.1).symm, hboth.2⟩
        refine ⟨(name, document) :: fields, .cons ⟨hname, rfl⟩ hall, ?_⟩
        rw [htake]
        refine ⟨.cons hset hsets, ?_, ?_⟩
        · intro field hf
          rcases List.mem_cons.1 hf with rfl | hf
          · exact Bool.eq_false_iff.2 hnew
          · exact (hlater field hf).2
        · exact List.pairwise_cons.2 ⟨fun field hf => (hlater field hf).1, hdistinct⟩

/-- The members of an object have the values of its members. -/
theorem jsonMembers_eq_some_iff {depth : Nat} {members : List (RawText × Document)}
    {values : List (String × Json)} :
    jsonMembers depth members = some values ↔
      List.Forall₂ (fun member value => member.1.text? = some value.1 ∧
        jsonAt depth member.2 = some value.2) members values := by
  induction members generalizing values with
  | nil =>
    rw [jsonMembers, List.forall₂_nil_left_iff]
    exact ⟨fun h => (Option.some.inj h).symm, fun h => congrArg some h.symm⟩
  | cons member rest ih =>
    obtain ⟨name, item⟩ := member
    rw [jsonMembers, List.forall₂_cons_left_iff]
    simp only [bind, Option.bind_eq_some_iff, pure, Option.some.injEq]
    constructor
    · rintro ⟨key, hkey, value, hvalue, values, hvalues, rfl⟩
      exact ⟨(key, value), values, ⟨hkey, hvalue⟩, ih.1 hvalues, rfl⟩
    · rintro ⟨⟨key, value⟩, values, ⟨hkey, hvalue⟩, hvalues, rfl⟩
      exact ⟨key, hkey, value, hvalue, values, ih.2 hvalues, rfl⟩

theorem ofMembers_eq_map (members : List (String × Json)) :
    ofMembers members = members.map fun member => (RawText.ofString member.1, ofJson member.2) := by
  induction members with
  | nil => rfl
  | cons member rest ih =>
    obtain ⟨name, value⟩ := member
    rw [ofMembers, ih, List.map_cons]

/-! ### Repeated members -/

theorem known_setMember_of_unknown {name : String} (h : names.contains name = false) (value : Json)
    (members : List (String × Json)) :
    known names (Json.setMember name value members) = known names members := by
  induction members with
  | nil => exact List.filter_cons_of_neg (by simpa using h)
  | cons member rest ih =>
    obtain ⟨n, v⟩ := member
    rw [Json.setMember]
    split
    · next hn =>
      subst hn
      have hskip (v : Json) : known names ((n, v) :: rest) = known names rest :=
        List.filter_cons_of_neg (by simpa using h)
      rw [hskip, hskip]
    · rw [known, List.filter_cons, known, List.filter_cons]
      unfold known at ih
      rw [ih]

theorem known_setMember_of_new {name : String} (h : names.contains name = true) (value : Json)
    {members : List (String × Json)} (hn : ∀ member ∈ known names members, member.1 ≠ name) :
    known names (Json.setMember name value members) = known names members ++ [(name, value)] := by
  induction members with
  | nil => exact List.filter_cons_of_pos h
  | cons member rest ih =>
    obtain ⟨n, v⟩ := member
    rw [Json.setMember]
    split
    · next hsame =>
      subst hsame
      exact absurd rfl (hn (n, v) (List.mem_filter.2 ⟨List.mem_cons_self, h⟩))
    · have hrest : known names (Json.setMember name value rest) =
          known names rest ++ [(name, value)] := by
        refine ih fun member hm => hn member ?_
        obtain ⟨hmem, hk⟩ := List.mem_filter.1 hm
        exact List.mem_filter.2 ⟨List.mem_cons_of_mem _ hmem, hk⟩
      unfold known at hrest ⊢
      rw [List.filter_cons, List.filter_cons, hrest]
      split <;> rfl

/-- Merging repeated members leaves known members alone when none is repeated. -/
theorem known_foldl_setMember {values : List (String × Json)} (merged : List (String × Json))
    (h : (known names merged ++ known names values).Pairwise fun a b => a.1 ≠ b.1) :
    known names (values.foldl (fun acc m => Json.setMember m.1 m.2 acc) merged) =
      known names merged ++ known names values := by
  -- what is merged so far takes in one known member at a time
  induction values generalizing merged with
  | nil => exact (List.append_nil _).symm
  | cons value rest ih =>
    obtain ⟨name, value⟩ := value
    rw [List.foldl_cons]
    cases hk : names.contains name with
    | false =>
      have hskip : known names ((name, value) :: rest) = known names rest :=
        List.filter_cons_of_neg (by simpa using hk)
      rw [hskip] at h ⊢
      rw [ih, known_setMember_of_unknown hk]
      rw [known_setMember_of_unknown hk]
      exact h
    | true =>
      have htake : known names ((name, value) :: rest) = (name, value) :: known names rest :=
        List.filter_cons_of_pos hk
      rw [htake] at h ⊢
      have hnew : ∀ member ∈ known names merged, member.1 ≠ name := fun member hm =>
        (List.pairwise_append.1 h).2.2 member hm (name, value) List.mem_cons_self
      have hset := known_setMember_of_new hk value hnew
      rw [ih, hset, List.append_assoc]
      · rfl
      · rw [hset, List.append_assoc]
        exact h

/-! ### Reading a record in both ways -/

/-- Fields that are read in a stable way can be set by their values as well. -/
theorem Fields.ofJson (h : ∀ name ∈ names, ∀ draft, Stable (set draft name)) {draft last : α}
    {fields : List (String × Document)} {values : List (String × Json)}
    (hf : Fields set draft fields last)
    (hall : List.Forall₂ (fun field value => field.1 = value.1 ∧ field.1 ∈ names ∧
      ∃ depth, jsonAt depth field.2 = some value.2) fields values) :
    Fields set draft (values.map fun value => (value.1, Document.ofJson value.2)) last := by
  induction hall generalizing draft with
  | nil =>
    cases hf
    exact .nil
  | cons hfirst _ ih =>
    cases hf with
    | cons hset hrest =>
      obtain ⟨rfl, hmem, depth, hvalue⟩ := hfirst
      exact .cons (h _ hmem _ depth _ _ _ hvalue hset) (ih hrest)

/-- A record of members is read from those that are known. -/
theorem toRecord_object {expected : String} {draft last : α} {members : List (RawText × Document)}
    (h : toRecord expected names set draft (.object members) = .ok last) :
    ∃ fields, List.Forall₂ (fun member field => member.1.text? = some field.1 ∧
        member.2 = field.2) members fields ∧
      Fields set draft (known names fields) last ∧
      (known names fields).Pairwise fun a b => a.1 ≠ b.1 := by
  change (members.foldlM (recordStep names set) (draft, []) >>= fun state => pure state.1) =
    .ok last at h
  rw [bind_eq_ok] at h
  obtain ⟨⟨last', seen⟩, hfold, hlast⟩ := h
  obtain rfl := pure_eq_ok.1 hlast
  obtain ⟨fields, hall, hset, -, hdistinct⟩ := fields_of_recordStep hfold
  exact ⟨fields, hall, hset, hdistinct⟩

/-- A record is read from the document of an object by its known members, none of them twice. -/
theorem toRecord_known {expected : String} {draft last : α} {members : List (String × Json)}
    (hset : Fields set draft
      ((known names members).map fun member => (member.1, ofJson member.2)) last)
    (hdistinct : (known names members).Pairwise fun a b => a.1 ≠ b.1) :
    toRecord expected names set draft (ofJson (.object members)) = .ok last := by
  -- the loop remembers the names it has read; none of the members left has one of them
  have hfold : ∀ seen : List String,
      (∀ member ∈ known names members, seen.contains member.1 = false) →
      ∃ seen', (ofMembers members).foldlM (recordStep names set) (draft, seen) =
        .ok (last, seen') := by
    induction members generalizing draft with
    | nil =>
      cases hset
      exact fun seen _ => ⟨seen, rfl⟩
    | cons member members ih =>
      obtain ⟨name, value⟩ := member
      intro seen hseen
      rw [ofMembers, List.foldlM_cons]
      cases hin : names.contains name with
      | false =>
        have hskip : known names ((name, value) :: members) = known names members :=
          List.filter_cons_of_neg (by simpa using hin)
        rw [hskip] at hset hdistinct hseen
        have hstep : recordStep names set (draft, seen) (RawText.ofString name, ofJson value) =
            .ok (draft, seen) := by
          simp only [recordStep, validText_ofString, bind, Except.bind, hin, Bool.not_false,
            if_true]
          rfl
        rw [hstep]
        exact ih hset hdistinct seen hseen
      | true =>
        have htake : known names ((name, value) :: members) =
            (name, value) :: known names members :=
          List.filter_cons_of_pos hin
        rw [htake] at hset hdistinct hseen
        cases hset with
        | @cons _ next _ _ _ _ hfirst hrest =>
          obtain ⟨hnew, hdistinct⟩ := List.pairwise_cons.1 hdistinct
          obtain ⟨seen', hread⟩ := ih hrest hdistinct (name :: seen) fun m hm => by
            rw [List.contains_cons, hseen m (List.mem_cons_of_mem _ hm), Bool.or_false]
            exact beq_false_of_ne (hnew m hm).symm
          have hstep : recordStep names set (draft, seen) (RawText.ofString name, ofJson value) =
              .ok (next, name :: seen) := by
            have hout : seen.contains name = false := hseen (name, value) List.mem_cons_self
            simp only [recordStep, validText_ofString, bind, Except.bind, hin, hout, hfirst,
              Bool.not_true, Bool.false_eq_true, if_false]
            rfl
          refine ⟨seen', ?_⟩
          rw [hstep]
          exact hread
  obtain ⟨seen', hread⟩ := hfold [] fun _ _ => rfl
  show ((ofMembers members).foldlM (recordStep names set) (draft, []) >>= fun state =>
    pure state.1) = .ok last
  rw [hread]
  rfl

/-- A record is read from the document of an object with known members, none of them twice. -/
theorem toRecord_ofJson {expected : String} {draft last : α} {members : List (String × Json)}
    (hset : Fields set draft (members.map fun member => (member.1, ofJson member.2)) last)
    (hknown : ∀ member ∈ members, names.contains member.1 = true)
    (hdistinct : members.Pairwise fun a b => a.1 ≠ b.1) :
    toRecord expected names set draft (ofJson (.object members)) = .ok last := by
  have hall : known names members = members := List.filter_eq_self.2 hknown
  exact toRecord_known (hall.symm ▸ hset) (hall.symm ▸ hdistinct)

/-- A record of items is read from those that have a field, when none is in excess. -/
theorem toRecord_array_iff {expected : String} {draft last : α} {items : List Document} :
    toRecord expected names set draft (.array items) = .ok last ↔
      Fields set draft (names.zip items) last ∧ items.length ≤ names.length := by
  show ((names.zip items).foldlM (fun draft (name, value) => set draft name value) draft >>=
    fun draft =>
      if names.length < items.length then .error (.tooMany items.length) else .ok draft) =
        .ok last ↔ _
  rw [bind_eq_ok, fields_iff_foldlM]
  constructor
  · rintro ⟨last', hfold, hlast⟩
    split at hlast
    · cases hlast
    · next hlength =>
      obtain rfl := Except.ok.inj hlast
      exact ⟨hfold, Nat.le_of_not_lt hlength⟩
  · rintro ⟨hfold, hlength⟩
    exact ⟨last, hfold, if_neg (Nat.not_lt.2 hlength)⟩

/-- The known members of an object and those of its value. -/
theorem known_of_jsonMembers (names : List String) {depth : Nat}
    {members : List (RawText × Document)}
    {fields : List (String × Document)} {values : List (String × Json)}
    (hall : List.Forall₂ (fun member field => member.1.text? = some field.1 ∧
      member.2 = field.2) members fields)
    (hvalues : jsonMembers depth members = some values) :
    List.Forall₂ (fun field value => field.1 = value.1 ∧ jsonAt depth field.2 = some value.2)
      (known names fields) (known names values) := by
  rw [jsonMembers_eq_some_iff] at hvalues
  have hboth : List.Forall₂ (fun field value => field.1 = value.1 ∧
      jsonAt depth field.2 = some value.2) fields values := by
    induction hall generalizing values with
    | nil =>
      cases hvalues
      exact .nil
    | cons hfirst _ ih =>
      cases hvalues with
      | cons hvalue hrest =>
        refine .cons ⟨?_, hfirst.2 ▸ hvalue.2⟩ (ih hrest)
        exact Option.some.inj (hfirst.1.symm.trans hvalue.1)
  refine List.rel_filter ?_ hboth
  rintro field value ⟨hname, -⟩
  show names.contains field.1 = true ↔ names.contains value.1 = true
  rw [hname]

/-- The items that have a field in an array, and their values. -/
theorem forall₂_zip {depth : Nat} {items : List Document} {values : List Json}
    (hall : List.Forall₂ (fun item value => jsonAt depth item = some value) items values)
    {some : List String} (hsome : ∀ name ∈ some, name ∈ names) :
    List.Forall₂ (fun field value => field.1 = value.1 ∧ field.1 ∈ names ∧
      ∃ depth, jsonAt depth field.2 = .some value.2) (some.zip items) (some.zip values) := by
  induction hall generalizing some with
  | nil =>
    rw [List.zip_nil_right, List.zip_nil_right]
    exact .nil
  | @cons item value _ _ hfirst _ ih =>
    cases some with
    | nil => exact .nil
    | cons name rest =>
      rw [List.zip_cons_cons, List.zip_cons_cons]
      refine .cons ⟨rfl, hsome name List.mem_cons_self, depth, hfirst⟩ (ih ?_)
      exact fun n hn => hsome n (List.mem_cons_of_mem _ hn)

/-- A record is read in a stable way when its fields are. -/
theorem stable_toRecord (h : ∀ name ∈ names, ∀ draft, Stable (set draft name)) (expected : String)
    (draft : α) : Stable (toRecord expected names set draft) := by
  intro depth document value last hvalue hread
  cases document with
  | object members =>
    rw [jsonAt] at hvalue
    split at hvalue
    · cases hvalue
    · obtain ⟨values, hvalues, rfl⟩ := Option.map_eq_some_iff.1 hvalue
      obtain ⟨fields, hall, hset, hdistinct⟩ := toRecord_object hread
      have hknown := known_of_jsonMembers names hall hvalues
      have hnames : (known names fields).map Prod.fst = (known names values).map Prod.fst := by
        rw [← List.forall₂_eq_eq_eq, List.forall₂_map_left_iff, List.forall₂_map_right_iff]
        exact hknown.imp fun _ _ hboth => hboth.1
      have hdistinct' : (known names values).Pairwise fun a b => a.1 ≠ b.1 := by
        rw [← List.pairwise_map (R := Ne), ← hnames, List.pairwise_map]
        exact hdistinct
      -- no known member is repeated, so merging leaves them alone
      have hmerged : known names (values.foldl (fun acc m => Json.setMember m.1 m.2 acc) []) =
          known names values :=
        known_foldl_setMember [] hdistinct'
      have hmem : ∀ field ∈ known names fields, field.1 ∈ names := fun field hf =>
        List.contains_iff_mem.1 (List.mem_filter.1 hf).2
      refine toRecord_known ?_ (hmerged.symm ▸ hdistinct')
      rw [hmerged]
      refine hset.ofJson h (((List.forall₂_and_left _ _).2 ⟨hmem, hknown⟩).imp ?_)
      rintro field value ⟨hname, hsame, hvalue⟩
      exact ⟨hsame, hname, depth - 1, hvalue⟩
  | array items =>
    rw [jsonAt] at hvalue
    split at hvalue
    · cases hvalue
    · obtain ⟨values, hvalues, rfl⟩ := Option.map_eq_some_iff.1 hvalue
      obtain ⟨hset, hlength⟩ := toRecord_array_iff.1 hread
      have hall := jsonItems_eq_some_iff.1 hvalues
      have hzip : names.zip (values.map ofJson) =
          (names.zip values).map fun value => (value.1, ofJson value.2) := List.zip_map_right
      refine toRecord_array_iff.2 ⟨?_, ?_⟩
      · rw [ofItems_eq_map, hzip]
        exact hset.ofJson h (forall₂_zip hall fun _ hn => hn)
      · rw [ofItems_eq_map, List.length_map, ← hall.length_eq]
        exact hlength
  | null => exact absurd (show mismatch .null expected = .ok last from hread) mismatch_ne_ok
  | bool flag =>
    exact absurd (show mismatch (.bool flag) expected = .ok last from hread) mismatch_ne_ok
  | number n =>
    exact absurd (show mismatch (.number n) expected = .ok last from hread) mismatch_ne_ok
  | string raw =>
    exact absurd (show mismatch (.string raw) expected = .ok last from hread) mismatch_ne_ok

end

/-- A field that takes what is read is read in a stable way. -/
theorem Stable.set {α β : Type} {read : Document → Except ShapeFault β} (h : Stable read)
    (put : β → α) : Stable fun document => do return put (← read document) := by
  intro depth document value a hvalue ha
  obtain ⟨b, hb, ha⟩ := bind_eq_ok.1 ha
  exact bind_eq_ok.2 ⟨b, h depth document value b hvalue hb, ha⟩

/-! ### Tables -/

/-- Puts a text into a table: a known name keeps its place. -/
def put (table : List (String × String)) (name text : String) : List (String × String) :=
  if table.any (·.1 == name) then
    table.map fun entry => if entry.1 == name then (name, text) else entry
  else table ++ [(name, text)]

/-- The table of some texts. -/
def putAll (table entries : List (String × String)) : List (String × String) :=
  entries.foldl (fun table entry => put table entry.1 entry.2) table

/-- The value of an entry. -/
def entryValue (entry : String × String) : String × Json :=
  (entry.1, .string entry.2)

/-- No name has two entries. -/
def DistinctNames (table : List (String × String)) : Prop :=
  table.Pairwise fun a b => a.1 ≠ b.1

theorem put_of_new {table : List (String × String)} {name : String}
    (h : ∀ entry ∈ table, entry.1 ≠ name) (text : String) :
    put table name text = table ++ [(name, text)] := by
  refine if_neg fun hany => ?_
  obtain ⟨entry, hentry, hname⟩ := List.any_eq_true.1 hany
  exact h entry hentry (eq_of_beq hname)

theorem put_of_known {before after : List (String × String)} {name old : String}
    (hbefore : ∀ entry ∈ before, entry.1 ≠ name) (hafter : ∀ entry ∈ after, entry.1 ≠ name)
    (text : String) :
    put (before ++ (name, old) :: after) name text = before ++ (name, text) :: after := by
  have hkeep {part : List (String × String)} (h : ∀ entry ∈ part, entry.1 ≠ name) :
      (part.map fun entry => if entry.1 == name then (name, text) else entry) = part := by
    refine (List.map_congr_left fun entry he => ?_).trans (List.map_id part)
    rw [if_neg fun hsame => h entry he (eq_of_beq hsame)]
    rfl
  have hknown : (before ++ (name, old) :: after).any (·.1 == name) = true :=
    List.any_eq_true.2 ⟨_, List.mem_append_right _ List.mem_cons_self, beq_self_eq_true name⟩
  rw [put, if_pos hknown, List.map_append, List.map_cons, hkeep hbefore, hkeep hafter,
    if_pos (beq_self_eq_true name)]

theorem setMember_of_new {table : List (String × String)} {name : String}
    (h : ∀ entry ∈ table, entry.1 ≠ name) (value : Json) :
    Json.setMember name value (table.map entryValue) = table.map entryValue ++ [(name, value)] := by
  induction table with
  | nil => rfl
  | cons entry rest ih =>
    rw [List.map_cons, entryValue, Json.setMember, if_neg (h entry List.mem_cons_self),
      ih fun e he => h e (List.mem_cons_of_mem _ he)]
    rfl

theorem setMember_of_known {before after : List (String × String)} {name old : String}
    (hbefore : ∀ entry ∈ before, entry.1 ≠ name) (value : Json) :
    Json.setMember name value ((before ++ (name, old) :: after).map entryValue) =
      before.map entryValue ++ (name, value) :: after.map entryValue := by
  induction before with
  | nil =>
    rw [List.nil_append, List.map_cons, entryValue, Json.setMember, if_pos rfl]
    rfl
  | cons entry rest ih =>
    rw [List.cons_append, List.map_cons, entryValue, Json.setMember,
      if_neg (hbefore entry List.mem_cons_self),
      ih fun e he => hbefore e (List.mem_cons_of_mem _ he)]
    rfl

/-- A name is new to a table, or has one entry. -/
theorem new_or_known {table : List (String × String)} (h : DistinctNames table) (name : String) :
    (∀ entry ∈ table, entry.1 ≠ name) ∨
      ∃ before old after, table = before ++ (name, old) :: after ∧
        (∀ entry ∈ before, entry.1 ≠ name) ∧ ∀ entry ∈ after, entry.1 ≠ name := by
  by_cases hnew : ∀ entry ∈ table, entry.1 ≠ name
  · exact Or.inl hnew
  · simp only [not_forall, not_not] at hnew
    obtain ⟨⟨known, old⟩, hmem, rfl⟩ := hnew
    obtain ⟨before, after, rfl⟩ := List.append_of_mem hmem
    obtain ⟨-, hafter, hboth⟩ := List.pairwise_append.1 h
    refine Or.inr ⟨before, old, after, rfl, ?_, ?_⟩
    · exact fun entry he => hboth entry he _ List.mem_cons_self
    · exact fun entry he => ((List.pairwise_cons.1 hafter).1 entry he).symm

/-- Setting a member to a text puts the text into the table, and a table stays without repeated
names. -/
theorem setMember_entryValue {table : List (String × String)} (h : DistinctNames table)
    (name text : String) :
    Json.setMember name (.string text) (table.map entryValue) =
        (put table name text).map entryValue ∧
      DistinctNames (put table name text) := by
  rcases new_or_known h name with hnew | ⟨before, old, after, rfl, hbefore, hafter⟩
  · rw [setMember_of_new hnew, put_of_new hnew, List.map_append]
    refine ⟨rfl, List.pairwise_append.2 ⟨h, List.pairwise_singleton _ _, ?_⟩⟩
    intro entry he other ho
    rw [List.mem_singleton.1 ho]
    exact hnew entry he
  · rw [setMember_of_known hbefore, put_of_known hbefore hafter, List.map_append]
    refine ⟨rfl, ?_⟩
    obtain ⟨hfirst, hrest, hboth⟩ := List.pairwise_append.1 h
    obtain ⟨hhead, hrest⟩ := List.pairwise_cons.1 hrest
    refine List.pairwise_append.2 ⟨hfirst, List.pairwise_cons.2 ⟨hhead, hrest⟩, ?_⟩
    intro entry he other ho
    rcases List.mem_cons.1 ho with rfl | ho
    · exact hbefore entry he
    · exact hboth entry he other (List.mem_cons_of_mem _ ho)

theorem foldl_setMember_entryValue {table : List (String × String)} (h : DistinctNames table)
    (entries : List (String × String)) :
    (entries.map entryValue).foldl (fun acc m => Json.setMember m.1 m.2 acc)
        (table.map entryValue) = (putAll table entries).map entryValue ∧
      DistinctNames (putAll table entries) := by
  induction entries generalizing table with
  | nil => exact ⟨rfl, h⟩
  | cons entry rest ih =>
    obtain ⟨hset, hdistinct⟩ := setMember_entryValue h entry.1 entry.2
    rw [List.map_cons, List.foldl_cons]
    show List.foldl _ (Json.setMember entry.1 (.string entry.2) (table.map entryValue)) _ = _ ∧ _
    rw [hset]
    exact ih hdistinct

/-- Texts of distinct names are put one behind the other. -/
theorem putAll_of_distinct {table entries : List (String × String)}
    (h : DistinctNames (table ++ entries)) : putAll table entries = table ++ entries := by
  induction entries generalizing table with
  | nil => exact (List.append_nil table).symm
  | cons entry rest ih =>
    have hnew : ∀ e ∈ table, e.1 ≠ entry.1 := fun e he =>
      (List.pairwise_append.1 h).2.2 e he entry List.mem_cons_self
    have hput : table ++ [entry] ++ rest = table ++ entry :: rest := by
      rw [List.append_assoc, List.singleton_append]
    show putAll (put table entry.1 entry.2) rest = _
    rw [put_of_new hnew, ih, hput]
    rw [hput]
    exact h

/-- A table is read from an object whose members are texts. -/
theorem toTable_eq_ok_iff {document : Document} {table : List (String × String)} :
    toTable document = .ok table ↔ ∃ members entries, document = .object members ∧
      List.Forall₂ (fun member entry => member.1.text? = some entry.1 ∧
        member.2.toText = .ok entry.2) members entries ∧ table = putAll [] entries := by
  have hfold : ∀ (members : List (RawText × Document)) (start : List (String × String)),
      members.foldlM (fun table (name, value) => do
          let name ← validText name
          let value ← value.toText
          return put table name value) start = .ok table ↔
        ∃ entries, List.Forall₂ (fun member entry => member.1.text? = some entry.1 ∧
          member.2.toText = .ok entry.2) members entries ∧ table = putAll start entries := by
    intro members
    induction members with
    | nil =>
      intro start
      simp only [List.foldlM_nil, pure_eq_ok, List.forall₂_nil_left_iff, exists_eq_left]
      exact eq_comm
    | cons member rest ih =>
      intro start
      simp only [List.foldlM_cons, bind_eq_ok, pure_eq_ok, ih, validText_eq_ok_iff,
        List.forall₂_cons_left_iff]
      constructor
      · rintro ⟨_, ⟨name, hname, text, htext, rfl⟩, entries, hall, rfl⟩
        exact ⟨(name, text) :: entries, ⟨(name, text), entries, ⟨hname, htext⟩, hall, rfl⟩, rfl⟩
      · rintro ⟨_, ⟨⟨name, text⟩, entries, ⟨hname, htext⟩, hall, rfl⟩, rfl⟩
        exact ⟨_, ⟨name, hname, text, htext, rfl⟩, entries, hall, rfl⟩
  constructor
  · intro h
    unfold toTable at h
    split at h
    · next members =>
      obtain ⟨entries, hall, htable⟩ := (hfold members []).1 h
      exact ⟨members, entries, rfl, hall, htable⟩
    · exact absurd h mismatch_ne_ok
  · rintro ⟨members, entries, rfl, hall, htable⟩
    exact (hfold members []).2 ⟨entries, hall, htable⟩

theorem stable_toTable : Stable toTable := by
  intro depth document value table hvalue htable
  obtain ⟨members, entries, rfl, hall, rfl⟩ := toTable_eq_ok_iff.1 htable
  rw [jsonAt] at hvalue
  split at hvalue
  · cases hvalue
  · obtain ⟨values, hvalues, rfl⟩ := Option.map_eq_some_iff.1 hvalue
    have hentries : values = entries.map entryValue := by
      rw [jsonMembers_eq_some_iff] at hvalues
      clear hvalue htable
      induction hall generalizing values with
      | nil =>
        cases hvalues
        rfl
      | cons hfirst _ ih =>
        cases hvalues with
        | cons hvalue hrest =>
          rw [List.map_cons, ← ih _ hrest]
          refine congrArg (· :: _) (Prod.ext ?_ ?_)
          · exact Option.some.inj (hvalue.1.symm.trans hfirst.1)
          · obtain ⟨raw, hraw, htext⟩ := toText_eq_ok_iff.1 hfirst.2
            have hjson := hvalue.2
            rw [hraw, jsonAt, htext] at hjson
            exact (Option.some.inj hjson).symm
    obtain ⟨hmerged, hdistinct⟩ := foldl_setMember_entryValue (.nil : DistinctNames []) entries
    refine toTable_eq_ok_iff.2 ⟨_, putAll [] entries, rfl, ?_, ?_⟩
    · rw [hentries]
      show List.Forall₂ _ (ofMembers ((entries.map entryValue).foldl _ ([].map entryValue))) _
      rw [hmerged, ofMembers_eq_map, List.map_map, List.forall₂_map_left_iff, List.forall₂_same]
      exact fun entry _ => ⟨RawText.text?_ofString _, validText_ofString _⟩
    · have hall : DistinctNames ([] ++ putAll [] entries) := hdistinct
      exact (putAll_of_distinct hall).symm

end Document

/-! ### Manifests -/

theorem SubPackage.stable_ofDocument : Document.Stable SubPackage.ofDocument := by
  refine Document.stable_toRecord ?_ _ _
  rintro name hname draft
  rcases List.mem_pair.1 hname with rfl | rfl
  · exact Document.stable_toText.toOption.set fun root => { draft with root := root }
  · exact Document.stable_toText.toListOf.set fun pages => { draft with pages := pages }

theorem TabItem.stable_ofDocument : Document.Stable TabItem.ofDocument := by
  refine Document.stable_toRecord ?_ _ _
  rintro name hname draft
  rcases List.mem_pair.1 hname with rfl | rfl
  · exact Document.stable_toText.toOption.set fun icon => { draft with icon := icon }
  · exact Document.stable_toText.toOption.set fun icon => { draft with selectedIcon := icon }

namespace Manifest

theorem stable_tabsOfDocument : Document.Stable tabsOfDocument := by
  refine Document.stable_toRecord ?_ _ _
  intro name _ _
  exact TabItem.stable_ofDocument.toListOf

theorem stable_ofDocument : Document.Stable ofDocument := by
  refine Document.stable_toRecord ?_ _ _
  intro name hname draft
  simp only [List.mem_cons, List.not_mem_nil, or_false] at hname
  rcases hname with rfl | rfl | rfl | rfl | rfl | rfl
  · exact Document.stable_toText.toListOf.set fun pages => { draft with pages := pages }
  · exact SubPackage.stable_ofDocument.toListOf.set fun packages =>
      { draft with packages := packages }
  · exact SubPackage.stable_ofDocument.toListOf.set fun packages =>
      { draft with lowerPackages := packages }
  · exact Document.stable_toTable.set fun table => { draft with usingComponents := table }
  · exact Document.stable_toTable.set fun table => { draft with publicComponents := table }
  · exact stable_tabsOfDocument.toOption.set fun tabs => { draft with tabs := tabs }

/-- A manifest that is read as it stands is read from its value as well. -/
theorem ofDocument_ofJson {content : ByteArray} {manifest : Manifest} {value : Json}
    (h : read content = .ok manifest) (hvalue : Json.read? content.toList = some value) :
    ofDocument (Document.ofJson value) = .ok manifest := by
  obtain ⟨document, hdocument, hvalue⟩ := Option.bind_eq_some_iff.1 hvalue
  rw [read, hdocument] at h
  exact stable_ofDocument _ document value manifest hvalue h

end Manifest

end Minipack
