/-
References by address.

A style sheet or template refers to a resource by its public address, and to everything else by a
relative way (`Resolve.published_or_relative`).  The public address of a resource is the address of
the server, a slash and what its place is below the static folder (`Settings.publicUrl_eq`), so
where the server has no path of its own, the path part of the address is the way below the static
folder (`Resolve.Published.pathPart_specifier`).
-/
import Minipack.Proofs.Config.Places
import Minipack.Proofs.Resolve.Wording
import Minipack.Proofs.StaticServer

namespace Minipack

/-! ### Addresses -/

/-- Whether a character is written in an address as it is. -/
def isUnreserved (c : Char) : Bool :=
  c.isAlphanum || ['-', '.', '_', '~'].contains c

/-- Whether a step is a name of such characters. -/
def Component.isUnreserved : Component → Bool
  | .name text => text.toList.all Minipack.isUnreserved
  | _ => false

/-- An address of a scheme and an authority, with nothing but slashes behind. -/
def IsOrigin (address : String) : Prop :=
  ∃ scheme authority slashes : List Char,
    address.toList = scheme ++ "://".toList ++ authority ++ slashes ∧ ':' ∉ scheme ∧
      authority ≠ [] ∧ '/' ∉ authority ∧ ∀ c ∈ slashes, c = '/'

theorem isUnreserved_spec {c : Char} (h : isUnreserved c = true ∨ c = '/') :
    c ≠ '%' ∧ c ≠ '?' ∧ c ≠ '#' := by
  refine ⟨?_, ?_, ?_⟩
  all_goals
    rintro rfl
    exact absurd h (by decide)

namespace Settings

variable {settings : Settings} {p q : Path}

/-- A text that does not begin with a slash loses none. -/
theorem dropSlashes_of_head {text : List Char} (h : text.head? ≠ some '/') :
    dropSlashes text = text := by
  cases text with
  | nil => rfl
  | cons c rest =>
    refine List.dropWhile_cons_of_neg fun hc => h ?_
    rw [List.head?_cons, eq_of_beq hc]

/-- The address of what lies below the static folder. -/
theorem publicUrl_eq (hstatic : settings.static.isAbsolute = true)
    (h : p.strip? settings.static = some q) :
    settings.publicUrl p = String.ofList
      ((dropSlashes settings.publicAddress.toList.reverse).reverse ++ '/' :: q.text.toList) := by
  obtain ⟨hrelative, -⟩ := Path.strip?_spec (Path.components_ne_nil hstatic) h
  have hway : dropSlashes q.text.toList = q.text.toList :=
    dropSlashes_of_head fun hslash => Bool.eq_false_iff.1 hrelative (beq_iff_eq.2 hslash)
  unfold publicUrl
  dsimp only
  rw [h, Option.getD_some, hway]

/-- Slashes at the end of an origin are dropped. -/
theorem exists_address (h : IsOrigin settings.publicAddress) : ∃ scheme authority : List Char,
    (dropSlashes settings.publicAddress.toList.reverse).reverse =
      scheme ++ "://".toList ++ authority ∧ ':' ∉ scheme ∧ '/' ∉ authority := by
  obtain ⟨scheme, authority, slashes, haddress, hscheme, hne, hauthority, hslashes⟩ := h
  refine ⟨scheme, authority, ?_, hscheme, hauthority⟩
  obtain ⟨init, last, rfl⟩ := (List.eq_nil_or_concat authority).resolve_left hne
  rw [List.concat_eq_append] at haddress hauthority ⊢
  have hlast : last ≠ '/' := fun heq =>
    hauthority (List.mem_append_right _ (heq ▸ List.mem_singleton_self _))
  rw [haddress, dropSlashes, List.reverse_append, List.dropWhile_append_of_pos]
  · rw [← List.append_assoc, List.reverse_append, List.reverse_singleton, List.singleton_append,
      List.dropWhile_cons_of_neg (by simpa using hlast), List.reverse_cons, List.reverse_reverse]
  · intro c hc
    rw [hslashes c (List.mem_reverse.1 hc)]
    rfl

theorem components_staticDestination (hr : settings.Regular) {target : Path}
    (htarget : target.isAbsolute = true) : (settings.staticDestination target).components =
      settings.static.components ++ settings.wayOf target :=
  components_placeBelow hr hr.static.1 htarget

theorem isAbsolute_staticDestination (hr : settings.Regular) {target : Path}
    (htarget : target.isAbsolute = true) :
    (settings.staticDestination target).isAbsolute = true := by
  have hcomponents := components_staticDestination hr htarget
  rw [Path.components_of_isAbsolute hr.static.1] at hcomponents
  exact Path.isAbsolute_of_components hcomponents

/-- What is left of such a place below the static folder is the way of its file. -/
theorem exists_strip?_staticDestination (hr : settings.Regular) {target : Path}
    (htarget : target.isAbsolute = true) :
    ∃ q, (settings.staticDestination target).strip? settings.static = some q ∧
      q.body = settings.wayOf target := by
  have hcomponents := components_staticDestination hr htarget
  have habsolute := isAbsolute_staticDestination hr htarget
  cases hstrip : (settings.staticDestination target).strip? settings.static with
  | none =>
    unfold Path.strip? at hstrip
    dsimp only at hstrip
    rw [if_pos] at hstrip
    · split at hstrip <;> cases hstrip
    · exact List.isPrefixOf_iff_prefix.2 ⟨_, hcomponents.symm⟩
  | some q =>
    obtain ⟨-, hq⟩ := Path.strip?_spec (Path.components_ne_nil hr.static.1) hstrip
    exact ⟨q, rfl, List.append_cancel_left (hq.symm.trans hcomponents)⟩

end Settings

/-- Every character of a text but a slash stands in one of its pieces. -/
theorem Path.exists_piece_of_mem {text : List Char} {c : Char} (h : c ∈ text) :
    c = '/' ∨ ∃ piece ∈ pieces text, c ∈ piece := by
  induction text with
  | nil => cases h
  | cons first rest ih =>
    by_cases hslash : first = '/'
    · subst hslash
      rcases List.mem_cons.1 h with rfl | h
      · exact Or.inl rfl
      · refine (ih h).imp_right fun ⟨piece, hpiece, hc⟩ => ⟨piece, ?_, hc⟩
        rw [pieces_slash]
        exact List.mem_cons_of_mem _ hpiece
    · rw [pieces_cons_of_ne hslash]
      cases hpieces : pieces rest with
      | nil => exact absurd hpieces (pieces_ne_nil rest)
      | cons head tail =>
        rw [hpieces] at ih
        rw [List.modifyHead_cons]
        rcases List.mem_cons.1 h with rfl | h
        · exact Or.inr ⟨_, List.mem_cons_self, List.mem_cons_self⟩
        · refine (ih h).imp_right fun ⟨piece, hpiece, hc⟩ => ?_
          rcases List.mem_cons.1 hpiece with rfl | hpiece
          · exact ⟨_, List.mem_cons_self, List.mem_cons_of_mem _ hc⟩
          · exact ⟨piece, List.mem_cons_of_mem _ hpiece, hc⟩

/-- The text of a path of names that are unreserved has no other characters but slashes. -/
theorem Path.unreserved_of_body {q : Path} (h : ∀ c ∈ q.body, c.isUnreserved = true) :
    ∀ c ∈ q.text.toList, isUnreserved c = true ∨ c = '/' := by
  have hpieces : ∀ piece ∈ pieces q.text.toList, ∀ c ∈ piece, isUnreserved c = true := by
    intro piece hpiece c hc
    by_cases hidle : isIdle piece = true
    · rcases Bool.or_eq_true_iff.1 hidle with hnil | hdot
      · rw [List.isEmpty_iff.1 hnil] at hc
        cases hc
      · rw [eq_of_beq hdot, List.mem_singleton] at hc
        subst hc
        rfl
    · have hmem : componentOf piece ∈ q.body :=
        List.mem_map_of_mem (List.mem_filter.2 ⟨hpiece, by simpa using hidle⟩)
      have hname := h _ hmem
      unfold componentOf at hname
      split at hname
      · cases hname
      · refine List.all_eq_true.1 hname c ?_
        rwa [String.toList_ofList]
  intro c hc
  rcases exists_piece_of_mem hc with rfl | ⟨piece, hpiece, hmem⟩
  · exact Or.inr rfl
  · exact Or.inl (hpieces piece hpiece c hmem)

namespace Resolve

variable {config : Config} {disk : Disk} {file target : Path} {d : Dependency}

/-! ### Wording -/

/-- A query or fragment, or nothing. -/
def IsSuffix (suffix : String) : Prop :=
  ∀ c ∈ suffix.toList.head?, c = '?' ∨ c = '#'

/-- A reference to a resource: it is written to the static folder, and named by the address that it
has there, before a query or fragment. -/
structure Published (config : Config) (d : Dependency) : Prop where
  destination : d.destination = config.staticDestination d.target
  embedded : d.embedded = false
  worded : ∃ suffix, IsSuffix suffix ∧ d.specifier = config.publicUrl d.destination ++ suffix

theorem isSuffix_empty : IsSuffix "" :=
  nofun

theorem isSuffix_splitSuffix (specifier : String) : IsSuffix (splitSuffix specifier).2 := by
  intro c hc
  -- the suffix is what follows the characters that end no path
  have hsuffix (isPath : Char → Bool) (text : List Char) :
      text.drop (text.takeWhile isPath).length = text.dropWhile isPath := by
    have hdrop : (text.takeWhile isPath ++ text.dropWhile isPath).drop
        (text.takeWhile isPath).length = text.dropWhile isPath := List.drop_left
    rwa [List.takeWhile_append_dropWhile] at hdrop
  unfold splitSuffix at hc
  dsimp only at hc
  rw [String.toList_ofList, hsuffix] at hc
  have hends := List.head?_dropWhile_not (fun c => c != '?' && c != '#') specifier.toList
  rw [hc] at hends
  simpa [or_iff_not_imp_left] using hends

theorem published_staticDependency (file target : Path) (required : String) :
    Published config (staticDependency config file target required) := by
  unfold staticDependency
  dsimp only
  refine ⟨?_, ?_, "", isSuffix_empty, ?_⟩
  · rw [replaceWith_eq]
  · rw [replaceWith_eq]
  · rw [specifier_replaceWith_eq, replaceWith_eq, String.append_empty]
    split
    · next heq =>
      show required = _
      exact heq.symm
    · rfl

/-- A reference to a resource stays one with a query or fragment behind its address. -/
theorem Published.replaceWith (h : Published config d) {suffix : String}
    (hsuffix : IsSuffix suffix) :
    Published config (d.replaceWith (config.publicUrl d.destination ++ suffix)) := by
  by_cases heq : config.publicUrl d.destination ++ suffix = d.required
  · rw [Dependency.replaceWith, if_pos heq]
    exact h
  · refine ⟨?_, ?_, suffix, hsuffix, ?_⟩
    · rw [replaceWith_eq]
      exact h.destination
    · rw [replaceWith_eq]
      exact h.embedded
    · rw [specifier_replaceWith_eq, if_neg heq, replaceWith_eq]

/-- A reference to a compiled file is worded as a relative way. -/
theorem beginsWith_compiledReference (file target : Path) (required : String)
    (kind : Option ChunkKind) (suffix : String) :
    beginsWith (compiledReference config file target required kind suffix).dependency.specifier
      "." = true := by
  have hway : beginsWith (compiledSpecifier config file target ++ suffix) "." = true := by
    obtain ⟨rest, hrest, -⟩ := Path.relativeSpecifier_spec
      ((config.destination file).parent?.getD config.out) (config.destination target)
    rw [beginsWith, String.toList_append, compiledSpecifier, hrest]
    rfl
  simp only [compiledReference]
  rw [specifier_replaceWith_eq]
  split
  · next heq =>
    rw [heq] at hway
    exact hway
  · exact hway

/-! ### Resolvers -/

/-- A reference to a resource, or a relative one. -/
def PublishedOrRelative (config : Config) (d : Dependency) : Prop :=
  Published config d ∨ beginsWith d.specifier "." = true

theorem Made.published {specifier : String} {reference : Reference}
    (h : Made config disk file specifier reference) :
    PublishedOrRelative config reference.dependency := by
  cases h with
  | compiled _ => exact Or.inr (beginsWith_compiledReference file _ specifier _ _)
  | compiledAddress _ => exact Or.inr (beginsWith_compiledReference file _ specifier _ _)
  | copied =>
    dsimp only
    exact Or.inl (published_staticDependency file _ specifier)
  | copiedAddress htext =>
    dsimp only
    rw [htext]
    exact Or.inl ((published_staticDependency file _ specifier).replaceWith
      (isSuffix_splitSuffix specifier))

/-- The references of style sheets and templates are relative or name resources by their addresses.
-/
theorem published_or_relative (hkind : SourceKind.of? file = some .style ∨
    SourceKind.of? file = some .markup) {source : ByteArray} {resolved : Resolved}
    (h : resolveFile config disk file source = .ok resolved) :
    ∀ d ∈ resolved.dependencies, PublishedOrRelative config d := by
  have hreferring : SourceKind.of? file ≠ some .descriptor := by
    rcases hkind with hkind | hkind <;> rw [hkind] <;> exact nofun
  intro d hd
  obtain ⟨specifier, made, hmade, rfl⟩ := exists_made hreferring h d hd
  exact hmade.published

/-! ### What a server is asked for -/

/-- Where the server has no path of its own, the path part of an address below it is the way there,
up to a query or fragment. -/
theorem pathPart_of_origin {scheme authority way suffix : List Char} (hscheme : ':' ∉ scheme)
    (hauthority : '/' ∉ authority) (hway : ∀ c ∈ way, c ≠ '?' ∧ c ≠ '#')
    (hsuffix : ∀ c ∈ suffix.head?, c = '?' ∨ c = '#') :
    StaticServer.pathPart (String.ofList
      (scheme ++ "://".toList ++ authority ++ '/' :: way ++ suffix)) =
        "/" ++ String.ofList way := by
  have hscheme' : (scheme ++ "://".toList ++ authority ++ '/' :: way ++ suffix).dropWhile
      (· != ':') = "://".toList ++ (authority ++ '/' :: way ++ suffix) := by
    simp only [List.append_assoc]
    rw [List.dropWhile_append_of_pos fun c hc => bne_iff_ne.2 (ne_of_mem_of_not_mem hc hscheme)]
    rfl
  have hauthority' : (authority ++ '/' :: way ++ suffix).dropWhile (· != '/') =
      '/' :: way ++ suffix := by
    rw [List.append_assoc,
      List.dropWhile_append_of_pos fun c hc => bne_iff_ne.2 (ne_of_mem_of_not_mem hc hauthority)]
    rfl
  have hpath : StaticServer.pathOf ('/' :: way ++ suffix) = '/' :: way := by
    unfold StaticServer.pathOf
    rw [List.takeWhile_append_of_pos]
    · cases suffix with
      | nil => exact List.append_nil _
      | cons c rest =>
        rw [List.takeWhile_cons_of_neg, List.append_nil]
        rcases hsuffix c rfl with rfl | rfl <;> decide
    · intro c hc
      rcases List.mem_cons.1 hc with rfl | hc
      · rfl
      · simp [hway c hc]
  -- the scheme goes up to the colon, and the authority up to the next slash
  unfold StaticServer.pathPart
  dsimp only
  rw [String.toList_ofList, hscheme']
  have hdrop : ("://".toList ++ (authority ++ '/' :: way ++ suffix)).drop 3 =
      authority ++ '/' :: way ++ suffix := rfl
  rw [hdrop, hauthority', hpath]
  exact (String.ofList_cons).trans rfl

/-- The path part of the address of a resource is its way below the static folder. -/
theorem Published.pathPart_specifier (h : Published config d) (hr : config.toSettings.Regular)
    (horigin : IsOrigin config.publicAddress) {q : Path}
    (hstrip : d.destination.strip? config.static = some q)
    (hplain : ∀ c ∈ q.text.toList, c ≠ '?' ∧ c ≠ '#') :
    StaticServer.pathPart d.specifier = "/" ++ q.text := by
  obtain ⟨suffix, hsuffix, hspecifier⟩ := h.worded
  obtain ⟨scheme, authority, haddress, hscheme, hauthority⟩ := Settings.exists_address horigin
  have htext : d.specifier = String.ofList
      (scheme ++ "://".toList ++ authority ++ '/' :: q.text.toList ++ suffix.toList) := by
    rw [hspecifier, Settings.publicUrl_eq hr.static.1 hstrip, haddress,
      ← String.toList_inj, String.toList_append]
    simp only [String.toList_ofList]
  rw [htext, pathPart_of_origin hscheme hauthority hplain hsuffix, String.ofList_toList]

end Resolve

end Minipack
