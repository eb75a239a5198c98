/-
How compiled files name what they refer to.

In a compiled style sheet, template or script a reference is worded in one of two ways
(`Resolve.Worded`).  The target of a followed file is named by the way from the place of the
compiled file to that of the target, and a resource by its public address.  The query or fragment of
an address that is written in a style sheet stays behind the one or the other.

A way begins with a dot and a public address does not, so that what begins with a dot leads from the
folder of the compiled file to the place of the target (`Resolve.Worded.joinSpecifier`).
-/
import Minipack.Proofs.Path.Parent
import Minipack.Proofs.Path.Specifier
import Minipack.Proofs.Resolve.Routes

namespace Minipack.Resolve

variable {config : Config} {disk : Disk} {file target : Path} {d : Dependency}

/-- A followed reference is named by the way to its target or by an address, before a suffix that
its specifier has. -/
inductive Worded (config : Config) (file : Path) (d : Dependency) : Prop
  | way (suffix : String) : d.embedded = false →
      suffix = "" ∨ suffix = (splitSuffix d.required).2 →
      d.destination = config.destination d.target →
      d.specifier = compiledSpecifier config file d.target ++ suffix → Worded config file d
  | address (suffix : String) : d.embedded = false →
      d.specifier = config.publicUrl d.destination ++ suffix → Worded config file d

theorem Worded.embedded (h : Worded config file d) : d.embedded = false := by
  cases h with
  | way _ hembedded => exact hembedded
  | address _ hembedded => exact hembedded

/-! ### References -/

/-- The compiled file has the text that was put in place of the specifier. -/
theorem specifier_replaceWith_eq (d : Dependency) (text : String) :
    (d.replaceWith text).specifier = if text = d.required then d.specifier else text := by
  unfold Dependency.replaceWith
  split
  · rfl
  · rfl

theorem worded_compiledReference (file target : Path) (required : String)
    (kind : Option ChunkKind) {suffix : String}
    (hsuffix : suffix = "" ∨ suffix = (splitSuffix required).2) :
    Worded config file (compiledReference config file target required kind suffix).dependency := by
  simp only [compiledReference]
  apply Worded.way suffix
  · rw [replaceWith_eq]
  · rw [replaceWith_eq]
    exact hsuffix
  · rw [replaceWith_eq]
  · rw [specifier_replaceWith_eq, replaceWith_eq]
    split
    · next heq =>
      -- the text is the specifier as it was written
      show required = _
      exact heq.symm
    · rfl

theorem worded_staticDependency (file target : Path) (required : String) :
    Worded config file (staticDependency config file target required) := by
  unfold staticDependency
  apply Worded.address ""
  · rw [replaceWith_eq]
  · rw [specifier_replaceWith_eq, replaceWith_eq, String.append_empty]
    split
    · next heq =>
      show required = _
      exact heq.symm
    · rfl

/-- A public address keeps being one with another suffix. -/
theorem worded_replaceWith {suffix : String} (h : Worded config file d) :
    Worded config file (d.replaceWith (config.publicUrl d.destination ++ suffix)) := by
  by_cases heq : config.publicUrl d.destination ++ suffix = d.required
  · rw [Dependency.replaceWith, if_pos heq]
    exact h
  · apply Worded.address suffix
    · rw [replaceWith_eq]
      exact h.embedded
    · rw [specifier_replaceWith_eq, if_neg heq, replaceWith_eq]

theorem Made.worded {specifier : String} {reference : Reference}
    (h : Made config disk file specifier reference) : Worded config file reference.dependency := by
  cases h with
  | compiled _ => exact worded_compiledReference file _ specifier _ (Or.inl rfl)
  | compiledAddress _ => exact worded_compiledReference file _ specifier none (Or.inr rfl)
  | copied =>
    dsimp only
    exact worded_staticDependency file _ specifier
  | copiedAddress htext =>
    dsimp only
    rw [htext]
    exact worded_replaceWith (worded_staticDependency file _ specifier)

/-- All references of a style sheet, a template or a script are worded in one of the two ways. -/
theorem worded_of_resolveFile (hkind : SourceKind.of? file ≠ some .descriptor) {source : ByteArray}
    {resolved : Resolved} (h : resolveFile config disk file source = .ok resolved) :
    ∀ d ∈ resolved.dependencies, Worded config file d := by
  intro d hd
  obtain ⟨specifier, made, hmade, rfl⟩ := exists_made hkind h d hd
  exact hmade.worded

/-! ### Relative specifiers -/

/-- A public address begins like the address that the configuration gives. -/
theorem not_beginsWith_publicUrl (hremote : Config.isRemoteAddress config.publicAddress = true)
    (p : Path) (suffix : String) : beginsWith (config.publicUrl p ++ suffix) "." = false := by
  have hhttp : ∃ rest, config.publicAddress.toList = 'h' :: rest := by
    rcases Bool.or_eq_true_iff.1 hremote with h | h
    all_goals
      obtain ⟨rest, hrest⟩ := List.isPrefixOf_iff_prefix.1 h
      exact ⟨_, hrest.symm⟩
  obtain ⟨rest, hrest⟩ := hhttp
  have hkept : ∃ kept, (Settings.dropSlashes config.publicAddress.toList.reverse).reverse =
      'h' :: kept := by
    -- no slash stands before the first letter
    rw [hrest, Settings.dropSlashes, List.reverse_cons, List.dropWhile_append]
    split
    · exact ⟨[], rfl⟩
    · exact ⟨_, by rw [List.reverse_append]; rfl⟩
  obtain ⟨kept, hkept⟩ := hkept
  simp only [beginsWith, String.toList_append, Settings.publicUrl, hkept, String.toList_ofList]
  rfl

/-- A relative specifier leads from the folder of the compiled file to the place of the target. -/
theorem Worded.joinSpecifier (h : Worded config file d)
    (hremote : Config.isRemoteAddress config.publicAddress = true)
    (hrelative : beginsWith d.specifier "." = true)
    (hfile : ((config.destination file).parent?.getD config.out).isAbsolute = true)
    (htarget : (config.destination d.target).isAbsolute = true) :
    ∃ path suffix, d.specifier = path ++ suffix ∧
      (suffix = "" ∨ suffix = (splitSuffix d.required).2) ∧
      ((config.destination file).parent?.getD config.out).joinSpecifier path =
        d.destination.normalize := by
  cases h with
  | way suffix _ hsuffix hdestination hspecifier =>
    refine ⟨_, suffix, hspecifier, hsuffix, ?_⟩
    rw [hdestination]
    exact Path.joinSpecifier_relativeSpecifier hfile htarget
  | address suffix _ hspecifier =>
    rw [hspecifier, not_beginsWith_publicUrl hremote] at hrelative
    cases hrelative

end Minipack.Resolve
