/-
Specifiers reach what they are written for.

The specifier for a target in normal form says at its front that it starts in the folder itself or
above it (`Path.isDotted_relativeSpecifier`), whatever the names on the way begin with.  Read from
the folder it gives the target back, and two targets have one specifier exactly if they are the same
path (`Path.reached_relativeSpecifier`).
-/
import Minipack.Proofs.Path.Straight
import Minipack.Proofs.Path.Tidy

namespace Minipack.Path

/-- Whether a specifier is taken from the folder of its file, and not as a package or an address. -/
def IsDotted (specifier : String) : Prop :=
  specifier = ".." ∨ "./".toList <+: specifier.toList ∨ "../".toList <+: specifier.toList

instance (specifier : String) : Decidable (IsDotted specifier) :=
  inferInstanceAs (Decidable (_ ∨ _))

/-- A way that climbs is written as it is, and every other way gets `./` in front. -/
theorem isDotted_relativeSpecifier (base target : Path) :
    IsDotted (base.relativeSpecifier target) := by
  rw [relativeSpecifier]
  generalize (target.relativeTo base).text = way
  split
  · next hclimb =>
    rcases Bool.or_eq_true_iff.1 hclimb with hprefix | hup
    · exact Or.inr (Or.inr (List.isPrefixOf_iff_prefix.1 hprefix))
    · exact Or.inl (of_decide_eq_true hup)
  · refine Or.inr (Or.inl ?_)
    rw [String.toList_append]
    exact List.prefix_append _ _

variable {base target other : Path}

/-- The way to an absolute target depends on its components only. -/
theorem relativeTo_congr (htarget : target.isAbsolute = true) (h : other.Same target)
    (base : Path) : other.relativeTo base = target.relativeTo base := by
  have hother : other.isAbsolute = true := isAbsolute_of_same h.symm htarget
  have hnormal : other.normalComponents = target.normalComponents :=
    congrArg (fun steps => (cancel [] steps).reverse) h
  simp only [relativeTo, root_join_of_isAbsolute hother, root_join_of_isAbsolute htarget, hnormal]

/-- A straight path is the same path as its normal form. -/
theorem Straight.normalize_same (h : target.Straight) : target.normalize.Same target :=
  (components_normalize h.1).trans h.normalComponents

/-- A straight path that is tidy is written as its normal form. -/
theorem Straight.normalize_eq (h : target.Straight) (htidy : target.Tidy) :
    target.normalize = target := by
  obtain ⟨names, -, hcomponents⟩ := straight_iff.1 h
  rw [normalize, h.normalComponents, hcomponents, List.isEmpty_cons,
    if_neg Bool.false_ne_true, ← hcomponents]
  exact htidy

/-- What a specifier says of a target in normal form, seen from a folder. -/
structure Reached (base target : Path) : Prop where
  /-- Read from the folder, the specifier is the target, -/
  back : (base.joinSpecifier (base.relativeSpecifier target)).Same target
  /-- and with the same text when that has no needless slashes and dots. -/
  text : target.Tidy → base.joinSpecifier (base.relativeSpecifier target) = target
  dotted : IsDotted (base.relativeSpecifier target)
  /-- No other target has the specifier. -/
  own : ∀ other : Path, other.Straight →
    (base.relativeSpecifier other = base.relativeSpecifier target ↔ other.Same target)

theorem reached_relativeSpecifier (hbase : base.Straight) (htarget : target.Straight) :
    Reached base target := by
  have hback : ∀ {p : Path}, p.Straight →
      (base.joinSpecifier (base.relativeSpecifier p)).Same p := fun {p} hp => by
    rw [joinSpecifier_relativeSpecifier hbase.1 hp.1]
    exact hp.normalize_same
  refine ⟨hback htarget, fun htidy => ?_, isDotted_relativeSpecifier base target,
    fun other hother => ⟨fun heq => ?_, fun hsame => ?_⟩⟩
  · rw [joinSpecifier_relativeSpecifier hbase.1 htarget.1, htarget.normalize_eq htidy]
  · -- one specifier is read as one path
    have hread := hback hother
    rw [heq] at hread
    exact hread.symm.trans (hback htarget)
  · rw [relativeSpecifier, relativeSpecifier, relativeTo_congr htarget.1 hsame]

/-- A name that begins with two dots is no step back. -/
theorem reached_dots :
    Straight ⟨"/out/..a"⟩ ∧ Straight ⟨"/out/..a/.../..b"⟩ ∧
      relativeSpecifier ⟨"/out/..a"⟩ ⟨"/out/..a/.../..b"⟩ = "./.../..b" ∧
      relativeSpecifier ⟨"/out"⟩ ⟨"/out/..a"⟩ = "./..a" ∧
      relativeSpecifier ⟨"/out/..a"⟩ ⟨"/out"⟩ = ".." ∧
      Reached ⟨"/out/..a"⟩ ⟨"/out/..a/.../..b"⟩ := by
  have hbase : Straight ⟨"/out/..a"⟩ := by decide +kernel
  have htarget : Straight ⟨"/out/..a/.../..b"⟩ := by decide +kernel
  exact ⟨hbase, htarget, by decide +kernel, by decide +kernel, by decide +kernel,
    reached_relativeSpecifier hbase htarget⟩

end Minipack.Path
