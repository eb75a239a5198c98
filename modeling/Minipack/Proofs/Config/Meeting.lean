/-
Which files are written to one place.

A file is compiled to where its trail leads from the output folder, up to an extension that a rule
swaps, and it is copied to where its trail leads from the static folder.  The trail and the base in
front of it tell files apart (`Settings.same_of_trailOf`).  So different files come to one place
only for one of three reasons (`Config.meet_of_goesTo`): they have one trail behind different bases,
or rules give one name to files next to each other, or the one is compiled and the other copied,
where the two folders of the output lie in each other.
-/
import Minipack.Proofs.Config.Places
import Minipack.Proofs.Disk.Spelling

namespace Minipack.Config

variable {config : Config} {file other p q : Path} {name : String}

/-! ### Where files go -/

/-- The file is written there when it is compiled. -/
def CompiledTo (config : Config) (file p : Path) : Prop :=
  ∃ spelling : Path, spelling.Same file ∧ p.Same (config.destination spelling)

/-- The file is written there when it is a resource. -/
def CopiedTo (config : Config) (file p : Path) : Prop :=
  ∃ spelling : Path, spelling.Same file ∧ p.Same (config.staticDestination spelling)

/-- The file is written there in one way or the other. -/
def GoesTo (config : Config) (file p : Path) : Prop :=
  config.CompiledTo file p ∨ config.CopiedTo file p

theorem CompiledTo.of_same (h : config.CompiledTo file p) (hs : p.Same q) :
    config.CompiledTo file q := by
  obtain ⟨spelling, hspelling, hp⟩ := h
  exact ⟨spelling, hspelling, hs.symm.trans hp⟩

theorem CopiedTo.of_same (h : config.CopiedTo file p) (hs : p.Same q) :
    config.CopiedTo file q := by
  obtain ⟨spelling, hspelling, hp⟩ := h
  exact ⟨spelling, hspelling, hs.symm.trans hp⟩

theorem GoesTo.of_same (h : config.GoesTo file p) (hs : p.Same q) : config.GoesTo file q :=
  h.imp (fun h => h.of_same hs) fun h => h.of_same hs

/-- A file that can be read: it ends in a name and is no folder of the layout. -/
structure Sited (config : Config) (file : Path) : Prop where
  absolute : file.isAbsolute = true
  named : ∃ name, file.fileName? = some name
  src : ¬ file.Same config.src
  root : ¬ file.Same config.root

theorem Sited.trail_ne_nil (ha : config.Anchored) (h : config.Sited file) :
    config.trailOf file ≠ [] := by
  obtain ⟨name, hname⟩ := h.named
  exact Settings.trailOf_ne_nil ha.settings hname h.src h.root

/-- Where a file is compiled to, its trail leads from the output folder, up to the last name. -/
theorem exists_trail_of_compiledTo (ha : config.Anchored) (h : config.Sited file)
    (hp : config.CompiledTo file p) (hname : p.fileName? = some name) :
    ∃ init last, config.trailOf file = init ++ [.name last] ∧
      p.components = config.out.components ++ (init ++ [.name name]) := by
  obtain ⟨spelling, hspelling, hplace⟩ := hp
  have htrail : config.trailOf spelling = config.trailOf file := Settings.trailOf_congr hspelling
  have habsolute := Path.isAbsolute_of_same hspelling.symm h.absolute
  have hends : (config.destination spelling).fileName? = some name :=
    (Path.fileName?_of_same hplace).symm.trans hname
  obtain ⟨init, last, hinit, hdestination⟩ := exists_trail_of_destination ha habsolute
    (htrail ▸ h.trail_ne_nil ha) hends
  exact ⟨init, last, htrail.symm.trans hinit, Eq.trans hplace hdestination⟩

/-- Where it is copied to, its trail leads from the static folder. -/
theorem components_of_copiedTo (ha : config.Anchored) (h : config.Sited file)
    (hp : config.CopiedTo file p) :
    p.components = config.static.components ++ config.trailOf file := by
  obtain ⟨spelling, hspelling, hplace⟩ := hp
  have habsolute := Path.isAbsolute_of_same hspelling.symm h.absolute
  have htrail : config.trailOf spelling = config.trailOf file := Settings.trailOf_congr hspelling
  rw [← htrail]
  exact Eq.trans hplace
    (Settings.components_placeBelow_of_anchored ha.settings ha.settings.static habsolute)

/-! ### Files that meet -/

/-- Why two files are written to one place. -/
inductive Meet (config : Config) (file other p : Path) : Prop
  /-- They have one trail behind different bases. -/
  | alike : config.trailOf file = config.trailOf other → config.baseOf file ≠ config.baseOf other →
      config.CompiledTo file p ∧ config.CompiledTo other p ∨
        config.CopiedTo file p ∧ config.CopiedTo other p →
      Meet config file other p
  /-- Their trails differ in the last names alone, and these become one name when rules swap their
  extensions. -/
  | renamed {init : List Component} {last last' : String} :
      config.trailOf file = init ++ [.name last] → config.trailOf other = init ++ [.name last'] →
      last ≠ last' → config.CompiledTo file p → config.CompiledTo other p →
      Meet config file other p
  /-- The one is compiled to where the other is copied, as the folders of the output lie in each
  other. -/
  | crossed :
      config.out.components <+: config.static.components ∨
        config.static.components <+: config.out.components →
      config.CompiledTo file p ∧ config.CopiedTo other p ∨
        config.CopiedTo file p ∧ config.CompiledTo other p →
      Meet config file other p

theorem Meet.symm (h : config.Meet file other p) : config.Meet other file p := by
  cases h with
  | alike htrail hbase hp => exact .alike htrail.symm hbase.symm (hp.imp And.symm And.symm)
  | renamed htrail htrail' hne hfile hother =>
    exact .renamed htrail' htrail hne.symm hother hfile
  | crossed hnested hp => exact .crossed hnested (hp.symm.imp And.symm And.symm)

theorem Meet.of_same (h : config.Meet file other p) (hs : p.Same q) :
    config.Meet file other q := by
  cases h with
  | alike htrail hbase hp =>
    exact .alike htrail hbase (hp.imp (fun h => ⟨h.1.of_same hs, h.2.of_same hs⟩)
      fun h => ⟨h.1.of_same hs, h.2.of_same hs⟩)
  | renamed htrail htrail' hne hfile hother =>
    exact .renamed htrail htrail' hne (hfile.of_same hs) (hother.of_same hs)
  | crossed hnested hp =>
    exact .crossed hnested (hp.imp (fun h => ⟨h.1.of_same hs, h.2.of_same hs⟩)
      fun h => ⟨h.1.of_same hs, h.2.of_same hs⟩)

/-- A compiled file and a resource come to one place only below both folders. -/
theorem nested_of_goesTo (ha : config.Anchored) (hfile : config.Sited file)
    (hother : config.Sited other) (hp : config.CompiledTo file p) (hp' : config.CopiedTo other p)
    (hname : p.fileName? = some name) :
    config.out.components <+: config.static.components ∨
      config.static.components <+: config.out.components := by
  obtain ⟨init, last, -, hplace⟩ := exists_trail_of_compiledTo ha hfile hp hname
  have hout : config.out.components <+: p.components := hplace ▸ List.prefix_append _ _
  have hstatic : config.static.components <+: p.components :=
    components_of_copiedTo ha hother hp' ▸ List.prefix_append _ _
  exact List.prefix_or_prefix_of_prefix hout hstatic

/-- Different files that come to one place meet there. -/
theorem meet_of_goesTo (ha : config.Anchored) (hfile : config.Sited file)
    (hother : config.Sited other) (hne : ¬ file.Same other) (hp : config.GoesTo file p)
    (hp' : config.GoesTo other p) (hname : p.fileName? = some name) :
    config.Meet file other p := by
  have hbase (htrail : config.trailOf file = config.trailOf other) :
      config.baseOf file ≠ config.baseOf other := by
    obtain ⟨last, hlast⟩ := hfile.named
    obtain ⟨last', hlast'⟩ := hother.named
    exact fun hbase => hne (Settings.same_of_trailOf hlast hlast' htrail hbase)
  rcases hp with hp | hp <;> rcases hp' with hp' | hp'
  · -- both are compiled, and their trails lead there up to the last names
    obtain ⟨init, last, htrail, hplace⟩ := exists_trail_of_compiledTo ha hfile hp hname
    obtain ⟨init', last', htrail', hplace'⟩ := exists_trail_of_compiledTo ha hother hp' hname
    obtain ⟨rfl, -⟩ := List.append_inj' (List.append_cancel_left (hplace.symm.trans hplace')) rfl
    by_cases hlast : last = last'
    · have halike : config.trailOf file = config.trailOf other := by rw [htrail, htrail', hlast]
      exact .alike halike (hbase halike) (Or.inl ⟨hp, hp'⟩)
    · exact .renamed htrail htrail' hlast hp hp'
  · exact .crossed (nested_of_goesTo ha hfile hother hp hp' hname) (Or.inl ⟨hp, hp'⟩)
  · exact .crossed (nested_of_goesTo ha hother hfile hp' hp hname) (Or.inr ⟨hp, hp'⟩)
  · -- both are resources
    have halike : config.trailOf file = config.trailOf other :=
      List.append_cancel_left
        ((components_of_copiedTo ha hfile hp).symm.trans (components_of_copiedTo ha hother hp'))
    exact .alike halike (hbase halike) (Or.inr ⟨hp, hp'⟩)

end Minipack.Config
