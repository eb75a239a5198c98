/-
Linking packed modules.

A module of the table tells for each specifier of its code which key that means.  Both the
specifiers of the source and those of the compiled file are entered, and a later reference
overwrites what an earlier one has entered, so a text means the last reference that names it
(`Bundle.mem_requires_iff`).

All references that a script names by one compiled specifier lead to one place.  So the compiled
specifier of a reference means its own target, unless a later reference has that text in the source,
has another in the compiled file, and leads elsewhere (`Bundle.linked_of_compileAll`), which may
happen (`Bundle.misled_by_folder`).
-/
import Minipack.Proofs.Bundle.Outlets
import Minipack.Proofs.Compile.Current
import Minipack.Proofs.Compile.Invariant
import Minipack.Proofs.Compile.Steps
import Minipack.Proofs.Config.Places
import Minipack.Proofs.Resolve.Routes

namespace Minipack

namespace Bundle

variable {places : List Path} {dependencies : List Dependency} {d e : Dependency}
  {text key : String}

/-! ### The last reference -/

/-- Whether a reference to a packed destination names a text. -/
def names (places : List Path) (text : String) (d : Dependency) : Bool :=
  (key? places d.destination).isSome && d.specifiers.contains text

/-- The last reference to a packed destination that names a text. -/
def lastNaming? (places : List Path) (dependencies : List Dependency) (text : String) :
    Option Dependency :=
  dependencies.reverse.find? (names places text)

theorem names_iff : names places text d = true ↔
    (∃ key, key? places d.destination = some key) ∧ text ∈ d.specifiers := by
  rw [names, Bool.and_eq_true, Option.isSome_iff_exists, List.contains_iff_mem]

/-- What a reference enters into the table of its module. -/
def entered (places : List Path) (d : Dependency) : List (String × String) :=
  match key? places d.destination with
  | some key => d.specifiers.map fun specifier => (specifier, key)
  | none => []

theorem mem_entered_iff {entry : String × String} : entry ∈ entered places d ↔
    entry.1 ∈ d.specifiers ∧ key? places d.destination = some entry.2 := by
  unfold entered
  split
  · next key hkey =>
    rw [List.mem_map, hkey]
    constructor
    · rintro ⟨specifier, hs, rfl⟩
      exact ⟨hs, rfl⟩
    · rintro ⟨hs, hk⟩
      exact ⟨entry.1, hs, by rw [Option.some.inj hk]⟩
  · next hkey =>
    rw [hkey]
    exact ⟨nofun, nofun⟩

/-- What a reference enters for a text. -/
theorem find?_entered {entry : String × String} :
    (entered places d).reverse.find? (fun entry => compare text entry.1 == .eq) = some entry ↔
      text ∈ d.specifiers ∧ key? places d.destination = some entry.2 ∧ entry.1 = text := by
  constructor
  · intro h
    have hcompare := List.find?_some h
    have htext : text = entry.1 := Std.LawfulEqOrd.eq_of_compare (beq_iff_eq.1 hcompare)
    obtain ⟨hs, hk⟩ := mem_entered_iff.1 (List.mem_reverse.1 (List.mem_of_find?_eq_some h))
    exact ⟨htext ▸ hs, hk, htext.symm⟩
  · rintro ⟨hs, hk, rfl⟩
    have hmem : entry ∈ (entered places d).reverse :=
      List.mem_reverse.2 (mem_entered_iff.2 ⟨hs, hk⟩)
    cases hfind : (entered places d).reverse.find? fun other => compare entry.1 other.1 == .eq with
    | none =>
      have hne := List.find?_eq_none.1 hfind entry hmem
      rw [Std.ReflOrd.compare_self] at hne
      exact absurd rfl hne
    | some other =>
      -- all that a reference enters has one key
      have hcompare := List.find?_some hfind
      have hother : entry.1 = other.1 := Std.LawfulEqOrd.eq_of_compare (beq_iff_eq.1 hcompare)
      obtain ⟨-, hk'⟩ := mem_entered_iff.1 (List.mem_reverse.1 (List.mem_of_find?_eq_some hfind))
      rw [hk] at hk'
      rw [Prod.ext hother (Option.some.inj hk')]

/-- A text means the key of the last reference that names it. -/
theorem mem_requires_iff : (text, key) ∈ requires places dependencies ↔
    ∃ e, lastNaming? places dependencies text = some e ∧
      key? places e.destination = some key := by
  have hrequires : requires places dependencies =
      Keyed.ofList Prod.fst (dependencies.flatMap (entered places)) := rfl
  have hfind : (text, key) ∈ requires places dependencies ↔
      (dependencies.flatMap (entered places)).reverse.find?
        (fun entry => compare text entry.1 == .eq) = some (text, key) := by
    rw [hrequires, ← Keyed.find?_ofList, (Keyed.sorted_ofList _).find?_eq_some_iff]
    exact ⟨fun h => ⟨h, Std.ReflOrd.compare_self⟩, fun h => h.1⟩
  -- later entries win, so the last reference is asked first
  rw [hfind, List.reverse_flatMap, lastNaming?]
  induction dependencies.reverse with
  | nil => exact ⟨nofun, nofun⟩
  | cons d rest ih =>
    rw [List.flatMap_cons, List.find?_append, List.find?_cons]
    cases hnames : names places text d with
    | true =>
      obtain ⟨⟨key', hkey'⟩, hs⟩ := names_iff.1 hnames
      have hfound : (entered places d).reverse.find? (fun entry => compare text entry.1 == .eq) =
          some (text, key') := find?_entered.2 ⟨hs, hkey', rfl⟩
      show ((entered places d).reverse.find? _).or _ = _ ↔ _
      rw [hfound]
      constructor
      · intro h
        obtain rfl := (Prod.mk.inj (Option.some.inj h)).2
        exact ⟨d, rfl, hkey'⟩
      · rintro ⟨e, he, hkey⟩
        obtain rfl := Option.some.inj he
        rw [Option.some.inj (hkey'.symm.trans hkey)]
        rfl
    | false =>
      have hnone : (entered places d).reverse.find? (fun entry => compare text entry.1 == .eq) =
          none := by
        refine Option.eq_none_iff_forall_ne_some.2 fun entry hentry => ?_
        obtain ⟨hs, hk, -⟩ := find?_entered.1 hentry
        rw [names_iff.2 ⟨⟨_, hk⟩, hs⟩] at hnames
        cases hnames
      show ((entered places d).reverse.find? _).or _ = _ ↔ _
      rw [hnone]
      exact ih

/-- A reference is named by the specifier that the compiled file has. -/
theorem mem_specifiers_iff : text ∈ d.specifiers ↔
    text = d.specifier ∨ text = d.required ∧ d.specifier ≠ text := by
  unfold Dependency.specifiers Dependency.specifier
  cases d.replacement with
  | none => simpa using fun h _ => h
  | some replacement =>
    simp only [Option.toList_some, Option.getD_some, List.mem_cons, List.not_mem_nil, or_false]
    by_cases h : text = replacement
    · simp [h]
    · simp [h, Ne.symm h]

/-- There is a last reference that names what a reference to a packed destination is named by. -/
theorem exists_lastNaming (hd : d ∈ dependencies) (hkey : key? places d.destination = some key) :
    ∃ e ∈ dependencies, lastNaming? places dependencies d.specifier = some e ∧
      ∃ key', key? places e.destination = some key' ∧ d.specifier ∈ e.specifiers := by
  have hnames : names places d.specifier d = true :=
    names_iff.2 ⟨⟨key, hkey⟩, mem_specifiers_iff.2 (Or.inl rfl)⟩
  have hsome : (lastNaming? places dependencies d.specifier).isSome = true :=
    List.find?_isSome.2 ⟨d, List.mem_reverse.2 hd, hnames⟩
  obtain ⟨e, he⟩ := Option.isSome_iff_exists.1 hsome
  have hnames' := List.find?_some he
  obtain ⟨⟨key', hkey'⟩, hs⟩ := names_iff.1 hnames'
  exact ⟨e, List.mem_reverse.1 (List.mem_of_find?_eq_some he), he, key', hkey', hs⟩

end Bundle

/-! ### References of scripts -/

variable {config : Config} {disk : Disk} {file : Path} {d e : Dependency}

namespace Resolve

theorem compiled_of_scriptReference {specifier : String} {reference : Reference}
    (h : scriptReference config disk file specifier = .ok reference) :
    Compiled config file reference.dependency := by
  unfold scriptReference at h
  split at h
  · rw [← Except.ok.inj h]
    exact compiled_compiledReference file _ specifier _
  · cases h

theorem compiled_of_resolveScript {source : ByteArray} {resolved : Resolved}
    (h : resolveScript config disk file source = .ok resolved) :
    ∀ d ∈ resolved.dependencies, Compiled config file d :=
  forall_of_resolveRequires (fun _ _ => compiled_of_scriptReference) h

end Resolve

/-- A chunk of a script whose references are all named by the way to their targets. -/
def Chunk.Linked (config : Config) (chunk : Chunk) : Prop :=
  SourceKind.of? chunk.file = some .script →
    ∀ d ∈ chunk.dependencies, Resolve.Compiled config chunk.file d

namespace Compile

variable {registry : Registry} {task : Task} {chunk : Chunk}

/-- Without rules no loader adds references to those of a script. -/
theorem linked_of_compileFile (hrules : config.rules = [])
    (h : compileFile config disk registry task = .ok chunk) : chunk.Linked config := by
  intro hkind
  rw [file_of_compileFile h] at hkind ⊢
  obtain ⟨source, resolved, -, hresolved, hdependencies⟩ := dependencies_of_compileFile hrules h
  unfold Resolve.resolveFile at hresolved
  rw [hkind] at hresolved
  rw [hdependencies]
  exact Resolve.compiled_of_resolveScript hresolved

/-- Passes keep scripts linked, whatever they compile. -/
theorem invariant_linked (hrules : config.rules = []) :
    Invariant config disk (fun _ => True) (Chunk.Linked config) fun _ => True where
  compiled := fun _ _ h => ⟨linked_of_compileFile hrules h, fun _ _ => trivial⟩
  followed := fun _ => trivial
  merged := by
    intro chunk d hchunk _ _
    unfold Chunk.Linked
    rw [Chunk.addDestination_file, Chunk.addDestination_dependencies]
    exact hchunk

end Compile

namespace Resolve

/-! ### Where a specifier leads -/

/-- Without rules all files are written to absolute places. -/
theorem isAbsolute_destination (hrules : config.rules = []) (hout : config.out.isAbsolute = true)
    (file : Path) : (config.destination file).isAbsolute = true := by
  have hplain : config.destination file = config.outputFor file := by
    rw [Config.destination, Config.rule?, hrules]
    rfl
  have hchild : ∀ name, (config.out.child name).isAbsolute = true := fun name =>
    Path.isAbsolute_join hout _
  have hrebase : ∀ {base moved : Path}, file.rebase? base config.out = some moved →
      moved.isAbsolute = true := by
    intro base moved hmoved
    obtain ⟨way, -, rfl⟩ := Option.map_eq_some_iff.1 hmoved
    exact Path.isAbsolute_join hout _
  rw [hplain, Settings.outputFor, Settings.placeBelow]
  split
  · exact Path.isAbsolute_join (hchild _) _
  · split
    · next hsrc => exact hrebase hsrc
    · split
      · next hroot => exact hrebase hroot
      · exact hchild _

/-- References of a script that its compiled file names alike lead to one place. -/
theorem normalize_eq_of_specifier (hrules : config.rules = []) (hout : config.out.isAbsolute = true)
    (hd : Compiled config file d) (he : Compiled config file e) (h : e.specifier = d.specifier) :
    e.destination.normalize = d.destination.normalize := by
  have hbase : ((config.destination file).parent?.getD config.out).isAbsolute = true :=
    Path.isAbsolute_parent (isAbsolute_destination hrules hout file) hout
  have hway : ∀ {d : Dependency}, Compiled config file d →
      ((config.destination file).parent?.getD config.out).joinSpecifier d.specifier =
        d.destination.normalize := by
    intro d hd
    rw [hd.specifier, hd.destination]
    exact Path.joinSpecifier_relativeSpecifier hbase
      (isAbsolute_destination hrules hout d.target)
  rw [← hway he, ← hway hd, h]

end Resolve

/-! ### The table of a module -/

namespace Bundle

/-- Once files are compiled, the compiled specifier of a reference to a packed module means that
module exactly when the last reference that names it leads there; and that one does, unless it has
the text in its source and another in its compiled file. -/
theorem linked_of_compileAll (hrules : config.rules = []) (hout : config.out.isAbsolute = true)
    {registry after : Registry} (hregistry : ∀ chunk ∈ registry.chunks, chunk.Linked config)
    {tasks : List Task} (hafter : (Compile.compileAll config disk registry tasks).registry = after)
    {m n : Module} (hm : m ∈ modules (packed after)) (hn : n ∈ modules (packed after))
    (hkind : SourceKind.of? m.chunk.file = some .script) (hd : d ∈ m.chunk.dependencies)
    (hplace : d.destination.Same n.destination) :
    ∃ e ∈ m.chunk.dependencies,
      lastNaming? (primaries (packed after)) m.chunk.dependencies d.specifier = some e ∧
      ((d.specifier, n.key) ∈ m.requires ↔ e.destination.Same d.destination) ∧
      (e.destination.normalize = d.destination.normalize ∨
        e.required = d.specifier ∧ e.specifier ≠ d.specifier) := by
  have hlinked : ∀ d ∈ m.chunk.dependencies, Resolve.Compiled config m.chunk.file d := by
    have hinvariant : Compile.Invariant config disk _ _ _ := Compile.invariant_linked hrules
    have hall : ∀ chunk ∈ after.chunks, chunk.Linked config := by
      rw [← hafter]
      exact hinvariant.compileAll (fun _ _ => trivial) hregistry
    exact hall m.chunk (mem_of_mem_packed (modules_spec hm).1) hkind
  have hkey : key? (primaries (packed after)) d.destination = some n.key := by
    rw [key?_congr hplace, (modules_spec hn).2.2.1]
  obtain ⟨e, he, hlast, key, hekey, hspecifier⟩ := exists_lastNaming hd hkey
  refine ⟨e, he, hlast, ?_, ?_⟩
  · rw [(modules_spec hm).2.2.2, mem_requires_iff, hlast]
    constructor
    · rintro ⟨e', he', hkey'⟩
      obtain rfl := Option.some.inj he'
      exact (key_eq_iff hkey' hkey).1 rfl
    · intro h
      exact ⟨e, rfl, by rw [key?_congr h, hkey]⟩
  · rcases mem_specifiers_iff.1 hspecifier with heq | ⟨heq, hne⟩
    · refine Or.inl ?_
      exact Resolve.normalize_eq_of_specifier hrules hout (hlinked d hd) (hlinked e he) heq.symm
    · exact Or.inr ⟨heq.symm, hne⟩

/-! ### A misled specifier -/

/-- A script that requires a file next to the source folder, and a folder that has its name. -/
def clash : Disk where
  entries := [
    (["p"], .folder),
    (["p", "src"], .folder),
    (["p", "src", "app.js"], .file "require('../x.js');require('./x.js')".toUTF8),
    (["p", "src", "x.js"], .folder),
    (["p", "src", "x.js", "index.js"], .file "i".toUTF8),
    (["p", "x.js"], .file "x".toUTF8)]
  current := []

/-- The chunks of the script and of what it requires. -/
def clashing : Registry :=
  (Compile.compileAll (.of ⟨"/p"⟩) clash {} [{ file := ⟨"/p/src/app.js"⟩ }]).registry

theorem exists_clashing : ∃ m ∈ modules (packed clashing), ∃ n ∈ modules (packed clashing),
    SourceKind.of? m.chunk.file = some .script ∧ ∃ d ∈ m.chunk.dependencies,
      d.destination.Same n.destination ∧ (d.specifier, n.key) ∉ m.requires := by
  have hsteps : ∃ pass ∈ Compile.Pass.runUpTo (.of ⟨"/p"⟩) clash 4 { registry := {} }
      [{ file := ⟨"/p/src/app.js"⟩ }], pass.firstError = none ∧
      ∃ m ∈ modules (pass.merged.1.chunks.filter participates),
        ∃ n ∈ modules (pass.merged.1.chunks.filter participates),
          SourceKind.of? m.chunk.file = some .script ∧ ∃ d ∈ m.chunk.dependencies,
            d.destination.Same n.destination ∧ (d.specifier, n.key) ∉ m.requires := by
    decide +kernel
  obtain ⟨pass, hpass, hnone, hclash⟩ := hsteps
  obtain rfl := Compile.Pass.run_eq_of_runUpTo hpass
  have hsorted : clashing.Sorted := Compile.sorted_compileAll Registry.Sorted.empty _ _ _
  rw [packed_eq hsorted, clashing, Compile.compileAll_of_none hnone]
  exact hclash

/-- The specifier that the script has for the file next to its folder means the folder. -/
theorem misled_by_folder : ∃ m ∈ modules (packed clashing), ∃ n ∈ modules (packed clashing),
    SourceKind.of? m.chunk.file = some .script ∧ ∃ d ∈ m.chunk.dependencies,
      d.destination.Same n.destination ∧ (d.specifier, n.key) ∉ m.requires :=
  exists_clashing

/-- The last reference that names it leads elsewhere. -/
theorem linked_of_clashing : ∃ m ∈ modules (packed clashing), ∃ n ∈ modules (packed clashing),
    ∃ d ∈ m.chunk.dependencies, d.destination.Same n.destination ∧
      ∃ e ∈ m.chunk.dependencies,
        lastNaming? (primaries (packed clashing)) m.chunk.dependencies d.specifier = some e ∧
        ((d.specifier, n.key) ∈ m.requires ↔ e.destination.Same d.destination) ∧
        (e.destination.normalize = d.destination.normalize ∨
          e.required = d.specifier ∧ e.specifier ≠ d.specifier) := by
  obtain ⟨m, hm, n, hn, hkind, d, hd, hplace, -⟩ := exists_clashing
  have hnew : ∀ chunk ∈ ({} : Registry).chunks, chunk.Linked (.of ⟨"/p"⟩) := nofun
  exact ⟨m, hm, n, hn, d, hd, hplace,
    linked_of_compileAll rfl (by decide +kernel) hnew rfl hm hn hkind hd hplace⟩

end Bundle

end Minipack
