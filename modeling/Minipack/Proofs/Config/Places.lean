/-
Where files are written.

The place of a file is a folder of the output and the way of the file (`Settings.wayOf`): behind its
last `node_modules` folder when it is a file of a package, and else below the source folder, below
the root, or its bare name (`Settings.components_placeBelow`).  A rule swaps the extension of the
last name (`Config.components_destination`).

The steps of a way are steps of the path of the file.  So the places of a straight path lie below
the folders of the output (`Config.below_destination`, `Settings.below_staticDestination`), while a
`..` step of a path is a `..` step of its places.
-/
import Minipack.Config.Basic
import Minipack.Proofs.Path.Moves

namespace Minipack

/-! ### Below a folder -/

/-- The path leads below a folder, when its `..` steps are taken. -/
def Path.Below (p folder : Path) : Prop :=
  folder.normalComponents <+: p.normalComponents ∧ p.normalComponents ≠ folder.normalComponents

instance (p folder : Path) : Decidable (p.Below folder) :=
  inferInstanceAs (Decidable (_ ∧ _))

/-- Names behind a straight folder lead below it. -/
theorem Path.below_of_components {p folder : Path} (hfolder : folder.Straight)
    {names : List Component} (hnames : ∀ c ∈ names, c.IsName) (hne : names ≠ [])
    (h : p.components = folder.components ++ names) : p.Below folder := by
  obtain ⟨steps, hsteps, hcomponents⟩ := Path.straight_iff.1 hfolder
  have hstraight : p.Straight := by
    refine Path.straight_iff.2 ⟨steps ++ names, fun c hc => ?_, ?_⟩
    · exact (List.mem_append.1 hc).elim (hsteps c) (hnames c)
    · rw [h, hcomponents]
      rfl
  unfold Path.Below
  rw [hstraight.normalComponents, hfolder.normalComponents, h]
  exact ⟨List.prefix_append _ _, fun he => hne (List.append_right_eq_self.1 he)⟩

/-! ### The way of a file -/

namespace Settings

/-- The steps behind the folder of the output to which a file goes. -/
def wayOf (settings : Settings) (file : Path) : List Component :=
  match afterPackages? file.components with
  | some way => .name settings.npm :: way
  | none =>
    if settings.src.components <+: file.components then
      file.components.drop settings.src.components.length
    else if settings.root.components <+: file.components then
      file.components.drop settings.root.components.length
    else (file.fileName?.map Component.name).toList

/-- The folders are straight, and packages go to a folder of one name. -/
structure Regular (settings : Settings) : Prop where
  root : settings.root.Straight
  src : settings.src.Straight
  out : settings.out.Straight
  static : settings.static.Straight
  npm : Component.IsName (.name settings.npm)

/-- The folders are absolute, and packages go below the folders of the output. -/
structure Anchored (settings : Settings) : Prop where
  root : settings.root.isAbsolute = true
  src : settings.src.isAbsolute = true
  out : settings.out.isAbsolute = true
  static : settings.static.isAbsolute = true
  npm : Path.isAbsolute ⟨settings.npm⟩ = false ∧ Path.body ⟨settings.npm⟩ ≠ []

instance (settings : Settings) : Decidable settings.Anchored :=
  decidable_of_iff (settings.root.isAbsolute = true ∧ settings.src.isAbsolute = true ∧
      settings.out.isAbsolute = true ∧ settings.static.isAbsolute = true ∧
      Path.isAbsolute ⟨settings.npm⟩ = false ∧ Path.body ⟨settings.npm⟩ ≠ [])
    ⟨fun ⟨hroot, hsrc, hout, hstatic, hnpm⟩ => ⟨hroot, hsrc, hout, hstatic, hnpm⟩,
      fun h => ⟨h.root, h.src, h.out, h.static, h.npm⟩⟩

/-- The way of a file, where the folder of packages may be any path below those of the output. -/
def trailOf (settings : Settings) (file : Path) : List Component :=
  match afterPackages? file.components with
  | some way => Path.body ⟨settings.npm⟩ ++ way
  | none => settings.wayOf file

variable {settings : Settings} {file target : Path}

theorem Regular.anchored (hr : settings.Regular) : settings.Anchored where
  root := hr.root.1
  src := hr.src.1
  out := hr.out.1
  static := hr.static.1
  npm := ⟨Path.isAbsolute_of_isName hr.npm, by rw [Path.body_of_isName hr.npm]; simp⟩

theorem trailOf_eq (hr : settings.Regular) (file : Path) :
    settings.trailOf file = settings.wayOf file := by
  unfold trailOf
  split
  · next way hway =>
    rw [Path.body_of_isName hr.npm, wayOf, hway]
    rfl
  · rfl

/-- The ways of two spellings of a path are the same. -/
theorem wayOf_congr {other : Path} (hs : file.Same other) :
    settings.wayOf file = settings.wayOf other := by
  have hcomponents : file.components = other.components := hs
  unfold wayOf Path.fileName?
  rw [hcomponents]

theorem trailOf_congr {other : Path} (hs : file.Same other) :
    settings.trailOf file = settings.trailOf other := by
  have hcomponents : file.components = other.components := hs
  unfold trailOf
  rw [hcomponents, wayOf_congr hs]

/-- What follows the last `node_modules` step stands behind it. -/
theorem eq_of_afterPackages? {steps way : List Component} (h : afterPackages? steps = some way) :
    ∃ before, steps = before ++ .name "node_modules" :: way := by
  induction steps with
  | nil => cases h
  | cons c rest ih =>
    rw [afterPackages?] at h
    split at h
    · next found hfound =>
      obtain rfl := Option.some.inj h
      obtain ⟨before, hbefore⟩ := ih hfound
      exact ⟨c :: before, by rw [hbefore, List.cons_append]⟩
    · split at h
      · next hc =>
        obtain rfl := Option.some.inj h
        exact ⟨[], by rw [hc, List.nil_append]⟩
      · cases h

/-- The steps of a file behind a folder are steps of its body. -/
theorem mem_body_of_drop {base : Path} (hfile : file.isAbsolute = true)
    (hbase : base.isAbsolute = true) {c : Component}
    (hc : c ∈ file.components.drop base.components.length) : c ∈ file.body := by
  rw [Path.components_of_isAbsolute hbase, Path.components_of_isAbsolute hfile, List.length_cons,
    List.drop_succ_cons] at hc
  exact List.mem_of_mem_drop hc

/-- So are those behind its last `node_modules` folder. -/
theorem mem_body_of_afterPackages? (hfile : file.isAbsolute = true) {way : List Component}
    (hway : afterPackages? file.components = some way) {c : Component} (hc : c ∈ way) :
    c ∈ file.body := by
  obtain ⟨before, hbefore⟩ := eq_of_afterPackages? hway
  rw [Path.components_of_isAbsolute hfile] at hbefore
  cases before with
  | nil => cases (List.cons.inj hbefore).1
  | cons first before =>
    rw [(List.cons.inj hbefore).2]
    exact List.mem_append_right _ (List.mem_cons_of_mem _ hc)

/-- The steps of a way are the folder of packages and steps of the file. -/
theorem mem_wayOf (hr : settings.Regular) (hfile : file.isAbsolute = true) {c : Component}
    (hc : c ∈ settings.wayOf file) : c = .name settings.npm ∨ c ∈ file.body := by
  unfold wayOf at hc
  split at hc
  · next way hway => exact (List.mem_cons.1 hc).imp_right (mem_body_of_afterPackages? hfile hway)
  · split at hc
    · exact Or.inr (mem_body_of_drop hfile hr.src.1 hc)
    · split at hc
      · exact Or.inr (mem_body_of_drop hfile hr.root.1 hc)
      · obtain ⟨name, hname, rfl⟩ := Option.map_eq_some_iff.1 (Option.mem_toList.1 hc)
        exact Or.inr (Path.mem_body_of_mem (Path.mem_of_fileName? hname))

/-- The way of a straight path consists of names. -/
theorem isName_of_mem_wayOf (hr : settings.Regular) (hfile : file.Straight) {c : Component}
    (hc : c ∈ settings.wayOf file) : c.IsName := by
  rcases mem_wayOf hr hfile.1 hc with rfl | hmem
  · exact hr.npm
  · refine (Path.isStep_of_mem_body hmem).resolve_left ?_
    rintro rfl
    refine hfile.2 ?_
    rw [Path.components_of_isAbsolute hfile.1]
    exact List.mem_cons_of_mem _ hmem

/-! ### Places -/

theorem ne_nil_of_isAbsolute {p : Path} (h : p.isAbsolute = true) : p.text.toList ≠ [] := by
  obtain ⟨rest, hrest⟩ := Path.isAbsolute_iff.1 h
  rw [hrest]
  exact List.cons_ne_nil _ _

/-- A file moved from a folder to another keeps its steps behind the folder. -/
theorem components_rebase? {base moved : Path} (hbase : base.isAbsolute = true)
    (htarget : target.isAbsolute = true) (h : file.rebase? base target = some moved) :
    base.components <+: file.components ∧
      moved.components = target.components ++ file.components.drop base.components.length := by
  obtain ⟨way, hway, rfl⟩ := Option.map_eq_some_iff.1 h
  obtain ⟨hrelative, hcomponents⟩ := Path.strip?_spec (Path.components_ne_nil hbase) hway
  refine ⟨⟨_, hcomponents.symm⟩, ?_⟩
  rw [Path.components_join (ne_nil_of_isAbsolute htarget) hrelative, hcomponents, List.drop_left]

theorem not_prefix_of_rebase? {base : Path} (h : file.rebase? base target = none) :
    ¬ base.components <+: file.components := by
  intro hstart
  have hnone : file.strip? base = none := Option.map_eq_none_iff.1 h
  unfold Path.strip? at hnone
  dsimp only at hnone
  rw [if_pos (List.isPrefixOf_iff_prefix.2 hstart)] at hnone
  split at hnone <;> cases hnone

/-- A file is placed behind a folder of the output by its trail. -/
theorem components_placeBelow_of_anchored (ha : settings.Anchored)
    (htarget : target.isAbsolute = true) (hfile : file.isAbsolute = true) :
    (settings.placeBelow target (target.child settings.npm) file).components =
      target.components ++ settings.trailOf file := by
  unfold placeBelow packageWay? trailOf
  -- packages come first, then the sources, then the root
  cases hpackages : afterPackages? file.components with
  | some way =>
    have hsteps : ∀ c ∈ way, c.IsStep := fun c hc =>
      Path.isStep_of_mem_body (mem_body_of_afterPackages? hfile hpackages hc)
    have hpackage : (target.child settings.npm).isAbsolute = true :=
      Path.isAbsolute_join htarget _
    have hchild : (target.child settings.npm).components =
        target.components ++ Path.body ⟨settings.npm⟩ :=
      Path.components_join (ne_nil_of_isAbsolute htarget) ha.npm.1
    dsimp only [Option.map_some]
    rw [Path.components_join (ne_nil_of_isAbsolute hpackage) (Path.isAbsolute_ofComponents hsteps),
      Path.body_ofComponents hsteps, hchild, List.append_assoc]
  | none =>
    unfold wayOf
    rw [hpackages]
    dsimp only [Option.map_none]
    cases hsrc : file.rebase? settings.src target with
    | some moved =>
      obtain ⟨hstart, hmoved⟩ := components_rebase? ha.src htarget hsrc
      rw [if_pos hstart]
      exact hmoved
    | none =>
      rw [if_neg (not_prefix_of_rebase? hsrc)]
      dsimp only
      cases hroot : file.rebase? settings.root target with
      | some moved =>
        obtain ⟨hstart, hmoved⟩ := components_rebase? ha.root htarget hroot
        rw [if_pos hstart]
        exact hmoved
      | none =>
        rw [if_neg (not_prefix_of_rebase? hroot)]
        dsimp only
        cases hname : file.fileName? with
        | some name => exact Path.components_child target (Path.isName_of_fileName? hname)
        | none =>
          have hnothing : Path.body ⟨""⟩ = [] := rfl
          show (target.join ⟨""⟩).components = _
          rw [Path.components_join (ne_nil_of_isAbsolute htarget) rfl, hnothing]
          rfl

theorem isAbsolute_placeBelow (ha : settings.Anchored) (htarget : target.isAbsolute = true)
    (hfile : file.isAbsolute = true) :
    (settings.placeBelow target (target.child settings.npm) file).isAbsolute = true := by
  have hplace := components_placeBelow_of_anchored ha htarget hfile
  rw [Path.components_of_isAbsolute htarget] at hplace
  exact Path.isAbsolute_of_components hplace

/-- In a regular layout this is its way. -/
theorem components_placeBelow (hr : settings.Regular) (htarget : target.isAbsolute = true)
    (hfile : file.isAbsolute = true) :
    (settings.placeBelow target (target.child settings.npm) file).components =
      target.components ++ settings.wayOf file := by
  rw [components_placeBelow_of_anchored hr.anchored htarget hfile, trailOf_eq hr]

/-! ### The base of a way -/

/-- The steps in front of the way of a file: up to its last `node_modules` folder, the source
folder, the root, or the folder of the file. -/
def baseOf (settings : Settings) (file : Path) : List Component :=
  match afterPackages? file.components with
  | some way => file.components.take (file.components.length - way.length)
  | none =>
    if settings.src.components <+: file.components then settings.src.components
    else if settings.root.components <+: file.components then settings.root.components
    else file.components.dropLast

theorem not_mem_of_afterPackages? {steps : List Component} (h : afterPackages? steps = none) :
    .name "node_modules" ∉ steps := by
  induction steps with
  | nil => exact List.not_mem_nil
  | cons c rest ih =>
    rw [afterPackages?] at h
    split at h
    · cases h
    · next hrest =>
      split at h
      · cases h
      · next hc => exact List.not_mem_cons_of_ne_of_not_mem (Ne.symm hc) (ih hrest)

/-- The base of a package file ends in its `node_modules` folder. -/
theorem baseOf_of_package (settings : Settings) {way : List Component}
    (h : afterPackages? file.components = some way) :
    file.components = settings.baseOf file ++ way ∧
      .name "node_modules" ∈ settings.baseOf file := by
  obtain ⟨before, hbefore⟩ := eq_of_afterPackages? h
  have hsplit : file.components = (before ++ [.name "node_modules"]) ++ way := by
    rw [hbefore, List.append_assoc, List.singleton_append]
  have hbase : settings.baseOf file = before ++ [.name "node_modules"] := by
    rw [baseOf, h]
    dsimp only
    rw [hsplit, List.length_append, Nat.add_sub_cancel, List.take_left]
  rw [hbase]
  exact ⟨hsplit, List.mem_append_right _ (List.mem_singleton_self _)⟩

/-- Any other file that ends in a name is its base and its way. -/
theorem components_of_plain (h : afterPackages? file.components = none) {name : String}
    (hname : file.fileName? = some name) :
    file.components = settings.baseOf file ++ settings.wayOf file := by
  unfold baseOf wayOf
  rw [h]
  dsimp only
  split
  · next hstart => exact (List.prefix_iff_eq_append.1 hstart).symm
  · split
    · next hstart => exact (List.prefix_iff_eq_append.1 hstart).symm
    · obtain ⟨init, hinit⟩ := Path.exists_components_of_fileName? hname
      rw [hname, hinit, List.dropLast_concat]
      rfl

/-- Files with one base and one trail are the same file. -/
theorem same_of_trailOf {other : Path} {name name' : String} (hname : file.fileName? = some name)
    (hname' : other.fileName? = some name')
    (htrail : settings.trailOf file = settings.trailOf other)
    (hbase : settings.baseOf file = settings.baseOf other) : file.Same other := by
  have hplain {file : Path} {name : String} (h : afterPackages? file.components = none)
      (hname : file.fileName? = some name) : .name "node_modules" ∉ settings.baseOf file := by
    intro hmem
    refine not_mem_of_afterPackages? h ?_
    rw [components_of_plain h hname]
    exact List.mem_append_left _ hmem
  show file.components = other.components
  unfold trailOf at htrail
  -- only the base of a file of a package has `node_modules` in it
  cases h : afterPackages? file.components with
  | some way =>
    obtain ⟨hfile, hmem⟩ := baseOf_of_package settings h
    cases h' : afterPackages? other.components with
    | some way' =>
      obtain ⟨hother, -⟩ := baseOf_of_package settings h'
      rw [h, h'] at htrail
      rw [hfile, hother, hbase, List.append_cancel_left htrail]
    | none => exact absurd (hbase ▸ hmem) (hplain h' hname')
  | none =>
    cases h' : afterPackages? other.components with
    | some way' =>
      obtain ⟨-, hmem⟩ := baseOf_of_package settings h'
      exact absurd (hbase ▸ hmem) (hplain h hname)
    | none =>
      rw [h, h'] at htrail
      rw [components_of_plain h hname, components_of_plain h' hname', hbase]
      exact congrArg _ htrail

/-- Only the source folder and the root have no trail. -/
theorem trailOf_ne_nil (ha : settings.Anchored) {name : String} (hname : file.fileName? = some name)
    (hsrc : ¬ file.Same settings.src) (hroot : ¬ file.Same settings.root) :
    settings.trailOf file ≠ [] := by
  have hdrop {base : Path} (hbase : ¬ file.Same base)
      (hstart : base.components <+: file.components) :
      file.components.drop base.components.length ≠ [] := fun hnil =>
    hbase (hstart.eq_of_length_le (List.drop_eq_nil_iff.1 hnil)).symm
  unfold trailOf
  split
  · exact List.append_ne_nil_of_left_ne_nil ha.npm.2 _
  · next hplain =>
    unfold wayOf
    rw [hplain]
    dsimp only
    split
    · next hstart => exact hdrop hsrc hstart
    · split
      · next hstart => exact hdrop hroot hstart
      · rw [hname]
        exact List.cons_ne_nil _ _

/-- Only the folders of the layout have no way. -/
theorem wayOf_ne_nil (hr : settings.Regular) (hfile : file.Straight)
    (hsrc : ¬ file.Same settings.src) (hroot : ¬ file.Same settings.root)
    (hslash : file.components ≠ [.root]) : settings.wayOf file ≠ [] := by
  rw [← trailOf_eq hr]
  obtain ⟨names, hnames, hcomponents⟩ := Path.straight_iff.1 hfile
  rcases List.eq_nil_or_concat names with rfl | ⟨init, last, rfl⟩
  · exact absurd hcomponents hslash
  · rw [List.concat_eq_append] at hnames hcomponents
    obtain ⟨name, rfl, -⟩ := hnames last (List.mem_append_right _ (List.mem_singleton_self _))
    rw [← List.cons_append] at hcomponents
    exact trailOf_ne_nil hr.anchored (Path.fileName?_of_components hcomponents) hsrc hroot

/-- A resource of a straight path goes below the static folder. -/
theorem below_staticDestination (hr : settings.Regular) (hfile : file.Straight)
    (hway : settings.wayOf file ≠ []) : (settings.staticDestination file).Below settings.static :=
  Path.below_of_components hr.static (fun _ => isName_of_mem_wayOf hr hfile) hway
    (components_placeBelow hr hr.static.1 hfile.1)

end Settings

/-! ### Destinations -/

namespace Config

/-- The settings are regular, and so is the folder of the plugin; the extensions of rules are names
of more than dots. -/
structure Regular (config : Config) : Prop where
  settings : config.toSettings.Regular
  plugin : ∀ root ∈ config.pluginRoot, root.isAbsolute = true
  extnames : ∀ rule ∈ config.rules, ∀ extname ∈ rule.extname,
    '/' ∉ extname.toList ∧ extname.toList.dropWhile (· == '.') ≠ []

/-- The settings are anchored, and so is the folder of the plugin; the extensions of rules are names
of more than dots. -/
structure Anchored (config : Config) : Prop where
  settings : config.toSettings.Anchored
  plugin : ∀ root ∈ config.pluginRoot, root.isAbsolute = true
  extnames : ∀ rule ∈ config.rules, ∀ extname ∈ rule.extname,
    '/' ∉ extname.toList ∧ extname.toList.dropWhile (· == '.') ≠ []

variable {config : Config} {file : Path}

/-- The rule for a file is one of the rules. -/
theorem mem_of_rule? {rule : Rule} (h : config.rule? file = some rule) : rule ∈ config.rules :=
  List.mem_of_find?_eq_some h

/-- The last name of a place when its extension is swapped for that of a rule. -/
def renamed (extname name : String) : String :=
  String.ofList (Path.splitName name.toList).1 ++ "." ++
    String.ofList (extname.toList.dropWhile (· == '.'))

/-- A file without a place of its own: a folder of the layout, or one whose last name is a dot and
an extension, where the extension cannot be swapped. -/
def Placeless (config : Config) (file : Path) : Prop :=
  file.Same config.src ∨ file.Same config.root ∨ file.components = [.root] ∨
    ∃ last, (config.wayOf file).getLast? = some (.name last) ∧
      (Path.splitName last.toList).1 = ['.']

theorem Placeless.congr {other : Path} (hs : file.Same other) :
    config.Placeless file ↔ config.Placeless other := by
  have hcomponents : file.components = other.components := hs
  unfold Placeless Path.Same
  rw [hcomponents, Settings.wayOf_congr hs]

/-- What is left of an extension behind its dots can be put behind a stem. -/
theorem isName_extname {extname : String} (hslash : '/' ∉ extname.toList)
    (hne : extname.toList.dropWhile (· == '.') ≠ []) :
    '/' ∉ (String.ofList (extname.toList.dropWhile (· == '.'))).toList ∧
      (String.ofList (extname.toList.dropWhile (· == '.'))).isEmpty = false := by
  constructor
  · rw [String.toList_ofList]
    exact fun hm => hslash ((List.dropWhile_suffix _).subset hm)
  · refine Bool.eq_false_iff.2 fun he => hne ?_
    rw [← String.toList_ofList (l := extname.toList.dropWhile _), String.toList_eq_nil_iff]
    exact String.isEmpty_iff.1 he

/-- A file is written behind the output folder by its way, with the extension of its rule. -/
theorem components_destination (hr : config.Regular) (hfile : file.isAbsolute = true)
    {init : List Component} {last : String} (hway : config.wayOf file = init ++ [.name last])
    (hdots : (Path.splitName last.toList).1 ≠ ['.']) :
    (config.destination file).components = config.out.components ++ init ++
      [.name (((config.rule? file).bind Rule.extname).elim last fun extname =>
        renamed extname last)] := by
  have hplace : (config.outputFor file).components =
      config.out.components ++ init ++ [.name last] := by
    rw [List.append_assoc, ← hway]
    exact Settings.components_placeBelow hr.settings hr.settings.out.1 hfile
  unfold destination
  cases hextname : (config.rule? file).bind Rule.extname with
  | none => exact hplace
  | some extname =>
    obtain ⟨rule, hrule, hext⟩ := Option.bind_eq_some_iff.1 hextname
    obtain ⟨hslash, hne⟩ := hr.extnames rule (mem_of_rule? hrule) extname hext
    have habsolute : (config.outputFor file).isAbsolute = true := by
      rw [Path.components_of_isAbsolute hr.settings.out.1] at hplace
      exact Path.isAbsolute_of_components hplace
    obtain ⟨hclean, hnonempty⟩ := isName_extname hslash hne
    exact (Path.components_withExtension habsolute hplace hclean hnonempty).resolve_right
      fun h => hdots h.1

/-- A file is written where its trail leads, or a rule swaps the extension there. -/
theorem destination_cases (ha : config.Anchored) (file : Path) :
    config.destination file = config.outputFor file ∨
      ∃ ext : String, '/' ∉ ext.toList ∧ ext.isEmpty = false ∧
        config.destination file = (config.outputFor file).withExtension ext := by
  unfold destination
  cases hextname : (config.rule? file).bind Rule.extname with
  | none => exact Or.inl rfl
  | some extname =>
    obtain ⟨rule, hrule, hext⟩ := Option.bind_eq_some_iff.1 hextname
    obtain ⟨hslash, hne⟩ := ha.extnames rule (mem_of_rule? hrule) extname hext
    obtain ⟨hclean, hnonempty⟩ := isName_extname hslash hne
    exact Or.inr ⟨_, hclean, hnonempty, rfl⟩

theorem isAbsolute_destination (ha : config.Anchored) (hfile : file.isAbsolute = true) :
    (config.destination file).isAbsolute = true := by
  have hplace : (config.outputFor file).isAbsolute = true :=
    Settings.isAbsolute_placeBelow ha.settings ha.settings.out hfile
  rcases destination_cases ha file with heq | ⟨ext, hslash, hne, heq⟩ <;> rw [heq]
  · exact hplace
  · exact Path.isAbsolute_withExtension hplace hslash hne

/-- A place that ends in a name is where the trail of the file leads, up to that name. -/
theorem exists_trail_of_destination (ha : config.Anchored) (hfile : file.isAbsolute = true)
    (htrail : config.trailOf file ≠ []) {name : String}
    (hname : (config.destination file).fileName? = some name) :
    ∃ init last, config.trailOf file = init ++ [.name last] ∧
      (config.destination file).components = config.out.components ++ (init ++ [.name name]) := by
  have hplace : (config.outputFor file).components = config.out.components ++ config.trailOf file :=
    Settings.components_placeBelow_of_anchored ha.settings ha.settings.out hfile
  have hends : ∃ before last, (config.outputFor file).components = before ++ [.name last] ∧
      (config.destination file).components = before ++ [.name name] := by
    rcases destination_cases ha file with heq | ⟨ext, hslash, hne, heq⟩ <;> rw [heq] at hname ⊢
    · obtain ⟨before, hbefore⟩ := Path.exists_components_of_fileName? hname
      exact ⟨before, name, hbefore, hbefore⟩
    · exact Path.exists_components_of_withExtension
        (Settings.isAbsolute_placeBelow ha.settings ha.settings.out hfile) hslash hne hname
  obtain ⟨before, last, hbefore, hdestination⟩ := hends
  rcases List.eq_nil_or_concat (config.trailOf file) with hnil | ⟨init, final, hinit⟩
  · exact absurd hnil htrail
  · rw [List.concat_eq_append] at hinit
    rw [hplace, hinit, ← List.append_assoc] at hbefore
    obtain ⟨rfl, hfinal⟩ := List.append_inj' hbefore rfl
    obtain rfl := (List.cons.inj hfinal).1
    exact ⟨init, last, hinit, by rw [hdestination, List.append_assoc]⟩

/-- The way of any other straight path ends in a name. -/
theorem exists_way (hr : config.Regular) (hfile : file.Straight)
    (hplace : ¬ config.Placeless file) :
    ∃ init last, config.wayOf file = init ++ [.name last] ∧
      (Path.splitName last.toList).1 ≠ ['.'] := by
  obtain ⟨hsrc, hroot, hslash, hdots⟩ : ¬ file.Same config.src ∧ ¬ file.Same config.root ∧
      ¬ file.components = [.root] ∧ _ := by
    simpa only [Placeless, not_or] using hplace
  have hne : config.wayOf file ≠ [] := Settings.wayOf_ne_nil hr.settings hfile hsrc hroot hslash
  rcases List.eq_nil_or_concat (config.wayOf file) with hnil | ⟨init, last, hway⟩
  · exact absurd hnil hne
  · rw [List.concat_eq_append] at hway
    have hlast : last.IsName := Settings.isName_of_mem_wayOf hr.settings hfile
      (hway ▸ List.mem_append_right _ (List.mem_singleton_self _))
    obtain ⟨name, rfl, -⟩ := hlast
    refine ⟨init, name, hway, fun hstem => hdots ⟨name, ?_, hstem⟩⟩
    rw [hway, List.getLast?_concat]

/-- A compiled file of a straight path goes below the output folder, when it has a place. -/
theorem below_destination (hr : config.Regular) (hfile : file.Straight)
    (hplace : ¬ config.Placeless file) : (config.destination file).Below config.out := by
  obtain ⟨init, last, hway, hdots⟩ := exists_way hr hfile hplace
  have hcomponents := components_destination hr hfile.1 hway hdots
  rw [List.append_assoc] at hcomponents
  refine Path.below_of_components hr.settings.out (fun c hc => ?_) (by simp) hcomponents
  have hnames : ∀ c ∈ init ++ [Component.name last], c.IsName :=
    hway ▸ fun c => Settings.isName_of_mem_wayOf hr.settings hfile
  rcases List.mem_append.1 hc with hc | hc
  · exact hnames c (List.mem_append_left _ hc)
  · obtain rfl := List.mem_singleton.1 hc
    refine Path.isName_of_mem (p := config.destination file) ?_
    rw [hcomponents]
    exact List.mem_append_right _ (List.mem_append_right _ hc)

end Config

end Minipack
