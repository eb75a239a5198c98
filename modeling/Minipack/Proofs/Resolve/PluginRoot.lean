/-
The folder of a plugin, read twice.

The project descriptor names the folder of a plugin.  A configuration takes the name from the source
folder (`Config.readPluginRoot`), and looks there for the descriptor of the plugin
(`Build.pluginFiles`).  The project descriptor that is written drops the name of the source folder
or of the output folder at the front (`Resolve.stripBuildFolder`), as for a folder that is seen from
the project, and is read from the output folder.

So the two agree where there is nothing to drop: the place of the descriptor of the plugin has the
steps of the folder behind the output folder (`Settings.components_outputFor_of_src`), unless one of
them is a folder of packages (`Settings.components_outputFor_of_package`), and the folder that is
written has them unless it begins with a build folder (`Resolve.stripBuildFolder_spec`).  The main
result is `Resolve.agrees_of_resolve`.
-/
import Minipack.Build.Basic
import Minipack.Proofs.Config.Lasting
import Minipack.Proofs.Config.Places
import Minipack.Resolve.Descriptor

namespace Minipack

/-! ### Ways -/

/-- A relative path of names, with at most a `.` step in front. -/
structure Path.IsWay (p : Path) : Prop where
  relative : p.isAbsolute = false
  straight : Component.parent ∉ p.components

instance (p : Path) : Decidable p.IsWay :=
  decidable_of_iff (p.isAbsolute = false ∧ Component.parent ∉ p.components)
    ⟨fun h => ⟨h.1, h.2⟩, fun h => ⟨h.1, h.2⟩⟩

namespace Path.IsWay

variable {p : Path}

theorem isName (h : p.IsWay) {c : Component} (hc : c ∈ p.body) : c.IsName := by
  refine (isStep_of_mem_body hc).resolve_left ?_
  rintro rfl
  refine h.straight ?_
  rw [components_eq]
  exact List.mem_append_right _ hc

/-- The steps of a way are what is left without the `.` step. -/
theorem filter_components (h : p.IsWay) : p.components.filter (· != .current) = p.body := by
  rw [body_eq_filter]
  refine List.filter_congr fun c hc => ?_
  have hroot : c ≠ .root := by
    rintro rfl
    rw [components_eq] at hc
    rcases List.mem_append.1 hc with hc | hc
    · rcases front_of_relative h.relative with hf | hf <;> rw [hf] at hc
      · cases hc
      · cases List.mem_singleton.1 hc
    · obtain ⟨s, hs, -⟩ := h.isName hc
      cases hs
  rw [bne_iff_ne.2 hroot, Bool.true_and]

end Path.IsWay

/-! ### The place of a file below the source folder -/

namespace Settings

variable {settings : Settings} {file : Path}

/-- The front of a path is no folder of packages. -/
theorem afterPackages?_components (p : Path) :
    afterPackages? p.components = afterPackages? p.body := by
  rw [Path.components_eq]
  rcases Path.front_cases p with hf | hf | hf <;> rw [hf]
  · rfl
  all_goals
    rw [Option.toList_some, List.singleton_append, afterPackages?]
    cases afterPackages? p.body <;> rfl

/-- A file in the source folder that is in no folder of packages keeps its steps behind it. -/
theorem components_outputFor_of_src (hout : settings.out.text ≠ "")
    (hpackages : .name "node_modules" ∉ file.body) {steps : List Component}
    (hbody : file.body = settings.src.body ++ steps)
    (hstart : settings.src.components <+: file.components)
    (hrelative : settings.src.components = [] → file.isAbsolute = false) :
    (settings.outputFor file).components = settings.out.components ++ steps := by
  have hnone : packageWay? file = none := by
    rw [packageWay?, afterPackages?_components]
    cases hway : afterPackages? file.body with
    | none => rfl
    | some way =>
      obtain ⟨before, hbefore⟩ := eq_of_afterPackages? hway
      rw [hbefore] at hpackages
      exact absurd (List.mem_append_right _ List.mem_cons_self) hpackages
  have hleft : ∃ q, file.strip? settings.src = some q ∧ q.isAbsolute = false ∧ q.body = steps := by
    by_cases hsrc : settings.src.components = []
    · obtain ⟨q, hq, hrel, hsteps⟩ := Path.exists_strip?_of_nil hsrc (hrelative hsrc)
      refine ⟨q, hq, hrel, ?_⟩
      rw [hsteps, hbody, Path.body_eq_filter settings.src, hsrc]
      rfl
    · obtain ⟨q, hq, hrel, hcomponents⟩ := Path.exists_strip? hsrc hstart
      have hbehind := Path.body_of_components (fun c => Path.isStep_of_mem_body) hcomponents
      exact ⟨q, hq, hrel, List.append_cancel_left (hbehind.symm.trans hbody)⟩
  obtain ⟨q, hq, hrel, hsteps⟩ := hleft
  have hmoved : file.rebase? settings.src settings.out = some (settings.out.join q) := by
    rw [Path.rebase?, hq]
    rfl
  have htext : settings.out.text.toList ≠ [] := fun h => hout (String.toList_eq_nil_iff.1 h)
  rw [outputFor, placeBelow, hnone]
  dsimp only
  rw [hmoved]
  dsimp only
  rw [Path.components_join htext hrel, hsteps]

/-- A package file goes to the folder of packages with the steps behind its last `node_modules`
folder. -/
theorem components_outputFor_of_package (hout : settings.out.text ≠ "")
    (hnpm : Component.IsName (.name settings.npm)) {way : List Component}
    (h : afterPackages? file.body = some way) :
    (settings.outputFor file).components =
      settings.out.components ++ .name settings.npm :: way := by
  obtain ⟨before, hbefore⟩ := eq_of_afterPackages? h
  have hsteps : ∀ c ∈ way, c.IsStep := by
    intro c hc
    refine Path.isStep_of_mem_body (p := file) ?_
    rw [hbefore]
    exact List.mem_append_right _ (List.mem_cons_of_mem _ hc)
  have htext : settings.out.text.toList ≠ [] := fun h => hout (String.toList_eq_nil_iff.1 h)
  rw [outputFor, placeBelow, packageWay?, afterPackages?_components, h]
  show (settings.npmOut.join (Path.ofComponents way)).components = _
  have hfolder : settings.npmOut.text.toList ≠ [] := Path.join_text_ne_nil htext
  rw [Path.components_join hfolder (Path.isAbsolute_ofComponents hsteps),
    Path.body_ofComponents hsteps, npmOut, Path.components_child settings.out hnpm,
    List.append_assoc, List.singleton_append]

end Settings

/-! ### The folder as it is written -/

namespace Resolve

variable {config resolved : Config} {disk : Disk} {folder root : String}

/-- The folder begins with the name of the source folder or of the output folder. -/
def BeginsWithBuildFolder (config : Config) (folder : String) : Prop :=
  ∃ name, (Path.mk folder).body.head? = some (.name name) ∧
    (config.src.fileName? = some name ∨ config.out.fileName? = some name)

instance (config : Config) (folder : String) : Decidable (BeginsWithBuildFolder config folder) :=
  decidable_of_iff (∃ first ∈ (Path.mk folder).body.head?, ∃ name ∈ first.name?,
      config.src.fileName? = some name ∨ config.out.fileName? = some name) <| by
    constructor
    · rintro ⟨first, hhead, name, hname, hfolder⟩
      cases first with
      | name text => exact ⟨name, Option.some.inj hname ▸ hhead, hfolder⟩
      | _ => cases hname
    · rintro ⟨name, hhead, hfolder⟩
      exact ⟨.name name, hhead, name, rfl, hfolder⟩

/-- A slash at the end makes no difference. -/
theorem body_append_slash (text : String) : Path.body ⟨text ++ "/"⟩ = Path.body ⟨text⟩ := by
  show Path.bodyComponents (Path.pieces (text ++ "/").toList) = _
  have hslash : (text ++ "/").toList = text.toList ++ '/' :: [] := String.toList_append
  rw [hslash, Path.pieces_append, Path.bodyComponents_append]
  exact List.append_nil _

/-- The steps of a folder without a build folder in front. -/
def stepsBelow (config : Config) (steps : List Component) : List Component :=
  match steps with
  | .name first :: rest =>
    if [config.src.fileName?, config.out.fileName?].contains (some first) then rest else steps
  | steps => steps

/-- The steps that are left, written like the folder. -/
def folderText (folder : String) (steps : List Component) : String :=
  let text := (Path.ofComponents steps).text
  if text.isEmpty then "./" else if folder.toList.getLast? = some '/' then text ++ "/" else text

theorem stripBuildFolder_eq (hway : Path.IsWay ⟨folder⟩) :
    stripBuildFolder config folder =
      folderText folder (stepsBelow config (Path.mk folder).body) := by
  rw [← hway.filter_components]
  rfl

/-- Nothing is dropped but a build folder. -/
theorem stepsBelow_spec (config : Config) (hway : Path.IsWay ⟨folder⟩) :
    stepsBelow config (Path.mk folder).body <:+ (Path.mk folder).body ∧
      (stepsBelow config (Path.mk folder).body = (Path.mk folder).body ↔
        ¬ BeginsWithBuildFolder config folder) := by
  have hname := fun c => hway.isName (c := c)
  unfold BeginsWithBuildFolder
  cases hbody : (Path.mk folder).body with
  | nil => exact ⟨List.suffix_rfl, fun _ ⟨_, hhead, _⟩ => (nomatch hhead), fun _ => rfl⟩
  | cons first rest =>
    obtain ⟨name, rfl, -⟩ := hname first (hbody ▸ List.mem_cons_self)
    have hleads : (∃ other, (Component.name name :: rest).head? = some (.name other) ∧
        (config.src.fileName? = some other ∨ config.out.fileName? = some other)) ↔
        [config.src.fileName?, config.out.fileName?].contains (some name) = true := by
      rw [List.contains_iff_mem, List.mem_cons, List.mem_singleton, eq_comm (a := some name),
        eq_comm (a := some name)]
      constructor
      · rintro ⟨other, hhead, hfolder⟩
        obtain rfl : name = other := Component.name.inj (Option.some.inj hhead)
        exact hfolder
      · exact fun hfolder => ⟨name, rfl, hfolder⟩
    rw [hleads, stepsBelow]
    split
    · next h =>
      refine ⟨List.suffix_cons _ _, fun heq => ?_, fun hn => absurd h hn⟩
      exact absurd (congrArg List.length heq) (by simp)
    · next h => exact ⟨List.suffix_rfl, fun _ => h, fun _ => rfl⟩

/-- What is written for some names is a relative path of these names. -/
theorem folderText_spec {steps : List Component} (h : ∀ c ∈ steps, c.IsName) :
    Path.isAbsolute ⟨folderText folder steps⟩ = false ∧
      Path.body ⟨folderText folder steps⟩ = steps := by
  have hsteps : ∀ c ∈ steps, c.IsStep := fun c hc => Or.inr (h c hc)
  have hrelative := Path.isAbsolute_ofComponents hsteps
  have hbody := Path.body_ofComponents hsteps
  unfold folderText
  dsimp only
  split
  · next hempty =>
    have htext : Path.ofComponents steps = ⟨""⟩ := congrArg Path.mk (String.isEmpty_iff.1 hempty)
    rw [← hbody, htext]
    decide +kernel
  · next hne =>
    split
    · refine ⟨?_, (body_append_slash _).trans hbody⟩
      have htext : (Path.ofComponents steps).text.toList ≠ [] := fun hnil =>
        hne (String.isEmpty_iff.2 (String.toList_eq_nil_iff.1 hnil))
      obtain ⟨c, rest, hc⟩ := List.exists_cons_of_ne_nil htext
      rw [Path.isAbsolute, hc] at hrelative
      rw [Path.isAbsolute, String.toList_append, hc]
      exact hrelative
    · exact ⟨hrelative, hbody⟩

/-- The folder is written as a relative path of its steps without a build folder in front. -/
theorem stripBuildFolder_spec (config : Config) (hway : Path.IsWay ⟨folder⟩) :
    Path.isAbsolute ⟨stripBuildFolder config folder⟩ = false ∧
      Path.body ⟨stripBuildFolder config folder⟩ = stepsBelow config (Path.mk folder).body := by
  rw [stripBuildFolder_eq hway]
  exact folderText_spec fun c hc => hway.isName ((stepsBelow_spec config hway).1.subset hc)

/-! ### The two readings -/

/-- The descriptor that is looked for is written where the written folder has it. -/
def Agrees (config : Config) (folder : Path) (written : String) : Prop :=
  (config.destination (folder.child "plugin.json")).Same
    ((config.out.child written).child "plugin.json")

theorem isName_descriptor : Component.IsName (.name "plugin.json") := by
  decide

/-- The folder that is taken from the source folder lies below it. -/
theorem components_folder (config : Config) (hway : Path.IsWay ⟨root⟩) :
    config.src.components <+: (config.src.child root).components := by
  by_cases htext : config.src.text.toList = []
  · have hnil : config.src.components = [] := by
      rw [Path.components, htext]
      rfl
    rw [hnil]
    exact List.nil_prefix
  · exact ⟨_, (Path.components_join htext hway.relative).symm⟩

/-- The steps of the descriptor that is looked for. -/
theorem body_descriptor (config : Config) (hway : Path.IsWay ⟨root⟩) :
    ((config.src.child root).child "plugin.json").body =
      config.src.body ++ ((Path.mk root).body ++ [.name "plugin.json"]) := by
  have hname : Path.body ⟨"plugin.json"⟩ = [.name "plugin.json"] := by decide +kernel
  rw [Path.child, Path.body_join (by decide), Path.child, Path.body_join hway.relative, hname,
    List.append_assoc]

/-- The steps of the descriptor that the written folder has. -/
theorem components_written (hout : config.out.text ≠ "") (hway : Path.IsWay ⟨root⟩) :
    ((config.out.child (stripBuildFolder config root)).child "plugin.json").components =
      config.out.components ++
        (stepsBelow config (Path.mk root).body ++ [.name "plugin.json"]) := by
  have htext : config.out.text.toList ≠ [] := fun h => hout (String.toList_eq_nil_iff.1 h)
  obtain ⟨hrelative, hbody⟩ := stripBuildFolder_spec config hway
  rw [Path.components_child _ isName_descriptor, Path.child, Path.components_join htext hrelative,
    hbody, List.append_assoc]

theorem destination_of_rules (hrules : config.rules = []) (file : Path) :
    config.destination file = config.outputFor file := by
  rw [Config.destination, Config.rule?, hrules]
  rfl

/-- In no folder of packages the two agree just if the folder does not begin with a build folder. -/
theorem agrees_iff (hrules : config.rules = []) (hout : config.out.text ≠ "")
    (hway : Path.IsWay ⟨root⟩)
    (hpackages : .name "node_modules" ∉ config.src.body ++ (Path.mk root).body) :
    Agrees config (config.src.child root) (stripBuildFolder config root) ↔
      ¬ BeginsWithBuildFolder config root := by
  have hbody := body_descriptor config hway
  have hnone : .name "node_modules" ∉ ((config.src.child root).child "plugin.json").body := by
    rw [hbody, ← List.append_assoc]
    exact fun h => (List.mem_append.1 h).elim hpackages (by simp)
  have hplace : (config.outputFor ((config.src.child root).child "plugin.json")).components =
      config.out.components ++ ((Path.mk root).body ++ [.name "plugin.json"]) := by
    refine Settings.components_outputFor_of_src hout hnone hbody ?_ ?_
    · rw [Path.components_child _ isName_descriptor]
      exact (components_folder config hway).trans (List.prefix_append _ _)
    · intro hnil
      rw [Path.child, Path.isAbsolute_join_of_relative (by decide), Path.child,
        Path.isAbsolute_join_of_relative hway.relative]
      exact Bool.eq_false_iff.2 fun ha => Path.components_ne_nil ha hnil
  unfold Agrees Path.Same
  rw [destination_of_rules hrules, hplace, components_written hout hway,
    List.append_cancel_left_eq, List.append_cancel_right_eq, eq_comm]
  exact (stepsBelow_spec config hway).2

/-- In a folder of packages they do not agree: what is written keeps the names of all folders. -/
theorem not_agrees (hrules : config.rules = []) (hout : config.out.text ≠ "")
    (hway : Path.IsWay ⟨root⟩) (hnpm : Component.IsName (.name config.npm))
    (hne : config.npm ≠ "node_modules")
    (hpackages : .name "node_modules" ∈ config.src.body ++ (Path.mk root).body) :
    ¬ Agrees config (config.src.child root) (stripBuildFolder config root) := by
  have hbody := body_descriptor config hway
  rw [← List.append_assoc] at hbody
  cases hfound : Settings.afterPackages? ((config.src.child root).child "plugin.json").body with
  | none =>
    refine absurd ?_ (Settings.not_mem_of_afterPackages? hfound)
    rw [hbody]
    exact List.mem_append_left _ hpackages
  | some way =>
    obtain ⟨before, hbefore⟩ := Settings.eq_of_afterPackages? hfound
    unfold Agrees Path.Same
    rw [destination_of_rules hrules, Settings.components_outputFor_of_package hout hnpm hfound,
      components_written hout hway, List.append_cancel_left_eq]
    intro heq
    -- both are as many steps at the end of the path that is looked for
    have hpackage : .name "node_modules" :: way <:+
        ((config.src.child root).child "plugin.json").body := ⟨before, hbefore.symm⟩
    have hwritten : stepsBelow config (Path.mk root).body ++ [.name "plugin.json"] <:+
        ((config.src.child root).child "plugin.json").body := by
      obtain ⟨dropped, hdropped⟩ := (stepsBelow_spec config hway).1
      refine ⟨config.src.body ++ dropped, ?_⟩
      rw [hbody, List.append_assoc config.src.body, List.append_assoc config.src.body,
        ← List.append_assoc dropped, hdropped]
    rw [← heq] at hwritten
    have hsame :=
      (List.suffix_of_suffix_length_le hwritten hpackage (Nat.le_refl _)).eq_of_length rfl
    exact hne (Component.name.inj (List.cons.inj hsame).1)

/-- A folder of the project descriptor is written without a build folder in front. -/
theorem get?_outputProject {project : Json} {field : String} (hfield : field ∈ folderFields)
    (h : project.get? field = some (.string folder)) :
    (outputProject config project).get? field =
      some (.string (stripBuildFolder config folder)) := by
  cases project with
  | object members =>
    have hname (m : String × Json) : (outputMember config m).1 = m.1 := by
      rcases m with ⟨name, value⟩
      cases value <;> rfl
    have hfind : (members.map (outputMember config)).find? (fun m => m.1 == field) =
        (members.find? fun m => m.1 == field).map (outputMember config) := by
      have hcomp : (fun m : String × Json => m.1 == field) ∘ outputMember config =
          fun m => m.1 == field := funext fun m => by rw [Function.comp_apply, hname]
      rw [List.find?_map, hcomp]
    obtain ⟨⟨name, value⟩, hmember, hvalue⟩ := Option.map_eq_some_iff.1 h
    obtain rfl : value = .string folder := hvalue
    have hmatch := List.find?_some hmember
    obtain rfl : field = name := (eq_of_beq hmatch).symm
    show ((members.map (outputMember config)).find? fun m => m.1 == field).map Prod.snd = _
    rw [hfind, hmember]
    show some (Json.string (if folderFields.contains field then _ else _)) = _
    rw [if_pos (List.contains_iff_mem.2 hfield)]
  | _ => cases h

/-- What becomes of the folder of a plugin, once a configuration has been resolved. -/
structure TwoReadings (resolved : Config) (disk : Disk) (content : ByteArray) (root : String)
    (written : String) : Prop where
  /-- The build looks for the descriptor of the plugin below the source folder. -/
  looked : Build.pluginFiles resolved disk =
    [(resolved.src.child root).child "plugin.json"].filter disk.isFile
  /-- The project descriptor is written with this folder. -/
  written : ∃ emitted : Json, emitted.get? "pluginRoot" = some (.string written) ∧
    resolveDescriptor resolved disk resolved.projectFile content =
      .ok ⟨(emitted.pretty ++ "\n").toUTF8, []⟩

theorem twoReadings_of_resolve {content : ByteArray} {project : Json}
    (h : config.resolve disk = .ok resolved) (hread : disk.read resolved.projectFile = .ok content)
    (hproject : Json.read? content.toList = some project)
    (hroot : project.get? "pluginRoot" = some (.string root)) :
    TwoReadings resolved disk content root (stripBuildFolder resolved root) := by
  have hfolder : resolved.pluginRoot = some (resolved.src.child root) := by
    obtain ⟨-, -, manifest, -, -, rfl⟩ := Config.resolve_eq_ok_iff.1 h
    show config.settleAddress.readPluginRoot disk = _
    have hread' : disk.read? config.settleAddress.projectFile = some content := by
      rw [Disk.read?, hread]
      rfl
    rw [Config.readPluginRoot, hread', Option.bind_eq_bind, Option.bind_some, hproject]
    show (project.get? "pluginRoot").bind _ = _
    rw [hroot]
    rfl
  refine ⟨?_, outputProject resolved project, get?_outputProject (by decide) hroot, ?_⟩
  · rw [Build.pluginFiles, hfolder]
  · have hself : (resolved.projectFile == resolved.projectFile) = true :=
      Path.beq_iff_same.2 (Path.same_refl _)
    rw [resolveDescriptor, hproject]
    dsimp only
    rw [if_pos hself]

/-- Once a configuration without rules has been resolved, the descriptor of a plugin that the build
looks for is the one that the written project descriptor points at just if the folder of the plugin
does not begin with a build folder, and no folder on the way is one of packages. -/
theorem agrees_of_resolve {content : ByteArray} {project : Json}
    (h : config.resolve disk = .ok resolved) (hrules : resolved.rules = [])
    (hout : resolved.out.text ≠ "") (hread : disk.read resolved.projectFile = .ok content)
    (hproject : Json.read? content.toList = some project)
    (hroot : project.get? "pluginRoot" = some (.string root)) (hway : Path.IsWay ⟨root⟩) :
    ∃ written, TwoReadings resolved disk content root written ∧
      (.name "node_modules" ∉ resolved.src.body ++ (Path.mk root).body →
        (Agrees resolved (resolved.src.child root) written ↔
          ¬ BeginsWithBuildFolder resolved root)) ∧
      (.name "node_modules" ∈ resolved.src.body ++ (Path.mk root).body →
        Component.IsName (.name resolved.npm) → resolved.npm ≠ "node_modules" →
        ¬ Agrees resolved (resolved.src.child root) written) :=
  ⟨stripBuildFolder resolved root, twoReadings_of_resolve h hread hproject hroot,
    agrees_iff hrules hout hway,
    fun hpackages hnpm hne => not_agrees hrules hout hway hnpm hne hpackages⟩

/-- A project that declares a plugin, which lies below the source folder. -/
def declaring (root : String) : Disk where
  entries := [
    (["project.config.json"], .file ("\x7b\"pluginRoot\":\"" ++ root ++ "\"\x7d").toUTF8),
    (["src"], .folder),
    (["src", "app.json"], .file "\x7b\"pages\":[\"p\"]\x7d".toUTF8),
    (["src", "plugin"], .folder),
    (["src", "plugin", "plugin.json"], .file "\x7b\x7d".toUTF8)]
  current := []

/-- The folder that a project descriptor declares. -/
def declared? (disk : Disk) (file : Path) : Option String := do
  let content ← disk.read? file
  let project ← Json.read? content.toList
  (← project.get? "pluginRoot").string?

/-- A project that lists a page and declares a plugin is resolved, with its folders as they are. -/
theorem exists_resolve_declaring (disk : Disk) (root : String)
    (hlisted : ((Config.loadManifest disk (Config.of ⟨"/"⟩).manifestFile).toOption.any
      fun manifest => !manifest.pages.isEmpty) = true)
    (hdeclared : declared? disk (Config.of ⟨"/"⟩).projectFile = some root) :
    ∃ resolved content project, (Config.of ⟨"/"⟩).resolve disk = .ok resolved ∧
      resolved.rules = [] ∧ resolved.src = (Config.of ⟨"/"⟩).src ∧
      resolved.out = (Config.of ⟨"/"⟩).out ∧
      disk.read resolved.projectFile = .ok content ∧ Json.read? content.toList = some project ∧
      project.get? "pluginRoot" = some (.string root) := by
  obtain ⟨resolved, hresolved⟩ := Config.exists_resolve_of_listed hlisted
  obtain ⟨content, hcontent, hrest⟩ := Option.bind_eq_some_iff.1 hdeclared
  obtain ⟨project, hproject, hrest⟩ := Option.bind_eq_some_iff.1 hrest
  obtain ⟨value, hvalue, hstring⟩ := Option.bind_eq_some_iff.1 hrest
  have hroot : value = .string root := by
    cases value <;> cases hstring
    rfl
  have hframe := Config.frame_of_resolve hresolved
  refine ⟨resolved, content, project, hresolved, ?_, ?_, ?_, ?_, hproject, hroot ▸ hvalue⟩
  · rw [hframe]
    rfl
  · rw [hframe]
  · rw [hframe]
  · have hfile : resolved.projectFile = (Config.of ⟨"/"⟩).projectFile := by
      rw [hframe]
      rfl
    rw [hfile]
    exact toOption_eq_some.1 hcontent

/-- A plugin that is declared from the source folder is found where it is written. -/
theorem agrees_of_declaring : ∃ resolved content written,
    (Config.of ⟨"/"⟩).resolve (declaring "plugin") = .ok resolved ∧
      TwoReadings resolved (declaring "plugin") content "plugin" written ∧
      Agrees resolved (resolved.src.child "plugin") written := by
  obtain ⟨resolved, content, project, hresolved, hrules, hsrc, hout, hread, hproject, hroot⟩ :=
    exists_resolve_declaring (declaring "plugin") "plugin" (by decide +kernel) (by decide +kernel)
  obtain ⟨written, hreadings, hagrees, -⟩ := agrees_of_resolve hresolved hrules
    (by rw [hout]; decide +kernel) hread hproject hroot (by decide +kernel)
  refine ⟨resolved, content, written, hresolved, hreadings, (hagrees ?_).2 ?_⟩
  · rw [hsrc]
    decide +kernel
  · unfold BeginsWithBuildFolder
    rw [hsrc, hout]
    exact (by decide +kernel : ¬ BeginsWithBuildFolder (Config.of ⟨"/"⟩) "plugin")

/-- A plugin that is declared from the project is not found: the build looks for it in a folder of
the source folder's name. -/
theorem astray_of_declaring : ∃ resolved content written,
    (Config.of ⟨"/"⟩).resolve (declaring "src/plugin") = .ok resolved ∧
      TwoReadings resolved (declaring "src/plugin") content "src/plugin" written ∧
      ¬ Agrees resolved (resolved.src.child "src/plugin") written ∧
      Build.pluginFiles resolved (declaring "src/plugin") = [] := by
  obtain ⟨resolved, content, project, hresolved, hrules, hsrc, hout, hread, hproject, hroot⟩ :=
    exists_resolve_declaring (declaring "src/plugin") "src/plugin" (by decide +kernel)
      (by decide +kernel)
  have hreadings := twoReadings_of_resolve hresolved hread hproject hroot
  refine ⟨resolved, content, _, hresolved, hreadings, ?_, ?_⟩
  · rw [agrees_iff hrules (by rw [hout]; decide +kernel) (by decide +kernel)
      (by rw [hsrc]; decide +kernel)]
    unfold BeginsWithBuildFolder
    rw [hsrc, hout]
    exact (by decide +kernel : ¬ ¬ BeginsWithBuildFolder (Config.of ⟨"/"⟩) "src/plugin")
  · rw [hreadings.looked, hsrc]
    decide +kernel

end Resolve

end Minipack
