/-
What lasts of a resolved configuration.

Resolving checks the rules, the public address and the manifest (`Config.resolve_eq_ok_iff`).  What
happens afterwards is a list of events: the watching switch is set, or the manifest is read again
from the disk of that moment (`Config.Event`).  An event leaves everything but the switch and the
manifest as it was (`Config.frame_after`), so the rules and the address stay good; and a batch of
changes comes to some events (`Build.exists_events_handleChanges`).

The manifest is the one that was last read, and reading it again does not ask for a page.  So it
lists a page as long as what is read lists one, and no longer (`Config.lasting_of_resolve`,
`Config.pages_of_emptied`).
-/
import Minipack.Build.Changes
import Minipack.Proofs.Outcome

namespace Minipack

/-- A rule is valid when it has a pattern and a loader. -/
theorem Rule.validate_eq_ok_iff {rule : Rule} :
    rule.validate = .ok () ↔ rule.test.text ≠ "" ∧ rule.loaders ≠ [] := by
  unfold Rule.validate
  split
  · next htest => simp [String.isEmpty_iff.1 htest]
  · next htest =>
    rw [String.isEmpty_iff] at htest
    split
    · next hloaders => simp [List.isEmpty_iff.1 hloaders]
    · next hloaders =>
      rw [List.isEmpty_iff] at hloaders
      simp [htest, hloaders]

namespace Config

variable {config resolved : Config} {disk : Disk}

/-! ### Resolving -/

theorem manifestFile_settleAddress (config : Config) :
    config.settleAddress.manifestFile = config.manifestFile := by
  unfold settleAddress
  split <;> rfl

theorem rules_settleAddress (config : Config) : config.settleAddress.rules = config.rules := by
  unfold settleAddress
  split <;> rfl

/-- Afterwards the public address is given. -/
theorem exists_publicPath_settleAddress (config : Config) :
    ∃ address, config.settleAddress.publicPath = some address := by
  unfold settleAddress
  split
  · next address haddress => exact ⟨address, haddress⟩
  · exact ⟨_, rfl⟩

/-- A configuration is resolved when its rules are valid, its address is remote and its manifest can
be read and lists a page. -/
theorem resolve_eq_ok_iff :
    config.resolve disk = .ok resolved ↔
      (∀ rule ∈ config.rules, rule.validate = .ok ()) ∧
      isRemoteAddress config.settleAddress.publicAddress = true ∧
      ∃ manifest, loadManifest disk config.manifestFile = .ok manifest ∧ manifest.pages ≠ [] ∧
        resolved = { config.settleAddress with
          manifest := manifest
          pluginRoot := config.settleAddress.readPluginRoot disk } := by
  have hrules : config.rules.forM Rule.validate = .ok () ↔
      ∀ rule ∈ config.rules, rule.validate = .ok () := by
    induction config.rules with
    | nil => exact ⟨fun _ _ h => absurd h List.not_mem_nil, fun _ => rfl⟩
    | cons rule rest ih =>
      show (rule.validate >>= fun _ => rest.forM Rule.validate) = .ok () ↔ _
      rw [bind_eq_ok, List.forall_mem_cons]
      simp only [ih]
      exact ⟨fun ⟨_, hboth⟩ => hboth, fun hboth => ⟨(), hboth⟩⟩
  -- the checks come in this order, and each error ends them
  unfold resolve
  rw [bind_eq_ok]
  simp only [manifestFile_settleAddress, exists_const, hrules]
  refine and_congr_right fun _ => ?_
  cases hremote : isRemoteAddress config.settleAddress.publicAddress with
  | false => simp [bind, Except.bind]
  | true =>
    simp only [Bool.not_true, Bool.false_eq_true, if_false, true_and]
    show (loadManifest disk config.manifestFile >>= _) = .ok resolved ↔ _
    rw [bind_eq_ok]
    refine exists_congr fun manifest => and_congr_right fun _ => ?_
    cases hpages : manifest.pages with
    | nil => simp [bind, Except.bind]
    | cons page pages =>
      show pure _ = _ ↔ _
      rw [pure_eq_ok]
      simp only [ne_eq, reduceCtorEq, not_false_eq_true, true_and, eq_comm]

/-- Resolving settles the public address, the manifest and the folder of the plugin. -/
theorem frame_of_resolve (h : config.resolve disk = .ok resolved) :
    resolved = { config with
      publicPath := resolved.publicPath
      socket := resolved.socket
      manifest := resolved.manifest
      pluginRoot := resolved.pluginRoot } := by
  obtain ⟨-, -, manifest, -, -, rfl⟩ := resolve_eq_ok_iff.1 h
  unfold settleAddress
  split <;> rfl

/-! ### Events -/

/-- What happens to a configuration that is in use. -/
inductive Event where
  | watch (watching : Bool)
  /-- The manifest is read again; the disk is that of the moment. -/
  | reload (disk : Disk)

/-- The configuration after an event. -/
def after (config : Config) : Event → Config
  | .watch watching => config.setWatching watching
  | .reload disk => (config.reloadManifest disk).1

/-- The configuration after some events. -/
def afterAll (config : Config) (events : List Event) : Config :=
  events.foldl after config

/-- The manifest that is read at an event, when it can be read. -/
def Event.manifest? (file : Path) : Event → Option Manifest
  | .watch _ => none
  | .reload disk => (loadManifest disk file).toOption

/-- The manifest that was read last. -/
def lastRead? (file : Path) (events : List Event) : Option Manifest :=
  events.reverse.findSome? (Event.manifest? file)

theorem afterAll_append (config : Config) (events more : List Event) :
    config.afterAll (events ++ more) = (config.afterAll events).afterAll more :=
  List.foldl_append

theorem lastRead?_cons (file : Path) (event : Event) (events : List Event) :
    lastRead? file (event :: events) = (lastRead? file events).or (event.manifest? file) := by
  rw [lastRead?, List.reverse_cons, List.findSome?_append, List.findSome?_singleton]
  rfl

theorem reloadManifest_of_ok {manifest : Manifest}
    (h : loadManifest disk config.manifestFile = .ok manifest) :
    config.reloadManifest disk = ({ config with manifest := manifest }, none) := by
  unfold reloadManifest
  rw [h]

/-- The manifest is the one that is read, when it can be read. -/
theorem fst_reloadManifest (config : Config) (disk : Disk) :
    (config.reloadManifest disk).1 = { config with
      manifest := (loadManifest disk config.manifestFile).toOption.getD config.manifest } := by
  unfold reloadManifest
  cases loadManifest disk config.manifestFile <;> rfl

theorem manifest_after (config : Config) (event : Event) :
    (config.after event).manifest = (event.manifest? config.manifestFile).getD config.manifest := by
  cases event with
  | watch watching => rfl
  | reload disk => rw [after, fst_reloadManifest, Event.manifest?]

/-- An event changes the switch and the manifest and nothing else. -/
theorem frame_after (config : Config) (event : Event) :
    config.after event = { config with
      watching := (config.after event).watching
      manifest := (config.after event).manifest } := by
  cases event with
  | watch watching => rfl
  | reload disk => rw [after, fst_reloadManifest]

/-- So do some events. -/
theorem frame_afterAll (config : Config) (events : List Event) :
    config.afterAll events = { config with
      watching := (config.afterAll events).watching
      manifest := (config.afterAll events).manifest } := by
  induction events generalizing config with
  | nil => rfl
  | cons event rest ih =>
    show (config.after event).afterAll rest = { config with
      watching := ((config.after event).afterAll rest).watching
      manifest := ((config.after event).afterAll rest).manifest }
    rw [ih, frame_after config event]

/-- The manifest is the one that was read last. -/
theorem manifest_afterAll (config : Config) (events : List Event) :
    (config.afterAll events).manifest =
      (lastRead? config.manifestFile events).getD config.manifest := by
  induction events generalizing config with
  | nil => rfl
  | cons event rest ih =>
    have hfile : (config.after event).manifestFile = config.manifestFile := by
      rw [frame_after config event]
      rfl
    show ((config.after event).afterAll rest).manifest = _
    rw [ih, hfile, manifest_after, lastRead?_cons]
    cases lastRead? config.manifestFile rest <;> rfl

/-- A configuration whose manifest cannot be read again stays as it was. -/
theorem reloadManifest_of_error {failure : Error}
    (h : (config.reloadManifest disk).2 = some failure) :
    (config.reloadManifest disk).1 = config := by
  unfold reloadManifest at h ⊢
  split
  · next hmanifest =>
    rw [hmanifest] at h
    cases h
  · rfl

/-! ### What lasts -/

/-- A resolved configuration after some events. -/
structure Lasting (resolved : Config) (events : List Event) : Prop where
  /-- Every rule has a pattern and a loader. -/
  rules : ∀ rule ∈ (resolved.afterAll events).rules, rule.test.text ≠ "" ∧ rule.loaders ≠ []
  /-- The public address is given, and it is a remote one. -/
  address : ∃ address, (resolved.afterAll events).publicPath = some address ∧
    ("http://".toList <+: address.toList ∨ "https://".toList <+: address.toList)
  /-- The manifest is the one that was read last, which is that of resolving when none was read. -/
  manifest : (resolved.afterAll events).manifest =
    (lastRead? resolved.manifestFile events).getD resolved.manifest
  /-- It lists a page just if the one that was read last does. -/
  pages : (resolved.afterAll events).manifest.pages ≠ [] ↔
    ∀ manifest ∈ lastRead? resolved.manifestFile events, manifest.pages ≠ []
  /-- Where the manifest cannot be read once more, all stays as it is. -/
  failed : ∀ disk failure, ((resolved.afterAll events).reloadManifest disk).2 = some failure →
    ((resolved.afterAll events).reloadManifest disk).1 = resolved.afterAll events

/-- What resolving has settled lasts through all events, but for the pages: the manifest lists one
just if the manifest that was read last does. -/
theorem lasting_of_resolve (h : config.resolve disk = .ok resolved) (events : List Event) :
    Lasting resolved events := by
  obtain ⟨hrules, hremote, manifest, -, hpages, hresolved⟩ := resolve_eq_ok_iff.1 h
  obtain ⟨address, haddress⟩ := exists_publicPath_settleAddress config
  have hframe := frame_afterAll resolved events
  have hmanifest := manifest_afterAll resolved events
  refine ⟨?_, ?_, hmanifest, ?_, fun disk failure => reloadManifest_of_error⟩
  · intro rule hr
    have hrule : rule ∈ config.rules := by
      rw [hframe, hresolved] at hr
      rw [← rules_settleAddress config]
      exact hr
    exact Rule.validate_eq_ok_iff.1 (hrules rule hrule)
  · refine ⟨address, ?_, ?_⟩
    · rw [hframe, hresolved]
      exact haddress
    · rw [Settings.publicAddress, haddress] at hremote
      rwa [isRemoteAddress, Bool.or_eq_true, List.isPrefixOf_iff_prefix,
        List.isPrefixOf_iff_prefix] at hremote
  · rw [hmanifest]
    cases lastRead? resolved.manifestFile events with
    | none =>
      have hfirst : resolved.manifest.pages ≠ [] := by
        rw [hresolved]
        exact hpages
      simpa using hfirst
    | some read => simp

/-- A project with a page. -/
def listing : Disk where
  entries := [(["src"], .folder), (["src", "app.json"], .file "\x7b\"pages\":[\"p\"]\x7d".toUTF8)]
  current := []

/-- The project when its manifest has lost the page. -/
def emptied : Disk where
  entries := [(["src"], .folder), (["src", "app.json"], .file "\x7b\"pages\":[]\x7d".toUTF8)]
  current := []

/-- The default configuration is resolved where a manifest lists a page. -/
theorem exists_resolve_of_listed
    (h : ((loadManifest disk (Config.of ⟨"/"⟩).manifestFile).toOption.any
      fun manifest => !manifest.pages.isEmpty) = true) :
    ∃ resolved, (Config.of ⟨"/"⟩).resolve disk = .ok resolved := by
  obtain ⟨manifest, hread, hpages⟩ := (Option.any_eq_true _ _).1 h
  refine ⟨_, resolve_eq_ok_iff.2 ⟨nofun, by decide +kernel, manifest, toOption_eq_some.1 hread, ?_,
    rfl⟩⟩
  rintro hnil
  rw [hnil] at hpages
  cases hpages

theorem exists_resolve_listing : ∃ resolved, (Config.of ⟨"/"⟩).resolve listing = .ok resolved :=
  exists_resolve_of_listed (by decide +kernel)

/-- The manifest is read again and then is gone, and watching ends. -/
theorem lasting_listing : ∃ resolved, (Config.of ⟨"/"⟩).resolve listing = .ok resolved ∧
    Lasting resolved [.watch true, .reload listing, .reload { entries := [], current := [] },
      .watch false] := by
  obtain ⟨resolved, hresolved⟩ := exists_resolve_listing
  exact ⟨resolved, hresolved, lasting_of_resolve hresolved _⟩

/-- A manifest that has lost its pages is read again without a complaint, and then no page is
listed. -/
theorem pages_of_emptied : ∃ resolved, (Config.of ⟨"/"⟩).resolve listing = .ok resolved ∧
    (resolved.reloadManifest emptied).2.isNone = true ∧
    (resolved.afterAll [.reload emptied]).manifest.pages = [] := by
  obtain ⟨resolved, hresolved⟩ := exists_resolve_listing
  obtain ⟨-, -, manifest, -, -, heq⟩ := resolve_eq_ok_iff.1 hresolved
  have hfile : resolved.manifestFile = (Config.of ⟨"/"⟩).manifestFile := by
    rw [heq]
    exact manifestFile_settleAddress (Config.of ⟨"/"⟩)
  have hread : loadManifest emptied resolved.manifestFile = .ok {} := by
    rw [hfile]
    exact toOption_eq_some.1 (by decide +kernel)
  have hreload := reloadManifest_of_ok hread
  refine ⟨resolved, hresolved, ?_, ?_⟩
  · rw [hreload]
    rfl
  · rw [afterAll, List.foldl_cons, List.foldl_nil, after, hreload]

end Config

/-! ### Batches of changes -/

namespace Build

variable {build : Build}

theorem config_wait (build : Build) : build.wait.config = build.config := by
  have hfold : ∀ (plugins : List Plugin) (build : Build),
      (plugins.foldl runBackground build).config = build.config := by
    intro plugins
    induction plugins with
    | nil => exact fun _ => rfl
    | cons plugin rest ih => exact fun build => ih (build.runBackground plugin)
  exact hfold _ _

theorem config_waitIf (build : Build) (waiting : Bool) :
    (build.waitIf waiting).config = build.config := by
  unfold waitIf
  split
  · exact build.config_wait
  · rfl

theorem config_addPluginChunks (build : Build) (plugins : List Plugin) :
    (build.addPluginChunks plugins).1.config = build.config := by
  induction plugins generalizing build with
  | nil => rfl
  | cons plugin rest ih =>
    unfold addPluginChunks
    dsimp only
    split
    · rfl
    · exact ih _

/-- Compiling again leaves the configuration alone. -/
theorem config_recompile (build : Build) (tasks : List Task) :
    (build.recompile tasks).1.config = build.config := by
  have hadd := build.config_addPluginChunks build.config.plugins
  have hcompile (build : Build) : (build.compile tasks).1.config = build.config :=
    build.config_waitIf _
  have hwrite (build : Build) (chunks : List Chunk) :
      (build.write chunks).1.config = build.config := build.config_waitIf _
  unfold recompile addAllPluginChunks
  split
  · next after _ hafter =>
    rw [hafter] at hadd
    exact hadd
  · next after _ hafter =>
    rw [hafter] at hadd
    have hdone := hcompile after
    split
    · next done _ heq =>
      rw [heq] at hdone
      exact hdone.trans hadd
    · next done _ heq =>
      rw [heq] at hdone
      split
      · exact hdone.trans hadd
      · exact (hwrite done _).trans (hdone.trans hadd)

/-- Looking for what a change affects reads the manifest again, or does nothing to the
configuration. -/
theorem exists_events_affectedBy (build : Build) (file : Path) : ∃ events,
    (build.affectedBy file).1.config = build.config.afterAll events := by
  by_cases hfile : (file == build.config.manifestFile) = true
  · refine ⟨[.reload build.disk], ?_⟩
    show _ = (build.config.reloadManifest build.disk).1
    unfold affectedBy
    rw [if_pos hfile]
    dsimp only
    split
    · rfl
    · split
      · rfl
      · split
        · exact config_wait _
        · split <;> exact config_wait _
  · refine ⟨[], ?_⟩
    unfold affectedBy
    rw [if_neg hfile]
    dsimp only
    split
    · rfl
    · split
      · exact build.config_wait
      · split <;> exact build.config_wait

theorem exists_events_takeChange (state : Build × List Task × List WatchEvent) (change : Change) :
    ∃ events, (takeChange state change).1.config = state.1.config.afterAll events := by
  obtain ⟨build, tasks, told⟩ := state
  unfold takeChange
  dsimp only
  split
  · exact ⟨[], rfl⟩
  · split
    · split
      · exact ⟨[], rfl⟩
      · exact ⟨[], rfl⟩
    · have haffected := build.exists_events_affectedBy change.path
      split <;> next heq => rw [heq] at haffected; exact haffected

/-- A batch of changes does to the configuration what some events do. -/
theorem exists_events_handleChanges (build : Build) (changes : List Change) : ∃ events,
    (build.handleChanges changes).1.config = build.config.afterAll events := by
  have hfold : ∀ (changes : List Change) (state : Build × List Task × List WatchEvent),
      ∃ events, (changes.foldl takeChange state).1.config = state.1.config.afterAll events := by
    intro changes
    induction changes with
    | nil => exact fun state => ⟨[], rfl⟩
    | cons change rest ih =>
      intro state
      obtain ⟨first, hfirst⟩ := exists_events_takeChange state change
      obtain ⟨more, hmore⟩ := ih (takeChange state change)
      refine ⟨first ++ more, ?_⟩
      rw [Config.afterAll_append, ← hfirst]
      exact hmore
  obtain ⟨events, hevents⟩ := hfold (latest changes) (build, [], [])
  refine ⟨events, ?_⟩
  rw [← hevents]
  unfold handleChanges
  dsimp only
  split
  · rfl
  · have hrecompile := config_recompile ((latest changes).foldl takeChange (build, [], [])).1
      ((latest changes).foldl takeChange (build, [], [])).2.1
    split <;> next heq => rw [heq] at hrecompile; exact hrecompile

end Build

end Minipack
