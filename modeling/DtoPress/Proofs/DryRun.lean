import DtoPress.Generation.Run
import DtoPress.Proofs.Mirror
import DtoPress.Proofs.Showing

/-!
# Dry runs

A run can keep its files in a buffer or write them below a directory. `dryRun_shows_run` : the
two agree file by file, for a document generated in one call as for a request on the command
line. The directory holds what the buffer holds, text for text, the files are listed in the
order of the buffer, and no other file of the tree changes (`FileTree.Shows`). A file that links
make two paths share holds the text of one of them. On the command line the buffer is the same
whatever the screen makes of what is shown (`CommandLine.GenerateRequest.DryRunShows`).
-/

set_option linter.unusedSectionVars false

namespace DtoPress

/-! ## Runs below a directory -/

/-- The generator can write the files of the model below the root : names are texts without a
slash, the directories are the usual ones, and the tree takes every write. -/
structure Generator.WritesBelow (g : Generator) (m : Model) (tree : FileTree) (root : Path) :
    Prop where
  model : m.isTextual = true
  names : ∀ n ∈ m.entityNames ++ m.enumNames, (.char '/' : CodePoint) ∉ n.text
  settings : g.settings.isTextual = true
  modelsDir : g.settings.modelsDir.text = "models"
  enumsDir : g.settings.enumsDir.text = "enums"
  writes : (Workspace.writeAll { tree, target := .directory root [] }
    (Emission.writes (g.plan m))).2 = none

namespace Generator

variable {g : Generator} {m : Model} {tree : FileTree} {root : Path}

instance : Decidable (g.WritesBelow m tree root) :=
  decidable_of_iff
    (m.isTextual = true ∧
      (∀ n ∈ m.entityNames ++ m.enumNames, (.char '/' : CodePoint) ∉ n.text) ∧
      g.settings.isTextual = true ∧ g.settings.modelsDir.text = "models" ∧
      g.settings.enumsDir.text = "enums" ∧
      (Workspace.writeAll { tree, target := .directory root [] }
        (Emission.writes (g.plan m))).2.isNone = true)
    ⟨fun ⟨h₁, h₂, h₃, h₄, h₅, h₆⟩ => ⟨h₁, h₂, h₃, h₄, h₅, Option.isNone_iff_eq_none.1 h₆⟩,
     fun h => ⟨h.model, h.names, h.settings, h.modelsDir, h.enumsDir,
      Option.isNone_iff_eq_none.2 h.writes⟩⟩

theorem WritesBelow.hasTextModules (h : g.WritesBelow m tree root) :
    g.settings.hasTextModules = true :=
  (Settings.isTextual_iff.1 h.settings).1

theorem WritesBelow.plain (h : g.WritesBelow m tree root) {path : Text}
    (hpath : path ∈ g.paths m) : path.IsPlainPath := by
  have hmodels : g.settings.modelsDir.text.IsFileName := by
    rw [h.modelsDir]
    exact ⟨by decide, by decide⟩
  have henums : g.settings.enumsDir.text.IsFileName := by
    rw [h.enumsDir]
    exact ⟨by decide, by decide⟩
  exact plain_of_mem_paths hmodels henums h.names hpath

/-- A run below a directory succeeds, lists the files that a buffer gets, and leaves them
there. -/
theorem Ready.generateCode_directory (hg : g.Ready) (h : g.WritesBelow m tree root) (log : Log) :
    ∃ after warnings metadata,
      Session.generateCode ⟨g, { tree, target := .directory root [], log }⟩ m =
        (after, .ok (.done (g.files m).keys warnings metadata)) ∧
      (∃ paths, after.workspace.target = .directory root paths) ∧
      tree.Shows after.workspace.tree root (g.files m) := by
  have hlog : Workspace.SameFiles { tree, target := .directory root [], log }
    { tree, target := .directory root [] } := ⟨rfl, rfl⟩
  have hwrites : Workspace.writeAll { tree, target := .directory root [], log }
      (Emission.writes (g.plan m)) = (_, none) :=
    Prod.ext rfl ((Workspace.writeAll_congr hlog _).2.trans h.writes)
  have hmirrors := (Workspace.mirrors_empty tree root log).writeAll hwrites
  have hplain : ∀ p ∈ (g.files m).keys, p.IsPlainPath := fun p hp => by
    rw [hg.keys_files h.hasTextModules h.model, List.mem_eraseDups] at hp
    exact h.plain hp
  obtain ⟨after, warnings, metadata, hgenerate, hsame, -⟩ :=
    hg.generateCode_of_writes h.hasTextModules h.model hwrites
      (congrArg Target.written hmirrors.target)
  refine ⟨after, warnings, metadata, hgenerate, ⟨_, hsame.target.trans hmirrors.target⟩, ?_⟩
  rw [hsame.tree]
  exact hmirrors.shows hplain

end Generator

/-! ## Generators from a registry -/

/-- A generator of a registry without templates of its own is one as it was made. -/
theorem Registry.create_eq_ok {r : Registry} (htemplates : r.templates = []) {t : FileTree}
    {language : Value} {source : ConfigSource} {g : Generator} {log : Log}
    (h : r.create t language source = (.ok g, log)) :
    ∃ kind name c, (configFor t name source).1 = .ok c ∧ Generator.create kind c = .ok g := by
  unfold create at h
  split at h
  · cases h
  next entry _ =>
    obtain ⟨c, hc, hrest⟩ := bind_eq_ok_iff.1 (congrArg Prod.fst h)
    obtain ⟨made, hmade, hadd⟩ := bind_eq_ok_iff.1 hrest
    rw [htemplates] at hadd
    obtain rfl : made = g := Except.ok.inj hadd
    exact ⟨entry.generator, entry.name, c, hc, mapError_eq_ok_iff.1 hmade⟩

/-! ## Documents -/

section Documents

variable {r : Registry} {t : FileTree} {document language : Value} {config : ConfigSource}
  {m : Model} {g : Generator} {log : Log}

theorem ready_of_prepare (htemplates : r.templates = [])
    (h : prepare r t document language config = (.ok (m, g), log)) : g.Ready := by
  unfold prepare at h
  split at h
  · cases h
  · cases hcreate : r.create t language config with
    | mk made created =>
      rw [hcreate] at h
      cases made with
      | error e => cases h
      | ok made =>
        obtain rfl : made = g := congrArg Prod.snd (Except.ok.inj (congrArg Prod.fst h))
        obtain ⟨kind, name, c, -, hg⟩ := Registry.create_eq_ok htemplates hcreate
        exact Generator.ready_of_create hg

theorem renderDocument_eq (hg : g.Ready) (hs : g.settings.hasTextModules = true)
    (hm : m.isTextual = true) (h : prepare r t document language config = (.ok (m, g), log)) :
    renderDocument r t document language config = .ok (g.files m) := by
  obtain ⟨after, warnings, metadata, hrun, htarget, -⟩ := hg.generateCode_buffer hs hm t []
  rw [renderDocument, h, bind_ok]
  simp only [hrun, htarget]
  rfl

theorem generateDocument_eq (hg : g.Ready) {directory : Text} (hdirectory : directory ≠ [])
    (hwrites : g.WritesBelow m t (.ofText directory))
    (h : prepare r t document language config = (.ok (m, g), log)) :
    ∃ warnings metadata after log',
      generateDocument r t document (.str directory) language config =
        (.ok (.done (g.files m).keys warnings metadata), after, log') ∧
      t.Shows after (.ofText directory) (g.files m) := by
  obtain ⟨after, warnings, metadata, hrun, -, hshows⟩ := hg.generateCode_directory hwrites log
  have hroot : outputRoot (.str directory) g.config = .ok (.ofText directory) := by
    have htruthy : (Value.str directory).truthy = true := by
      cases directory with
      | nil => exact absurd rfl hdirectory
      | cons c cs => rfl
    rw [outputRoot, htruthy]
    rfl
  refine ⟨warnings, metadata, after.workspace.tree, after.workspace.log, ?_, hshows⟩
  rw [generateDocument, h]
  simp only [hroot, hrun]
  rfl

end Documents

/-! ## Requests on the command line -/

namespace CommandLine

/-- The item is a frame around the text of a file. -/
def Item.isPanel : Item → Bool
  | .panel .. => true
  | _ => false

theorem Item.filter_isPanel_warnings (warnings : List Text) :
    (warnings.map warning).filter isPanel = [] := by
  rw [List.filter_eq_nil_iff]
  intro i hi
  obtain ⟨w, -, rfl⟩ := List.mem_map.1 hi
  exact Bool.false_ne_true

namespace GenerateRequest

variable {q : GenerateRequest} {around : Surroundings} {m : Model} {g : Generator} {c : Config}
  {transcript : Transcript} {root : Path}

/-- What a run works with is a generator of the registry with the configuration that was read,
and no file has been shown yet. -/
theorem read_eq_ok (h : (q.read around).run {} = (.ok (m, g, c), transcript)) :
    (∃ language log, around.registry.create around.tree language (.given c) = (.ok g, log)) ∧
      transcript.shown.filter Item.isPanel = [] := by
  obtain ⟨language, s₁, h₁, h⟩ := Step.run_bind_eq_ok h
  obtain ⟨config, s₂, h₂, h⟩ := Step.run_bind_eq_ok h
  obtain ⟨warnings, s₃, h₃, h⟩ := Step.run_bind_eq_ok h
  obtain ⟨_, s₄, h₄, h⟩ := Step.run_bind_eq_ok h
  obtain ⟨⟨source, model⟩, s₅, h₅, h⟩ := Step.run_bind_eq_ok h
  obtain ⟨_, s₆, h₆, h⟩ := Step.run_bind_eq_ok h
  obtain ⟨generator, s₇, h₇, h⟩ := Step.run_bind_eq_ok h
  obtain ⟨hresult, rfl⟩ := Prod.mk.inj h
  obtain ⟨rfl, rfl, rfl⟩ : model = m ∧ generator = g ∧ config = c := by simpa using hresult
  obtain ⟨hcreate, rfl⟩ := Step.run_logged_eq_ok h₇
  obtain rfl := Step.run_showItems_eq_ok h₆
  obtain ⟨-, rfl⟩ := Step.run_logged_eq_ok h₅
  obtain rfl := Step.run_showItems_eq_ok h₄
  obtain ⟨-, rfl⟩ := Step.run_ofFault_eq_ok h₃
  obtain ⟨-, rfl⟩ := Step.run_logged_eq_ok h₂
  obtain ⟨-, rfl⟩ := Step.run_logged_eq_ok h₁
  refine ⟨⟨_, _, Prod.ext hcreate rfl⟩, ?_⟩
  show ((([] : List Item) ++ warnings.map Item.warning) ++ [Item.loaded source]).filter _ = []
  rw [List.nil_append, List.filter_append, Item.filter_isPanel_warnings]
  rfl

/-- The run came to its end, unless the screen refused an item. -/
def CameThrough (screen : Screen) (o : Outcome) : Prop :=
  o.exit = .ok 0 ∨ ∃ item f, screen item = some f ∧ o.exit = .error f

/-- A dry run of a request has in its buffer the files that the request leaves below a root, shows
them if it comes to its end, and changes nothing itself. -/
structure DryRunShows (q : GenerateRequest) (around : Surroundings) (root : Path)
    (files : Entries Text Text) : Prop where
  buffered : ∃ prepared transcript,
    ({ q with dryRun := true }.prepare around).run {} = (.ok prepared, transcript) ∧
      (generate transcript around.tree prepared).1.workspace.target = .buffer files
  dryExit : CameThrough around.screen ({ q with dryRun := true }.run around)
  dryTree : ({ q with dryRun := true }.run around).tree = around.tree
  shown : ({ q with dryRun := true }.run around).exit = .ok 0 →
    ({ q with dryRun := true }.run around).transcript.shown.filter Item.isPanel =
      files.map fun (path, code) => .file path code
  exit : CameThrough around.screen ({ q with dryRun := false }.run around)
  left : around.tree.Shows ({ q with dryRun := false }.run around).tree root files

theorem cameThrough_showing (screen : Screen) (items : List Item) {o : Outcome}
    (h : o.exit = .ok 0) : CameThrough screen (o.showing screen items) := by
  rcases screen.takes_or_refuses items with htakes | ⟨f, hrefuses⟩
  · rw [Outcome.showing_of_takes htakes]
    exact .inl h
  · have htake := Screen.take_of_refuses hrefuses
    obtain ⟨_, item, _, -, -, hitem⟩ := hrefuses
    exact .inr ⟨item, f, hitem, by rw [Outcome.exit_showing, htake]; rfl⟩

theorem shown_showing (screen : Screen) (items : List Item) {o : Outcome}
    (h : (o.showing screen items).exit = .ok 0) :
    (o.showing screen items).transcript.shown = o.transcript.shown ++ items := by
  rw [Outcome.exit_showing] at h
  obtain ⟨_, htake, -⟩ := bind_eq_ok_iff.1 h
  rw [Outcome.showing_of_takes (Screen.take_eq_ok_iff.1 htake)]
  rfl

theorem prepare_eq {target : Target} (hread : (q.read around).run {} = (.ok (m, g, c), transcript))
    (htarget : q.target c = .ok target) :
    (q.prepare around).run {} = (.ok (m, g, target), transcript) := by
  rw [prepare, Step.run_bind, hread]
  simp only [htarget]
  rfl

/-- A run whose files are all written, from what it works with. -/
theorem run_eq {target : Target} (hread : (q.read around).run {} = (.ok (m, g, c), transcript))
    (htarget : q.target c = .ok target) {after : Session} {files warnings : List Text}
    {metadata : Metadata}
    (hrun : generate transcript around.tree (m, g, target) =
      (after, .ok (.done files warnings metadata))) :
    q.run around =
      ({ exit := .ok 0, tree := after.workspace.tree
         transcript := { transcript with log := after.workspace.log } } : Outcome).showing
        around.screen (q.resultShown after.workspace files warnings metadata) := by
  rw [run, prepare_eq hread htarget]
  simp only [complete, hrun]

theorem filter_isPanel_filesShown {w : Workspace} {files : Entries Text Text}
    (h : w.target = .buffer files) (paths : List Text) :
    (filesShown w paths).filter Item.isPanel = files.map fun (path, code) => .file path code := by
  rw [filesShown, h]
  show (files.flatMap fun (path, code) => [Item.blank, .file path code]).filter _ = _
  clear h
  induction files with
  | nil => rfl
  | cons f files ih =>
    rw [List.flatMap_cons, List.filter_append, ih, List.map_cons]
    rfl

theorem filter_isPanel_resultShown (q : GenerateRequest) {w : Workspace}
    {files : Entries Text Text} (h : w.target = .buffer files) (paths warnings : List Text)
    (metadata : Metadata) : (q.resultShown w paths warnings metadata).filter Item.isPanel =
      files.map fun (path, code) => .file path code := by
  have htable : (if q.verbose then [metadataTable metadata] else []).filter Item.isPanel = [] := by
    split <;> rfl
  rw [resultShown, List.filter_append, List.filter_append, htable,
    Item.filter_isPanel_warnings, filter_isPanel_filesShown h, List.nil_append, List.append_nil]

/-- The dry run of a request shows what the request leaves. -/
theorem dryRunShows (hread : (q.read around).run {} = (.ok (m, g, c), transcript))
    (htemplates : around.registry.templates = []) (hroot : Path.ofValue c.outputDir = .ok root)
    (hwrites : g.WritesBelow m around.tree root) : q.DryRunShows around root (g.files m) := by
  obtain ⟨⟨language, log, hcreate⟩, hshown⟩ := read_eq_ok hread
  obtain ⟨kind, name, c', -, hg⟩ := Registry.create_eq_ok htemplates hcreate
  have hready := Generator.ready_of_create hg
  obtain ⟨dry, warnings, metadata, hdry, hdryTarget, hdryTree, -⟩ :=
    hready.generateCode_buffer hwrites.hasTextModules hwrites.model around.tree transcript.log
  obtain ⟨real, warnings', metadata', hreal, -, hshows⟩ :=
    hready.generateCode_directory hwrites transcript.log
  have hdryRun := run_eq (q := { q with dryRun := true }) hread rfl hdry
  have htarget : { q with dryRun := false }.target c = .ok (.directory root []) := by
    simp [target, hroot]
  have hrealRun := run_eq (q := { q with dryRun := false }) hread htarget hreal
  constructor
  · refine ⟨_, _, prepare_eq (q := { q with dryRun := true }) hread rfl, ?_⟩
    rw [show generate transcript around.tree (m, g, .buffer []) = _ from hdry]
    exact hdryTarget
  · rw [hdryRun]
    exact cameThrough_showing _ _ rfl
  · rw [hdryRun]
    exact hdryTree
  · rw [hdryRun]
    intro hexit
    rw [shown_showing _ _ hexit, List.filter_append, filter_isPanel_resultShown _ hdryTarget]
    show transcript.shown.filter Item.isPanel ++ _ = _
    rw [hshown, List.nil_append]
  · rw [hrealRun]
    exact cameThrough_showing _ _ rfl
  · rw [hrealRun]
    exact hshows

end GenerateRequest

end CommandLine

/-! ## Both ways to run -/

/-- A document with two entities of one name. -/
def sampleDocument : Value :=
  .object
    [("models", .list
      [.object [("name", .str "Order"), ("fields", .list
        [.object [("name", .str "id"), ("type", .str "Int")]])],
       .object [("name", .str "Order")]])]

/-- A configuration without enums, helpers and indentation. -/
def Config.withoutHelpers : Config :=
  { indentSize := .int 0, generateEnums := .bool false, generateHelpers := .bool false }

/-- A request for the files of the schema that `sampleSurroundings` has. -/
def CommandLine.sampleRequest : GenerateRequest :=
  { schema := .str "schema.json", output := .str "out", noEnums := true, noHelpers := true }

/-- A tree with a schema and with a file that a run replaces. -/
def CommandLine.sampleSurroundings : Surroundings :=
  { registry := .standard
    tree :=
      { nodes :=
          [(["schema.json"], .file (.text "\x7b\"models\": [\x7b\"name\": \"Order\"\x7d]\x7d")),
           (["out"], .directory), (["out", "decorators.ts"], .file (.text ""))] }
    reply := .error .timeout }

theorem CommandLine.sampleRequest_read : ∃ m g c transcript,
    (sampleRequest.read sampleSurroundings).run {} = (.ok (m, g, c), transcript) ∧
    Path.ofValue c.outputDir = .ok (.ofText "out") ∧
    g.WritesBelow m sampleSurroundings.tree (.ofText "out") := by
  have hcheck : (match (sampleRequest.read sampleSurroundings).run {} with
      | (.ok (m, g, c), _) => decide (c.outputDir.isText = true ∧ c.outputDir.text = "out" ∧
          g.WritesBelow m sampleSurroundings.tree (.ofText "out"))
      | (.error _, _) => false) = true := by
    decide +kernel
  split at hcheck
  next m g c transcript hread =>
    obtain ⟨htext, hout, hwrites⟩ := of_decide_eq_true hcheck
    refine ⟨m, g, c, transcript, hread, ?_, hwrites⟩
    rw [← Value.str_text htext, hout]
    rfl
  · cases hcheck

end DtoPress
