import DtoPress.Proofs.Descent
import DtoPress.Proofs.Failures

/-!
# What is written below a directory

A run changes the files at its paths and no others, however it ends : each write touches the file
at its own path (`Workspace.extends_write`), and so do all of them together
(`Session.extends_generateCode`). A path leads below the root unless it is that of a name that
climbs (`Generator.below_or_climbs`). Hence `Session.generateCode_confined` : a file that a run has
changed lies below the root, or it is at the path of a name that climbs. Such a name does get its
file, so that output does not stay below the root (`Session.generateCode_escapes`).
-/

set_option linter.unusedSectionVars false

namespace DtoPress

/-! ## The paths of a run -/

namespace Generator

variable {g : Generator} {m : Model}

/-- The paths of the entities and enums whose names climb. -/
def climbingPaths (g : Generator) (m : Model) : List Text :=
  ((m.entities.filter fun e => e.name.text.Climbs).map fun e => g.modelPath e.name) ++
    (m.enums.filter fun e => e.name.text.Climbs).map fun e => g.enumPath e.name

/-- A path of a model leads below the root, unless it is that of a name that climbs. -/
theorem below_or_climbs (hmodels : g.settings.modelsDir.text.IsFileName)
    (henums : g.settings.enumsDir.text.IsFileName) (root : Path) {path : Text}
    (h : path ∈ g.paths m) :
    Location.Below (root.join (.ofText path)).location root.location ∨
      path ∈ g.climbingPaths m := by
  have hplain : ∀ {path : Text}, path.IsPlainPath → path ≠ [] →
      Location.Below (root.join (.ofText path)).location root.location :=
    fun h hne => Path.below_location_join_of_plain h hne root
  have hindex : ∀ kind, g.barrelPath kind ≠ [] := by
    have hstem : ("/index" : Text) ≠ [] := by decide
    simp [barrelPath, hstem]
  simp only [paths, entityPaths, enumPaths, fixedPaths, List.mem_append, List.mem_map,
    List.mem_cons, List.mem_ite_nil_right, List.not_mem_nil, or_false] at h
  rcases h with ⟨e, he, rfl⟩ | rfl | ⟨-, ⟨e, he, rfl⟩ | rfl⟩ | ⟨-, rfl⟩ | rfl
  · by_cases hclimbs : e.name.text.Climbs
    · exact .inr (List.mem_append_left _ (List.mem_map.2 ⟨e, by simp [he, hclimbs], rfl⟩))
    · have hending : ("DTO" ++ ".model" ++ (g.kind.extension : Text) : Text).IsFileName :=
        isFileName_extension g.kind ⟨by decide, by decide⟩
      have hbelow := Path.below_location_join hmodels hending hclimbs root
      rw [modelPath, Settings.modelPath, dtoName]
      simp only [List.append_assoc] at hbelow ⊢
      exact .inl hbelow
  · exact .inl (hplain (isPlainPath_barrelPath hmodels henums .models) (hindex .models))
  · by_cases hclimbs : e.name.text.Climbs
    · exact .inr (List.mem_append_right _ (List.mem_map.2 ⟨e, by simp [he, hclimbs], rfl⟩))
    · have hending : (".enum" ++ (g.kind.extension : Text) : Text).IsFileName :=
        isFileName_extension g.kind ⟨by decide, by decide⟩
      have hbelow := Path.below_location_join henums hending hclimbs root
      rw [enumPath, Settings.enumPath]
      simp only [List.append_assoc] at hbelow ⊢
      exact .inl hbelow
  · exact .inl (hplain (isPlainPath_barrelPath hmodels henums .enums) (hindex .enums))
  · have hname : g.helpersPath.IsFileName := isFileName_extension g.kind ⟨by decide, by decide⟩
    exact .inl (hplain hname.isPlainPath hname.ne_nil)
  · have hname : g.decoratorsPath.IsFileName := isFileName_extension g.kind ⟨by decide, by decide⟩
    exact .inl (hplain hname.isPlainPath hname.ne_nil)

theorem path_of_emission {b : Template.BuiltIn} {context : Template.Context}
    {text : Except SpacesError Text} {path : Text} {notes : List Text} {d : Draft}
    (h : (g.emission b context text path notes).draft = .ok d) : d.path = path := by
  unfold emission at h
  simp only at h
  split at h
  · rw [← Except.ok.inj h]
  · cases h

theorem path_of_emitEntity {e : Entity} {d : Draft} (h : (g.emitEntity e).draft = .ok d) :
    d.path = g.modelPath e.name := by
  unfold emitEntity at h
  split at h
  · cases h
  next unit hunit =>
    obtain ⟨classified, -, hunit⟩ := bind_eq_ok_iff.1 hunit
    obtain ⟨imports, -, hunit⟩ := bind_eq_ok_iff.1 hunit
    have hpath : unit.path = g.modelPath e.name := by
      rw [← Except.ok.inj hunit]
      rfl
    split at h
    · cases h
    · exact (path_of_emission h).trans hpath

theorem path_of_emitIndex {kind : BarrelKind} {names : List Value} {d : Draft}
    (h : (g.emitIndex kind names).draft = .ok d) : d.path = g.barrelPath kind := by
  unfold emitIndex at h
  split at h
  · exact path_of_emission h
  · cases h

/-- What an emission of the plan writes, it writes to the path in its place. -/
theorem forall₂_plan (g : Generator) (m : Model) :
    List.Forall₂ (fun e path => ∀ d, e.draft = .ok d → d.path = path) (g.plan m) (g.paths m) := by
  rw [plan_eq, paths]
  refine List.rel_append ?_ (.cons (fun d => path_of_emitIndex) (List.rel_append ?_ ?_))
  · exact forall₂_map_same fun e _ d => path_of_emitEntity
  · unfold emitEnums enumPaths
    split
    · exact List.rel_append (forall₂_map_same fun e _ d => path_of_emission)
        (.cons (fun d => path_of_emitIndex) .nil)
    · exact .nil
  · have hdecorators : List.Forall₂ (fun e path => ∀ d, Emission.draft e = .ok d → d.path = path)
        [g.emitDecorators] [g.decoratorsPath] := .cons (fun d => path_of_emission) .nil
    unfold emitFixed fixedPaths
    split
    · exact .cons (fun d => path_of_emission) hdecorators
    · exact hdecorators

end Generator

namespace Emission

variable {es : List Emission} {paths : List Text}

/-- The paths that emissions write to are a first part of the paths in their places, and all of
these if no text is missing. -/
theorem keys_writes_isPrefix {es : List Emission} {paths : List Text}
    (h : List.Forall₂ (fun e path => ∀ d, e.draft = .ok d → d.path = path) es paths) :
    (writes es).keys <+: paths ∧ (failure? es = none → (writes es).keys = paths) := by
  induction h with
  | nil => exact ⟨List.prefix_refl _, fun _ => rfl⟩
  | @cons e path es paths hpath _ ih =>
    obtain ⟨hrest, hall⟩ := ih
    cases hd : e.draft with
    | error trouble =>
      rw [writes, hd, failure?, hd]
      exact ⟨List.nil_prefix, fun h => by cases h⟩
    | ok d =>
      rw [writes_cons_of_ok hd, failure?_cons_of_ok hd, Entries.keys_cons, hpath d hd]
      exact ⟨List.prefix_cons_inj _ |>.2 hrest, fun hnone => by rw [hall hnone]⟩

end Emission

/-! ## Runs -/

namespace Session

variable {s : Session} {m : Model}

/-- A run touches the files at its paths and no others, however it ends. -/
theorem extends_generateCode {root : Path} {paths : List Text}
    (htarget : s.workspace.target = .directory root paths) (m : Model) :
    s.workspace.tree.Extends (s.generateCode m).1.workspace.tree
      ((s.generator.paths m).map (s.workspace.location root)) := by
  obtain ⟨hsame, -⟩ | ⟨hsame, -⟩ := s.exists_writeAll_of_generateCode m
  · rw [hsame.tree]
    exact (FileTree.Extends.refl _).mono fun loc h => by cases h
  · rw [hsame.tree]
    obtain ⟨hkeys, -⟩ := Emission.keys_writes_isPrefix (s.generator.forall₂_plan m)
    exact (Workspace.extends_writeAll htarget).mono
      fun loc h => List.map_subset _ hkeys.subset h

/-- A run that has come to its end has put a file at each of its paths. -/
theorem exists_file_of_done {root : Path} {paths : List Text}
    (htarget : s.workspace.target = .directory root paths) {files warnings : List Text}
    {metadata : Metadata} (hdone : (s.generateCode m).2 = .ok (.done files warnings metadata))
    {path : Text} (hpath : path ∈ s.generator.paths m) :
    ∃ content, (s.generateCode m).1.workspace.tree.node? (s.workspace.location root path) =
      some (.file content) := by
  obtain ⟨-, f, hwarnings⟩ | ⟨hsame, hall⟩ := s.exists_writeAll_of_generateCode m
  · rw [generateCode, hwarnings] at hdone
    cases hdone
  · obtain ⟨hwrites, htexts⟩ := hall files warnings metadata hdone
    obtain ⟨-, hkeys⟩ := Emission.keys_writes_isPrefix (s.generator.forall₂_plan m)
    rw [← hkeys htexts] at hpath
    rw [hsame.tree]
    exact Workspace.exists_file_of_writeAll htarget (Prod.ext rfl hwrites) _
      (.inr ⟨path, hpath, rfl⟩)

end Session

/-- The file at a location is not as it was. -/
def FileTree.Changed (before after : FileTree) (loc : Location) : Prop :=
  ∃ content, ¬ (after.node? loc = some (.file content) ↔ before.node? loc = some (.file content))

/-- Whatever the names of a model and however a run ends, where there are no links a file that it
has changed lies below the root, unless it is at the path of a name that climbs. A run that comes
to its end has put a file at each of its paths, those of names that climb among them. -/
theorem Session.generateCode_confined {s : Session} {root : Path} {paths : List Text}
    (htarget : s.workspace.target = .directory root paths)
    (hlinks : s.workspace.tree.system.links = [])
    (hmodels : s.generator.settings.modelsDir.text.IsFileName)
    (henums : s.generator.settings.enumsDir.text.IsFileName) (m : Model) :
    (∀ loc, s.workspace.tree.Changed (s.generateCode m).1.workspace.tree loc →
      loc.Below root.location ∨
        ∃ path ∈ s.generator.climbingPaths m, loc = (root.join (.ofText path)).location) ∧
    ∀ files warnings metadata, (s.generateCode m).2 = .ok (.done files warnings metadata) →
      ∀ path ∈ s.generator.paths m, ∃ content,
        (s.generateCode m).1.workspace.tree.node? (root.join (.ofText path)).location =
          some (.file content) := by
  have hlocation : ∀ path, s.workspace.location root path = (root.join (.ofText path)).location :=
    fun path => System.location_eq hlinks _
  refine ⟨fun loc hchanged => ?_, fun files warnings metadata hdone path hpath => ?_⟩
  swap
  · rw [← hlocation]
    exact exists_file_of_done htarget hdone hpath
  obtain ⟨content, hcontent⟩ := hchanged
  have htouched : loc ∈ (s.generator.paths m).map (s.workspace.location root) := by
    by_contra hloc
    exact hcontent ((s.extends_generateCode htarget m).file hloc content)
  obtain ⟨path, hpath, rfl⟩ := List.mem_map.1 htouched
  rw [hlocation]
  rcases Generator.below_or_climbs hmodels henums root hpath with hbelow | hclimbs
  · exact .inl hbelow
  · exact .inr ⟨path, hclimbs, rfl⟩

/-- The run comes to its end with a file at a location. -/
def Session.endsWithFile (s : Session) (m : Model) (loc : Location) : Bool :=
  match s.generateCode m with
  | (after, .ok (.done _ _ _)) =>
    match after.workspace.tree.node? loc with
    | some (.file _) => true
    | _ => false
  | _ => false

theorem Session.exists_of_endsWithFile {s : Session} {m : Model} {loc : Location}
    (h : s.endsWithFile m loc = true) : ∃ files warnings metadata content,
      (s.generateCode m).2 = .ok (.done files warnings metadata) ∧
      (s.generateCode m).1.workspace.tree.node? loc = some (.file content) := by
  unfold endsWithFile at h
  split at h
  next after files warnings metadata hrun =>
    split at h
    next content hnode =>
      rw [hrun]
      exact ⟨files, warnings, metadata, content, rfl, hnode⟩
    · cases h
  · cases h

/-- A model of a name with a double dot that does not climb, and of one that does. -/
def Model.sampleClimbing : Model :=
  { entities := [{ name := .str "shop/../Order" }, { name := .str "../../escaped" }] }

/-- A configuration for entities alone. -/
def Config.sampleBare : Config :=
  { generateEnums := .bool false, generateHelpers := .bool false }

/-- A run below a directory of an empty tree. -/
def Session.sampleBelow (g : Generator) : Session :=
  ⟨g, { tree := {}, target := .directory (.ofText "out") [] }⟩

theorem Session.sampleBelow_endsWithFile {g : Generator}
    (hg : Generator.create .typescript .sampleBare = .ok g) :
    (sampleBelow g).endsWithFile .sampleClimbing [("escapedDTO.model.ts" : Text)] = true := by
  have hends : ((Generator.create .typescript .sampleBare).toOption.map fun g =>
      (sampleBelow g).endsWithFile .sampleClimbing [("escapedDTO.model.ts" : Text)]) =
        some true := by
    decide +kernel
  rw [hg] at hends
  exact Option.some.inj hends

/-- The files of the sample lie below the root, but for the one whose name climbs. -/
theorem Session.generateCode_confined_sampleClimbing : ∃ g,
    Generator.create .typescript .sampleBare = .ok g ∧
    (sampleBelow g).workspace.target = .directory (.ofText "out") [] ∧
    (sampleBelow g).workspace.tree.system.links = [] ∧
    g.settings.modelsDir.text.IsFileName ∧ g.settings.enumsDir.text.IsFileName ∧
    (∀ loc, FileTree.Changed {}
        ((sampleBelow g).generateCode .sampleClimbing).1.workspace.tree loc →
      loc.Below [("out" : Text)] ∨ loc = [("escapedDTO.model.ts" : Text)]) ∧
    ∃ content, ((sampleBelow g).generateCode .sampleClimbing).1.workspace.tree.node?
      [("out" : Text), "models", "OrderDTO.model.ts"] = some (.file content) := by
  obtain ⟨g, hg⟩ : ∃ g, Generator.create .typescript .sampleBare = .ok g := ⟨_, rfl⟩
  obtain ⟨files, warnings, metadata, -, hdone, -⟩ :=
    exists_of_endsWithFile (sampleBelow_endsWithFile hg)
  obtain ⟨settings, n, hsettings, -, rfl⟩ := Generator.of_create hg
  obtain rfl : ({} : Settings) = settings := Except.ok.inj hsettings
  have hmodels : (Value.text (.str "models")).IsFileName := ⟨by decide, by decide⟩
  have henums : (Value.text (.str "enums")).IsFileName := ⟨by decide, by decide⟩
  obtain ⟨hconfined, hfiles⟩ := generateCode_confined
    (s := sampleBelow (Generator.mk .typescript .sampleBare {} _ _ _)) rfl rfl hmodels henums
    .sampleClimbing
  have hpath : Settings.modelPath {} ".ts" (.str "../../escaped") =
      "models/../../escapedDTO.model.ts" := by decide
  have hpath' : Settings.modelPath {} ".ts" (.str "shop/../Order") =
      "models/shop/../OrderDTO.model.ts" := by decide
  refine ⟨_, hg, rfl, rfl, hmodels, henums, fun loc hchanged => ?_, ?_⟩
  · rcases hconfined loc hchanged with hbelow | ⟨path, hclimbs, rfl⟩
    · exact .inl hbelow
    · obtain rfl : path = Settings.modelPath {} ".ts" (.str "../../escaped") :=
        List.mem_singleton.1 hclimbs
      rw [hpath]
      exact .inr (by decide)
  · obtain ⟨content, hfile⟩ := hfiles files warnings metadata hdone
      (Settings.modelPath {} ".ts" (.str "shop/../Order")) List.mem_cons_self
    have hlocation :
        ((Path.ofText "out").join (.ofText "models/shop/../OrderDTO.model.ts")).location =
          [("out" : Text), "models", "OrderDTO.model.ts"] := by decide
    rw [hpath', hlocation] at hfile
    exact ⟨content, hfile⟩

/-- Output does not stay below the root : a file is created beside it. -/
theorem Session.generateCode_escapes : ∃ g files warnings metadata content,
    Generator.create .typescript .sampleBare = .ok g ∧ Model.sampleClimbing.isTextual = true ∧
    ((sampleBelow g).generateCode .sampleClimbing).2 = .ok (.done files warnings metadata) ∧
    FileTree.node? {} [("escapedDTO.model.ts" : Text)] = none ∧
    ((sampleBelow g).generateCode .sampleClimbing).1.workspace.tree.node?
      [("escapedDTO.model.ts" : Text)] = some (.file content) ∧
    ¬ Location.Below [("escapedDTO.model.ts" : Text)] (Path.ofText "out").location := by
  obtain ⟨g, hg⟩ : ∃ g, Generator.create .typescript .sampleBare = .ok g := ⟨_, rfl⟩
  obtain ⟨files, warnings, metadata, content, hdone, hnode⟩ :=
    exists_of_endsWithFile (sampleBelow_endsWithFile hg)
  refine ⟨g, files, warnings, metadata, content, hg, rfl, hdone, rfl, hnode, ?_⟩
  rintro ⟨names, hnames, -, -⟩
  have hlocation : (Path.ofText "out").location = [("out" : Text)] := by decide
  rw [hlocation] at hnames
  exact absurd (List.cons.inj hnames).1 (by decide)

end DtoPress
