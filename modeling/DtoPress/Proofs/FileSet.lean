import DtoPress.Proofs.Parts
import DtoPress.Proofs.Warnings

/-!
# The files of a model

How many files a model has (`Generator.length_paths`) and what each of them holds : a unit what
the last entity or enum of its name makes of it, a barrel all names (`Generator.ExactFiles`). A
run of a generator as it was made into an empty buffer leaves these files
(`Generator.Ready.generateCode_buffer`). `Session.generateCode_exactFiles` puts both together : the
run succeeds, there is a file for each name and each fixed file and no other, and the last
definition of a name is the one that is written.
-/

set_option linter.unusedSectionVars false

namespace DtoPress

namespace Generator

variable {g : Generator} {m : Model}

/-! ## How many files there are -/

/-- The parts of enums and their barrel, if they are wanted. -/
def enumUnits (g : Generator) (m : Model) : List Part :=
  if g.config.generateEnums.truthy then (m.enumNames.map fun n => .enum n.text) ++ [.enums] else []

/-- Helpers, if they are wanted, and decorators. -/
def fixedUnits (g : Generator) : List Part :=
  (if g.config.generateHelpers.truthy then [.helpers] else []) ++ [.decorators]

theorem keys_parts (g : Generator) (m : Model) : (g.parts m).keys =
    (m.entityNames.map fun n => Part.entity n.text) ++
      .models :: (g.enumUnits m ++ g.fixedUnits) := by
  rw [parts, entityParts, enumParts, fixedParts, enumUnits, fixedUnits, Entries.keys,
    Model.entityNames, Model.enumNames]
  split <;> split <;> simp [Function.comp_def]

theorem length_eraseDups_units {unit : Text → Part} (hunit : ∀ {a b}, unit a = unit b → a = b)
    {names : List Value} (h : names.all Value.isText = true) :
    (names.map fun n => unit n.text).eraseDups.length = names.eraseDups.length := by
  obtain ⟨ts, rfl⟩ := Value.exists_texts h
  rw [List.map_map, eraseDups_map fun a _ b _ => Value.str_beq a b, List.length_map]
  exact (congrArg List.length (eraseDups_map_of_injOn fun a _ b _ => hunit)).trans
    (List.length_map _)

theorem length_enumUnits (hm : m.isTextual = true) : (g.enumUnits m).eraseDups.length =
    if g.config.generateEnums.truthy then m.enumNames.eraseDups.length + 1 else 0 := by
  unfold enumUnits
  split
  · have hbarrel : ∀ p ∈ [Part.enums], p ∉ m.enumNames.map fun n => Part.enum n.text := by simp
    rw [eraseDups_append_of_disjoint hbarrel, List.length_append,
      length_eraseDups_units Part.enum.inj (Model.enumNames_all_isText hm)]
    rfl
  · rfl

theorem length_fixedUnits : g.fixedUnits.eraseDups.length =
    (if g.config.generateHelpers.truthy then 1 else 0) + 1 := by
  unfold fixedUnits
  split <;> rfl

/-- A model has a file for each entity name, for each enum name if enums are wanted, and for
each barrel and fixed file. -/
theorem length_paths (hapart : g.BarrelsApart) (hm : m.isTextual = true) :
    (g.paths m).eraseDups.length = m.entityNames.eraseDups.length + 1
      + (if g.config.generateEnums.truthy then m.enumNames.eraseDups.length + 1 else 0)
      + (if g.config.generateHelpers.truthy then 1 else 0) + 1 := by
  have hentities : ∀ p ∈ .models :: (g.enumUnits m ++ g.fixedUnits),
      p ∉ m.entityNames.map fun n => Part.entity n.text := by
    intro p hp hmem
    obtain ⟨n, -, rfl⟩ := List.mem_map.1 hmem
    simp [enumUnits, fixedUnits] at hp
  have hmodels : ∀ p ∈ g.enumUnits m ++ g.fixedUnits, p ∉ [Part.models] := by
    intro p hp hmem
    rw [List.mem_singleton.1 hmem] at hp
    simp [enumUnits, fixedUnits] at hp
  have hfixed : ∀ p ∈ g.fixedUnits, p ∉ g.enumUnits m := by
    intro p hp hmem
    simp only [fixedUnits, List.mem_append, List.mem_ite_nil_right, List.mem_singleton] at hp
    rcases hp with ⟨-, rfl⟩ | rfl <;> simp [enumUnits] at hmem
  rw [paths_eq_parts, eraseDups_map_of_injOn fun p hp q hq => eq_of_pathOf_eq_of_mem hapart hp hq,
    List.length_map, keys_parts, eraseDups_append_of_disjoint hentities, ← List.singleton_append,
    eraseDups_append_of_disjoint hmodels, eraseDups_append_of_disjoint hfixed]
  simp only [List.length_append]
  rw [length_eraseDups_units Part.entity.inj (Model.entityNames_all_isText hm),
    length_enumUnits hm, length_fixedUnits, eraseDups_of_nodup (List.nodup_singleton _),
    List.length_singleton]
  omega

/-! ## The files and their texts -/

section Files

variable (hg : g.Ready) (hs : g.settings.hasTextModules = true) (hm : m.isTextual = true)
  (hapart : g.BarrelsApart)

include hg hs hm hapart

/-- The file of an entity has the text of the last entity of its name. -/
theorem Ready.get?_files_entity {before rest : List Entity} {e : Entity} {d : Draft}
    (h : m.entities = before ++ e :: rest) (hlast : e.name ∉ rest.map (·.name))
    (hd : (g.emitEntity e).draft = .ok d) :
    Entries.get? (g.files m) (g.modelPath e.name) = some d.text := by
  have hemission : g.emissionOf? m (.entity e.name.text) = some (g.emitEntity e) := by
    rw [emissionOf?, Model.lastEntity?_of_split hm h hlast, Option.map_some]
  rw [← Emission.text_of_ok hd]
  exact hg.get?_files_emitted hs hm hapart _ hemission

/-- The file of an enum has the text of the last enum of its name. -/
theorem Ready.get?_files_enum (hwanted : g.config.generateEnums.truthy = true)
    {before rest : List EnumType} {e : EnumType} {d : Draft}
    (h : m.enums = before ++ e :: rest) (hlast : e.name ∉ rest.map (·.name))
    (hd : (g.emitEnum e).draft = .ok d) :
    Entries.get? (g.files m) (g.enumPath e.name) = some d.text := by
  have hemission : g.emissionOf? m (.enum e.name.text) = some (g.emitEnum e) := by
    rw [emissionOf?, if_pos hwanted, Model.lastEnum?_of_split hm h hlast, Option.map_some]
  rw [← Emission.text_of_ok hd]
  exact hg.get?_files_emitted hs hm hapart _ hemission

/-- The barrel of models exports each entity name, in some order. -/
theorem Ready.get?_files_models : ∃ sorted : List Value,
    sorted.Perm m.entityNames ∧ Entries.get? (g.files m) (g.barrelPath .models) =
      some (barrelFile g.engine.quote (sorted.map BarrelKind.models.exportOf)) := by
  obtain ⟨d, sorted, hd, -, hperm, htext⟩ :=
    hg.emitIndex_draft .models (Model.entityNames_all_isText hm)
  refine ⟨sorted, hperm, ?_⟩
  rw [← htext, ← Emission.text_of_ok hd]
  exact hg.get?_files_emitted hs hm hapart .models rfl

/-- The barrel of enums exports each enum name, in some order. -/
theorem Ready.get?_files_enums (hwanted : g.config.generateEnums.truthy = true) :
    ∃ sorted : List Value, sorted.Perm m.enumNames ∧
      Entries.get? (g.files m) (g.barrelPath .enums) =
        some (barrelFile g.engine.quote (sorted.map BarrelKind.enums.exportOf)) := by
  obtain ⟨d, sorted, hd, -, hperm, htext⟩ :=
    hg.emitIndex_draft .enums (Model.enumNames_all_isText hm)
  refine ⟨sorted, hperm, ?_⟩
  rw [← htext, ← Emission.text_of_ok hd]
  exact hg.get?_files_emitted hs hm hapart .enums (if_pos hwanted)

end Files

/-- Files are those of a model : one for each of its paths, so many as there are distinct names
and fixed files, and each unit as the last entity or enum of its name has it. -/
structure ExactFiles (g : Generator) (m : Model) (files : Entries Text Text) : Prop where
  paths : files.keys = (g.paths m).eraseDups
  nodup : files.keys.Nodup
  count : files.length = m.entityNames.eraseDups.length + 1
    + (if g.config.generateEnums.truthy then m.enumNames.eraseDups.length + 1 else 0)
    + (if g.config.generateHelpers.truthy then 1 else 0) + 1
  entity : ∀ before e rest, m.entities = before ++ e :: rest → e.name ∉ rest.map (·.name) →
    ∃ d, (g.emitEntity e).draft = .ok d ∧ d.path = g.modelPath e.name ∧
      Entries.get? files (g.modelPath e.name) = some d.text
  enum : g.config.generateEnums.truthy = true → ∀ before e rest,
    m.enums = before ++ e :: rest → e.name ∉ rest.map (·.name) →
    ∃ d, (g.emitEnum e).draft = .ok d ∧ d.path = g.enumPath e.name ∧
      Entries.get? files (g.enumPath e.name) = some d.text

theorem Ready.exactFiles (hg : g.Ready) (hs : g.settings.hasTextModules = true)
    (hm : m.isTextual = true) (hapart : g.BarrelsApart) : g.ExactFiles m (g.files m) where
  paths := hg.keys_files hs hm
  nodup := Entries.nodup_keys_putAll _
  count := by
    rw [← length_paths hapart hm, ← hg.keys_files hs hm, Entries.keys, List.length_map]
  entity before e rest h hlast := by
    have he : e ∈ m.entities := h ▸ List.mem_append_right _ List.mem_cons_self
    obtain ⟨unit, c, d, -, -, -, -, -, hd, hpath⟩ :=
      hg.emitEntity_draft hs ((Model.isTextual_iff.1 hm).1 e he)
    exact ⟨d, hd, hpath, hg.get?_files_entity hs hm hapart h hlast hd⟩
  enum hwanted before e rest h hlast := by
    obtain ⟨d, hd, hpath, -⟩ := hg.emitEnum_draft e
    exact ⟨d, hd, hpath, hg.get?_files_enum hs hm hapart hwanted h hlast hd⟩

/-- The emissions of a textual model go into a buffer one and all. -/
theorem Ready.generate_buffer (hg : g.Ready) (hs : g.settings.hasTextModules = true)
    (hm : m.isTextual = true) (tree : FileTree) (log : Log) : ∃ after,
      Session.generate ⟨g, { tree, target := .buffer [], log }⟩ m = (after, none) ∧
        after.workspace.target = .buffer (g.files m) := by
  obtain ⟨htrouble, htarget, -⟩ :=
    Workspace.writeAll_buffer (Emission.writes (g.plan m)) []
      { tree, target := .buffer [], log } rfl
  obtain ⟨hsame, hrun⟩ :=
    Session.emitAll_eq_writeAll (g.plan m) ⟨g, { tree, target := .buffer [], log }⟩
  rw [htrouble, Emission.failure?_eq_none (hg.writes_plan hs hm)] at hrun
  exact ⟨_, Prod.ext rfl hrun, hsame.target.trans htarget⟩

/-- A run whose writes all succeed comes to its end, whatever the model and the target. -/
theorem Ready.generateCode_of_writes (hg : g.Ready) (hs : g.settings.hasTextModules = true)
    (hm : m.isTextual = true) {w w' : Workspace}
    (hwrites : w.writeAll (Emission.writes (g.plan m)) = (w', none)) {files : List Text}
    (hfiles : w'.target.written = .ok files) : ∃ after warnings metadata,
      Session.generateCode ⟨g, w⟩ m = (after, .ok (.done files warnings metadata)) ∧
        after.workspace.SameFiles w' ∧ metadata.fileCount = files.length := by
  obtain ⟨warnings, hwarnings⟩ := Model.exists_warnings hm
  have htexts := Emission.failure?_eq_none (hg.writes_plan hs hm)
  obtain ⟨after, metadata, hrun, hsame, hcount⟩ :=
    Session.generateCode_of_writes ⟨g, w⟩ hwarnings htexts hwrites hfiles
  exact ⟨after, warnings, metadata, hrun, hsame, hcount⟩

/-- A run of a generator as it was made into a buffer puts the files of a textual model there, and
lists them. -/
theorem Ready.generateCode_buffer (hg : g.Ready) (hs : g.settings.hasTextModules = true)
    (hm : m.isTextual = true) (tree : FileTree) (log : Log) : ∃ after warnings metadata,
      Session.generateCode ⟨g, { tree, target := .buffer [], log }⟩ m =
        (after, .ok (.done (g.files m).keys warnings metadata)) ∧
      after.workspace.target = .buffer (g.files m) ∧ after.workspace.tree = tree ∧
      metadata.fileCount = (g.files m).length := by
  obtain ⟨htrouble, htarget, htree⟩ :=
    Workspace.writeAll_buffer (Emission.writes (g.plan m)) []
      { tree, target := .buffer [], log } rfl
  obtain ⟨after, warnings, metadata, hrun, hsame, hcount⟩ :=
    hg.generateCode_of_writes hs hm (Prod.ext rfl htrouble) (congrArg Target.written htarget)
  refine ⟨after, warnings, metadata, hrun, hsame.target.trans htarget, hsame.tree.trans htree, ?_⟩
  rw [hcount, Entries.keys, List.length_map, files]

end Generator

/-- Generating a textual model into an empty buffer succeeds and leaves its files, neither fewer
nor more, each with its last definition. -/
theorem Session.generateCode_exactFiles {kind : GeneratorClass} {c : Config} {g : Generator}
    (hg : Generator.create kind c = .ok g) (hs : g.settings.isTextual = true)
    (hdirs : g.settings.modelsDir ≠ g.settings.enumsDir ∨ c.generateEnums.truthy = false)
    {m : Model} (hm : m.isTextual = true) (tree : FileTree) (log : Log) :
    ∃ after files warnings metadata,
      Session.generateCode ⟨g, { tree, target := .buffer [], log }⟩ m =
        (after, .ok (.done files.keys warnings metadata)) ∧
      after.workspace.target = .buffer files ∧ g.ExactFiles m files ∧
      metadata.fileCount = files.length := by
  obtain ⟨hmodules, hmodelsDir, henumsDir⟩ := Settings.isTextual_iff.1 hs
  have hready := Generator.ready_of_create hg
  have hapart : g.BarrelsApart := by
    intro hwanted heq
    rcases hdirs with hne | hoff
    · exact hne (Value.eq_of_text_eq hmodelsDir henumsDir heq)
    · rw [Generator.config_of_create hg, hoff] at hwanted
      exact Bool.false_ne_true hwanted
  obtain ⟨after, warnings, metadata, hrun, htarget, -, hcount⟩ :=
    hready.generateCode_buffer hmodules hm tree log
  exact ⟨after, g.files m, warnings, metadata, hrun, htarget,
    hready.exactFiles hmodules hm hapart, hcount⟩

/-- A model with two entities of one name and an enum. -/
def Model.sampleShop : Model :=
  { entities :=
      [{ name := .str "Order", fields := [{ name := .str "id", type := .str "Int" }] },
       { name := .str "Customer", fields := [{ name := .str "name", type := .str "String" }] },
       { name := .str "Order"
         fields := [{ name := .str "status", type := .str "Status", kind := .enum }] }]
    enums := [{ name := .str "Status", values := [.str "OPEN", .str "PAID"] }] }

theorem Session.generateCode_exactFiles_sampleShop : ∃ g,
    Generator.create .typescript {} = .ok g ∧ g.settings.isTextual = true ∧
    g.settings.modelsDir ≠ g.settings.enumsDir ∧ Model.sampleShop.isTextual = true ∧
    ∃ after files warnings metadata,
      Session.generateCode ⟨g, { tree := {}, target := .buffer [] }⟩ .sampleShop =
        (after, .ok (.done files.keys warnings metadata)) ∧
      after.workspace.target = .buffer files ∧ g.ExactFiles .sampleShop files ∧
      metadata.fileCount = files.length := by
  have hg : Generator.create .typescript {} = .ok _ := rfl
  have hdirs : Value.str "models" ≠ .str "enums" := fun h => absurd (Value.str.inj h) (by decide)
  exact ⟨_, hg, rfl, hdirs, rfl, Session.generateCode_exactFiles hg rfl (.inl hdirs) rfl {} []⟩

end DtoPress
