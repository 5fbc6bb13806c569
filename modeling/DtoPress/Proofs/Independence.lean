import DtoPress.Proofs.FileSet
import DtoPress.Proofs.LookUps

/-!
# What each file depends on

The file of a part is made of that part of the model alone : of the last entity or the last enum
of its name, of the names for a barrel, of nothing for a fixed file. So two models that agree on
a part give it the same file (`Generator.AgreeOnParts`), and what is switched on adds its own
files and leaves the others alone (`Generator.SwitchAdds`). Nothing passes from one run to the
next either, since a generator in use writes the same files as a new one
(`Generator.Leaves`). `Session.generateCode_independent` has it all.
-/

set_option linter.unusedSectionVars false

namespace DtoPress

/-! ## Models with the same parts -/

theorem Value.nodup_map_text {vs : List Value} (hvs : vs.all isText = true) (h : vs.Nodup) :
    (vs.map text).Nodup := by
  obtain ⟨ts, rfl⟩ := exists_texts hvs
  simpa [List.map_map, Function.comp_def, text] using List.Nodup.of_map _ h

namespace Model

variable {a b : Model}

theorem lastEntity?_of_perm (ha : a.isTextual = true) (hperm : a.entities.Perm b.entities)
    (hnodup : a.entityNames.Nodup) (name : Text) : a.lastEntity? name = b.lastEntity? name := by
  refine Entries.last?_eq_of_perm (hperm.map _) ?_ name
  have hnames := Value.nodup_map_text (entityNames_all_isText ha) hnodup
  rw [entityNames, List.map_map] at hnames
  rwa [Entries.keys, List.map_map]

theorem lastEnum?_of_perm (ha : a.isTextual = true) (hperm : a.enums.Perm b.enums)
    (hnodup : a.enumNames.Nodup) (name : Text) : a.lastEnum? name = b.lastEnum? name := by
  refine Entries.last?_eq_of_perm (hperm.map _) ?_ name
  have hnames := Value.nodup_map_text (enumNames_all_isText ha) hnodup
  rw [enumNames, List.map_map] at hnames
  rwa [Entries.keys, List.map_map]

/-- An entity in the place of another one of the same name is no other name's last one. -/
theorem lastEntity?_of_changed {before rest : List Entity} {e e' : Entity}
    (hentities : a.entities = before ++ e :: rest) (hentities' : b.entities = before ++ e' :: rest)
    (hname : e'.name = e.name) {name : Text} (hne : e.name.text ≠ name) :
    a.lastEntity? name = b.lastEntity? name := by
  simp [lastEntity?, hentities, hentities', hname, hne, Entries.last?_append, Entries.last?]

theorem lastEnum?_eq_none_iff {name : Text} :
    a.lastEnum? name = none ↔ ∀ e ∈ a.enums, e.name.text ≠ name := by
  rw [lastEnum?, Entries.last?_eq_none_iff, Entries.keys, List.map_map, List.mem_map]
  simp

end Model

/-! ## Files as a function of the parts -/

namespace Generator

variable {g : Generator} {m : Model}

/-- Whatever the tree and the log, the generator makes these files of the model and no others,
if they go into an empty buffer. It lists them, and it can be used for the next run. -/
def Leaves (g : Generator) (m : Model) (files : Entries Text Text) : Prop :=
  ∀ lookUps tree log, ∃ after warnings metadata lookUps',
    Session.generateCode ⟨g.used lookUps, { tree, target := .buffer [], log }⟩ m =
      (after, .ok (.done files.keys warnings metadata)) ∧
    after.workspace.target = .buffer files ∧ after.generator = g.used lookUps'

/-- The generator is one as it was made, its settings are texts, and entities and enums have
directories of their own. -/
structure Orderly (g : Generator) : Prop where
  used : ∀ lookUps, (g.used lookUps).Ready
  modules : g.settings.hasTextModules = true
  dirs : g.settings.modelsDir.text ≠ g.settings.enumsDir.text

theorem orderly_of_create {kind : GeneratorClass} {c : Config} (hg : create kind c = .ok g)
    (hs : g.settings.isTextual = true) (hdirs : g.settings.modelsDir ≠ g.settings.enumsDir) :
    g.Orderly := by
  obtain ⟨hmodules, hmodelsDir, henumsDir⟩ := Settings.isTextual_iff.1 hs
  exact ⟨ready_used_of_create hg, hmodules,
    fun heq => hdirs (Value.eq_of_text_eq hmodelsDir henumsDir heq)⟩

theorem Orderly.ready (hg : g.Orderly) : g.Ready :=
  hg.used []

theorem Orderly.leaves (hg : g.Orderly) (hm : m.isTextual = true) : g.Leaves m (g.files m) := by
  intro lookUps tree log
  have hused := hg.used lookUps
  obtain ⟨after, warnings, metadata, hrun, htarget, -, -⟩ :=
    hused.generateCode_buffer hg.modules hm tree log
  obtain ⟨lookUps', hgenerator⟩ := Session.generateCode_generator
    ⟨g.used lookUps, { tree, target := .buffer [], log }⟩ m
  rw [hrun] at hgenerator
  have hfiles : (g.used lookUps).files m = g.files m := by
    rw [files, g.used_plan lookUps, files]
  rw [hfiles] at hrun htarget
  exact ⟨after, warnings, metadata, lookUps ++ lookUps', hrun, htarget,
    hgenerator.trans (g.used_used lookUps lookUps')⟩

/-! ## Files that agree -/

/-- A path has the same file in two runs if whatever part it is of is emitted alike. -/
theorem Orderly.get?_files_eq {h : Generator} {a b : Model} (hg : g.Orderly) (hh : h.Orderly)
    (ha : a.isTextual = true) (hb : b.isTextual = true)
    (hpaths : ∀ part, h.pathOf part = g.pathOf part) {path : Text}
    (hparts : ∀ part, g.pathOf part = path → g.emissionOf? a part = h.emissionOf? b part) :
    Entries.get? (g.files a) path = Entries.get? (h.files b) path := by
  by_cases hpath : ∃ part, g.pathOf part = path
  · obtain ⟨part, hpart⟩ := hpath
    have hpart' : h.pathOf part = path := (hpaths part).trans hpart
    have hemission := hparts part hpart
    have hfile := hh.ready.get?_files hh.modules hb hh.dirs part
    rw [hpart'] at hfile
    rw [hfile, ← hemission, ← hg.ready.get?_files hg.modules ha hg.dirs part, hpart]
  · have hnone : ∀ part, g.pathOf part ≠ path := fun part hpart => hpath ⟨part, hpart⟩
    rw [hg.ready.get?_files_eq_none hg.modules ha hnone,
      hh.ready.get?_files_eq_none hh.modules hb fun part hpart =>
        hnone part ((hpaths part).symm.trans hpart)]

theorem emitIndex_of_perm (g : Generator) (kind : BarrelKind) {names names' : List Value}
    (h : names.all Value.isText = true) (hperm : names.Perm names') :
    g.emitIndex kind names = g.emitIndex kind names' := by
  rw [emitIndex, emitIndex, Value.sort?_of_perm h hperm]

/-! ## Two models -/

/-- The files of two models agree where the models agree. -/
structure AgreeOnParts (g : Generator) (a b : Model) (as bs : Entries Text Text) : Prop where
  entity : ∀ name, a.lastEntity? name = b.lastEntity? name →
    Entries.get? as (g.modelPath (.str name)) = Entries.get? bs (g.modelPath (.str name))
  enum : ∀ name, a.lastEnum? name = b.lastEnum? name →
    Entries.get? as (g.enumPath (.str name)) = Entries.get? bs (g.enumPath (.str name))
  models : a.entityNames.Perm b.entityNames →
    Entries.get? as (g.barrelPath .models) = Entries.get? bs (g.barrelPath .models)
  enums : a.enumNames.Perm b.enumNames →
    Entries.get? as (g.barrelPath .enums) = Entries.get? bs (g.barrelPath .enums)
  helpers : Entries.get? as g.helpersPath = Entries.get? bs g.helpersPath
  decorators : Entries.get? as g.decoratorsPath = Entries.get? bs g.decoratorsPath
  permuted : a.entities.Perm b.entities → a.enums.Perm b.enums → a.entityNames.Nodup →
    a.enumNames.Nodup → ∀ path, Entries.get? as path = Entries.get? bs path
  changed : ∀ before e e' rest, a.entities = before ++ e :: rest →
    b.entities = before ++ e' :: rest → e'.name = e.name → b.enums = a.enums →
    bs.keys = as.keys ∧ ∀ path, path ≠ g.modelPath e.name →
      Entries.get? as path = Entries.get? bs path

section TwoModels

variable {a b : Model} (hg : g.Orderly) (ha : a.isTextual = true) (hb : b.isTextual = true)

include hg ha hb

theorem Orderly.get?_files_part (part : Part) (h : g.emissionOf? a part = g.emissionOf? b part) :
    Entries.get? (g.files a) (g.pathOf part) = Entries.get? (g.files b) (g.pathOf part) := by
  refine hg.get?_files_eq hg ha hb (fun _ => rfl) fun part' hpart' => ?_
  rwa [pathOf_injective hg.dirs hpart']

theorem Orderly.get?_files_of_perm (hentities : a.entities.Perm b.entities)
    (henums : a.enums.Perm b.enums) (hentityNames : a.entityNames.Nodup)
    (henumNames : a.enumNames.Nodup) (path : Text) :
    Entries.get? (g.files a) path = Entries.get? (g.files b) path := by
  refine hg.get?_files_eq hg ha hb (fun _ => rfl) fun part _ => ?_
  cases part with
  | entity name =>
    rw [emissionOf?, emissionOf?, Model.lastEntity?_of_perm ha hentities hentityNames]
  | models =>
    rw [emissionOf?, emissionOf?, g.emitIndex_of_perm .models (Model.entityNames_all_isText ha)
      (hentities.map _), Model.entityNames]
  | enum name => rw [emissionOf?, emissionOf?, Model.lastEnum?_of_perm ha henums henumNames]
  | enums =>
    rw [emissionOf?, emissionOf?, g.emitIndex_of_perm .enums (Model.enumNames_all_isText ha)
      (henums.map _), Model.enumNames]
  | helpers => rfl
  | decorators => rfl

theorem Orderly.files_of_changed {before rest : List Entity} {e e' : Entity}
    (hentities : a.entities = before ++ e :: rest) (hentities' : b.entities = before ++ e' :: rest)
    (hname : e'.name = e.name) (henums : b.enums = a.enums) :
    (g.files b).keys = (g.files a).keys ∧ ∀ path, path ≠ g.modelPath e.name →
      Entries.get? (g.files a) path = Entries.get? (g.files b) path := by
  have hnames : b.entityNames = a.entityNames := by
    simp [Model.entityNames, hentities, hentities', hname]
  have hpaths : g.paths b = g.paths a := by
    simp only [paths, entityPaths, enumPaths, hentities, hentities', henums, List.map_append,
      List.map_cons, hname]
  refine ⟨?_, fun path hpath => hg.get?_files_eq hg ha hb (fun _ => rfl) fun part hpart => ?_⟩
  · rw [hg.ready.keys_files hg.modules hb, hpaths, hg.ready.keys_files hg.modules ha]
  cases part with
  | entity name =>
    have hne : e.name.text ≠ name := by
      rintro rfl
      exact hpath hpart.symm
    rw [emissionOf?, emissionOf?, Model.lastEntity?_of_changed hentities hentities' hname hne]
  | models => rw [emissionOf?, emissionOf?, hnames]
  | enum name => rw [emissionOf?, emissionOf?, Model.lastEnum?, Model.lastEnum?, henums]
  | enums => rw [emissionOf?, emissionOf?, Model.enumNames, Model.enumNames, henums]
  | helpers => rfl
  | decorators => rfl

theorem Orderly.agreeOnParts : g.AgreeOnParts a b (g.files a) (g.files b) where
  entity name h := hg.get?_files_part ha hb (.entity name) (congrArg (Option.map g.emitEntity) h)
  enum name h := hg.get?_files_part ha hb (.enum name) (by rw [emissionOf?, emissionOf?, h])
  models h := hg.get?_files_part ha hb .models
    (congrArg some (g.emitIndex_of_perm .models (Model.entityNames_all_isText ha) h))
  enums h := hg.get?_files_part ha hb .enums (by
    rw [emissionOf?, emissionOf?, g.emitIndex_of_perm .enums (Model.enumNames_all_isText ha) h])
  helpers := hg.get?_files_part ha hb .helpers rfl
  decorators := hg.get?_files_part ha hb .decorators rfl
  permuted := hg.get?_files_of_perm ha hb
  changed _ _ _ _ := hg.files_of_changed ha hb

end TwoModels

/-! ## Files that are switched on -/

/-- Of two lists of files one has further ones, at the given paths, and agrees with the other one
everywhere else. -/
structure Adds (fewer more : Entries Text Text) (paths : List Text) : Prop where
  added : ∀ path ∈ paths, path ∈ more.keys ∧ path ∉ fewer.keys
  others : ∀ path, path ∉ paths → Entries.get? more path = Entries.get? fewer path

/-- Of two configurations one adds files at the given paths to those of the other one. -/
def SwitchAdds (kind : GeneratorClass) (off on : Config) (m : Model) (paths : List Text) : Prop :=
  ∃ g h fewer more, create kind off = .ok g ∧ create kind on = .ok h ∧ g.Leaves m fewer ∧
    h.Leaves m more ∧ Adds fewer more paths

theorem Orderly.adds {h : Generator} (hg : g.Orderly) (hh : h.Orderly) (hm : m.isTextual = true)
    (hpaths : ∀ part, h.pathOf part = g.pathOf part) (added : List Part)
    (hadded : ∀ part ∈ added, g.emissionOf? m part = none ∧ (h.emissionOf? m part).isSome = true)
    (hothers : ∀ part, part ∉ added → h.emissionOf? m part = g.emissionOf? m part) :
    Adds (g.files m) (h.files m) (added.map g.pathOf) where
  added path hpath := by
    obtain ⟨part, hpart, rfl⟩ := List.mem_map.1 hpath
    obtain ⟨hoff, hon⟩ := hadded part hpart
    constructor
    · rw [← Entries.isSome_get?_iff, ← hpaths, hh.ready.get?_files hh.modules hm hh.dirs,
        Option.isSome_map]
      exact hon
    · rw [← Entries.isSome_get?_iff, hg.ready.get?_files hg.modules hm hg.dirs, hoff]
      simp
  others path hpath := by
    refine hh.get?_files_eq hg hm hm (fun part => (hpaths part).symm) fun part hpart => ?_
    refine hothers part fun hmem => hpath (List.mem_map.2 ⟨part, hmem, ?_⟩)
    rw [← hpaths, hpart]

section Switches

variable {kind : GeneratorClass} {c : Config} (hg : create kind c = .ok g)
  (hs : g.settings.isTextual = true) (hdirs : g.settings.modelsDir ≠ g.settings.enumsDir)
  (hm : m.isTextual = true)

include hg hs hdirs hm

/-- Switching enums on adds their files and their barrel. -/
theorem switchAdds_enums : SwitchAdds kind { c with generateEnums := .bool false }
    { c with generateEnums := .bool true } m
    ((m.enums.map fun e => g.enumPath e.name) ++ [g.barrelPath .enums]) := by
  have hoff := create_config hg { c with generateEnums := .bool false } rfl rfl rfl
  have hon := create_config hg { c with generateEnums := .bool true } rfl rfl rfl
  have hoffOrderly := orderly_of_create hoff hs hdirs
  have honOrderly := orderly_of_create hon hs hdirs
  refine ⟨_, _, _, _, hoff, hon, hoffOrderly.leaves hm, honOrderly.leaves hm, ?_⟩
  have hadds := hoffOrderly.adds honOrderly hm (fun part => by cases part <;> rfl)
    ((m.enums.map fun e => .enum e.name.text) ++ [.enums]) ?_ ?_
  · rwa [List.map_append, List.map_map] at hadds
  · intro part hpart
    rcases List.mem_append.1 hpart with hpart | hpart
    · obtain ⟨e, he, rfl⟩ := List.mem_map.1 hpart
      refine ⟨rfl, ?_⟩
      cases hlast : m.lastEnum? e.name.text with
      | none => exact absurd rfl (Model.lastEnum?_eq_none_iff.1 hlast e he)
      | some last => simp [emissionOf?, hlast]
    · rw [List.mem_singleton.1 hpart]
      exact ⟨rfl, rfl⟩
  · intro part hpart
    cases part with
    | enum name =>
      have hnone : m.lastEnum? name = none := by
        refine Model.lastEnum?_eq_none_iff.2 fun e he hname => hpart ?_
        exact List.mem_append_left _ (List.mem_map.2 ⟨e, he, congrArg Part.enum hname⟩)
      simp [emissionOf?, hnone]
    | enums => exact absurd (by simp) hpart
    | _ => rfl

/-- Switching helpers on adds their file. -/
theorem switchAdds_helpers : SwitchAdds kind { c with generateHelpers := .bool false }
    { c with generateHelpers := .bool true } m [g.helpersPath] := by
  have hoff := create_config hg { c with generateHelpers := .bool false } rfl rfl rfl
  have hon := create_config hg { c with generateHelpers := .bool true } rfl rfl rfl
  have hoffOrderly := orderly_of_create hoff hs hdirs
  have honOrderly := orderly_of_create hon hs hdirs
  refine ⟨_, _, _, _, hoff, hon, hoffOrderly.leaves hm, honOrderly.leaves hm, ?_⟩
  refine hoffOrderly.adds honOrderly hm (fun part => by cases part <;> rfl) [.helpers] ?_ ?_
  · intro part hpart
    rw [List.mem_singleton.1 hpart]
    exact ⟨rfl, rfl⟩
  · intro part hpart
    cases part with
    | helpers => exact absurd List.mem_cons_self hpart
    | _ => rfl

end Switches

end Generator

/-- Each file depends on its own part of the model alone : two models have the same file wherever
they agree on the part that it is for, and whatever runs the generator has behind it. What is
switched on adds its own files, and the others stay what they are. -/
theorem Session.generateCode_independent {kind : GeneratorClass} {c : Config} {g : Generator}
    (hg : Generator.create kind c = .ok g) (hs : g.settings.isTextual = true)
    (hdirs : g.settings.modelsDir ≠ g.settings.enumsDir) {a b : Model}
    (ha : a.isTextual = true) (hb : b.isTextual = true) :
    (∃ as bs, g.Leaves a as ∧ g.Leaves b bs ∧ g.AgreeOnParts a b as bs) ∧
    Generator.SwitchAdds kind { c with generateEnums := .bool false }
      { c with generateEnums := .bool true } a
      ((a.enums.map fun e => g.enumPath e.name) ++ [g.barrelPath .enums]) ∧
    Generator.SwitchAdds kind { c with generateHelpers := .bool false }
      { c with generateHelpers := .bool true } a [g.helpersPath] := by
  have horderly := Generator.orderly_of_create hg hs hdirs
  exact ⟨⟨_, _, horderly.leaves ha, horderly.leaves hb, horderly.agreeOnParts ha hb⟩,
    Generator.switchAdds_enums hg hs hdirs ha, Generator.switchAdds_helpers hg hs hdirs ha⟩

/-- A model with the last order of the other one, and another customer. -/
def Model.sampleShopChanged : Model :=
  { Model.sampleShop with
    entities :=
      [{ name := .str "Order"
         fields := [{ name := .str "status", type := .str "Status", kind := .enum }] },
       { name := .str "Customer", fields := [{ name := .str "age", type := .str "Int" }] }] }

/-- The order is the same in both models, so its file is, though the customer is another one. -/
theorem Session.generateCode_independent_sampleShop : ∃ g,
    Generator.create .typescript {} = .ok g ∧ g.settings.isTextual = true ∧
    g.settings.modelsDir ≠ g.settings.enumsDir ∧ Model.sampleShop.isTextual = true ∧
    Model.sampleShopChanged.isTextual = true ∧ ∃ as bs,
      g.Leaves .sampleShop as ∧ g.Leaves .sampleShopChanged bs ∧
      Entries.get? as "models/OrderDTO.model.ts" = Entries.get? bs "models/OrderDTO.model.ts" := by
  have hg : Generator.create .typescript {} = .ok _ := rfl
  have hdirs : Value.str "models" ≠ .str "enums" := fun h => absurd (Value.str.inj h) (by decide)
  obtain ⟨⟨as, bs, has, hbs, hagree⟩, -⟩ := Session.generateCode_independent hg rfl hdirs
    (a := .sampleShop) (b := .sampleShopChanged) rfl rfl
  exact ⟨_, hg, rfl, hdirs, rfl, rfl, as, bs, has, hbs, hagree.entity "Order" rfl⟩

end DtoPress
