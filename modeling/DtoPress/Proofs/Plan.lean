import DtoPress.Proofs.Sorting
import DtoPress.Proofs.UnitImports
import DtoPress.Proofs.Writes

/-!
# The plan of a textual model

A generator as it was made has a text for every file of a textual model. `Generator.paths`
lists the files of a model in order, and `Generator.Ready.writes_plan` : each emission of the
plan has a text for the file in its place. The plan is entities, a barrel, and two parts more
(`Generator.plan_eq`), so that what comes after an entity or an enum can be told from what
comes before it.
-/

set_option linter.unusedSectionVars false

namespace DtoPress

open Template (BuiltIn)

/-! ## Texts of files -/

theorem exists_propertyComment {layout : Layout} (h : ∃ n, spacesOf layout.commentIndent = .ok n)
    (comment : Value) : ∃ t, propertyComment layout comment = .ok t := by
  obtain ⟨n, hn⟩ := h
  unfold propertyComment
  split
  · rw [hn]
    exact ⟨_, rfl⟩
  · exact ⟨_, rfl⟩

theorem exists_propertyText {layout : Layout} (h : ∃ n, spacesOf layout.commentIndent = .ok n)
    (p : Property) : ∃ t, propertyText layout p = .ok t := by
  obtain ⟨t, ht⟩ := exists_propertyComment h p.comment
  rw [propertyText, ht]
  exact ⟨_, rfl⟩

theorem exists_classText (layout : Layout) (h : ∃ n, spacesOf layout.commentIndent = .ok n)
    (c : ClassDeclaration) : ∃ body : Text, classText layout c = .ok (headComment c.comment
      ++ ((if c.isExported.truthy then "export " else "") ++ "class " ++ c.name.text)
      ++ " \x7b\n" ++ body) := by
  obtain ⟨ps, hps⟩ := exists_mapM_ok (l := c.properties) fun p _ => exists_propertyText h p
  refine ⟨ps.flatten ++ c.statics.flatMap (staticText layout.indent) ++ "\x7d\n", ?_⟩
  rw [classText, hps]
  simp only [bind_ok, pure_eq_ok, List.append_assoc]

/-- What stands in a class file before its class. -/
def classHead (layout : Layout) (imports : Imports) (c : ClassDeclaration) : Text :=
  importLines layout.quote imports ++ "\n" ++ headComment c.comment

theorem exists_classFile (layout : Layout) (h : ∃ n, spacesOf layout.commentIndent = .ok n)
    (imports : Imports) (c : ClassDeclaration) : ∃ body : Text, classFile layout imports c =
      .ok (classHead layout imports c
        ++ ((if c.isExported.truthy then "export " else "") ++ "class " ++ c.name.text)
        ++ " \x7b\n" ++ body) := by
  obtain ⟨body, hbody⟩ := exists_classText layout h c
  refine ⟨body, ?_⟩
  rw [classFile, hbody]
  simp only [bind_ok, pure_eq_ok, classHead, List.append_assoc]

theorem Entity.exists_declaration {e : Entity} {style : UnitStyle} {unit : DtoUnit}
    (h : e.unit style = .ok unit) :
    ∃ classified, unit.declaration = some (e.declaration style classified) := by
  obtain ⟨classified, -, h⟩ := bind_eq_ok_iff.1 h
  obtain ⟨imports, -, h⟩ := bind_eq_ok_iff.1 h
  rw [← Except.ok.inj h]
  exact ⟨classified, rfl⟩

namespace Generator

variable {g : Generator}

/-! ## Drafts -/

theorem Ready.rendered (hg : g.Ready) (b : BuiltIn) (context : Template.Context)
    (text : Except SpacesError Text) : g.rendered b context text =
      text.mapError fun e => ⟨b.fileName, .notSpaces e⟩ := by
  have hfind : (g.rendering b context text).result g.engine.find? =
      text.mapError .notSpaces := by
    rw [rendering, Template.Engine.rendering, Template.Rendering.result, hg.builtIn b,
      Template.Rendering.result]
  rw [Generator.rendered, Template.Engine.text, hfind]
  cases text <;> rfl

theorem Ready.lookedUp (hg : g.Ready) (b : BuiltIn) (context : Template.Context)
    (text : Except SpacesError Text) :
    g.engine.lookedUp (g.rendering b context text) = [b.fileName] := by
  rw [Template.Engine.lookedUp, rendering, Template.Engine.rendering, Template.Rendering.lookUps,
    hg.builtIn b, Template.Rendering.lookUps]

theorem Ready.emission_draft (hg : g.Ready) (b : BuiltIn) (context : Template.Context)
    (text path : Text) (notes : List Text) :
    (g.emission b context (.ok text) path notes).draft = .ok { path, text, notes } := by
  rw [emission, hg.rendered]
  rfl

theorem Ready.renderUnit_eq (hg : g.Ready) {imports : Imports} {c : ClassDeclaration} {t : Text}
    (h : classFile g.layout imports c = .ok t) : g.renderUnit imports c = .ok t := by
  rw [renderUnit, hg.rendered, h]
  rfl

/-- The emission of an entity writes the class file of its unit, if there is a unit. -/
theorem Ready.emitEntity_of_unit (hg : g.Ready) {e : Entity} {unit : DtoUnit}
    (h : g.unit e = .ok unit) : ∃ classified d,
      unit.declaration = some (e.declaration g.unitStyle classified) ∧
      classFile g.layout unit.imports (e.declaration g.unitStyle classified) = .ok d.text ∧
      (g.emitEntity e).draft = .ok d ∧ d.path = unit.path := by
  obtain ⟨classified, hdeclared⟩ := Entity.exists_declaration h
  obtain ⟨body, hbody⟩ := exists_classFile g.layout hg.spaces unit.imports
    (e.declaration g.unitStyle classified)
  refine ⟨classified, ⟨unit.path, _, ["Emitted " ++ (Value.str (dtoName e.name)).text]⟩,
    hdeclared, hbody, ?_, rfl⟩
  rw [emitEntity, h]
  simp only [hdeclared, hbody]
  exact hg.emission_draft .model _ _ unit.path _

theorem Ready.emitEntity_draft (hg : g.Ready) (hs : g.settings.hasTextModules = true)
    {e : Entity} (he : e.isTextual = true) : ∃ unit c d, g.unit e = .ok unit ∧
      unit.declaration = some c ∧ c.name = .str (dtoName e.name) ∧ c.isExported = .bool true ∧
      classFile g.layout unit.imports c = .ok d.text ∧ (g.emitEntity e).draft = .ok d ∧
      d.path = g.modelPath e.name := by
  obtain ⟨_, -, hunit⟩ := Entity.unit_eq
    (Entity.referencedEnums_all_isText he) g.unitStyle hs hg.types
  replace hunit : g.unit e = .ok _ := hunit
  obtain ⟨classified, d, hdeclared, hfile, hd, hpath⟩ := hg.emitEntity_of_unit hunit
  exact ⟨_, e.declaration g.unitStyle classified, d, hunit, hdeclared, rfl, rfl, hfile, hd, hpath⟩

theorem Ready.emitEnum_draft (hg : g.Ready) (e : EnumType) : ∃ d,
    (g.emitEnum e).draft = .ok d ∧ d.path = g.enumPath e.name ∧
      d.text = enumFile g.indent g.engine.quote g.config.addComments.truthy e :=
  ⟨_, hg.emission_draft .enum _ _ _ _, rfl, rfl⟩

/-- The emission of a barrel writes an export for each name, in order, if they have an order. -/
theorem Ready.emitIndex_of_sort? (hg : g.Ready) (kind : BarrelKind) {names sorted : List Value}
    (h : Value.sort? names = some sorted) : ∃ d, (g.emitIndex kind names).draft = .ok d ∧
      d.path = g.barrelPath kind ∧
      d.text = barrelFile g.engine.quote (sorted.map kind.exportOf) := by
  have hindex : g.emitIndex kind names = g.emitBarrel kind sorted := by rw [emitIndex, h]
  rw [hindex]
  exact ⟨_, hg.emission_draft .index _ _ _ _, rfl, rfl⟩

/-- The emission of a barrel of texts writes an export for each of them, in some order. -/
theorem Ready.emitIndex_draft (hg : g.Ready) (kind : BarrelKind) {names : List Value}
    (h : names.all Value.isText = true) : ∃ d, ∃ sorted : List Value,
      (g.emitIndex kind names).draft = .ok d ∧ d.path = g.barrelPath kind ∧
        sorted.Perm names ∧ d.text = barrelFile g.engine.quote (sorted.map kind.exportOf) := by
  obtain ⟨sorted, hsorted, hperm⟩ := Value.exists_sort? h
  obtain ⟨d, hd, hpath, htext⟩ := hg.emitIndex_of_sort? kind hsorted
  exact ⟨d, sorted, hd, hpath, hperm, htext⟩

theorem Ready.emitHelpers_draft (hg : g.Ready) : ∃ d, g.emitHelpers.draft = .ok d ∧
    d.path = g.helpersPath :=
  ⟨_, hg.emission_draft .helpers _ _ _ _, rfl⟩

theorem Ready.emitDecorators_draft (hg : g.Ready) : ∃ d, g.emitDecorators.draft = .ok d ∧
    d.path = g.decoratorsPath :=
  ⟨_, hg.emission_draft .decorators _ _ _ _, rfl⟩

/-! ## The parts of a plan -/

/-- The emissions of enums and their barrel, if they are wanted. -/
def emitEnums (g : Generator) (m : Model) : List Emission :=
  if g.config.generateEnums.truthy then
    m.enums.map g.emitEnum ++ [g.emitIndex .enums m.enumNames]
  else []

/-- The emissions of helpers, if they are wanted, and of decorators. -/
def emitFixed (g : Generator) : List Emission :=
  (if g.config.generateHelpers.truthy then [g.emitHelpers] else []) ++ [g.emitDecorators]

theorem plan_eq (g : Generator) (m : Model) : g.plan m = m.entities.map g.emitEntity
    ++ g.emitIndex .models m.entityNames :: (g.emitEnums m ++ g.emitFixed) := by
  simp only [plan, emitEnums, emitFixed, List.append_assoc, List.cons_append,
    List.nil_append]

/-- The paths of entities in order. -/
def entityPaths (g : Generator) (m : Model) : List Text :=
  m.entities.map fun e => g.modelPath e.name

/-- The paths of enums in order and of their barrel, if they are wanted. -/
def enumPaths (g : Generator) (m : Model) : List Text :=
  if g.config.generateEnums.truthy then
    (m.enums.map fun e => g.enumPath e.name) ++ [g.barrelPath .enums]
  else []

/-- The paths of helpers, if they are wanted, and of decorators. -/
def fixedPaths (g : Generator) : List Text :=
  (if g.config.generateHelpers.truthy then [g.helpersPath] else []) ++ [g.decoratorsPath]

/-- The paths of the files of a model in the order in which they are written : entities and their
barrel, enums and theirs, helpers and decorators. -/
def paths (g : Generator) (m : Model) : List Text :=
  g.entityPaths m ++ g.barrelPath .models :: (g.enumPaths m ++ g.fixedPaths)

/-! ## Each emission has a text -/

theorem Ready.writes_entities (hg : g.Ready) (hs : g.settings.hasTextModules = true)
    {es : List Entity} (h : ∀ e ∈ es, e.isTextual = true) :
    List.Forall₂ Emission.Writes (es.map g.emitEntity) (es.map fun e => g.modelPath e.name) := by
  refine forall₂_map_same fun e he => ?_
  obtain ⟨unit, c, d, -, -, -, -, -, hd, hpath⟩ := hg.emitEntity_draft hs (h e he)
  exact ⟨d, hd, hpath⟩

theorem Ready.writes_enums (hg : g.Ready) (es : List EnumType) :
    List.Forall₂ Emission.Writes (es.map g.emitEnum) (es.map fun e => g.enumPath e.name) := by
  refine forall₂_map_same fun e _ => ?_
  obtain ⟨d, hd, hpath, -⟩ := hg.emitEnum_draft e
  exact ⟨d, hd, hpath⟩

theorem Ready.writes_index (hg : g.Ready) (kind : BarrelKind) {names : List Value}
    (h : names.all Value.isText = true) :
    (g.emitIndex kind names).Writes (g.barrelPath kind) := by
  obtain ⟨d, sorted, hd, hpath, -⟩ := hg.emitIndex_draft kind h
  exact ⟨d, hd, hpath⟩

theorem Ready.writes_emitEnums (hg : g.Ready) {m : Model} (hm : m.isTextual = true) :
    List.Forall₂ Emission.Writes (g.emitEnums m) (g.enumPaths m) := by
  unfold emitEnums enumPaths
  split
  · exact List.rel_append (hg.writes_enums m.enums)
      (.cons (hg.writes_index .enums (Model.enumNames_all_isText hm)) .nil)
  · exact .nil

theorem Ready.writes_emitFixed (hg : g.Ready) :
    List.Forall₂ Emission.Writes g.emitFixed g.fixedPaths := by
  unfold emitFixed fixedPaths
  split
  · exact .cons hg.emitHelpers_draft (.cons hg.emitDecorators_draft .nil)
  · exact .cons hg.emitDecorators_draft .nil

/-- Each emission of the plan of a textual model has a text for its path. -/
theorem Ready.writes_plan (hg : g.Ready) (hs : g.settings.hasTextModules = true) {m : Model}
    (hm : m.isTextual = true) : List.Forall₂ Emission.Writes (g.plan m) (g.paths m) := by
  rw [plan_eq, paths]
  refine List.rel_append (hg.writes_entities hs (Model.isTextual_iff.1 hm).1) (.cons ?_ ?_)
  · exact hg.writes_index .models (Model.entityNames_all_isText hm)
  · exact List.rel_append (hg.writes_emitEnums hm) hg.writes_emitFixed

end Generator

end DtoPress
