import DtoPress.Proofs.FileSet

/-!
# Links between generated files

The names in imports, barrels, paths and classes are put together in five places that know
nothing of each other. `Session.generate_linkClosed` : with the usual modules and directories
they agree, so that the files of a model without unknown references link. What a unit imports
from a barrel the barrel exports, what a barrel exports the file it names declares, and each
entity and enum is exported.
-/

set_option linter.unusedSectionVars false

namespace DtoPress

/-- The text has a line of its own, or lines. -/
def Text.HasLine (t line : Text) : Prop :=
  ∃ before after : Text, t = before ++ line ++ "\n" ++ after ∧
    (before = [] ∨ ∃ init : Text, before = init ++ "\n")

/-- What generated files share under the usual modules and directories : links lead to what is
there, and nothing of the model is left out. -/
structure Generator.LinkClosed (g : Generator) (m : Model) (files : Entries Text Text)
    (models enums : List Export) : Prop where
  modelsBarrel : Entries.get? files "models/index.ts" = some (barrelFile g.engine.quote models)
  enumsBarrel : Entries.get? files "enums/index.ts" = some (barrelFile g.engine.quote enums)
  /-- What a unit imports is exported. -/
  imported : ∀ e ∈ m.entities, ∃ unit, g.unit e = .ok unit ∧
    (∀ s ∈ unit.imports.symbolsOf (.str "./"), ∃ x ∈ models, x.symbol = s) ∧
    ∀ s ∈ unit.imports.symbolsOf (.str "../enums"), ∃ x ∈ enums, x.symbol = s
  /-- What is exported is declared. -/
  declaredClass : ∀ x ∈ models, ∃ name text : Text, x.module = "./" ++ name ∧
    Entries.get? files ("models/" ++ name ++ ".ts") = some text ∧
    text.HasLine ("export class " ++ x.symbol.text ++ " \x7b")
  declaredEnum : ∀ x ∈ enums, ∃ name text : Text, x.module = "./" ++ name ∧
    Entries.get? files ("enums/" ++ name ++ ".ts") = some text ∧
    text.HasLine ("export enum " ++ x.symbol.text ++ " \x7b")
  /-- What is in the model is exported. -/
  exportedEntity : ∀ e ∈ m.entities, ∃ x ∈ models, x.symbol = .str (e.name.text ++ "DTO")
  exportedEnum : ∀ e ∈ m.enums, ∃ x ∈ enums, x.symbol = e.name
  helpers : (Entries.get? files "helpers.ts").isSome = true
  decorators : (Entries.get? files "decorators.ts").isSome = true

/-! ## Lines of declarations -/

theorem headComment_eq (comment : Value) : headComment comment = [] ∨
    ∃ init : Text, headComment comment = init ++ "\n" := by
  unfold headComment
  split
  · exact .inr ⟨_, rfl⟩
  · exact .inl rfl

theorem classHead_eq (layout : Layout) (imports : Imports) (c : ClassDeclaration) :
    ∃ init : Text, classHead layout imports c = init ++ "\n" := by
  unfold classHead
  rcases headComment_eq c.comment with h | ⟨init, h⟩
  · exact ⟨importLines layout.quote imports, by rw [h, List.append_nil]⟩
  · exact ⟨importLines layout.quote imports ++ "\n" ++ init, by rw [h, List.append_assoc _ init]⟩

/-- The file of an exported class declares it. -/
theorem hasLine_classFile {layout : Layout} (h : ∃ n, spacesOf layout.commentIndent = .ok n)
    {imports : Imports} {c : ClassDeclaration} (hc : c.isExported = .bool true) {text : Text}
    (htext : classFile layout imports c = .ok text) :
    text.HasLine ("export class " ++ c.name.text ++ " \x7b") := by
  obtain ⟨body, hbody⟩ := exists_classFile layout h imports c
  obtain rfl := Except.ok.inj (htext.symm.trans hbody)
  refine ⟨classHead layout imports c, body, ?_, .inr (classHead_eq layout imports c)⟩
  rw [hc, Value.truthy_bool, if_pos rfl]
  show _ ++ ("export class " ++ c.name.text) ++ (" \x7b" ++ "\n") ++ body = _
  simp only [List.append_assoc]

/-- The file of an enum declares it. -/
theorem hasLine_enumFile (indent : Text) (q : Char) (comments : Bool) (e : EnumType) :
    (enumFile indent q comments e).HasLine ("export enum " ++ e.name.text ++ " \x7b") := by
  refine ⟨if comments then headComment e.documentation else "",
    e.values.flatMap (enumLine indent q) ++ "\x7d\n", ?_, ?_⟩
  · show _ ++ "export enum " ++ e.name.text ++ (" \x7b" ++ "\n") ++ _ ++ _ = _
    simp only [List.append_assoc]
  · cases comments with
    | true => exact headComment_eq e.documentation
    | false => exact .inl rfl

/-! ## What units import from barrels -/

/-- The usual modules and directories, and a namespace of the mapper. -/
def Settings.usual (mapper : Text) : Settings :=
  { ormNamespace := .str mapper }

namespace Entity

variable {e : Entity} {style : UnitStyle} {mapper : Text} {symbol : Value}

theorem uses_relationModule (hs : style.settings = .usual mapper)
    (h : e.Uses style (.str "./") symbol) : ∃ f ∈ e.fields,
      f.isRelation.truthy = true ∧ symbol = .str (dtoName f.type) := by
  generalize hmodule : Value.str "./" = module at h
  cases h with
  | relation hf hr hne => exact ⟨_, hf, hr, rfl⟩
  | _ =>
    rw [hs] at hmodule
    exact absurd (Value.str.inj hmodule) (by decide)

theorem uses_enumsModule (hs : style.settings = .usual mapper)
    (h : e.Uses style (.str "../enums") symbol) : ∃ f ∈ e.fields,
      f.isEnum = true ∧ symbol = f.type := by
  generalize hmodule : Value.str "../enums" = module at h
  cases h with
  | enum hf hk => exact ⟨_, hf, Field.isEnum_iff.2 hk, rfl⟩
  | _ =>
    rw [hs] at hmodule
    exact absurd (Value.str.inj hmodule) (by decide)

end Entity

/-! ## What barrels export -/

theorem exists_last {α β : Type} (f : α → β) : ∀ {l : List α} {b : β}, b ∈ l.map f →
    ∃ before a rest, l = before ++ a :: rest ∧ f a = b ∧ b ∉ rest.map f
  | a :: l, b, h => by
    by_cases hl : b ∈ l.map f
    · obtain ⟨before, c, rest, rfl, hc, hrest⟩ := exists_last f hl
      exact ⟨a :: before, c, rest, rfl, hc, hrest⟩
    · rcases List.mem_cons.1 h with rfl | h
      · exact ⟨[], a, l, rfl, rfl, hl⟩
      · exact absurd h hl

namespace Generator

variable {g : Generator} {m : Model} {mapper : Text}

theorem modelPath_usual (hkind : g.kind = .typescript) (hs : g.settings = .usual mapper)
    (name : Value) : g.modelPath name = "models/" ++ (dtoName name ++ ".model") ++ ".ts" := by
  rw [modelPath, Settings.modelPath, hs, hkind]
  show "models/" ++ dtoName name ++ ".model" ++ ".ts" = _
  simp only [List.append_assoc]

theorem enumPath_usual (hkind : g.kind = .typescript) (hs : g.settings = .usual mapper)
    (name : Value) : g.enumPath name = "enums/" ++ (name.text ++ ".enum") ++ ".ts" := by
  rw [enumPath, Settings.enumPath, hs, hkind]
  show "enums/" ++ name.text ++ ".enum" ++ ".ts" = _
  simp only [List.append_assoc]

theorem barrelPath_usual (hkind : g.kind = .typescript) (hs : g.settings = .usual mapper)
    (kind : BarrelKind) : g.barrelPath kind = kind.word ++ "/index.ts" := by
  unfold barrelPath
  rw [hs, hkind]
  cases kind <;> rfl

theorem barrelsApart_usual (hs : g.settings = .usual mapper) : g.BarrelsApart := fun _ => by
  rw [hs]
  show ("models" : Text) ≠ "enums"
  decide

section Barrels

variable (hg : g.Ready) (hkind : g.kind = .typescript) (hs : g.settings = .usual mapper)
  (hmodules : g.settings.hasTextModules = true) (hm : m.isTextual = true)

include hg hkind hs hmodules hm

/-- The file of an entity name declares its class, whichever entity of the name is the last. -/
theorem Ready.declares_class {name : Value} (h : name ∈ m.entityNames) : ∃ text : Text,
    Entries.get? (g.files m) ("models/" ++ (dtoName name ++ ".model") ++ ".ts") = some text ∧
      text.HasLine ("export class " ++ dtoName name ++ " \x7b") := by
  obtain ⟨before, e, rest, hsplit, rfl, hlast⟩ := exists_last Entity.name h
  have he : e ∈ m.entities := hsplit ▸ List.mem_append_right _ List.mem_cons_self
  obtain ⟨unit, c, d, -, -, hname, hexported, htext, hd, -⟩ :=
    hg.emitEntity_draft hmodules ((Model.isTextual_iff.1 hm).1 e he)
  have hline := hasLine_classFile hg.spaces hexported htext
  rw [hname] at hline
  rw [← modelPath_usual hkind hs]
  exact ⟨d.text, hg.get?_files_entity hmodules hm (barrelsApart_usual hs) hsplit hlast hd, hline⟩

theorem Ready.declares_enum (hwanted : g.config.generateEnums.truthy = true) {name : Value}
    (h : name ∈ m.enumNames) : ∃ text : Text,
    Entries.get? (g.files m) ("enums/" ++ (name.text ++ ".enum") ++ ".ts") = some text ∧
      text.HasLine ("export enum " ++ name.text ++ " \x7b") := by
  obtain ⟨before, e, rest, hsplit, rfl, hlast⟩ := exists_last EnumType.name h
  obtain ⟨d, hd, -, htext⟩ := hg.emitEnum_draft e
  rw [← enumPath_usual hkind hs]
  refine ⟨d.text, hg.get?_files_enum hmodules hm (barrelsApart_usual hs) hwanted hsplit hlast hd,
    ?_⟩
  rw [htext]
  exact hasLine_enumFile _ _ _ e

/-- What the unit of an entity without unknown references imports from the barrels is named in the
model. -/
theorem Ready.imports_known {e : Entity} (he : e.isTextual = true)
    (hlinked : ∀ f ∈ e.fields, f.IsLinked m.entityNames m.enumNames) :
    ∃ unit, g.unit e = .ok unit ∧
      (∀ s ∈ unit.imports.symbolsOf (.str "./"), ∃ n ∈ m.entityNames, s = .str (dtoName n)) ∧
      ∀ s ∈ unit.imports.symbolsOf (.str "../enums"), s ∈ m.enumNames := by
  obtain ⟨unit, hunit, -, hexact⟩ := hg.exists_unit hmodules he
  refine ⟨unit, hunit, fun s hmem => ?_, fun s hmem => ?_⟩
  · have huses := (hexact.pairs _ _).1 (Imports.has_of_mem_symbolsOf hmem)
    obtain ⟨f, hf, hrelation, rfl⟩ := Entity.uses_relationModule hs huses
    exact ⟨f.type, (hlinked f hf).relation hrelation, rfl⟩
  · have huses := (hexact.pairs _ _).1 (Imports.has_of_mem_symbolsOf hmem)
    obtain ⟨f, hf, henum, rfl⟩ := Entity.uses_enumsModule hs huses
    exact (hlinked f hf).enum henum

/-- The files of a linked model are closed under links. -/
theorem Ready.linkClosed (henums : g.config.generateEnums.truthy = true)
    (hhelpers : g.config.generateHelpers.truthy = true)
    (hlinked : ∀ e ∈ m.entities, ∀ f ∈ e.fields, f.IsLinked m.entityNames m.enumNames) :
    ∃ models enums, g.LinkClosed m (g.files m) models enums := by
  have hapart := barrelsApart_usual hs
  obtain ⟨models, hmodels, hmodelsBarrel⟩ := hg.get?_files_models hmodules hm hapart
  obtain ⟨enums, henumsPerm, henumsBarrel⟩ := hg.get?_files_enums hmodules hm hapart henums
  rw [barrelPath_usual hkind hs] at hmodelsBarrel henumsBarrel
  have hexportEntity : ∀ n ∈ m.entityNames, ∃ x ∈ models.map BarrelKind.models.exportOf,
      x.symbol = .str (dtoName n) := fun n hn =>
    ⟨_, List.mem_map_of_mem (hmodels.mem_iff.2 hn), rfl⟩
  have hexportEnum : ∀ n ∈ m.enumNames, ∃ x ∈ enums.map BarrelKind.enums.exportOf,
      x.symbol = n := fun n hn =>
    ⟨_, List.mem_map_of_mem (henumsPerm.mem_iff.2 hn), rfl⟩
  have hfixed : ∀ p ∈ g.fixedPaths, (Entries.get? (g.files m) p).isSome = true := by
    intro p hp
    rw [Entries.isSome_get?_iff, hg.keys_files hmodules hm, List.mem_eraseDups, paths]
    exact List.mem_append_right _ (List.mem_cons_of_mem _ (List.mem_append_right _ hp))
  refine ⟨_, _, hmodelsBarrel, henumsBarrel, ?_, ?_, ?_, ?_, ?_, ?_, ?_⟩
  · intro e he
    obtain ⟨unit, hunit, hrelations, hreferences⟩ := hg.imports_known hkind hs hmodules hm
      ((Model.isTextual_iff.1 hm).1 e he) (hlinked e he)
    refine ⟨unit, hunit, fun s hmem => ?_, fun s hmem => hexportEnum s (hreferences s hmem)⟩
    obtain ⟨n, hn, rfl⟩ := hrelations s hmem
    exact hexportEntity n hn
  · intro x hx
    obtain ⟨n, hn, rfl⟩ := List.mem_map.1 hx
    obtain ⟨text, hget, hline⟩ :=
      hg.declares_class hkind hs hmodules hm (hmodels.mem_iff.1 hn)
    exact ⟨dtoName n ++ ".model", text, List.append_assoc .., hget, hline⟩
  · intro x hx
    obtain ⟨n, hn, rfl⟩ := List.mem_map.1 hx
    obtain ⟨text, hget, hline⟩ :=
      hg.declares_enum hkind hs hmodules hm henums (henumsPerm.mem_iff.1 hn)
    exact ⟨n.text ++ ".enum", text, List.append_assoc .., hget, hline⟩
  · exact fun e he => hexportEntity e.name (List.mem_map_of_mem he)
  · exact fun e he => hexportEnum e.name (List.mem_map_of_mem he)
  · have h := hfixed g.helpersPath (by simp [fixedPaths, hhelpers])
    rwa [helpersPath, hkind] at h
  · have h := hfixed g.decoratorsPath (by simp [fixedPaths])
    rwa [decoratorsPath, hkind] at h

end Barrels

end Generator

/-- The files generated for a textual model in which the check finds no unknown reference are
closed under links. -/
theorem Session.generate_linkClosed {c : Config} {g : Generator}
    (hg : Generator.create .typescript c = .ok g) {mapper : Text}
    (hs : g.settings = .usual mapper) (henums : c.generateEnums.truthy = true)
    (hhelpers : c.generateHelpers.truthy = true) {m : Model} (hm : m.isTextual = true)
    {defects : List Defect} (hdefects : m.defects = .ok defects)
    (hknown : ∀ d ∈ defects, d.isUnknownReference = false) (tree : FileTree) (log : Log) :
    ∃ after files models enums,
      Session.generate ⟨g, { tree, target := .buffer [], log }⟩ m = (after, none) ∧
      after.workspace.target = .buffer files ∧ g.LinkClosed m files models enums := by
  have hready := Generator.ready_of_create hg
  have hmodules : g.settings.hasTextModules = true := by
    rw [hs]
    rfl
  rw [← Generator.config_of_create hg] at henums hhelpers
  obtain ⟨after, hrun, htarget⟩ := hready.generate_buffer hmodules hm tree log
  obtain ⟨models, enums, hclosed⟩ := hready.linkClosed (Generator.kind_of_create hg) hs hmodules hm
    henums hhelpers fun e he f hf => Model.isLinked_of_defects hm hdefects hknown he hf
  exact ⟨after, g.files m, models, enums, hrun, htarget, hclosed⟩

/-- A model with a relation to and fro, one of an entity to itself, an enum, and an entity of
which there are two. -/
def Model.sampleCycle : Model :=
  { entities :=
      [{ name := .str "Order"
         fields :=
          [{ name := .str "customer", type := .str "Customer", kind := .object
             isRelation := .bool true },
           { name := .str "status", type := .str "Status", kind := .enum }] },
       { name := .str "Customer"
         fields :=
          [{ name := .str "orders", type := .str "Order", kind := .object
             isList := .bool true, isRelation := .bool true },
           { name := .str "parent", type := .str "Customer", kind := .object
             isRelation := .bool true }] },
       { name := .str "Order", fields := [{ name := .str "id", type := .str "Int" }] }]
    enums := [{ name := .str "Status", values := [.str "OPEN", .str "PAID"] }] }

theorem Session.generate_linkClosed_sampleCycle : ∃ g defects,
    Generator.create .typescript {} = .ok g ∧ g.settings = .usual "Prisma" ∧
    Model.sampleCycle.isTextual = true ∧ Model.sampleCycle.defects = .ok defects ∧
    (∀ d ∈ defects, d.isUnknownReference = false) ∧
    ∃ after files models enums,
      Session.generate ⟨g, { tree := {}, target := .buffer [] }⟩ .sampleCycle = (after, none) ∧
      after.workspace.target = .buffer files ∧ g.LinkClosed .sampleCycle files models enums := by
  have hg : Generator.create .typescript {} = .ok _ := rfl
  have hdefects : Model.sampleCycle.defects = .ok [] := rfl
  have hknown : ∀ d ∈ ([] : List Defect), d.isUnknownReference = false := by simp
  exact ⟨_, _, hg, rfl, rfl, hdefects, hknown,
    Session.generate_linkClosed hg rfl rfl rfl rfl hdefects hknown {} []⟩

end DtoPress
