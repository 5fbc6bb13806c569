import DtoPress.Proofs.Checks
import DtoPress.Proofs.UnitImports
import Mathlib.Data.List.Perm.Basic

/-!
# The names that a unit binds

A unit binds the symbols that it imports and the name of its class (`DtoUnit.boundNames`). Within
a group of imports no symbol stands twice, but the groups share one space of names, and nothing
keeps them apart : the decorators and helpers have names of their own, classes end in `DTO`, and
enums are called what the model calls them. `Generator.boundNames_nodup_iff` : in a model without
warnings the names of a unit are all different exactly if no enum of its entity has one of the
other names (`Entity.namesBesideEnums`), which holds for all units of a model whose enums are apart
(`Model.EnumsApart`). Warnings do not see to it (`Generator.boundNames_sampleExpose_not_nodup`).

That a model has no warnings says more than that it refers to nothing unknown : its names are texts
(`Model.wellNamed_of_warnings`), hence so are the types that the imports are made of. The usual
modules are seven different ones, so that the groups of a unit are its calls
(`ImportTable.ofCalls_of_nodup`), and what is bound can be read off them.
-/

set_option linter.unusedSectionVars false

namespace DtoPress

/-! ## The names of a unit -/

/-- The names that a unit binds : the symbols that it imports and its class. -/
def DtoUnit.boundNames (unit : DtoUnit) : List Value :=
  unit.imports.flatMap (·.2) ++ unit.declaration.toList.map (·.name)

/-- The validators that a unit can import. -/
def validatorNames : List Text :=
  ["IsDefined", "IsOptional", "IsInt", "IsDate", "IsString", "IsBoolean", "IsIn"]

/-- What else a unit can import that is not named by a model. -/
def helperNames : List Text :=
  ["Prisma", "Expose", "Type", "getEnumValues", "Entity"]

theorem Field.of_refersToOther {f : Field} {owner : Value} (h : f.refersToOther owner = true) :
    f.isRelation.truthy = true ∧ f.type.equals owner = false := by
  by_cases htruthy : f.isRelation.truthy = true
  · refine ⟨htruthy, ?_⟩
    simpa [refersToOther, relationTo, htruthy] using h
  · simp [refersToOther, relationTo, htruthy] at h

namespace Entity

variable {e : Entity}

/-- The validators that the fields of an entity need. -/
def validatorSymbols (e : Entity) : List Text :=
  (e.fields.flatMap (·.validatorSymbols)).eraseDups

/-- What else the unit of an entity imports that is not named by a model. -/
def helperSymbols (e : Entity) : List Text :=
  (if e.fields.any (·.isMapped) then [("Prisma" : Text)] else []) ++ [("Expose" : Text), "Type"]
    ++ (if e.fields.any (·.isEnum) then [("getEnumValues" : Text)] else []) ++ [("Entity" : Text)]

/-- The classes of the related entities and of the entity itself. -/
def classNames (e : Entity) : List Text :=
  e.relatedEntities.map dtoName ++ [dtoName e.name]

/-- The names that the unit of an entity binds besides those of its enums. -/
def namesBesideEnums (e : Entity) : List Text :=
  e.validatorSymbols ++ e.helperSymbols ++ e.classNames

theorem validatorSymbols_subset : ∀ s ∈ e.validatorSymbols, s ∈ validatorNames := by
  intro s hs
  rw [validatorSymbols, List.mem_eraseDups, List.mem_flatMap] at hs
  obtain ⟨f, -, hs⟩ := hs
  rw [Field.validatorSymbols, List.mem_append, List.mem_cons, Option.mem_toList,
    List.mem_ite_nil_right, List.mem_singleton] at hs
  rcases hs with (rfl | hcheck) | ⟨-, rfl⟩
  · rcases f.presence_eq_or with hpresence | hpresence <;> rw [hpresence] <;> decide
  · obtain ⟨t, -, ht⟩ := Option.bind_eq_some_iff.1 hcheck
    cases t <;> simp [ScalarType.check?] at ht <;> subst ht <;> decide
  · decide

theorem helperSymbols_sublist (e : Entity) : e.helperSymbols.Sublist helperNames := by
  unfold helperSymbols
  cases e.fields.any (·.isMapped) <;> cases e.fields.any (·.isEnum) <;> decide

theorem flatMap_importCalls (e : Entity) (s : Settings) (validators : List Text) :
    (e.importCalls s validators).flatMap (·.2) =
      (if e.fields.any (·.isMapped) then [s.ormNamespace.text] else []) ++ validators
        ++ [("Expose" : Text), "Type"] ++ e.relatedEntities.map dtoName
        ++ (if e.fields.any (·.isEnum) then [("getEnumValues" : Text)] else [])
        ++ e.referencedEnums.map Value.text ++ [("Entity" : Text)] := by
  unfold importCalls
  cases e.fields.any (·.isMapped) <;> cases e.fields.any (·.isEnum) <;>
    cases e.relatedEntities <;> cases e.referencedEnums <;> simp

theorem keys_importCalls_sublist (e : Entity) (s : Settings) (validators : List Text) :
    (Entries.keys (e.importCalls s validators)).Sublist
      [s.ormModule.text, s.validatorModule.text, s.transformerModule.text, s.relationModule.text,
        s.helpersModule.text, s.enumsModule.text, s.decoratorsModule.text] := by
  have hif (b : Bool) (call : Text × List Text) :
      ((if b then [call] else []).map Prod.fst).Sublist [call.1] := by
    cases b <;> simp
  simp only [importCalls, Entries.keys, List.map_append]
  exact (((((((hif _ _).append (.refl [_])).append (.refl [_])).append (hif _ _)).append
    (hif _ _)).append (hif _ _)).append (.refl [_]))

/-- The name of the entity and the types that name entities or enums are texts. -/
structure WellNamed (e : Entity) : Prop where
  name : e.name.isText = true
  relation : ∀ f ∈ e.fields, f.isRelation.truthy = true → f.type.isText = true
  enum : ∀ f ∈ e.fields, f.isEnum = true → f.type.isText = true

theorem WellNamed.exists_related (he : e.WellNamed) : ∃ ts : List Text,
    e.relatedEntities = ts.map Value.str ∧ ts.Nodup ∧ e.name.text ∉ ts ∧
      ∀ t ∈ ts, ∃ f ∈ e.fields, f.isRelation.truthy = true ∧ f.type = .str t := by
  have htypes : ((e.fields.filter (·.refersToOther e.name)).map (·.type)).all Value.isText =
      true := by
    rw [List.all_map, List.all_eq_true]
    intro f hf
    obtain ⟨hf, hrefers⟩ := List.mem_filter.1 hf
    exact he.relation f hf (Field.of_refersToOther hrefers).1
  obtain ⟨ts, hts, hnodup, hmem⟩ := Value.exists_texts_eraseDups htypes
  have hfield : ∀ t ∈ ts, ∃ f ∈ e.fields, f.refersToOther e.name = true ∧ f.type = .str t := by
    intro t ht
    obtain ⟨f, hf, htype⟩ := List.mem_map.1 ((hmem t).1 ht)
    obtain ⟨hf, hrefers⟩ := List.mem_filter.1 hf
    exact ⟨f, hf, hrefers, htype⟩
  refine ⟨ts, hts, hnodup, fun hown => ?_, fun t ht => ?_⟩
  · obtain ⟨f, -, hrefers, htype⟩ := hfield _ hown
    have hother := (Field.of_refersToOther hrefers).2
    rw [htype, ← Value.str_text he.name, Value.text_str, Value.str_equals] at hother
    simp at hother
  · obtain ⟨f, hf, hrefers, htype⟩ := hfield t ht
    exact ⟨f, hf, (Field.of_refersToOther hrefers).1, htype⟩

theorem WellNamed.exists_enums (he : e.WellNamed) : ∃ ts : List Text,
    e.referencedEnums = ts.map Value.str ∧ ts.Nodup ∧
      ∀ t, t ∈ ts ↔ ∃ f ∈ e.fields, f.kind = .enum ∧ f.type.text = t := by
  have htypes : ((e.fields.filter (·.isEnum)).map (·.type)).all Value.isText = true := by
    rw [List.all_map, List.all_eq_true]
    intro f hf
    obtain ⟨hf, hkind⟩ := List.mem_filter.1 hf
    exact he.enum f hf hkind
  obtain ⟨ts, hts, hnodup, hmem⟩ := Value.exists_texts_eraseDups htypes
  refine ⟨ts, hts, hnodup, fun t => ?_⟩
  rw [hmem, List.mem_map]
  constructor
  · rintro ⟨f, hf, htype⟩
    obtain ⟨hf, hkind⟩ := List.mem_filter.1 hf
    exact ⟨f, hf, Field.isEnum_iff.1 hkind, by rw [htype, Value.text_str]⟩
  · rintro ⟨f, hf, hkind, rfl⟩
    have henum := Field.isEnum_iff.2 hkind
    exact ⟨f, List.mem_filter.2 ⟨hf, henum⟩, (Value.str_text (he.enum f hf henum)).symm⟩

theorem WellNamed.nodup_classNames (he : e.WellNamed) : e.classNames.Nodup := by
  obtain ⟨ts, hts, hnodup, hown, -⟩ := he.exists_related
  have hnames : e.classNames = (ts ++ [e.name.text]).map (· ++ ("DTO" : Text)) := by
    rw [classNames, hts, List.map_map, List.map_append]
    rfl
  rw [hnames]
  refine List.Nodup.map (List.append_left_injective _) ?_
  rw [List.nodup_append]
  refine ⟨hnodup, List.nodup_singleton _, fun t ht u hu => ?_⟩
  rw [List.mem_singleton.1 hu]
  exact fun heq => hown (heq ▸ ht)

theorem suffix_of_mem_classNames {s : Text} (h : s ∈ e.classNames) : ("DTO" : Text) <:+ s := by
  rcases List.mem_append.1 h with h | h
  · obtain ⟨r, -, rfl⟩ := List.mem_map.1 h
    exact List.suffix_append _ _
  · rw [List.mem_singleton.1 h]
    exact List.suffix_append _ _

/-- The names of a unit besides those of its enums are different from one another. -/
theorem WellNamed.nodup_namesBesideEnums (he : e.WellNamed) : e.namesBesideEnums.Nodup := by
  have hhelpers : ∀ s ∈ e.helperSymbols, s ∈ helperNames := fun s hs =>
    (helperSymbols_sublist e).subset hs
  have hapart : ∀ s ∈ validatorNames, s ∉ helperNames := by decide
  have hclass : ∀ s ∈ validatorNames ++ helperNames, ¬ ("DTO" : Text) <:+ s := by decide
  rw [namesBesideEnums, List.nodup_append, List.nodup_append]
  refine ⟨⟨nodup_eraseDups _, (helperSymbols_sublist e).nodup (by decide), ?_⟩,
    he.nodup_classNames, ?_⟩
  · rintro s hs t ht rfl
    exact hapart s (validatorSymbols_subset s hs) (hhelpers s ht)
  · rintro s hs t ht rfl
    refine hclass s ?_ (suffix_of_mem_classNames ht)
    rcases List.mem_append.1 hs with hs | hs
    · exact List.mem_append_left _ (validatorSymbols_subset s hs)
    · exact List.mem_append_right _ (hhelpers s hs)

/-- What a unit binds are the names beside its enums and the enums. -/
theorem perm_boundNames (e : Entity) {s : Settings} (hs : s.ormNamespace.text = "Prisma") :
    ((e.importCalls s e.validatorSymbols).flatMap (·.2) ++ [dtoName e.name]).Perm
      (e.namesBesideEnums ++ e.referencedEnums.map Value.text) := by
  rw [flatMap_importCalls, hs, namesBesideEnums, helperSymbols, classNames]
  refine List.perm_iff_count.2 fun a => ?_
  simp only [List.count_append]
  omega

/-- The names beside the enums are those that every model shares and those of classes. -/
theorem WellNamed.of_mem_namesBesideEnums (he : e.WellNamed) {s : Text}
    (h : s ∈ e.namesBesideEnums) : s ∈ validatorNames ++ helperNames ∨ s = dtoName e.name ∨
      ∃ f ∈ e.fields, f.isRelation.truthy = true ∧ s = dtoName f.type := by
  rw [namesBesideEnums, classNames, List.mem_append, List.mem_append, List.mem_append] at h
  rcases h with (h | h) | h | h
  · exact .inl (List.mem_append_left _ (validatorSymbols_subset s h))
  · exact .inl (List.mem_append_right _ ((helperSymbols_sublist e).subset h))
  · obtain ⟨ts, hts, -, -, hfield⟩ := he.exists_related
    obtain ⟨r, hr, rfl⟩ := List.mem_map.1 h
    rw [hts] at hr
    obtain ⟨t, ht, rfl⟩ := List.mem_map.1 hr
    obtain ⟨f, hf, hrelation, htype⟩ := hfield t ht
    exact .inr (.inr ⟨f, hf, hrelation, by rw [htype]⟩)
  · exact .inr (.inl (List.mem_singleton.1 h))

/-- The names of a unit are all different exactly if no enum has one of the others. -/
theorem WellNamed.nodup_iff (he : e.WellNamed) :
    (e.namesBesideEnums ++ e.referencedEnums.map Value.text).Nodup ↔
      ∀ f ∈ e.fields, f.kind = .enum → f.type.text ∉ e.namesBesideEnums := by
  obtain ⟨ts, hts, hnodup, hmem⟩ := he.exists_enums
  have htexts : e.referencedEnums.map Value.text = ts := by
    rw [hts, List.map_map]
    exact List.map_id ts
  rw [htexts, List.nodup_append]
  constructor
  · rintro ⟨-, -, hapart⟩ f hf hkind hbound
    exact hapart _ hbound _ ((hmem _).2 ⟨f, hf, hkind, rfl⟩) rfl
  · refine fun hapart => ⟨he.nodup_namesBesideEnums, hnodup, ?_⟩
    rintro t ht _ hu rfl
    obtain ⟨f, hf, hkind, rfl⟩ := (hmem _).1 hu
    exact hapart f hf hkind ht

/-- No call imports a symbol twice. -/
theorem WellNamed.nodup_symbols (he : e.WellNamed) (s : Settings) :
    ∀ call ∈ e.importCalls s e.validatorSymbols, call.2.Nodup := by
  intro call hcall
  rcases mem_importCalls.1 hcall with ⟨-, rfl⟩ | rfl | rfl | ⟨-, rfl⟩ | ⟨-, rfl⟩ | ⟨-, rfl⟩ | rfl
  · exact List.nodup_singleton _
  · exact nodup_eraseDups _
  · exact (by decide : [("Expose" : Text), "Type"].Nodup)
  · exact (List.nodup_append.1 he.nodup_classNames).1
  · exact List.nodup_singleton _
  · obtain ⟨ts, hts, hnodup, -⟩ := he.exists_enums
    rw [hts, List.map_map]
    exact (List.map_id ts).symm ▸ hnodup
  · exact List.nodup_singleton _

/-- With the usual modules, which are different, every call has a group of its own, and the unit
binds the symbols of all calls and its class. -/
theorem WellNamed.exists_unit (he : e.WellNamed) (style : UnitStyle) (hs : style.settings = {})
    (htypes : style.types = style.settings.typeMap) : ∃ unit, e.unit style = .ok unit ∧
      unit.boundNames.Perm
        ((e.namesBesideEnums ++ e.referencedEnums.map Value.text).map Value.str) := by
  have henums : e.referencedEnums.all Value.isText = true := by
    obtain ⟨ts, hts, -⟩ := he.exists_enums
    rw [hts, List.all_map, List.all_eq_true]
    exact fun _ _ => rfl
  obtain ⟨classified, hc, hunit⟩ := unit_eq henums style (by rw [hs]; rfl) htypes
  have hsymbols : (classified.flatMap (·.symbols)).eraseDups = e.validatorSymbols := by
    rw [validatorSymbols, List.flatMap_def, List.flatMap_def,
      map_of_mapM_ok (fun _ _ => Field.symbols_of_classify) hc]
  have hgroups := ImportTable.ofCalls_of_nodup
    ((keys_importCalls_sublist e style.settings e.validatorSymbols).nodup (by rw [hs]; decide))
    (he.nodup_symbols style.settings)
  rw [hsymbols, hgroups] at hunit
  refine ⟨_, hunit, ?_⟩
  have hperm := (perm_boundNames e (s := style.settings) (by rw [hs]; rfl)).map Value.str
  rw [List.map_append] at hperm
  rw [DtoUnit.boundNames, ImportTable.flatMap_toImports]
  exact hperm

end Entity

theorem Model.WellNamed.entity {m : Model} (hm : m.WellNamed) {e : Entity} (he : e ∈ m.entities) :
    e.WellNamed where
  name := List.all_eq_true.1 hm.entities _ (List.mem_map_of_mem he)
  relation f hf h := List.all_eq_true.1 hm.entities _ ((hm.linked e he f hf).relation h)
  enum f hf h := List.all_eq_true.1 hm.enums _ ((hm.linked e he f hf).enum h)

/-- The enums of a model have names that no unit binds to anything else. -/
structure Model.EnumsApart (m : Model) : Prop where
  symbols : ∀ x ∈ m.enums, x.name.text ∉ validatorNames ++ helperNames
  classes : ∀ x ∈ m.enums, ∀ e ∈ m.entities, x.name.text ≠ dtoName e.name

theorem Model.EnumsApart.not_mem {m : Model} (hapart : m.EnumsApart) (hm : m.WellNamed)
    {e : Entity} (he : e ∈ m.entities) {f : Field} (hf : f ∈ e.fields) (hkind : f.kind = .enum) :
    f.type.text ∉ e.namesBesideEnums := by
  obtain ⟨x, hx, hxname⟩ := List.mem_map.1
    ((hm.linked e he f hf).enum (Field.isEnum_iff.2 hkind))
  rw [← hxname]
  intro hbound
  rcases (hm.entity he).of_mem_namesBesideEnums hbound with hs | hs | ⟨r, hr, hrelation, hs⟩
  · exact hapart.symbols x hx hs
  · exact hapart.classes x hx e he hs
  · obtain ⟨other, hother, hname⟩ := List.mem_map.1 ((hm.linked e he r hr).relation hrelation)
    rw [← hname] at hs
    exact hapart.classes x hx other hother hs

theorem Generator.Ready.exists_unit_nodup_iff {g : Generator} (hg : g.Ready)
    (hsettings : g.settings = {}) {e : Entity} (he : e.WellNamed) :
    ∃ unit, g.unit e = .ok unit ∧ (unit.boundNames.Nodup ↔
      ∀ f ∈ e.fields, f.kind = .enum → f.type.text ∉ e.namesBesideEnums) := by
  obtain ⟨unit, hunit, hperm⟩ := he.exists_unit g.unitStyle hsettings hg.types
  refine ⟨unit, hunit, ?_⟩
  rw [hperm.nodup_iff, List.nodup_map_iff fun _ _ => Value.str.inj]
  exact he.nodup_iff

/-- With the usual modules the unit of each entity of a model without warnings can be made, and
the names that it binds are all different exactly if no enum of a field has the name of something
else there; this holds for all units if the enums of the model have names of their own. -/
theorem Generator.boundNames_nodup_iff {kind : GeneratorClass} {c : Config} {g : Generator}
    (hg : create kind c = .ok g) (hsettings : g.settings = {}) {m : Model}
    (hm : m.warnings = .ok []) :
    (∀ e ∈ m.entities, ∃ unit, g.unit e = .ok unit ∧
      (unit.boundNames.Nodup ↔
        ∀ f ∈ e.fields, f.kind = .enum → f.type.text ∉ e.namesBesideEnums)) ∧
    (m.EnumsApart → ∀ e ∈ m.entities, ∃ unit, g.unit e = .ok unit ∧ unit.boundNames.Nodup) := by
  have hnamed := Model.wellNamed_of_warnings hm
  have hunits : ∀ e ∈ m.entities, ∃ unit, g.unit e = .ok unit ∧
      (unit.boundNames.Nodup ↔
        ∀ f ∈ e.fields, f.kind = .enum → f.type.text ∉ e.namesBesideEnums) :=
    fun e he => (ready_of_create hg).exists_unit_nodup_iff hsettings (hnamed.entity he)
  refine ⟨hunits, fun hapart e he => ?_⟩
  obtain ⟨unit, hunit, hiff⟩ := hunits e he
  exact ⟨unit, hunit, hiff.2 fun f hf hkind => hapart.not_mem hnamed he hf hkind⟩

/-- Orders with a status, and customers that refer to them. -/
def Model.sampleStatus : Model :=
  { entities :=
      [{ name := .str "Order"
         fields :=
          [{ name := .str "id", type := .str "Int" },
           { name := .str "status", type := .str "Status", kind := .enum },
           { name := .str "total", type := .str "Decimal" }] },
       { name := .str "Customer"
         fields :=
          [{ name := .str "orders", type := .str "Order", kind := .object
             isList := .bool true, isRelation := .bool true }] }]
    enums := [{ name := .str "Status", values := [.str "OPEN", .str "PAID"] }] }

theorem Generator.boundNames_nodup_iff_sampleStatus : ∃ g,
    create .typescript {} = .ok g ∧ g.settings = {} ∧ Model.sampleStatus.warnings = .ok [] ∧
    Model.sampleStatus.EnumsApart ∧
    ∀ e ∈ Model.sampleStatus.entities, ∃ unit, g.unit e = .ok unit ∧ unit.boundNames.Nodup := by
  have hg : create .typescript {} = .ok _ := rfl
  have hm : Model.sampleStatus.warnings = .ok [] := by decide +kernel
  have hapart : Model.sampleStatus.EnumsApart := ⟨by decide, by decide⟩
  exact ⟨_, hg, rfl, hm, hapart, (boundNames_nodup_iff hg rfl hm).2 hapart⟩

/-- Orders whose status is of an enum with the name of a decorator. -/
def Model.sampleExpose : Model :=
  { entities :=
      [{ name := .str "Order"
         fields := [{ name := .str "status", type := .str "Expose", kind := .enum }] }]
    enums := [{ name := .str "Expose", values := [.str "OPEN", .str "PAID"] }] }

/-- A model without warnings can have a unit that binds a name twice. -/
theorem Generator.boundNames_sampleExpose_not_nodup : ∃ g e unit,
    create .typescript {} = .ok g ∧ g.settings = {} ∧ Model.sampleExpose.warnings = .ok [] ∧
    e ∈ Model.sampleExpose.entities ∧ g.unit e = .ok unit ∧ ¬ unit.boundNames.Nodup := by
  have hg : create .typescript {} = .ok _ := rfl
  have hm : Model.sampleExpose.warnings = .ok [] := by decide +kernel
  have he : Model.sampleExpose.entities[0] ∈ Model.sampleExpose.entities := List.mem_cons_self
  obtain ⟨unit, hunit, hiff⟩ := (ready_of_create hg).exists_unit_nodup_iff rfl
    ((Model.wellNamed_of_warnings hm).entity he)
  refine ⟨_, _, unit, hg, rfl, hm, he, hunit, fun hnodup => ?_⟩
  exact hiff.1 hnodup _ List.mem_cons_self rfl (by decide)

end DtoPress
