import DtoPress.Proofs.Generators
import DtoPress.Proofs.ImportTable

/-!
# The imports of a unit

The imports of a unit are put together by calls that scan the fields again, apart from the
classification that says what the class uses. `Entity.Uses` lists what a class uses, and from
which module. `Generator.unit_imports_eq_uses` : the unit of a textual entity can always be
made, its imports are the pairs of `Entity.Uses` and no others, whichever modules coincide,
no module heads two groups, no symbol stands twice in a group, and every decorator, lazy
reference and enum of the class is imported.

Between texts the calls make an `ImportTable` (`Entity.imports_eq`), whose pairs are those of
its calls, so what is left is to read the calls off the fields (`Entity.uses_iff`).
-/

set_option linter.unusedSectionVars false

namespace DtoPress

/-! ## The references of an entity -/

theorem Field.refersToOther_iff {f : Field} (hf : f.isTextual = true) {owner : Value} :
    f.refersToOther owner = true ↔ f.isRelation.truthy = true ∧ f.type ≠ owner := by
  obtain ⟨t, ht⟩ := Value.isText_iff.1 (isTextual_iff.1 hf).2
  by_cases h : f.isRelation.truthy = true
  · rw [refersToOther, relationTo, if_pos h, ht, Value.truthy_bool, Bool.not_eq_true',
      ← Bool.not_eq_true, Value.str_equals_iff, and_iff_right h]
  · simp [refersToOther, relationTo, h]

theorem Field.map_type_all_isText {fields : List Field}
    (h : ∀ f ∈ fields, f.isTextual = true) :
    (fields.map (·.type)).all Value.isText = true := by
  rw [List.all_map, List.all_eq_true]
  exact fun f hf => (isTextual_iff.1 (h f hf)).2

namespace Entity

variable {e : Entity}

theorem mem_relatedEntities (he : e.isTextual = true) {r : Value} : r ∈ e.relatedEntities ↔
    ∃ f ∈ e.fields, f.isRelation.truthy = true ∧ f.type ≠ e.name ∧ f.type = r := by
  have hfields := (isTextual_iff.1 he).2
  have htexts : ((e.fields.filter (·.refersToOther e.name)).map (·.type)).all Value.isText = true :=
    Field.map_type_all_isText fun f hf => hfields f (List.mem_filter.1 hf).1
  rw [relatedEntities, Value.mem_eraseDups htexts]
  simp only [List.mem_map, List.mem_filter]
  constructor
  · rintro ⟨f, ⟨hf, href⟩, rfl⟩
    obtain ⟨hrel, hne⟩ := (Field.refersToOther_iff (hfields f hf)).1 href
    exact ⟨f, hf, hrel, hne, rfl⟩
  · rintro ⟨f, hf, hrel, hne, rfl⟩
    exact ⟨f, ⟨hf, (Field.refersToOther_iff (hfields f hf)).2 ⟨hrel, hne⟩⟩, rfl⟩

theorem mem_referencedEnums (he : e.isTextual = true) {r : Value} : r ∈ e.referencedEnums ↔
    ∃ f ∈ e.fields, f.isEnum = true ∧ f.type = r := by
  have hfields := (isTextual_iff.1 he).2
  have htexts : ((e.fields.filter (·.isEnum)).map (·.type)).all Value.isText = true :=
    Field.map_type_all_isText fun f hf => hfields f (List.mem_filter.1 hf).1
  rw [referencedEnums, Value.mem_eraseDups htexts]
  simp only [List.mem_map, List.mem_filter, and_assoc]

theorem referencedEnums_all_isText (he : e.isTextual = true) :
    e.referencedEnums.all Value.isText = true := by
  rw [List.all_eq_true]
  intro r hr
  obtain ⟨f, hf, -, rfl⟩ := (mem_referencedEnums he).1 hr
  exact (Field.isTextual_iff.1 ((isTextual_iff.1 he).2 f hf)).2

/-! ## The calls that make the imports -/

/-- The modules and symbols that the imports of an entity are made from, in order, where the
classification needs the given validator symbols. -/
def importCalls (e : Entity) (s : Settings) (validators : List Text) :
    List (Text × List Text) :=
  (if e.fields.any (·.isMapped) then [(s.ormModule.text, [s.ormNamespace.text])] else [])
    ++ [(s.validatorModule.text, validators)]
    ++ [(s.transformerModule.text, [("Expose" : Text), "Type"])]
    ++ (if !e.relatedEntities.isEmpty then
        [(s.relationModule.text, e.relatedEntities.map dtoName)]
      else [])
    ++ (if e.fields.any (·.isEnum) then [(s.helpersModule.text, [("getEnumValues" : Text)])]
      else [])
    ++ (if !e.referencedEnums.isEmpty then
        [(s.enumsModule.text, e.referencedEnums.map Value.text)]
      else [])
    ++ [(s.decoratorsModule.text, [("Entity" : Text)])]

/-- The imports of an entity whose enums are texts are the table of its calls. -/
theorem imports_eq (he : e.referencedEnums.all Value.isText = true) {s : Settings}
    (hs : s.hasTextModules = true) (classified : List Classification) : e.imports s classified =
      .ok (ImportTable.ofCalls
        (e.importCalls s (classified.flatMap (·.symbols)).eraseDups)).toImports := by
  simp only [Settings.hasTextModules, Settings.modules, List.all_cons, List.all_nil,
    Bool.and_true, Bool.and_eq_true] at hs
  obtain ⟨hv, ht, -, ho, hn, hh, hu, hd, hr⟩ := hs
  have henums := Value.map_text_map_str he
  have hrelated : e.relatedEntities.map (fun r => Value.str (dtoName r)) =
      (e.relatedEntities.map dtoName).map .str := by
    rw [List.map_map]
    rfl
  rw [Entity.imports, ← Value.str_text hv, ← Value.str_text ht, ← Value.str_text ho,
    ← Value.str_text hn, ← Value.str_text hh, ← Value.str_text hu, ← Value.str_text hd,
    ← Value.str_text hr, hrelated]
  refine bind_eq_ok_iff.2 ⟨_, ImportTable.addIf_ofCalls [] _ _ [_], ?_⟩
  refine bind_eq_ok_iff.2 ⟨_, ImportTable.tryAdd_ofCalls _ _ _, ?_⟩
  refine bind_eq_ok_iff.2 ⟨_, ImportTable.tryAdd_ofCalls _ _ ["Expose", "Type"], ?_⟩
  refine bind_eq_ok_iff.2 ⟨_, ImportTable.addIf_ofCalls _ _ _ _, ?_⟩
  refine bind_eq_ok_iff.2 ⟨_, ImportTable.addIf_ofCalls _ _ _ ["getEnumValues"], ?_⟩
  refine bind_eq_ok_iff.2 ⟨_, (congrArg _ henums.symm).trans
    (ImportTable.addIf_ofCalls _ _ _ _), ?_⟩
  exact ImportTable.tryAdd_ofCalls _ _ ["Entity"]

theorem mem_importCalls {s : Settings} {validators : List Text} {call : Text × List Text} :
    call ∈ e.importCalls s validators ↔
      (e.fields.any (·.isMapped) = true ∧ call = (s.ormModule.text, [s.ormNamespace.text])) ∨
      call = (s.validatorModule.text, validators) ∨
      call = (s.transformerModule.text, [("Expose" : Text), "Type"]) ∨
      (e.relatedEntities ≠ [] ∧ call = (s.relationModule.text, e.relatedEntities.map dtoName)) ∨
      (e.fields.any (·.isEnum) = true ∧ call = (s.helpersModule.text, [("getEnumValues" : Text)])) ∨
      (e.referencedEnums ≠ [] ∧ call = (s.enumsModule.text, e.referencedEnums.map Value.text)) ∨
      call = (s.decoratorsModule.text, [("Entity" : Text)]) := by
  simp only [importCalls, List.mem_append, List.mem_ite_nil_right, List.mem_singleton,
    Bool.not_eq_true', List.isEmpty_eq_false_iff, or_assoc]

end Entity

/-! ## Classification -/

/-- The table has a type for each scalar. -/
def TypeMap.IsTotal (types : TypeMap) : Prop :=
  ∀ t, ∃ name, types.get? t = some name

theorem TypeMap.IsTotal.isEmpty_eq {types : TypeMap} (h : types.IsTotal) :
    types.isEmpty = false := by
  obtain ⟨name, hname⟩ := h .int
  cases types with
  | nil => cases hname
  | cons => rfl

theorem Settings.isTotal_typeMap (s : Settings) : s.typeMap.IsTotal := by
  intro t
  unfold typeMap
  split <;> cases t <;> exact ⟨_, rfl⟩

namespace Field

theorem exists_targetType (f : Field) {types : TypeMap} (h : types.IsTotal) :
    ∃ type, f.targetType types = .ok type := by
  unfold targetType
  cases f.scalarType with
  | none => exact ⟨_, rfl⟩
  | some t =>
    obtain ⟨name, hname⟩ := h t
    simp only [hname]
    exact ⟨_, rfl⟩

/-- With a type for each scalar every field is classified, and its type and its symbols depend on
neither the owner nor coercion. -/
theorem exists_classify_eq (f : Field) {types : TypeMap} (h : types.IsTotal) :
    ∃ targetType, f.targetType types = .ok targetType ∧ ∀ owner coerce,
      f.classify owner types coerce = .ok
        { targetType, decorators := f.decorators owner coerce, symbols := f.validatorSymbols } := by
  obtain ⟨type, htype⟩ := f.exists_targetType h
  refine ⟨type, htype, fun owner coerce => ?_⟩
  rw [classify, h.isEmpty_eq, if_neg Bool.false_ne_true, htype]
  rfl

theorem exists_classify (f : Field) (s : Settings) (owner : Value) (coerce : Bool) :
    ∃ c, f.classify owner s.typeMap coerce = .ok c := by
  obtain ⟨type, -, hclassify⟩ := f.exists_classify_eq s.isTotal_typeMap
  exact ⟨_, hclassify owner coerce⟩

variable {f : Field} {owner : Value} {types : TypeMap} {coerce : Bool} {c : Classification}

theorem symbols_of_classify (h : f.classify owner types coerce = .ok c) :
    c.symbols = f.validatorSymbols := by
  obtain ⟨type, -, h⟩ := bind_eq_ok_iff.1 h
  rw [← Except.ok.inj h]

theorem decorators_of_classify (h : f.classify owner types coerce = .ok c) :
    c.decorators = f.decorators owner coerce := by
  obtain ⟨type, -, h⟩ := bind_eq_ok_iff.1 h
  rw [← Except.ok.inj h]

end Field

/-! ## What a class uses -/

/-- The class of an entity uses a symbol of a module : the validators of the classifications,
what every class needs, the namespace of the mapper's types, the classes that relations lead
to, and the enums with their helper. -/
inductive Entity.Uses (e : Entity) (style : UnitStyle) : Value → Value → Prop
  | validator {f : Field} {c : Classification} {name : Text} (hf : f ∈ e.fields)
      (hc : f.classify e.name style.types style.coerce = .ok c) (hname : name ∈ c.symbols) :
      Uses e style style.settings.validatorModule (.str name)
  | expose : Uses e style style.settings.transformerModule (.str "Expose")
  | coercion : Uses e style style.settings.transformerModule (.str "Type")
  | nested : Uses e style style.settings.decoratorsModule (.str "Entity")
  | mapped {f : Field} (hf : f ∈ e.fields)
      (ht : f.scalarType = some .decimal ∨ f.scalarType = some .json) :
      Uses e style style.settings.ormModule style.settings.ormNamespace
  | relation {f : Field} (hf : f ∈ e.fields) (hr : f.isRelation.truthy = true)
      (hne : f.type ≠ e.name) :
      Uses e style style.settings.relationModule (.str (f.type.text ++ "DTO"))
  | helper {f : Field} (hf : f ∈ e.fields) (hk : f.kind = .enum) :
      Uses e style style.settings.helpersModule (.str "getEnumValues")
  | enum {f : Field} (hf : f ∈ e.fields) (hk : f.kind = .enum) :
      Uses e style style.settings.enumsModule f.type

/-- What a decorator refers to is imported : its name, the class of a lazy reference, and the
enum whose values it checks, with the helper that lists them. -/
structure Imports.Covers (imports : Imports) (s : Settings) (d : Decorator) : Prop where
  name : ∃ module, imports.Has module d.name
  target : ∀ target isList, .lazy target isList ∈ d.arguments →
    imports.Has s.relationModule target
  enum : d.name = .str "IsIn" → ∃ enum : Text,
    d.arguments = [.plain (.str ("getEnumValues(" ++ enum ++ ")"))] ∧
      imports.Has s.helpersModule (.str "getEnumValues") ∧ imports.Has s.enumsModule (.str enum)

theorem Field.isMapped_iff {f : Field} : f.isMapped = true ↔
    f.scalarType = some .decimal ∨ f.scalarType = some .json := by
  rw [isMapped]
  cases f.scalarType with
  | none => simp
  | some t => cases t <;> simp [ScalarType.isMapped]

theorem Field.isEnum_iff {f : Field} : f.isEnum = true ↔ f.kind = .enum := by
  simp [isEnum]

/-- What a class uses is what the calls of its entity name. -/
theorem Entity.uses_iff {e : Entity} (he : e.isTextual = true) (style : UnitStyle)
    (hs : style.settings.hasTextModules = true) {classified : List Classification}
    (hc : (e.fields.mapM fun f => f.classify e.name style.types style.coerce) = .ok classified)
    {module symbol : Value} : e.Uses style module symbol ↔
      ∃ call ∈ e.importCalls style.settings (classified.flatMap (·.symbols)).eraseDups,
        module = .str call.1 ∧ ∃ s ∈ call.2, symbol = .str s := by
  simp only [Settings.hasTextModules, Settings.modules, List.all_cons, List.all_nil,
    Bool.and_true, Bool.and_eq_true] at hs
  obtain ⟨hv, ht, -, ho, hn, hh, hu, hd, hr⟩ := hs
  have hfields := (isTextual_iff.1 he).2
  constructor
  · intro h
    -- Each way of using a symbol is answered by the call in its place of `importCalls`.
    cases h with
    | @validator f c name hf hfc hname =>
      refine ⟨_, mem_importCalls.2 (.inr (.inl rfl)), (Value.str_text hv).symm, name, ?_, rfl⟩
      rw [List.mem_eraseDups, List.mem_flatMap]
      exact ⟨c, (mem_mapM_ok hc).2 ⟨f, hf, hfc⟩, hname⟩
    | expose =>
      exact ⟨_, mem_importCalls.2 (.inr (.inr (.inl rfl))), (Value.str_text ht).symm, "Expose",
        by simp, rfl⟩
    | coercion =>
      exact ⟨_, mem_importCalls.2 (.inr (.inr (.inl rfl))), (Value.str_text ht).symm, "Type",
        by simp, rfl⟩
    | nested =>
      exact ⟨_, mem_importCalls.2 (.inr (.inr (.inr (.inr (.inr (.inr rfl)))))),
        (Value.str_text hd).symm, "Entity", by simp, rfl⟩
    | @mapped f hf hft =>
      have hany : e.fields.any (·.isMapped) = true :=
        List.any_eq_true.2 ⟨f, hf, Field.isMapped_iff.2 hft⟩
      exact ⟨_, mem_importCalls.2 (.inl ⟨hany, rfl⟩), (Value.str_text ho).symm, _,
        List.mem_singleton.2 rfl, (Value.str_text hn).symm⟩
    | @relation f hf hrel hne =>
      have hmem : f.type ∈ e.relatedEntities := (mem_relatedEntities he).2 ⟨f, hf, hrel, hne, rfl⟩
      exact ⟨_, mem_importCalls.2 (.inr (.inr (.inr (.inl ⟨List.ne_nil_of_mem hmem, rfl⟩)))),
        (Value.str_text hr).symm, _, List.mem_map_of_mem hmem, rfl⟩
    | @helper f hf hk =>
      have hany : e.fields.any (·.isEnum) = true :=
        List.any_eq_true.2 ⟨f, hf, Field.isEnum_iff.2 hk⟩
      exact ⟨_, mem_importCalls.2 (.inr (.inr (.inr (.inr (.inl ⟨hany, rfl⟩))))),
        (Value.str_text hh).symm, _, List.mem_singleton.2 rfl, rfl⟩
    | @enum f hf hk =>
      have hmem : f.type ∈ e.referencedEnums :=
        (mem_referencedEnums he).2 ⟨f, hf, Field.isEnum_iff.2 hk, rfl⟩
      exact ⟨_, mem_importCalls.2
          (.inr (.inr (.inr (.inr (.inr (.inl ⟨List.ne_nil_of_mem hmem, rfl⟩)))))),
        (Value.str_text hu).symm, _, List.mem_map_of_mem hmem,
        (Value.str_text (Field.isTextual_iff.1 (hfields f hf)).2).symm⟩
  · rintro ⟨call, hcall, rfl, s, hsym, rfl⟩
    rcases mem_importCalls.1 hcall with ⟨hany, rfl⟩ | rfl | rfl | ⟨-, rfl⟩ | ⟨hany, rfl⟩ |
      ⟨-, rfl⟩ | rfl
    · obtain ⟨f, hf, hmapped⟩ := List.any_eq_true.1 hany
      rw [List.mem_singleton.1 hsym, Value.str_text ho, Value.str_text hn]
      exact .mapped hf (Field.isMapped_iff.1 hmapped)
    · rw [List.mem_eraseDups, List.mem_flatMap] at hsym
      obtain ⟨c, hcmem, hname⟩ := hsym
      obtain ⟨f, hf, hfc⟩ := (mem_mapM_ok hc).1 hcmem
      rw [Value.str_text hv]
      exact .validator hf hfc hname
    · rw [Value.str_text ht]
      rcases List.mem_cons.1 hsym with rfl | hsym
      · exact .expose
      · rw [List.mem_singleton.1 hsym]
        exact .coercion
    · obtain ⟨r, hrmem, rfl⟩ := List.mem_map.1 hsym
      obtain ⟨f, hf, hrel, hne, rfl⟩ := (mem_relatedEntities he).1 hrmem
      rw [Value.str_text hr]
      exact .relation hf hrel hne
    · obtain ⟨f, hf, hk⟩ := List.any_eq_true.1 hany
      rw [List.mem_singleton.1 hsym, Value.str_text hh]
      exact .helper hf (Field.isEnum_iff.1 hk)
    · obtain ⟨r, hrmem, rfl⟩ := List.mem_map.1 hsym
      obtain ⟨f, hf, hk, rfl⟩ := (mem_referencedEnums he).1 hrmem
      rw [Value.str_text hu, Value.str_text (Field.isTextual_iff.1 (hfields f hf)).2]
      exact .enum hf (Field.isEnum_iff.1 hk)
    · rw [List.mem_singleton.1 hsym, Value.str_text hd]
      exact .nested

/-! ## Decorators -/

namespace Field

variable {f : Field} {owner : Value} {coerce : Bool} {d : Decorator}

theorem mem_checks : d ∈ f.checks ↔
    d = { name := .str f.presence } ∨
    (∃ check, f.check? = some check ∧ d = { name := .str check }) ∨
    (f.isEnum = true ∧ d =
      { name := .str "IsIn",
        arguments := [.plain (.str ("getEnumValues(" ++ f.type.text ++ ")"))] }) := by
  rw [checks, List.cons_append, List.mem_cons, List.mem_append, List.mem_map,
    List.mem_ite_nil_right, List.mem_singleton]
  simp only [Option.mem_toList, eq_comm (b := d)]

theorem mem_coercion : d ∈ f.coercion ↔ ∃ target, f.constructor? = some target ∧ d =
    { name := .str "Type", arguments := [.plain (.str ("() => " ++ target))] } := by
  rw [coercion, List.mem_map]
  simp only [Option.mem_toList, eq_comm (b := d)]

theorem mem_nestedEntity : d ∈ f.nestedEntity owner ↔ f.refersToOther owner = true ∧ d =
    { name := .str "Entity"
      arguments := [.lazy (.str (dtoName f.type)) f.isList,
        .plain (.str (Text.lower f.isList.text))] } := by
  rw [nestedEntity, List.mem_ite_nil_right, List.mem_singleton]

theorem mem_decorators : d ∈ f.decorators owner coerce ↔
    d ∈ f.checks ∨ d = { name := .str "Expose" } ∨ (coerce = true ∧ d ∈ f.coercion) ∨
      d ∈ f.nestedEntity owner := by
  simp only [decorators, List.mem_append, List.mem_cons, List.mem_ite_nil_right, or_assoc]

theorem presence_eq_or (f : Field) : f.presence = "IsDefined" ∨ f.presence = "IsOptional" := by
  unfold presence
  split
  · exact .inl rfl
  · exact .inr rfl

theorem check?_ne_isIn {check : Text} (h : f.check? = some check) : check ≠ "IsIn" := by
  obtain ⟨t, -, ht⟩ := Option.bind_eq_some_iff.1 h
  cases t <;> simp [ScalarType.check?] at ht <;> subst ht <;> decide

end Field

/-- If the imports of a class are what it uses, they cover the decorators of its fields. -/
theorem Entity.covers_of_uses {e : Entity} (he : e.isTextual = true) (style : UnitStyle)
    (htypes : style.types = style.settings.typeMap) {imports : Imports}
    (huses : ∀ module symbol, e.Uses style module symbol → imports.Has module symbol)
    {f : Field} (hf : f ∈ e.fields) {d : Decorator}
    (hd : d ∈ f.decorators e.name style.coerce) : imports.Covers style.settings d := by
  have hfields := (isTextual_iff.1 he).2
  obtain ⟨c, hc⟩ := f.exists_classify style.settings e.name style.coerce
  rw [← htypes] at hc
  have hvalidator : ∀ name ∈ f.validatorSymbols,
      imports.Has style.settings.validatorModule (.str name) := by
    intro name hmem
    rw [← Field.symbols_of_classify hc] at hmem
    exact huses _ _ (.validator hf hc hmem)
  rcases Field.mem_decorators.1 hd with hd | rfl | ⟨-, hd⟩ | hd
  · rcases Field.mem_checks.1 hd with rfl | ⟨check, hcheck, rfl⟩ | ⟨hk, rfl⟩
    · refine ⟨⟨_, hvalidator _ (by simp [Field.validatorSymbols])⟩, by simp, fun h => ?_⟩
      rcases f.presence_eq_or with hp | hp <;> rw [hp] at h <;>
        exact absurd (Value.str.inj h) (by decide)
    · refine ⟨⟨_, hvalidator _ (by simp [Field.validatorSymbols, hcheck])⟩, by simp, fun h => ?_⟩
      exact absurd (Value.str.inj h) (Field.check?_ne_isIn hcheck)
    · have hkind := Field.isEnum_iff.1 hk
      refine ⟨⟨_, hvalidator _ (by simp [Field.validatorSymbols, hk])⟩, by simp, fun _ => ?_⟩
      refine ⟨f.type.text, rfl, huses _ _ (.helper hf hkind), ?_⟩
      rw [Value.str_text (Field.isTextual_iff.1 (hfields f hf)).2]
      exact huses _ _ (.enum hf hkind)
  · exact ⟨⟨_, huses _ _ .expose⟩, by simp, fun h => absurd (Value.str.inj h) (by decide)⟩
  · obtain ⟨target, -, rfl⟩ := Field.mem_coercion.1 hd
    exact ⟨⟨_, huses _ _ .coercion⟩, by simp, fun h => absurd (Value.str.inj h) (by decide)⟩
  · obtain ⟨hrefers, rfl⟩ := Field.mem_nestedEntity.1 hd
    obtain ⟨hrel, hne⟩ := (Field.refersToOther_iff (hfields f hf)).1 hrefers
    refine ⟨⟨_, huses _ _ .nested⟩, fun target isList h => ?_,
      fun h => absurd (Value.str.inj h) (by decide)⟩
    obtain ⟨rfl, -⟩ : target = .str (dtoName f.type) ∧ isList = f.isList := by simpa using h
    exact huses _ _ (.relation hf hrel hne)

/-! ## The unit -/

/-- The unit of an entity whose enums are texts : its imports are the table of its calls, and its
properties are those of its fields. -/
theorem Entity.unit_eq {e : Entity} (he : e.referencedEnums.all Value.isText = true)
    (style : UnitStyle) (hs : style.settings.hasTextModules = true)
    (htypes : style.types = style.settings.typeMap) : ∃ classified,
      (e.fields.mapM fun f => f.classify e.name style.types style.coerce) = .ok classified ∧
      e.unit style = .ok
        { path := style.settings.modelPath style.extension e.name
          imports := (ImportTable.ofCalls
            (e.importCalls style.settings (classified.flatMap (·.symbols)).eraseDups)).toImports
          declaration := some (e.declaration style classified) } := by
  obtain ⟨classified, hc⟩ : ∃ classified,
      (e.fields.mapM fun f => f.classify e.name style.types style.coerce) = .ok classified := by
    refine exists_mapM_ok fun f _ => ?_
    rw [htypes]
    exact f.exists_classify style.settings e.name style.coerce
  refine ⟨classified, hc, ?_⟩
  rw [unit, hc, bind_ok, imports_eq he hs]
  rfl

/-- The imports of a unit are what the class of its entity uses : the pairs of module and symbol
are those used and no others, no module heads two groups and no symbol stands twice in one, and
what the decorators of the class refer to is imported. -/
structure DtoUnit.ImportsWhatItUses (unit : DtoUnit) (e : Entity) (style : UnitStyle) : Prop where
  pairs : ∀ module symbol, unit.imports.Has module symbol ↔ e.Uses style module symbol
  modules : (unit.imports.map Prod.fst).Nodup
  symbols : ∀ group ∈ unit.imports, group.2.Nodup
  decorators : ∀ c, unit.declaration = some c → ∀ p ∈ c.properties, ∀ d ∈ p.decorators,
    unit.imports.Covers style.settings d

namespace Generator

/-- The unit of a textual entity can be made, and imports what its class uses. -/
theorem Ready.exists_unit {g : Generator} (hg : g.Ready) (hs : g.settings.hasTextModules = true)
    {e : Entity} (he : e.isTextual = true) : ∃ unit, g.unit e = .ok unit ∧
      unit.declaration.isSome = true ∧ unit.ImportsWhatItUses e g.unitStyle := by
  obtain ⟨classified, hc, hunit⟩ := Entity.unit_eq
    (Entity.referencedEnums_all_isText he) g.unitStyle hs hg.types
  have hproper := ImportTable.proper_ofCalls
    (e.importCalls g.settings (classified.flatMap (·.symbols)).eraseDups)
  have huses : ∀ module symbol, (ImportTable.ofCalls
      (e.importCalls g.settings (classified.flatMap (·.symbols)).eraseDups)).toImports.Has
        module symbol ↔ e.Uses g.unitStyle module symbol := by
    intro module symbol
    rw [hproper.has_toImports, Entity.uses_iff he g.unitStyle hs hc]
    constructor
    · rintro ⟨m, s, hhas, rfl, rfl⟩
      obtain ⟨call, hcall, rfl, hmem⟩ := ImportTable.has_ofCalls.1 hhas
      exact ⟨call, hcall, rfl, s, hmem, rfl⟩
    · rintro ⟨call, hcall, rfl, s, hmem, rfl⟩
      exact ⟨_, s, ImportTable.has_ofCalls.2 ⟨call, hcall, rfl, hmem⟩, rfl, rfl⟩
  refine ⟨_, hunit, rfl, ?_⟩
  refine ⟨huses, hproper.nodup_modules, fun group h => hproper.nodup_symbols h, ?_⟩
  intro d hd p hp a ha
  obtain rfl : e.declaration g.unitStyle classified = d := Option.some.inj hd
  obtain ⟨⟨f, cl⟩, hmem, rfl⟩ := List.mem_map.1 hp
  have hfc := eq_ok_of_mem_zip hc hmem
  replace ha : a ∈ cl.decorators := ha
  rw [Field.decorators_of_classify hfc] at ha
  exact Entity.covers_of_uses he g.unitStyle hg.types (fun m s => (huses m s).2)
    (List.of_mem_zip hmem).1 ha

/-- Whatever the modules of its configuration, a generator makes a unit for each textual entity,
and the imports of the unit are exactly what its class uses. -/
theorem unit_imports_eq_uses {kind : GeneratorClass} {c : Config} {g : Generator}
    (hg : create kind c = .ok g) (hs : g.settings.hasTextModules = true) {e : Entity}
    (he : e.isTextual = true) : ∃ unit, g.unit e = .ok unit ∧ unit.declaration.isSome = true ∧
      unit.ImportsWhatItUses e g.unitStyle :=
  (ready_of_create hg).exists_unit hs he

end Generator

/-- A configuration with one module for validators, coercion, decorators and relations. -/
def Config.ofOneModule : Config :=
  { custom := .plain (.object
      [("validator_module", .str "lib"), ("transformer_module", .str "lib"),
       ("decorators_module", .str "lib"), ("relation_module", .str "lib")]) }

/-- An entity with a mapped type, an enum, a relation to itself and one to another entity. -/
def Entity.sampleOrder : Entity :=
  { name := .str "Order"
    fields :=
      [{ name := .str "total", type := .str "Decimal", isRequired := .bool true },
       { name := .str "status", type := .str "Status", kind := .enum },
       { name := .str "previous", type := .str "Order", kind := .object, isRelation := .bool true },
       { name := .str "customer", type := .str "Customer", kind := .object
         isRelation := .bool true }] }

theorem Generator.unit_imports_of_one_module : ∃ g, create .typescript .ofOneModule = .ok g ∧
    g.settings.hasTextModules = true ∧ Entity.sampleOrder.isTextual = true ∧
    ∃ unit, g.unit .sampleOrder = .ok unit ∧ unit.declaration.isSome = true ∧
      unit.ImportsWhatItUses .sampleOrder g.unitStyle := by
  have hg : create .typescript .ofOneModule = .ok _ := rfl
  exact ⟨_, hg, rfl, rfl, unit_imports_eq_uses hg rfl rfl⟩

end DtoPress
