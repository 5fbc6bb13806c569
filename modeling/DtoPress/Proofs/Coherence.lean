import DtoPress.Proofs.UnitImports

/-!
# Coherence of classifications

The type of a field, its decorators and the validator symbols that it needs are worked out apart
from each other, from tables and flags. `Field.Coherent` says how they go together, for every owner
and with and without coercion : the symbols are the names of the decorators before the exposure,
coercion adds at most one decorator behind it, the owner decides whether there is a last one for a
nested entity, and this one refers to the class that the type names. `Field.classify_coherent` : all
textual fields are classified so, whatever their kind, flags and type.

The decorators are `Field.checks`, the exposure, `Field.coercion` and `Field.nestedEntity`, in this
order. The names of the checks are the validator symbols (`Field.map_name_checks`), and no other
decorator is called like one of them (`Field.ne_of_mem_validatorSymbols`).
-/

set_option linter.unusedSectionVars false

namespace DtoPress

/-! ## Names of decorators -/

/-- The decorator that exposes a field. -/
def Decorator.exposure : Decorator :=
  { name := .str "Expose" }

/-- The names of the decorators that say whether a field must be there. -/
def Field.presenceNames : List Text :=
  ["IsDefined", "IsOptional"]

/-- The names of the decorators that check the type of a scalar. -/
def ScalarType.checkNames : List Text :=
  all.filterMap check?

/-- The names of the decorators that do not check a field. -/
def Field.otherNames : List Text :=
  ["Expose", "Type", "Entity"]

namespace Field

variable {f : Field} {owner : Value} {coerce : Bool} {d : Decorator} {s : Text}

theorem presence_mem (f : Field) : f.presence ∈ presenceNames := by
  rcases f.presence_eq_or with h | h <;> rw [h] <;> decide

theorem check?_mem (h : f.check? = some s) : s ∈ ScalarType.checkNames := by
  obtain ⟨t, -, ht⟩ := Option.bind_eq_some_iff.1 h
  exact List.mem_filterMap.2 ⟨t, by cases t <;> decide, ht⟩

/-- An enum has no scalar type to check. -/
theorem check?_of_isEnum (h : f.isEnum = true) : f.check? = none := by
  have hscalar : f.scalarType = none := by
    rw [scalarType, isEnum_iff.1 h]
  rw [check?, hscalar]
  rfl

/-- The checks are called like the validator symbols, in their order. -/
theorem map_name_checks (f : Field) : f.checks.map (·.name) = f.validatorSymbols.map .str := by
  rw [checks, validatorSymbols]
  cases f.check? <;> cases f.isEnum <;> rfl

theorem mem_validatorSymbols : s ∈ f.validatorSymbols ↔
    s = f.presence ∨ f.check? = some s ∨ f.isEnum = true ∧ s = "IsIn" := by
  simp only [validatorSymbols, List.cons_append, List.mem_cons, List.mem_append,
    Option.mem_toList, List.mem_ite_nil_right, List.not_mem_nil, or_false]

/-- Behind the first symbol none says whether the field must be there. -/
theorem not_mem_presenceNames (h : s ∈ f.validatorSymbols.tail) : s ∉ presenceNames := by
  have htail : f.validatorSymbols.tail =
      f.check?.toList ++ (if f.isEnum then [("IsIn" : Text)] else []) := rfl
  rw [htail, List.mem_append, Option.mem_toList, List.mem_ite_nil_right, List.mem_singleton] at h
  rcases h with h | ⟨-, rfl⟩
  · have hcheck : ∀ s ∈ ScalarType.checkNames, s ∉ presenceNames := by decide
    exact hcheck s (check?_mem h)
  · decide

/-- No symbol is called like a decorator that does not check. -/
theorem not_mem_otherNames (h : s ∈ f.validatorSymbols) : s ∉ otherNames := by
  rcases mem_validatorSymbols.1 h with rfl | h | ⟨-, rfl⟩
  · rcases f.presence_eq_or with h | h <;> rw [h] <;> decide
  · have hcheck : ∀ s ∈ ScalarType.checkNames, s ∉ otherNames := by decide
    exact hcheck s (check?_mem h)
  · decide

/-- No symbol is there twice : the first is no check of a type, and an enum has none. -/
theorem nodup_validatorSymbols (f : Field) : f.validatorSymbols.Nodup := by
  rw [validatorSymbols, List.cons_append, List.nodup_cons]
  constructor
  · exact fun h => not_mem_presenceNames (f := f) h f.presence_mem
  · cases h : f.isEnum with
    | true =>
      rw [check?_of_isEnum h]
      exact List.nodup_singleton _
    | false => cases f.check? <;> simp

theorem name_of_mem_coercion (h : d ∈ f.coercion) : d.name = .str "Type" := by
  obtain ⟨target, -, rfl⟩ := mem_coercion.1 h
  rfl

theorem name_of_mem_nestedEntity (h : d ∈ f.nestedEntity owner) : d.name = .str "Entity" := by
  obtain ⟨-, rfl⟩ := mem_nestedEntity.1 h
  rfl

/-! ## The decorators in order -/

/-- The decorators behind the exposure. -/
def afterExposure (f : Field) (owner : Value) (coerce : Bool) : List Decorator :=
  (if coerce then f.coercion else []) ++ f.nestedEntity owner

theorem decorators_eq (f : Field) (owner : Value) (coerce : Bool) :
    f.decorators owner coerce = f.checks ++ .exposure :: f.afterExposure owner coerce := by
  rw [decorators, List.append_assoc]
  rfl

theorem name_of_mem_afterExposure (h : d ∈ f.afterExposure owner coerce) :
    d.name = .str "Type" ∨ d.name = .str "Entity" := by
  rcases List.mem_append.1 h with h | h
  · exact .inl (name_of_mem_coercion (List.mem_ite_nil_right.1 h).2)
  · exact .inr (name_of_mem_nestedEntity h)

/-- A decorator behind the first one is called like a symbol behind the first one, or it does not
check. -/
theorem name_of_mem_tail (h : d ∈ (f.decorators owner coerce).tail) :
    ∃ s, d.name = .str s ∧ (s ∈ f.validatorSymbols.tail ∨ s ∈ otherNames) := by
  have htail : (f.decorators owner coerce).tail =
      f.checks.tail ++ .exposure :: f.afterExposure owner coerce := by
    rw [decorators_eq]
    rfl
  rw [htail] at h
  rcases List.mem_append.1 h with h | h
  · have hname : d.name ∈ (f.checks.map (·.name)).tail := by
      rw [← List.map_tail]
      exact List.mem_map_of_mem h
    rw [map_name_checks, ← List.map_tail] at hname
    obtain ⟨s, hs, hname⟩ := List.mem_map.1 hname
    exact ⟨s, hname.symm, .inl hs⟩
  · rcases List.mem_cons.1 h with rfl | h
    · exact ⟨"Expose", rfl, .inr (by decide)⟩
    · rcases name_of_mem_afterExposure h with h | h
      · exact ⟨"Type", h, .inr (by decide)⟩
      · exact ⟨"Entity", h, .inr (by decide)⟩

/-- A decorator is called like a symbol, or it does not check. -/
theorem name_of_mem_decorators (h : d ∈ f.decorators owner coerce) :
    ∃ s, d.name = .str s ∧ (s ∈ f.validatorSymbols ∨ s ∈ otherNames) := by
  have hcons : f.decorators owner coerce =
      { name := .str f.presence } :: (f.decorators owner coerce).tail := rfl
  rw [hcons] at h
  rcases List.mem_cons.1 h with rfl | h
  · exact ⟨f.presence, rfl, .inl List.mem_cons_self⟩
  · obtain ⟨s, hname, hs⟩ := name_of_mem_tail h
    exact ⟨s, hname, hs.imp_left List.mem_of_mem_tail⟩

/-- A decorator with a name that no symbol has is the exposure or behind it. -/
theorem not_mem_checks (hname : d.name = .str s) (hs : s ∈ otherNames) : d ∉ f.checks := by
  intro h
  have hmem : d.name ∈ f.checks.map (·.name) := List.mem_map_of_mem h
  rw [map_name_checks, hname, List.mem_map_of_injective fun _ _ => Value.str.inj] at hmem
  exact not_mem_otherNames hmem hs

/-- Only the exposure is called so. -/
theorem name_ne_exposure (h : d ∈ f.checks ++ f.afterExposure owner coerce) :
    d.name ≠ Decorator.exposure.name := by
  intro hname
  rcases List.mem_append.1 h with h | h
  · exact not_mem_checks hname (by decide) h
  · rcases name_of_mem_afterExposure h with h | h
    · exact absurd (Value.str.inj (h.symm.trans hname)) (by decide)
    · exact absurd (Value.str.inj (h.symm.trans hname)) (by decide)

/-- Only the last decorator is called like one for a nested entity. -/
theorem mem_nestedEntity_of_name (h : d ∈ f.decorators owner coerce)
    (hname : d.name = .str "Entity") : d ∈ f.nestedEntity owner := by
  rcases mem_decorators.1 h with h | rfl | ⟨-, h⟩ | h
  · exact absurd h (not_mem_checks hname (by decide))
  · exact absurd (Value.str.inj hname) (by decide)
  · exact absurd (Value.str.inj ((name_of_mem_coercion h).symm.trans hname)) (by decide)
  · exact h

end Field

/-! ## Coherence -/

/-- How the parts of the classifications of a field go together. -/
structure Field.Coherent (f : Field) (types : TypeMap) : Prop where
  /-- The symbols are the names of the decorators before the one exposure, each once. The first of
  them says whether the field must be there, and no other decorator does. -/
  symbols : ∀ owner coerce, ∃ c before after, f.classify owner types coerce = .ok c ∧
    c.decorators = before ++ .exposure :: after ∧
    (∀ d ∈ before ++ after, d.name ≠ Decorator.exposure.name) ∧
    c.symbols.map .str = before.map (·.name) ∧ c.symbols.Nodup ∧
    c.symbols.head? = some (if f.isRequired.truthy then ("IsDefined" : Text) else "IsOptional") ∧
    ∀ d ∈ c.decorators.tail, d.name ∉ presenceNames.map .str
  /-- Coercion puts one decorator behind the exposure, for the types that can be coerced, and
  changes nothing else. -/
  coercion : ∀ owner, ∃ targetType symbols before inserted after,
    f.classify owner types false =
      .ok { targetType, decorators := before ++ .exposure :: after, symbols } ∧
    f.classify owner types true =
      .ok { targetType, decorators := before ++ .exposure :: (inserted ++ after), symbols } ∧
    (∀ d ∈ before ++ after, d.name ≠ Decorator.exposure.name) ∧
    if f.scalarType ∈ [ScalarType.int, .float, .dateTime, .string, .boolean].map some then
      ∃ d, d.name = .str "Type" ∧ inserted = [d]
    else inserted = []
  /-- The owner decides whether there is a last decorator for a nested entity, and nothing else :
  there is one for a relation whose type is not the owner. -/
  owner : ∀ coerce, ∃ c nested, nested.name = .str "Entity" ∧
    (∀ d ∈ c.decorators, d.name ≠ .str "Entity") ∧ ∀ owner,
      (f.isRelation.truthy = true ∧ f.type ≠ owner → f.classify owner types coerce =
        .ok { c with decorators := c.decorators ++ [nested] }) ∧
      (¬ (f.isRelation.truthy = true ∧ f.type ≠ owner) → f.classify owner types coerce = .ok c)
  /-- What the decorator of a nested entity refers to is the type of the field. If the list flag is
  a truth value, this type is a list exactly if the reference is one and the second argument says
  so. -/
  nested : f.kind = .object → f.isList.isFlag = true → ∀ owner coerce c,
    f.classify owner types coerce = .ok c → ∀ d ∈ c.decorators, d.name = .str "Entity" →
    ∃ target isList : Text,
      d.arguments = [.lazy (.str target) f.isList, .plain (.str isList)] ∧
      (isList = "true" ↔ f.isList = .bool true) ∧
      c.targetType = .str (target ++ if isList = "true" then "[]" else "")
  /-- The values of an enum and the type of a scalar are not both checked. -/
  apart : ∀ owner coerce c, f.classify owner types coerce = .ok c → ∀ d ∈ c.decorators,
    d.name = .str "IsIn" → ∀ d' ∈ c.decorators, d'.name ∉ ScalarType.checkNames.map .str

namespace Field

variable {f : Field} {owner : Value} {coerce : Bool} {d : Decorator} {types : TypeMap}

theorem coherent_symbols (h : types.IsTotal) (owner : Value) (coerce : Bool) :
    ∃ c before after, f.classify owner types coerce = .ok c ∧
      c.decorators = before ++ .exposure :: after ∧
      (∀ d ∈ before ++ after, d.name ≠ Decorator.exposure.name) ∧
      c.symbols.map .str = before.map (·.name) ∧ c.symbols.Nodup ∧
      c.symbols.head? = some (if f.isRequired.truthy then ("IsDefined" : Text) else "IsOptional") ∧
      ∀ d ∈ c.decorators.tail, d.name ∉ presenceNames.map .str := by
  obtain ⟨type, -, hclassify⟩ := f.exists_classify_eq h
  refine ⟨_, f.checks, f.afterExposure owner coerce, hclassify owner coerce,
    f.decorators_eq owner coerce, fun d hd => name_ne_exposure hd, f.map_name_checks.symm,
    f.nodup_validatorSymbols, rfl, fun d hd => ?_⟩
  obtain ⟨s, hname, hs⟩ := name_of_mem_tail hd
  rw [hname, List.mem_map_of_injective fun _ _ => Value.str.inj]
  rcases hs with hs | hs
  · exact not_mem_presenceNames hs
  · have hother : ∀ s ∈ otherNames, s ∉ presenceNames := by decide
    exact hother s hs

/-- The types that are coerced are those with a constructor. -/
theorem coercion_eq (f : Field) :
    if f.scalarType ∈ [ScalarType.int, .float, .dateTime, .string, .boolean].map some then
      ∃ d, d.name = .str "Type" ∧ f.coercion = [d]
    else f.coercion = [] := by
  unfold coercion constructor?
  cases f.scalarType with
  | none => rfl
  | some t => cases t <;> first | exact ⟨_, rfl, rfl⟩ | rfl

theorem coherent_coercion (h : types.IsTotal) (owner : Value) :
    ∃ targetType symbols before inserted after,
      f.classify owner types false =
        .ok { targetType, decorators := before ++ .exposure :: after, symbols } ∧
      f.classify owner types true =
        .ok { targetType, decorators := before ++ .exposure :: (inserted ++ after), symbols } ∧
      (∀ d ∈ before ++ after, d.name ≠ Decorator.exposure.name) ∧
      if f.scalarType ∈ [ScalarType.int, .float, .dateTime, .string, .boolean].map some then
        ∃ d, d.name = .str "Type" ∧ inserted = [d]
      else inserted = [] := by
  obtain ⟨type, -, hclassify⟩ := f.exists_classify_eq h
  have hafter : f.afterExposure owner false = f.nestedEntity owner := rfl
  refine ⟨type, f.validatorSymbols, f.checks, f.coercion, f.afterExposure owner false, ?_, ?_,
    fun d hd => name_ne_exposure hd, f.coercion_eq⟩
  · rw [hclassify, decorators_eq]
  · rw [hclassify, decorators_eq, hafter]
    rfl

/-- The decorator of a relation of a field to another entity. -/
def entityDecorator (f : Field) : Decorator :=
  { name := .str "Entity"
    arguments := [.lazy (.str (dtoName f.type)) f.isList,
      .plain (.str (Text.lower f.isList.text))] }

theorem coherent_owner (hf : f.isTextual = true) (h : types.IsTotal) (coerce : Bool) :
    ∃ c nested, nested.name = .str "Entity" ∧ (∀ d ∈ c.decorators, d.name ≠ .str "Entity") ∧
      ∀ owner,
        (f.isRelation.truthy = true ∧ f.type ≠ owner → f.classify owner types coerce =
          .ok { c with decorators := c.decorators ++ [nested] }) ∧
        (¬ (f.isRelation.truthy = true ∧ f.type ≠ owner) →
          f.classify owner types coerce = .ok c) := by
  obtain ⟨type, -, hclassify⟩ := f.exists_classify_eq h
  -- With its type as the owner a field has no nested entity.
  have hself : f.nestedEntity f.type = [] := by
    rw [nestedEntity, if_neg fun hrefers => ((refersToOther_iff hf).1 hrefers).2 rfl]
  have hdecorators : ∀ owner, f.decorators owner coerce =
      f.decorators f.type coerce ++ f.nestedEntity owner := by
    intro owner
    rw [decorators, decorators, hself, List.append_nil]
  refine ⟨⟨type, f.decorators f.type coerce, f.validatorSymbols⟩, f.entityDecorator, rfl,
    fun d hd hname => ?_, fun owner => ⟨fun hrefers => ?_, fun hrefers => ?_⟩⟩
  · have hmem := mem_nestedEntity_of_name hd hname
    rw [hself] at hmem
    exact absurd hmem List.not_mem_nil
  · rw [hclassify, hdecorators, nestedEntity, if_pos ((refersToOther_iff hf).2 hrefers)]
    rfl
  · rw [hclassify, hdecorators, nestedEntity,
      if_neg fun hrefers' => hrefers ((refersToOther_iff hf).1 hrefers'), List.append_nil]

theorem coherent_nested (hlist : f.isList.isFlag = true) (h : types.IsTotal)
    (hkind : f.kind = .object) {c : Classification} (hc : f.classify owner types coerce = .ok c)
    (hd : d ∈ c.decorators) (hname : d.name = .str "Entity") : ∃ target isList : Text,
      d.arguments = [.lazy (.str target) f.isList, .plain (.str isList)] ∧
      (isList = "true" ↔ f.isList = .bool true) ∧
      c.targetType = .str (target ++ if isList = "true" then "[]" else "") := by
  obtain ⟨type, htype, hclassify⟩ := f.exists_classify_eq h
  obtain rfl := Except.ok.inj ((hclassify owner coerce).symm.trans hc)
  obtain ⟨-, rfl⟩ := mem_nestedEntity.1 (mem_nestedEntity_of_name hd hname)
  obtain ⟨b, hb⟩ := Value.isFlag_iff.1 hlist
  have htarget : f.targetType types =
      .ok (if b then .str (dtoName f.type ++ "[]") else .str (dtoName f.type)) := by
    rw [targetType, scalarType, isObject, hkind, hb]
    rfl
  obtain rfl := Except.ok.inj (htarget.symm.trans htype)
  refine ⟨_, _, rfl, ?_, ?_⟩
  · rw [hb]
    cases b <;> simp <;> decide
  · rw [hb]
    cases b
    · exact congrArg Value.str (List.append_nil _).symm
    · rfl

theorem coherent_apart {c : Classification} (hc : f.classify owner types coerce = .ok c)
    (hd : d ∈ c.decorators) (hname : d.name = .str "IsIn") {d' : Decorator}
    (hd' : d' ∈ c.decorators) : d'.name ∉ ScalarType.checkNames.map .str := by
  rw [decorators_of_classify hc] at hd hd'
  have hcheck : f.check? = none := by
    obtain ⟨s, hs, hmem⟩ := name_of_mem_decorators hd
    obtain rfl := Value.str.inj (hs.symm.trans hname)
    rcases mem_validatorSymbols.1 (hmem.resolve_right (by decide)) with h | h | ⟨h, -⟩
    · exact absurd (h ▸ f.presence_mem) (by decide)
    · exact absurd rfl (check?_ne_isIn h)
    · exact check?_of_isEnum h
  obtain ⟨s, hs, hmem⟩ := name_of_mem_decorators hd'
  rw [hs, List.mem_map_of_injective fun _ _ => Value.str.inj]
  rcases hmem with hmem | hmem
  · rcases mem_validatorSymbols.1 hmem with rfl | h | ⟨-, rfl⟩
    · rcases f.presence_eq_or with h | h <;> rw [h] <;> decide
    · rw [hcheck] at h
      cases h
    · decide
  · have hother : ∀ s ∈ otherNames, s ∉ ScalarType.checkNames := by decide
    exact hother s hmem

end Field

/-- Every textual field is classified coherently, under every table that has a type for each
scalar. -/
theorem Field.classify_coherent {f : Field} (hf : f.isTextual = true) {types : TypeMap}
    (htypes : types.IsTotal) : f.Coherent types where
  symbols := coherent_symbols htypes
  coercion := coherent_coercion htypes
  owner := coherent_owner hf htypes
  nested hkind hlist _ _ _ hc _ hd hname := coherent_nested hlist htypes hkind hc hd hname
  apart _ _ _ hc _ hd hname _ hd' := coherent_apart hc hd hname hd'

/-- A list of relations to another entity. -/
def Field.sampleBooks : Field :=
  { name := .str "books", type := .str "Book", kind := .object, isList := .bool true
    isRelation := .bool true }

theorem Field.classify_coherent_sampleBooks : sampleBooks.isTextual = true ∧
    sampleBooks.isList.isFlag = true ∧ sampleBooks.kind = .object ∧
    TypeMap.standard.IsTotal ∧ sampleBooks.Coherent .standard ∧
    (∃ nested, sampleBooks.nestedEntity (.str "Author") = [nested]) ∧
    sampleBooks.nestedEntity (.str "Book") = [] := by
  have htypes : TypeMap.standard.IsTotal := Settings.isTotal_typeMap {}
  exact ⟨rfl, rfl, rfl, htypes, classify_coherent rfl htypes, ⟨_, rfl⟩, rfl⟩

end DtoPress
