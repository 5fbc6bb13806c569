import DtoPress.Proofs.ClassFiles

/-!
# Class files are lossless

What is printed of the class of an entity is its shape : the name of the class, and for each field
in order the name, the mark of requiredness, the type and the decorators. Without comments the file
of the class is read as this shape (`readClassFile_classFile`), so it has no less. If names and
types are identifiers, the shape in turn has no less than the entity has of all this, and
`Generator.properties_of_renders` : two entities with the same text have the same name and the same
properties, position by position.
-/

set_option linter.unusedSectionVars false

namespace DtoPress

/-! ## Entities -/

/-- The value is an identifier. -/
def Value.isIdentifier : Value → Bool
  | .str t => DtoPress.isIdentifier t
  | _ => false

theorem Value.isIdentifier_iff {v : Value} :
    v.isIdentifier = true ↔ ∃ t, v = .str t ∧ DtoPress.isIdentifier t = true := by
  cases v <;> simp [isIdentifier]

/-- The names and the types of an entity are identifiers. -/
def Entity.hasIdentifiers (e : Entity) : Bool :=
  e.name.isIdentifier && e.fields.all fun f => f.name.isIdentifier && f.type.isIdentifier

theorem Entity.hasIdentifiers_iff {e : Entity} : e.hasIdentifiers = true ↔
    e.name.isIdentifier = true ∧
      ∀ f ∈ e.fields, f.name.isIdentifier = true ∧ f.type.isIdentifier = true := by
  simp [hasIdentifiers]

theorem Value.rest_of_isIdentifier {v : Value} (h : v.isIdentifier = true) :
    v.text.all (·.isA isIdentifierRest) = true := by
  obtain ⟨t, rfl, ht⟩ := isIdentifier_iff.1 h
  exact Text.rest_of_isIdentifier ht

theorem Value.isText_of_isIdentifier {v : Value} (h : v.isIdentifier = true) :
    v.isText = true := by
  obtain ⟨t, rfl, -⟩ := isIdentifier_iff.1 h
  rfl

theorem Entity.isTextual_of_hasIdentifiers {e : Entity} (h : e.hasIdentifiers = true) :
    e.isTextual = true := by
  obtain ⟨hname, hfields⟩ := hasIdentifiers_iff.1 h
  exact isTextual_iff.2 ⟨Value.isText_of_isIdentifier hname, fun f hf => Field.isTextual_iff.2
    ⟨Value.isText_of_isIdentifier (hfields f hf).1, Value.isText_of_isIdentifier (hfields f hf).2⟩⟩

/-- A flag in lower case is one line. -/
theorem Value.isLine_lower {v : Value} (h : v.isFlag = true) :
    (Text.lower v.text).isLine = true := by
  obtain ⟨b, rfl⟩ := isFlag_iff.1 h
  cases b <;> decide

/-! ## Classes of entities -/

theorem Field.isLegible_property {f : Field} (hname : f.name.isIdentifier = true)
    (htype : f.type.isIdentifier = true) (hlist : f.isList.isFlag = true) {types : TypeMap}
    (htypes : ∀ t ∈ types, t.2.isLine = true) {owner : Value} {coerce : Bool}
    {c : Classification} (h : f.classify owner types coerce = .ok c) :
    (f.property c false).IsLegible := by
  have hline : f.type.text.all Text.isInLine = true :=
    Text.all_of_rest (Value.rest_of_isIdentifier htype)
  refine ⟨rfl, Value.rest_of_isIdentifier hname, all_type_of_classify htypes hline h,
    fun d hd => ?_⟩
  replace hd : d ∈ c.decorators := hd
  rw [decorators_of_classify h] at hd
  exact all_of_mem_decorators hline (Value.isLine_lower hlist) hd

theorem Entity.isLegible_declaration {e : Entity} (he : e.hasIdentifiers = true)
    (hlists : ∀ f ∈ e.fields, f.isList.isFlag = true) {style : UnitStyle}
    (hcomments : style.comments = false) (hquote : style.quote ≠ '\n')
    (htypes : ∀ t ∈ style.types, t.2.isLine = true) {classified : List Classification}
    (h : (e.fields.mapM fun f => f.classify e.name style.types style.coerce) = .ok classified) :
    (e.declaration style classified).IsLegible := by
  obtain ⟨hname, hfields⟩ := hasIdentifiers_iff.1 he
  have hdto : (dtoName e.name).all (·.isA isIdentifierRest) = true := by
    rw [dtoName, List.all_append, Value.rest_of_isIdentifier hname]
    decide
  refine ⟨by rw [declaration, hcomments]; rfl, rfl, hdto, fun p hp => ?_, fun p hp => ?_⟩
  · obtain ⟨⟨f, c⟩, hmem, rfl⟩ := List.mem_map.1 hp
    obtain ⟨hf, -⟩ := List.of_mem_zip hmem
    dsimp only
    rw [hcomments]
    have hclassify := eq_ok_of_mem_zip h hmem
    exact Field.isLegible_property (hfields f hf).1 (hfields f hf).2 (hlists f hf) htypes hclassify
  · rw [List.mem_singleton.1 hp]
    exact ⟨rfl, rfl, Text.all_literal hquote (Text.all_of_rest hdto)⟩

/-- Two fields become the same property, each in the class of its owner : they have the same name,
are both required or both not, and are classified with the same type and with decorators of the
same texts. -/
structure Field.SameProperty (style : UnitStyle) (owner owner' : Value) (f f' : Field) : Prop where
  name : f.name = f'.name
  required : f.isRequired.truthy = f'.isRequired.truthy
  classified : ∃ c c', f.classify owner style.types style.coerce = .ok c ∧
    f'.classify owner' style.types style.coerce = .ok c' ∧ c.targetType = c'.targetType ∧
    c.decorators.map Decorator.text = c'.decorators.map Decorator.text

/-- Classified fields of which the same is printed become the same properties. -/
theorem Field.sameProperties {style : UnitStyle} {owner owner' : Value} :
    ∀ {fields fields' : List Field} {cs cs' : List Classification},
      (fields.mapM fun f => f.classify owner style.types style.coerce) = .ok cs →
      (fields'.mapM fun f => f.classify owner' style.types style.coerce) = .ok cs' →
      (∀ f ∈ fields, f.isTextual = true) → (∀ f ∈ fields', f.isTextual = true) →
      ((fields.zip cs).map fun (f, c) => (f.property c style.comments).shape) =
        ((fields'.zip cs').map fun (f, c) => (f.property c style.comments).shape) →
      List.Forall₂ (Field.SameProperty style owner owner') fields fields'
  | [], [], _, _, _, _, _, _, _ => .nil
  | [], f' :: fields', cs, cs', h, h', _, _, hshape => by
    obtain ⟨c', rest', -, -, rfl⟩ := mapM_cons_eq_ok h'
    cases hshape
  | f :: fields, [], cs, cs', h, h', _, _, hshape => by
    obtain ⟨c, rest, -, -, rfl⟩ := mapM_cons_eq_ok h
    cases hshape
  | f :: fields, f' :: fields', cs, cs', h, h', htext, htext', hshape => by
    obtain ⟨c, rest, hc, hrest, rfl⟩ := mapM_cons_eq_ok h
    obtain ⟨c', rest', hc', hrest', rfl⟩ := mapM_cons_eq_ok h'
    obtain ⟨hshape, hshapes⟩ := List.cons.inj hshape
    obtain ⟨hf, hfields⟩ := List.forall_mem_cons.1 htext
    obtain ⟨hf', hfields'⟩ := List.forall_mem_cons.1 htext'
    obtain ⟨hname, htype⟩ := Field.isTextual_iff.1 hf
    obtain ⟨hname', htype'⟩ := Field.isTextual_iff.1 hf'
    refine .cons ⟨?_, congrArg PropertyShape.isRequired hshape, c, c', hc, hc', ?_,
      congrArg PropertyShape.decorators hshape⟩ ?_
    · exact Value.eq_of_text_eq hname hname' (congrArg PropertyShape.name hshape)
    · exact Value.eq_of_text_eq (isText_type_of_classify htype hc)
        (isText_type_of_classify htype' hc') (congrArg PropertyShape.type hshape)
    · exact sameProperties hrest hrest' hfields hfields' hshapes

namespace Generator

variable {g : Generator} {e : Entity} {t t' : Text}

/-- The text is the one of the unit of the entity. -/
def Renders (g : Generator) (e : Entity) (t : Text) : Prop :=
  ∃ unit c, g.unit e = .ok unit ∧ unit.declaration = some c ∧
    g.renderUnit unit.imports c = .ok t

theorem Renders.unique (h : g.Renders e t) (h' : g.Renders e t') : t = t' := by
  obtain ⟨unit, c, hunit, hc, ht⟩ := h
  obtain ⟨unit', c', hunit', hc', ht'⟩ := h'
  obtain rfl := Except.ok.inj (hunit.symm.trans hunit')
  obtain rfl := Option.some.inj (hc.symm.trans hc')
  exact Except.ok.inj (ht.symm.trans ht')

theorem isLegible_layout {kind : GeneratorClass} {config : Config}
    (h : create kind config = .ok g) : g.layout.IsLegible := by
  constructor
  · obtain ⟨settings, n, -, -, rfl⟩ := of_create h
    refine List.all_eq_true.2 fun c hc => ?_
    rw [List.eq_of_mem_replicate hc]
    rfl
  · show g.engine.quote ≠ '\n'
    rcases quote_of_create h with hquote | hquote <;> rw [hquote] <;> decide

/-- The class of an entity with identifiers can be read. -/
theorem Ready.exists_renders (hg : g.Ready) (hl : g.layout.IsLegible)
    (hs : g.settings.hasTextModules = true)
    (hmodules : ∀ v ∈ g.settings.modules, v.text.isLine = true)
    (hcomments : g.config.addComments.truthy = false) (he : e.hasIdentifiers = true)
    (hlists : ∀ f ∈ e.fields, f.isList.isFlag = true) : ∃ classified t,
      (e.fields.mapM fun f => f.classify e.name g.types g.unitStyle.coerce) = .ok classified ∧
      g.Renders e t ∧
      readClassFile g.indent t = some (e.declaration g.unitStyle classified).shape := by
  obtain ⟨hname, hfields⟩ := Entity.hasIdentifiers_iff.1 he
  have htext := Entity.isTextual_of_hasIdentifiers he
  obtain ⟨classified, hclassified, hunit⟩ := Entity.unit_eq
    (Entity.referencedEnums_all_isText htext) g.unitStyle hs hg.types
  obtain ⟨unit, hunit', -, huses⟩ := hg.exists_unit hs htext
  obtain rfl := Except.ok.inj (hunit.symm.trans hunit')
  have hrest : ∀ f ∈ e.fields, f.type.text.all Text.isInLine = true := fun f hf =>
    Text.all_of_rest (Value.rest_of_isIdentifier (hfields f hf).2)
  have hi : Imports.IsLegible _ := fun module symbol hhas =>
    ((huses.pairs module symbol).1 hhas).all_text hrest hmodules
  have htypes : ∀ t ∈ g.types, t.2.all Text.isInLine = true := by
    rw [hg.types]
    exact fun t ht => Settings.all_of_mem_typeMap (hmodules _ (by simp [Settings.modules])) ht
  have hc : (e.declaration g.unitStyle classified).IsLegible :=
    Entity.isLegible_declaration he hlists hcomments hl.quote htypes hclassified
  obtain ⟨t, hfile, hread⟩ := readClassFile_classFile hl hi hc
  exact ⟨classified, t, hclassified, ⟨_, _, hunit, rfl, hg.renderUnit_eq hfile⟩, hread⟩

/-- The class file is lossless. Entities whose names and types are identifiers have texts, as long
as comments are off and the modules that files import from are texts of one line. If two of them
have the same text, they have the same name, and their fields are the same properties, position by
position. -/
theorem properties_of_renders {kind : GeneratorClass} {config : Config}
    (hg : create kind config = .ok g) (hcomments : g.config.addComments.truthy = false)
    (hs : g.settings.hasTextModules = true)
    (hmodules : ∀ v ∈ g.settings.modules, v.text.isLine = true) {e e' : Entity}
    (he : e.hasIdentifiers = true) (he' : e'.hasIdentifiers = true)
    (hlists : ∀ f ∈ e.fields ++ e'.fields, f.isList.isFlag = true) :
    (∃ t, g.Renders e t) ∧ (∃ t, g.Renders e' t) ∧
      ∀ t, g.Renders e t → g.Renders e' t → e.name = e'.name ∧
        List.Forall₂ (Field.SameProperty g.unitStyle e.name e'.name) e.fields e'.fields := by
  have hready := ready_of_create hg
  have hl := isLegible_layout hg
  obtain ⟨hfields, hfields'⟩ := List.forall_mem_append.1 hlists
  obtain ⟨classified, u, hclassified, hrenders, hread⟩ :=
    hready.exists_renders hl hs hmodules hcomments he hfields
  obtain ⟨classified', u', hclassified', hrenders', hread'⟩ :=
    hready.exists_renders hl hs hmodules hcomments he' hfields'
  refine ⟨⟨u, hrenders⟩, ⟨u', hrenders'⟩, fun t ht ht' => ?_⟩
  rw [hrenders.unique ht] at hread
  rw [hrenders'.unique ht', hread] at hread'
  have hshape := Option.some.inj hread'
  obtain ⟨hname, hfieldsText⟩ := Entity.isTextual_iff.1 (Entity.isTextual_of_hasIdentifiers he)
  obtain ⟨hname', hfieldsText'⟩ := Entity.isTextual_iff.1 (Entity.isTextual_of_hasIdentifiers he')
  constructor
  · have hdto : dtoName e.name = dtoName e'.name := congrArg ClassShape.name hshape
    exact Value.eq_of_text_eq hname hname' (List.append_cancel_right hdto)
  · refine Field.sameProperties hclassified hclassified' hfieldsText hfieldsText' ?_
    have hproperties : (e.declaration g.unitStyle classified).properties.map Property.shape =
        (e'.declaration g.unitStyle classified').properties.map Property.shape :=
      congrArg ClassShape.properties hshape
    rw [Entity.declaration, Entity.declaration, List.map_map, List.map_map] at hproperties
    exact hproperties

end Generator

/-- A configuration without comments and without indentation. -/
def Config.sampleFlat : Config :=
  { indentSize := .int 0, addComments := .bool false }

/-- Two fields that are named like the words around them in a class file. -/
def Field.sampleKeywords : List Field :=
  [{ name := .str "static", type := .str "String", isRequired := .bool true },
   { name := .str "export", type := .str "Int", isList := .bool true }]

/-- The same fields in the other order make another text. -/
theorem Generator.properties_of_renders_sampleKeywords : ∃ g,
    create .typescript .sampleFlat = .ok g ∧ g.config.addComments.truthy = false ∧
    g.settings.hasTextModules = true ∧ (∀ v ∈ g.settings.modules, v.text.isLine = true) ∧
    let e : Entity := { name := .str "Flag", fields := Field.sampleKeywords }
    let e' : Entity := { name := .str "Flag", fields := Field.sampleKeywords.reverse }
    e.hasIdentifiers = true ∧ e'.hasIdentifiers = true ∧
    (∀ f ∈ e.fields ++ e'.fields, f.isList.isFlag = true) ∧
    ∃ t t', g.Renders e t ∧ g.Renders e' t' ∧ t ≠ t' := by
  have hg : create .typescript .sampleFlat = .ok _ := rfl
  refine ⟨_, hg, rfl, rfl, by decide +kernel, ?_⟩
  intro e e'
  have he : e.hasIdentifiers = true := by decide +kernel
  have he' : e'.hasIdentifiers = true := by decide +kernel
  have hlists : ∀ f ∈ e.fields ++ e'.fields, f.isList.isFlag = true := by decide +kernel
  obtain ⟨⟨t, ht⟩, ⟨t', ht'⟩, hsame⟩ :=
    properties_of_renders hg rfl rfl (by decide +kernel) he he' hlists
  refine ⟨he, he', hlists, t, t', ht, ht', ?_⟩
  rintro rfl
  obtain ⟨-, hfields⟩ := hsame t ht ht'
  cases hfields with
  | cons hfirst _ => exact absurd (Value.str.inj hfirst.name) (by decide)

end DtoPress
