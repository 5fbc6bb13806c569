import DtoPress.Proofs.Wording
import DtoPress.Schema.Document

/-!
# Documents that describe a model

A schema document can say the same in several ways : a scalar kind, a flag that is false and
documentation that is absent may be left out, as may an empty list, an enum value is a text or an
object with a name, and every object may hold more than is read. `Model.DescribedBy` is the relation
between a model and the objects that list it, said node by node and without the reader. Every model
has such an object (`Model.describedBy_document`), and `Model.ofDocument_of_describedBy` : whichever
it is, and whether it is the document or stands under `datamodel`, what is read from it is the
model.
-/

set_option linter.unusedSectionVars false

namespace DtoPress

/-! ## Nodes -/

/-- The object gives a value under a key : it has it there, or leaves it out where the value is the
usual one. -/
def Entries.Gives (node : Entries Text Value) (key : Text) (v usual : Value) : Prop :=
  get? node key = some v ∨ get? node key = none ∧ v = usual

/-- The object describes a field. A relation has a name that is not empty, and what is no relation
has none. -/
structure Field.DescribedBy (f : Field) (node : Entries Text Value) : Prop where
  name : Entries.get? node "name" = some f.name
  type : Entries.get? node "type" = some f.type
  kind : Entries.Gives node "kind" (.str f.kind.name) (.str "scalar")
  isList : Entries.Gives node "isList" f.isList (.bool false)
  isRequired : Entries.Gives node "isRequired" f.isRequired (.bool false)
  relation : f.isRelation = .bool true →
    ∃ name : Text, name ≠ [] ∧ Entries.get? node "relationName" = some (.str name)
  noRelation : f.isRelation = .bool false →
    ∀ v, Entries.get? node "relationName" = some v → v = .str [] ∨ v = .null
  documentation : Entries.Gives node "documentation" f.documentation .null

/-- The object describes an entity. -/
structure Entity.DescribedBy (e : Entity) (node : Entries Text Value) : Prop where
  name : Entries.get? node "name" = some e.name
  fields : ∃ nodes : List (Entries Text Value), List.Forall₂ Field.DescribedBy e.fields nodes ∧
    Entries.Gives node "fields" (.list (nodes.map .object)) (.list [])
  documentation : Entries.Gives node "documentation" e.documentation .null

/-- The node spells a value of an enum. -/
inductive EnumType.Spells : Value → Value → Prop
  | text (t : Text) : Spells (.str t) (.str t)
  | named {v : Value} {node : Entries Text Value} (h : Entries.get? node "name" = some v) :
    Spells v (.object node)

/-- The object describes an enum. -/
structure EnumType.DescribedBy (e : EnumType) (node : Entries Text Value) : Prop where
  name : Entries.get? node "name" = some e.name
  values : ∃ nodes, List.Forall₂ Spells e.values nodes ∧
    Entries.Gives node "values" (.list nodes) (.list [])
  documentation : Entries.Gives node "documentation" e.documentation .null

/-- The object lists the entities and enums of a model. -/
structure Model.DescribedBy (m : Model) (node : Entries Text Value) : Prop where
  entities : ∃ nodes : List (Entries Text Value),
    List.Forall₂ Entity.DescribedBy m.entities nodes ∧
      Entries.Gives node "models" (.list (nodes.map .object)) (.list [])
  enums : ∃ nodes : List (Entries Text Value), List.Forall₂ EnumType.DescribedBy m.enums nodes ∧
    Entries.Gives node "enums" (.list (nodes.map .object)) (.list [])

/-! ## Models that documents describe -/

/-- The value is a text, or there is none. -/
def Value.isTextOrNull (v : Value) : Bool :=
  v.isText || v matches .null

/-- Names and types are texts, flags are truth values, and documentation is a text if it is
there. -/
def Field.isRegular (f : Field) : Bool :=
  f.isTextual && f.isList.isFlag && f.isRequired.isFlag && f.isRelation.isFlag
    && f.documentation.isTextOrNull

/-- The name is a text, the documentation too if it is there, and the fields are regular. -/
def Entity.isRegular (e : Entity) : Bool :=
  e.name.isText && e.fields.all Field.isRegular && e.documentation.isTextOrNull

/-- Name and values are texts, the documentation too if it is there. -/
def EnumType.isRegular (e : EnumType) : Bool :=
  e.name.isText && e.values.all Value.isText && e.documentation.isTextOrNull

/-- All entities and enums are regular. -/
def Model.isRegular (m : Model) : Bool :=
  m.entities.all Entity.isRegular && m.enums.all EnumType.isRegular

theorem Field.isRegular_iff {f : Field} : f.isRegular = true ↔ f.isTextual = true ∧
    f.isList.isFlag = true ∧ f.isRequired.isFlag = true ∧ f.isRelation.isFlag = true ∧
      f.documentation.isTextOrNull = true := by
  simp [isRegular, and_assoc]

theorem Entity.isRegular_iff {e : Entity} : e.isRegular = true ↔ e.name.isText = true ∧
    (∀ f ∈ e.fields, f.isRegular = true) ∧ e.documentation.isTextOrNull = true := by
  simp [isRegular, and_assoc]

theorem EnumType.isRegular_iff {e : EnumType} : e.isRegular = true ↔ e.name.isText = true ∧
    (∀ v ∈ e.values, v.isText = true) ∧ e.documentation.isTextOrNull = true := by
  simp [isRegular, and_assoc]

theorem Model.isRegular_iff {m : Model} : m.isRegular = true ↔
    (∀ e ∈ m.entities, e.isRegular = true) ∧ ∀ e ∈ m.enums, e.isRegular = true := by
  simp [isRegular]

/-! ## Reading a described node -/

section Reading

variable {node : Entries Text Value} {key : Text} {v usual : Value}

theorem Entries.Gives.fieldOr_eq (h : Entries.Gives node key v usual) :
    (Value.object node).fieldOr key usual = v := by
  rcases h with h | ⟨h, rfl⟩ <;> rw [Value.fieldOr, h] <;> rfl

theorem Value.require_eq_ok {ε : Type} (h : Entries.get? node key = some v) (missing : ε) :
    (Value.object node).require key missing = .ok v := by
  simp only [require, hasMember, Entries.has, h]
  rfl

/-- What describes the items of a list, item by item, is read as these items. -/
theorem mapM_of_forall₂ {α β γ ε : Type} {P : α → β → Prop} {f : γ → Except ε α} {g : β → γ}
    {as : List α} {bs : List β} (h : List.Forall₂ P as bs)
    (hf : ∀ a ∈ as, ∀ b, P a b → f (g b) = .ok a) : (bs.map g).mapM f = .ok as := by
  induction h with
  | nil => rfl
  | cons hab _ ih =>
    rw [List.map_cons, List.mapM_cons, hf _ List.mem_cons_self _ hab, bind_ok,
      ih fun a ha => hf a (List.mem_cons_of_mem _ ha)]
    rfl

/-- The kinds are told apart by their words. -/
theorem FieldKind.ofValue?_name (kind : FieldKind) : ofValue? (.str kind.name) = some kind := by
  cases kind <;> decide

/-- What counts as true under `relationName` is a name. -/
theorem Field.DescribedBy.truthy_relationName {f : Field} (h : f.DescribedBy node)
    (hflag : f.isRelation.isFlag = true) :
    Value.bool ((Value.object node).fieldOr "relationName" .null).truthy = f.isRelation := by
  obtain ⟨b, hb⟩ := Value.isFlag_iff.1 hflag
  rw [hb, Value.fieldOr]
  cases b with
  | true =>
    obtain ⟨name, hname, hget⟩ := h.relation hb
    obtain ⟨c, cs, rfl⟩ := List.exists_cons_of_ne_nil hname
    rw [hget]
    rfl
  | false =>
    cases hget : Entries.get? node "relationName" with
    | none => rfl
    | some v => rcases h.noRelation hb v hget with rfl | rfl <;> rfl

theorem Field.ofNode_of_describedBy {f : Field} (hf : f.isRegular = true)
    (h : f.DescribedBy node) {model : Value} (hmodel : model.isText = true) :
    Field.ofNode model (.object node) = .ok f := by
  obtain ⟨htextual, hlist, hrequired, hrelation, -⟩ := isRegular_iff.1 hf
  have hname := Value.isPrintable_of_isText (isTextual_iff.1 htextual).1
  rw [ofNode, Value.print_eq (Value.isPrintable_of_isText hmodel), ofFault_ok, bind_ok,
    Value.require_eq_ok h.name, bind_ok, Value.print_eq hname, ofFault_ok, bind_ok,
    h.kind.fieldOr_eq]
  simp only [FieldKind.ofValue?_name]
  rw [Value.require_eq_ok h.type, bind_ok, h.isList.fieldOr_eq, h.isRequired.fieldOr_eq,
    h.truthy_relationName hrelation, h.documentation.fieldOr_eq, Value.bool_truthy hlist,
    Value.bool_truthy hrequired]
  rfl

theorem Entity.ofNode_of_describedBy {e : Entity} (he : e.isRegular = true)
    (h : e.DescribedBy node) : Entity.ofNode (.object node) = .ok e := by
  obtain ⟨hname, hfields, -⟩ := isRegular_iff.1 he
  obtain ⟨nodes, hnodes, hgives⟩ := h.fields
  have hread : (nodes.map Value.object).mapM (Field.ofNode e.name) = .ok e.fields :=
    mapM_of_forall₂ hnodes fun f hf node hnode => Field.ofNode_of_describedBy (hfields f hf) hnode hname
  rw [ofNode, Value.require_eq_ok h.name, bind_ok, hgives.fieldOr_eq]
  show (nodes.map Value.object).mapM (Field.ofNode e.name) >>= _ = _
  rw [hread, bind_ok, h.documentation.fieldOr_eq]
  rfl

theorem enumValueOfNode_of_spells {v given : Value} (h : EnumType.Spells v given) {enum : Value}
    (henum : enum.isText = true) : enumValueOfNode enum given = .ok v := by
  cases h with
  | text t =>
    show (do return Value.str (← Trouble.ofFault (Value.str t).print) : SchemaReading Value) = _
    rw [Value.print_str, ofFault_ok]
    rfl
  | named hname =>
    rw [enumValueOfNode, Value.print_eq (Value.isPrintable_of_isText henum), ofFault_ok, bind_ok]
    exact Value.require_eq_ok hname _

theorem EnumType.ofNode_of_describedBy {e : EnumType} (he : e.isRegular = true)
    (h : e.DescribedBy node) : EnumType.ofNode (.object node) = .ok e := by
  obtain ⟨nodes, hnodes, hgives⟩ := h.values
  have hread : (nodes.map id).mapM (enumValueOfNode e.name) = .ok e.values :=
    mapM_of_forall₂ hnodes fun v _ node hnode =>
      enumValueOfNode_of_spells hnode (isRegular_iff.1 he).1
  rw [List.map_id] at hread
  rw [ofNode, Value.require_eq_ok h.name, bind_ok, hgives.fieldOr_eq]
  show nodes.mapM (enumValueOfNode e.name) >>= _ = _
  rw [hread, bind_ok, h.documentation.fieldOr_eq]
  rfl

/-- An object that lists a model is read as the model, wherever in the document it is. -/
theorem Model.ofDocument_of_datamodelOf {m : Model} (hm : m.isRegular = true)
    (h : m.DescribedBy node) {document : Value} (hdocument : datamodelOf document =
      .ok (.object node)) : Model.ofDocument document = .ok m := by
  obtain ⟨hentities, hregular⟩ := isRegular_iff.1 hm
  obtain ⟨models, hmodels, hgivesModels⟩ := h.entities
  obtain ⟨enums, henums, hgivesEnums⟩ := h.enums
  have hreadModels : (models.map Value.object).mapM Entity.ofNode = .ok m.entities :=
    mapM_of_forall₂ hmodels fun e he node hnode =>
      Entity.ofNode_of_describedBy (hentities e he) hnode
  have hreadEnums : (enums.map Value.object).mapM EnumType.ofNode = .ok m.enums :=
    mapM_of_forall₂ henums fun e he node hnode =>
      EnumType.ofNode_of_describedBy (hregular e he) hnode
  rw [ofDocument, hdocument, bind_ok, hgivesModels.fieldOr_eq, hgivesEnums.fieldOr_eq]
  show (models.map Value.object).mapM Entity.ofNode >>= _ = _
  rw [hreadModels, bind_ok]
  show (enums.map Value.object).mapM EnumType.ofNode >>= _ = _
  rw [hreadEnums]
  rfl

end Reading

/-! ## A document for every model -/

/-- An object that describes a field, with nothing left out. -/
def Field.toNode (f : Field) : Entries Text Value :=
  [("name", f.name), ("kind", .str f.kind.name), ("type", f.type), ("isList", f.isList),
   ("isRequired", f.isRequired), ("documentation", f.documentation),
   ("relationName", .str (if f.isRelation.truthy then ("Relation" : Text) else []))]

/-- An object that describes an entity. -/
def Entity.toNode (e : Entity) : Entries Text Value :=
  [("name", e.name), ("fields", .list (e.fields.map fun f => .object f.toNode)),
   ("documentation", e.documentation)]

/-- An object that describes an enum, with its values as texts. -/
def EnumType.toNode (e : EnumType) : Entries Text Value :=
  [("name", e.name), ("values", .list e.values), ("documentation", e.documentation)]

/-- An object that lists the entities and enums of a model. -/
def Model.toDocument (m : Model) : Entries Text Value :=
  [("models", .list (m.entities.map fun e => .object e.toNode)),
   ("enums", .list (m.enums.map fun e => .object e.toNode))]

theorem Field.describedBy_toNode (f : Field) : f.DescribedBy f.toNode := by
  refine ⟨rfl, rfl, .inl rfl, .inl rfl, .inl rfl, fun hrelation => ?_, fun hrelation v hget => ?_,
    .inl rfl⟩
  · rw [toNode, hrelation]
    exact ⟨"Relation", by decide, rfl⟩
  · rw [toNode, hrelation] at hget
    exact .inl (Option.some.inj hget).symm

theorem Entity.describedBy_toNode (e : Entity) : e.DescribedBy e.toNode := by
  refine ⟨rfl, ⟨e.fields.map Field.toNode, ?_, ?_⟩, .inl rfl⟩
  · rw [List.forall₂_map_right_iff, List.forall₂_same]
    exact fun f _ => f.describedBy_toNode
  · rw [List.map_map]
    exact .inl rfl

theorem EnumType.describedBy_toNode {e : EnumType} (he : e.isRegular = true) :
    e.DescribedBy e.toNode := by
  refine ⟨rfl, ⟨e.values, ?_, .inl rfl⟩, .inl rfl⟩
  rw [List.forall₂_same]
  intro v hv
  obtain ⟨t, rfl⟩ := Value.isText_iff.1 ((isRegular_iff.1 he).2.1 v hv)
  exact .text t

theorem Model.describedBy_toDocument {m : Model} (hm : m.isRegular = true) :
    m.DescribedBy m.toDocument := by
  refine ⟨⟨m.entities.map Entity.toNode, ?_, ?_⟩, ⟨m.enums.map EnumType.toNode, ?_, ?_⟩⟩
  · rw [List.forall₂_map_right_iff, List.forall₂_same]
    exact fun e _ => e.describedBy_toNode
  · rw [List.map_map]
    exact .inl rfl
  · rw [List.forall₂_map_right_iff, List.forall₂_same]
    exact fun e he => EnumType.describedBy_toNode ((isRegular_iff.1 hm).2 e he)
  · rw [List.map_map]
    exact .inl rfl

/-! ## Reading a described model -/

/-- Every regular model is described by an object, and read back from every object that describes
it : from the object as the document, if that has no key `datamodel` of its own, and from every
document that has the object under this key. -/
theorem Model.ofDocument_of_describedBy {m : Model} (hm : m.isRegular = true) :
    (m.DescribedBy m.toDocument ∧ Entries.get? m.toDocument "datamodel" = none) ∧
    ∀ node, m.DescribedBy node →
      (Entries.get? node "datamodel" = none → ofDocument (.object node) = .ok m) ∧
      ∀ document : Entries Text Value,
        Entries.get? document "datamodel" = some (.object node) →
          ofDocument (.object document) = .ok m := by
  refine ⟨⟨describedBy_toDocument hm, rfl⟩, fun node h =>
    ⟨fun hnone => ?_, fun document hsome => ?_⟩⟩
  · refine ofDocument_of_datamodelOf hm h ?_
    simp only [datamodelOf, Value.fieldOr, hnone, Option.getD_none]
    rfl
  · refine ofDocument_of_datamodelOf hm h ?_
    simp only [datamodelOf, Value.fieldOr, hsome, Option.getD_some]
    rfl

/-- A model with a list of relations, a scalar field that is required, and an enum. -/
def Model.sampleLibrary : Model :=
  { entities :=
      [{ name := .str "Author", documentation := .str "Writes."
         fields :=
          [{ name := .str "id", type := .str "Int", isRequired := .bool true },
           { name := .str "books", type := .str "Book", kind := .object, isList := .bool true
             isRelation := .bool true }] }]
    enums := [{ name := .str "Genre", values := [.str "PROSE", .str "VERSE"] }] }

/-- A document of that model : kinds, flags and documentation are left out where they can be, enum
values are spelled in both ways, and there are keys that are not read. -/
def Model.sampleLibraryNode : Entries Text Value :=
  [("enums", .list [.object
      [("values", .list [.str "PROSE", .object [("dbName", .null), ("name", .str "VERSE")]]),
       ("name", .str "Genre")]]),
   ("models", .list [.object
      [("documentation", .str "Writes."), ("name", .str "Author"), ("isEmbedded", .bool false),
       ("fields", .list
        [.object [("name", .str "id"), ("isRequired", .bool true), ("type", .str "Int"),
          ("isId", .bool true)],
         .object [("relationName", .str "written"), ("type", .str "Book"), ("isList", .bool true),
          ("kind", .str "object"), ("name", .str "books"), ("documentation", .null)]])]])]

theorem Model.describedBy_sampleLibraryNode : sampleLibrary.DescribedBy sampleLibraryNode := by
  have hid : Field.DescribedBy { name := .str "id", type := .str "Int", isRequired := .bool true }
      [("name", .str "id"), ("isRequired", .bool true), ("type", .str "Int"),
        ("isId", .bool true)] :=
    ⟨rfl, rfl, .inr ⟨rfl, rfl⟩, .inr ⟨rfl, rfl⟩, .inl rfl, fun h => (by cases h),
      fun _ _ h => (by cases h), .inr ⟨rfl, rfl⟩⟩
  have hbooks : Field.DescribedBy
      { name := .str "books", type := .str "Book", kind := .object, isList := .bool true
        isRelation := .bool true }
      [("relationName", .str "written"), ("type", .str "Book"), ("isList", .bool true),
        ("kind", .str "object"), ("name", .str "books"), ("documentation", .null)] :=
    ⟨rfl, rfl, .inl rfl, .inl rfl, .inr ⟨rfl, rfl⟩, fun _ => ⟨"written", by decide, rfl⟩,
      fun h => (by cases h), .inl rfl⟩
  refine ⟨⟨[_], .cons ⟨rfl, ⟨[_, _], .cons hid (.cons hbooks .nil), .inl rfl⟩, .inl rfl⟩ .nil,
    .inl rfl⟩, ⟨[_], .cons ⟨rfl, ⟨_, ?_, .inl rfl⟩, .inr ⟨rfl, rfl⟩⟩ .nil, .inl rfl⟩⟩
  exact .cons (.text "PROSE") (.cons (.named rfl) .nil)

theorem Model.ofDocument_sampleLibraryNode : sampleLibrary.isRegular = true ∧
    sampleLibrary.DescribedBy sampleLibraryNode ∧
    ofDocument (.object sampleLibraryNode) = .ok sampleLibrary ∧
    ofDocument (.object [("version", .int 2), ("datamodel", .object sampleLibraryNode)]) =
      .ok sampleLibrary := by
  have hm : sampleLibrary.isRegular = true := by decide
  have hread := (ofDocument_of_describedBy hm).2 sampleLibraryNode describedBy_sampleLibraryNode
  exact ⟨hm, describedBy_sampleLibraryNode, hread.1 rfl, hread.2 _ rfl⟩

end DtoPress
