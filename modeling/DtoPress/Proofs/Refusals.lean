import DtoPress.Proofs.Descriptions
import DtoPress.Proofs.Documents
import DtoPress.Proofs.Places

/-!
# What documents are refused for

A document of lists and objects is complete if its nodes have what they must have
(`Value.IsComplete`). `Value.FlawAt` says what is missing otherwise and where, in the words of the
error and without the reader : models come before enums, the name of a model before its fields, and
in a field the name before the kind before the type. A name, a kind or a value of an enum that has
no text is a flaw too, a fault at the place where its text is made. The reader goes through the
document in this order and stops where it finds something. `Model.ofDocument_refuses_first` : what
can be printed, such as all that is read from JSON, gives a model if and only if it is complete,
and is refused with the words of the flaw that comes before all others; any other document stops at
its first flaw as well, be it a fault.
-/

set_option linter.unusedSectionVars false

namespace DtoPress

/-! ## Trees of objects and lists -/

namespace Value

/-- What stands under a key. -/
def at? (v : Value) (key : Text) : Option Value :=
  match v with
  | .object fields => Entries.get? fields key
  | _ => none

/-- Something stands under the key. -/
def has (v : Value) (key : Text) : Bool :=
  (v.at? key).isSome

/-- The items of the list under a key. -/
def itemsAt (v : Value) (key : Text) : List Value :=
  match v.fieldOr key (.list []) with
  | .list items => items
  | _ => []

/-- An object with a list of objects as its fields, if it has fields. -/
def isModelTree (v : Value) : Bool :=
  v.isObject && (v.fieldOr "fields" (.list [])).isListOf isObject

/-- An object with a list as its values, if it has values. -/
def isEnumTree (v : Value) : Bool :=
  v.isObject && (v.fieldOr "values" (.list [])).isListOf fun _ => true

/-- An object with lists of models and of enums, where it has them. -/
def isDatamodelTree (v : Value) : Bool :=
  v.isObject && (v.fieldOr "models" (.list [])).isListOf isModelTree
    && (v.fieldOr "enums" (.list [])).isListOf isEnumTree

/-- The data model of a document : what stands under `datamodel`, or the document itself. -/
def datamodel (document : Value) : Value :=
  document.fieldOr "datamodel" document

/-- A document that is an object, as is its data model, which has lists and objects where they are
expected. -/
def isDocumentTree (document : Value) : Bool :=
  document.isObject && document.datamodel.isDatamodelTree

/-! ## Flaws and their places -/

/-- The name of a node, and null for a node without a name. A flaw that comes first is worded with
names that are there, since a missing name comes before what needs it. -/
def nameOf (node : Value) : Value :=
  (node.at? "name").getD .null

/-- Every model, field, enum and enum value that is an object has a name, every field has a type,
and every kind that is given is one of the three. -/
structure IsComplete (datamodel : Value) : Prop where
  models : ∀ model ∈ datamodel.itemsAt "models", model.has "name" = true
  fields : ∀ model ∈ datamodel.itemsAt "models", ∀ field ∈ model.itemsAt "fields",
    field.has "name" = true ∧ field.has "type" = true ∧
      ∀ kind, field.at? "kind" = some kind → ∃ k : FieldKind, kind = .str k.name
  enums : ∀ enum ∈ datamodel.itemsAt "enums", enum.has "name" = true
  values : ∀ enum ∈ datamodel.itemsAt "enums", ∀ value ∈ enum.itemsAt "values",
    value.isObject = true → value.has "name" = true

/-- Something is missing or wrong at a place in a data model, or has no text where its text is
made : the words of the error, or the fault. Round 0 is over the models, with fields as their parts,
round 1 over the enums, with values as their parts. -/
inductive FlawAt (datamodel : Value) : Place → Trouble Text → Prop
  | unnamedModel {i : Nat} {model : Value} (hmodel : (datamodel.itemsAt "models")[i]? = some model)
    (hname : model.has "name" = false) :
    FlawAt datamodel (.ofItem 0 i) (.cause "Missing 'name' in model")
  | unprintedModel {i j : Nat} {model field : Value} {f : Fault}
    (hmodel : (datamodel.itemsAt "models")[i]? = some model)
    (hfield : (model.itemsAt "fields")[j]? = some field) (hprint : model.nameOf.print = .error f) :
    FlawAt datamodel (.ofPart 0 i j 0) (.fault f)
  | unnamedField {i j : Nat} {model field : Value}
    (hmodel : (datamodel.itemsAt "models")[i]? = some model)
    (hfield : (model.itemsAt "fields")[j]? = some field) (hname : field.has "name" = false) :
    FlawAt datamodel (.ofPart 0 i j 1)
      (.cause ("Missing 'name' in field of model '" ++ model.nameOf.text ++ "'"))
  | unprintedField {i j : Nat} {model field : Value} {f : Fault}
    (hmodel : (datamodel.itemsAt "models")[i]? = some model)
    (hfield : (model.itemsAt "fields")[j]? = some field) (hprint : field.nameOf.print = .error f) :
    FlawAt datamodel (.ofPart 0 i j 2) (.fault f)
  | unprintedKind {i j : Nat} {model field kind : Value} {f : Fault}
    (hmodel : (datamodel.itemsAt "models")[i]? = some model)
    (hfield : (model.itemsAt "fields")[j]? = some field) (hkind : field.at? "kind" = some kind)
    (hunknown : ∀ k : FieldKind, kind ≠ .str k.name) (hprint : kind.print = .error f) :
    FlawAt datamodel (.ofPart 0 i j 3) (.fault f)
  | unknownKind {i j : Nat} {model field kind : Value}
    (hmodel : (datamodel.itemsAt "models")[i]? = some model)
    (hfield : (model.itemsAt "fields")[j]? = some field) (hkind : field.at? "kind" = some kind)
    (hunknown : ∀ k : FieldKind, kind ≠ .str k.name) :
    FlawAt datamodel (.ofPart 0 i j 4) (.cause ("Unknown kind '" ++ kind.text ++
      "' for field '" ++ model.nameOf.text ++ "." ++ field.nameOf.text ++ "'"))
  | untypedField {i j : Nat} {model field : Value}
    (hmodel : (datamodel.itemsAt "models")[i]? = some model)
    (hfield : (model.itemsAt "fields")[j]? = some field) (htype : field.has "type" = false) :
    FlawAt datamodel (.ofPart 0 i j 5) (.cause ("Missing 'type' in field '" ++
      model.nameOf.text ++ "." ++ field.nameOf.text ++ "'"))
  | unnamedEnum {k : Nat} {enum : Value} (henum : (datamodel.itemsAt "enums")[k]? = some enum)
    (hname : enum.has "name" = false) :
    FlawAt datamodel (.ofItem 1 k) (.cause "Missing 'name' in enum")
  | unprintedEnum {k j : Nat} {enum value : Value} {f : Fault}
    (henum : (datamodel.itemsAt "enums")[k]? = some enum)
    (hvalue : (enum.itemsAt "values")[j]? = some value) (hobject : value.isObject = true)
    (hprint : enum.nameOf.print = .error f) : FlawAt datamodel (.ofPart 1 k j 0) (.fault f)
  | unprintedValue {k j : Nat} {enum value : Value} {f : Fault}
    (henum : (datamodel.itemsAt "enums")[k]? = some enum)
    (hvalue : (enum.itemsAt "values")[j]? = some value) (hobject : value.isObject = false)
    (hprint : value.print = .error f) : FlawAt datamodel (.ofPart 1 k j 1) (.fault f)
  | unnamedEnumValue {k j : Nat} {enum value : Value}
    (henum : (datamodel.itemsAt "enums")[k]? = some enum)
    (hvalue : (enum.itemsAt "values")[j]? = some value) (hobject : value.isObject = true)
    (hname : value.has "name" = false) : FlawAt datamodel (.ofPart 1 k j 2)
      (.cause ("Missing 'name' in value of enum '" ++ enum.nameOf.text ++ "'"))

end Value

/-! ## Readings that stop at the first error -/

/-- An error in its own words. -/
def Trouble.worded (e : Trouble SchemaError) : Trouble Text :=
  e.map SchemaError.message

section StopsAtFirst

variable {α β : Type}

/-- The reading succeeds if there is no error in the list, and ends with the first one otherwise. -/
def StopsAtFirst (errors : List (Trouble Text)) : SchemaReading α → Prop
  | .ok _ => errors = []
  | .error e => errors.head? = some e.worded

theorem StopsAtFirst.bind {errors more : List (Trouble Text)} {r : SchemaReading α}
    {f : α → SchemaReading β} (h : StopsAtFirst errors r)
    (hf : ∀ a, r = .ok a → StopsAtFirst more (f a)) : StopsAtFirst (errors ++ more) (r >>= f) := by
  match r, h with
  | .ok a, h =>
    obtain rfl : errors = [] := h
    exact hf a rfl
  | .error e, h =>
    have hhead : errors.head? = some e.worded := h
    show (errors ++ more).head? = some e.worded
    rw [List.head?_append, hhead]
    rfl

/-- What cannot fail behind a reading leaves its errors as they are. -/
theorem StopsAtFirst.bind_ok {errors : List (Trouble Text)} {r : SchemaReading α}
    (h : StopsAtFirst errors r) (f : α → β) : StopsAtFirst errors (r >>= fun a => .ok (f a)) := by
  match r, h with
  | .ok a, h => exact h
  | .error e, h => exact h

theorem StopsAtFirst.isOk_iff {errors : List (Trouble Text)} {r : SchemaReading α}
    (h : StopsAtFirst errors r) : (∃ a, r = .ok a) ↔ errors = [] := by
  match r, h with
  | .ok a, h => exact ⟨fun _ => h, fun _ => ⟨a, rfl⟩⟩
  | .error e, h =>
    refine ⟨fun ⟨a, ha⟩ => (by cases ha), ?_⟩
    rintro rfl
    cases h

theorem StopsAtFirst.exists_error {first : Trouble Text} {rest : List (Trouble Text)}
    {r : SchemaReading α} (h : StopsAtFirst (first :: rest) r) :
    ∃ e : Trouble SchemaError, r = .error e ∧ e.worded = first := by
  match r, h with
  | .ok a, h => cases h
  | .error e, h => exact ⟨e, rfl, (Option.some.inj h).symm⟩

/-- A check of each item stops at the first error that is found in any of them. -/
theorem stopsAtFirst_findEach {check : β → SchemaReading α}
    {find : Nat → β → List (Place × Trouble Text)} {l : List β}
    (h : ∀ b ∈ l, ∀ i, StopsAtFirst ((find i b).map Prod.snd) (check b)) :
    StopsAtFirst ((findEach find l).map Prod.snd) (l.mapM check) := by
  have hfrom : ∀ (l : List β) (start : Nat),
      (∀ b ∈ l, ∀ i, StopsAtFirst ((find i b).map Prod.snd) (check b)) →
        StopsAtFirst (((l.zipIdx start).flatMap fun x => find x.2 x.1).map Prod.snd)
          (l.mapM check) := by
    intro l
    induction l with
    | nil => exact fun _ _ => rfl
    | cons b l ih =>
      intro start hl
      obtain ⟨hb, hl⟩ := List.forall_mem_cons.1 hl
      rw [List.zipIdx_cons, List.flatMap_cons, List.map_append, List.mapM_cons]
      exact (hb start).bind fun a _ => (ih (start + 1) hl).bind_ok fun as => a :: as
  exact hfrom l 0 h

end StopsAtFirst

/-! ## Findings -/

/-- The kind that a node gives, scalar where it gives none. -/
def Value.kindOf (node : Value) : Value :=
  node.fieldOr "kind" (.str "scalar")

/-- A text that cannot be made at a place, if it is made there. -/
def findFault (isMade : Bool) (p : Place) : Except Fault Text → List (Place × Trouble Text)
  | .error f => findIf isMade p (.fault f)
  | .ok _ => []

@[simp] theorem mem_findFault {isMade : Bool} {p : Place} {r : Except Fault Text}
    {x : Place × Trouble Text} :
    x ∈ findFault isMade p r ↔ isMade = true ∧ ∃ f, r = .error f ∧ x = (p, .fault f) := by
  cases r <;> simp [findFault]

theorem orderly_findFault {At : Place → Prop} {p : Place} (h : At p) (isMade : Bool) :
    ∀ r : Except Fault Text, Orderly At (findFault isMade p r)
  | .error f => orderly_findIf h isMade (Trouble.fault f)
  | .ok _ => ⟨.nil, fun _ hx => by cases hx⟩

/-- What is wrong with the kind of a field. -/
def Field.kindFlaws (model : Value) (i j : Nat) (node : Value) : List (Place × Trouble Text) :=
  let isUnknown := (FieldKind.ofValue? node.kindOf).isNone
  findFault isUnknown (.ofPart 0 i j 3) node.kindOf.print
    ++ findIf isUnknown (.ofPart 0 i j 4) (.cause ("Unknown kind '" ++ node.kindOf.text ++
      "' for field '" ++ model.text ++ "." ++ node.nameOf.text ++ "'"))

/-- What is wrong with the field `j` of the model `i`. -/
def Field.flaws (model : Value) (i j : Nat) (node : Value) : List (Place × Trouble Text) :=
  findFault true (.ofPart 0 i j 0) model.print
    ++ (findIf (!node.has "name") (.ofPart 0 i j 1)
        (.cause ("Missing 'name' in field of model '" ++ model.text ++ "'"))
      ++ (findFault true (.ofPart 0 i j 2) node.nameOf.print
        ++ (kindFlaws model i j node
          ++ findIf (!node.has "type") (.ofPart 0 i j 5)
            (.cause ("Missing 'type' in field '" ++ model.text ++ "." ++ node.nameOf.text ++ "'")))))

/-- What is wrong with the model `i`. -/
def Entity.flaws (i : Nat) (node : Value) : List (Place × Trouble Text) :=
  findIf (!node.has "name") (.ofItem 0 i) (.cause "Missing 'name' in model")
    ++ findEach (Field.flaws node.nameOf i) (node.itemsAt "fields")

/-- What is wrong with the value `j` of the enum `k`. -/
def EnumType.valueFlaws (enum : Value) (k j : Nat) (value : Value) : List (Place × Trouble Text) :=
  findFault value.isObject (.ofPart 1 k j 0) enum.print
    ++ (findFault (!value.isObject) (.ofPart 1 k j 1) value.print
      ++ findIf (value.isObject && !value.has "name") (.ofPart 1 k j 2)
        (.cause ("Missing 'name' in value of enum '" ++ enum.text ++ "'")))

/-- What is wrong with the enum `k`. -/
def EnumType.flaws (k : Nat) (node : Value) : List (Place × Trouble Text) :=
  findIf (!node.has "name") (.ofItem 1 k) (.cause "Missing 'name' in enum")
    ++ findEach (valueFlaws node.nameOf k) (node.itemsAt "values")

/-- What is wrong with a data model, round by round. -/
def Value.flaws (datamodel : Value) : List (Place × Trouble Text) :=
  findEach Entity.flaws (datamodel.itemsAt "models")
    ++ findEach EnumType.flaws (datamodel.itemsAt "enums")

/-! ## The findings are the flaws -/

namespace FieldKind

/-- The kinds are named by their words and by nothing else. -/
theorem ofValue?_eq_some_iff {v : Value} {k : FieldKind} :
    ofValue? v = some k ↔ v = .str k.name := by
  refine ⟨fun h => ?_, fun h => h ▸ ofValue?_name k⟩
  cases v with
  | str word =>
    have hword : (Text.ofString k.name == word) = true :=
      List.find?_some (p := fun k : FieldKind => Text.ofString k.name == word) h
    rw [eq_of_beq hword]
  | _ => cases h

theorem ofValue?_eq_none_iff {v : Value} :
    ofValue? v = none ↔ ∀ k : FieldKind, v ≠ .str k.name := by
  rw [Option.eq_none_iff_forall_ne_some]
  exact forall_congr' fun k => not_congr ofValue?_eq_some_iff

end FieldKind

namespace Value

variable {datamodel : Value}

theorem fieldOr_eq_getD (v : Value) (key : Text) (usual : Value) :
    v.fieldOr key usual = (v.at? key).getD usual := by
  cases v <;> rfl

theorem kindOf_eq {node kind : Value} (h : node.at? "kind" = some kind) : node.kindOf = kind := by
  rw [kindOf, fieldOr_eq_getD, h]
  rfl

/-- A kind that is unknown is one that was given. -/
theorem exists_kind_of_isNone {node : Value} (h : (FieldKind.ofValue? node.kindOf).isNone = true) :
    node.at? "kind" = some node.kindOf ∧ ∀ k : FieldKind, node.kindOf ≠ .str k.name := by
  have hunknown := FieldKind.ofValue?_eq_none_iff.1 (Option.isNone_iff_eq_none.1 h)
  refine ⟨?_, hunknown⟩
  cases hkind : node.at? "kind" with
  | none =>
    refine absurd ?_ (hunknown .scalar)
    rw [kindOf, fieldOr_eq_getD, hkind]
    rfl
  | some kind => rw [kindOf_eq hkind]

theorem flawAt_of_mem_flaws {p : Place} {e : Trouble Text} (h : (p, e) ∈ datamodel.flaws) :
    datamodel.FlawAt p e := by
  simp only [flaws, Entity.flaws, EnumType.flaws, EnumType.valueFlaws, Field.flaws, Field.kindFlaws,
    List.mem_append, mem_findEach, mem_findIf, mem_findFault, Prod.mk.injEq, Bool.and_eq_true,
    Bool.not_eq_true', true_and] at h
  rcases h with ⟨i, model, hmodel, h⟩ | ⟨k, enum, henum, h⟩
  · rcases h with ⟨hname, rfl, rfl⟩ | ⟨j, field, hfield, h⟩
    · exact .unnamedModel hmodel hname
    · rcases h with ⟨f, hprint, rfl, rfl⟩ | ⟨hname, rfl, rfl⟩ | ⟨f, hprint, rfl, rfl⟩ |
        (⟨hkind, f, hprint, rfl, rfl⟩ | ⟨hkind, rfl, rfl⟩) | ⟨htype, rfl, rfl⟩
      · exact .unprintedModel hmodel hfield hprint
      · exact .unnamedField hmodel hfield hname
      · exact .unprintedField hmodel hfield hprint
      · obtain ⟨hgiven, hunknown⟩ := exists_kind_of_isNone hkind
        exact .unprintedKind hmodel hfield hgiven hunknown hprint
      · obtain ⟨hgiven, hunknown⟩ := exists_kind_of_isNone hkind
        exact .unknownKind hmodel hfield hgiven hunknown
      · exact .untypedField hmodel hfield htype
  · rcases h with ⟨hname, rfl, rfl⟩ | ⟨j, value, hvalue, h⟩
    · exact .unnamedEnum henum hname
    · rcases h with ⟨hobject, f, hprint, rfl, rfl⟩ | ⟨hobject, f, hprint, rfl, rfl⟩ |
        ⟨⟨hobject, hname⟩, rfl, rfl⟩
      · exact .unprintedEnum henum hvalue hobject hprint
      · exact .unprintedValue henum hvalue hobject hprint
      · exact .unnamedEnumValue henum hvalue hobject hname

theorem mem_flaws_of_flawAt {p : Place} {e : Trouble Text} (h : datamodel.FlawAt p e) :
    (p, e) ∈ datamodel.flaws := by
  have hisNone {kind : Value} (hunknown : ∀ k : FieldKind, kind ≠ .str k.name) :
      (FieldKind.ofValue? kind).isNone = true :=
    Option.isNone_iff_eq_none.2 (FieldKind.ofValue?_eq_none_iff.2 hunknown)
  -- A flaw of a field is one in some field of some model, and one of a value likewise.
  have hfield {i j : Nat} {model field : Value}
      (hmodel : (datamodel.itemsAt "models")[i]? = some model)
      (hfield : (model.itemsAt "fields")[j]? = some field)
      (h : (p, e) ∈ Field.flaws model.nameOf i j field) : (p, e) ∈ datamodel.flaws :=
    List.mem_append_left _ (mem_findEach.2 ⟨i, model, hmodel,
      List.mem_append_right _ (mem_findEach.2 ⟨j, field, hfield, h⟩)⟩)
  have hvalue {k j : Nat} {enum value : Value}
      (henum : (datamodel.itemsAt "enums")[k]? = some enum)
      (hvalue : (enum.itemsAt "values")[j]? = some value)
      (h : (p, e) ∈ EnumType.valueFlaws enum.nameOf k j value) : (p, e) ∈ datamodel.flaws :=
    List.mem_append_right _ (mem_findEach.2 ⟨k, enum, henum,
      List.mem_append_right _ (mem_findEach.2 ⟨j, value, hvalue, h⟩)⟩)
  cases h with
  | unnamedModel hmodel hname =>
    exact List.mem_append_left _ (mem_findEach.2 ⟨_, _, hmodel,
      List.mem_append_left _ (by simp [hname])⟩)
  | unprintedModel hmodel hf hprint => exact hfield hmodel hf (by simp [Field.flaws, hprint])
  | unnamedField hmodel hf hname => exact hfield hmodel hf (by simp [Field.flaws, hname])
  | unprintedField hmodel hf hprint => exact hfield hmodel hf (by simp [Field.flaws, hprint])
  | unprintedKind hmodel hf hkind hunknown hprint =>
    exact hfield hmodel hf
      (by simp [Field.flaws, Field.kindFlaws, kindOf_eq hkind, hisNone hunknown, hprint])
  | unknownKind hmodel hf hkind hunknown =>
    exact hfield hmodel hf
      (by simp [Field.flaws, Field.kindFlaws, kindOf_eq hkind, hisNone hunknown])
  | untypedField hmodel hf htype => exact hfield hmodel hf (by simp [Field.flaws, htype])
  | unnamedEnum henum hname =>
    exact List.mem_append_right _ (mem_findEach.2 ⟨_, _, henum,
      List.mem_append_left _ (by simp [hname])⟩)
  | unprintedEnum henum hv hobject hprint =>
    exact hvalue henum hv (by simp [EnumType.valueFlaws, hobject, hprint])
  | unprintedValue henum hv hobject hprint =>
    exact hvalue henum hv (by simp [EnumType.valueFlaws, hobject, hprint])
  | unnamedEnumValue henum hv hobject hname =>
    exact hvalue henum hv (by simp [EnumType.valueFlaws, hobject, hname])

end Value

/-! ## The findings are in order -/

/-- Findings of one aspect of a part, in front of findings of later aspects. -/
theorem Orderly.append_aspects {round i j k l : Nat} (hkl : k < l)
    {found more : List (Place × Trouble Text)}
    (hfound : Orderly (fun p => p.InPart round i j ∧ p.aspect = k) found)
    (hmore : Orderly (fun p => p.InPart round i j ∧ l ≤ p.aspect) more) :
    Orderly (fun p => p.InPart round i j ∧ k ≤ p.aspect) (found ++ more) := by
  refine hfound.append hmore (fun p q hp hq => ?_) (fun p hp => ?_) fun p hp => ?_
  all_goals simp only [Place.InPart, Place.Before] at *; omega

theorem Orderly.of_aspect {round i j k : Nat} {found : List (Place × Trouble Text)}
    (h : Orderly (fun p => p.InPart round i j ∧ p.aspect = k) found) :
    Orderly (fun p => p.InPart round i j ∧ k ≤ p.aspect) found :=
  ⟨h.ordered, fun x hx => ⟨(h.places x hx).1, Nat.le_of_eq (h.places x hx).2.symm⟩⟩

theorem orderly_faultAspect (round : Nat) {i j k : Nat} (isMade : Bool)
    (r : Except Fault Text) :
    Orderly (fun p => p.InPart round i j ∧ p.aspect = k)
      (findFault isMade (.ofPart round i j k) r) :=
  orderly_findFault ⟨⟨rfl, rfl, rfl⟩, rfl⟩ isMade r

theorem Field.orderly_flaws (model : Value) (i j : Nat) (node : Value) :
    Orderly (Place.InPart 0 i j) (Field.flaws model i j node) := by
  have htype : Orderly (fun p => p.InPart 0 i j ∧ 5 ≤ p.aspect)
      (findIf (!node.has "type") (.ofPart 0 i j 5) (Trouble.cause ("Missing 'type' in field '" ++
        model.text ++ "." ++ node.nameOf.text ++ "'"))) := (orderly_aspect _ _).of_aspect
  have hkind : Orderly (fun p => p.InPart 0 i j ∧ 3 ≤ p.aspect) (kindFlaws model i j node ++
      findIf (!node.has "type") (.ofPart 0 i j 5) (.cause ("Missing 'type' in field '" ++
        model.text ++ "." ++ node.nameOf.text ++ "'"))) := by
    rw [kindFlaws, List.append_assoc]
    exact Orderly.append_aspects (by decide) (orderly_faultAspect 0 _ _)
      (Orderly.append_aspects (by decide) (orderly_aspect _ _) htype)
  have hall := Orderly.append_aspects (k := 0) (by decide)
    (orderly_faultAspect 0 (i := i) (j := j) true model.print)
    (Orderly.append_aspects (k := 1) (by decide) (orderly_aspect (!node.has "name")
        (.cause ("Missing 'name' in field of model '" ++ model.text ++ "'")))
      (Orderly.append_aspects (k := 2) (by decide)
        (orderly_faultAspect 0 true node.nameOf.print) hkind))
  exact ⟨hall.ordered, fun x hx => (hall.places x hx).1⟩

theorem Entity.orderly_flaws (i : Nat) (node : Value) :
    Orderly (Place.InItem 0 i) (Entity.flaws i node) :=
  orderly_item _ _ fun j field => Field.orderly_flaws node.nameOf i j field

theorem EnumType.orderly_valueFlaws (enum : Value) (k j : Nat) (value : Value) :
    Orderly (Place.InPart 1 k j) (valueFlaws enum k j value) := by
  have hall := Orderly.append_aspects (k := 0) (by decide)
    (orderly_faultAspect 1 (i := k) (j := j) value.isObject enum.print)
    (Orderly.append_aspects (k := 1) (by decide)
      (orderly_faultAspect 1 (!value.isObject) value.print)
      (orderly_aspect (k := 2) (value.isObject && !value.has "name")
        (.cause ("Missing 'name' in value of enum '" ++ enum.text ++ "'"))).of_aspect)
  exact ⟨hall.ordered, fun x hx => (hall.places x hx).1⟩

theorem EnumType.orderly_flaws (k : Nat) (node : Value) :
    Orderly (Place.InItem 1 k) (EnumType.flaws k node) :=
  orderly_item _ _ fun j value => EnumType.orderly_valueFlaws node.nameOf k j value

namespace Value

variable {datamodel : Value}

theorem lists_flaws (datamodel : Value) : Lists datamodel.flaws datamodel.FlawAt := by
  refine ⟨fun p e => ⟨flawAt_of_mem_flaws, mem_flaws_of_flawAt⟩, ?_⟩
  have hmodels : Orderly (Place.InRound 0) (findEach Entity.flaws (datamodel.itemsAt "models")) :=
    orderly_round Entity.orderly_flaws
  have henums : Orderly (Place.InRound 1) (findEach EnumType.flaws (datamodel.itemsAt "enums")) :=
    orderly_round EnumType.orderly_flaws
  refine (hmodels.append henums (fun p q hp hq => ?_) (fun _ _ => trivial)
    fun _ _ => trivial).ordered
  simp only [Place.InRound, Place.Before] at *
  omega

/-- What is complete has no flaw that has words. -/
theorem isComplete_iff :
    datamodel.IsComplete ↔ ∀ p message, ¬ datamodel.FlawAt p (.cause message) := by
  constructor
  · intro h p message hflaw
    have hmem : ∀ {v : Value} {key : Text} {i : Nat} {item : Value},
        (v.itemsAt key)[i]? = some item → item ∈ v.itemsAt key := List.mem_of_getElem?
    cases hflaw with
    | unnamedModel hmodel hname => simp [h.models _ (hmem hmodel)] at hname
    | unnamedField hmodel hfield hname =>
      simp [(h.fields _ (hmem hmodel) _ (hmem hfield)).1] at hname
    | unknownKind hmodel hfield hkind hunknown =>
      obtain ⟨k, hk⟩ := (h.fields _ (hmem hmodel) _ (hmem hfield)).2.2 _ hkind
      exact hunknown k hk
    | untypedField hmodel hfield htype =>
      simp [(h.fields _ (hmem hmodel) _ (hmem hfield)).2.1] at htype
    | unnamedEnum henum hname => simp [h.enums _ (hmem henum)] at hname
    | unnamedEnumValue henum hvalue hobject hname =>
      simp [h.values _ (hmem henum) _ (hmem hvalue) hobject] at hname
  · intro h
    refine ⟨fun model hmodel => ?_, fun model hmodel field hfield => ?_, fun enum henum => ?_,
      fun enum henum value hvalue hobject => ?_⟩
    · obtain ⟨i, hi⟩ := List.getElem?_of_mem hmodel
      exact Bool.of_not_eq_false fun hname => h _ _ (.unnamedModel hi hname)
    · obtain ⟨i, hi⟩ := List.getElem?_of_mem hmodel
      obtain ⟨j, hj⟩ := List.getElem?_of_mem hfield
      refine ⟨Bool.of_not_eq_false fun hname => h _ _ (.unnamedField hi hj hname),
        Bool.of_not_eq_false fun htype => h _ _ (.untypedField hi hj htype), fun kind hkind => ?_⟩
      by_contra hunknown
      exact h _ _ (.unknownKind hi hj hkind (not_exists.1 hunknown))
    · obtain ⟨k, hk⟩ := List.getElem?_of_mem henum
      exact Bool.of_not_eq_false fun hname => h _ _ (.unnamedEnum hk hname)
    · obtain ⟨k, hk⟩ := List.getElem?_of_mem henum
      obtain ⟨j, hj⟩ := List.getElem?_of_mem hvalue
      exact Bool.of_not_eq_false fun hname => h _ _ (.unnamedEnumValue hk hj hobject hname)

/-! ## What can be printed -/

theorem isPrintable_of_getElem? {v item : Value} {key : Text} {i : Nat}
    (h : v.isPrintable = true) (hitem : (v.itemsAt key)[i]? = some item) :
    item.isPrintable = true := by
  have hlist := isPrintable_listAt h key
  have hmem := List.mem_of_getElem? hitem
  unfold itemsAt at hmem
  split at hmem
  next items heq =>
    rw [heq] at hlist
    exact isPrintable_of_mem hlist hmem
  · cases hmem

theorem isPrintable_of_at? {v w : Value} {key : Text} (h : v.isPrintable = true)
    (hw : v.at? key = some w) : w.isPrintable = true := by
  have hfield := @isPrintable_fieldOr _ h key .null rfl
  rwa [fieldOr_eq_getD, hw] at hfield

theorem isPrintable_nameOf {v : Value} (h : v.isPrintable = true) :
    v.nameOf.isPrintable = true := by
  rw [nameOf]
  cases hname : v.at? "name" with
  | none => rfl
  | some name => exact isPrintable_of_at? h hname

/-- Where everything can be printed there are no faults. -/
theorem exists_message_of_flawAt (h : datamodel.isPrintable = true) {p : Place} {e : Trouble Text}
    (hflaw : datamodel.FlawAt p e) : ∃ message, e = .cause message := by
  have hnone {v : Value} {f : Fault} (hv : v.isPrintable = true) : v.print ≠ .error f := by
    rw [print_eq hv]
    rintro ⟨⟩
  cases hflaw with
  | unprintedModel hmodel _ hprint =>
    exact absurd hprint (hnone (isPrintable_nameOf (isPrintable_of_getElem? h hmodel)))
  | unprintedField hmodel hfield hprint =>
    exact absurd hprint (hnone (isPrintable_nameOf
      (isPrintable_of_getElem? (isPrintable_of_getElem? h hmodel) hfield)))
  | unprintedKind hmodel hfield hkind _ hprint =>
    exact absurd hprint (hnone (isPrintable_of_at?
      (isPrintable_of_getElem? (isPrintable_of_getElem? h hmodel) hfield) hkind))
  | unprintedEnum henum _ _ hprint =>
    exact absurd hprint (hnone (isPrintable_nameOf (isPrintable_of_getElem? h henum)))
  | unprintedValue henum hvalue _ hprint =>
    exact absurd hprint (hnone
      (isPrintable_of_getElem? (isPrintable_of_getElem? h henum) hvalue))
  | _ => exact ⟨_, rfl⟩

end Value

/-! ## The reader stops at the first finding -/

namespace Value

variable {v : Value}

theorem require_eq {ε : Type} (h : v.isObject = true) (key : Text) (missing : ε) :
    v.require key missing = (v.at? key).elim (.error (.cause missing)) .ok := by
  obtain ⟨fields, rfl⟩ := isObject_iff.1 h
  simp only [require, hasMember, Entries.has, at?]
  cases Entries.get? fields key <;> rfl

/-- What must stand under a key is there, or it is the first thing that is missing. -/
theorem stopsAtFirst_require (h : v.isObject = true) (key : Text) (p : Place)
    (missing : SchemaError) :
    StopsAtFirst ((findIf (!v.has key) p (Trouble.cause missing.message)).map Prod.snd)
      (v.require key missing) := by
  rw [map_findIf, require_eq h, has]
  cases v.at? key <;> exact rfl

/-- A text that is made is there, or the fault is the first thing. -/
theorem stopsAtFirst_print (v : Value) (p : Place) :
    StopsAtFirst ((findFault true p v.print).map Prod.snd) (Trouble.ofFault v.print) := by
  cases v.print with
  | ok t => exact rfl
  | error f => exact rfl

theorem text_of_print {t : Text} (h : (Trouble.ofFault v.print : SchemaReading Text) = .ok t) :
    t = v.text := by
  have hprint : v.print = .ok t := mapError_eq_ok_iff.1 h
  unfold print at hprint
  split at hprint
  · cases hprint
  · exact (Except.ok.inj hprint).symm

theorem nameOf_of_require {ε : Type} {missing : ε} {name : Value} (h : v.isObject = true)
    (hname : v.require "name" missing = .ok name) : v.nameOf = name := by
  rw [require_eq h] at hname
  rw [nameOf]
  cases hat : v.at? "name" with
  | none =>
    rw [hat] at hname
    cases hname
  | some w =>
    rw [hat] at hname
    exact Except.ok.inj hname

/-- The items of a list that passes are run through. -/
theorem elements_eq_itemsAt {p : Value → Bool} {key : Text}
    (h : (v.fieldOr key (.list [])).isListOf p = true) :
    (v.fieldOr key (.list [])).elements = .ok (v.itemsAt key) ∧
      ∀ item ∈ v.itemsAt key, p item = true := by
  unfold itemsAt
  cases hlist : v.fieldOr key (.list []) with
  | list items =>
    rw [hlist] at h
    exact ⟨rfl, List.all_eq_true.1 h⟩
  | _ =>
    rw [hlist] at h
    cases h

end Value

/-- A field stops at the first thing that is wrong with it. -/
theorem Field.stopsAtFirst_ofNode {node : Value} (h : node.isObject = true) (model : Value)
    (i j : Nat) :
    StopsAtFirst ((Field.flaws model i j node).map Prod.snd) (Field.ofNode model node) := by
  rw [flaws, List.map_append, List.map_append, List.map_append, List.map_append]
  refine (Value.stopsAtFirst_print model _).bind fun modelText hmodel => ?_
  obtain rfl := Value.text_of_print hmodel
  refine (Value.stopsAtFirst_require h _ _ _).bind fun name hname => ?_
  rw [Value.nameOf_of_require h hname]
  refine (Value.stopsAtFirst_print name _).bind fun nameText hnameText => ?_
  obtain rfl := Value.text_of_print hnameText
  rw [kindFlaws, Value.kindOf, Value.nameOf_of_require h hname]
  dsimp only
  cases FieldKind.ofValue? (node.fieldOr "kind" (.str "scalar")) with
  | none =>
    rw [List.map_append, List.append_assoc]
    refine (Value.stopsAtFirst_print _ _).bind fun kindText hkind => ?_
    obtain rfl := Value.text_of_print hkind
    exact rfl
  | some kind =>
    have hknown : ((findFault false (.ofPart 0 i j 3)
        (node.fieldOr "kind" (.str "scalar")).print).map Prod.snd) = [] := by
      cases (node.fieldOr "kind" (.str "scalar")).print <;> rfl
    rw [List.map_append, Option.isNone_some, hknown]
    exact (Value.stopsAtFirst_require h _ _ _).bind_ok _

theorem Entity.stopsAtFirst_ofNode {node : Value} (h : node.isModelTree = true) (i : Nat) :
    StopsAtFirst ((Entity.flaws i node).map Prod.snd) (Entity.ofNode node) := by
  obtain ⟨hobject, hfields⟩ := Bool.and_eq_true_iff.1 h
  obtain ⟨helements, hnodes⟩ := Value.elements_eq_itemsAt hfields
  rw [flaws, List.map_append]
  refine (Value.stopsAtFirst_require hobject _ _ _).bind fun name hname => ?_
  rw [Value.nameOf_of_require hobject hname, helements]
  refine StopsAtFirst.bind_ok ?_ _
  exact stopsAtFirst_findEach fun field hfield j =>
    Field.stopsAtFirst_ofNode (hnodes field hfield) name i j

theorem EnumType.stopsAtFirst_enumValueOfNode (enum value : Value) (k j : Nat) :
    StopsAtFirst ((valueFlaws enum k j value).map Prod.snd) (enumValueOfNode enum value) := by
  rw [valueFlaws, List.map_append, List.map_append]
  cases hobject : value.isObject with
  | true =>
    obtain ⟨fields, rfl⟩ := Value.isObject_iff.1 hobject
    have hskipped : ((findFault false (.ofPart 1 k j 1)
        (Value.object fields).print).map Prod.snd) = [] := by
      cases (Value.object fields).print <;> rfl
    refine (Value.stopsAtFirst_print enum _).bind fun enumText henum => ?_
    obtain rfl := Value.text_of_print henum
    rw [Bool.not_true, hskipped]
    exact Value.stopsAtFirst_require rfl _ _ _
  | false =>
    have hskipped : ((findFault false (.ofPart 1 k j 0) enum.print).map Prod.snd) = [] := by
      cases enum.print <;> rfl
    have hread : enumValueOfNode enum value =
        Trouble.ofFault value.print >>= fun t => .ok (.str t) := by
      unfold enumValueOfNode
      split
      · cases hobject
      · rfl
    rw [hskipped, hread, Bool.not_false, Bool.false_and, findIf, if_neg Bool.false_ne_true,
      List.map_nil, List.append_nil]
    exact (Value.stopsAtFirst_print value _).bind_ok _

theorem EnumType.stopsAtFirst_ofNode {node : Value} (h : node.isEnumTree = true) (k : Nat) :
    StopsAtFirst ((EnumType.flaws k node).map Prod.snd) (EnumType.ofNode node) := by
  obtain ⟨hobject, hvalues⟩ := Bool.and_eq_true_iff.1 h
  obtain ⟨helements, -⟩ := Value.elements_eq_itemsAt hvalues
  rw [flaws, List.map_append]
  refine (Value.stopsAtFirst_require hobject _ _ _).bind fun name hname => ?_
  rw [Value.nameOf_of_require hobject hname, helements]
  refine StopsAtFirst.bind_ok ?_ _
  exact stopsAtFirst_findEach fun value _ j => stopsAtFirst_enumValueOfNode name value k j

theorem Value.datamodelOf_eq {document : Value} (h : document.isDocumentTree = true) :
    datamodelOf document = .ok document.datamodel := by
  obtain ⟨hobject, hdatamodel⟩ := Bool.and_eq_true_iff.1 h
  obtain ⟨hdatamodel, -⟩ := Bool.and_eq_true_iff.1 hdatamodel
  obtain ⟨hdatamodel, -⟩ := Bool.and_eq_true_iff.1 hdatamodel
  obtain ⟨fields, rfl⟩ := isObject_iff.1 hobject
  obtain ⟨inside, hinside⟩ := isObject_iff.1 hdatamodel
  rw [datamodel] at hinside ⊢
  simp only [datamodelOf, hinside]
  rfl

theorem Model.stopsAtFirst_ofDocument {document : Value} (h : document.isDocumentTree = true) :
    StopsAtFirst (document.datamodel.flaws.map Prod.snd) (Model.ofDocument document) := by
  obtain ⟨-, hdatamodel⟩ := Bool.and_eq_true_iff.1 h
  obtain ⟨hdatamodel, henums⟩ := Bool.and_eq_true_iff.1 hdatamodel
  obtain ⟨-, hmodels⟩ := Bool.and_eq_true_iff.1 hdatamodel
  obtain ⟨hmodelNodes, hmodels⟩ := Value.elements_eq_itemsAt hmodels
  obtain ⟨henumNodes, henums⟩ := Value.elements_eq_itemsAt henums
  rw [ofDocument, Value.datamodelOf_eq h, bind_ok, hmodelNodes, henumNodes, Value.flaws,
    List.map_append, ofFault_ok, bind_ok]
  refine StopsAtFirst.bind (stopsAtFirst_findEach fun node hnode i =>
    Entity.stopsAtFirst_ofNode (hmodels node hnode) i) fun entities _ => ?_
  rw [ofFault_ok, bind_ok]
  refine StopsAtFirst.bind_ok ?_ _
  exact stopsAtFirst_findEach fun node hnode k => EnumType.stopsAtFirst_ofNode (henums node hnode) k

/-! ## Complete documents and first flaws -/

theorem Value.isPrintable_datamodel {document : Value} (h : document.isPrintable = true) :
    document.datamodel.isPrintable = true :=
  isPrintable_fieldOr h "datamodel" h

/-- A document with a field whose kind is misspelled and whose type is missing, and with an enum
that has no name. -/
def Model.sampleMisspelled : Value :=
  .object
    [("enums", .list [.object [("values", .list [.str "OPEN", .object []])]]),
     ("models", .list [.object [("name", .str "Order"), ("fields", .list
       [.object [("name", .str "id"), ("type", .str "Int")],
        .object [("name", .str "status"), ("kind", .str "Enum")]])]])]

/-- A complete document with a value of an enum that has no text. -/
def Model.sampleVast : Value :=
  .object [("enums", .list [.object [("name", .str "Powers"),
    ("values", .list [.int (10 ^ 5000)])]])]

theorem Model.isComplete_sampleVast : sampleVast.datamodel.IsComplete := by
  have hmodels : sampleVast.datamodel.itemsAt "models" = [] := rfl
  refine ⟨?_, ?_, fun enum henum => ?_, fun enum henum value hvalue hobject => ?_⟩
  · simp [hmodels]
  · simp [hmodels]
  · obtain rfl := List.mem_singleton.1 henum
    rfl
  · obtain rfl := List.mem_singleton.1 henum
    obtain rfl := List.mem_singleton.1 hvalue
    cases hobject

theorem Model.flawAt_sampleVast :
    sampleVast.datamodel.FlawAt (.ofPart 1 0 0 1) (.fault .badValue) :=
  .unprintedValue rfl rfl rfl (Value.print_power (by decide))

end DtoPress
