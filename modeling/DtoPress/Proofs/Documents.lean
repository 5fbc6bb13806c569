import DtoPress.Proofs.Wording
import DtoPress.Schema.Document

/-!
# Documents of the expected shape

A schema document has the expected shape if its models and enums are lists of objects, the fields
of a model are a list of objects, the values of an enum are a list, and names and types are texts.
All of these may be missing : `Value.isDocument` says what kind each of them is where it is there.
A document of this shape that can be printed is read without a fault (`Model.answers_ofDocument`),
node by node as the reader goes through it : it describes a textual model, or lacks something and is
refused with a cause.
-/

set_option linter.unusedSectionVars false

namespace DtoPress

/-! ## Shapes -/

namespace Value

/-- A list whose items pass. -/
def isListOf (p : Value → Bool) : Value → Bool
  | .list items => items.all p
  | _ => false

/-- An object whose name is a text. -/
def isNode (v : Value) : Bool :=
  v.isObject && (v.fieldOr "name" (.str [])).isText

/-- A node with the shape of a field. -/
def isFieldNode (v : Value) : Bool :=
  v.isNode && (v.fieldOr "type" (.str [])).isText

/-- A node with the shape of a model. -/
def isModelNode (v : Value) : Bool :=
  v.isNode && (v.fieldOr "fields" (.list [])).isListOf isFieldNode

/-- A node with the shape of an enum, whose values may be of any kind. -/
def isEnumNode (v : Value) : Bool :=
  v.isNode && (v.fieldOr "values" (.list [])).isListOf fun _ => true

/-- The lists of models and enums have their shape. -/
def isDatamodel (v : Value) : Bool :=
  (v.fieldOr "models" (.list [])).isListOf isModelNode &&
    (v.fieldOr "enums" (.list [])).isListOf isEnumNode

/-- The data model of a document has its shape. Where there is no data model there is nothing to
ask. -/
def isDocument (document : Value) : Bool :=
  match datamodelOf document with
  | .ok datamodel => datamodel.isDatamodel
  | .error _ => true

variable {v : Value} {ε : Type}

/-- What stands under a key of an object is there, or it is missing with a cause. -/
theorem answers_require (h : v.isObject = true) (key : Text) (missing : ε) :
    Answers (fun w => ∀ usual, v.fieldOr key usual = w) (v.require key missing) := by
  obtain ⟨fields, rfl⟩ := isObject_iff.1 h
  simp only [require, hasMember, Entries.has, fieldOr]
  cases Entries.get? fields key with
  | none => exact answers_cause missing
  | some w => exact fun _ => rfl

/-- A text that must stand under a key is found there. -/
theorem answers_require_text (h : v.isObject = true) {key : Text}
    (htext : (v.fieldOr key (.str [])).isText = true) (missing : ε) :
    Answers (fun w => w.isText = true) (v.require key missing) := by
  refine (answers_require h key missing).mono fun w hw => ?_
  rwa [hw] at htext

/-- The items of a list that passes and can be printed. -/
theorem answers_elements {p : Value → Bool} (h : v.isListOf p = true)
    (hprintable : v.isPrintable = true) :
    Answers (fun items => ∀ w ∈ items, p w = true ∧ w.isPrintable = true)
      (Trouble.ofFault v.elements : Except (Trouble ε) _) := by
  cases v with
  | list items =>
    exact answers_ofFault ⟨items, rfl, fun w hw =>
      ⟨List.all_eq_true.1 h w hw, isPrintable_of_mem hprintable hw⟩⟩
  | _ => cases h

theorem answers_print (h : v.isPrintable = true) :
    Answers (fun t => t = v.text) (Trouble.ofFault v.print : Except (Trouble ε) _) :=
  answers_ofFault ⟨v.text, print_eq h, rfl⟩

theorem isPrintable_listAt (h : v.isPrintable = true) (key : Text) :
    (v.fieldOr key (.list [])).isPrintable = true :=
  isPrintable_fieldOr h key rfl

theorem isNode_iff :
    v.isNode = true ↔ v.isObject = true ∧ (v.fieldOr "name" (.str [])).isText = true := by
  simp [isNode]

end Value

/-! ## Reading -/

/-- A node with the shape of a field describes a textual field. -/
theorem Field.answers_ofNode {model node : Value} (hmodel : model.isText = true)
    (h : node.isFieldNode = true) (hprintable : node.isPrintable = true) :
    Answers (fun f => f.isTextual = true) (Field.ofNode model node) := by
  obtain ⟨hnode, htype⟩ := Bool.and_eq_true_iff.1 h
  obtain ⟨hobject, hname⟩ := Value.isNode_iff.1 hnode
  refine (Value.answers_print (Value.isPrintable_of_isText hmodel)).bind fun _ _ => ?_
  refine (Value.answers_require_text hobject hname _).bind fun name hname => ?_
  refine (Value.answers_print (Value.isPrintable_of_isText hname)).bind fun _ _ => ?_
  dsimp only
  split
  · have hkind : (node.fieldOr "kind" (.str "scalar")).isPrintable = true :=
      Value.isPrintable_fieldOr hprintable "kind" (Value.isPrintable_str _)
    exact (Value.answers_print hkind).bind fun _ _ => answers_cause _
  · refine (Value.answers_require_text hobject htype _).bind fun type htype => ?_
    exact isTextual_iff.2 ⟨hname, htype⟩

/-- A node with the shape of a model describes a textual entity. -/
theorem Entity.answers_ofNode {node : Value} (h : node.isModelNode = true)
    (hprintable : node.isPrintable = true) :
    Answers (fun e => e.isTextual = true) (Entity.ofNode node) := by
  obtain ⟨hnode, hfields⟩ := Bool.and_eq_true_iff.1 h
  obtain ⟨hobject, hname⟩ := Value.isNode_iff.1 hnode
  refine (Value.answers_require_text hobject hname _).bind fun name hname => ?_
  refine (Value.answers_elements hfields (Value.isPrintable_listAt hprintable _)).bind
    fun nodes hnodes => ?_
  refine (answers_mapM fun n hn => Field.answers_ofNode hname (hnodes n hn).1
    (hnodes n hn).2).bind fun fields hfields => ?_
  exact isTextual_iff.2 ⟨hname, hfields⟩

/-- The values of an enum may be anything : what is no object is taken as its text. -/
theorem answers_enumValueOfNode {enum node : Value} (henum : enum.isText = true)
    (hprintable : node.isPrintable = true) :
    Answers (fun _ => True) (enumValueOfNode enum node) := by
  unfold enumValueOfNode
  split
  · refine (Value.answers_print (Value.isPrintable_of_isText henum)).bind fun _ _ => ?_
    exact (Value.answers_require rfl _ _).mono fun _ _ => trivial
  · exact (Value.answers_print hprintable).bind fun _ _ => trivial

/-- A node with the shape of an enum describes an enum whose name is a text. -/
theorem EnumType.answers_ofNode {node : Value} (h : node.isEnumNode = true)
    (hprintable : node.isPrintable = true) :
    Answers (fun e => e.name.isText = true) (EnumType.ofNode node) := by
  obtain ⟨hnode, hvalues⟩ := Bool.and_eq_true_iff.1 h
  obtain ⟨hobject, hname⟩ := Value.isNode_iff.1 hnode
  refine (Value.answers_require_text hobject hname _).bind fun name hname => ?_
  refine (Value.answers_elements hvalues (Value.isPrintable_listAt hprintable _)).bind
    fun nodes hnodes => ?_
  refine (answers_mapM fun n hn => answers_enumValueOfNode hname (hnodes n hn).2).bind
    fun _ _ => ?_
  exact hname

theorem answers_datamodelOf (document : Value) :
    Answers (fun datamodel => datamodelOf document = .ok datamodel) (datamodelOf document) := by
  unfold datamodelOf
  split
  · split
    · exact rfl
    · exact answers_cause _
  · exact answers_cause _

theorem isPrintable_of_datamodelOf {document datamodel : Value}
    (hprintable : document.isPrintable = true) (h : datamodelOf document = .ok datamodel) :
    datamodel.isPrintable = true := by
  have hinside := Value.isPrintable_fieldOr hprintable "datamodel" hprintable
  unfold datamodelOf at h
  split at h
  · split at h
    next heq =>
      obtain rfl := Except.ok.inj h
      rwa [heq] at hinside
    · cases h
  · cases h

/-- A document of the expected shape that can be printed describes a textual model, or it is refused
with a cause. -/
theorem Model.answers_ofDocument {document : Value} (h : document.isDocument = true)
    (hprintable : document.isPrintable = true) :
    Answers (fun m => m.isTextual = true) (Model.ofDocument document) := by
  refine (answers_datamodelOf document).bind fun datamodel hdatamodel => ?_
  rw [Value.isDocument, hdatamodel] at h
  obtain ⟨hmodels, henums⟩ := Bool.and_eq_true_iff.1 h
  have hinside := isPrintable_of_datamodelOf hprintable hdatamodel
  refine (Value.answers_elements hmodels (Value.isPrintable_listAt hinside _)).bind
    fun models hmodels => ?_
  refine (answers_mapM fun n hn => Entity.answers_ofNode (hmodels n hn).1 (hmodels n hn).2).bind
    fun entities hentities => ?_
  refine (Value.answers_elements henums (Value.isPrintable_listAt hinside _)).bind
    fun nodes hnodes => ?_
  refine (answers_mapM fun n hn => EnumType.answers_ofNode (hnodes n hn).1 (hnodes n hn).2).bind
    fun enums henums => ?_
  exact isTextual_iff.2 ⟨hentities, henums⟩

end DtoPress
