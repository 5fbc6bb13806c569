import DtoPress.Generation.Check
import DtoPress.Proofs.Results
import DtoPress.Proofs.Textual

/-!
# What the check of a model finds

Names and references that are texts can always be checked (`checkName_str`,
`Field.referenceDefects_eq`). A model without any defects has texts for names, whatever else it
holds, and its references lead to names that it has (`Model.wellNamed_of_warnings`).
-/

namespace DtoPress

/-- The defect is a reference that leads nowhere. -/
def Defect.isUnknownReference : Defect → Bool
  | .unknownEntity .. => true
  | .unknownEnum .. => true
  | _ => false

/-- The references of a field lead to names that are known. -/
structure Field.IsLinked (f : Field) (entities enums : List Value) : Prop where
  relation : f.isRelation.truthy = true → f.type ∈ entities
  enum : f.isEnum = true → f.type ∈ enums

/-! ## Checks of texts -/

theorem isUnknown_of_isText (known : List Value) {v : Value} (hv : v.isText = true) :
    isUnknown known v = .ok !(known.contains v) := by
  rw [isUnknown, if_pos (Value.isKey_of_isText hv)]

theorem checkName_str (t : Text) (allowReserved : Bool) :
    checkName (.str t) allowReserved = .ok (isValidName t allowReserved) := by
  cases t <;> rfl

/-- The defects of the references of a textual field. -/
theorem Field.referenceDefects_eq {f : Field} (hf : f.isTextual = true) (entity : Value)
    (entities enums : List Value) : f.referenceDefects entity entities enums = .ok
      ((if f.isRelation.truthy && !entities.contains f.type
          then [.unknownEntity entity f.name f.type] else [])
        ++ (if f.isEnum && !enums.contains f.type
          then [.unknownEnum entity f.name f.type] else [])) := by
  have htype := (isTextual_iff.1 hf).2
  rw [referenceDefects, isUnknown_of_isText entities htype, isUnknown_of_isText enums htype]
  cases f.isRelation.truthy <;> cases f.isEnum <;> cases entities.contains f.type <;>
    cases enums.contains f.type <;> rfl

theorem Model.all_isKey_of_isTextual {m : Model} (hm : m.isTextual = true) :
    (m.entityNames.all Value.isKey && m.enumNames.all Value.isKey) = true := by
  have hkeys : ∀ {vs : List Value}, vs.all Value.isText = true → vs.all Value.isKey = true := by
    intro vs h
    rw [List.all_eq_true] at h ⊢
    exact fun v hv => Value.isKey_of_isText (h v hv)
  rw [hkeys (entityNames_all_isText hm), hkeys (enumNames_all_isText hm)]
  rfl

/-! ## Models without warnings -/

theorem isText_of_nameDefect {name : Value} {allowReserved : Bool} {defect : Defect}
    (h : nameDefect name allowReserved defect = .ok []) : name.isText = true := by
  obtain ⟨passes, hpasses, h⟩ := bind_eq_ok_iff.1 h
  cases passes with
  | false => cases h
  | true =>
    unfold checkName at hpasses
    split at hpasses
    · split at hpasses
      · rfl
      · cases hpasses
    · cases hpasses

/-- A defect of a reference, if it is checked and leads nowhere. -/
def referenceDefect (checked : Bool) (known : List Value) (v : Value) (d : Defect) :
    Except Fault (List Defect) :=
  if checked then do return if ← isUnknown known v then [d] else [] else .ok []

theorem mem_of_referenceDefect {checked : Bool} {known : List Value} {v : Value} {d : Defect}
    (hknown : known.all Value.isText = true) (h : referenceDefect checked known v d = .ok [])
    (hchecked : checked = true) : v ∈ known := by
  rw [referenceDefect, if_pos hchecked] at h
  obtain ⟨unknown, hunknown, h⟩ := bind_eq_ok_iff.1 h
  cases unknown with
  | true => cases h
  | false =>
    unfold isUnknown at hunknown
    split at hunknown
    · exact Value.mem_of_contains hknown (by simpa using hunknown)
    · cases hunknown

/-- The references of a field are checked one after the other. -/
theorem Field.referenceDefects_eq_bind (f : Field) (entity : Value) (entities enums : List Value) :
    f.referenceDefects entity entities enums = (do
      let relation ← referenceDefect f.isRelation.truthy entities f.type
        (.unknownEntity entity f.name f.type)
      let enum ← referenceDefect f.isEnum enums f.type (.unknownEnum entity f.name f.type)
      return relation ++ enum) := by
  unfold referenceDefects referenceDefect
  cases f.isRelation.truthy <;> cases f.isEnum <;>
    rcases isUnknown entities f.type with _ | _ | _ <;>
    rcases isUnknown enums f.type with _ | _ | _ <;> rfl

/-- A field whose references have no defect refers to names that are known. -/
theorem Field.isLinked_of_no_defects {f : Field} {entity : Value} {entities enums : List Value}
    (hentities : entities.all Value.isText = true) (henums : enums.all Value.isText = true)
    (h : f.referenceDefects entity entities enums = .ok []) : f.IsLinked entities enums := by
  rw [referenceDefects_eq_bind] at h
  obtain ⟨relation, hrelation, h⟩ := bind_eq_ok_iff.1 h
  obtain ⟨enum, henum, h⟩ := bind_eq_ok_iff.1 h
  obtain ⟨rfl, rfl⟩ := List.append_eq_nil_iff.1 (Except.ok.inj h)
  exact ⟨mem_of_referenceDefect hentities hrelation, mem_of_referenceDefect henums henum⟩

/-- The names of the model are texts, and all references lead to them. -/
structure Model.WellNamed (m : Model) : Prop where
  entities : m.entityNames.all Value.isText = true
  enums : m.enumNames.all Value.isText = true
  linked : ∀ e ∈ m.entities, ∀ f ∈ e.fields, f.IsLinked m.entityNames m.enumNames

/-- A model without warnings is one whose names are texts, whatever else its fields hold. -/
theorem Model.wellNamed_of_warnings {m : Model} (h : m.warnings = .ok []) : m.WellNamed := by
  obtain ⟨ds, hdefects, hds⟩ := bind_eq_ok_iff.1 h
  obtain rfl : ds = [] := List.map_eq_nil_iff.1 (Except.ok.inj hds)
  unfold defects at hdefects
  split at hdefects
  · cases hdefects
  obtain ⟨references, hreferences, hrest⟩ := bind_eq_ok_iff.1 hdefects
  obtain ⟨names, hnames, hrest⟩ := bind_eq_ok_iff.1 hrest
  obtain ⟨enums, henums, hrest⟩ := bind_eq_ok_iff.1 hrest
  obtain ⟨hfront, henumDefects⟩ := List.append_eq_nil_iff.1 (Except.ok.inj hrest)
  obtain ⟨hreferenceDefects, hnameDefects⟩ := List.append_eq_nil_iff.1 hfront
  have hentityNames : m.entityNames.all Value.isText = true := by
    rw [entityNames, List.all_map, List.all_eq_true]
    intro e he
    obtain ⟨own, hown, hfields⟩ :=
      bind_eq_ok_iff.1 (eq_nil_of_mapM_flatten hnames hnameDefects e he)
    obtain ⟨perField, -, hfields⟩ := bind_eq_ok_iff.1 hfields
    rw [(List.append_eq_nil_iff.1 (Except.ok.inj hfields)).1] at hown
    exact isText_of_nameDefect hown
  have henumNames : m.enumNames.all Value.isText = true := by
    rw [enumNames, List.all_map, List.all_eq_true]
    exact fun e he => isText_of_nameDefect (eq_nil_of_mapM_flatten henums henumDefects e he)
  refine ⟨hentityNames, henumNames, fun e he f hf => ?_⟩
  obtain ⟨perField, hperField, hflat⟩ :=
    bind_eq_ok_iff.1 (eq_nil_of_mapM_flatten hreferences hreferenceDefects e he)
  have hnone := (List.append_eq_nil_iff.1 (Except.ok.inj hflat)).2
  exact Field.isLinked_of_no_defects hentityNames henumNames
    (eq_nil_of_mapM_flatten hperField hnone f hf)

end DtoPress
