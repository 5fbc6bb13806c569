import DtoPress.Proofs.Checks
import DtoPress.Proofs.Places

/-!
# The warnings for a model

`Model.DefectAt` says which defects a model has and where, without the check : there are no fields,
a relation leads to no entity, an enum field to no enum, a name does not pass. The check makes one
round over the entities for what they refer to, one over them for their names and one over the enums
for theirs. `Model.warnings_list_defects` : the warnings for a textual model are the wordings of
these defects, one for each and no other, in the order of their places. What is only carried along
in a model has no part in them (`Model.warnings_outline`), and the order of the entities none but in
the order of the warnings of a round (`Model.warnings_of_perm`).

A wording begins with words that tell the kind of the defect (`Defect.opening_eq_of_message_eq`), so
that defects whose names have no blanks and no dots can be read off it (`Defect.eq_of_message_eq`).
-/

set_option linter.unusedSectionVars false

namespace DtoPress

/-! ## Defects and their places -/

/-- The model has a defect at a place. Round 0 asks what entities refer to, round 1 for the names in
entities, round 2 for the names of enums; the parts of an entity are its fields. -/
inductive Model.DefectAt (m : Model) : Place → Defect → Prop
  | noFields {i : Nat} {e : Entity} (he : m.entities[i]? = some e) (hnone : e.fields = []) :
    DefectAt m (.ofItem 0 i) (.noFields e.name)
  | unknownEntity {i j : Nat} {e : Entity} {f : Field} (he : m.entities[i]? = some e)
    (hf : e.fields[j]? = some f) (hrelation : f.isRelation.truthy = true)
    (hunknown : f.type ∉ m.entityNames) :
    DefectAt m (.ofPart 0 i j 0) (.unknownEntity e.name f.name f.type)
  | unknownEnum {i j : Nat} {e : Entity} {f : Field} (he : m.entities[i]? = some e)
    (hf : e.fields[j]? = some f) (henum : f.isEnum = true) (hunknown : f.type ∉ m.enumNames) :
    DefectAt m (.ofPart 0 i j 1) (.unknownEnum e.name f.name f.type)
  | badEntityName {i : Nat} {e : Entity} (he : m.entities[i]? = some e)
    (hname : checkName e.name false = .ok false) :
    DefectAt m (.ofItem 1 i) (.badEntityName e.name)
  | badFieldName {i j : Nat} {e : Entity} {f : Field} (he : m.entities[i]? = some e)
    (hf : e.fields[j]? = some f) (hname : checkName f.name true = .ok false) :
    DefectAt m (.ofPart 1 i j 0) (.badFieldName e.name f.name)
  | badEnumName {k : Nat} {e : EnumType} (he : m.enums[k]? = some e)
    (hname : checkName e.name false = .ok false) :
    DefectAt m (.ofItem 2 k) (.badEnumName e.name)

/-- The value is refused as a name. -/
def Value.isRefused (name : Value) (allowReserved : Bool) : Bool :=
  match checkName name allowReserved with
  | .ok passes => !passes
  | .error _ => false

theorem Value.isRefused_iff {name : Value} {allowReserved : Bool} :
    name.isRefused allowReserved = true ↔ checkName name allowReserved = .ok false := by
  unfold isRefused
  split <;> simp [*]

/-! ## Findings -/

/-- What the references of the field `j` of the entity `i` lack. -/
def Field.referenceFindings (entities enums : List Value) (entity : Value) (i j : Nat)
    (f : Field) : List (Place × Defect) :=
  findIf (f.isRelation.truthy && !entities.contains f.type) (.ofPart 0 i j 0)
      (.unknownEntity entity f.name f.type)
    ++ findIf (f.isEnum && !enums.contains f.type) (.ofPart 0 i j 1)
      (.unknownEnum entity f.name f.type)

/-- What the entity `i` and the references of its fields lack. -/
def Entity.referenceFindings (entities enums : List Value) (i : Nat) (e : Entity) :
    List (Place × Defect) :=
  findIf e.fields.isEmpty (.ofItem 0 i) (.noFields e.name)
    ++ findEach (fun j f => f.referenceFindings entities enums e.name i j) e.fields

/-- The names in the entity `i` that do not pass. -/
def Entity.nameFindings (i : Nat) (e : Entity) : List (Place × Defect) :=
  findIf (e.name.isRefused false) (.ofItem 1 i) (.badEntityName e.name)
    ++ findEach (fun j f => findIf (f.name.isRefused true) (.ofPart 1 i j 0)
      (.badFieldName e.name f.name)) e.fields

/-- The name of the enum `k` if it does not pass. -/
def EnumType.nameFindings (k : Nat) (e : EnumType) : List (Place × Defect) :=
  findIf (e.name.isRefused false) (.ofItem 2 k) (.badEnumName e.name)

namespace Model

/-- What is found in the round over references. -/
def referenceFindings (m : Model) : List (Place × Defect) :=
  findEach (Entity.referenceFindings m.entityNames m.enumNames) m.entities

/-- What is found in the round over the names in entities. -/
def nameFindings (m : Model) : List (Place × Defect) :=
  findEach Entity.nameFindings m.entities

/-- What is found in the round over the names of enums. -/
def enumFindings (m : Model) : List (Place × Defect) :=
  findEach EnumType.nameFindings m.enums

/-- What is found in a model, round by round. -/
def findings (m : Model) : List (Place × Defect) :=
  m.referenceFindings ++ m.nameFindings ++ m.enumFindings

end Model

/-- The wordings of what was found. -/
def wordings (found : List (Place × Defect)) : List Text :=
  found.map fun x => x.2.message

theorem wordings_append (found more : List (Place × Defect)) :
    wordings (found ++ more) = wordings found ++ wordings more :=
  List.map_append

/-- Findings of the same defects have the same wordings. -/
theorem wordings_eq_of_map_snd {found more : List (Place × Defect)}
    (h : found.map Prod.snd = more.map Prod.snd) : wordings found = wordings more := by
  have hmessages := congrArg (List.map Defect.message) h
  rwa [List.map_map, List.map_map] at hmessages

namespace Defect

variable {d d' : Defect}

/-- The words with which the wording of a defect begins, up to the first name. -/
def opening : Defect → Text
  | .noFields _ => "Entity '"
  | .unknownEntity .. => "Relation "
  | .unknownEnum .. => "Enum field "
  | .badEntityName _ => "Entity name '"
  | .badFieldName .. => "Field "
  | .badEnumName _ => "Enum name '"

/-- The names in the wording of a defect. -/
def names : Defect → List Value
  | .noFields e => [e]
  | .unknownEntity e f t => [e, f, t]
  | .unknownEnum e f t => [e, f, t]
  | .badEntityName e => [e]
  | .badFieldName e f => [e, f]
  | .badEnumName e => [e]

/-- All openings. -/
def openings : List Text :=
  ["Entity '", "Relation ", "Enum field ", "Entity name '", "Field ", "Enum name '"]

theorem opening_mem (d : Defect) : d.opening ∈ openings := by
  cases d <;> simp [opening, openings]

theorem opening_isPrefix (d : Defect) : d.opening <+: d.message := by
  cases d <;> simp [opening, message, List.append_assoc]

/-- Defects with the same wording are of the same kind. -/
theorem opening_eq_of_message_eq (h : d.message = d'.message) : d.opening = d'.opening := by
  have hapart : ∀ s ∈ openings, ∀ t ∈ openings, s <+: t → s = t := by decide
  have hd' : d'.opening <+: d.message := h ▸ d'.opening_isPrefix
  rcases List.prefix_or_prefix_of_prefix d.opening_isPrefix hd' with h | h
  · exact hapart _ d.opening_mem _ d'.opening_mem h
  · exact (hapart _ d'.opening_mem _ d.opening_mem h).symm

end Defect

/-- The value is a text without blanks and dots. -/
def Value.IsWord (v : Value) : Prop :=
  ∃ t, v = .str t ∧ .char ' ' ∉ t ∧ .char '.' ∉ t

/-- Where a mark stands in neither of two texts, what is behind it shows what is in front. -/
theorem Text.append_mark_inj {c : CodePoint} : ∀ {s t x y : Text}, c ∉ s → c ∉ t →
    s ++ c :: x = t ++ c :: y → s = t ∧ x = y
  | [], [], _, _, _, _, h => ⟨rfl, (List.cons.inj h).2⟩
  | [], _ :: _, _, _, _, ht, h => absurd ((List.cons.inj h).1 ▸ List.mem_cons_self) ht
  | _ :: _, [], _, _, hs, _, h => absurd ((List.cons.inj h).1 ▸ List.mem_cons_self) hs
  | _ :: s, _ :: t, _, _, hs, ht, h => by
    obtain ⟨rfl, htail⟩ := List.cons.inj h
    obtain ⟨rfl, hbehind⟩ := append_mark_inj (fun hc => hs (List.mem_cons_of_mem _ hc))
      (fun hc => ht (List.mem_cons_of_mem _ hc)) htail
    exact ⟨rfl, hbehind⟩

namespace Defect

variable {e e' f f' : Value}

/-- An entity and its field are read off the words around the dot. -/
theorem path_inj {x y : Text} (he : e.IsWord) (he' : e'.IsWord) (hf : f.IsWord) (hf' : f'.IsWord)
    (h : e.text ++ ("." ++ (f.text ++ .char ' ' :: x)) =
      e'.text ++ ("." ++ (f'.text ++ .char ' ' :: y))) : e = e' ∧ f = f' ∧ x = y := by
  obtain ⟨e, rfl, -, he⟩ := he
  obtain ⟨e', rfl, -, he'⟩ := he'
  obtain ⟨f, rfl, hf, -⟩ := hf
  obtain ⟨f', rfl, hf', -⟩ := hf'
  obtain ⟨rfl, hfield⟩ := Text.append_mark_inj he he' h
  obtain ⟨rfl, hbehind⟩ := Text.append_mark_inj hf hf' hfield
  exact ⟨rfl, rfl, hbehind⟩

theorem text_inj (he : e.IsWord) (he' : e'.IsWord) (h : e.text = e'.text) : e = e' := by
  obtain ⟨s, rfl, -⟩ := he
  obtain ⟨s', rfl, -⟩ := he'
  exact congrArg Value.str h

/-- A reference of a field is read off the words around its type. -/
theorem reference_inj {t t' : Value} {x y : Text} (he : e.IsWord) (he' : e'.IsWord)
    (hf : f.IsWord) (hf' : f'.IsWord) (ht : t.IsWord) (ht' : t'.IsWord)
    (h : e.text ++ ("." ++ (f.text ++ .char ' ' :: (x ++ (t.text ++ y)))) =
      e'.text ++ ("." ++ (f'.text ++ .char ' ' :: (x ++ (t'.text ++ y))))) :
    e = e' ∧ f = f' ∧ t = t' := by
  obtain ⟨rfl, rfl, hbehind⟩ := path_inj he he' hf hf' h
  exact ⟨rfl, rfl, text_inj ht ht' (List.append_cancel_right (List.append_cancel_left hbehind))⟩

/-- A defect whose names are words can be read off its wording. -/
theorem eq_of_message_eq {d d' : Defect} (hd : ∀ v ∈ d.names, v.IsWord)
    (hd' : ∀ v ∈ d'.names, v.IsWord) (h : d.message = d'.message) : d = d' := by
  have hopening := opening_eq_of_message_eq h
  simp only [message, List.append_assoc] at h
  -- Defects of two kinds have different openings.
  cases d <;> cases d' <;>
    try exact absurd hopening (by simp only [opening]; decide)
  all_goals
    simp only [names, List.forall_mem_cons, List.not_mem_nil, false_implies, implies_true,
      and_true] at hd hd'
    have hbehind := List.append_cancel_left h
  case noFields.noFields =>
    rw [text_inj hd hd' (List.append_cancel_right hbehind)]
  case unknownEntity.unknownEntity =>
    obtain ⟨rfl, rfl, rfl⟩ := reference_inj hd.1 hd'.1 hd.2.1 hd'.2.1 hd.2.2 hd'.2.2
      (x := "references unknown entity '") hbehind
    rfl
  case unknownEnum.unknownEnum =>
    obtain ⟨rfl, rfl, rfl⟩ := reference_inj hd.1 hd'.1 hd.2.1 hd'.2.1 hd.2.2 hd'.2.2
      (x := "references unknown enum '") hbehind
    rfl
  case badEntityName.badEntityName =>
    rw [text_inj hd hd' (List.append_cancel_right hbehind)]
  case badFieldName.badFieldName =>
    obtain ⟨rfl, rfl, -⟩ := path_inj hd.1 hd'.1 hd.2 hd'.2 hbehind
    rfl
  case badEnumName.badEnumName =>
    rw [text_inj hd hd' (List.append_cancel_right hbehind)]

end Defect

/-! ## The check finds them -/

theorem nameDefect_eq {name : Value} (h : name.isText = true) (allowReserved : Bool)
    (p : Place) (d : Defect) : nameDefect name allowReserved d =
      .ok ((findIf (name.isRefused allowReserved) p d).map Prod.snd) := by
  obtain ⟨t, rfl⟩ := Value.isText_iff.1 h
  rw [nameDefect, Value.isRefused, checkName_str]
  cases isValidName t allowReserved <;> rfl

theorem EnumType.nameDefect_eq_findings {e : EnumType} (h : e.name.isText = true) (k : Nat) :
    nameDefect e.name false (.badEnumName e.name) = .ok ((e.nameFindings k).map Prod.snd) :=
  nameDefect_eq h false (.ofItem 2 k) (.badEnumName e.name)

theorem Field.referenceDefects_eq_findings {f : Field} (hf : f.isTextual = true) (entity : Value)
    (entities enums : List Value) (i j : Nat) : f.referenceDefects entity entities enums =
      .ok ((f.referenceFindings entities enums entity i j).map Prod.snd) := by
  rw [referenceDefects_eq hf, referenceFindings, List.map_append, map_findIf, map_findIf]

namespace Entity

variable {e : Entity}

theorem referenceDefects_eq_findings (he : e.isTextual = true) (entities enums : List Value)
    (i : Nat) : e.referenceDefects entities enums =
      .ok ((e.referenceFindings entities enums i).map Prod.snd) := by
  obtain ⟨perField, hperField, hflat⟩ := mapM_eq_findEach fun f hf j =>
    Field.referenceDefects_eq_findings ((isTextual_iff.1 he).2 f hf) e.name entities enums i j
  rw [referenceDefects, hperField, referenceFindings, List.map_append, map_findIf, ← hflat]
  rfl

theorem nameDefects_eq_findings (he : e.isTextual = true) (i : Nat) :
    e.nameDefects = .ok ((e.nameFindings i).map Prod.snd) := by
  obtain ⟨hname, hfields⟩ := isTextual_iff.1 he
  obtain ⟨perField, hperField, hflat⟩ := mapM_eq_findEach fun f hf j =>
    nameDefect_eq (Field.isTextual_iff.1 (hfields f hf)).1 true (.ofPart 1 i j 0)
      (.badFieldName e.name f.name)
  rw [nameDefects, nameDefect_eq hname false (.ofItem 1 i), hperField, nameFindings,
    List.map_append, ← hflat]
  rfl

end Entity

namespace Model

variable {m : Model}

/-- The check of a textual model finds the findings, in their order. -/
theorem defects_eq_findings (hm : m.isTextual = true) :
    m.defects = .ok (m.findings.map Prod.snd) := by
  obtain ⟨hentities, henums⟩ := isTextual_iff.1 hm
  obtain ⟨references, hreferences, hflat⟩ := mapM_eq_findEach fun e he i =>
    Entity.referenceDefects_eq_findings (hentities e he) m.entityNames m.enumNames i
  obtain ⟨names, hnames, hflatNames⟩ := mapM_eq_findEach fun e he i =>
    Entity.nameDefects_eq_findings (hentities e he) i
  obtain ⟨enums, henumNames, hflatEnums⟩ := mapM_eq_findEach fun e he k =>
    EnumType.nameDefect_eq_findings (henums e he) k
  rw [defects, all_isKey_of_isTextual hm, hreferences, hnames, henumNames, findings,
    List.map_append, List.map_append, referenceFindings, nameFindings, enumFindings, ← hflat,
    ← hflatNames, ← hflatEnums]
  rfl

theorem warnings_eq (hm : m.isTextual = true) : m.warnings = .ok (wordings m.findings) := by
  rw [warnings, defects_eq_findings hm, bind_ok, List.map_map]
  rfl

theorem exists_warnings (hm : m.isTextual = true) : ∃ ws, m.warnings = .ok ws :=
  ⟨_, warnings_eq hm⟩

/-! ## The findings are the defects -/

theorem defectAt_of_mem_findings (hm : m.isTextual = true) {p : Place} {d : Defect}
    (h : (p, d) ∈ m.findings) : m.DefectAt p d := by
  have hunknown : ∀ {known : List Value} {i j : Nat} {e : Entity} {f : Field},
      known.all Value.isText = true → m.entities[i]? = some e → e.fields[j]? = some f →
      known.contains f.type = false → f.type ∉ known := by
    intro known i j e f hknown he hf hnot hmem
    have htext := (isTextual_iff.1 hm).1 e (List.mem_of_getElem? he)
    have htype := (Field.isTextual_iff.1 ((Entity.isTextual_iff.1 htext).2 f
      (List.mem_of_getElem? hf))).2
    rw [(Value.contains_iff hknown htype).2 hmem] at hnot
    cases hnot
  simp only [findings, referenceFindings, nameFindings, enumFindings, Entity.referenceFindings,
    Entity.nameFindings, EnumType.nameFindings, Field.referenceFindings, List.mem_append,
    mem_findEach, mem_findIf, Prod.mk.injEq, Bool.and_eq_true, Bool.not_eq_true',
    List.isEmpty_iff, Value.isRefused_iff] at h
  rcases h with (⟨i, e, he, hreference⟩ | ⟨i, e, he, hname⟩) | ⟨k, e, he, hname, rfl, rfl⟩
  · rcases hreference with ⟨hnone, rfl, rfl⟩ | ⟨j, f, hf, hfield⟩
    · exact .noFields he hnone
    · rcases hfield with ⟨⟨hrelation, hnot⟩, rfl, rfl⟩ | ⟨⟨henum, hnot⟩, rfl, rfl⟩
      · exact .unknownEntity he hf hrelation (hunknown (entityNames_all_isText hm) he hf hnot)
      · exact .unknownEnum he hf henum (hunknown (enumNames_all_isText hm) he hf hnot)
  · rcases hname with ⟨hname, rfl, rfl⟩ | ⟨j, f, hf, hname, rfl, rfl⟩
    · exact .badEntityName he hname
    · exact .badFieldName he hf hname
  · exact .badEnumName he hname

theorem mem_findings_of_defectAt (hm : m.isTextual = true) {p : Place} {d : Defect}
    (h : m.DefectAt p d) : (p, d) ∈ m.findings := by
  have hunknown : ∀ {known : List Value} {v : Value}, known.all Value.isText = true →
      v ∉ known → known.contains v = false := by
    intro known v hknown hnot
    rw [Bool.eq_false_iff]
    exact fun hmem => hnot (Value.mem_of_contains hknown hmem)
  simp only [findings, List.mem_append, referenceFindings, nameFindings, enumFindings,
    mem_findEach]
  cases h with
  | noFields he hnone =>
    refine .inl (.inl ⟨_, _, he, List.mem_append_left _ (mem_findIf.2 ⟨?_, rfl⟩)⟩)
    rw [hnone]
    rfl
  | unknownEntity he hf hrelation hnot =>
    refine .inl (.inl ⟨_, _, he, List.mem_append_right _ (mem_findEach.2 ⟨_, _, hf, ?_⟩)⟩)
    refine List.mem_append_left _ (mem_findIf.2 ⟨?_, rfl⟩)
    rw [hrelation, hunknown (entityNames_all_isText hm) hnot]
    rfl
  | unknownEnum he hf henum hnot =>
    refine .inl (.inl ⟨_, _, he, List.mem_append_right _ (mem_findEach.2 ⟨_, _, hf, ?_⟩)⟩)
    refine List.mem_append_right _ (mem_findIf.2 ⟨?_, rfl⟩)
    rw [henum, hunknown (enumNames_all_isText hm) hnot]
    rfl
  | badEntityName he hname =>
    refine .inl (.inr ⟨_, _, he, List.mem_append_left _ (mem_findIf.2 ⟨?_, rfl⟩)⟩)
    exact Value.isRefused_iff.2 hname
  | badFieldName he hf hname =>
    refine .inl (.inr ⟨_, _, he, List.mem_append_right _ (mem_findEach.2 ⟨_, _, hf, ?_⟩)⟩)
    exact mem_findIf.2 ⟨Value.isRefused_iff.2 hname, rfl⟩
  | badEnumName he hname =>
    exact .inr ⟨_, _, he, mem_findIf.2 ⟨Value.isRefused_iff.2 hname, rfl⟩⟩

/-- A textual model whose check finds no unknown reference is linked. -/
theorem isLinked_of_defects (hm : m.isTextual = true) {ds : List Defect} (h : m.defects = .ok ds)
    (hds : ∀ d ∈ ds, d.isUnknownReference = false) {e : Entity} (he : e ∈ m.entities)
    {f : Field} (hf : f ∈ e.fields) : f.IsLinked m.entityNames m.enumNames := by
  obtain rfl := Except.ok.inj ((defects_eq_findings hm).symm.trans h)
  obtain ⟨i, hi⟩ := List.getElem?_of_mem he
  obtain ⟨j, hj⟩ := List.getElem?_of_mem hf
  have hnone : ∀ {p : Place} {d : Defect}, m.DefectAt p d → d.isUnknownReference = false :=
    fun hdefect => hds _ (List.mem_map_of_mem (mem_findings_of_defectAt hm hdefect))
  constructor
  · intro hrelation
    by_contra hunknown
    cases hnone (.unknownEntity hi hj hrelation hunknown)
  · intro henum
    by_contra hunknown
    cases hnone (.unknownEnum hi hj henum hunknown)

end Model

/-! ## The findings are in order -/

theorem Field.orderly_referenceFindings (entities enums : List Value) (entity : Value) (i j : Nat)
    (f : Field) :
    Orderly (Place.InPart 0 i j) (f.referenceFindings entities enums entity i j) := by
  refine (orderly_aspect _ _).append (orderly_aspect _ _) (fun p q hp hq => ?_)
    (fun p hp => hp.1) fun p hp => hp.1
  simp only [Place.InPart, Place.Before] at *
  omega

theorem Entity.orderly_referenceFindings (entities enums : List Value) (i : Nat) (e : Entity) :
    Orderly (Place.InItem 0 i) (e.referenceFindings entities enums i) :=
  orderly_item _ _ fun j f => f.orderly_referenceFindings entities enums e.name i j

theorem Entity.orderly_nameFindings (i : Nat) (e : Entity) :
    Orderly (Place.InItem 1 i) (e.nameFindings i) :=
  orderly_item _ _ fun _ _ => orderly_findIf ⟨rfl, rfl, rfl⟩ _ _

theorem EnumType.orderly_nameFindings (k : Nat) (e : EnumType) :
    Orderly (Place.InItem 2 k) (e.nameFindings k) :=
  orderly_findIf ⟨rfl, rfl⟩ _ _

namespace Model

variable {m : Model}

theorem orderly_referenceFindings (m : Model) : Orderly (Place.InRound 0) m.referenceFindings :=
  orderly_round fun i e => e.orderly_referenceFindings m.entityNames m.enumNames i

theorem orderly_nameFindings (m : Model) : Orderly (Place.InRound 1) m.nameFindings :=
  orderly_round fun i e => e.orderly_nameFindings i

theorem orderly_enumFindings (m : Model) : Orderly (Place.InRound 2) m.enumFindings :=
  orderly_round fun k e => e.orderly_nameFindings k

theorem lists_findings (hm : m.isTextual = true) : Lists m.findings m.DefectAt := by
  refine ⟨fun p d => ⟨defectAt_of_mem_findings hm, mem_findings_of_defectAt hm⟩, ?_⟩
  have hentities : Orderly (fun p => p.round ≤ 1) (m.referenceFindings ++ m.nameFindings) := by
    refine m.orderly_referenceFindings.append m.orderly_nameFindings (fun p q hp hq => ?_)
      (fun p hp => ?_) fun p hp => ?_
    all_goals simp only [Place.InRound, Place.Before] at *; omega
  refine (hentities.append m.orderly_enumFindings (fun p q hp hq => ?_) (fun p _ => trivial)
    fun p _ => trivial).ordered
  simp only [Place.InRound, Place.Before] at *
  omega

/-! ## What has no part in the warnings -/

theorem warnings_eq_nil_iff (hm : m.isTextual = true) :
    m.warnings = .ok [] ↔ ∀ p d, ¬ m.DefectAt p d := by
  rw [warnings_eq hm, Except.ok.injEq, wordings, List.map_eq_nil_iff,
    (lists_findings hm).eq_nil_iff]

end Model

/-- The field without what is only carried along : its documentation, and the flags for lists and
for required fields. -/
def Field.outline (f : Field) : Field :=
  { f with isList := .null, isRequired := .null, documentation := .null }

/-- The entity with the outlines of its fields and without documentation. -/
def Entity.outline (e : Entity) : Entity :=
  { e with fields := e.fields.map Field.outline, documentation := .null }

/-- The model with the outlines of its entities, and enums without documentation. -/
def Model.outline (m : Model) : Model :=
  { entities := m.entities.map Entity.outline
    enums := m.enums.map fun e => { e with documentation := .null } }

theorem Entity.referenceDefects_outline (e : Entity) (entities enums : List Value) :
    e.outline.referenceDefects entities enums = e.referenceDefects entities enums := by
  simp only [referenceDefects, outline, List.mapM_map, List.isEmpty_map]
  rfl

theorem Entity.nameDefects_outline (e : Entity) : e.outline.nameDefects = e.nameDefects := by
  simp only [nameDefects, outline, List.mapM_map]
  rfl

namespace Model

/-- The warnings for a model are those for its outline. -/
theorem warnings_outline (m : Model) : m.outline.warnings = m.warnings := by
  have hentities : m.outline.entityNames = m.entityNames := by
    simp only [entityNames, outline, List.map_map]
    rfl
  have henums : m.outline.enumNames = m.enumNames := by
    simp only [enumNames, outline, List.map_map]
    rfl
  have hreferences : (m.outline.entities.mapM fun e => e.referenceDefects m.entityNames m.enumNames)
      = m.entities.mapM fun e => e.referenceDefects m.entityNames m.enumNames := by
    simp only [outline, List.mapM_map, Function.comp_def, Entity.referenceDefects_outline]
  have hnames :
      m.outline.entities.mapM Entity.nameDefects = m.entities.mapM Entity.nameDefects := by
    simp only [outline, List.mapM_map, Function.comp_def, Entity.nameDefects_outline]
  have henumNames : (m.outline.enums.mapM fun e => nameDefect e.name false (.badEnumName e.name)) =
      m.enums.mapM fun e => nameDefect e.name false (.badEnumName e.name) := by
    simp only [outline, List.mapM_map, Function.comp_def]
  rw [warnings, defects, hentities, henums, hreferences, hnames, henumNames]
  rfl

end Model

/-! ## Entities in another order -/

theorem Entity.referenceFindings_of_perm {entities entities' : List Value}
    (h : entities.Perm entities') (enums : List Value) (i : Nat) (e : Entity) :
    e.referenceFindings entities enums i = e.referenceFindings entities' enums i := by
  simp only [referenceFindings, Field.referenceFindings, h.contains_eq]

namespace Model

variable {m : Model}

/-- When the entities are permuted, the warnings of the rounds over them are permuted, each in its
round. -/
theorem warnings_of_perm (hm : m.isTextual = true) {es : List Entity} (h : es.Perm m.entities) :
    ∃ references names, { m with entities := es }.warnings =
        .ok (references ++ names ++ wordings m.enumFindings) ∧
      references.Perm (wordings m.referenceFindings) ∧
      names.Perm (wordings m.nameFindings) := by
  obtain ⟨hentities, henums⟩ := isTextual_iff.1 hm
  have htext : ∀ e ∈ es, e.isTextual = true := fun e he => hentities e (h.mem_iff.1 he)
  have hes : isTextual { m with entities := es } = true := isTextual_iff.2 ⟨htext, henums⟩
  have hreferences : (wordings (referenceFindings { m with entities := es })).Perm
      (wordings m.referenceFindings) := by
    refine perm_findEach h fun e he i j => ?_
    have hknown : (entityNames { m with entities := es }).Perm m.entityNames := h.map Entity.name
    rw [Entity.referenceFindings_of_perm hknown]
    have hi := Entity.referenceDefects_eq_findings (htext e he) m.entityNames m.enumNames i
    have hj := Entity.referenceDefects_eq_findings (htext e he) m.entityNames m.enumNames j
    exact wordings_eq_of_map_snd (Except.ok.inj (hi.symm.trans hj))
  have hnames : (wordings (nameFindings { m with entities := es })).Perm
      (wordings m.nameFindings) := by
    refine perm_findEach h fun e he i j => ?_
    have hi := Entity.nameDefects_eq_findings (htext e he) i
    have hj := Entity.nameDefects_eq_findings (htext e he) j
    exact wordings_eq_of_map_snd (Except.ok.inj (hi.symm.trans hj))
  refine ⟨_, _, ?_, hreferences, hnames⟩
  rw [warnings_eq hes, findings, wordings_append, wordings_append]
  rfl

/-! ## All defects and nothing else -/

/-- The warnings for a textual model are those of three rounds : together they list the defects of
the model, each once and in the order of their places. So there are none exactly if there is no
defect. They are the same for every model with the same outline, and when the entities are permuted,
they are permuted inside the two rounds over entities. -/
theorem warnings_list_defects (hm : m.isTextual = true) :
    ∃ references names enums : List (Place × Defect),
      m.warnings = .ok (wordings references ++ wordings names ++ wordings enums) ∧
      Lists (references ++ names ++ enums) m.DefectAt ∧
      (∀ x ∈ references, x.1.InRound 0) ∧ (∀ x ∈ names, x.1.InRound 1) ∧
      (∀ x ∈ enums, x.1.InRound 2) ∧
      (m.warnings = .ok [] ↔ ∀ p d, ¬ m.DefectAt p d) ∧
      (∀ m' : Model, m'.outline = m.outline → m'.warnings = m.warnings) ∧
      ∀ es, es.Perm m.entities → ∃ references' names',
        { m with entities := es }.warnings = .ok (references' ++ names' ++ wordings enums) ∧
          references'.Perm (wordings references) ∧ names'.Perm (wordings names) := by
  refine ⟨m.referenceFindings, m.nameFindings, m.enumFindings, ?_, lists_findings hm,
    m.orderly_referenceFindings.places, m.orderly_nameFindings.places,
    m.orderly_enumFindings.places, warnings_eq_nil_iff hm, fun m' houtline => ?_,
    fun es hes => warnings_of_perm hm hes⟩
  · rw [warnings_eq hm, findings, wordings_append, wordings_append]
  · rw [← warnings_outline m', houtline, warnings_outline m]

/-- A model with every kind of defect : a field that is both a relation and an enum and leads
nowhere, a field whose name begins with a digit, an entity without fields whose name is a reserved
word, and an enum whose name begins with a digit. -/
def sampleFlawed : Model :=
  { entities :=
      [{ name := .str "Order"
         fields := [{ name := .str "status", type := .str "Status", kind := .enum
                      isRelation := .bool true },
                    { name := .str "2nd", type := .str "String" }] },
       { name := .str "class" }]
    enums := [{ name := .str "1st" }] }

/-- The texts of the warnings for `sampleFlawed`. -/
theorem warnings_list_defects_sampleFlawed : sampleFlawed.isTextual = true ∧
    sampleFlawed.warnings = .ok
      ["Relation Order.status references unknown entity 'Status'",
       "Enum field Order.status references unknown enum 'Status'",
       "Entity 'class' has no fields",
       "Field Order.2nd is not a valid TypeScript property name",
       "Entity name 'class' is not a valid TypeScript identifier",
       "Enum name '1st' is not a valid TypeScript identifier"] ∧
    sampleFlawed.outline.warnings = sampleFlawed.warnings ∧
    ∃ references names enums references' names' : List Text,
      sampleFlawed.warnings = .ok (references ++ names ++ enums) ∧
      { sampleFlawed with entities := sampleFlawed.entities.reverse }.warnings =
        .ok (references' ++ names' ++ enums) ∧
      references'.Perm references ∧ names'.Perm names := by
  have htext : sampleFlawed.isTextual = true := by decide
  obtain ⟨references, names, enums, hwarnings, hlists, -, -, -, hnone, houtline, hperm⟩ :=
    warnings_list_defects htext
  obtain ⟨references', names', hreversed, hreferences, hnames⟩ :=
    hperm _ (List.reverse_perm sampleFlawed.entities)
  exact ⟨htext, by decide +kernel, houtline _ rfl, _, _, _, _, _, hwarnings, hreversed, hreferences,
    hnames⟩

end Model

end DtoPress
