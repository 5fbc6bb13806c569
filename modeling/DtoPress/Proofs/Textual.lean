import DtoPress.Dto.Settings
import DtoPress.Proofs.Entries
import DtoPress.Value.Sort
import Mathlib.Data.List.Nodup

/-!
# Textual models

A schema is expected to name things by texts, and a configuration to name modules and
directories by texts; a value of any other kind is carried along and can be a fault where it
is used. `Model.isTextual` and `Settings.isTextual` say that what is expected holds. Between
texts the equality of values is equality (`Value.str_beq`), any two can be compared
(`Value.allComparable_map_str`), and a look-up among them answers as membership does
(`Value.contains_iff`).
-/

namespace DtoPress

namespace Value

/-! ## Equality of values -/

mutual

/-- Values that are the same field for field are equal. -/
theorem beq_sound : ∀ {a b : Value}, beq a b = true → a = b
  | .null, .null, _ => rfl
  | .bool _, .bool _, h => congrArg Value.bool (eq_of_beq h)
  | .int _, .int _, h => congrArg Value.int (eq_of_beq h)
  | .float _, .float _, h => congrArg Value.float (eq_of_beq h)
  | .str _, .str _, h => congrArg Value.str (eq_of_beq h)
  | .list _, .list _, h => congrArg Value.list (beqList_sound h)
  | .object _, .object _, h => congrArg Value.object (beqFields_sound h)

theorem beqList_sound : ∀ {as bs : List Value}, beqList as bs = true → as = bs
  | [], [], _ => rfl
  | _ :: _, _ :: _, h => by
    obtain ⟨ha, has⟩ := Bool.and_eq_true_iff.1 h
    rw [beq_sound ha, beqList_sound has]

theorem beqFields_sound : ∀ {as bs : List (Text × Value)}, beqFields as bs = true → as = bs
  | [], [], _ => rfl
  | (_, _) :: _, (_, _) :: _, h => by
    obtain ⟨h, has⟩ := Bool.and_eq_true_iff.1 h
    obtain ⟨hk, ha⟩ := Bool.and_eq_true_iff.1 h
    rw [eq_of_beq hk, beq_sound ha, beqFields_sound has]

end

/-! ## Texts among values -/

/-- The value is a text. -/
def isText : Value → Bool
  | .str _ => true
  | _ => false

theorem isText_iff {v : Value} : v.isText = true ↔ ∃ t, v = .str t := by
  cases v <;> simp [isText]

/-- The value is an object. -/
def isObject : Value → Bool
  | .object _ => true
  | _ => false

theorem isObject_iff {v : Value} : v.isObject = true ↔ ∃ fields, v = .object fields := by
  cases v <;> simp [isObject]

/-- The value is a truth value. -/
def isFlag : Value → Bool
  | .bool _ => true
  | _ => false

theorem isFlag_iff {v : Value} : v.isFlag = true ↔ ∃ b, v = .bool b := by
  cases v <;> simp [isFlag]

theorem bool_truthy {v : Value} (h : v.isFlag = true) : Value.bool v.truthy = v := by
  obtain ⟨b, rfl⟩ := isFlag_iff.1 h
  rfl

theorem isKey_of_isText {v : Value} (h : v.isText = true) : v.isKey = true := by
  obtain ⟨t, rfl⟩ := isText_iff.1 h
  rfl

@[simp] theorem str_beq (a b : Text) : (Value.str a == Value.str b) = (a == b) := by
  simp [BEq.beq, same, canonical, beq]

theorem eq_str_of_canonical {v : Value} {t : Text} (h : canonical v = .str t) : v = .str t := by
  cases v with
  | str u => exact h
  | float x =>
    rw [canonical] at h
    cases hwhole : wholeNumber? x <;> rw [hwhole] at h <;> cases h
  | _ => cases h

/-- Only a text is equal to a text. -/
theorem eq_of_beq_str {v : Value} {t : Text} (h : (v == .str t) = true) : v = .str t :=
  eq_str_of_canonical (beq_sound h)

theorem str_equals_iff {v : Value} {t : Text} : (Value.str t).equals v = true ↔ .str t = v := by
  constructor
  · intro h
    have hcanonical : Value.str t = canonical v := beq_sound h
    exact (eq_str_of_canonical hcanonical.symm).symm
  · rintro rfl
    exact (str_beq t t).trans (beq_self_eq_true t)

@[simp] theorem str_equals (a b : Text) : (Value.str a).equals (.str b) = (a == b) :=
  str_beq a b

@[simp] theorem truthy_bool (b : Bool) : (Value.bool b).truthy = b := rfl

@[simp] theorem text_str (t : Text) : (Value.str t).text = t := rfl

theorem str_text {v : Value} (h : v.isText = true) : Value.str v.text = v := by
  obtain ⟨t, rfl⟩ := isText_iff.1 h
  rfl

theorem eq_of_text_eq {v w : Value} (hv : v.isText = true) (hw : w.isText = true)
    (h : v.text = w.text) : v = w := by
  rw [← str_text hv, ← str_text hw, h]

/-- Values that are texts, as the texts that they are. -/
theorem exists_texts : ∀ {vs : List Value}, vs.all isText = true →
    ∃ ts : List Text, vs = ts.map .str
  | [], _ => ⟨[], rfl⟩
  | v :: vs, h => by
    simp only [List.all_cons, Bool.and_eq_true] at h
    obtain ⟨t, rfl⟩ := isText_iff.1 h.1
    obtain ⟨ts, rfl⟩ := exists_texts h.2
    exact ⟨t :: ts, rfl⟩

theorem map_text_map_str {vs : List Value} (h : vs.all isText = true) :
    (vs.map text).map .str = vs := by
  obtain ⟨ts, rfl⟩ := exists_texts h
  simp

theorem nodup_map_str {ts : List Text} (h : ts.Nodup) : (ts.map Value.str).Nodup :=
  h.map fun _ _ => Value.str.inj

theorem contains_map_str (ts : List Text) (t : Text) :
    (ts.map Value.str).contains (.str t) = ts.contains t := by
  induction ts with
  | nil => rfl
  | cons u ts ih => rw [List.map_cons, List.contains_cons, List.contains_cons, str_beq, ih]

/-- Looking a text up among texts. -/
theorem contains_iff {vs : List Value} {v : Value} (hvs : vs.all isText = true)
    (hv : v.isText = true) : vs.contains v = true ↔ v ∈ vs := by
  obtain ⟨ts, rfl⟩ := exists_texts hvs
  obtain ⟨t, rfl⟩ := isText_iff.1 hv
  rw [contains_map_str, List.contains_iff_mem]
  simp

/-- What stands among texts is one of them. -/
theorem mem_of_contains {vs : List Value} {v : Value} (hvs : vs.all isText = true)
    (h : vs.contains v = true) : v ∈ vs := by
  obtain ⟨ts, rfl⟩ := exists_texts hvs
  obtain ⟨w, hw, hvw⟩ := List.contains_iff_exists_mem_beq.1 h
  obtain ⟨t, ht, rfl⟩ := List.mem_map.1 hw
  rw [eq_of_beq_str hvw]
  exact hw

theorem mem_eraseDups {vs : List Value} {v : Value} (hvs : vs.all isText = true) :
    v ∈ vs.eraseDups ↔ v ∈ vs := by
  obtain ⟨ts, rfl⟩ := exists_texts hvs
  simp [eraseDups_map fun a _ b _ => str_beq a b, List.mem_eraseDups]

/-- Texts without their duplicates are texts, each once. -/
theorem exists_texts_eraseDups {vs : List Value} (h : vs.all isText = true) :
    ∃ ts : List Text, vs.eraseDups = ts.map str ∧ ts.Nodup ∧ ∀ t, t ∈ ts ↔ .str t ∈ vs := by
  obtain ⟨ts, rfl⟩ := exists_texts h
  refine ⟨ts.eraseDups, eraseDups_map fun a _ b _ => str_beq a b, nodup_eraseDups ts,
    fun t => ?_⟩
  rw [List.mem_eraseDups, List.mem_map_of_injective fun _ _ => str.inj]

/-! ## Comparing texts -/

theorem anyUnordered_map_str (ts : List Text) : anyUnordered (ts.map Value.str) = false := by
  induction ts with
  | nil => rfl
  | cons t ts ih => simp [anyUnordered, isUnordered, ih]

theorem less?_str (a b : Text) : less? (.str a) (.str b) = some (decide (a < b)) := rfl

theorem allComparable_map_str (ts : List Text) : allComparable (ts.map Value.str) = true := by
  induction ts with
  | nil => rfl
  | cons t ts ih =>
    rw [List.map_cons, allComparable, ih, Bool.and_true, List.all_eq_true]
    intro w hw
    obtain ⟨u, -, rfl⟩ := List.mem_map.1 hw
    simp [less?_str]

end Value

/-! ## Models and settings -/

/-- The name and the type of a field are texts. -/
def Field.isTextual (f : Field) : Bool :=
  f.name.isText && f.type.isText

/-- The name of an entity and the names and types of its fields are texts. -/
def Entity.isTextual (e : Entity) : Bool :=
  e.name.isText && e.fields.all Field.isTextual

/-- All names and types of a model are texts. -/
def Model.isTextual (m : Model) : Bool :=
  m.entities.all Entity.isTextual && m.enums.all fun e => e.name.isText

theorem Field.isTextual_iff {f : Field} :
    f.isTextual = true ↔ f.name.isText = true ∧ f.type.isText = true := by
  simp [isTextual]

theorem Entity.isTextual_iff {e : Entity} : e.isTextual = true ↔
    e.name.isText = true ∧ ∀ f ∈ e.fields, f.isTextual = true := by
  simp [isTextual]

theorem Model.isTextual_iff {m : Model} : m.isTextual = true ↔
    (∀ e ∈ m.entities, e.isTextual = true) ∧ ∀ e ∈ m.enums, e.name.isText = true := by
  simp [isTextual]

theorem Model.entityNames_all_isText {m : Model} (h : m.isTextual = true) :
    m.entityNames.all Value.isText = true := by
  simp only [entityNames, List.all_map, List.all_eq_true]
  intro e he
  exact (Entity.isTextual_iff.1 ((isTextual_iff.1 h).1 e he)).1

theorem Model.enumNames_all_isText {m : Model} (h : m.isTextual = true) :
    m.enumNames.all Value.isText = true := by
  simp only [enumNames, List.all_map, List.all_eq_true]
  exact (isTextual_iff.1 h).2

/-- The modules that generated files import from, and the namespace that is imported. -/
def Settings.modules (s : Settings) : List Value :=
  [s.validatorModule, s.transformerModule, s.jsonschemaModule, s.ormModule, s.ormNamespace,
   s.helpersModule, s.enumsModule, s.decoratorsModule, s.relationModule]

/-- All modules and the namespace are texts. -/
def Settings.hasTextModules (s : Settings) : Bool :=
  s.modules.all Value.isText

/-- All modules and directories are texts. -/
def Settings.isTextual (s : Settings) : Bool :=
  s.hasTextModules && s.modelsDir.isText && s.enumsDir.isText

theorem Settings.isTextual_iff {s : Settings} : s.isTextual = true ↔
    s.hasTextModules = true ∧ s.modelsDir.isText = true ∧ s.enumsDir.isText = true := by
  simp [isTextual, and_assoc]

end DtoPress
