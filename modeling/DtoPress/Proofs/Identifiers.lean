import DtoPress.Proofs.Warnings

/-!
# The names that pass

`Text.IsIdentifier` is the grammar of identifiers, said character by character : a letter, a line or
a dollar sign, then any of these and digits. A text that does not end in a line feed passes as a
name if and only if it follows the grammar and, where reserved words cannot stand, is none of them.
One line feed at the end is not looked at, neither by the grammar nor among the reserved words, so
that a name without a warning is an identifier or has one line feed behind it
(`checkName_iff_isIdentifier`).
-/

namespace DtoPress

/-! ## The grammar -/

/-- A letter of the basic alphabet. -/
def IsLetter (c : Char) : Prop :=
  'A' ≤ c ∧ c ≤ 'Z' ∨ 'a' ≤ c ∧ c ≤ 'z'

/-- What an identifier begins with. -/
def BeginsIdentifier (c : Char) : Prop :=
  IsLetter c ∨ c = '_' ∨ c = '$'

/-- What an identifier goes on with. -/
def ContinuesIdentifier (c : Char) : Prop :=
  BeginsIdentifier c ∨ '0' ≤ c ∧ c ≤ '9'

/-- The text is a first character of an identifier and further ones. -/
def Text.IsIdentifier (t : Text) : Prop :=
  ∃ c cs, t = ofChars (c :: cs) ∧ BeginsIdentifier c ∧ ∀ d ∈ cs, ContinuesIdentifier d

theorem isAlpha_iff {c : Char} : c.isAlpha = true ↔ IsLetter c := by
  have hupper : c.isUpper = true ↔ 'A' ≤ c ∧ c ≤ 'Z' := decide_eq_true_iff
  have hlower : c.isLower = true ↔ 'a' ≤ c ∧ c ≤ 'z' :=
    Bool.and_eq_true_iff.trans (and_congr decide_eq_true_iff decide_eq_true_iff)
  exact Bool.or_eq_true_iff.trans (or_congr hupper hlower)

theorem isIdentifierStart_iff {c : Char} : isIdentifierStart c = true ↔ BeginsIdentifier c := by
  simp only [isIdentifierStart, BeginsIdentifier, Bool.or_eq_true, decide_eq_true_eq, isAlpha_iff,
    or_assoc]

theorem isIdentifierRest_iff {c : Char} : isIdentifierRest c = true ↔ ContinuesIdentifier c := by
  have hdigit : c.isDigit = true ↔ '0' ≤ c ∧ c ≤ '9' :=
    Bool.and_eq_true_iff.trans (and_congr decide_eq_true_iff decide_eq_true_iff)
  rw [ContinuesIdentifier, ← isIdentifierStart_iff, ← hdigit]
  simp only [isIdentifierRest, isIdentifierStart, Char.isAlphanum, Bool.or_eq_true]
  tauto

namespace Text

theorem all_isA_iff {p : Char → Bool} : ∀ {t : Text},
    t.all (·.isA p) = true ↔ ∃ cs, t = ofChars cs ∧ ∀ c ∈ cs, p c = true
  | [] => ⟨fun _ => ⟨[], rfl, fun _ hc => absurd hc List.not_mem_nil⟩, fun _ => rfl⟩
  | .half i :: t => by
    refine ⟨fun h => (by cases h), fun ⟨cs, h, _⟩ => ?_⟩
    cases cs <;> cases h
  | .char c :: t => by
    rw [List.all_cons, Bool.and_eq_true, all_isA_iff]
    constructor
    · rintro ⟨hc, cs, rfl, hcs⟩
      exact ⟨c :: cs, rfl, List.forall_mem_cons.2 ⟨hc, hcs⟩⟩
    · rintro ⟨cs, h, hcs⟩
      cases cs with
      | nil => cases h
      | cons d ds =>
        obtain ⟨hcd, rfl⟩ := List.cons.inj h
        obtain rfl := CodePoint.char.inj hcd
        exact ⟨(List.forall_mem_cons.1 hcs).1, ds, rfl, (List.forall_mem_cons.1 hcs).2⟩

theorem isIdentifier_iff : ∀ {t : Text}, isIdentifier t = true ↔ t.IsIdentifier
  | [] => by
    refine ⟨fun h => (by cases h), fun ⟨c, cs, h, _⟩ => ?_⟩
    cases h
  | .half i :: t => by
    refine ⟨fun h => (by cases h), fun ⟨c, cs, h, _⟩ => ?_⟩
    cases h
  | .char c :: t => by
    rw [isIdentifier, Bool.and_eq_true, all_isA_iff]
    constructor
    · rintro ⟨hc, cs, rfl, hcs⟩
      exact ⟨c, cs, rfl, isIdentifierStart_iff.1 hc, fun d hd => isIdentifierRest_iff.1 (hcs d hd)⟩
    · rintro ⟨d, ds, h, hd, hds⟩
      obtain ⟨hcd, rfl⟩ := List.cons.inj h
      obtain rfl := CodePoint.char.inj hcd
      exact ⟨isIdentifierStart_iff.2 hd, ds, rfl, fun e he => isIdentifierRest_iff.2 (hds e he)⟩

end Text

/-! ## One line feed at the end -/

theorem dropFinalNewline_of_ne {t : Text} (h : t.getLast? ≠ some (.char '\n')) :
    dropFinalNewline t = t := by
  rw [dropFinalNewline, if_neg h]

theorem dropFinalNewline_append (t : Text) : dropFinalNewline (t ++ "\n") = t := by
  have hlast : (t ++ "\n").getLast? = some (.char '\n') := List.getLast?_concat
  rw [dropFinalNewline, if_pos hlast]
  exact List.dropLast_concat

theorem append_newline_notMem_reservedWords (t : Text) : t ++ "\n" ∉ reservedWords := by
  have hwords : ∀ w ∈ reservedWords, w.getLast? ≠ some (.char '\n') := by decide
  exact fun h => hwords _ h List.getLast?_concat

/-- An identifier, or one with a line feed behind it. -/
def Text.IsNearlyIdentifier (t : Text) : Prop :=
  ∃ s : Text, s.IsIdentifier ∧ (t = s ∨ t = s ++ "\n")

/-! ## What the check lets pass -/

theorem isValidName_iff {t : Text} {allowReserved : Bool} :
    isValidName t allowReserved = true ↔
      (dropFinalNewline t).IsIdentifier ∧ (allowReserved = true ∨ t ∉ reservedWords) := by
  simp [isValidName, Text.isIdentifier_iff]

/-- No line feed is part of an identifier. -/
theorem Text.IsIdentifier.getLast?_ne {t : Text} (h : t.IsIdentifier) :
    t.getLast? ≠ some (.char '\n') := by
  obtain ⟨c, cs, rfl, hc, hcs⟩ := h
  intro hlast
  obtain ⟨d, hd, hnewline⟩ := List.mem_map.1 (List.mem_of_getLast? hlast)
  obtain rfl := CodePoint.char.inj hnewline
  have hcontinues : ContinuesIdentifier '\n' := by
    rcases List.mem_cons.1 hd with rfl | hd
    · exact .inl hc
    · exact hcs _ hd
  have hnot : isIdentifierRest '\n' = false := by decide
  rw [isIdentifierRest_iff.2 hcontinues] at hnot
  cases hnot

theorem isNearlyIdentifier_iff {t : Text} :
    t.IsNearlyIdentifier ↔ (dropFinalNewline t).IsIdentifier := by
  constructor
  · rintro ⟨s, hs, rfl | rfl⟩
    · rwa [dropFinalNewline_of_ne hs.getLast?_ne]
    · rwa [dropFinalNewline_append]
  · intro h
    by_cases hlast : t.getLast? = some (.char '\n')
    · obtain ⟨s, rfl⟩ := List.getLast?_eq_some_iff.1 hlast
      exact ⟨s, (dropFinalNewline_append s) ▸ h, .inr rfl⟩
    · rw [dropFinalNewline_of_ne hlast] at h
      exact ⟨t, h, .inl rfl⟩

/-- A name of a textual model that draws no warning of its own has passed. -/
theorem Model.isNearlyIdentifier_of_notMem {m : Model} (hm : m.isTextual = true) {t : Text}
    {p : Place} {d : Defect} {ws : List Text} (hws : m.warnings = .ok ws)
    (hdefect : checkName (.str t) false = .ok false → m.DefectAt p d) (hnot : d.message ∉ ws) :
    t.IsNearlyIdentifier := by
  obtain rfl := Except.ok.inj ((warnings_eq hm).symm.trans hws)
  rw [isNearlyIdentifier_iff]
  cases hvalid : isValidName t false with
  | true => exact (isValidName_iff.1 hvalid).1
  | false =>
    have hmem := mem_findings_of_defectAt hm (hdefect (by rw [checkName_str, hvalid]))
    exact absurd (List.mem_map_of_mem hmem) hnot

/-- Every text is answered. One that does not end in a line feed passes exactly if it is an
identifier, and no reserved word where none is allowed. With a line feed behind it, a text passes
exactly if it is an identifier. So a name of a textual model that draws no warning is an identifier
or one with a line feed behind it. -/
theorem checkName_iff_isIdentifier (t : Text) :
    (∀ allowReserved, ∃ passes, checkName (.str t) allowReserved = .ok passes) ∧
    (t.getLast? ≠ some (.char '\n') →
      (checkName (.str t) true = .ok true ↔ t.IsIdentifier) ∧
      (checkName (.str t) false = .ok true ↔ t.IsIdentifier ∧ t ∉ reservedWords)) ∧
    (∀ allowReserved, checkName (.str (t ++ "\n")) allowReserved = .ok true ↔ t.IsIdentifier) ∧
    ∀ (m : Model) ws, m.isTextual = true → m.warnings = .ok ws →
      (∀ e ∈ m.entities, e.name = .str t → (Defect.badEntityName e.name).message ∉ ws →
        t.IsNearlyIdentifier) ∧
      ∀ e ∈ m.enums, e.name = .str t → (Defect.badEnumName e.name).message ∉ ws →
        t.IsNearlyIdentifier := by
  refine ⟨fun allowReserved => ⟨_, checkName_str t allowReserved⟩, fun ht => ⟨?_, ?_⟩,
    fun allowReserved => ?_, fun m ws hm hws => ⟨fun e he hname hnot => ?_,
      fun e he hname hnot => ?_⟩⟩
  · rw [checkName_str, Except.ok.injEq, isValidName_iff, dropFinalNewline_of_ne ht]
    exact and_iff_left (.inl rfl)
  · rw [checkName_str, Except.ok.injEq, isValidName_iff, dropFinalNewline_of_ne ht]
    exact and_congr_right fun _ => or_iff_right Bool.false_ne_true
  · rw [checkName_str, Except.ok.injEq, isValidName_iff, dropFinalNewline_append]
    exact and_iff_left (.inr (append_newline_notMem_reservedWords t))
  · obtain ⟨i, hi⟩ := List.getElem?_of_mem he
    exact Model.isNearlyIdentifier_of_notMem hm hws (fun h => .badEntityName hi (hname ▸ h)) hnot
  · obtain ⟨k, hk⟩ := List.getElem?_of_mem he
    exact Model.isNearlyIdentifier_of_notMem hm hws (fun h => .badEnumName hk (hname ▸ h)) hnot

/-- A model with an entity and an enum, each with a line feed at the end of its name. -/
def sampleNewline : Model :=
  { entities := [{ name := .str "Order\n", fields := [{ name := .str "id", type := .str "Int" }] }]
    enums := [{ name := .str "class\n" }] }

theorem checkName_iff_isIdentifier_sampleNewline :
    checkName (.str "class") true = .ok true ∧ checkName (.str "class") false ≠ .ok true ∧
    checkName (.str "class\n") false = .ok true ∧
    sampleNewline.isTextual = true ∧ sampleNewline.warnings = .ok [] ∧
    Text.IsNearlyIdentifier "Order\n" := by
  have hclass : Text.IsIdentifier "class" := Text.isIdentifier_iff.1 (by decide)
  have htext : sampleNewline.isTextual = true := by decide
  have hwarnings : sampleNewline.warnings = .ok [] := by rfl
  obtain ⟨-, hplain, hnewline, -⟩ := checkName_iff_isIdentifier "class"
  obtain ⟨-, -, -, hmodel⟩ := checkName_iff_isIdentifier "Order\n"
  obtain ⟨hreserved, hfree⟩ := hplain (by decide)
  refine ⟨hreserved.2 hclass, fun h => (hfree.1 h).2 (by decide), (hnewline false).2 hclass, htext,
    hwarnings, ?_⟩
  exact (hmodel sampleNewline [] htext hwarnings).1 _ List.mem_cons_self rfl List.not_mem_nil

/-- A line feed at the end of a name does pass. -/
theorem checkName_newline_passes :
    checkName (.str "Order\n") true = .ok true ∧ checkName (.str "Order\n") false = .ok true ∧
      ¬ Text.IsIdentifier "Order\n" := by
  refine ⟨by rfl, by rfl, fun h => ?_⟩
  have hnot : isIdentifier "Order\n" = false := by decide
  rw [Text.isIdentifier_iff.2 h] at hnot
  cases hnot

end DtoPress
