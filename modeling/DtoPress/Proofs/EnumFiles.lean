import DtoPress.Proofs.ClassFiles
import DtoPress.Proofs.Literals
import DtoPress.Proofs.LookUps

/-!
# What enum files tell

Without comments an enum file is a line with the name, a line for each value and a brace
(`enumFile_eq_unlines`). The line of a value spells it twice, as it is and in a literal that is read
back as the value (`holdsValue_valueCode`), so it is the line of no other value, whatever characters
the value has (`valueCode_injective`). Nor can lines be taken for one another, as long as the name
and the values are lines themselves : the file says what they are (`enumCodes_inj`).
`Session.emitEnum_lossless` : this file is what an emission writes.
-/

set_option linter.unusedSectionVars false

namespace DtoPress

/-! ## Lines of values -/

section ValueLines

variable {indent : Text} {q : Char}

/-- The line holds a value and a literal in quote character `q` that is read as the value, whatever
comes behind it. -/
def HoldsValue (indent : Text) (q : Char) (value line : Text) : Prop :=
  ∃ literal : Text, line = indent ++ value ++ " = " ++ literal ++ ",\n" ∧
    ∀ rest, Text.readLiteral q (literal ++ rest) = some (value, rest)

/-- What the line of a value has behind it. -/
def behindValue (q : Char) (value : Text) : Text :=
  " = " ++ Text.literal q value ++ ","

/-- The line of a value, without its end. -/
def valueCode (indent : Text) (q : Char) (value : Text) : Text :=
  indent ++ (value ++ behindValue q value)

theorem enumLine_str (indent : Text) (q : Char) (value : Text) :
    enumLine indent q (.str value) = valueCode indent q value ++ "\n" := by
  simp only [enumLine, valueCode, behindValue, Value.text_str, List.append_assoc]
  rfl

theorem holdsValue_valueCode (indent : Text) (hq : q ≠ '\\') (value : Text) :
    HoldsValue indent q value (valueCode indent q value ++ "\n") := by
  refine ⟨Text.literal q value, ?_, Text.readLiteral_literal hq value⟩
  rw [← enumLine_str]
  rfl

/-- Different values have different lines. -/
theorem valueCode_injective (indent : Text) (q : Char) :
    Function.Injective (valueCode indent q) := by
  intro value other h
  have hlonger : ∀ t more,
      (behindValue q t).length ≤ (behindValue q (t ++ more)).length := by
    intro t more
    have hliteral := Text.length_literal_le q [] t more []
    rw [List.append_nil, List.append_nil, List.nil_append, List.nil_append] at hliteral
    simp only [behindValue, List.length_append]
    exact Nat.add_le_add_right (Nat.add_le_add_left hliteral _) _
  exact Text.append_self_injective hlonger (List.append_cancel_left h)

theorem isLine_valueCode (hindent : indent.isLine = true) (hq : q ≠ '\n') {value : Text}
    (h : value.isLine = true) : (valueCode indent q value).isLine = true := by
  have hvalue : value.all Text.isInLine = true := h
  have hfront : indent.all Text.isInLine = true := hindent
  simp +decide only [Text.isLine, valueCode, behindValue, List.all_append, hvalue, hfront,
    Text.all_ofString, Text.all_literal hq hvalue]

end ValueLines

/-! ## Enum files -/

/-- The enum of a name and values that are texts. -/
def EnumType.ofTexts (name : Text) (values : List Text) (documentation : Value) : EnumType :=
  { name := .str name, values := values.map .str, documentation }

/-- The line of the name of an enum. -/
def enumCode (name : Text) : Text :=
  "export enum " ++ (name ++ " \x7b")

/-- The lines of an enum file without a comment. -/
def enumCodes (indent : Text) (q : Char) (name : Text) (values : List Text) : List Text :=
  enumCode name :: (values.map (valueCode indent q) ++ [("\x7d" : Text)])

section EnumFiles

variable {indent : Text} {q : Char} {name other : Text} {values others : List Text}

/-- Without comments the documentation of an enum is not in its file. -/
theorem enumFile_eq_unlines (indent : Text) (q : Char) (name : Text) (values : List Text)
    (documentation : Value) : enumFile indent q false (.ofTexts name values documentation) =
      unlines (enumCodes indent q name values) := by
  have hvalues : (values.map Value.str).flatMap (enumLine indent q) =
      unlines (values.map (valueCode indent q)) := by
    rw [unlines, List.flatMap_map, List.flatMap_map]
    exact congrArg (List.flatMap · values) (funext (enumLine_str indent q))
  rw [enumFile, if_neg Bool.false_ne_true, enumCodes, unlines_cons, unlines_append, ← hvalues]
  simp only [EnumType.ofTexts, enumCode, Value.text_str, List.append_assoc]
  rfl

theorem isLine_of_mem_enumCodes (hindent : indent.isLine = true) (hq : q ≠ '\n')
    (hname : name.isLine = true) (hvalues : ∀ v ∈ values, v.isLine = true) :
    ∀ l ∈ enumCodes indent q name values, l.isLine = true := by
  have hhead : (enumCode name).isLine = true := by
    have hinLine : name.all Text.isInLine = true := hname
    simp +decide only [Text.isLine, enumCode, List.all_append, hinLine, Text.all_ofString]
  rw [enumCodes, List.forall_mem_cons, List.forall_mem_append, List.forall_mem_map,
    List.forall_mem_singleton]
  exact ⟨hhead, fun v hv => isLine_valueCode hindent hq (hvalues v hv), by decide⟩

/-- The lines of an enum file are those of no other name or values. -/
theorem enumCodes_inj : enumCodes indent q name values = enumCodes indent q other others ↔
    name = other ∧ values = others := by
  constructor
  · intro h
    obtain ⟨hhead, hlines⟩ := List.cons.inj h
    refine ⟨List.append_cancel_right (List.append_cancel_left hhead), ?_⟩
    exact List.map_injective_iff.2 (valueCode_injective indent q) (List.append_cancel_right hlines)
  · rintro ⟨rfl, rfl⟩
    rfl

end EnumFiles

namespace Generator

/-- What is written into the file of an enum. -/
def enumText (g : Generator) (e : EnumType) : Text :=
  enumFile g.indent g.engine.quote g.config.addComments.truthy e

end Generator

namespace Session

/-- A generator that was made from a configuration without comments writes enums, whatever it has
looked up since and wherever the files go. A file has the name and a line for each value, which
holds it and a literal that is read as it. Two enums of lines have the same file exactly if they
have the same name and the same values. -/
theorem emitEnum_lossless {cls : GeneratorClass} {config : Config} {g : Generator}
    (h : Generator.create cls config = .ok g) (hcomments : config.addComments.truthy = false)
    {s : Session} {lookUps : List String} (hs : s.generator = g.used lookUps) :
    (∀ e, (s.emit (s.generator.emitEnum e)).1.workspace.SameFiles
          (s.workspace.write (g.enumPath e.name) (g.enumText e)).1 ∧
        (s.emit (s.generator.emitEnum e)).2 =
          (s.workspace.write (g.enumPath e.name) (g.enumText e)).2.map (Trouble.map .output)) ∧
    (∃ n, spacesOf config.indentSize = .ok n ∧ ∀ name values documentation, ∃ lines,
      g.enumText (.ofTexts name values documentation) =
          "export enum " ++ name ++ " \x7b\n" ++ lines.flatten ++ "\x7d\n" ∧
        List.Forall₂ (HoldsValue (List.replicate n (.char ' ')) g.engine.quote) values lines) ∧
    ∀ name other values others documentation documentation',
      name.isLine = true → other.isLine = true → (∀ v ∈ values, v.isLine = true) →
      (∀ v ∈ others, v.isLine = true) →
      (g.enumText (.ofTexts name values documentation) =
          g.enumText (.ofTexts other others documentation') ↔ name = other ∧ values = others) := by
  obtain ⟨hbackslash, hnewline⟩ : g.engine.quote ≠ '\\' ∧ g.engine.quote ≠ '\n' := by
    rcases Generator.quote_of_create h with hq | hq <;> rw [hq] <;> decide
  obtain ⟨settings, n, -, hn, hmade⟩ := Generator.of_create h
  have hindent : g.indent = List.replicate n (.char ' ') := by rw [hmade]
  have htext : ∀ name values documentation, g.enumText (.ofTexts name values documentation) =
      unlines (enumCodes g.indent g.engine.quote name values) := by
    intro name values documentation
    rw [Generator.enumText, Generator.config_of_create h, hcomments, enumFile_eq_unlines]
  refine ⟨fun e => ?_, ⟨n, hn, fun name values documentation => ?_⟩, ?_⟩
  · obtain ⟨d, hd, hpath, hfile⟩ := (Generator.ready_of_create h).emitEnum_draft e
    rw [hs, Generator.used_emitEnum]
    have hemit := s.emit_of_ok hd
    rw [hpath, hfile] at hemit
    exact hemit
  · refine ⟨values.map fun v => valueCode g.indent g.engine.quote v ++ "\n", ?_, ?_⟩
    · rw [htext, enumCodes, unlines_cons, unlines_append, ← List.flatMap_def, unlines,
        List.flatMap_map, enumCode]
      simp only [List.append_assoc]
      rfl
    · rw [List.forall₂_map_right_iff, List.forall₂_same, hindent]
      exact fun v _ => holdsValue_valueCode _ hbackslash v
  · intro name other values others documentation documentation' hname hother hvalues hothers
    have hspaces : g.indent.isLine = true := by
      rw [hindent, Text.isLine, List.all_replicate]
      simp +decide
    rw [htext, htext]
    constructor
    · intro heq
      exact enumCodes_inj.1 (unlines_injOn
        (isLine_of_mem_enumCodes hspaces hnewline hname hvalues)
        (isLine_of_mem_enumCodes hspaces hnewline hother hothers) heq)
    · rintro ⟨rfl, rfl⟩
      rfl

/-- Values with quote characters, backslashes, braces, and what stands between a value and its
literal. -/
def sampleValues : List Text := ["a = \"a\",", "\x7d", "\\", "\"", "a"]

theorem emitEnum_lossless_sampleValues :
    ∃ g, Generator.create .typescript { addComments := .bool false } = .ok g ∧
      (∀ v ∈ sampleValues, v.isLine = true) ∧
      (∃ lines, List.Forall₂ (HoldsValue "    " g.engine.quote) sampleValues lines ∧
        g.enumText (.ofTexts "Signs" sampleValues .null) =
          "export enum Signs \x7b\n" ++ lines.flatten ++ "\x7d\n") ∧
      g.enumText (.ofTexts "Signs" sampleValues .null) =
        g.enumText (.ofTexts "Signs" sampleValues (.str "Marks")) ∧
      g.enumText (.ofTexts "Signs" sampleValues .null) ≠
        g.enumText (.ofTexts "Signs" sampleValues.reverse .null) := by
  obtain ⟨g, hg⟩ : ∃ g, Generator.create .typescript { addComments := .bool false } = .ok g :=
    ⟨_, rfl⟩
  have hcomments : ({ addComments := .bool false } : Config).addComments.truthy = false := rfl
  have hs : (Session.mk g { tree := {}, target := .buffer [] }).generator =
      g.used [] := rfl
  obtain ⟨-, ⟨n, hn, hlines⟩, hinj⟩ := emitEnum_lossless hg hcomments hs
  obtain rfl : 4 = n := Except.ok.inj hn
  obtain ⟨lines, htext, hholds⟩ := hlines "Signs" sampleValues .null
  have hname : ("Signs" : Text).isLine = true := by decide
  have hvalues : ∀ v ∈ sampleValues, v.isLine = true := by decide
  have hreverse : ∀ v ∈ sampleValues.reverse, v.isLine = true := by decide
  have hsame := (hinj "Signs" "Signs" sampleValues sampleValues .null (.str "Marks") hname hname
    hvalues hvalues).2 ⟨rfl, rfl⟩
  refine ⟨g, hg, hvalues, ⟨lines, hholds, htext⟩, hsame, fun heq => ?_⟩
  have hvaluesEq := ((hinj _ _ _ _ .null .null hname hname hvalues hreverse).1 heq).2
  exact absurd hvaluesEq (by decide)

end Session

end DtoPress
