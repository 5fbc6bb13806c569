import DtoPress.Proofs.Merging

/-!
# Where generated files quote texts

Generated code holds texts from outside inside literals : the modules of imports and exports, the
names of classes and the values of enums. `Quotation` is a piece of code with one literal, and a
list of things is printed as one quotation after the other. The literal of each of them is read as
its text, and behind the literal the code goes on as it does for any other text (`Quotes.of_eq`).
`Generator.literals_read_back` : so it is in all files that a generator writes, in either quote
style.
-/

set_option linter.unusedSectionVars false

namespace DtoPress

/-! ## Quotations -/

/-- A piece of code with a literal of a value. -/
structure Quotation where
  front : Text
  value : Text
  back : Text

/-- The code of a quotation. -/
def Quotation.text (q : Char) (x : Quotation) : Text :=
  x.front ++ Text.literal q x.value ++ x.back

/-- The text has quotations one after the other. Where the literal of one begins, a literal is read
as its value, and what comes behind the literal is the rest of its code, the others and the rest of
the text. -/
def Quotes (q : Char) (text : Text) (xs : List Quotation) : Prop :=
  ∃ head tail : Text, ∀ before x after, xs = before ++ x :: after → ∃ rest : Text,
    text = head ++ before.flatMap (Quotation.text q) ++ x.front ++ rest ∧
    Text.readLiteral q rest =
      some (x.value, x.back ++ after.flatMap (Quotation.text q) ++ tail)

theorem Quotes.of_eq {q : Char} (hq : q ≠ '\\') (head tail : Text) {text : Text}
    {xs : List Quotation} (h : text = head ++ xs.flatMap (Quotation.text q) ++ tail) :
    Quotes q text xs := by
  refine ⟨head, tail, fun before x after hxs => ?_⟩
  refine ⟨Text.literal q x.value ++ (x.back ++ after.flatMap (Quotation.text q) ++ tail), ?_,
    Text.readLiteral_literal hq _ _⟩
  rw [h, hxs, List.flatMap_append, List.flatMap_cons, Quotation.text]
  simp only [List.append_assoc]

/-! ## What files quote -/

/-- The import of a group, which quotes the module. -/
def importQuotation (group : Value × List Value) : Quotation :=
  { front := "import \x7b " ++ Text.commaSeparated (group.2.map Value.text) ++ " \x7d from "
    value := group.1.text
    back := ";\n" }

/-- The line of a class that quotes its name. -/
def classNameQuotation (indent name : Text) : Quotation :=
  { front := indent ++ "static className: string = ", value := name, back := ";\n" }

/-- The line of a value of an enum, which quotes it. -/
def valueQuotation (indent : Text) (v : Value) : Quotation :=
  { front := indent ++ v.text ++ " = ", value := v.text, back := ",\n" }

/-- The line of an export, which quotes the module. -/
def exportQuotation (e : Export) : Quotation :=
  { front := "export \x7b " ++ e.symbol.text ++ " \x7d from ", value := e.module, back := ";\n" }

/-- What the file of decorators imports. -/
def Settings.decoratorImports (s : Settings) : Imports :=
  [(s.validatorModule, [.str "ValidateNested"]), (s.transformerModule, [.str "Type"]),
   (s.jsonschemaModule, [.str "JSONSchema"])]

theorem importLines_eq_quotations (q : Char) (imports : Imports) : importLines q imports =
    (imports.withSymbols.map importQuotation).flatMap (Quotation.text q) := by
  rw [Imports.importLines_eq_statements, List.flatMap_map, List.flatMap_map]
  rfl

theorem staticText_className (indent : Text) (q : Char) (name : Text) :
    staticText indent { name := .str "className", type := .str "string"
                        initializer := .str (Text.literal q name) } =
      (classNameQuotation indent name).text q := by
  simp only [staticText, classNameQuotation, Quotation.text, Value.text_str, List.append_assoc]
  rfl

/-- A class file begins with its imports and ends with the static properties of its class. -/
theorem exists_classFile_eq {layout : Layout} {imports : Imports} {c : ClassDeclaration} {t : Text}
    (h : classFile layout imports c = .ok t) : ∃ body : Text, t = importLines layout.quote imports
      ++ (body ++ c.statics.flatMap (staticText layout.indent) ++ "\x7d\n") := by
  obtain ⟨text, htext, hfile⟩ := bind_eq_ok_iff.1 h
  obtain ⟨properties, -, hclass⟩ := bind_eq_ok_iff.1 htext
  rw [← Except.ok.inj hfile, ← Except.ok.inj hclass]
  refine ⟨"\n" ++ (headComment c.comment ++ (if c.isExported.truthy then "export " else "") ++
    "class " ++ c.name.text ++ " \x7b\n" ++ properties.flatten), ?_⟩
  simp only [List.append_assoc]

section Files

variable {q : Char}

theorem quotes_classFile {layout : Layout} (hq : layout.quote ≠ '\\') {imports : Imports}
    {c : ClassDeclaration} {t name : Text} (h : classFile layout imports c = .ok t)
    (hname : c.statics = [{ name := .str "className", type := .str "string"
                            initializer := .str (Text.literal layout.quote name) }]) :
    Quotes layout.quote t (imports.withSymbols.map importQuotation) ∧
      Quotes layout.quote t [classNameQuotation layout.indent name] := by
  obtain ⟨body, rfl⟩ := exists_classFile_eq h
  constructor
  · exact .of_eq hq "" _ (congrArg (· ++ _) (importLines_eq_quotations _ imports))
  · refine .of_eq hq (importLines layout.quote imports ++ body) "\x7d\n" ?_
    rw [hname, List.flatMap_singleton, List.flatMap_singleton, staticText_className]
    simp only [List.append_assoc]

theorem quotes_enumFile (hq : q ≠ '\\') (indent : Text) (comments : Bool) (e : EnumType) :
    Quotes q (enumFile indent q comments e) (e.values.map (valueQuotation indent)) := by
  refine .of_eq hq ((if comments then headComment e.documentation else "") ++
    "export enum " ++ e.name.text ++ " \x7b\n") "\x7d\n" ?_
  rw [List.flatMap_map]
  rfl

theorem quotes_barrelFile (hq : q ≠ '\\') (exports : List Export) :
    Quotes q (barrelFile q exports) (exports.map exportQuotation) := by
  refine .of_eq hq "" "" ?_
  rw [List.flatMap_map]
  exact (List.append_nil _).symm

/-- The line of code of an import in the file of decorators. -/
def importCodeLine (q : Char) (group : Value × List Value) : CodeLine :=
  ⟨0, (importQuotation group).front ++ Text.literal q group.1.text ++ ";"⟩

theorem importCodeLine_text (indent : Text) (q : Char) (group : Value × List Value) :
    (importCodeLine q group).text indent ++ "\n" = (importQuotation group).text q := by
  show (importQuotation group).front ++ Text.literal q group.1.text ++ ";" ++ "\n" = _
  rw [List.append_assoc]
  rfl

theorem exists_decoratorLines_eq (q : Char) (s : Settings) : ∃ rest : List CodeLine,
    decoratorLines q s.validatorModule.text s.transformerModule.text s.jsonschemaModule.text =
      s.decoratorImports.map (importCodeLine q) ++ rest :=
  ⟨_, rfl⟩

theorem quotes_decoratorsFile (hq : q ≠ '\\') (indent : Text) (s : Settings) :
    Quotes q (decoratorsFile indent q s.validatorModule.text s.transformerModule.text
      s.jsonschemaModule.text) (s.decoratorImports.map importQuotation) := by
  obtain ⟨rest, hlines⟩ := exists_decoratorLines_eq q s
  refine .of_eq hq "" (unlines (rest.map (CodeLine.text indent))) ?_
  rw [decoratorsFile, hlines, List.map_append, unlines_append, unlines, List.flatMap_map,
    List.flatMap_map, List.flatMap_map]
  refine congrArg (· ++ _) ?_
  exact congrArg (List.flatMap · s.decoratorImports) (funext (importCodeLine_text indent q))

end Files

/-! ## What generators write -/

namespace Generator

/-- In the files that the generator writes, the modules of imports and exports, the names of classes
and the values of enums are quoted. -/
structure QuotesTexts (g : Generator) : Prop where
  units : g.settings.hasTextModules = true → ∀ e : Entity, e.isTextual = true →
    ∃ unit, g.unit e = .ok unit
  entities : ∀ e unit, g.unit e = .ok unit → ∃ d, (g.emitEntity e).draft = .ok d ∧
    Quotes g.engine.quote d.text (unit.imports.withSymbols.map importQuotation) ∧
    Quotes g.engine.quote d.text [classNameQuotation g.indent (dtoName e.name)]
  enums : ∀ e, ∃ d, (g.emitEnum e).draft = .ok d ∧
    Quotes g.engine.quote d.text (e.values.map (valueQuotation g.indent))
  barrels : ∀ kind names sorted, Value.sort? names = some sorted →
    ∃ d, (g.emitIndex kind names).draft = .ok d ∧
      Quotes g.engine.quote d.text ((sorted.map kind.exportOf).map exportQuotation)
  decorators : ∃ d, g.emitDecorators.draft = .ok d ∧
    Quotes g.engine.quote d.text (g.settings.decoratorImports.map importQuotation)

variable {g : Generator}

theorem Ready.quotesTexts (hg : g.Ready) (hq : g.engine.quote ≠ '\\') : g.QuotesTexts where
  units hs e he := by
    obtain ⟨unit, hunit, -⟩ := hg.exists_unit hs he
    exact ⟨unit, hunit⟩
  entities e unit h := by
    obtain ⟨classified, d, -, hfile, hd, -⟩ := hg.emitEntity_of_unit h
    exact ⟨d, hd, quotes_classFile hq hfile rfl⟩
  enums e := by
    obtain ⟨d, hd, -, htext⟩ := hg.emitEnum_draft e
    exact ⟨d, hd, htext ▸ quotes_enumFile hq g.indent _ e⟩
  barrels kind names sorted h := by
    obtain ⟨d, hd, -, htext⟩ := hg.emitIndex_of_sort? kind h
    exact ⟨d, hd, htext ▸ quotes_barrelFile hq (sorted.map kind.exportOf)⟩
  decorators := by
    refine ⟨_, hg.emission_draft .decorators _ _ _ _, ?_⟩
    exact quotes_decoratorsFile hq g.indent g.settings

/-- Quoted texts cannot end their literals. In either quote style, a literal is read as what it was
made of, whatever comes behind it, and is not read as anything before it has ended. So the generator
of any configuration, whatever templates it has looked up, writes files in which each module that is
imported or exported from, each name of a class and each value of an enum is read back where it is
quoted, and what comes behind is the code that belongs there. -/
theorem literals_read_back :
    (∀ style, Text.Sealed (Template.Engine.quoteFor style)) ∧
    ∀ {kind : GeneratorClass} {c : Config} {g : Generator}, create kind c = .ok g →
      g.engine.quote = Template.Engine.quoteFor c.quoteStyle ∧
      ∀ lookUps, (g.used lookUps).QuotesTexts := by
  have hquote : ∀ style, Template.Engine.quoteFor style ≠ '\\' := by
    intro style
    unfold Template.Engine.quoteFor
    split <;> decide
  refine ⟨fun style => Text.sealed (hquote style), fun {kind c g} h => ?_⟩
  have hstyle : g.engine.quote = Template.Engine.quoteFor c.quoteStyle := by
    obtain ⟨settings, n, -, -, rfl⟩ := of_create h
    rfl
  refine ⟨hstyle, fun lookUps => (ready_used_of_create h lookUps).quotesTexts ?_⟩
  rw [used, Template.Engine.quote_lookUpAll, hstyle]
  exact hquote c.quoteStyle

end Generator

/-- An entity whose name and the enum it refers to have quote characters and backslashes. -/
def Entity.sampleQuoted : Entity :=
  { name := .str "It's; \\"
    fields := [{ name := .str "status", type := .str "'; alert('", kind := .enum }] }

/-- An enum whose values try to end their literals. -/
def EnumType.sampleQuoted : EnumType :=
  { name := .str "'; alert('", values := ["', x = '", "\\", "\\'", "'\n;'"].map (.str ·) }

theorem Generator.literals_read_back_sampleQuoted : ∃ g,
    create .typescript { quoteStyle := .str "single" } = .ok g ∧
    g.engine.quote = Text.singleQuote ∧ Text.Sealed Text.singleQuote ∧
    (g.settings.hasTextModules = true ∧ Entity.sampleQuoted.isTextual = true ∧ ∃ unit d,
      g.unit .sampleQuoted = .ok unit ∧ (g.emitEntity .sampleQuoted).draft = .ok d ∧
      Quotes g.engine.quote d.text (unit.imports.withSymbols.map importQuotation) ∧
      Quotes g.engine.quote d.text [classNameQuotation "    " "It's; \\DTO"]) ∧
    (∃ d, (g.emitEnum .sampleQuoted).draft = .ok d ∧
      Quotes g.engine.quote d.text (EnumType.sampleQuoted.values.map (valueQuotation "    "))) ∧
    ∃ sorted d, Value.sort? [.str "b'", .str "'; alert('"] = some sorted ∧
      (g.emitIndex .enums [.str "b'", .str "'; alert('"]).draft = .ok d ∧
      Quotes g.engine.quote d.text
        ((sorted.map BarrelKind.enums.exportOf).map exportQuotation) := by
  obtain ⟨g, hg⟩ : ∃ g, create .typescript { quoteStyle := .str "single" } = .ok g := ⟨_, rfl⟩
  obtain ⟨hsealed, hgenerators⟩ := literals_read_back
  obtain ⟨hquote, htexts⟩ := hgenerators hg
  have hall : g.QuotesTexts := htexts []
  obtain ⟨settings, n, hsettings, hn, hmade⟩ := of_create hg
  obtain rfl : ({} : Settings) = settings := Except.ok.inj hsettings
  obtain rfl : 4 = n := Except.ok.inj hn
  have hindent : g.indent = ("    " : Text) := by
    rw [hmade]
    rfl
  have hs : g.settings.hasTextModules = true := by
    rw [hmade]
    rfl
  have he : Entity.sampleQuoted.isTextual = true := rfl
  obtain ⟨unit, hunit⟩ := hall.units hs .sampleQuoted he
  obtain ⟨d, hd, himports, hname⟩ := hall.entities .sampleQuoted unit hunit
  have hnames : ([.str "b'", .str "'; alert('"] : List Value).all (·.isText) = true := rfl
  obtain ⟨sorted, hsorted, -⟩ := Value.exists_sort? hnames
  have henum := hall.enums .sampleQuoted
  rw [hindent] at hname henum
  exact ⟨g, hg, hquote, hsealed (.str "single"), ⟨hs, he, unit, d, hunit, hd, himports, hname⟩,
    henum, sorted, (hall.barrels .enums _ sorted hsorted).imp fun d hd => ⟨hsorted, hd⟩⟩

end DtoPress
