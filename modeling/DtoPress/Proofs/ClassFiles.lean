import DtoPress.Proofs.Pieces
import DtoPress.Proofs.Plan
import DtoPress.Proofs.Splitting

/-!
# Class files can be read

The file of a class without comments is a list of lines : its imports, an empty line, the line of
the class, for each property a block of lines with an empty line behind it, the static properties
and a brace (`classFile_eq_unlines`). No other line is empty, so the empty lines part the blocks,
whatever the indentation is and whatever the properties are called, and a block has the decorators
of its property in front and the property last. `readClassFile` reads a class file in this way,
and `readClassFile_classFile` says that it reads what was written, as long as names are made of the
characters of identifiers and nothing that is printed ends a line.
-/

set_option linter.unusedSectionVars false

namespace DtoPress

/-! ## Lines with their ends -/

section Lines

variable {lines more : List Text}

theorem unlines_cons (line : Text) (lines : List Text) :
    unlines (line :: lines) = line ++ "\n" ++ unlines lines := rfl

theorem unlines_append (lines more : List Text) :
    unlines (lines ++ more) = unlines lines ++ unlines more :=
  List.flatMap_append

/-- The lines of a text in which each line has its end. -/
def linesOf (t : Text) : List Text :=
  (Text.splitLines t).dropLast

theorem linesOf_unlines (h : ∀ l ∈ lines, l.isLine = true) : linesOf (unlines lines) = lines := by
  have hsplit : Text.splitLines (unlines lines ++ []) = lines ++ [[]] :=
    Text.split_flatMap List.not_mem_nil fun l hl => Text.isLine_iff.1 (h l hl)
  rw [List.append_nil] at hsplit
  exact (congrArg List.dropLast hsplit).trans List.dropLast_concat

/-- Lists of lines with the same text are the same. -/
theorem unlines_injOn (h : ∀ l ∈ lines, l.isLine = true) (h' : ∀ l ∈ more, l.isLine = true)
    (heq : unlines lines = unlines more) : lines = more := by
  rw [← linesOf_unlines h, heq, linesOf_unlines h']

end Lines

/-! ## The lines of a class file -/

/-- The codes of the imports that have symbols. -/
def importCodes (q : Char) (imports : Imports) : List Text :=
  (imports.filter fun group => !group.2.isEmpty).map fun group => importCode q group.1 group.2

/-- The line of a class. -/
def classCode (c : ClassDeclaration) : Text :=
  (if c.isExported.truthy then "export " else "") ++ "class " ++ c.name.text ++ " \x7b"

/-- The lines of a property without a comment. -/
def propertyBlock (indent : Text) (p : Property) : List Text :=
  (p.decorators.map fun d => indent ++ d.text) ++ [indent ++ propertyLine p]

/-- The line of a static property. -/
def staticCode (indent : Text) (p : StaticProperty) : Text :=
  indent ++ "static " ++ p.name.text ++ ": " ++ p.type.text ++ " = " ++ p.initializer.text ++ ";"

/-- The lines behind the properties. -/
def closingLines (indent : Text) (c : ClassDeclaration) : List Text :=
  c.statics.map (staticCode indent) ++ [("\x7d" : Text)]

/-- The lines of a class file without comments. -/
def classLines (layout : Layout) (imports : Imports) (c : ClassDeclaration) : List Text :=
  importCodes layout.quote imports ++ [] :: classCode c ::
    ((c.properties.map (propertyBlock layout.indent)).flatMap (· ++ [[]])
      ++ closingLines layout.indent c)

theorem importLines_eq_unlines (q : Char) : ∀ imports : Imports,
    importLines q imports = unlines (importCodes q imports)
  | [] => rfl
  | (module, []) :: imports => importLines_eq_unlines q imports
  | (module, s :: symbols) :: imports => by
    show importLine q module (s :: symbols) ++ importLines q imports = _
    rw [importLine_eq q module (List.cons_ne_nil s symbols), importLines_eq_unlines q imports]
    rfl

theorem propertyText_eq_unlines (layout : Layout) {p : Property} (h : p.comment = .null) :
    propertyText layout p = .ok (unlines (propertyBlock layout.indent p ++ [[]])) := by
  have hcomment : propertyComment layout p.comment = .ok "" := by
    rw [h]
    rfl
  have hdecorators : unlines (p.decorators.map fun d => layout.indent ++ d.text) =
      p.decorators.flatMap (decoratorLine layout.indent) := List.flatMap_map _ _ _
  have hproperty : unlines [layout.indent ++ propertyLine p, []] =
      layout.indent ++ propertyLine p ++ "\n\n" := by
    rw [unlines, List.flatMap_cons, List.append_assoc]
    rfl
  rw [propertyText, hcomment, propertyBlock, List.append_assoc, unlines_append, hdecorators,
    List.singleton_append, hproperty, bind_ok, pure_eq_ok, List.append_assoc, List.append_assoc,
    List.append_assoc, List.append_assoc]
  rfl

theorem mapM_propertyText (layout : Layout) : ∀ {ps : List Property},
    (∀ p ∈ ps, p.comment = .null) → ∃ texts, ps.mapM (propertyText layout) = .ok texts ∧
      texts.flatten = unlines ((ps.map (propertyBlock layout.indent)).flatMap (· ++ [[]]))
  | [], _ => ⟨[], rfl, rfl⟩
  | p :: ps, h => by
    obtain ⟨hp, hps⟩ := List.forall_mem_cons.1 h
    obtain ⟨texts, htexts, hlines⟩ := mapM_propertyText layout hps
    refine ⟨_, by rw [List.mapM_cons, propertyText_eq_unlines layout hp, htexts]; rfl, ?_⟩
    rw [List.flatten_cons, hlines, ← unlines_append]
    rfl

/-- The file of a class without comments is a list of lines. -/
theorem classFile_eq_unlines (layout : Layout) (imports : Imports) {c : ClassDeclaration}
    (hc : c.comment = .null) (hp : ∀ p ∈ c.properties, p.comment = .null) :
    classFile layout imports c = .ok (unlines (classLines layout imports c)) := by
  obtain ⟨texts, htexts, hlines⟩ := mapM_propertyText layout hp
  have hstatics : c.statics.flatMap (staticText layout.indent) =
      unlines (c.statics.map (staticCode layout.indent)) := by
    rw [unlines, List.flatMap_map]
    refine congrArg (List.flatMap · c.statics) (funext fun p => ?_)
    simp only [staticText, staticCode, List.append_assoc]
    rfl
  have hhead : headComment c.comment = [] := by
    rw [hc]
    rfl
  rw [classFile, classText, htexts]
  simp only [bind_ok, pure_eq_ok, hlines, hstatics, hhead, importLines_eq_unlines, classLines,
    closingLines, classCode, unlines_append, unlines_cons, List.append_assoc, List.nil_append]
  rfl

/-! ## Reading a class file -/

/-- What a property looks like in a file. -/
structure PropertyShape where
  name : Text
  isRequired : Bool
  type : Text
  decorators : List Text

/-- What a class looks like in a file. -/
structure ClassShape where
  name : Text
  properties : List PropertyShape

/-- What is printed of a property. -/
def Property.shape (p : Property) : PropertyShape :=
  { name := p.name.text, isRequired := p.isRequired.truthy, type := p.type.text
    decorators := p.decorators.map Decorator.text }

/-- What is printed of a class. -/
def ClassDeclaration.shape (c : ClassDeclaration) : ClassShape :=
  { name := c.name.text, properties := c.properties.map Property.shape }

/-- The identifier that a code starts with. -/
def frontIdentifier (code : Text) : Text :=
  code.takeWhile (·.isA isIdentifierRest)

/-- The property that a block of lines declares, its last line, behind the decorators. -/
def readProperty (indent : Text) (block : List Text) : PropertyShape :=
  let code := (block.getLast?.getD []).drop indent.length
  let behind := code.drop (frontIdentifier code).length
  { name := frontIdentifier code
    isRequired := behind.head? == some (.char '!')
    type := (behind.drop 3).dropLast
    decorators := block.dropLast.map (·.drop indent.length) }

/-- What stands before the name of an exported class. -/
def exportedClass : Text := "export class "

/-- The class that lines declare behind the first empty one, with a property in front of each
empty line that follows. -/
def readClassFile (indent t : Text) : Option ClassShape :=
  match (Text.split [] (linesOf t)).tail with
  | (first :: block) :: blocks => some
    { name := frontIdentifier (first.drop exportedClass.length)
      properties := (block :: blocks).dropLast.map (readProperty indent) }
  | _ => none

theorem frontIdentifier_append {name rest : Text} {c : CodePoint}
    (hname : name.all (·.isA isIdentifierRest) = true) (hc : c.isA isIdentifierRest = false) :
    frontIdentifier (name ++ c :: rest) = name := by
  rw [frontIdentifier, List.takeWhile_append_of_pos (List.all_eq_true.1 hname),
    List.takeWhile_cons_of_neg (by simp [hc]), List.append_nil]

/-- The block of a property is read as the property. -/
theorem readProperty_propertyBlock (indent : Text) {p : Property}
    (hname : p.name.text.all (·.isA isIdentifierRest) = true) :
    readProperty indent (propertyBlock indent p) = p.shape := by
  have hlast : (propertyBlock indent p).getLast? = some (indent ++ propertyLine p) :=
    List.getLast?_concat
  have hfront : (propertyBlock indent p).dropLast = p.decorators.map fun d => indent ++ d.text :=
    List.dropLast_concat
  have hdecorators : ((p.decorators.map fun d => indent ++ d.text).map (·.drop indent.length)) =
      p.decorators.map Decorator.text := by
    simp [Function.comp_def]
  obtain ⟨mark, hmark, hrequired, hline⟩ : ∃ mark : CodePoint, mark.isA isIdentifierRest = false ∧
      (some mark == some (.char '!')) = p.isRequired.truthy ∧
      propertyLine p = p.name.text ++ mark :: (": " ++ (p.type.text ++ ";")) := by
    unfold propertyLine
    simp only [List.append_assoc]
    split
    next hp => exact ⟨.char '!', by decide, hp.symm, rfl⟩
    next hp => exact ⟨.char '?', by decide, (Bool.not_eq_true _ ▸ hp).symm, rfl⟩
  have hcode : ((propertyBlock indent p).getLast?.getD []).drop indent.length =
      p.name.text ++ mark :: (": " ++ (p.type.text ++ ";")) := by
    rw [hlast, Option.getD_some, List.drop_left, hline]
  have htype : List.dropLast (List.drop 3 (mark :: (": " ++ (p.type.text ++ ";")))) =
      p.type.text := List.dropLast_concat
  simp only [readProperty, hcode, frontIdentifier_append hname hmark, List.drop_left, hfront,
    hdecorators, htype, List.head?_cons, hrequired, Property.shape]

/-! ## What can be read -/

/-- A property that is read back : it has no comment, its name is made of the characters of
identifiers, and nothing that is printed of it ends a line. -/
structure Property.IsLegible (p : Property) : Prop where
  comment : p.comment = .null
  name : p.name.text.all (·.isA isIdentifierRest) = true
  type : p.type.text.isLine = true
  decorators : ∀ d ∈ p.decorators, d.text.isLine = true

/-- A class that is read back. -/
structure ClassDeclaration.IsLegible (c : ClassDeclaration) : Prop where
  comment : c.comment = .null
  exported : c.isExported.truthy = true
  name : c.name.text.all (·.isA isIdentifierRest) = true
  properties : ∀ p ∈ c.properties, p.IsLegible
  statics : ∀ p ∈ c.statics,
    p.name.text.isLine = true ∧ p.type.text.isLine = true ∧ p.initializer.text.isLine = true

/-- Imports that are read over : nothing that is printed of them ends a line. -/
def Imports.IsLegible (imports : Imports) : Prop :=
  ∀ module symbol, imports.Has module symbol →
    module.text.isLine = true ∧ symbol.text.isLine = true

/-- A layout in which nothing is printed that ends a line. -/
structure Layout.IsLegible (layout : Layout) : Prop where
  indent : layout.indent.isLine = true
  quote : layout.quote ≠ '\n'

/-- What ends in a constant text is not empty. -/
theorem append_ofString_ne_nil (t : Text) {s : String} (h : s.toList ≠ []) :
    t ++ Text.ofString s ≠ [] :=
  List.append_ne_nil_of_right_ne_nil t (by simpa [Text.ofString, Text.ofChars] using h)

section Lines

variable {layout : Layout}

theorem isLine_of_mem_importCodes (hl : layout.IsLegible) {imports : Imports}
    (h : imports.IsLegible) : ∀ l ∈ importCodes layout.quote imports, l.isLine = true ∧ l ≠ [] := by
  intro l hmem
  obtain ⟨⟨module, symbols⟩, hgroup, rfl⟩ := List.mem_map.1 hmem
  obtain ⟨hgroup, hsymbols⟩ := List.mem_filter.1 hgroup
  have hhas : ∀ s ∈ symbols, module.text.isLine = true ∧ s.text.isLine = true := fun s hs =>
    h module s ⟨symbols, hgroup, hs⟩
  cases symbols with
  | nil => cases hsymbols
  | cons s symbols =>
    refine ⟨?_, append_ofString_ne_nil _ (by decide)⟩
    exact all_importCode hl.quote (hhas s List.mem_cons_self).1 fun s hs => (hhas s hs).2

theorem isLine_of_mem_propertyBlock (hl : layout.IsLegible) {p : Property} (h : p.IsLegible) :
    ∀ l ∈ propertyBlock layout.indent p, l.isLine = true ∧ l ≠ [] := by
  have hindent : layout.indent.all Text.isInLine = true := hl.indent
  have htype : p.type.text.all Text.isInLine = true := h.type
  intro l hmem
  rcases List.mem_append.1 hmem with hdecorator | hline
  · obtain ⟨d, hd, rfl⟩ := List.mem_map.1 hdecorator
    have htext : d.text.all Text.isInLine = true := h.decorators d hd
    refine ⟨?_, List.append_ne_nil_of_right_ne_nil _ (append_ofString_ne_nil _ (by decide))⟩
    simp only [Text.isLine, List.all_append, hindent, htext, Bool.and_self]
  · have hmark : '\n' ∉ (if p.isRequired.truthy then "!" else "?").toList := by
      split <;> decide
    rw [List.mem_singleton.1 hline]
    refine ⟨?_, List.append_ne_nil_of_right_ne_nil _ (append_ofString_ne_nil _ (by decide))⟩
    simp +decide only [Text.isLine, propertyLine, List.all_append, hindent, htype,
      Text.all_of_rest h.name, Text.all_ofString, hmark]

theorem isLine_of_mem_closingLines (hl : layout.IsLegible) {c : ClassDeclaration}
    (h : c.IsLegible) : ∀ l ∈ closingLines layout.indent c, l.isLine = true ∧ l ≠ [] := by
  have hindent : layout.indent.all Text.isInLine = true := hl.indent
  intro l hmem
  rcases List.mem_append.1 hmem with hstatic | hbrace
  · obtain ⟨p, hp, rfl⟩ := List.mem_map.1 hstatic
    obtain ⟨hname, htype, hinitializer⟩ := h.statics p hp
    refine ⟨?_, append_ofString_ne_nil _ (by decide)⟩
    rw [Text.isLine] at hname htype hinitializer
    simp +decide only [Text.isLine, staticCode, List.all_append, hindent, hname, htype,
      hinitializer, Text.all_ofString]
  · rw [List.mem_singleton.1 hbrace]
    exact ⟨Text.all_ofString (by decide), by decide⟩

theorem isLine_classCode {c : ClassDeclaration} (h : c.IsLegible) :
    (classCode c).isLine = true ∧ classCode c ≠ [] := by
  have hexport : '\n' ∉ (if c.isExported.truthy then "export " else "").toList := by
    split <;> decide
  refine ⟨?_, append_ofString_ne_nil _ (by decide)⟩
  simp +decide only [Text.isLine, classCode, List.all_append, Text.all_of_rest h.name,
    Text.all_ofString, hexport]

end Lines

/-! ## What was written is read -/

theorem isLine_of_mem_classLines {layout : Layout} {imports : Imports} {c : ClassDeclaration}
    (hl : layout.IsLegible) (hi : imports.IsLegible) (hc : c.IsLegible) :
    ∀ l ∈ classLines layout imports c, l.isLine = true := by
  intro l hmem
  simp only [classLines, List.mem_append, List.mem_cons, List.mem_flatMap, List.mem_map,
    List.not_mem_nil, or_false] at hmem
  rcases hmem with himport | rfl | rfl | ⟨-, ⟨p, hp, rfl⟩, hblock | rfl⟩ | hclosing
  · exact (isLine_of_mem_importCodes hl hi l himport).1
  · rfl
  · exact (isLine_classCode hc).1
  · exact (isLine_of_mem_propertyBlock hl (hc.properties p hp) l hblock).1
  · rfl
  · exact (isLine_of_mem_closingLines hl hc l hclosing).1

theorem frontIdentifier_classCode {c : ClassDeclaration} (h : c.IsLegible) :
    frontIdentifier ((classCode c).drop exportedClass.length) = c.name.text := by
  have hcode : classCode c = exportedClass ++ (c.name.text ++ .char ' ' :: [.char '\x7b']) := by
    rw [classCode, if_pos h.exported]
    simp only [List.append_assoc]
    rfl
  rw [hcode, List.drop_left, frontIdentifier_append h.name (by decide)]

/-- A class file is read as its class. -/
theorem readClassFile_classFile {layout : Layout} {imports : Imports} {c : ClassDeclaration}
    (hl : layout.IsLegible) (hi : imports.IsLegible) (hc : c.IsLegible) :
    ∃ t, classFile layout imports c = .ok t ∧ readClassFile layout.indent t = some c.shape := by
  refine ⟨_, classFile_eq_unlines layout imports hc.comment fun p hp =>
    (hc.properties p hp).comment, ?_⟩
  have himports : [] ∉ importCodes layout.quote imports := fun h =>
    (isLine_of_mem_importCodes hl hi _ h).2 rfl
  have hclosing : [] ∉ closingLines layout.indent c := fun h =>
    (isLine_of_mem_closingLines hl hc _ h).2 rfl
  have hblocks : ∀ b ∈ c.properties.map (propertyBlock layout.indent), [] ∉ b := by
    intro b hb hmem
    obtain ⟨p, hp, rfl⟩ := List.mem_map.1 hb
    exact (isLine_of_mem_propertyBlock hl (hc.properties p hp) _ hmem).2 rfl
  have hbody := Text.split_flatMap hclosing hblocks
  -- The line of the class stands in front of the first piece of what follows it.
  obtain ⟨block, blocks, hpieces, hfirst⟩ := Text.split_cons_of_ne (isLine_classCode hc).2
    ((c.properties.map (propertyBlock layout.indent)).flatMap (· ++ [[]])
      ++ closingLines layout.indent c)
  have hproperties : (block :: blocks).dropLast.map (readProperty layout.indent) =
      c.properties.map Property.shape := by
    rw [← hpieces, hbody, List.dropLast_concat, List.map_map]
    exact List.map_congr_left fun p hp => readProperty_propertyBlock _ (hc.properties p hp).name
  rw [readClassFile, linesOf_unlines (isLine_of_mem_classLines hl hi hc), classLines,
    Text.split_append_cons _ himports, hfirst]
  simp only [List.tail_cons, hproperties, frontIdentifier_classCode hc]
  rfl

end DtoPress
