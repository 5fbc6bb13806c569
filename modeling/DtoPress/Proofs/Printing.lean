import DtoPress.Proofs.Comments
import DtoPress.Proofs.Encoding
import DtoPress.Proofs.Pieces
import DtoPress.Proofs.Plan

/-!
# Whole texts are printed from whole texts

Everything that is put around names, types and documentation when a file is printed are characters,
and no step of printing makes a lone half : comments take lines of their text, literals escape
characters, lower case goes character by character. So a file is whole if the texts that it is
printed from are (`Generator.Ready.plan_isWhole`). Its path can be handed to the operating
system if its directory and the name in it can (`Generator.isPathText_of_mem_paths`).
-/

set_option linter.unusedSectionVars false

namespace DtoPress

open Text (isPathPoint)

/-! ## Texts -/

namespace Text

variable {t : Text}

@[simp] theorem isWhole_literal (q : Char) (t : Text) : (literal q t).isWhole = t.isWhole := by
  have hescape : ∀ c : CodePoint, isWhole (escapeLiteral q c) = c.char?.isSome := by
    intro c
    unfold escapeLiteral
    split <;> simp [isWhole, CodePoint.char?]
  rw [literal, List.cons_append, isWhole_cons_char, isWhole_append, isWhole_cons_char, isWhole_nil,
    Bool.and_true, isWhole, List.all_flatMap]
  exact congrArg (t.all ·) (funext hescape)

theorem isWhole_lower (h : t.isWhole = true) : (lower t).isWhole = true := by
  have hfrom : ∀ {t : Text} (before : Text), t.isWhole = true →
      (lowerFrom before t).isWhole = true := by
    intro t
    induction t with
    | nil => exact fun _ _ => rfl
    | cons c t ih =>
      intro before h
      cases c with
      | char c => simp [lowerFrom, ih _ (by simpa using h)]
      | half index => simp [isWhole, CodePoint.char?] at h
  exact hfrom [] h

theorem isWhole_escapeClose (h : t.isWhole = true) : (escapeClose t).isWhole = true := by
  fun_induction escapeClose t with
  | case1 t ih => simpa using ih (by simpa using h)
  | case2 c t _ ih =>
    obtain ⟨hc, ht⟩ := Bool.and_eq_true_iff.1 h
    exact Bool.and_eq_true_iff.2 ⟨hc, ih ht⟩
  | case3 => rfl

theorem isWhole_trimRight (h : t.isWhole = true) : (trimRight t).isWhole = true :=
  isWhole_of_subset h (trimRight_isPrefix t).subset

theorem isWhole_trim (h : t.isWhole = true) : (trim t).isWhole = true :=
  isWhole_of_subset h (trim_isInfix t).subset

theorem isWhole_docComment (h : t.isWhole = true) : (docComment t).isWhole = true := by
  have hline : ∀ line ∈ commentText t, line.isWhole = true := by
    intro line hline
    obtain ⟨l, hl, hwithin⟩ := isInfix_of_mem_commentText hline
    exact isWhole_of_subset (isWhole_escapeClose (isWhole_trim h))
      (hwithin.trans (isInfix_of_mem_splitLines hl)).subset
  unfold docComment
  split
  next line heq => simp [hline line (heq ▸ List.mem_singleton_self line)]
  · have hlines : (joinLines ((commentText t).map commentLine)).isWhole = true := by
      refine isWhole_joinLines.2 fun l hl => ?_
      obtain ⟨line, hmem, rfl⟩ := List.mem_map.1 hl
      exact isWhole_trimRight (by simp [hline line hmem])
    simp [hlines]

theorem isWhole_indentLines (n : Nat) (h : t.isWhole = true) :
    (indentLines n t).isWhole = true := by
  refine isWhole_joinLines.2 fun l hl => ?_
  obtain ⟨line, hmem, rfl⟩ := List.mem_map.1 hl
  have hline := isWhole_of_subset h (isInfix_of_mem_splitLines hmem).subset
  unfold indentLine
  split
  · exact hline
  · simp [hline]

end Text

/-! ## What files are printed from -/

/-- The text that a value prints is whole. -/
def Value.isWhole (v : Value) : Bool :=
  v.text.isWhole

/-- All that is printed of a field is whole. -/
def Field.isWhole (f : Field) : Bool :=
  f.name.isWhole && f.type.isWhole && f.isList.isWhole && f.documentation.isWhole

/-- All that is printed of an entity is whole. -/
def Entity.isWhole (e : Entity) : Bool :=
  e.name.isWhole && e.fields.all Field.isWhole && e.documentation.isWhole

/-- All that is printed of an enum is whole. -/
def EnumType.isWhole (e : EnumType) : Bool :=
  e.name.isWhole && e.values.all Value.isWhole && e.documentation.isWhole

/-- A model can be written : its texts are whole, and the names that stand in paths can be there. -/
def Model.isWritable (m : Model) : Bool :=
  m.entities.all Entity.isWhole && m.enums.all EnumType.isWhole &&
    (m.entityNames ++ m.enumNames).all fun n => n.text.all isPathPoint

/-- The modules and the directories of a generated project can be written. -/
def Settings.isWritable (s : Settings) : Bool :=
  s.modules.all Value.isWhole && s.modelsDir.text.all isPathPoint && s.enumsDir.text.all isPathPoint

theorem Field.isWhole_iff {f : Field} : f.isWhole = true ↔ f.name.isWhole = true ∧
    f.type.isWhole = true ∧ f.isList.isWhole = true ∧ f.documentation.isWhole = true := by
  simp [isWhole, and_assoc]

theorem Entity.isWhole_iff {e : Entity} : e.isWhole = true ↔ e.name.isWhole = true ∧
    (∀ f ∈ e.fields, f.isWhole = true) ∧ e.documentation.isWhole = true := by
  simp [isWhole, and_assoc]

theorem EnumType.isWhole_iff {e : EnumType} : e.isWhole = true ↔ e.name.isWhole = true ∧
    (∀ v ∈ e.values, v.isWhole = true) ∧ e.documentation.isWhole = true := by
  simp [isWhole, and_assoc]

theorem Model.isWritable_iff {m : Model} : m.isWritable = true ↔
    (∀ e ∈ m.entities, e.isWhole = true) ∧ (∀ e ∈ m.enums, e.isWhole = true) ∧
      ∀ n ∈ m.entityNames ++ m.enumNames, n.text.all isPathPoint = true := by
  simp only [isWritable, Bool.and_eq_true, List.all_eq_true, and_assoc]

theorem Settings.isWritable_iff {s : Settings} : s.isWritable = true ↔
    (∀ v ∈ s.modules, v.isWhole = true) ∧ s.modelsDir.text.all isPathPoint = true ∧
      s.enumsDir.text.all isPathPoint = true := by
  simp only [isWritable, Bool.and_eq_true, List.all_eq_true, and_assoc]

theorem isWhole_dtoName {v : Value} (h : v.isWhole = true) : (dtoName v).isWhole = true := by
  replace h : v.text.isWhole = true := h
  simp [dtoName, h]

theorem isWhole_comment {v : Value} (h : v.isWhole = true) (comments : Bool) :
    (if comments then v else .null).isWhole = true := by
  split
  · exact h
  · rfl

/-! ## Classes -/

namespace Field

variable {f : Field}

theorem isWhole_of_mem_decorators (hf : f.isWhole = true) {owner : Value} {coerce : Bool}
    {d : Decorator} (h : d ∈ f.decorators owner coerce) : d.text.isWhole = true := by
  obtain ⟨-, htype, hlist, -⟩ := isWhole_iff.1 hf
  exact all_of_mem_decorators htype (Text.isWhole_lower hlist) h

end Field

theorem Settings.isWhole_of_mem_typeMap {s : Settings} (h : s.ormNamespace.isWhole = true)
    {e : ScalarType × Text} (he : e ∈ s.typeMap) : e.2.isWhole = true :=
  all_of_mem_typeMap h he

theorem Entity.Uses.isWhole {e : Entity} {style : UnitStyle} {module symbol : Value}
    (h : e.Uses style module symbol) (he : e.isWhole = true)
    (hs : ∀ v ∈ style.settings.modules, v.isWhole = true) :
    module.isWhole = true ∧ symbol.isWhole = true := by
  refine h.all_text (fun f hf => ?_) hs
  obtain ⟨-, htype, -, -⟩ := Field.isWhole_iff.1 ((isWhole_iff.1 he).2.1 f hf)
  exact htype

theorem isWhole_importLines (q : Char) {imports : Imports}
    (h : ∀ module symbol, imports.Has module symbol →
      module.isWhole = true ∧ symbol.isWhole = true) : (importLines q imports).isWhole = true := by
  refine Text.isWhole_flatMap.2 fun ⟨module, symbols⟩ hgroup => ?_
  have hsymbol : ∀ s ∈ symbols, module.isWhole = true ∧ s.isWhole = true := fun s hs =>
    h module s ⟨symbols, hgroup, hs⟩
  show (importLine q module symbols).isWhole = true
  cases symbols with
  | nil => rfl
  | cons s rest =>
    have hmodule : module.text.isWhole = true := (hsymbol s List.mem_cons_self).1
    have hlist : (Text.commaSeparated ((s :: rest).map Value.text)).isWhole = true :=
      (Text.isWhole_joined (by decide)).2 (List.forall_mem_map.2 fun v hv => (hsymbol v hv).2)
    simp only [importLine, List.isEmpty_cons, Bool.false_eq_true, if_false, Text.isWhole_append,
      Text.isWhole_ofString, Text.isWhole_literal, hmodule, hlist, Bool.and_true]

/-- All that is printed of a property is whole. -/
structure Property.IsWhole (p : Property) : Prop where
  name : p.name.isWhole = true
  type : p.type.isWhole = true
  decorators : ∀ d ∈ p.decorators, d.text.isWhole = true
  comment : p.comment.isWhole = true

theorem isWhole_commentOf {v : Value} (h : v.isWhole = true) : (commentOf v).isWhole = true :=
  Text.isWhole_docComment h

theorem isWhole_headComment {v : Value} (h : v.isWhole = true) :
    (headComment v).isWhole = true := by
  unfold headComment
  split
  · simp [isWhole_commentOf h]
  · rfl

/-- The property of a field is printed from what the field holds. -/
theorem Field.isWhole_property {f : Field} (hf : f.isWhole = true) {types : TypeMap}
    (htypes : ∀ e ∈ types, e.2.isWhole = true) {owner : Value} {coerce : Bool}
    {c : Classification} (h : f.classify owner types coerce = .ok c) (comments : Bool) :
    (f.property c comments).IsWhole := by
  obtain ⟨hname, htype, -, hdocumentation⟩ := isWhole_iff.1 hf
  constructor
  · exact hname
  · exact all_type_of_classify htypes htype h
  · intro d hd
    replace hd : d ∈ c.decorators := hd
    rw [decorators_of_classify h] at hd
    exact isWhole_of_mem_decorators hf hd
  · exact isWhole_comment hdocumentation comments

section Layout

variable {layout : Layout} (hindent : layout.indent.isWhole = true)

include hindent

theorem Property.IsWhole.isWhole_propertyText {p : Property} (hp : p.IsWhole) {t : Text}
    (h : propertyText layout p = .ok t) : t.isWhole = true := by
  have hname : p.name.text.isWhole = true := hp.name
  have htype : p.type.text.isWhole = true := hp.type
  obtain ⟨comment, hcomment, h⟩ := bind_eq_ok_iff.1 h
  obtain rfl := Except.ok.inj h
  have hfirst : comment.isWhole = true := by
    unfold propertyComment at hcomment
    split at hcomment
    · obtain ⟨n, -, hcomment⟩ := bind_eq_ok_iff.1 hcomment
      rw [← Except.ok.inj hcomment]
      simp [Text.isWhole_indentLines n (isWhole_commentOf hp.comment)]
    · rw [← Except.ok.inj hcomment]
      rfl
  have hdecorators : Text.isWhole (p.decorators.flatMap (decoratorLine layout.indent)) = true :=
    Text.isWhole_flatMap.2 fun d hd => by simp [decoratorLine, hindent, hp.decorators d hd]
  simp only [propertyLine, Text.isWhole_append, Text.isWhole_ofString, hfirst, hdecorators,
    hindent, hname, htype, Bool.and_true]

/-- All that is printed of a class is whole. -/
theorem isWhole_classFile {imports : Imports} {c : ClassDeclaration}
    (himports : ∀ module symbol, imports.Has module symbol →
      module.isWhole = true ∧ symbol.isWhole = true)
    (hname : c.name.isWhole = true) (hcomment : c.comment.isWhole = true)
    (hproperties : ∀ p ∈ c.properties, p.IsWhole)
    (hstatics : ∀ p ∈ c.statics, p.name.isWhole = true ∧ p.type.isWhole = true ∧
      p.initializer.isWhole = true) {t : Text} (h : classFile layout imports c = .ok t) :
    t.isWhole = true := by
  replace hname : c.name.text.isWhole = true := hname
  obtain ⟨body, hbody, h⟩ := bind_eq_ok_iff.1 h
  obtain ⟨texts, htexts, hbody⟩ := bind_eq_ok_iff.1 hbody
  obtain rfl := Except.ok.inj hbody
  obtain rfl := Except.ok.inj h
  have hall : Text.isWhole texts.flatten = true := by
    refine Text.isWhole_flatten.2 fun u hu => ?_
    obtain ⟨p, hp, hu⟩ := (mem_mapM_ok htexts).1 hu
    exact (hproperties p hp).isWhole_propertyText hindent hu
  have hstatic : Text.isWhole (c.statics.flatMap (staticText layout.indent)) = true := by
    refine Text.isWhole_flatMap.2 fun p hp => ?_
    obtain ⟨hn, ht, hi⟩ := hstatics p hp
    replace hn : p.name.text.isWhole = true := hn
    replace ht : p.type.text.isWhole = true := ht
    replace hi : p.initializer.text.isWhole = true := hi
    simp [staticText, hindent, hn, ht, hi]
  simp only [Text.isWhole_append, Text.isWhole_ofString, hname, hall, hstatic,
    isWhole_importLines layout.quote himports, isWhole_headComment hcomment, Bool.and_true]

end Layout

/-! ## Other files -/

theorem isWhole_enumFile {indent : Text} (hindent : indent.isWhole = true) (q : Char)
    (comments : Bool) {e : EnumType} (he : e.isWhole = true) :
    (enumFile indent q comments e).isWhole = true := by
  obtain ⟨hname, hvalues, hdocumentation⟩ := EnumType.isWhole_iff.1 he
  replace hname : e.name.text.isWhole = true := hname
  have hlines : Text.isWhole (e.values.flatMap (enumLine indent q)) = true := by
    refine Text.isWhole_flatMap.2 fun v hv => ?_
    have htext : v.text.isWhole = true := hvalues v hv
    simp [enumLine, hindent, htext]
  have hhead : Text.isWhole (if comments then headComment e.documentation else "") = true := by
    split
    · exact isWhole_headComment hdocumentation
    · rfl
  simp only [enumFile, Text.isWhole_append, Text.isWhole_ofString, hname, hlines, hhead,
    Bool.and_true]

theorem isWhole_barrelFile (q : Char) (kind : BarrelKind) {names : List Value}
    (h : ∀ n ∈ names, n.isWhole = true) :
    (barrelFile q (names.map kind.exportOf)).isWhole = true := by
  refine Text.isWhole_flatMap.2 (List.forall_mem_map.2 fun n hn => ?_)
  have hname : n.text.isWhole = true := h n hn
  have hdto : (dtoName n).isWhole = true := isWhole_dtoName (h n hn)
  cases kind <;> simp [exportLine, BarrelKind.exportOf, hname, hdto]

theorem isWhole_unlines {indent : Text} (hindent : indent.isWhole = true) {lines : List CodeLine}
    (h : ∀ l ∈ lines, l.code.isWhole = true) :
    (unlines (lines.map (CodeLine.text indent))).isWhole = true := by
  refine Text.isWhole_flatMap.2 (List.forall_mem_map.2 fun l hl => ?_)
  have hlevels : Text.isWhole (List.replicate l.level indent).flatten = true := by
    refine Text.isWhole_flatten.2 fun t ht => ?_
    rwa [List.eq_of_mem_replicate ht]
  simp [CodeLine.text, hlevels, h l hl]

theorem isWhole_helpersFile {indent : Text} (hindent : indent.isWhole = true) :
    (helpersFile indent).isWhole = true :=
  isWhole_unlines hindent (by decide)

theorem isWhole_decoratorsFile {indent : Text} (hindent : indent.isWhole = true) (q : Char)
    {validator transformer jsonschema : Text} (hv : validator.isWhole = true)
    (ht : transformer.isWhole = true) (hj : jsonschema.isWhole = true) :
    (decoratorsFile indent q validator transformer jsonschema).isWhole = true := by
  refine isWhole_unlines hindent ?_
  simp [decoratorLines, schemaReference, backtick, hv, ht, hj]

/-! ## The files of a model -/

/-- Whatever text the emission has is whole. -/
def Emission.IsWhole (e : Emission) : Prop :=
  ∀ d, e.draft = .ok d → d.text.isWhole = true

theorem Emission.exists_of_mem_writes : ∀ {es : List Emission} {w : Text × Text},
    w ∈ writes es → ∃ e ∈ es, ∃ d, e.draft = .ok d ∧ w = (d.path, d.text)
  | [], w, h => by simp [writes] at h
  | e :: es, w, h => by
    unfold writes at h
    split at h
    next d hd =>
      rcases List.mem_cons.1 h with rfl | h
      · exact ⟨e, List.mem_cons_self, d, hd, rfl⟩
      · obtain ⟨f, hf, d', hd', rfl⟩ := exists_of_mem_writes h
        exact ⟨f, List.mem_cons_of_mem e hf, d', hd', rfl⟩
    · simp at h

namespace Generator

variable {g : Generator} {m : Model}

theorem Ready.emitEntity_isWhole (hg : g.Ready) (hs : g.settings.hasTextModules = true)
    (hmodules : ∀ v ∈ g.settings.modules, v.isWhole = true) (hindent : g.indent.isWhole = true)
    {e : Entity} (htext : e.isTextual = true) (he : e.isWhole = true) :
    (g.emitEntity e).IsWhole := by
  obtain ⟨hname, hfields, hdocumentation⟩ := Entity.isWhole_iff.1 he
  obtain ⟨unit, c, d, hunit, hc, -, -, hfile, hdraft, -⟩ := hg.emitEntity_draft hs htext
  obtain ⟨unit', hunit', -, huses⟩ := hg.exists_unit hs htext
  obtain rfl := Except.ok.inj (hunit.symm.trans hunit')
  obtain ⟨classified, hclassified, hunit'⟩ := Entity.unit_eq
    (Entity.referencedEnums_all_isText htext) g.unitStyle hs hg.types
  obtain rfl := Except.ok.inj (hunit.symm.trans hunit')
  obtain rfl : e.declaration g.unitStyle classified = c := Option.some.inj hc
  have hdto : (dtoName e.name).isWhole = true := isWhole_dtoName hname
  have htypes : ∀ t ∈ g.types, t.2.isWhole = true := by
    rw [hg.types]
    exact fun t ht => Settings.isWhole_of_mem_typeMap (hmodules _ (by simp [Settings.modules])) ht
  intro d' hd'
  obtain rfl := Except.ok.inj (hdraft.symm.trans hd')
  refine isWhole_classFile hindent (fun module symbol hhas =>
    ((huses.pairs module symbol).1 hhas).isWhole he hmodules) ?_ ?_ ?_ ?_ hfile
  · exact hdto
  · exact isWhole_comment hdocumentation _
  · intro p hp
    obtain ⟨⟨f, cl⟩, hmem, rfl⟩ := List.mem_map.1 hp
    have hclassify := eq_ok_of_mem_zip hclassified hmem
    exact Field.isWhole_property (hfields f (List.of_mem_zip hmem).1) htypes hclassify _
  · intro p hp
    rw [List.mem_singleton.1 hp]
    refine ⟨rfl, rfl, ?_⟩
    show (Text.literal g.engine.quote (dtoName e.name)).isWhole = true
    rw [Text.isWhole_literal, hdto]

theorem Ready.emitEnum_isWhole (hg : g.Ready) (hindent : g.indent.isWhole = true) {e : EnumType}
    (he : e.isWhole = true) : (g.emitEnum e).IsWhole := by
  obtain ⟨d, hd, -, htext⟩ := hg.emitEnum_draft e
  intro d' hd'
  obtain rfl := Except.ok.inj (hd.symm.trans hd')
  rw [htext]
  exact isWhole_enumFile hindent _ _ he

theorem Ready.emitIndex_isWhole (hg : g.Ready) (kind : BarrelKind) {names : List Value}
    (htext : names.all Value.isText = true) (h : ∀ n ∈ names, n.isWhole = true) :
    (g.emitIndex kind names).IsWhole := by
  obtain ⟨d, sorted, hd, -, hperm, hfile⟩ := hg.emitIndex_draft kind htext
  intro d' hd'
  obtain rfl := Except.ok.inj (hd.symm.trans hd')
  rw [hfile]
  exact isWhole_barrelFile _ kind fun n hn => h n (hperm.subset hn)

theorem Ready.emission_isWhole (hg : g.Ready) (b : Template.BuiltIn) (context : Template.Context)
    {text : Text} (h : text.isWhole = true) (path : Text) (notes : List Text) :
    (g.emission b context (.ok text) path notes).IsWhole := by
  intro d hd
  rw [hg.emission_draft] at hd
  rwa [← Except.ok.inj hd]

/-- Every emission of a model that can be written has a whole text. -/
theorem Ready.plan_isWhole (hg : g.Ready) (hs : g.settings.hasTextModules = true)
    (hmodules : ∀ v ∈ g.settings.modules, v.isWhole = true) (hindent : g.indent.isWhole = true)
    (hm : m.isTextual = true) (hwritable : m.isWritable = true) {e : Emission}
    (he : e ∈ g.plan m) : e.IsWhole := by
  obtain ⟨hentities, henums, -⟩ := Model.isWritable_iff.1 hwritable
  have hnames : ∀ n ∈ m.entityNames, n.isWhole = true :=
    List.forall_mem_map.2 fun e he => (Entity.isWhole_iff.1 (hentities e he)).1
  have henumNames : ∀ n ∈ m.enumNames, n.isWhole = true :=
    List.forall_mem_map.2 fun e he => (EnumType.isWhole_iff.1 (henums e he)).1
  rw [plan_eq, emitEnums, emitFixed] at he
  simp only [List.mem_append, List.mem_cons, List.mem_map, List.mem_ite_nil_right,
    List.not_mem_nil, or_false] at he
  rcases he with ⟨f, hf, rfl⟩ | rfl | ⟨-, ⟨f, hf, rfl⟩ | rfl⟩ | ⟨-, rfl⟩ | rfl
  · exact hg.emitEntity_isWhole hs hmodules hindent ((Model.isTextual_iff.1 hm).1 f hf)
      (hentities f hf)
  · exact hg.emitIndex_isWhole .models (Model.entityNames_all_isText hm) hnames
  · exact hg.emitEnum_isWhole hindent (henums f hf)
  · exact hg.emitIndex_isWhole .enums (Model.enumNames_all_isText hm) henumNames
  · exact hg.emission_isWhole .helpers _ (isWhole_helpersFile hindent) _ _
  · simp only [Settings.modules, List.forall_mem_cons] at hmodules
    obtain ⟨hv, ht, hj, -⟩ := hmodules
    exact hg.emission_isWhole .decorators _ (isWhole_decoratorsFile hindent _ hv ht hj) _ _

/-- Every path of a model that can be written can be handed to the operating system. -/
theorem isPathText_of_mem_paths (hwritable : m.isWritable = true)
    (hmodels : g.settings.modelsDir.text.all isPathPoint = true)
    (henums : g.settings.enumsDir.text.all isPathPoint = true) {path : Text}
    (h : path ∈ g.paths m) : path.all isPathPoint = true := by
  obtain ⟨-, -, hnames⟩ := Model.isWritable_iff.1 hwritable
  have hextension : (g.kind.extension : Text).all isPathPoint = true := by
    refine List.all_eq_true.2 (List.forall_mem_map.2 fun c hc => ?_)
    simpa [isPathPoint, Path.bytesOf?] using (g.kind.ne_of_mem_extension hc).2
  have hconstant : ∀ c ∈ ["/", "DTO", ".model", ".enum", "/index", "helpers", "decorators"],
      (Text.ofString c).all isPathPoint = true := by decide
  simp only [List.forall_mem_cons] at hconstant
  obtain ⟨hslash, hdto, hmodel, henum, hindex, hhelpers, hdecorators, -⟩ := hconstant
  simp only [paths, entityPaths, enumPaths, fixedPaths, List.mem_append, List.mem_cons,
    List.mem_map, List.mem_ite_nil_right, List.not_mem_nil, or_false] at h
  rcases h with ⟨e, he, rfl⟩ | rfl | ⟨-, ⟨e, he, rfl⟩ | rfl⟩ | ⟨-, rfl⟩ | rfl
  · have hname := hnames e.name (List.mem_append_left _ (List.mem_map_of_mem he))
    simp only [modelPath, Settings.modelPath, dtoName, List.all_append, hmodels, hname,
      hextension, hslash, hdto, hmodel, Bool.and_true]
  · simp only [barrelPath, List.all_append, hmodels, hextension, hindex, Bool.and_true]
  · have hname := hnames e.name (List.mem_append_right _ (List.mem_map_of_mem he))
    simp only [enumPath, Settings.enumPath, List.all_append, henums, hname, hextension, hslash,
      henum, Bool.and_true]
  · simp only [barrelPath, List.all_append, henums, hextension, hindex, Bool.and_true]
  · simp only [helpersPath, List.all_append, hextension, hhelpers, Bool.and_true]
  · simp only [decoratorsPath, List.all_append, hextension, hdecorators, Bool.and_true]

/-- A generator as it was made takes a model that can be written to files below a directory : each
write succeeds or is refused with a cause. -/
theorem Ready.writeAll_ne_fault (hg : g.Ready) (hs : g.settings.hasTextModules = true)
    (hsettings : g.settings.isWritable = true) (hindent : g.indent.isWhole = true)
    (hm : m.isTextual = true) (hwritable : m.isWritable = true) {root : Path}
    (hroot : root.fault? = none) {w : Workspace} {paths : List Text}
    (htarget : w.target = .directory root paths) (f : Fault) :
    (w.writeAll (Emission.writes (g.plan m))).2 ≠ some (.fault f) := by
  obtain ⟨hmodules, hmodels, henums⟩ := Settings.isWritable_iff.1 hsettings
  refine Workspace.writeAll_ne_fault htarget (fun e he => ⟨?_, ?_⟩) f
  · have hkey : e.1 ∈ g.paths m :=
      Emission.keys_writes (hg.writes_plan hs hm) ▸ List.mem_map_of_mem he
    exact Path.fault?_join hroot
      (Path.fault?_ofText (isPathText_of_mem_paths hwritable hmodels henums hkey))
  · obtain ⟨emission, hemission, d, hd, rfl⟩ := Emission.exists_of_mem_writes he
    exact hg.plan_isWhole hs hmodules hindent hm hwritable hemission d hd

end Generator

end DtoPress
