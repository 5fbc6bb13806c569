import DtoPress.Proofs.Encoding
import DtoPress.Proofs.UnitImports

/-!
# What printed pieces are made of

What is printed of a field or of an import is put together from constant texts without line feeds
and from what is printed as it is : names, types and modules. So a class of code points that has
every character but the line feed (`Text.HasCharacters`) has all of a piece if it has all that the
piece is printed from. Texts without lone halves and texts of one line are two such classes.
-/

set_option linter.unusedSectionVars false

namespace DtoPress

/-! ## Classes of code points -/

/-- Every character passes, but for the line feed, which may. -/
class Text.HasCharacters (p : CodePoint → Bool) : Prop where
  char : ∀ c : Char, c ≠ '\n' → p (.char c) = true

variable {p : CodePoint → Bool} [Text.HasCharacters p]

namespace Text

/-- The code point does not end a line. -/
def isInLine (c : CodePoint) : Bool :=
  c != .char '\n'

/-- The text is one line. -/
def isLine (t : Text) : Bool :=
  t.all isInLine

theorem isLine_iff {t : Text} : t.isLine = true ↔ (.char '\n' : CodePoint) ∉ t := by
  rw [isLine, List.all_eq_true]
  constructor
  · intro h hmem
    have hnewline := h _ hmem
    rw [isInLine, bne_self_eq_false] at hnewline
    cases hnewline
  · intro h c hc
    rw [isInLine, bne_iff_ne]
    rintro rfl
    exact h hc

instance : HasCharacters isInLine where
  char c h := by
    rw [isInLine, bne_iff_ne]
    exact fun heq => h (CodePoint.char.inj heq)

instance : HasCharacters fun c => c.char?.isSome where
  char _ _ := rfl

theorem all_ofString {s : String} (h : '\n' ∉ s.toList) : (ofString s).all p = true := by
  rw [ofString, ofChars, List.all_map, List.all_eq_true]
  exact fun c hc => HasCharacters.char c fun heq => h (heq ▸ hc)

theorem all_commaSeparated {parts : List Text} (h : ∀ t ∈ parts, t.all p = true) :
    (commaSeparated parts).all p = true :=
  (all_joined (all_ofString (by decide))).2 h

theorem all_literal {q : Char} (hq : q ≠ '\n') {t : Text} (h : t.all p = true) :
    (literal q t).all p = true := by
  have hescape : ∀ c ∈ t, (escapeLiteral q c).all p = true := by
    intro c hc
    have hbackslash : p (.char '\\') = true := HasCharacters.char _ (by decide)
    unfold escapeLiteral
    split <;> simp [hbackslash, List.all_eq_true.1 h c hc]
  have hquote : p (.char q) = true := HasCharacters.char q hq
  rw [literal, List.cons_append, List.all_cons, List.all_append, List.all_flatMap, hquote]
  simp [hquote, List.all_eq_true.2 hescape]

theorem rest_of_isIdentifier {t : Text} (h : isIdentifier t = true) :
    t.all (·.isA isIdentifierRest) = true := by
  cases t with
  | nil => rfl
  | cons c t =>
    obtain ⟨hstart, hrest⟩ := Bool.and_eq_true_iff.1 h
    rw [List.all_cons, hrest, Bool.and_true]
    cases c with
    | half index => cases hstart
    | char c =>
      replace hstart : (c.isAlpha || c = '_' || c = '$') = true := hstart
      show (c.isAlphanum || c = '_' || c = '$') = true
      simp only [Char.isAlphanum, Bool.or_eq_true] at hstart ⊢
      rcases hstart with (halpha | hline) | hdollar
      · exact .inl (.inl (.inl halpha))
      · exact .inl (.inr hline)
      · exact .inr hdollar

theorem all_of_rest {t : Text} (h : t.all (·.isA isIdentifierRest) = true) : t.all p = true := by
  refine List.all_eq_true.2 fun c hc => ?_
  have hrest := List.all_eq_true.1 h c hc
  cases c with
  | half index => cases hrest
  | char c =>
    refine HasCharacters.char c ?_
    rintro rfl
    exact absurd hrest (by decide)

end Text

theorem all_dtoName {v : Value} (h : v.text.all p = true) : (dtoName v).all p = true := by
  rw [dtoName, List.all_append, h, Text.all_ofString (by decide)]
  rfl

/-! ## Decorators -/

theorem Decorator.all_text {d : Decorator} (hname : d.name.text.all p = true)
    (harguments : ∀ a ∈ d.arguments, a.text.all p = true) : d.text.all p = true := by
  have hlist : (Text.commaSeparated (d.arguments.map Argument.text)).all p = true :=
    Text.all_commaSeparated (List.forall_mem_map.2 harguments)
  simp +decide only [text, List.all_append, hname, hlist, Text.all_ofString]

namespace Field

variable {f : Field}

theorem all_presence (f : Field) : f.presence.all p = true := by
  rcases f.presence_eq_or with h | h <;> rw [h] <;> exact Text.all_ofString (by decide)

theorem all_check? {check : Text} (h : f.check? = some check) : check.all p = true := by
  obtain ⟨t, -, h⟩ := Option.bind_eq_some_iff.1 h
  cases t <;> cases h <;> exact Text.all_ofString (by decide)

theorem all_constructor? {target : Text} (h : f.constructor? = some target) :
    target.all p = true := by
  obtain ⟨t, -, h⟩ := Option.bind_eq_some_iff.1 h
  cases t <;> cases h <;> exact Text.all_ofString (by decide)

theorem all_of_mem_validatorSymbols {s : Text} (h : s ∈ f.validatorSymbols) :
    s.all p = true := by
  simp only [validatorSymbols, List.cons_append, List.mem_cons, List.mem_append,
    Option.mem_toList, List.mem_ite_nil_right, List.not_mem_nil, or_false] at h
  rcases h with rfl | h | ⟨-, rfl⟩
  · exact f.all_presence
  · exact all_check? h
  · exact Text.all_ofString (by decide)

/-- The decorators of a field hold constant texts, its type and its list flag. -/
theorem all_of_mem_decorators (htype : f.type.text.all p = true)
    (hlist : (Text.lower f.isList.text).all p = true) {owner : Value} {coerce : Bool}
    {d : Decorator} (h : d ∈ f.decorators owner coerce) : d.text.all p = true := by
  rcases mem_decorators.1 h with h | rfl | ⟨-, h⟩ | h
  · rcases mem_checks.1 h with rfl | ⟨check, hcheck, rfl⟩ | ⟨-, rfl⟩
    · exact Decorator.all_text f.all_presence (by simp)
    · exact Decorator.all_text (all_check? hcheck) (by simp)
    · refine Decorator.all_text (Text.all_ofString (by decide)) (List.forall_mem_singleton.2 ?_)
      simp +decide only [Argument.text, Value.text_str, List.all_append, htype, Text.all_ofString]
  · exact Decorator.all_text (Text.all_ofString (by decide)) (by simp)
  · obtain ⟨target, htarget, rfl⟩ := mem_coercion.1 h
    refine Decorator.all_text (Text.all_ofString (by decide)) (List.forall_mem_singleton.2 ?_)
    simp +decide only [Argument.text, Value.text_str, List.all_append, Text.all_ofString,
      all_constructor? htarget]
  · obtain ⟨-, rfl⟩ := mem_nestedEntity.1 h
    refine Decorator.all_text (Text.all_ofString (by decide)) ?_
    rw [List.forall_mem_cons, List.forall_mem_singleton]
    simp +decide only [Argument.text, Value.text_str, List.all_append, Text.all_ofString,
      all_dtoName htype, hlist, and_self]

/-! ## Types -/

/-- The type of one item of a field : a class if it is an entity. -/
def itemType (f : Field) (base : Value) : Value :=
  if f.isObject then .str (dtoName base) else base

/-- The type of a field : that of an item, or a list of them. -/
def written (f : Field) (base : Value) : Value :=
  if f.isList.truthy then .str ((f.itemType base).text ++ "[]") else f.itemType base

/-- What is written for a field is in the table or is the type of the field. -/
theorem eq_written_of_targetType {types : TypeMap} {v : Value} (h : f.targetType types = .ok v) :
    ∃ base, (base = f.type ∨ ∃ e ∈ types, base = .str e.2) ∧ v = f.written base := by
  unfold targetType at h
  cases hscalar : f.scalarType with
  | none =>
    simp only [hscalar] at h
    exact ⟨f.type, .inl rfl, (Except.ok.inj h).symm⟩
  | some t =>
    simp only [hscalar] at h
    cases hget : types.get? t with
    | none =>
      rw [hget] at h
      cases h
    | some name =>
      rw [hget] at h
      exact ⟨.str name, .inr ⟨_, Entries.mem_of_get? hget, rfl⟩, (Except.ok.inj h).symm⟩

theorem isText_written {base : Value} (h : base.isText = true) :
    (f.written base).isText = true := by
  unfold written itemType
  split
  · rfl
  · split
    · rfl
    · exact h

theorem all_written {base : Value} (h : base.text.all p = true) :
    (f.written base).text.all p = true := by
  have hitem : (f.itemType base).text.all p = true := by
    unfold itemType
    split
    · exact all_dtoName h
    · exact h
  unfold written
  split
  · simp +decide only [Value.text_str, List.all_append, hitem, Text.all_ofString]
  · exact hitem

theorem isText_targetType {types : TypeMap} (htype : f.type.isText = true) {v : Value}
    (h : f.targetType types = .ok v) : v.isText = true := by
  obtain ⟨base, rfl | ⟨e, -, rfl⟩, rfl⟩ := eq_written_of_targetType h
  · exact isText_written htype
  · exact isText_written rfl

theorem all_targetType {types : TypeMap} (htypes : ∀ e ∈ types, e.2.all p = true)
    (htype : f.type.text.all p = true) {v : Value} (h : f.targetType types = .ok v) :
    v.text.all p = true := by
  obtain ⟨base, rfl | ⟨e, he, rfl⟩, rfl⟩ := eq_written_of_targetType h
  · exact all_written htype
  · exact all_written (htypes e he)

end Field

theorem TypeMap.all_of_mem_standard {e : ScalarType × Text} (h : e ∈ TypeMap.standard) :
    e.2.all p = true := by
  simp only [TypeMap.standard, List.mem_cons, List.not_mem_nil, or_false] at h
  rcases h with rfl | rfl | rfl | rfl | rfl | rfl | rfl | rfl <;>
    exact Text.all_ofString (by decide)

theorem Settings.all_of_mem_typeMap {s : Settings} (h : s.ormNamespace.text.all p = true)
    {e : ScalarType × Text} (he : e ∈ s.typeMap) : e.2.all p = true := by
  unfold typeMap at he
  split at he
  · exact TypeMap.all_of_mem_standard he
  · obtain ⟨⟨t, name⟩, hmem, rfl⟩ := List.mem_map.1 he
    have hname : name.all p = true := TypeMap.all_of_mem_standard hmem
    cases t <;> simp +decide only [hname, List.all_append, h, Text.all_ofString]

namespace Field

variable {f : Field} {types : TypeMap} {owner : Value} {coerce : Bool} {c : Classification}

theorem targetType_of_classify (h : f.classify owner types coerce = .ok c) :
    f.targetType (if types.isEmpty then .standard else types) = .ok c.targetType := by
  obtain ⟨type, htype, h⟩ := bind_eq_ok_iff.1 h
  rw [htype, ← Except.ok.inj h]

theorem isText_type_of_classify (htype : f.type.isText = true)
    (h : f.classify owner types coerce = .ok c) : c.targetType.isText = true :=
  isText_targetType htype (targetType_of_classify h)

/-- The type of a classified field is in the table or the standard one, or is that of the field. -/
theorem all_type_of_classify (htypes : ∀ e ∈ types, e.2.all p = true)
    (htype : f.type.text.all p = true) (h : f.classify owner types coerce = .ok c) :
    c.targetType.text.all p = true := by
  refine all_targetType (fun e he => ?_) htype (targetType_of_classify h)
  split at he
  · exact TypeMap.all_of_mem_standard he
  · exact htypes e he

end Field

/-! ## Imports -/

/-- What the class of an entity uses is named by a setting, a type of a field or a constant. -/
theorem Entity.Uses.all_text {e : Entity} {style : UnitStyle} {module symbol : Value}
    (h : e.Uses style module symbol) (htypes : ∀ f ∈ e.fields, f.type.text.all p = true)
    (hs : ∀ v ∈ style.settings.modules, v.text.all p = true) :
    module.text.all p = true ∧ symbol.text.all p = true := by
  simp only [Settings.modules, List.forall_mem_cons] at hs
  obtain ⟨hv, ht, -, ho, hn, hh, hu, hd, hr, -⟩ := hs
  cases h with
  | validator _ hc hname =>
    rw [Field.symbols_of_classify hc] at hname
    exact ⟨hv, Field.all_of_mem_validatorSymbols hname⟩
  | expose => exact ⟨ht, Text.all_ofString (by decide)⟩
  | coercion => exact ⟨ht, Text.all_ofString (by decide)⟩
  | nested => exact ⟨hd, Text.all_ofString (by decide)⟩
  | mapped _ _ => exact ⟨ho, hn⟩
  | relation hf _ _ => exact ⟨hr, all_dtoName (htypes _ hf)⟩
  | helper _ _ => exact ⟨hh, Text.all_ofString (by decide)⟩
  | enum hf _ => exact ⟨hu, htypes _ hf⟩

/-- The code of an import. -/
def importCode (q : Char) (module : Value) (symbols : List Value) : Text :=
  "import \x7b " ++ Text.commaSeparated (symbols.map Value.text) ++ " \x7d from "
    ++ Text.literal q module.text ++ ";"

theorem importLine_eq (q : Char) (module : Value) {symbols : List Value} (h : symbols ≠ []) :
    importLine q module symbols = importCode q module symbols ++ "\n" := by
  rw [importLine, if_neg (by simpa using h), importCode, List.append_assoc _ _ ("\n" : Text)]
  rfl

theorem all_importCode {q : Char} (hq : q ≠ '\n') {module : Value} {symbols : List Value}
    (hmodule : module.text.all p = true) (hsymbols : ∀ s ∈ symbols, s.text.all p = true) :
    (importCode q module symbols).all p = true := by
  have hlist : (Text.commaSeparated (symbols.map Value.text)).all p = true :=
    Text.all_commaSeparated (List.forall_mem_map.2 hsymbols)
  simp +decide only [importCode, List.all_append, hlist, Text.all_literal hq hmodule,
    Text.all_ofString]

end DtoPress
