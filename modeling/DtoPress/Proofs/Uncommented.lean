import DtoPress.Proofs.Comments
import DtoPress.Proofs.Plan

/-!
# Files without their comments

`Text.withoutComments` deletes the block comments of a text, each with the spaces before it on its
line and the line feed after it. A file is printed piece by piece, and a piece is either code that
ends a line or a comment with its line feed, so that both kinds can be deleted from one by one :
`Text.Uncomments` says that the pieces of one text with comments become those of another without,
and it is kept when pieces are put together. Class files and enum files are made of such pieces
(`ClassDeclaration.exists_classFile_bare`, `EnumType.uncomments_enumFile`).

Hence `Generator.withoutComments_drafts` : a file generated with documentation in comments, its
comments deleted, is the file generated without. Documentation reaches nothing but comments.
-/

set_option linter.unusedSectionVars false

namespace DtoPress

/-! ## Deleting comments -/

namespace Text

mutual

/-- The text without its comments, behind a number of spaces that may belong to a comment. -/
def outside (spaces : Nat) : Text → Text
  | .char '/' :: .char '*' :: t => inside t
  | .char ' ' :: t => outside (spaces + 1) t
  | c :: t => List.replicate spaces (.char ' ') ++ c :: outside 0 t
  | [] => List.replicate spaces (.char ' ')

/-- What is left of a text that begins inside of a comment. -/
def inside : Text → Text
  | .char '*' :: .char '/' :: .char '\n' :: t => outside 0 t
  | .char '*' :: .char '/' :: t => outside 0 t
  | _ :: t => inside t
  | [] => []

end

/-- The text without its block comments, each deleted with the spaces before it on its line and
the line feed after it. A comment ends at the first mark that closes it. -/
def withoutComments (t : Text) : Text :=
  outside 0 t

theorem outside_space (n : Nat) (t : Text) : outside n (.char ' ' :: t) = outside (n + 1) t := by
  rw [outside]

theorem outside_open (n : Nat) (t : Text) :
    outside n (.char '/' :: .char '*' :: t) = inside t := by
  rw [outside]

theorem outside_cons {c : CodePoint} {t : Text} (hspace : c ≠ .char ' ')
    (hopen : c ≠ .char '/' ∨ t.head? ≠ some (.char '*')) (n : Nat) :
    outside n (c :: t) = List.replicate n (.char ' ') ++ c :: outside 0 t := by
  rw [outside]
  · rintro u hc rfl
    rcases hopen with hopen | hopen
    · exact hopen hc
    · exact hopen rfl
  · exact hspace

theorem inside_close (t : Text) :
    inside (.char '*' :: .char '/' :: .char '\n' :: t) = outside 0 t := by
  rw [inside]

theorem inside_cons {c : CodePoint} {t : Text}
    (h : c ≠ .char '*' ∨ t.head? ≠ some (.char '/')) : inside (c :: t) = inside t := by
  rw [inside]
  · rintro u hc rfl
    rcases h with h | h
    · exact h hc
    · exact h rfl
  · rintro u hc rfl
    rcases h with h | h
    · exact h hc
    · exact h rfl

/-- Code up to the end of a line is kept. -/
theorem outside_code (u : Text) : ∀ (t : Text) (n : Nat), Apart '/' '*' (t ++ "\n" : Text) →
    outside n ((t ++ "\n" : Text) ++ u) =
      List.replicate n (.char ' ') ++ (t ++ "\n" : Text) ++ outside 0 u
  | [], n, _ => by
    have hfeed : outside n (.char '\n' :: u) =
        List.replicate n (.char ' ') ++ .char '\n' :: outside 0 u :=
      outside_cons (by decide) (.inl (by decide)) n
    rw [List.append_assoc, List.append_assoc]
    exact hfeed
  | c :: t, n, h => by
    obtain ⟨hopen, htail⟩ := Apart.of_cons h
    have hrest := outside_code u t
    rw [List.cons_append, List.cons_append]
    by_cases hspace : c = .char ' '
    · rw [hspace, outside_space, hrest (n + 1) htail, List.replicate_succ']
      simp only [List.append_assoc, List.cons_append, List.nil_append]
    · have hhead : ((t ++ "\n" : Text) ++ u).head? = (t ++ "\n" : Text).head? := by
        cases t <;> rfl
      rw [outside_cons hspace (by rwa [hhead]), hrest 0 htail]
      simp only [List.append_assoc, List.cons_append, List.replicate_zero, List.nil_append]

theorem outside_spaces (u : Text) : ∀ n m : Nat,
    outside m (List.replicate n (.char ' ') ++ u) = outside (m + n) u
  | 0, m => rfl
  | n + 1, m => by
    rw [List.replicate_succ, List.cons_append, outside_space, outside_spaces u n (m + 1),
      Nat.add_right_comm]
    rfl

/-- Inside of a comment everything is skipped up to the mark that closes it. -/
theorem inside_body (u : Text) : ∀ {body : Text}, Apart '*' '/' body →
    inside (body ++ ("*/\n" ++ u : Text)) = outside 0 u
  | [], _ => inside_close u
  | c :: body, h => by
    obtain ⟨hclose, htail⟩ := Apart.of_cons h
    rw [List.cons_append, inside_cons, inside_body u htail]
    refine hclose.imp_right fun hhead => ?_
    cases body with
    | nil => exact fun heq => absurd (Option.some.inj heq) (by decide)
    | cons d body => exact hhead

/-- A comment that stands alone on its lines is deleted with them. -/
theorem outside_comment (n : Nat) (t u : Text) :
    outside 0 (indentLines n (docComment t) ++ ("\n" ++ u : Text)) = outside 0 u := by
  obtain ⟨body, hbody, hcomment⟩ := indentLines_docComment n t
  have hmarks : (List.replicate n (CodePoint.char ' ') ++ ("/*" ++ body ++ "*/" : Text)) ++
      ("\n" ++ u : Text) = List.replicate n (CodePoint.char ' ') ++
        (.char '/' :: .char '*' :: (body ++ ("*/\n" ++ u : Text))) := by
    rw [show ("*/\n" : Text) = "*/" ++ "\n" from rfl]
    simp only [List.append_assoc]
    rfl
  rw [hcomment, hmarks, outside_spaces, outside_open, inside_body u hbody]

/-! ## Texts with and without comments -/

/-- With its comments deleted, the one text is the other, which has none : so it is at the start of
every longer text. -/
def Uncomments (on off : Text) : Prop :=
  Apart '/' '*' off → ∀ u, outside 0 (on ++ u) = off ++ outside 0 u

variable {on off on' off' : Text}

theorem Uncomments.withoutComments (h : Uncomments on off) (hoff : ¬ ("/*" : Text) <:+: off) :
    withoutComments on = off := by
  have hall := h (apart_iff_not_isInfix.2 hoff) []
  rwa [List.append_nil, outside, List.replicate_zero, List.append_nil] at hall

theorem uncomments_nil : Uncomments [] [] := fun _ _ => rfl

theorem Uncomments.append (h : Uncomments on off) (h' : Uncomments on' off') :
    Uncomments (on ++ on') (off ++ off') := by
  intro hoff u
  have hfirst := hoff.of_isInfix (List.prefix_append off off').isInfix
  have hsecond := hoff.of_isInfix (List.suffix_append off off').isInfix
  rw [List.append_assoc, h hfirst, h' hsecond, List.append_assoc]

theorem Uncomments.flatten {ons offs : List Text} (h : List.Forall₂ Uncomments ons offs) :
    Uncomments ons.flatten offs.flatten := by
  induction h with
  | nil => exact uncomments_nil
  | cons hfirst _ ih =>
    rw [List.flatten_cons, List.flatten_cons]
    exact hfirst.append ih

theorem uncomments_code (t : Text) : Uncomments (t ++ "\n") (t ++ "\n") :=
  fun h u => outside_code u t 0 h

theorem uncomments_comment (n : Nat) (t : Text) :
    Uncomments (indentLines n (docComment t) ++ "\n") [] := by
  intro _ u
  rw [List.append_assoc]
  exact outside_comment n t u

end Text

open Text (Uncomments uncomments_nil uncomments_code uncomments_comment)

/-! ## Class files -/

theorem uncomments_headComment (v : Value) : Uncomments (headComment v) "" := by
  unfold headComment
  split
  · have hcomment := uncomments_comment 0 v.text
    rwa [Text.indentLines_zero] at hcomment
  · exact uncomments_nil

/-- The property without its comment. -/
def Property.bare (p : Property) : Property :=
  { p with comment := .null }

/-- The class without its comments. -/
def ClassDeclaration.bare (c : ClassDeclaration) : ClassDeclaration :=
  { c with comment := .null, properties := c.properties.map Property.bare }

theorem exists_propertyComment_uncomments {layout : Layout}
    (h : ∃ n, spacesOf layout.commentIndent = .ok n) (comment : Value) :
    ∃ t, propertyComment layout comment = .ok t ∧ Uncomments t "" := by
  obtain ⟨n, hn⟩ := h
  unfold propertyComment
  split
  · rw [hn]
    exact ⟨_, rfl, uncomments_comment n comment.text⟩
  · exact ⟨_, rfl, uncomments_nil⟩

theorem exists_propertyText_bare {layout : Layout}
    (h : ∃ n, spacesOf layout.commentIndent = .ok n) (p : Property) : ∃ on off,
    propertyText layout p = .ok on ∧ propertyText layout p.bare = .ok off ∧ Uncomments on off := by
  obtain ⟨t, ht, hcomment⟩ := exists_propertyComment_uncomments h p.comment
  have hbare : propertyComment layout p.bare.comment = .ok "" := rfl
  refine ⟨_, _, by rw [propertyText, ht]; rfl, by rw [propertyText, hbare]; rfl, ?_⟩
  have hpieces := hcomment.append (uncomments_code
    (p.decorators.flatMap (decoratorLine layout.indent) ++ layout.indent ++ propertyLine p ++ "\n"))
  rw [show ("\n\n" : Text) = "\n" ++ "\n" from rfl]
  simp only [List.append_assoc] at hpieces ⊢
  exact hpieces

/-- A class file with its comments deleted is that of the class without comments. -/
theorem ClassDeclaration.exists_classFile_bare {layout : Layout}
    (h : ∃ n, spacesOf layout.commentIndent = .ok n) (imports : Imports) (c : ClassDeclaration) :
    ∃ on off, classFile layout imports c = .ok on ∧ classFile layout imports c.bare = .ok off ∧
      Uncomments on off := by
  obtain ⟨ons, offs, hons, hoffs, hproperties⟩ := exists_mapM_forall₂ (l := c.properties)
    fun p _ => exists_propertyText_bare h p
  have hbare : c.bare.properties.mapM (propertyText layout) = .ok offs := by
    rw [← hoffs]
    exact List.mapM_map
  refine ⟨_, _, by rw [classFile, classText, hons]; rfl,
    by rw [classFile, classText, hbare]; rfl, ?_⟩
  have hpieces := (uncomments_code (importLines layout.quote imports)).append
    ((uncomments_headComment c.comment).append
      ((uncomments_code ((if c.isExported.truthy then "export " else "") ++ "class "
          ++ c.name.text ++ " \x7b")).append
        ((Uncomments.flatten hproperties).append
          (uncomments_code (c.statics.flatMap (staticText layout.indent) ++ "\x7d")))))
  rw [show (" \x7b\n" : Text) = " \x7b" ++ "\n" from rfl,
    show ("\x7d\n" : Text) = "\x7d" ++ "\n" from rfl]
  simp only [List.append_assoc] at hpieces ⊢
  exact hpieces

/-- An enum file with its comment deleted is that without. -/
theorem EnumType.uncomments_enumFile (indent : Text) (q : Char) (comments : Bool) (e : EnumType) :
    Uncomments (enumFile indent q comments e) (enumFile indent q false e) := by
  have hhead : Uncomments (if comments then headComment e.documentation else "") "" := by
    split
    · exact uncomments_headComment e.documentation
    · exact uncomments_nil
  have hpieces := hhead.append ((uncomments_code ("export enum " ++ e.name.text ++ " \x7b")).append
    (uncomments_code (e.values.flatMap (enumLine indent q) ++ "\x7d")))
  rw [enumFile, enumFile, show (" \x7b\n" : Text) = " \x7b" ++ "\n" from rfl,
    show ("\x7d\n" : Text) = "\x7d" ++ "\n" from rfl, if_neg Bool.false_ne_true]
  simp only [List.append_assoc] at hpieces ⊢
  exact hpieces

/-! ## Generators with and without comments -/

/-- Two emissions are the same but for the comments in their texts : both fail, and alike, or both
have a text, and if the second has no comments it is the first with its comments deleted. -/
def Draft.SameButComments :
    Except (Trouble EmissionError) Draft → Except (Trouble EmissionError) Draft → Prop
  | .ok on, .ok off => on.path = off.path ∧ on.notes = off.notes ∧
      (¬ ("/*" : Text) <:+: off.text → Text.withoutComments on.text = off.text)
  | .error on, .error off => on = off
  | _, _ => False

theorem Entity.declaration_bare (e : Entity) (style : UnitStyle)
    (classified : List Classification) :
    e.declaration { style with comments := false } classified =
      (e.declaration style classified).bare := by
  simp only [declaration, ClassDeclaration.bare, List.map_map]
  rfl

/-- The unit of an entity without documentation is the one with it, its comments left out. -/
theorem Entity.unit_bare (e : Entity) (style : UnitStyle) :
    e.unit { style with comments := false } = (e.unit style).map fun unit =>
      { unit with declaration := unit.declaration.map ClassDeclaration.bare } := by
  rw [unit, unit]
  simp only [declaration_bare]
  cases e.fields.mapM fun f => f.classify e.name style.types style.coerce with
  | error f => rfl
  | ok classified =>
    rw [bind_ok, bind_ok]
    cases e.imports style.settings classified with
    | error f => rfl
    | ok imports => rfl

namespace Generator

variable {g : Generator}

/-- The generator with another value for whether documentation becomes comments. -/
def withComments (g : Generator) (v : Value) : Generator :=
  { g with config := { g.config with addComments := v } }

theorem Ready.withComments (hg : g.Ready) (v : Value) : (g.withComments v).Ready :=
  ⟨hg.types, hg.spaces, hg.builtIn⟩

theorem unit_withComments {off : Value} (hoff : off.truthy = false) (e : Entity) :
    (g.withComments off).unit e = (g.unit e).map fun unit =>
      { unit with declaration := unit.declaration.map ClassDeclaration.bare } := by
  have hstyle : (g.withComments off).unitStyle = { g.unitStyle with comments := false } := by
    rw [← hoff]
    rfl
  rw [unit, hstyle]
  exact e.unit_bare g.unitStyle

theorem sameButComments_emitEntity (hg : g.Ready) {off : Value} (hoff : off.truthy = false)
    (e : Entity) : Draft.SameButComments (g.emitEntity e).draft
      ((g.withComments off).emitEntity e).draft := by
  have hunit := unit_withComments (g := g) hoff e
  rw [emitEntity, emitEntity, hunit]
  cases g.unit e with
  | error f => rfl
  | ok made =>
    obtain ⟨path, imports, declaration⟩ := made
    cases declaration with
    | none => rfl
    | some c =>
      have hspaces : ∃ n, spacesOf g.layout.commentIndent = .ok n := hg.spaces
      obtain ⟨on, bare, hon, hbare, huncomments⟩ := c.exists_classFile_bare hspaces imports
      have hbare' : classFile (g.withComments off).layout imports c.bare = .ok bare := hbare
      simp only [Except.map, Option.map_some, hon, hbare', hg.emission_draft,
        (hg.withComments off).emission_draft]
      exact ⟨rfl, rfl, huncomments.withoutComments⟩

theorem sameButComments_emitEnum (hg : g.Ready) {off : Value} (hoff : off.truthy = false)
    (e : EnumType) : Draft.SameButComments (g.emitEnum e).draft
      ((g.withComments off).emitEnum e).draft := by
  have huncomments := e.uncomments_enumFile g.indent g.engine.quote g.config.addComments.truthy
  rw [← hoff] at huncomments
  rw [emitEnum, emitEnum, hg.emission_draft, (hg.withComments off).emission_draft]
  exact ⟨rfl, rfl, huncomments.withoutComments⟩

/-- Documentation reaches nothing but comments. Whatever a configuration says of comments, the
generator made with comments turned off writes the same files, but that the comments are deleted;
and all textual entities and all enums have files. -/
theorem withoutComments_drafts {kind : GeneratorClass} {c : Config} (h : create kind c = .ok g)
    {off : Value} (hoff : off.truthy = false) :
    create kind { c with addComments := off } = .ok (g.withComments off) ∧
    (∀ e, Draft.SameButComments (g.emitEntity e).draft ((g.withComments off).emitEntity e).draft) ∧
    (∀ e, Draft.SameButComments (g.emitEnum e).draft ((g.withComments off).emitEnum e).draft) ∧
    (g.settings.hasTextModules = true → ∀ e : Entity, e.isTextual = true → ∃ on bare,
      (g.emitEntity e).draft = .ok on ∧ ((g.withComments off).emitEntity e).draft = .ok bare) ∧
    ∀ e, ∃ on bare, (g.emitEnum e).draft = .ok on ∧
      ((g.withComments off).emitEnum e).draft = .ok bare := by
  have hg := ready_of_create h
  have hmade : create kind { c with addComments := off } = .ok (g.withComments off) := by
    rw [create_config h { c with addComments := off } rfl rfl rfl, Generator.withComments,
      config_of_create h]
  refine ⟨hmade, sameButComments_emitEntity hg hoff, sameButComments_emitEnum hg hoff, ?_, ?_⟩
  · intro hs e he
    obtain ⟨unit, c, d, -, -, -, -, -, hd, -⟩ := hg.emitEntity_draft hs he
    obtain ⟨unit', c', d', -, -, -, -, -, hd', -⟩ := (hg.withComments off).emitEntity_draft hs he
    exact ⟨d, d', hd, hd'⟩
  · intro e
    obtain ⟨d, hd, -⟩ := hg.emitEnum_draft e
    obtain ⟨d', hd', -⟩ := (hg.withComments off).emitEnum_draft e
    exact ⟨d, d', hd, hd'⟩

end Generator

/-- An entity whose documentation closes and opens comments. -/
def Entity.sampleDocumented : Entity :=
  { name := .str "Order", documentation := .str "ends */ early\n\n/* and again **/"
    fields := [{ name := .str "id", type := .str "Int", documentation := .str "*/ let x; /*" }] }

/-- The second text has no comment, and the first is another. -/
def Draft.differInComments :
    Except (Trouble EmissionError) Draft → Except (Trouble EmissionError) Draft → Bool
  | .ok on, .ok bare => decide (Text.Apart '/' '*' bare.text) && on.text != bare.text
  | _, _ => false

theorem Generator.withoutComments_drafts_sampleDocumented : ∃ g on bare,
    Generator.create .typescript {} = .ok g ∧ (Value.bool false).truthy = false ∧
    (g.emitEntity .sampleDocumented).draft = .ok on ∧
    ((g.withComments (.bool false)).emitEntity .sampleDocumented).draft = .ok bare ∧
    ¬ ("/*" : Text) <:+: bare.text ∧ on.text ≠ bare.text ∧
    Text.withoutComments on.text = bare.text := by
  obtain ⟨g, hg⟩ : ∃ g, Generator.create .typescript {} = .ok g := ⟨_, rfl⟩
  have hdiffer : ((Generator.create .typescript {}).toOption.map fun g =>
      Draft.differInComments (g.emitEntity .sampleDocumented).draft
        ((g.withComments (.bool false)).emitEntity .sampleDocumented).draft) = some true := by
    decide +kernel
  have hoff : (Value.bool false).truthy = false := rfl
  obtain ⟨-, hsame, -, htexts, -⟩ := withoutComments_drafts hg hoff
  have hs : g.settings.hasTextModules = true := by
    obtain ⟨settings, n, hsettings, -, rfl⟩ := of_create hg
    obtain rfl : ({} : Settings) = settings := Except.ok.inj hsettings
    rfl
  obtain ⟨on, bare, hon, hbare⟩ := htexts hs .sampleDocumented rfl
  rw [hg] at hdiffer
  have hdiffer : Draft.differInComments (g.emitEntity .sampleDocumented).draft
      ((g.withComments (.bool false)).emitEntity .sampleDocumented).draft = true :=
    Option.some.inj hdiffer
  have hsame := hsame .sampleDocumented
  rw [hon, hbare] at hsame hdiffer
  obtain ⟨hapart, hne⟩ := Bool.and_eq_true_iff.1 hdiffer
  have hopen := Text.apart_iff_not_isInfix.1 (of_decide_eq_true hapart)
  exact ⟨g, on, bare, hg, hoff, hon, hbare, hopen, bne_iff_ne.1 hne, hsame.2.2 hopen⟩

end DtoPress
