import DtoPress.Proofs.Indenting
import DtoPress.Proofs.Plan

/-!
# Lines without the spaces in front of them

`Text.unindented` lists the lines of a text without the spaces in front of them. Two texts that have
this in common need not have it any more when more is put behind them, since a last line that is
spaces alone becomes the front of another line. `Text.Aligned` is the relation that is kept when
pieces are put together : it holds of pieces that end a line, if they have the same lines but for
spaces in front (`Text.aligned_lines`). All files are made of such pieces. Indentation comes into
them in two ways, as copies of a text of spaces in front of code, which may well hold line feeds
itself (`Text.aligned_code`), and as spaces in front of each line of a comment that is not blank
(`Text.unindented_indentLines`). So the files that are printed with two indentations are aligned
(`exists_classFile_aligned`, `aligned_enumFile`, `aligned_codeLines`).
-/

set_option linter.unusedSectionVars false

namespace DtoPress

/-! ## Lines without the spaces in front of them -/

namespace Text

/-- A line without the spaces in front of it. -/
def dropSpaces (line : Text) : Text :=
  line.dropWhile (· = .char ' ')

/-- The lines of a text without the spaces in front of them. -/
def unindented (t : Text) : List Text :=
  (splitLines t).map dropSpaces

/-- The text is nothing but spaces. -/
def IsSpaces (t : Text) : Prop :=
  ∀ c ∈ t, c = .char ' '

theorem isSpaces_replicate (n : Nat) : IsSpaces (List.replicate n (.char ' ')) :=
  fun _ => List.eq_of_mem_replicate

theorem isSpaces_copies {t : Text} (h : IsSpaces t) (n : Nat) :
    IsSpaces (List.replicate n t).flatten := by
  intro c hc
  obtain ⟨copy, hcopy, hmem⟩ := List.mem_flatten.1 hc
  exact h c (List.eq_of_mem_replicate hcopy ▸ hmem)

theorem dropSpaces_append_of_isSpaces : ∀ {s : Text}, IsSpaces s → ∀ t : Text,
    dropSpaces (s ++ t) = dropSpaces t
  | [], _, _ => rfl
  | c :: s, h, t => by
    obtain ⟨rfl, hs⟩ := List.forall_mem_cons.1 h
    exact dropSpaces_append_of_isSpaces hs t

/-- The lines on both sides of a line feed are those of the two sides. -/
theorem unindented_append_newline (t u : Text) :
    unindented (t ++ ("\n" ++ u)) = unindented t ++ unindented u := by
  have hsplit : splitLines (t ++ .char '\n' :: u) = splitLines t ++ splitLines u :=
    split_append_separator u t
  show (splitLines (t ++ .char '\n' :: u)).map dropSpaces = _
  rw [hsplit, List.map_append]
  rfl

/-- Spaces in front of a text are spaces in front of its first line. -/
theorem unindented_append_of_isSpaces : ∀ {s : Text}, IsSpaces s → ∀ t : Text,
    unindented (s ++ t) = unindented t
  | [], _, _ => rfl
  | c :: s, h, t => by
    obtain ⟨rfl, hs⟩ := List.forall_mem_cons.1 h
    have hspace : CodePoint.char ' ' ≠ .char '\n' := by decide
    obtain ⟨line, lines, hrest, hsplit⟩ := split_cons_of_ne hspace (s ++ t)
    rw [← unindented_append_of_isSpaces hs t]
    show (split (.char '\n') (.char ' ' :: (s ++ t))).map dropSpaces =
      (split (.char '\n') (s ++ t)).map dropSpaces
    rw [hsplit, hrest]
    rfl

/-- Lines that are indented stay the same but for the spaces in front of them. -/
theorem unindented_indentLines (n : Nat) (t : Text) :
    unindented (indentLines n t) = unindented t := by
  have hline : ∀ l, dropSpaces (indentLine n l) = dropSpaces l := by
    intro l
    unfold indentLine
    split
    · rfl
    · exact dropSpaces_append_of_isSpaces (isSpaces_replicate n) l
  rw [unindented, splitLines_indentLines, List.map_map, unindented]
  exact List.map_congr_left fun l _ => hline l

/-! ## Pieces that end a line -/

/-- Whatever comes behind the two texts, with the same lines but for spaces in front, they have the
same lines but for spaces in front. -/
def Aligned (t t' : Text) : Prop :=
  ∀ u u' : Text, unindented u = unindented u' → unindented (t ++ u) = unindented (t' ++ u')

variable {s s' t t' u u' : Text}

theorem Aligned.unindented_eq (h : Aligned t t') : unindented t = unindented t' := by
  have hend := h [] [] rfl
  rwa [List.append_nil, List.append_nil] at hend

theorem aligned_nil : Aligned [] [] := fun _ _ h => h

theorem Aligned.append (h : Aligned t t') (h' : Aligned u u') : Aligned (t ++ u) (t' ++ u') := by
  intro v v' hv
  rw [List.append_assoc, List.append_assoc]
  exact h _ _ (h' v v' hv)

theorem Aligned.flatten {ts ts' : List Text} (h : List.Forall₂ Aligned ts ts') :
    Aligned ts.flatten ts'.flatten := by
  induction h with
  | nil => exact aligned_nil
  | cons hfirst _ ih => exact hfirst.append ih

theorem aligned_flatMap {α : Type} {f g : α → Text} {l : List α}
    (h : ∀ a ∈ l, Aligned (f a) (g a)) : Aligned (l.flatMap f) (l.flatMap g) := by
  rw [List.flatMap_def, List.flatMap_def]
  exact Aligned.flatten (forall₂_map_same h)

theorem aligned_lines (h : unindented t = unindented t') :
    Aligned (t ++ "\n") (t' ++ "\n") := by
  intro u u' hu
  rw [List.append_assoc, List.append_assoc, unindented_append_newline, unindented_append_newline, h,
    hu]

theorem aligned_line (t : Text) : Aligned (t ++ "\n") (t ++ "\n") :=
  aligned_lines rfl

/-- Code behind spaces, however many they are. -/
theorem aligned_code (h : IsSpaces s) (h' : IsSpaces s') (t : Text) :
    Aligned (s ++ t ++ "\n") (s' ++ t ++ "\n") :=
  aligned_lines (by rw [unindented_append_of_isSpaces h, unindented_append_of_isSpaces h'])

end Text

open Text (Aligned IsSpaces aligned_nil aligned_lines aligned_line aligned_code aligned_flatMap)

/-! ## Files -/

/-- Two layouts differ in their indentation alone. -/
structure Layout.Reindents (l l' : Layout) : Prop where
  quote : l.quote = l'.quote
  indent : IsSpaces l.indent
  indent' : IsSpaces l'.indent
  spaces : ∃ n, spacesOf l.commentIndent = .ok n
  spaces' : ∃ n, spacesOf l'.commentIndent = .ok n

variable {layout layout' : Layout}

theorem aligned_headComment (v : Value) : Aligned (headComment v) (headComment v) := by
  unfold headComment
  split
  · exact aligned_line (commentOf v)
  · exact aligned_nil

theorem aligned_importLines (q : Char) (imports : Imports) :
    Aligned (importLines q imports) (importLines q imports) := by
  refine aligned_flatMap ?_
  rintro ⟨module, symbols⟩ _
  show Aligned (importLine q module symbols) (importLine q module symbols)
  unfold importLine
  split
  · exact aligned_nil
  · have hline := aligned_line ("import \x7b " ++ Text.commaSeparated (symbols.map Value.text)
      ++ " \x7d from " ++ Text.literal q module.text ++ ";")
    rw [show (";\n" : Text) = ";" ++ "\n" from rfl]
    simp only [List.append_assoc] at hline ⊢
    exact hline

theorem exists_propertyComment_aligned (h : layout.Reindents layout') (comment : Value) :
    ∃ t t', propertyComment layout comment = .ok t ∧ propertyComment layout' comment = .ok t' ∧
      Aligned t t' := by
  obtain ⟨n, hn⟩ := h.spaces
  obtain ⟨n', hn'⟩ := h.spaces'
  unfold propertyComment
  split
  · rw [hn, hn']
    refine ⟨_, _, rfl, rfl, aligned_lines ?_⟩
    rw [Text.unindented_indentLines, Text.unindented_indentLines]
  · exact ⟨_, _, rfl, rfl, aligned_nil⟩

theorem exists_propertyText_aligned (h : layout.Reindents layout') (p : Property) :
    ∃ t t', propertyText layout p = .ok t ∧ propertyText layout' p = .ok t' ∧ Aligned t t' := by
  obtain ⟨t, t', ht, ht', hcomment⟩ := exists_propertyComment_aligned h p.comment
  refine ⟨_, _, by rw [propertyText, ht]; rfl, by rw [propertyText, ht']; rfl, ?_⟩
  have hdecorators : Aligned (p.decorators.flatMap (decoratorLine layout.indent))
      (p.decorators.flatMap (decoratorLine layout'.indent)) :=
    aligned_flatMap fun d _ => aligned_code h.indent h.indent' d.text
  have hpieces := hcomment.append (hdecorators.append
    ((aligned_code h.indent h.indent' (propertyLine p)).append (aligned_line [])))
  rw [show ("\n\n" : Text) = "\n" ++ "\n" from rfl]
  simp only [List.append_assoc, List.nil_append] at hpieces ⊢
  exact hpieces

theorem aligned_statics (h : layout.Reindents layout') (statics : List StaticProperty) :
    Aligned (statics.flatMap (staticText layout.indent))
      (statics.flatMap (staticText layout'.indent)) := by
  refine aligned_flatMap fun p _ => ?_
  have hcode := aligned_code h.indent h.indent'
    ("static " ++ p.name.text ++ ": " ++ p.type.text ++ " = " ++ p.initializer.text ++ ";")
  rw [staticText, staticText, show (";\n" : Text) = ";" ++ "\n" from rfl]
  simp only [List.append_assoc] at hcode ⊢
  exact hcode

/-- The files of a class in two layouts are the same but for spaces in front of lines. -/
theorem exists_classFile_aligned (h : layout.Reindents layout') (imports : Imports)
    (c : ClassDeclaration) : ∃ t t', classFile layout imports c = .ok t ∧
      classFile layout' imports c = .ok t' ∧ Aligned t t' := by
  obtain ⟨ps, ps', hps, hps', hproperties⟩ := exists_mapM_forall₂ (l := c.properties)
    fun p _ => exists_propertyText_aligned h p
  refine ⟨_, _, by rw [classFile, classText, hps]; rfl,
    by rw [classFile, classText, hps']; rfl, ?_⟩
  have hpieces := (aligned_importLines layout.quote imports).append ((aligned_line []).append
    ((aligned_headComment c.comment).append
      ((aligned_line ((if c.isExported.truthy then "export " else "") ++ "class "
          ++ c.name.text ++ " \x7b")).append
        ((Aligned.flatten hproperties).append
          ((aligned_statics h c.statics).append (aligned_line "\x7d"))))))
  rw [← h.quote, show (" \x7b\n" : Text) = " \x7b" ++ "\n" from rfl,
    show ("\x7d\n" : Text) = "\x7d" ++ "\n" from rfl]
  simp only [List.append_assoc, List.nil_append] at hpieces ⊢
  exact hpieces

theorem aligned_enumFile {indent indent' : Text} (h : IsSpaces indent) (h' : IsSpaces indent')
    (q : Char) (comments : Bool) (e : EnumType) :
    Aligned (enumFile indent q comments e) (enumFile indent' q comments e) := by
  have hhead : Aligned (if comments then headComment e.documentation else "")
      (if comments then headComment e.documentation else "") := by
    split
    · exact aligned_headComment e.documentation
    · exact aligned_nil
  have hvalues : Aligned (e.values.flatMap (enumLine indent q))
      (e.values.flatMap (enumLine indent' q)) := by
    refine aligned_flatMap fun v _ => ?_
    have hcode := aligned_code h h' (v.text ++ " = " ++ Text.literal q v.text ++ ",")
    rw [enumLine, enumLine, show (",\n" : Text) = "," ++ "\n" from rfl]
    simp only [List.append_assoc] at hcode ⊢
    exact hcode
  have hpieces := hhead.append ((aligned_line ("export enum " ++ e.name.text ++ " \x7b")).append
    (hvalues.append (aligned_line "\x7d")))
  rw [enumFile, enumFile, show (" \x7b\n" : Text) = " \x7b" ++ "\n" from rfl,
    show ("\x7d\n" : Text) = "\x7d" ++ "\n" from rfl]
  simp only [List.append_assoc] at hpieces ⊢
  exact hpieces

/-- Code lines stand behind as many copies of the indentation as their level says. -/
theorem aligned_codeLines {indent indent' : Text} (h : IsSpaces indent) (h' : IsSpaces indent')
    (lines : List CodeLine) : Aligned (unlines (lines.map (CodeLine.text indent)))
      (unlines (lines.map (CodeLine.text indent'))) := by
  rw [unlines, unlines, List.flatMap_map, List.flatMap_map]
  exact aligned_flatMap fun l _ =>
    aligned_code (Text.isSpaces_copies h l.level) (Text.isSpaces_copies h' l.level) l.code

end DtoPress
