import DtoPress.Proofs.Comments

/-!
# Comments are closed once

A mark that closes a comment does not reach over the end of a line, so it makes no difference
whether a text is escaped as a whole or line by line (`Text.splitLines_escapeClose`) : a comment has
one line of text for each line of the trimmed text. None of the stars that are put in front of them,
and none of the blanks that are taken away behind them, brings a star in front of a slash. So the
mark that closes the comment is there once, at the end, however the text and the indentation are
(`Text.docComment_enclosed`).
-/

namespace DtoPress.Text

/-! ## Escaping line by line -/

/-- Only a star in front of a slash is escaped. -/
theorem escapeClose_cons {c : CodePoint} {t : Text}
    (h : c ≠ .char '*' ∨ t.head? ≠ some (.char '/')) :
    escapeClose (c :: t) = c :: escapeClose t := by
  rw [escapeClose]
  rintro u rfl rfl
  exact h.elim (fun hc => hc rfl) fun hslash => hslash rfl

theorem lineFeed_not_mem_escapeClose {t : Text} (h : (.char '\n' : CodePoint) ∉ t) :
    .char '\n' ∉ escapeClose t := by
  fun_induction escapeClose t with
  | case1 t ih =>
    simp only [List.mem_cons, not_or] at h ⊢
    exact ⟨h.1, by decide, h.2.1, ih h.2.2⟩
  | case2 c t _ ih =>
    rw [List.mem_cons, not_or] at h ⊢
    exact ⟨h.1, ih h.2⟩
  | case3 => exact h

/-- What is escaped in front of a line feed does not depend on what is behind it. -/
theorem escapeClose_append_lineFeed (u t : Text) :
    escapeClose (t ++ .char '\n' :: u) = escapeClose t ++ .char '\n' :: escapeClose u := by
  fun_induction escapeClose t with
  | case1 t ih => rw [List.cons_append, List.cons_append, escapeClose, ih]; rfl
  | case2 c t hnot ih =>
    have hapart : c ≠ .char '*' ∨ (t ++ .char '\n' :: u).head? ≠ some (.char '/') := by
      by_cases hc : c = .char '*'
      · refine .inr fun hhead => ?_
        cases t with
        | nil => exact absurd (Option.some.inj hhead) (by decide)
        | cons d t => exact hnot t hc (congrArg (· :: t) (Option.some.inj hhead))
      · exact .inl hc
    rw [List.cons_append, escapeClose_cons hapart, ih, List.cons_append]
  | case3 =>
    rw [List.nil_append, escapeClose_cons (.inl (by decide))]
    rfl

theorem escapeClose_joinLines : ∀ ls : List Text,
    escapeClose (joinLines ls) = joinLines (ls.map escapeClose)
  | [] => rfl
  | [_] => rfl
  | l :: m :: ls => by
    rw [joinLines_cons (List.cons_ne_nil m ls), escapeClose_append_lineFeed,
      escapeClose_joinLines (m :: ls)]
    rfl

/-- The lines of an escaped text are the escaped lines of the text. -/
theorem splitLines_escapeClose (t : Text) :
    splitLines (escapeClose t) = (splitLines t).map escapeClose := by
  have hjoined : escapeClose t = joinLines ((splitLines t).map escapeClose) := by
    rw [← escapeClose_joinLines, joinLines_splitLines]
  rw [hjoined]
  exact splitLines_joinLines_map (fun _ => lineFeed_not_mem_escapeClose) t

/-! ## Lines of text -/

/-- What the comment of a text says : each line of the trimmed text, escaped and trimmed. -/
def commentTexts (t : Text) : List Text :=
  (splitLines (trim t)).map fun line => trim (escapeClose line)

theorem commentText_eq (t : Text) : commentText t = commentTexts t := by
  rw [commentText, splitLines_escapeClose, List.map_map]
  rfl

/-- A line of a comment of several lines with a text, which may be empty, behind its star. -/
def starred (text : Text) : Text :=
  if text = [] then " *" else " * " ++ text

/-- Blanks are only taken away behind a star without a text. -/
theorem commentLine_of_trimmed {text : Text} (h : trimRight text = text) :
    commentLine text = starred text := by
  rw [commentLine_eq, starred]
  split
  next hnil => rw [hnil]; rfl
  next hne =>
    have hne' : trimRight text ≠ [] := by rwa [h]
    rw [trimRight_cons_of_ne_nil hne', h]
    rfl

theorem commentLine_of_mem {t text : Text} (h : text ∈ commentTexts t) :
    commentLine text = starred text := by
  obtain ⟨line, -, rfl⟩ := List.mem_map.1 h
  exact commentLine_of_trimmed (trimRight_trim _)

/-! ## The marks of a comment -/

/-- The text is a comment of lines of text behind `n` spaces : a line with both marks for one of
them, and for more of them a line for each between those of the marks. -/
inductive CommentOf (n : Nat) : List Text → Text → Prop where
  | line (text : Text) :
    CommentOf n [text] (List.replicate n (CodePoint.char ' ') ++ ("/** " ++ text ++ " */" : Text))
  | lines {texts : List Text} {c : Text} (several : 2 ≤ texts.length)
    (lines : splitLines c = (List.replicate n (CodePoint.char ' ') ++ ("/**" : Text)) ::
      (texts.map (List.replicate n (CodePoint.char ' ') ++ starred ·) ++
        [List.replicate n (CodePoint.char ' ') ++ (" */" : Text)])) :
    CommentOf n texts c

/-- The mark that closes a comment is in the text once, at its end. -/
def ClosesOnce (c : Text) : Prop :=
  ∃ body : Text, c = body ++ "*/" ∧
    ∀ before after : Text, c = before ++ "*/" ++ after → before = body ∧ after = []

/-- A comment with lines of text behind `n` spaces. -/
structure Enclosed (n : Nat) (texts : List Text) (c : Text) : Prop where
  opens : List.replicate n (CodePoint.char ' ') ++ ("/**" : Text) <+: c
  closes : ClosesOnce c
  stars : ∀ l ∈ (splitLines c).tail, List.replicate n (CodePoint.char ' ') ++ (" *" : Text) <+: l
  layout : CommentOf n texts c

/-- A mark further in front would be in the text without its last slash. -/
theorem closesOnce_of_apart (body : Text) (h : Apart '*' '/' (body ++ "*")) :
    ClosesOnce (body ++ "*/") := by
  refine ⟨body, rfl, fun before after heq => ?_⟩
  rcases List.eq_nil_or_concat after with rfl | ⟨rest, c, rfl⟩
  · rw [List.append_nil] at heq
    exact ⟨(List.append_cancel_right heq).symm, rfl⟩
  · rw [List.concat_eq_append] at heq
    have hlast : (body ++ "*" : Text) ++ [.char '/'] = (before ++ "*/" ++ rest : Text) ++ [c] := by
      rw [List.append_assoc, List.append_assoc (before ++ "*/" : Text)]
      exact heq
    have hfront := (List.append_inj' hlast rfl).1
    exact absurd ⟨before, rest, hfront.symm⟩ (apart_iff_not_isInfix.1 h)

theorem closesOnce_indentLines_docComment (n : Nat) (t : Text) :
    ClosesOnce (indentLines n (docComment t)) := by
  obtain ⟨inside, hcomment, hinside, hhead⟩ := indentLines_docComment_eq n t
  have hmarks : Apart '*' '/' ("/**" ++ inside ++ "*" : Text) :=
    (Apart.append (by decide) hinside (.inr hhead)).append (by decide) (.inr (by decide))
  have hclosed := closesOnce_of_apart
    (List.replicate n (CodePoint.char ' ') ++ ("/**" ++ inside : Text))
    (by rw [List.append_assoc]; exact hmarks.behindSpaces (by decide) n)
  rw [List.append_assoc] at hclosed
  rwa [hcomment]

theorem star_isPrefix_of_mem_tail : ∀ {ls : List Text}, ∀ l ∈ (commentBlock ls).tail,
    (" *" : Text) <+: l
  | [_] => fun _ hl => absurd hl List.not_mem_nil
  | [] => by
    show ∀ l ∈ [(" */" : Text)], _
    exact List.forall_mem_singleton.2 ⟨"/", rfl⟩
  | l :: m :: ls => by
    rw [commentBlock_of_lines, List.tail_cons, List.forall_mem_append, List.forall_mem_map,
      List.forall_mem_singleton]
    exact ⟨fun line _ => ⟨_, (commentLine_eq line).symm⟩, ⟨"/", rfl⟩⟩

theorem commentOf_indentLines_docComment (n : Nat) (t : Text) :
    CommentOf n (commentTexts t) (indentLines n (docComment t)) := by
  have hlines := splitLines_indentLines_docComment n t
  have hne := commentText_ne_nil t
  have hstars : ∀ text ∈ commentTexts t, commentLine text = starred text :=
    fun _ => commentLine_of_mem
  rw [commentText_eq] at hlines hne
  generalize commentTexts t = texts at *
  match texts, hne with
  | [text], _ =>
    rw [← joinLines_splitLines (indentLines n (docComment t)), hlines]
    exact .line text
  | text :: other :: texts, _ =>
    refine .lines (Nat.le_add_left 2 _) ?_
    rw [hlines, commentBlock_of_lines, List.map_cons, List.map_append, List.map_map,
      List.map_singleton]
    refine congrArg (_ :: · ++ _) (List.map_congr_left fun l hl => ?_)
    exact congrArg (_ ++ ·) (hstars l hl)

/-- A comment is closed where it ends and nowhere else, however far it is indented and whatever its
text is. It begins with the spaces and the mark that opens it, all its other lines have a star
behind as many spaces, and it has a line of text for each line of the trimmed text, in order : that
line, escaped and trimmed. -/
theorem docComment_enclosed (n : Nat) (t : Text) :
    Enclosed n (commentTexts t) (indentLines n (docComment t)) where
  opens := by
    obtain ⟨inside, hcomment, -⟩ := indentLines_docComment_eq n t
    exact ⟨inside ++ "*/", by rw [hcomment, List.append_assoc, List.append_assoc]⟩
  closes := closesOnce_indentLines_docComment n t
  stars := by
    rw [splitLines_indentLines_docComment, ← List.map_tail, List.forall_mem_map]
    exact fun l hl => (List.prefix_append_right_inj _).2 (star_isPrefix_of_mem_tail l hl)
  layout := commentOf_indentLines_docComment n t

/-- Marks, stars and slashes at the ends of lines, and a line that is blank. -/
example : indentLines 2 (docComment " a */*/\n*\n \t\n/ **/\n") =
    ("  /**\n   * a *\\/*\\/\n   * *\n   *\n   * / **\\/\n   */" : Text) := by decide

end DtoPress.Text
