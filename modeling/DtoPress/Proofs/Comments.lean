import DtoPress.Proofs.Indenting
import DtoPress.Text.Lines
import Mathlib.Data.List.Chain

/-!
# Comments that hold free text

`Text.Apart a b` says of a text that `a` nowhere stands right before `b`. An escaped text has star
and slash apart (`Text.apart_escapeClose`), and so has all that is made of it before it is put into
a comment : its lines, trimmed, behind a star each. An indented comment has the lines of the comment
behind spaces (`Text.splitLines_indentLines_docComment`), since none of them is blank. Hence it
consists of the mark that opens it, a text with star and slash apart, and the mark that closes it,
whatever text it was made of and however far it is indented (`Text.indentLines_docComment_eq`).
-/

set_option linter.unusedSectionVars false

namespace DtoPress.Text

/-! ## Characters that stand apart -/

/-- Nowhere in the text does the first character stand right before the second. -/
def Apart (a b : Char) (t : Text) : Prop :=
  t.IsChain fun c d => ¬ (c = .char a ∧ d = .char b)

section Apart

variable {a b : Char} {t u : Text}

theorem apart_iff_not_isInfix : Apart a b t ↔ ¬ [CodePoint.char a, .char b] <:+: t := by
  rw [Apart, List.isChain_iff_forall_rel_of_append_cons_cons]
  constructor
  · rintro h ⟨l, m, hlm⟩
    have hsplit : t = l ++ .char a :: .char b :: m := by
      rw [← hlm, List.append_assoc]
      rfl
    exact h hsplit ⟨rfl, rfl⟩
  · rintro h c d l m hlm ⟨rfl, rfl⟩
    exact h ⟨l, m, by rw [hlm, List.append_assoc]; rfl⟩

instance (a b : Char) (t : Text) : Decidable (Apart a b t) :=
  inferInstanceAs (Decidable (List.IsChain _ t))

theorem apart_nil (a b : Char) : Apart a b [] := List.isChain_nil

theorem Apart.of_isInfix (h : Apart a b t) (hu : u <:+: t) : Apart a b u :=
  List.IsChain.infix h hu

theorem Apart.append (ht : Apart a b t) (hu : Apart a b u)
    (h : t.getLast? ≠ some (.char a) ∨ u.head? ≠ some (.char b)) : Apart a b (t ++ u) := by
  refine List.isChain_append.2 ⟨ht, hu, fun c hc d hd => ?_⟩
  rintro ⟨rfl, rfl⟩
  rcases h with h | h
  · exact h hc
  · exact h hd

theorem Apart.cons {c : CodePoint} (h : Apart a b t)
    (hc : c ≠ .char a ∨ t.head? ≠ some (.char b)) : Apart a b (c :: t) := by
  refine Apart.append (List.isChain_singleton c) h (hc.imp_left fun hc hlast => ?_)
  exact hc (Option.some.inj hlast)

theorem Apart.of_cons {c : CodePoint} (h : Apart a b (c :: t)) :
    (c ≠ .char a ∨ t.head? ≠ some (.char b)) ∧ Apart a b t := by
  obtain ⟨hhead, htail⟩ := List.isChain_cons.1 h
  refine ⟨?_, htail⟩
  by_cases hc : c = .char a
  · exact .inr fun hb => hhead _ hb ⟨hc, rfl⟩
  · exact .inl hc

theorem Apart.behindSpaces (ha : a ≠ ' ') (h : Apart a b t) : ∀ n : Nat,
    Apart a b (List.replicate n (.char ' ') ++ t)
  | 0 => h
  | n + 1 => (h.behindSpaces ha n).cons (.inl fun hc => ha (CodePoint.char.inj hc).symm)

/-- A line feed keeps what is before it apart from what is behind it. -/
theorem Apart.lineFeed (ha : a ≠ '\n') (hb : b ≠ '\n') (ht : Apart a b t) (hu : Apart a b u) :
    Apart a b (t ++ .char '\n' :: u) := by
  refine ht.append (hu.cons (.inl fun h => ha (CodePoint.char.inj h).symm)) (.inr fun h => ?_)
  exact hb (CodePoint.char.inj (Option.some.inj h)).symm

theorem apart_joinLines (ha : a ≠ '\n') (hb : b ≠ '\n') : ∀ {ls : List Text},
    (∀ l ∈ ls, Apart a b l) → Apart a b (joinLines ls)
  | [], _ => apart_nil a b
  | [l], h => h l List.mem_cons_self
  | l :: m :: ls, h => by
    have hrest := apart_joinLines ha hb fun n hn => h n (List.mem_cons_of_mem l hn)
    rw [joinLines_cons (List.cons_ne_nil m ls)]
    exact (h l List.mem_cons_self).lineFeed ha hb hrest

end Apart

/-! ## Escaped texts -/

theorem head?_escapeClose (t : Text) : (escapeClose t).head? = t.head? := by
  unfold escapeClose
  split <;> rfl

/-- An escaped text has no mark that closes a comment. -/
theorem apart_escapeClose (t : Text) : Apart '*' '/' (escapeClose t) := by
  fun_induction escapeClose t with
  | case1 t ih =>
    have hslash := ih.cons (c := .char '/') (.inl (by decide))
    exact (hslash.cons (c := .char '\\') (.inl (by decide))).cons
      (.inr fun h => absurd (Option.some.inj h) (by decide))
  | case2 c t hnot ih =>
    refine ih.cons ?_
    rw [head?_escapeClose]
    by_cases hc : c = .char '*'
    · refine .inr fun hhead => ?_
      obtain ⟨u, rfl⟩ := List.head?_eq_some_iff.1 hhead
      exact hnot u hc rfl
    · exact .inl hc
  | case3 => exact apart_nil _ _

/-! ## The lines of a comment -/

theorem commentText_ne_nil (t : Text) : commentText t ≠ [] := by
  rw [commentText, Ne, List.map_eq_nil_iff]
  exact split_ne_nil _

theorem isInfix_of_mem_commentText {t line : Text} (h : line ∈ commentText t) :
    ∃ l ∈ splitLines (escapeClose (trim t)), line <:+: l := by
  obtain ⟨l, hl, rfl⟩ := List.mem_map.1 h
  exact ⟨l, hl, trim_isInfix l⟩

theorem apart_of_mem_commentText {t line : Text} (h : line ∈ commentText t) :
    Apart '*' '/' line := by
  obtain ⟨l, hl, hline⟩ := isInfix_of_mem_commentText h
  exact ((apart_escapeClose _).of_isInfix (isInfix_of_mem_splitLines hl)).of_isInfix hline

theorem not_mem_of_mem_commentText {t line : Text} (h : line ∈ commentText t) :
    (.char '\n' : CodePoint) ∉ line := by
  obtain ⟨l, hl, hline⟩ := isInfix_of_mem_commentText h
  exact fun hmem => not_mem_of_mem_split hl (hline.subset hmem)

theorem commentLine_eq (line : Text) :
    commentLine line = .char ' ' :: .char '*' :: trimRight (.char ' ' :: line) := by
  have hstar := trimRight_cons_of_not_blank (c := .char '*') (by decide) (.char ' ' :: line)
  show trimRight (.char ' ' :: .char '*' :: .char ' ' :: line) = _
  rw [trimRight_cons_of_ne_nil (by rw [hstar]; exact List.cons_ne_nil _ _), hstar]

theorem commentLine_isPrefix (line : Text) : commentLine line <+: " * " ++ line :=
  trimRight_isPrefix _

theorem apart_commentLine {line : Text} (h : Apart '*' '/' line) :
    Apart '*' '/' (commentLine line) := by
  have hstart : Apart '*' '/' (" * " : Text) := by decide
  exact (hstart.append h (.inl (by decide))).of_isInfix (commentLine_isPrefix line).isInfix

/-! ## Indented comments -/

/-- A line that spaces are put in front of when a text is indented. -/
structure IsCodeLine (l : Text) : Prop where
  oneLine : (.char '\n' : CodePoint) ∉ l
  notBlank : trim l ≠ []

/-- The lines of a comment of lines of text. -/
def commentBlock : List Text → List Text
  | [line] => ["/** " ++ line ++ " */"]
  | lines => ("/**" : Text) :: (lines.map commentLine ++ [(" */" : Text)])

/-- What stands between the marks of such a comment behind `n` spaces. -/
def commentInside (n : Nat) : List Text → List Text
  | [line] => [" " ++ line ++ " "]
  | lines => [] :: (lines.map (List.replicate n (CodePoint.char ' ') ++ commentLine ·) ++
      [List.replicate n (CodePoint.char ' ') ++ (" " : Text)])

theorem isCodeLine_commentLine {line : Text} (h : (.char '\n' : CodePoint) ∉ line) :
    IsCodeLine (commentLine line) where
  oneLine hmem := by
    rcases List.mem_append.1 ((commentLine_isPrefix line).subset hmem) with hmem | hmem
    · exact absurd hmem (by decide)
    · exact h hmem
  notBlank := by
    rw [Ne, trim_eq_nil_iff, commentLine_eq]
    exact Bool.false_ne_true

section Block

variable {ls : List Text}

theorem commentBlock_of_lines (l m : Text) (ls : List Text) : commentBlock (l :: m :: ls) =
    ("/**" : Text) :: ((l :: m :: ls).map commentLine ++ [(" */" : Text)]) := rfl

theorem commentInside_of_lines (n : Nat) (l m : Text) (ls : List Text) :
    commentInside n (l :: m :: ls) =
      [] :: ((l :: m :: ls).map (List.replicate n (CodePoint.char ' ') ++ commentLine ·) ++
        [List.replicate n (CodePoint.char ' ') ++ (" " : Text)]) := rfl

theorem commentBlock_ne_nil : ∀ ls : List Text, commentBlock ls ≠ []
  | [] => List.cons_ne_nil _ _
  | [_] => List.cons_ne_nil _ _
  | _ :: _ :: _ => List.cons_ne_nil _ _

theorem isCodeLine_of_mem_commentBlock (hls : ∀ line ∈ ls, (.char '\n' : CodePoint) ∉ line) :
    ∀ l ∈ commentBlock ls, IsCodeLine l := by
  have hlines : ∀ l ∈ ("/**" : Text) :: (ls.map commentLine ++ [(" */" : Text)]),
      IsCodeLine l := by
    rw [List.forall_mem_cons, List.forall_mem_append, List.forall_mem_map,
      List.forall_mem_singleton]
    exact ⟨⟨by decide, by decide⟩, fun line hline => isCodeLine_commentLine (hls line hline),
      ⟨by decide, by decide⟩⟩
  unfold commentBlock
  split
  next line =>
    have hline := hls line (List.mem_singleton_self line)
    rw [List.forall_mem_singleton]
    refine ⟨?_, ?_⟩
    · rw [List.mem_append, List.mem_append, not_or, not_or]
      exact ⟨⟨by decide, hline⟩, by decide⟩
    · rw [Ne, trim_eq_nil_iff]
      exact Bool.false_ne_true
  · exact hlines

/-- The lines of a comment, indented, begin and end with its marks. -/
theorem joinLines_commentBlock (n : Nat) (hne : ls ≠ []) :
    joinLines ((commentBlock ls).map (List.replicate n (.char ' ') ++ ·)) =
      List.replicate n (CodePoint.char ' ') ++
        ("/**" ++ joinLines (commentInside n ls) ++ "*/" : Text) := by
  match ls, hne with
  | [line], _ =>
    show List.replicate n (CodePoint.char ' ') ++ ("/** " ++ line ++ " */" : Text) =
      List.replicate n (CodePoint.char ' ') ++ ("/**" ++ (" " ++ line ++ " ") ++ "*/" : Text)
    rw [show ("/** " : Text) = "/**" ++ " " from rfl, show (" */" : Text) = " " ++ "*/" from rfl]
    simp only [List.append_assoc]
  | l :: m :: ls, _ =>
    have hlines (f : Text → Text) : (l :: m :: ls).map f ≠ [] := List.cons_ne_nil _ _
    rw [commentBlock_of_lines, commentInside_of_lines, List.map_cons, List.map_append,
      List.map_map, List.map_singleton, joinLines_cons (by simp), joinLines_cons (by simp),
      joinLines_concat _ (hlines _), joinLines_concat _ (hlines _),
      show (" */" : Text) = " " ++ "*/" from rfl]
    simp only [List.append_assoc, List.cons_append, List.nil_append, Function.comp_def]

theorem apart_joinLines_commentInside (n : Nat) (hls : ∀ line ∈ ls, Apart '*' '/' line) :
    Apart '*' '/' (joinLines (commentInside n ls)) := by
  refine apart_joinLines (by decide) (by decide) ?_
  unfold commentInside
  split
  next line =>
    rw [List.forall_mem_singleton]
    have hline := hls line (List.mem_singleton_self line)
    exact (Apart.append (t := " ") (by decide) hline (.inl (by decide))).append (by decide)
      (.inr (by decide))
  · rw [List.forall_mem_cons, List.forall_mem_append, List.forall_mem_map,
      List.forall_mem_singleton]
    exact ⟨apart_nil _ _,
      fun line hline => (apart_commentLine (hls line hline)).behindSpaces (by decide) n,
      Apart.behindSpaces (t := " ") (by decide) (by decide) n⟩

theorem head?_joinLines_commentInside (n : Nat) : ∀ ls : List Text,
    (joinLines (commentInside n ls)).head? ≠ some (.char '/')
  | [] => by simp [commentInside, joinLines]
  | [_] => fun h => absurd (Option.some.inj h) (by decide)
  | _ :: _ :: _ => fun h => absurd (Option.some.inj h) (by decide)

end Block

theorem docComment_eq (t : Text) : docComment t = joinLines (commentBlock (commentText t)) := by
  have hne := commentText_ne_nil t
  rw [docComment]
  generalize commentText t = ls at hne ⊢
  match ls, hne with
  | [line], _ => rfl
  | l :: m :: ls, _ =>
    have hlines : (l :: m :: ls).map commentLine ≠ [] := List.cons_ne_nil _ _
    rw [commentBlock_of_lines, joinLines_cons (by simp), joinLines_concat _ hlines,
      show ("/**\n" : Text) = "/**" ++ "\n" from rfl,
      show ("\n */" : Text) = "\n" ++ " */" from rfl]
    simp only [List.append_assoc]
    rfl

/-- An indented comment has the lines of the comment behind spaces. -/
theorem splitLines_indentLines_docComment (n : Nat) (t : Text) :
    splitLines (indentLines n (docComment t)) =
      (commentBlock (commentText t)).map (List.replicate n (.char ' ') ++ ·) := by
  have hcode : ∀ l ∈ commentBlock (commentText t), IsCodeLine l :=
    isCodeLine_of_mem_commentBlock fun _ => not_mem_of_mem_commentText
  rw [splitLines_indentLines, docComment_eq,
    splitLines_joinLines (commentBlock_ne_nil _) fun l hl => (hcode l hl).oneLine]
  exact List.map_congr_left fun l hl => indentLine_of_not_blank (hcode l hl).notBlank n

/-- An indented comment stands between its marks, and neither what is inside nor the marks
themselves make another mark that closes it. -/
theorem indentLines_docComment_eq (n : Nat) (t : Text) : ∃ inside : Text,
    indentLines n (docComment t) =
      List.replicate n (CodePoint.char ' ') ++ ("/**" ++ inside ++ "*/" : Text) ∧
    Apart '*' '/' inside ∧ inside.head? ≠ some (.char '/') := by
  refine ⟨joinLines (commentInside n (commentText t)), ?_,
    apart_joinLines_commentInside n fun _ => apart_of_mem_commentText,
    head?_joinLines_commentInside n _⟩
  rw [← joinLines_commentBlock n (commentText_ne_nil t), ← splitLines_indentLines_docComment,
    joinLines_splitLines]

/-- A comment, however far it is indented, ends at the mark that closes it and not before. -/
theorem indentLines_docComment (n : Nat) (t : Text) : ∃ body, Apart '*' '/' body ∧
    indentLines n (docComment t) =
      List.replicate n (CodePoint.char ' ') ++ ("/*" ++ body ++ "*/" : Text) := by
  obtain ⟨inside, hcomment, hinside, hhead⟩ := indentLines_docComment_eq n t
  exact ⟨.char '*' :: inside, hinside.cons (.inr hhead), hcomment⟩

end DtoPress.Text
