import DtoPress.Text.Characters

/-!
# Lines and comments

`split sep` cuts a list at every separator : there is one piece more than there are separators,
and no piece holds one. A text is a list of lines with a line feed between neighbours, and
`splitLines` and `joinLines` go back and forth. `indentLines` puts spaces before every line that
is not blank, and `docComment` writes free text as a block comment : on one line if the trimmed
text is one line, else one line of text to a line, each behind a star. The two characters that
would close the comment early are taken apart by a backslash.
-/

namespace DtoPress.Text

/-! ## Splitting -/

section Split

variable {α : Type} [DecidableEq α]

/-- The pieces between separators. -/
def split (sep : α) : List α → List (List α)
  | [] => [[]]
  | c :: cs =>
    if c = sep then [] :: split sep cs
    else match split sep cs with
      | [] => [[c]]
      | p :: ps => (c :: p) :: ps

/-- What stands before the first separator, and what stands behind it if there is one. -/
def cut (sep : α) (cs : List α) : List α × Option (List α) :=
  match cs.dropWhile (· ≠ sep) with
  | [] => (cs, none)
  | _ :: rest => (cs.takeWhile (· ≠ sep), some rest)

end Split

/-! ## Blanks at the ends -/

/-- The text without the blanks at its start. -/
def trimLeft (t : Text) : Text :=
  t.dropWhile (·.isA isBlank)

/-- The text without the blanks at its end. -/
def trimRight : Text → Text
  | [] => []
  | c :: cs =>
    match trimRight cs with
    | [] => if c.isA isBlank then [] else [c]
    | d :: ds => c :: d :: ds

/-- The text without the blanks at its ends. -/
def trim (t : Text) : Text :=
  trimRight (trimLeft t)

/-! ## Lines -/

/-- The lines of a text. A text without a line feed is one line, the empty text too. -/
def splitLines (t : Text) : List Text :=
  split (.char '\n') t

/-- The text with the given lines. -/
def joinLines : List Text → Text
  | [] => []
  | [l] => l
  | l :: ls => l ++ .char '\n' :: joinLines ls

/-- `n` spaces before a line, unless all of it is blank. -/
def indentLine (n : Nat) (line : Text) : Text :=
  if line.all (·.isA isBlank) then line else List.replicate n (.char ' ') ++ line

/-- `n` spaces before every line that is not blank. -/
def indentLines (n : Nat) (t : Text) : Text :=
  joinLines ((splitLines t).map (indentLine n))

/-! ## Comments -/

/-- A backslash between a star and the slash that follows it. -/
def escapeClose : Text → Text
  | .char '*' :: .char '/' :: t => .char '*' :: .char '\\' :: .char '/' :: escapeClose t
  | c :: t => c :: escapeClose t
  | [] => []

/-- One line of text in a comment of several lines. -/
def commentLine (line : Text) : Text :=
  trimRight (" * " ++ line)

/-- The lines of text in the comment made of `t`. -/
def commentText (t : Text) : List Text :=
  (splitLines (escapeClose (trim t))).map trim

/-- The text as a block comment. -/
def docComment (t : Text) : Text :=
  match commentText t with
  | [line] => "/** " ++ line ++ " */"
  | lines => "/**\n" ++ joinLines (lines.map commentLine) ++ "\n */"

end DtoPress.Text
