import DtoPress.Proofs.Splitting
import DtoPress.Proofs.Trimming
import Mathlib.Data.List.Forall2

/-!
# Laws of indentation

A text is indented line by line (`Text.splitLines_indentLines`), and spaces in front of a line
change nothing in whether it is blank (`Text.trim_spaces_append_eq_nil_iff`). So a second pass tells
the same lines apart as the first, and so does one that takes the spaces away again : texts are
indented by sums (`Text.indentLines_indentLines`), and what was put in front of the lines can be
removed from them (`Text.unindentLines_indentLines`). `Text.indentLines_reversible` is all of it,
with what becomes of each line.
-/

set_option linter.unusedSectionVars false

namespace DtoPress.Text

/-! ## One line -/

/-- A line without its first `n` characters, unless nothing of it is left without the blanks at its
ends. -/
def unindentLine (n : Nat) (line : Text) : Text :=
  if trim line = [] then line else line.drop n

section OneLine

variable {line : Text}

theorem indentLine_of_blank (h : trim line = []) (n : Nat) : indentLine n line = line :=
  if_pos (trim_eq_nil_iff.1 h)

theorem indentLine_of_not_blank (h : trim line ≠ []) (n : Nat) :
    indentLine n line = List.replicate n (.char ' ') ++ line :=
  if_neg fun hall => h (trim_eq_nil_iff.2 hall)

/-- Spaces in front of a line are blanks. -/
theorem trim_spaces_append_eq_nil_iff (n : Nat) :
    trim (List.replicate n (.char ' ') ++ line) = [] ↔ trim line = [] := by
  have hspaces : (List.replicate n (CodePoint.char ' ')).all (·.isA isBlank) = true := by
    rw [List.all_eq_true]
    intro c hc
    rw [List.eq_of_mem_replicate hc]
    rfl
  rw [trim_eq_nil_iff, trim_eq_nil_iff, List.all_append, hspaces, Bool.true_and]

theorem indentLine_indentLine (a b : Nat) (line : Text) :
    indentLine b (indentLine a line) = indentLine (a + b) line := by
  by_cases h : trim line = []
  · rw [indentLine_of_blank h, indentLine_of_blank h, indentLine_of_blank h]
  · have hagain : trim (List.replicate a (.char ' ') ++ line) ≠ [] := by
      rwa [Ne, trim_spaces_append_eq_nil_iff]
    rw [indentLine_of_not_blank h, indentLine_of_not_blank hagain, indentLine_of_not_blank h,
      ← List.append_assoc, List.replicate_append_replicate, Nat.add_comm]

@[simp] theorem unindentLine_indentLine (n : Nat) (line : Text) :
    unindentLine n (indentLine n line) = line := by
  by_cases h : trim line = []
  · rw [indentLine_of_blank h, unindentLine, if_pos h]
  · have hagain : trim (List.replicate n (.char ' ') ++ line) ≠ [] := by
      rwa [Ne, trim_spaces_append_eq_nil_iff]
    rw [indentLine_of_not_blank h, unindentLine, if_neg hagain]
    exact List.drop_left' List.length_replicate

theorem lineFeed_not_mem_indentLine (n : Nat) (h : (.char '\n' : CodePoint) ∉ line) :
    .char '\n' ∉ indentLine n line := by
  by_cases hblank : trim line = []
  · rwa [indentLine_of_blank hblank]
  · rw [indentLine_of_not_blank hblank, List.mem_append, not_or]
    exact ⟨fun hmem => absurd (List.eq_of_mem_replicate hmem) (by decide), h⟩

end OneLine

/-! ## All lines -/

/-- A text without the first `n` characters of each line that is not blank. -/
def unindentLines (n : Nat) (t : Text) : Text :=
  joinLines ((splitLines t).map (unindentLine n))

theorem splitLines_indentLines (n : Nat) (t : Text) :
    splitLines (indentLines n t) = (splitLines t).map (indentLine n) :=
  splitLines_joinLines_map (fun _ h => lineFeed_not_mem_indentLine n h) t

@[simp] theorem indentLines_zero (t : Text) : indentLines 0 t = t := by
  have hline : ∀ l : Text, indentLine 0 l = l := by
    intro l
    unfold indentLine
    split <;> rfl
  rw [indentLines, List.map_congr_left fun l _ => hline l, List.map_id', joinLines_splitLines]

/-- To indent twice is to indent by the sum. -/
theorem indentLines_indentLines (a b : Nat) (t : Text) :
    indentLines b (indentLines a t) = indentLines (a + b) t := by
  rw [indentLines, splitLines_indentLines, List.map_map, indentLines]
  exact congrArg joinLines (List.map_congr_left fun l _ => indentLine_indentLine a b l)

@[simp] theorem unindentLines_indentLines (n : Nat) (t : Text) :
    unindentLines n (indentLines n t) = t := by
  have hback : unindentLine n ∘ indentLine n = id := funext (unindentLine_indentLine n)
  rw [unindentLines, splitLines_indentLines, List.map_map, hback, List.map_id, joinLines_splitLines]

/-- What becomes of a line : it stays as it is if it is blank, and else has `n` spaces in front. -/
inductive Indented (n : Nat) : Text → Text → Prop where
  | blank {line : Text} (h : trim line = []) : Indented n line line
  | code {line : Text} (h : trim line ≠ []) :
    Indented n line (List.replicate n (.char ' ') ++ line)

theorem indented_indentLine (n : Nat) (line : Text) : Indented n line (indentLine n line) := by
  by_cases h : trim line = []
  · rw [indentLine_of_blank h]
    exact .blank h
  · rw [indentLine_of_not_blank h]
    exact .code h

/-- Texts can be indented step by step, and back. Twice is once by the sum. An indented text has as
many lines as before, the blank ones as they were and the others behind spaces, and is the text
again without as many characters in front of those. -/
theorem indentLines_reversible (t : Text) :
    (∀ a b, indentLines b (indentLines a t) = indentLines (a + b) t) ∧
    ∀ a, (splitLines (indentLines a t)).length = (splitLines t).length ∧
      List.Forall₂ (Indented a) (splitLines t) (splitLines (indentLines a t)) ∧
      unindentLines a (indentLines a t) = t := by
  refine ⟨fun a b => indentLines_indentLines a b t, fun a => ?_⟩
  have hlines : List.Forall₂ (Indented a) (splitLines t) (splitLines (indentLines a t)) := by
    rw [splitLines_indentLines, List.forall₂_map_right_iff, List.forall₂_same]
    exact fun l _ => indented_indentLine a l
  exact ⟨hlines.length_eq.symm, hlines, unindentLines_indentLines a t⟩

/-- A tab and spaces stay where they are, and an empty line at the end too. -/
example : indentLines 2 "a\n \t\n\n b\n" = ("  a\n \t\n\n   b\n" : Text) := by decide

end DtoPress.Text
