import DtoPress.Text.Quoted
import Mathlib.Logic.Function.Basic

/-!
# Reading literals back

`Text.readLiteral` reads a literal as the language does that it is written for : a backslash stands
for the character behind it, every other character for itself, and the first quote character that is
not behind a backslash ends the literal. What is written as a literal is read back, whatever comes
behind it (`Text.readLiteral_literal`), and not before the literal has ended
(`Text.readLiteral_of_isPrefix`), although it is made by two replacements one after the other
(`Text.literal_eq_replaced`). A line that spells a text as it is and then once more inside a literal
can only be the line of that text, even if the text looks like what stands between the two
(`Text.append_self_injective`).
-/

set_option linter.unusedSectionVars false

namespace DtoPress.Text

/-! ## The scanner -/

/-- A character in front of what a literal stands for. -/
def prepend (c : CodePoint) (read : Text × Text) : Text × Text :=
  (c :: read.1, read.2)

/-- What the rest of a literal stands for, and what comes behind the literal. `escaped` says that
there is a backslash in front. -/
def scanLiteral (q : Char) (escaped : Bool) : Text → Option (Text × Text)
  | [] => none
  | c :: t =>
    if escaped then (scanLiteral q false t).map (prepend c)
    else if c = .char '\\' then scanLiteral q true t
    else if c = .char q then some ([], t)
    else (scanLiteral q false t).map (prepend c)

/-- What the literal at the start of a text stands for, and what comes behind it. -/
def readLiteral (q : Char) : Text → Option (Text × Text)
  | [] => none
  | c :: t => if c = .char q then scanLiteral q false t else none

variable {q : Char}

/-- A character that was written into a literal is read as itself. -/
theorem scanLiteral_escapeLiteral (q : Char) (c : CodePoint) (t : Text) :
    scanLiteral q false (escapeLiteral q c ++ t) = (scanLiteral q false t).map (prepend c) := by
  unfold escapeLiteral
  split
  · rfl
  next h =>
    obtain ⟨hbackslash, hquote⟩ := not_or.1 h
    rw [List.singleton_append, scanLiteral, if_neg Bool.false_ne_true, if_neg hbackslash,
      if_neg hquote]

theorem scanLiteral_flatMap (hq : q ≠ '\\') (rest : Text) : ∀ t : Text,
    scanLiteral q false (t.flatMap (escapeLiteral q) ++ .char q :: rest) = some (t, rest)
  | [] => by
    have hquote : CodePoint.char q ≠ .char '\\' := fun h => hq (CodePoint.char.inj h)
    rw [List.flatMap_nil, List.nil_append, scanLiteral, if_neg Bool.false_ne_true, if_neg hquote,
      if_pos rfl]
  | c :: t => by
    rw [List.flatMap_cons, List.append_assoc, scanLiteral_escapeLiteral,
      scanLiteral_flatMap hq rest t]
    rfl

/-- A literal is read as the text that was written, up to its end and no further. -/
theorem readLiteral_literal (hq : q ≠ '\\') (t rest : Text) :
    readLiteral q (literal q t ++ rest) = some (t, rest) := by
  rw [literal, List.cons_append, List.cons_append, readLiteral, if_pos rfl, List.append_assoc]
  exact scanLiteral_flatMap hq rest t

/-- What was read is read all the same with more behind it. -/
theorem scanLiteral_append (more : Text) : ∀ {escaped : Bool} {t v rest : Text},
    scanLiteral q escaped t = some (v, rest) →
      scanLiteral q escaped (t ++ more) = some (v, rest ++ more)
  | true, c :: t, v, rest, h => by
    obtain ⟨read, hread, heq⟩ := Option.map_eq_some_iff.1 h
    obtain ⟨rfl, rfl⟩ := Prod.mk.inj heq
    rw [List.cons_append, scanLiteral, if_pos rfl, scanLiteral_append more hread]
    rfl
  | false, c :: t, v, rest, h => by
    rw [scanLiteral, if_neg Bool.false_ne_true] at h
    rw [List.cons_append, scanLiteral, if_neg Bool.false_ne_true]
    split at h
    next hbackslash => rw [if_pos hbackslash, scanLiteral_append more h]
    next hbackslash =>
      rw [if_neg hbackslash]
      split at h
      next hquote =>
        obtain ⟨rfl, rfl⟩ := Prod.mk.inj (Option.some.inj h)
        rw [if_pos hquote]
      next hquote =>
        obtain ⟨read, hread, heq⟩ := Option.map_eq_some_iff.1 h
        obtain ⟨rfl, rfl⟩ := Prod.mk.inj heq
        rw [if_neg hquote, scanLiteral_append more hread]
        rfl

theorem readLiteral_append (more : Text) : ∀ {t v rest : Text}, readLiteral q t = some (v, rest) →
    readLiteral q (t ++ more) = some (v, rest ++ more)
  | c :: t, v, rest, h => by
    rw [readLiteral] at h
    rw [List.cons_append, readLiteral]
    split at h
    next hquote => rw [if_pos hquote, scanLiteral_append more h]
    · cases h

/-- A literal that is cut off, at the end of a line or anywhere else, is not read as anything. -/
theorem readLiteral_of_isPrefix (hq : q ≠ '\\') {t front : Text} (h : front <+: literal q t)
    (hne : front ≠ literal q t) : readLiteral q front = none := by
  obtain ⟨more, hmore⟩ := h
  cases hread : readLiteral q front with
  | none => rfl
  | some read =>
    obtain ⟨v, rest⟩ := read
    have hall := readLiteral_append more hread
    have hliteral := readLiteral_literal hq t []
    rw [List.append_nil, ← hmore, hall] at hliteral
    have hrest : rest ++ more = [] := (Prod.mk.inj (Option.some.inj hliteral)).2
    rw [(List.append_eq_nil_iff.1 hrest).2, List.append_nil] at hmore
    exact absurd hmore hne

theorem literal_injective (hq : q ≠ '\\') : Function.Injective (literal q) := by
  intro t u h
  have hread := readLiteral_literal hq t []
  rw [h, readLiteral_literal hq u []] at hread
  exact (Prod.mk.inj (Option.some.inj hread)).1.symm

/-! ## Replacements -/

/-- The text with another one in the place of a code point. -/
def replaced (c : CodePoint) (new t : Text) : Text :=
  t.flatMap fun d => if d = c then new else [d]

/-- A literal is made by two replacements. The backslashes come first : those that the other puts in
front of quote characters are not doubled. -/
theorem literal_eq_replaced (hq : q ≠ '\\') (t : Text) : literal q t = .char q ::
    replaced (.char q) [.char '\\', .char q]
      (replaced (.char '\\') [.char '\\', .char '\\'] t) ++ [.char q] := by
  have hbackslash : (.char '\\' : CodePoint) ≠ .char q := fun h => hq (CodePoint.char.inj h).symm
  have hpoint : ∀ c : CodePoint, replaced (.char q) [.char '\\', .char q]
      (if c = .char '\\' then [.char '\\', .char '\\'] else [c]) = escapeLiteral q c := by
    intro c
    unfold replaced escapeLiteral
    by_cases hc : c = .char '\\'
    · simp [hc, hbackslash]
    · by_cases hquote : c = .char q <;> simp [hc, hquote, hq]
  have htwice : replaced (.char q) [.char '\\', .char q]
      (replaced (.char '\\') [.char '\\', .char '\\'] t) = t.flatMap (escapeLiteral q) := by
    rw [replaced, replaced, List.flatMap_assoc]
    exact congrArg (List.flatMap · t) (funext hpoint)
  rw [literal, htwice]

/-- Literals in quote character `q` are made by replacements, and each is read as what it was made
of, whatever comes behind it, but not before it has ended. -/
structure Sealed (q : Char) : Prop where
  replacements : ∀ t, literal q t = .char q ::
    replaced (.char q) [.char '\\', .char q]
      (replaced (.char '\\') [.char '\\', .char '\\'] t) ++ [.char q]
  reads : ∀ t rest, readLiteral q (literal q t ++ rest) = some (t, rest)
  cut : ∀ t front, front <+: literal q t → front ≠ literal q t → readLiteral q front = none
  injective : Function.Injective (literal q)

theorem sealed (hq : q ≠ '\\') : Sealed q where
  replacements := literal_eq_replaced hq
  reads := readLiteral_literal hq
  cut _ _ := readLiteral_of_isPrefix hq
  injective := literal_injective hq

/-! ## Texts that are spelled twice -/

/-- A text with something behind it that does not get shorter when the text gets longer is the same
only for the same text. -/
theorem append_self_injective {behind : Text → Text}
    (h : ∀ t more, (behind t).length ≤ (behind (t ++ more)).length) :
    Function.Injective fun t => t ++ behind t := by
  have hnothing : ∀ t more, t ++ behind t = (t ++ more) ++ behind (t ++ more) → more = [] := by
    intro t more heq
    have hlength := congrArg List.length heq
    simp only [List.length_append] at hlength
    have hle := h t more
    exact List.eq_nil_of_length_eq_zero (by omega)
  intro t u heq
  rcases List.append_eq_append_iff.1 heq with ⟨more, rfl, -⟩ | ⟨more, rfl, -⟩
  · rw [hnothing t more heq, List.append_nil]
  · rw [hnothing u more heq.symm, List.append_nil]

/-- A longer text has no shorter literal. -/
theorem length_literal_le (q : Char) (before t more after : Text) :
    (literal q (before ++ t ++ after)).length ≤
      (literal q (before ++ (t ++ more) ++ after)).length := by
  simp only [literal, List.flatMap_append, List.length_append, List.length_cons]
  omega

end DtoPress.Text
