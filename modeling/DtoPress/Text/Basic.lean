/-!
# Texts

An escape in a JSON document can name one half of a surrogate pair, which no `String` holds.
Whatever can come from a document is therefore a `Text`, a list of code points, each of them a
character or a lone half. Texts are ordered by the numbers of their code points.
`Text.ofString` embeds the strings, and a string stands for its text wherever a text is
expected; `Text.string?` is the way back, which a text with a lone half does not have.
-/

namespace DtoPress

/-- A code point : a character, or half of a surrogate pair on its own. -/
inductive CodePoint where
  | char (c : Char)
  /-- The half with the number `0xd800 + index`. -/
  | half (index : Fin 0x800)
  deriving DecidableEq, Repr

namespace CodePoint

/-- The number of a code point. -/
def value : CodePoint → Nat
  | char c => c.toNat
  | half index => 0xd800 + index

instance : LT CodePoint := ⟨fun a b => a.value < b.value⟩

instance (a b : CodePoint) : Decidable (a < b) :=
  inferInstanceAs (Decidable (a.value < b.value))

/-- The character that a code point is, if it is one. -/
def char? : CodePoint → Option Char
  | char c => some c
  | half _ => none

/-- A code point is a character of a class. -/
def isA (p : Char → Bool) : CodePoint → Bool
  | char c => p c
  | half _ => false

end CodePoint

/-- A list of code points. -/
abbrev Text := List CodePoint

namespace Text

/-- The text of characters. -/
def ofChars (cs : List Char) : Text :=
  cs.map .char

/-- The text of a string. -/
def ofString (s : String) : Text :=
  ofChars s.toList

instance : Coe String Text := ⟨ofString⟩

/-- The string that a text is, unless it has a lone half. -/
def string? (t : Text) : Option String :=
  (t.mapM CodePoint.char?).map String.ofList

/-- The characters of a text, with the replacement character in the place of a lone half. -/
def toChars (t : Text) : List Char :=
  t.map fun c => c.char?.getD (Char.ofNat 0xfffd)

/-- Texts with a separator between neighbours. -/
def joined (separator : Text) (parts : List Text) : Text :=
  separator.intercalate parts

/-- Texts with a comma between neighbours. -/
def commaSeparated (parts : List Text) : Text :=
  joined ", " parts

end Text

end DtoPress
