import DtoPress.Text.Basic
import DtoPress.Text.Printable

/-!
# Text in quotes

`literal q s` is the string literal of generated code : the text between two quote characters,
with a backslash before each backslash and each quote character inside. `quoted` is how a text
appears inside a printed value : in single quotes, or in double quotes where it holds single
quotes and no double ones. Characters that cannot be printed are escaped there, by their shortest
hexadecimal form of two, four or eight digits, and so are lone halves of surrogate pairs.
-/

namespace DtoPress.Text

/-- The double quote character. -/
def doubleQuote : Char := '"'

/-- The single quote character. -/
def singleQuote : Char := Char.ofNat 39

/-! ## Literals -/

/-- A code point inside a literal with quote character `q`. -/
def escapeLiteral (q : Char) (c : CodePoint) : Text :=
  if c = .char '\\' ∨ c = .char q then [.char '\\', c] else [c]

/-- The literal of a text in quote character `q`. -/
def literal (q : Char) (t : Text) : Text :=
  .char q :: t.flatMap (escapeLiteral q) ++ [.char q]

/-! ## Quoted texts -/

/-- The last `width` hexadecimal digits of a number. -/
def hexDigits : Nat → Nat → List Char
  | 0, _ => []
  | width + 1, n => hexDigits width (n / 16) ++ [Nat.digitChar (n % 16)]

/-- A character inside a text quoted with `q`. -/
def quoteChar (q c : Char) : List Char :=
  if c = q ∨ c = '\\' then ['\\', c]
  else if c = '\n' then ['\\', 'n']
  else if c = '\r' then ['\\', 'r']
  else if c = '\t' then ['\\', 't']
  else if isPrintable c then [c]
  else if c.toNat < 0x100 then '\\' :: 'x' :: hexDigits 2 c.toNat
  else if c.toNat < 0x10000 then '\\' :: 'u' :: hexDigits 4 c.toNat
  else '\\' :: 'U' :: hexDigits 8 c.toNat

/-- A code point inside a text quoted with `q`. -/
def quotePoint (q : Char) : CodePoint → Text
  | .char c => ofChars (quoteChar q c)
  | .half index => ofChars ('\\' :: 'u' :: hexDigits 4 (CodePoint.half index).value)

/-- The quote character that a text is quoted with. -/
def quoteFor (t : Text) : Char :=
  if t.contains (.char singleQuote) && !t.contains (.char doubleQuote) then doubleQuote
  else singleQuote

/-- The text in quotes. -/
def quoted (t : Text) : Text :=
  let q := quoteFor t
  .char q :: t.flatMap (quotePoint q) ++ [.char q]

end DtoPress.Text
