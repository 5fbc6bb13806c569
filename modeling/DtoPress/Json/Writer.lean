import DtoPress.Json.Reader
import DtoPress.Text.Quoted
import DtoPress.Value.Text

/-!
# Writing JSON

Two ways to write a value. `Json.pretty` puts every item and field on a line of its own,
indented by two spaces a level, and keeps characters beyond ASCII; this is how a
configuration is saved. It comes in pieces, `Json.prettyPieces`, of which a file can take some
before it refuses one. `Json.compact` writes one line of ASCII.
-/

namespace DtoPress.Json

/-- A character below the space, or one of the two that a string cannot hold as they are. -/
def escapeChar (c : Char) : List Char :=
  if c = '"' ∨ c = '\\' then ['\\', c]
  else if c = '\n' then ['\\', 'n']
  else if c = '\r' then ['\\', 'r']
  else if c = '\t' then ['\\', 't']
  else if c.toNat = 8 then ['\\', 'b']
  else if c.toNat = 12 then ['\\', 'f']
  else if c.toNat < 0x20 then '\\' :: 'u' :: Text.hexDigits 4 c.toNat
  else [c]

/-- A code point with what a string cannot hold escaped. -/
def escapePoint : CodePoint → Text
  | .char c => .ofChars (escapeChar c)
  | .half index => [.half index]

/-- A code unit as an escape. -/
def escapeUnit (n : Nat) : List Char :=
  '\\' :: 'u' :: Text.hexDigits 4 n

/-- A code point in ASCII : beyond it, by its code units. -/
def escapeAscii (c : CodePoint) : Text :=
  let n := c.value
  if n ≤ 0x7f then escapePoint c
  else .ofChars <|
    if n < 0x10000 then escapeUnit n
    else
      let m := n - 0x10000
      escapeUnit (0xd800 + m / 0x400) ++ escapeUnit (0xdc00 + m % 0x400)

/-- A string in double quotes, its code points written by `escape`. -/
def writeString (escape : CodePoint → Text) (t : Text) : Text :=
  .char '"' :: t.flatMap escape ++ [.char '"']

/-- A floating-point number; the words for what is no decimal are those the reader takes. -/
def writeFloat (x : Binary64) : String :=
  match x.reading with
  | .nan => "NaN"
  | .infinite negative => if negative then "-Infinity" else "Infinity"
  | .finite _ _ _ => x.text

/-- A line feed and the spaces of a level. -/
def newLine (level : Nat) : Text :=
  .char '\n' :: List.replicate (2 * level) (.char ' ')

/-- What stands before an item, in one piece with the item if that is one piece. -/
def attach (before : Text) : List Text → List Text
  | [piece] => [before ++ piece]
  | pieces => before :: pieces

mutual

/-- A value over several lines, at a level, in pieces. -/
def prettyAt (level : Nat) : Value → List Text
  | .null => ["null"]
  | .bool b => [if b then "true" else "false"]
  | .int n => [.ofString (toString n)]
  | .float x => [.ofString (writeFloat x)]
  | .str t => [writeString escapePoint t]
  | .list [] => ["[]"]
  | .list (v :: vs) =>
    prettyItems (level + 1) ("[" ++ newLine (level + 1)) (v :: vs) ++ [newLine level, "]"]
  | .object [] => ["\x7b\x7d"]
  | .object (f :: fields) =>
    prettyFields (level + 1) ("\x7b" ++ newLine (level + 1)) (f :: fields)
      ++ [newLine level, "\x7d"]

/-- The items of a list, the first behind the given text. -/
def prettyItems (level : Nat) (before : Text) : List Value → List Text
  | [] => []
  | v :: vs => attach before (prettyAt level v) ++ prettyItems level ("," ++ newLine level) vs

/-- The fields of an object, the first behind the given text. -/
def prettyFields (level : Nat) (before : Text) : List (Text × Value) → List Text
  | [] => []
  | (k, v) :: rest =>
    [before, writeString escapePoint k, ": "] ++ prettyAt level v
      ++ prettyFields level ("," ++ newLine level) rest

end

/-- A value over several lines, in the pieces in which it is written to a file. -/
def prettyPieces (v : Value) : List Text :=
  prettyAt 0 v

/-- A value over several lines. -/
def pretty (v : Value) : Text :=
  (prettyPieces v).flatten

mutual

/-- A value on one line of ASCII. -/
def compact : Value → Text
  | .null => "null"
  | .bool b => if b then "true" else "false"
  | .int n => .ofString (toString n)
  | .float x => .ofString (writeFloat x)
  | .str t => writeString escapeAscii t
  | .list items => "[" ++ Text.joined "," (compactItems items) ++ "]"
  | .object fields => "\x7b" ++ Text.joined "," (compactFields fields) ++ "\x7d"

/-- The items of a list, each on one line. -/
def compactItems : List Value → List Text
  | [] => []
  | v :: vs => compact v :: compactItems vs

/-- The fields of an object, each on one line. -/
def compactFields : List (Text × Value) → List Text
  | [] => []
  | (k, v) :: rest => (writeString escapeAscii k ++ ":" ++ compact v) :: compactFields rest

end

end DtoPress.Json
