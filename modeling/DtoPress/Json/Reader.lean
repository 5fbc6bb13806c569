import DtoPress.Text.Characters
import DtoPress.Value.Basic

/-!
# Reading JSON

`Json.read` reads a text as one value. Besides the standard it takes `NaN`, `Infinity` and
`-Infinity`; where a key appears twice in an object the last value counts, at the place of
the first. What is wrong with any other text is reported with the place where it shows, and
`Json.Malformed.message` words it with line and column. Numbers of too many digits and
brackets nested too deep are faults.

The reader walks the list of characters with the offset reached. Strings are read by
recursion on the text; for values the recursion is bounded by a fuel of twice the length of the
text and two more, which is never used up, since of two steps one takes a character.
-/

namespace DtoPress.Json

/-- What can be wrong with a text that is read as JSON. -/
inductive Problem where
  | expectingValue
  | expectingName
  | expectingColon
  | expectingComma
  | extraData
  | unterminatedString
  | controlCharacter
  | badEscape
  | badUnicodeEscape
  | byteOrderMark
  deriving DecidableEq, Repr

/-- The wording of a problem. -/
def Problem.message : Problem → String
  | .expectingValue => "Expecting value"
  | .expectingName => "Expecting property name enclosed in double quotes"
  | .expectingColon => "Expecting ':' delimiter"
  | .expectingComma => "Expecting ',' delimiter"
  | .extraData => "Extra data"
  | .unterminatedString => "Unterminated string starting at"
  | .controlCharacter => "Invalid control character at"
  | .badEscape => "Invalid \\escape"
  | .badUnicodeEscape => "Invalid \\uXXXX escape"
  | .byteOrderMark => "Unexpected UTF-8 BOM (decode using utf-8-sig)"

/-- Why a text is no JSON value. -/
inductive Failure where
  /-- A problem at an offset. -/
  | malformed (problem : Problem) (offset : Nat)
  /-- A limit of the reader is exceeded. -/
  | limit (f : Fault)
  deriving DecidableEq, Repr

/-- A problem with its place in the text, counted in characters. -/
structure Malformed where
  problem : Problem
  /-- Lines count from one. -/
  line : Nat
  /-- Columns count from one. -/
  column : Nat
  /-- Offsets count from zero. -/
  offset : Nat
  deriving DecidableEq, Repr

/-- The place of an offset in a text. -/
def Malformed.locate (text : List Char) (problem : Problem) (offset : Nat) : Malformed :=
  let before := text.take offset
  let onLine := before.reverse.takeWhile (· ≠ '\n')
  { problem, line := before.count '\n' + 1, column := onLine.length + 1, offset }

/-- The wording of a problem with its place. -/
def Malformed.message (e : Malformed) : String :=
  s!"{e.problem.message}: line {e.line} column {e.column} (char {e.offset})"

/-- Where the reader stands : the offset and the text from there. -/
structure Cursor where
  offset : Nat
  rest : List Char

/-- The reader's blanks. -/
def isSpace (c : Char) : Bool :=
  c = ' ' || c = '\t' || c = '\n' || c = '\r'

/-- The cursor behind the blanks. -/
def Cursor.skip (at_ : Cursor) : Cursor :=
  let blanks := at_.rest.takeWhile isSpace
  ⟨at_.offset + blanks.length, at_.rest.dropWhile isSpace⟩

/-- The number written by four hexadecimal digits. -/
def hexValue4? (a b c d : Char) : Option Nat := do
  let a ← Text.hexValue? a
  let b ← Text.hexValue? b
  let c ← Text.hexValue? c
  let d ← Text.hexValue? d
  return ((a * 16 + b) * 16 + c) * 16 + d

/-- The code point of a code unit that stands alone. -/
def unitPoint (n : Nat) : CodePoint :=
  if h : 0xd800 ≤ n ∧ n < 0xe000 then .half ⟨n - 0xd800, by omega⟩ else .char (Char.ofNat n)

/-- A high half in front of a low one makes a character with it. -/
def pairOf? (high low : CodePoint) : Option CodePoint :=
  if 0xd800 ≤ high.value ∧ high.value < 0xdc00 ∧ 0xdc00 ≤ low.value ∧ low.value < 0xe000 then
    some (.char (Char.ofNat (0x10000 + (high.value - 0xd800) * 0x400 + (low.value - 0xdc00))))
  else none

/-- An escaped code point in front of a text, joined to the half that it makes a pair with. -/
def consEscaped (c : CodePoint) : Text → Text
  | [] => [c]
  | d :: t => match pairOf? c d with
    | some pair => pair :: t
    | none => c :: d :: t

/-- The character for a one-letter escape. -/
def escapedChar? : Char → Option Char
  | '"' => some '"'
  | '\\' => some '\\'
  | '/' => some '/'
  | 'b' => some (Char.ofNat 8)
  | 'f' => some (Char.ofNat 12)
  | 'n' => some '\n'
  | 'r' => some '\r'
  | 't' => some '\t'
  | _ => none

/-- The text of a string up to its closing quote, and the cursor behind it. `start` is
the offset of the opening quote, `offset` that of the text. -/
def readString (start offset : Nat) : List Char → Except Failure (Text × Cursor)
  | [] => .error (.malformed .unterminatedString start)
  | '"' :: rest => .ok ([], ⟨offset + 1, rest⟩)
  | ['\\'] => .error (.malformed .unterminatedString start)
  | '\\' :: 'u' :: a :: b :: c :: d :: e :: rest =>
    match hexValue4? a b c d with
    | none => .error (.malformed .badUnicodeEscape (offset + 1))
    | some n => do
      let (t, after) ← readString start (offset + 6) (e :: rest)
      return (consEscaped (unitPoint n) t, after)
  | '\\' :: 'u' :: _ => .error (.malformed .badUnicodeEscape (offset + 1))
  | '\\' :: c :: rest =>
    match escapedChar? c with
    | none => .error (.malformed .badEscape offset)
    | some c => do
      let (t, after) ← readString start (offset + 2) rest
      return (.char c :: t, after)
  | c :: rest =>
    if c.toNat < 0x20 then .error (.malformed .controlCharacter offset)
    else do
      let (t, after) ← readString start (offset + 1) rest
      return (.char c :: t, after)

/-- The number that a list of digits writes. -/
def digitsValue (cs : List Char) : Nat :=
  cs.foldl (fun n c => n * 10 + (c.toNat - 48)) 0

/-- The digits at the start of a number without sign : one zero, or digits from another. -/
def leadingDigits : List Char → Option (List Char × List Char)
  | '0' :: rest => some (['0'], rest)
  | c :: rest =>
    if c.isDigit then some (c :: rest.takeWhile Char.isDigit, rest.dropWhile Char.isDigit)
    else none
  | [] => none

/-- The digits behind a point, if there are any. -/
def fractionDigits : List Char → Option (List Char × List Char)
  | '.' :: c :: rest =>
    if c.isDigit then some (c :: rest.takeWhile Char.isDigit, rest.dropWhile Char.isDigit)
    else none
  | _ => none

/-- The exponent behind an `e`, if there is one : its value, its length and what follows. -/
def exponentPart (cs : List Char) : Option (Int × Nat × List Char) :=
  match cs with
  | e :: rest =>
    if e = 'e' ∨ e = 'E' then
      let (negative, signs, rest) : Bool × Nat × List Char := match rest with
        | '-' :: rest => (true, 1, rest)
        | '+' :: rest => (false, 1, rest)
        | rest => (false, 0, rest)
      let digits := rest.takeWhile Char.isDigit
      if digits.isEmpty then none
      else
        let n : Int := digitsValue digits
        some (if negative then -n else n, 1 + signs + digits.length,
          rest.dropWhile Char.isDigit)
    else none
  | [] => none

/-- A number at the cursor. -/
def readNumber (at_ : Cursor) : Except Failure (Value × Cursor) :=
  let (negative, signs, unsigned) : Bool × Nat × List Char := match at_.rest with
    | '-' :: rest => (true, 1, rest)
    | rest => (false, 0, rest)
  match leadingDigits unsigned with
  | none => .error (.malformed .expectingValue at_.offset)
  | some (whole, rest) =>
    let (fraction, points, rest) := match fractionDigits rest with
      | some (ds, rest) => (ds, 1, rest)
      | none => ([], 0, rest)
    let (exponent, letters, rest) := match exponentPart rest with
      | some (n, k, rest) => (some n, k, rest)
      | none => (none, 0, rest)
    let after : Cursor :=
      ⟨at_.offset + signs + whole.length + points + fraction.length + letters, rest⟩
    if points = 0 ∧ exponent.isNone then
      if Value.maxDigits < whole.length then .error (.limit .badValue)
      else
        let n : Int := digitsValue whole
        .ok (.int (if negative then -n else n), after)
    else
      .ok (.float (.ofDecimal negative (digitsValue (whole ++ fraction))
        (exponent.getD 0 - fraction.length)), after)

/-- The words that stand for a value. -/
def wordValues : List (List Char × Value) :=
  [("null".toList, .null), ("true".toList, .bool true), ("false".toList, .bool false),
   ("NaN".toList, .float .nan), ("Infinity".toList, .float (.infinity false)),
   ("-Infinity".toList, .float (.infinity true))]

/-- A word or a number at the cursor. -/
def readScalar (at_ : Cursor) : Except Failure (Value × Cursor) :=
  match wordValues.find? fun w => w.1.isPrefixOf at_.rest with
  | some (word, v) => .ok (v, ⟨at_.offset + word.length, at_.rest.drop word.length⟩)
  | none => readNumber at_

/-- A key at the cursor, the colon behind it and the blanks around that. -/
def readKey (at_ : Cursor) : Except Failure (Text × Cursor) :=
  match at_.rest with
  | '"' :: rest => do
    let (key, after) ← readString at_.offset (at_.offset + 1) rest
    match after.skip with
    | ⟨offset, ':' :: rest⟩ => return (key, (Cursor.mk (offset + 1) rest).skip)
    | ⟨offset, _⟩ => .error (.malformed .expectingColon offset)
  | _ => .error (.malformed .expectingName at_.offset)

mutual

/-- A value at the cursor, with brackets nested to a depth at most. -/
def readValue (depth : Nat) : Nat → Cursor → Except Failure (Value × Cursor)
  | 0, at_ => .error (.malformed .expectingValue at_.offset)
  | fuel + 1, at_ =>
    match at_.rest with
    | '"' :: rest => do
      let (t, after) ← readString at_.offset (at_.offset + 1) rest
      return (.str t, after)
    | '[' :: rest =>
      match depth with
      | 0 => .error (.limit .nesting)
      | depth + 1 =>
        match (Cursor.mk (at_.offset + 1) rest).skip with
        | ⟨offset, ']' :: rest⟩ => .ok (.list [], ⟨offset + 1, rest⟩)
        | inside => do
          let (items, after) ← readItems depth fuel inside
          return (.list items, after)
    | '\x7b' :: rest =>
      match depth with
      | 0 => .error (.limit .nesting)
      | depth + 1 =>
        match (Cursor.mk (at_.offset + 1) rest).skip with
        | ⟨offset, '\x7d' :: rest⟩ => .ok (.object [], ⟨offset + 1, rest⟩)
        | inside => do
          let (fields, after) ← readFields depth fuel [] inside
          return (.object fields, after)
    | _ => readScalar at_

/-- The items of a list from its first item on, up to the closing bracket. -/
def readItems (depth : Nat) : Nat → Cursor → Except Failure (List Value × Cursor)
  | 0, at_ => .error (.malformed .expectingValue at_.offset)
  | fuel + 1, at_ => do
    let (item, after) ← readValue depth fuel at_
    match after.skip with
    | ⟨offset, ']' :: rest⟩ => return ([item], ⟨offset + 1, rest⟩)
    | ⟨offset, ',' :: rest⟩ =>
      let (items, after) ← readItems depth fuel (Cursor.mk (offset + 1) rest).skip
      return (item :: items, after)
    | ⟨offset, _⟩ => .error (.malformed .expectingComma offset)

/-- The fields of an object from a key on, up to the closing brace, added to those before. -/
def readFields (depth : Nat) : Nat → List (Text × Value) → Cursor →
    Except Failure (List (Text × Value) × Cursor)
  | 0, _, at_ => .error (.malformed .expectingName at_.offset)
  | fuel + 1, before, at_ => do
    let (key, after) ← readKey at_
    let (value, after) ← readValue depth fuel after
    let fields := Entries.put before key value
    match after.skip with
    | ⟨offset, '\x7d' :: rest⟩ => return (fields, ⟨offset + 1, rest⟩)
    | ⟨offset, ',' :: rest⟩ => readFields depth fuel fields (Cursor.mk (offset + 1) rest).skip
    | ⟨offset, _⟩ => .error (.malformed .expectingComma offset)

end

/-- The value that a list of characters writes. -/
def readChars (cs : List Char) : Except Failure Value :=
  match cs with
  | c :: _ =>
    if c.toNat = 0xfeff then .error (.malformed .byteOrderMark 0)
    else body
  | [] => body
where
  /-- The value, with nothing but blanks around it. -/
  body : Except Failure Value := do
    let (v, after) ← readValue Value.maxDepth (2 * cs.length + 2) (Cursor.mk 0 cs).skip
    match after.skip with
    | ⟨_, []⟩ => return v
    | ⟨offset, _⟩ => .error (.malformed .extraData offset)

/-- The trouble that a failure is for the reader of a text. -/
def Failure.toTrouble (text : List Char) : Failure → Trouble Malformed
  | .malformed problem offset => .cause (.locate text problem offset)
  | .limit f => .fault f

/-- The value that a string writes. -/
def read (s : String) : Except (Trouble Malformed) Value :=
  (readChars s.toList).mapError (Failure.toTrouble s.toList)

end DtoPress.Json
