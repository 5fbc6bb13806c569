import DtoPress.Fault
import DtoPress.Text.Quoted
import DtoPress.Text.Lower
import DtoPress.Text.Lines

/-!
# Paths

A path is a root, which is empty for a relative path, and the parts between its slashes.
Empty parts and single dots are dropped when a text is read as a path; double dots stay.
The operating system knows a path by its bytes, which not every path has.
-/

namespace DtoPress

/-- A path of the file system. -/
structure Path where
  /-- Empty, one slash, or two. -/
  root : Text
  parts : List Text
  deriving DecidableEq, Repr

namespace Path

/-- The root of a path : exactly two slashes are kept, more count as one. -/
def rootOf (t : Text) : Text :=
  match t.takeWhile (· = .char '/') with
  | [] => ""
  | [_, _] => "//"
  | _ => "/"

/-- The path that a text writes. -/
def ofText (t : Text) : Path :=
  ⟨rootOf t, (Text.split (.char '/') t).filter fun p => p != "" && p != "."⟩

/-- The text of a path. -/
def text (p : Path) : Text :=
  if p.root = "" ∧ p.parts = [] then "." else p.root ++ Text.joined "/" p.parts

/-- The text of a path in quotes. -/
def quoted (p : Path) : Text :=
  Text.quoted p.text

/-- A path below another one; a path with a root of its own stands alone. -/
def join (p q : Path) : Path :=
  if q.root = "" then ⟨p.root, p.parts ++ q.parts⟩ else q

/-- The path without its last part. -/
def parent (p : Path) : Path :=
  ⟨p.root, p.parts.dropLast⟩

/-- The last part, empty if there is none. -/
def name (p : Path) : Text :=
  p.parts.getLast?.getD ""

/-- The last dot of a name and what follows it, if there is something on both sides. -/
def suffixOf (name : Text) : Text :=
  let ending := (name.reverse.takeWhile (· ≠ .char '.')).reverse
  if ending.isEmpty ∨ name.length ≤ ending.length + 1 then [] else "." ++ ending

/-- The extension of the last part in lower case. -/
def extension (p : Path) : Text :=
  Text.lower (suffixOf p.name)

/-- The number of bytes that a code point takes in a path. The halves from `0xdc80` to `0xdcff`
stand for single bytes that are no text; other halves have no bytes. -/
def bytesOf? : CodePoint → Option Nat
  | .char c => some c.utf8Size
  | .half index => if 0x480 ≤ index.val ∧ index.val < 0x500 then some 1 else none

/-- The number of bytes of a text in a path. -/
def sizeOf (t : Text) : Nat :=
  (t.filterMap bytesOf?).foldl (· + ·) 0

/-- The fault if a path cannot be handed to the operating system : it has no bytes, or one of
them is zero. -/
def fault? (p : Path) : Option Fault :=
  if p.text.any fun c => (bytesOf? c).isNone then some .unencodable
  else if p.text.contains (.char (Char.ofNat 0)) then some .badValue
  else none

end Path

end DtoPress
