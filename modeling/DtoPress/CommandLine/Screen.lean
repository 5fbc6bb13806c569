import DtoPress.Fault
import DtoPress.Text.Basic

/-!
# What is shown

The items that a run shows on the screen, with their markup, before they are laid out. What lays
them out is the `Screen`. It may refuse an item, say for a tag that closes nothing, and that ends
the run : of several items those before the first refused one are shown (`Screen.take`).
-/

namespace DtoPress.CommandLine

/-- One item on the screen. -/
inductive Item where
  /-- A line with markup. -/
  | line (text : Text)
  /-- A frame around the text of a file. -/
  | panel (title code : Text) (border : String)
  | table (title : String) (columns : List String) (rows : List (List Text))
  deriving DecidableEq, Repr

namespace Item

/-- An empty line. -/
def blank : Item := line ""

/-- A line inside a tag. -/
def tagged (tag : String) (text : Text) : Item :=
  line ("[" ++ tag ++ "]" ++ text ++ "[/" ++ tag ++ "]")

/-- The warning sign. -/
def warningSign : String :=
  String.ofList [Char.ofNat 0x26a0, Char.ofNat 0xfe0f]

/-- A warning. -/
def warning (text : Text) : Item :=
  tagged "yellow" (warningSign ++ "  " ++ text)

/-- The cross in front of errors. -/
def cross : String := "✗"

/-- A failed generation. -/
def failure (text : Text) : Item :=
  tagged "red" (cross ++ " " ++ text)

/-- An error that ended the run. -/
def error (text : Text) : Item :=
  line ("[red]" ++ cross ++ " Error:[/red] " ++ text)

/-- The source of the schema. -/
def loaded (source : Text) : Item :=
  line ("📄 Loaded: " ++ source)

/-- The number of files written below a directory. -/
def generated (count : Nat) (directory : Text) : Item :=
  line ("[green]✓[/green] Generated " ++ toString count ++ " files in [bold]" ++ directory ++
    "[/bold]")

/-- A file. -/
def file (path code : Text) : Item :=
  panel ("📝 " ++ path) code "blue"

/-! ## Plain text -/

/-- A character of a tag. -/
def isTagChar (c : Char) : Bool :=
  c.isLower || c = '/'

/-- What follows a tag at the start of a text, whose opening bracket is taken already. -/
def afterTag? : Text → Option Text
  | [] => none
  | c :: cs =>
    if c = .char ']' then some cs else if c.isA isTagChar then afterTag? cs else none

/-- A text without its tags; `skip` characters of it belong to a tag. -/
def dropTags (skip : Nat) : Text → Text
  | [] => []
  | c :: cs =>
    match skip with
    | skip + 1 => dropTags skip cs
    | 0 =>
      match if c = .char '[' then afterTag? cs else none with
      | some rest => dropTags (cs.length - rest.length) cs
      | none => c :: dropTags 0 cs

/-- A text without its tags. -/
def untagged (t : Text) : Text :=
  dropTags 0 t

/-- The columns of a table apart from each other. -/
def columnGap : Text := "  "

/-- An item as plain lines. -/
def plainLines : Item → List Text
  | line text => [untagged text]
  | panel title code _ => [title, code]
  | table title columns rows =>
    title :: ((columns.map .ofString) :: rows).map fun row =>
      Text.joined columnGap (row.map untagged)

end Item

/-! ## The screen -/

/-- What lays items out : the fault that an item ends in, if it is refused. -/
abbrev Screen := Item → Option Fault

namespace Screen

/-- The screen that takes every item. -/
def lenient : Screen :=
  fun _ => none

/-- The items before the first that is refused, and the fault of that one. -/
def take (screen : Screen) : List Item → List Item × Except Fault Unit
  | [] => ([], .ok ())
  | item :: rest =>
    match screen item with
    | some f => ([], .error f)
    | none =>
      let (shown, result) := screen.take rest
      (item :: shown, result)

end Screen

end DtoPress.CommandLine
