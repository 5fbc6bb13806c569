import DtoPress.Dto.Printer
import DtoPress.Files.Tree
import DtoPress.Text.Compatibility
import DtoPress.Text.Characters

/-!
# Template sources

A template given as a string holds expressions in double braces : a name, and filters behind
bars that its text passes through. `Template.render` fills a template in from texts by name and
stops at the first expression that has no text. Some names have a text in every template : the
constants, the template itself, and, unless they are given another one, the globals.
Compatible spellings of a name share one text.
-/

namespace DtoPress.Template

/-- Why a template cannot be rendered. -/
inductive Problem where
  /-- There is no template of its name. -/
  | notFound
  /-- A name has no text. -/
  | undefined (name : Text)
  /-- What is used as a number of spaces is none. -/
  | notSpaces (e : SpacesError)
  /-- A value has no such part. -/
  | noPart (owner part : String)
  /-- A value of the given kind does not run through anything. -/
  | notIterable (kind : String)
  /-- A value of the given kind cannot be called. -/
  | notCallable (kind : String)
  /-- A value is given for the name of the template itself. -/
  | selfGiven
  /-- A value of the given kind is given in the place of values by name. -/
  | notNamed (kind : String)
  /-- There is no name in front of what is given. -/
  | noExpression (before : String)
  /-- Any other problem, by its wording. -/
  | raised (message : Text)
  deriving DecidableEq, Repr

/-- The wording of a problem in the template of the given name. -/
def Problem.message (template : String) : Problem → Text
  | notFound => template
  | undefined name => "'" ++ name ++ "' is undefined"
  | notSpaces e => e.message
  | noPart owner part => s!"'{owner}' has no attribute '{part}'"
  | notIterable kind => s!"'{kind}' object is not iterable"
  | notCallable kind => s!"'{kind}' object is not callable"
  | selfGiven => "Template.render() got multiple values for argument 'self'"
  | notNamed kind =>
    s!"jinja2.environment.Template.render() argument after ** must be a mapping, not {kind}"
  | noExpression before => s!"Expected an expression, got '{before}'"
  | raised message => message

/-- What the text of an expression passes through. -/
inductive Filter where
  /-- The literal of the text. -/
  | quote
  /-- The text as a comment. -/
  | docComment
  /-- The text with its lines indented. -/
  | indentLines (spaces : Int)
  deriving DecidableEq, Repr

/-- The text that a filter makes of a text that may be missing. The number of spaces is settled
before the text is asked for. -/
def Filter.apply (q : Char) (subject : Except Problem Text) : Filter → Except Problem Text
  | .quote => do return Text.literal q (← subject)
  | .docComment => do return Text.docComment (← subject)
  | .indentLines n => do
    let spaces ← (spacesOfInt n).mapError .notSpaces
    return Text.indentLines spaces (← subject)

/-- The text behind filters. Only the first of them is given a text that may be missing. -/
def Filter.applyAll (q : Char) (subject : Except Problem Text) (filters : List Filter) :
    Except Problem Text := do
  (← filters.foldlM (fun subject f => do return .ok (← f.apply q subject)) subject)

/-- A part of a template. -/
inductive Piece where
  | text (s : String)
  | expression (name : Text) (filters : List Filter)
  /-- Double braces with no name in front of what is given. -/
  | gap (before : String)
  deriving DecidableEq, Repr

/-- The number of spaces that `indent_lines` uses where none is given. -/
def usualSpaces : Int := 4

/-- A sign of a number, or a blank between signs. -/
def isSign (c : Char) : Bool :=
  c = '+' || c = '-' || Text.isBlank c

/-- The base that a letter behind a zero stands for. -/
def baseOf? (c : Char) : Option Nat :=
  match c.toLower with
  | 'x' => some 16
  | 'o' => some 8
  | 'b' => some 2
  | _ => none

/-- The number that digits of a base write, underscores aside. -/
def numberIn? (base : Nat) (digits : List Char) : Option Nat :=
  (digits.filter (· ≠ '_')).foldlM (fun n c => do
    let d ← Text.hexValue? c
    if d < base then some (n * base + d) else none) 0

/-- The number that a numeral writes : in ten digits, or in those of the base that it names. -/
def numeral? (cs : List Char) : Option Nat :=
  match cs with
  | [] => none
  | '0' :: c :: digits =>
    match baseOf? c with
    | some base => numberIn? base digits
    | none => numberIn? 10 cs
  | _ => numberIn? 10 cs

/-- A whole number behind signs, each minus turning it into its negative. -/
def number? (cs : List Char) : Option Int :=
  let signs := cs.takeWhile isSign
  (numeral? (cs.dropWhile isSign)).map fun n =>
    if signs.count '-' % 2 = 1 then -(n : Int) else n

/-- The string of characters without the blanks at its ends. -/
def trimmed (cs : List Char) : String :=
  let front := cs.dropWhile Text.isBlank
  String.ofList (front.reverse.dropWhile Text.isBlank).reverse

/-- The filter that is named by characters. -/
def Filter.ofChars? (cs : List Char) : Option Filter :=
  let inside := (cs.dropWhile (· ≠ '(')).drop 1
  match trimmed (cs.takeWhile (· ≠ '(')), trimmed (inside.takeWhile (· ≠ ')')) with
  | "quote", "" => some .quote
  | "doc_comment", "" => some .docComment
  | "indent_lines", "" => some (.indentLines usualSpaces)
  | "indent_lines", n => (number? n.toList).map .indentLines
  | _, _ => none

/-- A word that is no name : nothing at all, or the sign of negation. -/
def isNoName (word : String) : Bool :=
  word = "" || word = "not"

/-- The expression that characters between double braces write. -/
def Piece.ofExpression (cs : List Char) : Piece :=
  match Text.split '|' cs with
  | [] => .gap "end of print statement"
  | name :: filters =>
    if isNoName (trimmed name) then
      .gap (if filters.isEmpty then "end of print statement" else "|")
    else .expression (trimmed name) (filters.filterMap Filter.ofChars?)

/-- A character in front of the pieces that follow it. -/
def consText (c : Char) : List Piece → List Piece
  | .text s :: ps => .text (String.ofList (c :: s.toList)) :: ps
  | ps => .text (String.singleton c) :: ps

mutual

/-- The pieces of a template from a place outside double braces on. -/
def piecesOutside : List Char → List Piece
  | '\x7b' :: '\x7b' :: cs => piecesInside [] cs
  | c :: cs => consText c (piecesOutside cs)
  | [] => []

/-- The pieces from a place inside double braces on, what stands before it in reverse. -/
def piecesInside (before : List Char) : List Char → List Piece
  | '\x7d' :: '\x7d' :: cs => Piece.ofExpression before.reverse :: piecesOutside cs
  | c :: cs => piecesInside (c :: before) cs
  | [] => [Piece.ofExpression before.reverse]

end

/-- The pieces of a template; its line ends count as line feeds. -/
def pieces (source : String) : List Piece :=
  piecesOutside (FileTree.unixLines source.toList)

/-- Texts by name. -/
abbrev Texts := Entries Text Text

/-- The names that have a text in every template. -/
def constants : Texts :=
  [("true", "True"), ("True", "True"), ("false", "False"), ("False", "False"),
   ("none", "None"), ("None", "None")]

/-- The text of a template itself, by its name if it has one. -/
def selfText (name : Option String) : Text :=
  "<TemplateReference " ++ (match name with
    | some name => Text.quoted name
    | none => "None") ++ ">"

/-- The name of the template itself. -/
def selfName : Text := "self"

/-- The names that have a text in every template that is not given another one. -/
def globals : Texts :=
  [("range", "<class 'range'>"), ("dict", "<class 'dict'>"),
   ("cycler", "<class 'jinja2.utils.Cycler'>"), ("joiner", "<class 'jinja2.utils.Joiner'>"),
   ("namespace", "<class 'jinja2.utils.Namespace'>")]

/-- The names that pieces look up, each once : that of the template itself before the others,
which follow in the order in which they come up. -/
def lookedUp (ps : List Piece) : List Text :=
  let names := (ps.filterMap fun
    | .expression name _ => if Entries.has constants name then none else some name
    | _ => none).eraseDups
  names.filter (· = selfName) ++ names.filter (· ≠ selfName)

/-- The spelling whose text a name has : the last of the compatible ones. -/
def spelling (names : List Text) (name : Text) : Text :=
  (names.reverse.find? fun n => Text.decomposed n = Text.decomposed name).getD name

/-- Where the texts of names come from. -/
structure Scope where
  /-- The name of the template, if it has one. -/
  template : Option String
  /-- The names that the template looks up. -/
  names : List Text
  /-- The texts that are given. -/
  given : Texts

/-- The text of a name. The name of the template itself is never without one. -/
def Scope.text (s : Scope) (name : Text) : Except Problem Text :=
  match Entries.get? constants name with
  | some t => .ok t
  | none =>
    let spelled := spelling s.names name
    if spelled = selfName then .ok (selfText s.template)
    else match Entries.get? (s.given ++ globals) spelled with
      | some t => .ok t
      | none => if name = selfName then .ok "missing" else .error (.undefined name)

/-- The text of a piece. -/
def Piece.render (q : Char) (s : Scope) : Piece → Except Problem Text
  | .text t => .ok t
  | .expression name filters => Filter.applyAll q (s.text name) filters
  | .gap before => .error (.noExpression before)

/-- The problem of a piece that shows before anything is filled in. -/
def Piece.flaw? : Piece → Option Problem
  | .gap before => some (.noExpression before)
  | _ => none

/-- The pieces of a template that has no flaw. -/
def parse (source : String) : Except Problem (List Piece) :=
  match (pieces source).findSome? Piece.flaw? with
  | some problem => .error problem
  | none => .ok (pieces source)

/-- A template filled in from what is given, which is looked at once the template has no flaw. -/
def render (q : Char) (template : Option String) (source : String)
    (given : Except Problem Texts) : Except Problem Text := do
  let ps ← parse source
  let scope : Scope := { template, names := lookedUp ps, given := ← given }
  return (← ps.mapM (Piece.render q scope)).flatten

end DtoPress.Template
