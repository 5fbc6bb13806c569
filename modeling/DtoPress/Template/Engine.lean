import DtoPress.Template.Description

/-!
# Template engines

An engine finds a template by its name, among the templates added to it before the files of its
template directory, and keeps what it found. What was kept is used again as long as the library
that fills templates in takes it to be up to date. The library is a part of the engine : a rendering
comes to a text or a problem, and may look further templates up on its way. `Library.braces` is
the one at hand. It fills in the expressions that a source has between double braces.
-/

namespace DtoPress.Template

/-- The built-in templates. -/
inductive BuiltIn where
  | model
  | index
  | enum
  | helpers
  | decorators
  deriving DecidableEq, Repr

namespace BuiltIn

/-- The file name of a built-in template. -/
def fileName : BuiltIn → String
  | .model => "model.ts.j2"
  | .index => "index.ts.j2"
  | .enum => "enum.ts.j2"
  | .helpers => "helpers.ts.j2"
  | .decorators => "decorators.ts.j2"

/-- The built-in template that a name leads to : empty parts and dots of the name do not
count, and a double dot leads nowhere. -/
def ofName? (name : String) : Option BuiltIn :=
  let parts := (Text.split '/' name.toList).map String.ofList
  if parts.contains ".." then none
  else match parts.filter fun p => p != "" && p != "." with
    | [file] => [BuiltIn.model, .index, .enum, .helpers, .decorators].find? (·.fileName == file)
    | _ => none

end BuiltIn

/-- A file of a template directory. -/
inductive File where
  | builtIn (b : BuiltIn)
  | source (s : String)
  deriving DecidableEq, Repr

/-- The files of the directory with the built-in templates. -/
def BuiltIn.file? (name : String) : Option File :=
  (BuiltIn.ofName? name).map .builtIn

/-- The files where there is no template directory. -/
def File.none (_ : String) : Option File := Option.none

/-- A template that was found : a file, or a source that was added. -/
inductive Found where
  | file (f : File)
  | added (source : String)
  deriving DecidableEq, Repr

/-- What it takes to fill in a template. It comes to a text or a problem in the end, and before
that it may look templates up and go on with what is found. -/
inductive Rendering where
  | done (result : Except Problem Text)
  | lookUp (name : String) (next : Option Found → Rendering)

namespace Rendering

/-- What a rendering comes to where `find?` finds templates. -/
def result (find? : String → Option Found) : Rendering → Except Problem Text
  | .done result => result
  | .lookUp name next => (next (find? name)).result find?

/-- The names that a rendering looks up where `find?` finds templates, in order. -/
def lookUps (find? : String → Option Found) : Rendering → List String
  | .done _ => []
  | .lookUp name next => name :: (next (find? name)).lookUps find?

end Rendering

/-- A library that fills templates in. -/
structure Library where
  /-- What was kept under a name is up to date where that source, if any, is added under it. -/
  upToDate : Found → Option String → Bool
  /-- A source filled in from what is given, under its name if it has one, with filters that
  write literals in the quote character. -/
  fill : Char → Option String → String → Except Problem Context → Rendering

/-- The library that fills in expressions between double braces. A file is always up to date, a
source as long as it is the one that is added. -/
def Library.braces : Library where
  upToDate
    | .file _, _ => true
    | .added source, registered => registered == some source
  fill q name source given := .done (render q name source (given.map (·.texts)))

/-- A template that cannot be rendered. -/
structure Error where
  /-- What the template is called. -/
  template : String
  problem : Problem

/-- The wording of a template error. -/
def Error.message (e : Error) : Text :=
  s!"Failed to render {e.template}: " ++ e.problem.message e.template

/-- The templates at hand. -/
structure Engine where
  /-- The quote character of string literals. -/
  quote : Char
  /-- The files of the template directory by name. -/
  files : String → Option File
  library : Library := .braces
  /-- Added templates by name. -/
  added : Entries String String := []
  /-- What was found under the names that have been looked up. -/
  cached : Entries String Found := []

namespace Engine

/-- The quote character for a quote style. -/
def quoteFor (style : Value) : Char :=
  if style.equals (.str "single") then Text.singleQuote else Text.doubleQuote

/-- A new engine. -/
def ofStyle (style : Value) (files : String → Option File) : Engine :=
  { quote := quoteFor style, files }

/-- A template added under a name. -/
def add (e : Engine) (name source : String) : Engine :=
  { e with added := e.added.put name source }

/-- The template that is loaded for a name : the added one before the file. -/
def load? (e : Engine) (name : String) : Option Found :=
  match e.added.get? name with
  | some source => some (.added source)
  | none => (e.files name).map .file

/-- The template of a name : what was kept under it as long as that is up to date. -/
def find? (e : Engine) (name : String) : Option Found :=
  match e.cached.get? name with
  | some found =>
    if e.library.upToDate found (e.added.get? name) then some found else e.load? name
  | none => e.load? name

/-- The engine after a name has been looked up. -/
def lookUp (e : Engine) (name : String) : Engine :=
  match e.find? name with
  | some found => { e with cached := e.cached.put name found }
  | none => e

/-- The engine after names have been looked up in order. -/
def lookUpAll (e : Engine) (names : List String) : Engine :=
  names.foldl lookUp e

/-- There is a template of the name. -/
def hasTemplate (e : Engine) (name : String) : Bool :=
  (e.find? name).isSome

/-- The rendering of the template of a name. A built-in one makes what `builtIn` says, any other
is filled in from what is given. -/
def rendering (e : Engine) (name : String) (builtIn : BuiltIn → Except Problem Text)
    (given : Except Problem Context) : Rendering :=
  .lookUp name fun
    | some (.file (.builtIn b)) => .done (builtIn b)
    | some (.file (.source source)) => e.library.fill e.quote (some name) source given
    | some (.added source) => e.library.fill e.quote (some name) source given
    | none => .done (.error .notFound)

/-- What is called a template that has no name. -/
def namelessTemplate : String := "template string"

/-- The text of a rendering. A look-up does not change what is found under any name, so the
engine as it is at the start finds all that the rendering looks up. -/
def text (e : Engine) (name : Option String) (r : Rendering) : Except Error Text :=
  (r.result e.find?).mapError fun problem => ⟨name.getD namelessTemplate, problem⟩

/-- The names that a rendering looks up. -/
def lookedUp (e : Engine) (r : Rendering) : List String :=
  r.lookUps e.find?

end Engine

end DtoPress.Template
