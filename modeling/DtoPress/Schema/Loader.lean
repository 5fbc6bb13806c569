import DtoPress.Files.Tree
import DtoPress.Json.Reader
import DtoPress.Log
import DtoPress.Schema.Document
import DtoPress.Web.Response
import DtoPress.Web.Url

/-!
# Loading schema documents

A schema document is loaded from a JSON file or from a URL. `loadDocument` takes exactly one
of the two; `loadModel` goes on to the model. Every way to fail has its wording,
`LoadError.message`, and most leave a record in the log, `LoadError.record?`.
-/

namespace DtoPress

/-- Why a document cannot be loaded. -/
inductive LoadError where
  | notFound (path : Path)
  | malformedFile (path : Path) (e : Json.Malformed)
  | unreadable (path : Path) (e : OsError)
  | badUrl (url : Text)
  | malformedBody (url : Text) (message : String)
  | timeout (url : Text)
  | connection (url : Text) (message : String)
  | refused (url : Text) (status : Option Int)
  | request (url : Text) (message : String)
  | noSource
  | twoSources

namespace LoadError

/-- The text of a status that may be unknown. -/
def statusText : Option Int → String
  | some status => toString status
  | none => "?"

/-- The wording of a load error. -/
def message : LoadError → Text
  | notFound p => "File not found: " ++ p.text
  | malformedFile p e => "Invalid JSON in file " ++ p.text ++ ": " ++ e.message
  | unreadable p e => "Error reading file " ++ p.text ++ ": " ++ e.message
  | badUrl url => "Invalid URL: " ++ url
  | malformedBody url m => "Invalid JSON response from URL " ++ url ++ ": " ++ m
  | timeout url => "Request timeout for URL: " ++ url
  | connection url _ => "Connection error for URL: " ++ url
  | refused url status => "HTTP error " ++ statusText status ++ " for URL: " ++ url
  | request url m => "Request error for URL " ++ url ++ ": " ++ m
  | noSource => "Either file_path or url must be provided"
  | twoSources => "Cannot specify both file_path and url"

/-- What a load error leaves in the log. -/
def record? : LoadError → Option Text
  | badUrl url => some ("Invalid URL format: " ++ url)
  | connection url m => some ("Connection error for URL " ++ url ++ ": " ++ m)
  | noSource => none
  | twoSources => none
  | e => some e.message

/-- The load error of a failed transport. -/
def ofTransport (url : Text) : TransportError → LoadError
  | .timeout => timeout url
  | .connection m => connection url m
  | .refused status => refused url status
  | .malformed m => malformedBody url m
  | .other m => request url m

end LoadError

/-- Why a model cannot be loaded. -/
inductive ModelError where
  | load (e : LoadError)
  | schema (e : SchemaError)

/-- The wording of a model error. -/
def ModelError.message : ModelError → Text
  | .load e => e.message
  | .schema e => e.message

/-- A document with the description of where it came from, or the reason why there is none,
and what was logged. -/
abbrev Loaded (ε α : Type) := Except (Trouble ε) (Text × α) × Log

/-- A failed load after what was logged before it. -/
def Loaded.fail {α : Type} (log : Log) (e : LoadError) : Loaded LoadError α :=
  (.error (.cause e), log ++ e.record?.toList.map fun m => ⟨.error, m⟩)

/-- A document loaded from `source`, after what was logged before it. -/
def Loaded.done {α : Type} (log : Log) (source : Text) (a : α) : Loaded LoadError α :=
  (.ok (source, a), log ++ [⟨.info, "Loaded schema from " ++ source⟩])

/-! ## Files -/

/-- The extension of schema files. -/
def schemaExtension : Text := ".json"

/-- The document in a file. -/
def loadFile (t : FileTree) (path : Path) : Loaded LoadError Value :=
  let log : Log := [⟨.debug, "Attempting to load JSON from file: " ++ path.text⟩]
  match t.hasPath path with
  | .error f => (.error (.fault f), log)
  | .ok false => Loaded.fail log (.notFound path)
  | .ok true =>
    let log := if path.extension = schemaExtension then log
      else log ++ [⟨.warning, "File does not have .json extension: " ++ path.text⟩]
    match t.readText path with
    | .error (.fault f) => (.error (.fault f), log)
    | .error (.cause e) => Loaded.fail log (.unreadable path e)
    | .ok s =>
      match Json.read s with
      | .ok document => Loaded.done log path.text document
      | .error (.fault f) => (.error (.fault f), log)
      | .error (.cause e) => Loaded.fail log (.malformedFile path e)

/-! ## URLs -/

/-- The media type of JSON documents. -/
def jsonMediaType : Text := "application/json"

/-- The URL or the media type of a response says that it is JSON. -/
def saysJson (url : Text) (r : Response) : Bool :=
  Value.occursIn jsonMediaType r.mediaType || schemaExtension.isSuffixOf url

/-- The document in a response. -/
def readResponse (log : Log) (url : Text) (r : Response) : Loaded LoadError Value :=
  let log := if saysJson url r then log
    else log ++
      [⟨.warning, "URL " ++ url ++ " does not have JSON content type: " ++ r.mediaType⟩]
  match Json.read r.body with
  | .ok document => Loaded.done log url document
  | .error (.fault f) => (.error (.fault f), log)
  | .error (.cause e) => Loaded.fail log (.malformedBody url e.message)

/-- The URL that a value gives. What counts as false is the empty URL. -/
def Url.ofValue (v : Value) : Except Fault Url :=
  match v with
  | .str t => Url.ofText t
  | v => if v.truthy then .error .noAttribute else .ok ⟨"", ""⟩

/-- The document at a URL, with the reply that a request for it gets. -/
def loadUrl (url : Value) (reply : Except TransportError Response) : Loaded LoadError Value :=
  let log : Log := [⟨.debug, "Attempting to load JSON from URL: " ++ url.text⟩]
  match Url.ofValue url with
  | .error f => (.error (.fault f), log)
  | .ok parsed =>
    if parsed.isComplete then
      match acceptResponse reply with
      | .ok r => readResponse log url.text r
      | .error e => Loaded.fail log (.ofTransport url.text e)
    else Loaded.fail log (.badUrl url.text)

/-! ## Either -/

/-- The document in a file whose path a value gives. -/
def loadFileOf (t : FileTree) (file : Value) : Loaded LoadError Value :=
  match file with
  | .str s => loadFile t (.ofText s)
  | _ => (.error (.fault .wrongType), [])

/-- The document in a file or at a URL, whichever is given. -/
def loadDocument (t : FileTree) (file url : Value) (reply : Except TransportError Response) :
    Loaded LoadError Value :=
  match file.truthy, url.truthy with
  | false, false => Loaded.fail [] .noSource
  | true, true => Loaded.fail [] .twoSources
  | true, false => loadFileOf t file
  | false, true => loadUrl url reply

/-- The model that a file or a URL describes. -/
def loadModel (t : FileTree) (file url : Value) (reply : Except TransportError Response) :
    Loaded ModelError Model :=
  match loadDocument t file url reply with
  | (.error e, log) => (.error (e.map .load), log)
  | (.ok (source, document), log) =>
    match Model.ofDocument document with
    | .error e => (.error (e.map .schema), log)
    | .ok model => (.ok (source, model), log)

end DtoPress
