import DtoPress.Entries
import DtoPress.Fault
import DtoPress.Files.Path

/-!
# File trees

The state of the file system as a value : directories, and files with their content, each at
a location, and what the operating system does besides. A location is a path resolved from the
working directory; a double dot above it and the slash of an absolute path stay in front. Some
locations are links to others, and some things are refused whatever stands in the tree : this is
the `System`, which no operation changes. The operations fail as the operating system does :
`OsError.message` words the reason with the path that was asked for.
-/

namespace DtoPress

/-- The reasons for which the operating system refuses. -/
inductive Errno where
  | noEntry
  | inputOutput
  | notPermitted
  | exists_
  | notDirectory
  | isDirectory
  | noSpace
  | readOnly
  | nameTooLong
  | loop
  | overQuota
  deriving DecidableEq, Repr

/-- The number and the wording of a reason. -/
def Errno.message : Errno → Text
  | .noEntry => "[Errno 2] No such file or directory"
  | .inputOutput => "[Errno 5] Input/output error"
  | .notPermitted => "[Errno 13] Permission denied"
  | .exists_ => "[Errno 17] File exists"
  | .notDirectory => "[Errno 20] Not a directory"
  | .isDirectory => "[Errno 21] Is a directory"
  | .noSpace => "[Errno 28] No space left on device"
  | .readOnly => "[Errno 30] Read-only file system"
  | .nameTooLong => "[Errno 36] File name too long"
  | .loop => "[Errno 40] Too many levels of symbolic links"
  | .overQuota => "[Errno 122] Disk quota exceeded"

/-- The reason says that a path leads to nothing. -/
def Errno.meansAbsent : Errno → Bool
  | .noEntry | .notDirectory | .loop => true
  | _ => false

/-- A refusal, with the path that was asked for. A file that is open already is refused without
one. -/
structure OsError where
  errno : Errno
  path : Option Path
  deriving DecidableEq, Repr

/-- The wording of a refusal. -/
def OsError.message (e : OsError) : Text :=
  match e.path with
  | some p => e.errno.message ++ ": " ++ p.quoted
  | none => e.errno.message

/-- The content of a file. -/
inductive Content where
  /-- Text in UTF-8. -/
  | text (s : String)
  /-- Bytes that are no text. -/
  | bytes (data : List UInt8)
  deriving DecidableEq, Repr

/-- The content that consists of some bytes. -/
def Content.ofBytes (data : ByteArray) : Content :=
  match String.fromUTF8? data with
  | some s => .text s
  | none => .bytes data.toList

/-- What stands at a location. -/
inductive Node where
  | directory
  | file (content : Content)
  deriving DecidableEq, Repr

/-- Names from the working directory on, behind double dots for the directories above it, or
behind a slash. -/
abbrev Location := List Text

/-! ## The operating system -/

/-- What is done at a location : passing through a directory, opening a file for reading, and
opening it for writing or making a directory. -/
inductive Access where
  | search
  | read
  | write
  deriving DecidableEq, Repr

/-- What the operating system does whatever stands in the tree. -/
structure System where
  /-- Locations that are links, symbolic or hard, each with the location that it leads to in the
  end. A link that leads to itself leads nowhere. -/
  links : Entries Location Location := []
  /-- What is refused at a location, and why. -/
  refusals : Entries (Location × Access) Errno := []
  /-- Files that can be opened but not be written to their end : why, and what they hold then. -/
  interrupted : Entries Location (Errno × Content) := []

namespace System

/-- Where a location leads. -/
def follow (s : System) (loc : Location) : Except Errno Location :=
  match Entries.get? s.links loc with
  | some target => if target = loc then .error .loop else .ok target
  | none => .ok loc

/-- What is done at a location is not refused. -/
def allow (s : System) (loc : Location) (access : Access) : Except Errno Unit :=
  match Entries.get? s.refusals (loc, access) with
  | some errno => .error errno
  | none => .ok ()

end System

/-- The nodes below and beside the working directory, and the operating system. -/
structure FileTree where
  nodes : Entries Location Node := []
  system : System := {}

namespace FileTree

/-! ## Paths -/

/-- The working directory, the directories above it and the root are always there. -/
def isGiven (loc : Location) : Bool :=
  loc.all (· == "..") || loc == [("/" : Text)]

/-- What stands at a location. -/
def node? (t : FileTree) (loc : Location) : Option Node :=
  if isGiven loc then some .directory else Entries.get? t.nodes loc

/-- A node put at a location. -/
def put (t : FileTree) (loc : Location) (node : Node) : FileTree :=
  { t with nodes := Entries.put t.nodes loc node }

/-- The location one level up. -/
def above (loc : Location) : Location :=
  if loc == [("/" : Text)] then loc
  else if loc.all (· == "..") then loc ++ [(".." : Text)]
  else loc.dropLast

/-- The greatest number of bytes in a name. -/
def maxNameBytes : Nat := 255

/-- The number of bytes from which on a path is too long. -/
def pathLimit : Nat := 4096

/-- One name further, from a directory. -/
def step (t : FileTree) (loc : Location) (part : Text) : Except Errno Location := do
  let dir ← t.system.follow loc
  match t.node? dir with
  | none => throw .noEntry
  | some (.file _) => throw .notDirectory
  | some .directory =>
    t.system.allow dir .search
    if part = ".." then return above dir
    else if maxNameBytes < Path.sizeOf part then throw .nameTooLong
    else return dir ++ [part]

/-- The location that a path names : every part but the last must lead to a directory. -/
def locate (t : FileTree) (p : Path) : Except Errno Location :=
  if pathLimit ≤ Path.sizeOf p.text then .error .nameTooLong
  else p.parts.foldlM t.step (if p.root = "" then [] else [("/" : Text)])

/-- The location that a path leads to. -/
def landing (t : FileTree) (p : Path) : Except Errno Location := do
  t.system.follow (← t.locate p)

/-- What a path leads to. -/
def status (t : FileTree) (p : Path) : Except Errno Node := do
  match t.node? (← t.landing p) with
  | some node => return node
  | none => throw .noEntry

/-- The path leads to a directory. -/
def isDirectory (t : FileTree) (p : Path) : Bool :=
  match t.status p with
  | .ok .directory => true
  | _ => false

/-- Whether a path leads to something. A refusal that is no answer is a fault. -/
def hasPath (t : FileTree) (p : Path) : Except Fault Bool :=
  if p.fault?.isSome then .ok false
  else match t.status p with
    | .ok _ => .ok true
    | .error errno => if errno.meansAbsent then .ok false else .error .system

/-! ## Directories -/

/-- A directory is made at a path. There is none at a link, wherever it leads. -/
def makeDirectory (t : FileTree) (p : Path) : Except OsError FileTree :=
  match t.locate p with
  | .error errno => .error ⟨errno, some p⟩
  | .ok loc =>
    if Entries.has t.system.links loc ∨ (t.node? loc).isSome then .error ⟨.exists_, some p⟩
    else match t.system.allow loc .write with
      | .error errno => .error ⟨errno, some p⟩
      | .ok () => .ok (t.put loc .directory)

/-- A directory is made at a path unless there is one. -/
def ensureDirectory (t : FileTree) (p : Path) : Except OsError FileTree :=
  match t.makeDirectory p with
  | .ok after => .ok after
  | .error e => if e.errno ≠ .noEntry ∧ t.isDirectory p then .ok t else .error e

/-- The directories from the first missing one down to a path are made : what the tree
becomes, and the refusal if there is one. The parts of the path come in reverse. -/
def makeDirectoriesFrom (t : FileTree) (root : Text) :
    List Text → FileTree × Option OsError
  | [] => finish t ⟨root, []⟩
  | part :: above =>
    match t.ensureDirectory ⟨root, (part :: above).reverse⟩ with
    | .ok after => (after, none)
    | .error e =>
      if e.errno = .noEntry then
        match makeDirectoriesFrom t root above with
        | (after, some e) => (after, some e)
        | (after, none) => finish after ⟨root, (part :: above).reverse⟩
      else (t, some e)
where
  /-- The last directory of a path is made. -/
  finish (t : FileTree) (p : Path) : FileTree × Option OsError :=
    match t.ensureDirectory p with
    | .ok after => (after, none)
    | .error e => (t, some e)

/-- The directories down to a path are made. -/
def makeDirectories (t : FileTree) (p : Path) : FileTree × Option OsError :=
  t.makeDirectoriesFrom p.root p.parts.reverse

/-! ## Files -/

/-- The file at a path is opened for writing : where it is. It is no directory, and there is one
for it. -/
def openForWriting (t : FileTree) (p : Path) : Except Errno Location := do
  let loc ← t.landing p
  if t.node? loc = some .directory then throw .isDirectory
  else if t.node? (above loc) ≠ some .directory then throw .noEntry
  else do
    t.system.allow loc .write
    return loc

/-- A content is written to the file at a path : what the tree becomes, and the refusal if there
is one. A file that cannot be opened stays as it is; one that was opened does not. -/
def writeFile (t : FileTree) (p : Path) (content : Content) : FileTree × Option OsError :=
  match t.openForWriting p with
  | .error errno => (t, some ⟨errno, some p⟩)
  | .ok loc =>
    match Entries.get? t.system.interrupted loc with
    | some (errno, left) => (t.put loc (.file left), some ⟨errno, none⟩)
    | none => (t.put loc (.file content), none)

/-- What is written of a text given in pieces : the pieces before the first that has no bytes,
and whether that is all of them. -/
def encodable : List Text → String × Bool
  | [] => ("", true)
  | piece :: rest =>
    match piece.string? with
    | none => ("", false)
    | some s =>
      let (more, whole) := encodable rest
      (s ++ more, whole)

/-- A text given in pieces is written to the file at a path : what the tree becomes, and why not
all of the text was written. -/
def writePieces (t : FileTree) (p : Path) (pieces : List Text) :
    FileTree × Option (Trouble OsError) :=
  let (s, whole) := encodable pieces
  match t.writeFile p (.text s) with
  | (after, some e) => (after, some (.cause e))
  | (after, none) => (after, if whole then none else some (.fault .unencodable))

/-- The file at a path is opened for reading : its content. -/
def openForReading (t : FileTree) (p : Path) : Except Errno Content := do
  let loc ← t.landing p
  match t.node? loc with
  | none => throw .noEntry
  | some node =>
    t.system.allow loc .read
    match node with
    | .directory => throw .isDirectory
    | .file content => return content

/-- The content of the file at a path. -/
def readFile (t : FileTree) (p : Path) : Except OsError Content :=
  (t.openForReading p).mapError fun errno => ⟨errno, some p⟩

/-- A text with every line end written as one line feed. -/
def unixLines : List Char → List Char
  | '\r' :: '\n' :: cs => '\n' :: unixLines cs
  | '\r' :: cs => '\n' :: unixLines cs
  | c :: cs => c :: unixLines cs
  | [] => []

/-- The text of the file at a path, with line feeds at the ends of lines. -/
def readText (t : FileTree) (p : Path) : Except (Trouble OsError) String :=
  match t.readFile p with
  | .error e => .error (.cause e)
  | .ok (.bytes _) => .error (.fault .undecodable)
  | .ok (.text s) => .ok (String.ofList (unixLines s.toList))

/-! ## Trees as a whole -/

/-- The files below the working directory, each with the path to it. -/
def filesBelow (t : FileTree) : List (Text × Content) :=
  t.nodes.filterMap fun (loc, node) =>
    match node with
    | .file content =>
      if loc.head? = some ".." ∨ loc.head? = some "/" then none
      else some (Text.joined "/" loc, content)
    | .directory => none

/-- A changed file put in its place among those sorted by path. -/
def insertChange (change : Text × Content) :
    List (Text × Content) → List (Text × Content)
  | [] => [change]
  | other :: rest =>
    if change.1 < other.1 then change :: other :: rest else other :: insertChange change rest

/-- The files of `after` that are new or differ from those of `before`, sorted by path. -/
def changes (before after : FileTree) : List (Text × Content) :=
  let old := before.filesBelow
  (after.filesBelow.filter fun f => Entries.get? old f.1 != some f.2).foldr insertChange []

/-- A file with its directories, set up whatever was there. -/
def place (t : FileTree) (p : Path) (node : Node) : FileTree :=
  (t.makeDirectories p.parent).1.put p.parts node

end FileTree

end DtoPress
