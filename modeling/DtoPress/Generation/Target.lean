import DtoPress.Files.Tree
import DtoPress.Log

/-!
# Targets

A target takes the files of a run : a buffer keeps them, a directory writes them to the file
tree. `Workspace` is the state that writing changes, which is the tree, the target and the
log; a write that fails may still have made directories.
-/

namespace DtoPress

/-- A file that could not be written. -/
structure OutputError where
  path : Path
  reason : OsError

/-- The wording of an output error. -/
def OutputError.message (e : OutputError) : Text :=
  "Failed to write " ++ e.path.text ++ ": " ++ e.reason.message

/-- Where files go. -/
inductive Target where
  /-- Kept in order of their first write. -/
  | buffer (files : Entries Text Text)
  /-- Written below a directory; the paths written so far, in order of their first write. -/
  | directory (root : Path) (written : List Text)
  /-- Only declared. -/
  | interface

namespace Target

/-- The paths written so far. -/
def written : Target → Except Fault (List Text)
  | .buffer files => .ok files.keys
  | .directory _ paths => .ok paths
  | .interface => .error .unsupported

/-- The files kept by a buffer. -/
def files : Target → Entries Text Text
  | .buffer files => files
  | _ => []

end Target

/-- What writing changes. -/
structure Workspace where
  tree : FileTree
  target : Target
  log : Log := []

namespace Workspace

/-- A record at the end of the log. -/
def note (w : Workspace) (level : Level) (message : Text) : Workspace :=
  { w with log := w.log ++ [⟨level, message⟩] }

/-- Messages at the lowest level. -/
def noteAll (w : Workspace) (messages : List Text) : Workspace :=
  messages.foldl (fun w m => w.note .debug m) w

/-- A path at the end of a list unless it is there. -/
def remember (paths : List Text) (path : Text) : List Text :=
  if paths.contains path then paths else paths ++ [path]

/-- The file at `path` below `root`, with its directories made : what the workspace becomes,
and why it failed. Content that is no text is a fault that comes after the directories, and a
text without bytes leaves an empty file. -/
def writeBelow (w : Workspace) (root : Path) (paths : List Text) (path : Text)
    (content : Option Text) : Workspace × Option (Trouble OutputError) :=
  let full := root.join (.ofText path)
  let failed (w : Workspace) (e : OsError) : Workspace × Option (Trouble OutputError) :=
    let e : OutputError := ⟨full, e⟩
    (w.note .error e.message, some (.cause e))
  match full.parent.fault? with
  | some f => (w, some (.fault f))
  | none =>
    match w.tree.makeDirectories full.parent with
    | (tree, some e) => failed { w with tree } e
    | (tree, none) =>
      let w := { w with tree }
      match content, full.fault? with
      | none, _ => (w, some (.fault .wrongType))
      | some _, some f => (w, some (.fault f))
      | some text, none =>
        match tree.writePieces full [text] with
        | (tree, some (.cause e)) => failed { w with tree } e
        | (tree, some (.fault f)) => ({ w with tree }, some (.fault f))
        | (tree, none) =>
          (({ w with tree, target := .directory root (remember paths path) } : Workspace).note
            .debug ("Wrote " ++ full.text), none)

/-- A file written : what the workspace becomes, and why it failed. -/
def write (w : Workspace) (path text : Text) :
    Workspace × Option (Trouble OutputError) :=
  match w.target with
  | .buffer files =>
    (({ w with target := .buffer (files.put path text) } : Workspace).note .debug
      ("Buffered " ++ path), none)
  | .directory root paths => w.writeBelow root paths path (some text)
  | .interface => (w, some (.fault .unsupported))

end Workspace

end DtoPress
