import DtoPress.CommandLine.Command

/-!
# The program

`main` runs the command line on the files of the machine. What a run reads and writes is a
`FileTree`, so it is carried out twice : on the files that its arguments name, to learn which
paths it writes, and again on these paths as they are. The changes of the second run are
then made. Documents are not fetched from URLs here : such a request ends as a connection that
failed.
-/

namespace DtoPress.Program

open CommandLine

/-- A text as the machine takes it. -/
def native (t : Text) : String :=
  String.ofList t.toChars

/-- What stands at a path of the machine. -/
def inspect (path : Path) : IO (Option Node) := do
  try
    let data ← IO.FS.readBinFile (native path.text)
    return some (.file (Content.ofBytes data))
  catch
    | .noFileOrDirectory _ _ _ => return none
    | _ => return some .directory

/-- The nodes from the start of a path down to its end, as far as there are any, added to a
tree. -/
def inspectAlong (tree : FileTree) (root : Text) (above : List Text) :
    List Text → IO FileTree
  | [] => return tree
  | part :: rest => do
    let parts := above ++ [part]
    match ← inspect ⟨root, parts⟩ with
    | none => return tree
    | some node =>
      let location := if root = "" then parts else "/" :: parts
      let tree := if FileTree.isGiven location then tree else tree.put location node
      match node with
      | .directory => inspectAlong tree root parts rest
      | .file _ => return tree

/-- The nodes along some paths. -/
def inspectAll (paths : List Path) : IO FileTree :=
  paths.foldlM (fun tree p => inspectAlong tree p.root [] p.parts) {}

/-- The paths of the files that the arguments name. -/
def namedPaths (args : List String) : List Path :=
  match Invocation.ofArguments args with
  | .ok { subcommand := some (.generate q), .. } =>
    [q.schema, q.config].filterMap fun v => (Path.ofValue v).toOption
  | _ => []

/-- The path to a location. -/
def pathTo (loc : Location) : Path :=
  if loc.head? = some "/" then ⟨"/", loc.drop 1⟩ else ⟨"", loc⟩

/-- The nodes of a tree that are new or changed. -/
def changedNodes (before after : FileTree) : List (Path × Node) :=
  (after.nodes.filter fun entry => Entries.get? before.nodes entry.1 != some entry.2).map
    fun entry => (pathTo entry.1, entry.2)

/-- A changed node put in its place on the machine. -/
def apply (change : Path × Node) : IO Unit :=
  match change.2 with
  | .directory => IO.FS.createDirAll (native change.1.text)
  | .file (.text s) => IO.FS.writeFile (native change.1.text) s
  | .file (.bytes data) => IO.FS.writeBinFile (native change.1.text) ⟨data.toArray⟩

/-- A run on a tree. -/
def runOn (tree : FileTree) (args : List String) : Outcome :=
  CommandLine.run
    { registry := .standard, tree, reply := .error (.connection "requests are not supported") }
    args

/-- What a run shows, on the screen and on the error stream. -/
def present (o : Outcome) : IO Unit := do
  for text in o.help.toList do IO.print text
  for message in (o.stopped.bind id).toList do IO.eprintln (native message)
  for record in o.transcript.log do IO.eprintln s!"{record.level.word} {native record.message}"
  for item in o.transcript.shown do
    for text in item.plainLines do IO.println (native text)

end DtoPress.Program

open DtoPress DtoPress.Program in
/-- The program. A fault ends it with exit code one. -/
def main (args : List String) : IO UInt32 := do
  let named := namedPaths args
  let first := runOn (← inspectAll named) args
  let touched := (changedNodes {} first.tree).map (·.1)
  let tree ← inspectAll (named ++ touched)
  let outcome := runOn tree args
  for change in changedNodes tree outcome.tree do apply change
  present outcome
  match outcome.exit with
  | .ok code => return code.toUInt32
  | .error fault =>
    IO.eprintln s!"fault: {fault.description}"
    return 1
