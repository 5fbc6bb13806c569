import DtoPress.Generation.Session
import DtoPress.Registry
import DtoPress.Schema.Document

/-!
# Runs

From a schema document to its files in one call : `renderDocument` keeps them in a buffer,
`generateDocument` writes them below a directory. The document is read first, then the
generator is made, then the files are written.
-/

namespace DtoPress

/-- Why a run was broken off. -/
inductive RunError where
  | schema (e : SchemaError)
  | registry (e : RegistryError)
  | generation (e : GenerationError)
  /-- A buffered run that failed. -/
  | failed (e : Template.Error)

/-- The wording of a run that was broken off. -/
def RunError.message : RunError → Text
  | .schema e => e.message
  | .registry e => e.message
  | .generation e => e.message
  | .failed e => GenerationResult.failureMessage e

/-- The model of a document and the generator for it, with what was logged. -/
def prepare (r : Registry) (t : FileTree) (document language : Value) (config : ConfigSource) :
    Except (Trouble RunError) (Model × Generator) × Log :=
  match Trouble.widen .schema (Model.ofDocument document) with
  | .error e => (.error e, [])
  | .ok model =>
    let (generator, log) := r.create t language config
    ((Trouble.widen .registry generator).map fun g => (model, g), log)

/-- The files of a document, in the order in which they are first written. -/
def renderDocument (r : Registry) (t : FileTree) (document language : Value)
    (config : ConfigSource) : Except (Trouble RunError) (Entries Text Text) := do
  let (model, generator) ← (prepare r t document language config).1
  let session : Session := { generator, workspace := { tree := t, target := .buffer [] } }
  match session.generateCode model with
  | (after, .ok (.done _ _ _)) => return after.workspace.target.files
  | (_, .ok (.failed e)) => throw (.cause (.failed e))
  | (_, .error e) => throw (e.map .generation)

/-- The directory that a run writes below : the one asked for, or that of the configuration. -/
def outputRoot (asked : Value) (c : Config) : Except Fault Path :=
  Path.ofValue (if asked.truthy then asked else c.outputDir)

/-- The files of a document written below a directory : the result, the file tree after the
run and the log. -/
def generateDocument (r : Registry) (t : FileTree) (document directory language : Value)
    (config : ConfigSource) : Except (Trouble RunError) GenerationResult × FileTree × Log :=
  match prepare r t document language config with
  | (.error e, log) => (.error e, t, log)
  | (.ok (model, generator), log) =>
    match outputRoot directory generator.config with
    | .error f => (.error (.fault f), t, log)
    | .ok root =>
      let session : Session :=
        { generator, workspace := { tree := t, target := .directory root [], log } }
      let (after, result) := session.generateCode model
      (Trouble.widen .generation result, after.workspace.tree, after.workspace.log)

end DtoPress
