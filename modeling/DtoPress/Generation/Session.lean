import DtoPress.Generation.Check
import DtoPress.Generation.Emission
import DtoPress.Generation.Target

/-!
# Sessions

A session is a generator at work in a workspace. `Session.emit` carries out one emission :
templates are looked up, the file is written and then noted. `Session.emitAll` stops at the
first emission that fails, and what was written before stays. `Session.generateCode` generates
a whole model; a template that cannot be rendered is a result of its own, any other failure
ends the run.
-/

namespace DtoPress

/-- Why an emission was not carried out. -/
inductive GenerationError where
  | emission (e : EmissionError)
  | output (e : OutputError)

/-- The wording of an emission that has no text. -/
def EmissionError.message : EmissionError → Text
  | .template e => e.message
  | .unknownIndex kind => "Unknown index kind: " ++ kind.text

/-- The wording of an emission that was not carried out. -/
def GenerationError.message : GenerationError → Text
  | .emission e => e.message
  | .output e => e.message

/-- A generator at work. -/
structure Session where
  generator : Generator
  workspace : Workspace

/-- What is said about a finished run. -/
structure Metadata where
  language : String
  extension : String
  entityCount : Nat
  enumCount : Nat
  fileCount : Nat

/-- The metadata by name. -/
def Metadata.fields (m : Metadata) : Entries Text Value :=
  [("language", .str m.language), ("file_extension", .str m.extension),
   ("entity_count", .int m.entityCount), ("enum_count", .int m.enumCount),
   ("file_count", .int m.fileCount)]

/-- How a run ended that was not broken off. -/
inductive GenerationResult where
  | done (files warnings : List Text) (metadata : Metadata)
  | failed (e : Template.Error)

/-- The wording of a failed run. -/
def GenerationResult.failureMessage (e : Template.Error) : Text :=
  "Code generation failed: " ++ e.message

namespace Session

/-- The session after templates have been looked up by name. -/
def lookUp (s : Session) (names : List String) : Session :=
  { s with generator := { s.generator with engine := s.generator.engine.lookUpAll names } }

/-- The session with a record more in its log. -/
def note (s : Session) (level : Level) (message : Text) : Session :=
  { s with workspace := s.workspace.note level message }

/-- A draft written and then noted : what the session becomes, and why it failed. -/
def write (s : Session) (d : Draft) : Session × Option (Trouble GenerationError) :=
  match s.workspace.write d.path d.text with
  | (w, some e) => ({ s with workspace := w }, some (e.map .output))
  | (w, none) => ({ s with workspace := w.noteAll d.notes }, none)

/-- An emission carried out : what the session becomes, and why it failed. -/
def emit (s : Session) (e : Emission) : Session × Option (Trouble GenerationError) :=
  match e.draft with
  | .ok draft => (s.lookUp e.lookUps).write draft
  | .error trouble => (s.lookUp e.lookUps, some (trouble.map .emission))

/-- Emissions carried out up to the first that fails. -/
def emitAll (s : Session) : List Emission → Session × Option (Trouble GenerationError)
  | [] => (s, none)
  | e :: es =>
    match s.emit e with
    | (after, none) => after.emitAll es
    | (after, some trouble) => (after, some trouble)

/-- All files of a model. -/
def generate (s : Session) (m : Model) : Session × Option (Trouble GenerationError) :=
  s.emitAll (s.generator.plan m)

/-- The record of a finished run. -/
def finished (m : Metadata) : String :=
  s!"Generated {m.fileCount} files for {m.entityCount} entities and {m.enumCount} enums"

/-- A finished run recorded, with its result. -/
def report (s : Session) (m : Model) (warnings : List Text) :
    Session × Except (Trouble GenerationError) GenerationResult :=
  match s.workspace.target.written with
  | .error f => (s, .error (.fault f))
  | .ok files =>
    let metadata : Metadata :=
      { language := s.generator.kind.language, extension := s.generator.kind.extension
        entityCount := m.entities.length, enumCount := m.enums.length
        fileCount := files.length }
    (s.note .info (finished metadata), .ok (.done files warnings metadata))

/-- All files of a model, with its warnings in the log and a result. -/
def generateCode (s : Session) (m : Model) :
    Session × Except (Trouble GenerationError) GenerationResult :=
  match m.warnings with
  | .error f => (s, .error (.fault f))
  | .ok warnings =>
    let s := warnings.foldl (fun s w => s.note .warning w) s
    match s.generate m with
    | (after, none) => after.report m warnings
    | (after, some (.cause (.emission (.template e)))) =>
      (after.note .error (GenerationResult.failureMessage e), .ok (.failed e))
    | (after, some trouble) => (after, .error trouble)

end Session

end DtoPress
