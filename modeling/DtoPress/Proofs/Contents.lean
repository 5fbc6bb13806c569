import DtoPress.Proofs.Encoding
import DtoPress.Proofs.LookUps

/-!
# Files with other contents

Of the text that it writes a run asks but one thing, which is whether the text has bytes. So if all
texts are rewritten by a map that keeps which of them do (`Text.KeepsBytes`), it makes no difference
whether that is done before they are written or to the files behind them
(`Workspace.write_mapTexts`). Two runs whose emissions are the same once their texts are rewritten
therefore end alike and leave the same files once these are rewritten
(`Session.generateCode_mapTexts`).
-/

set_option linter.unusedSectionVars false

namespace DtoPress

/-! ## Rewriting -/

/-- The rewriting keeps the empty text and which texts have bytes. -/
structure Text.KeepsBytes (f : Text → Text) : Prop where
  nil : f [] = []
  isWhole : ∀ t, (f t).isWhole = t.isWhole

/-- The entries with their values rewritten. -/
def Entries.mapValues {κ ν ν' : Type} (f : ν → ν') (entries : Entries κ ν) : Entries κ ν' :=
  entries.map fun e => (e.1, f e.2)

/-- The content with its text rewritten. -/
def Content.mapText (f : Text → Text) : Content → Content
  | .text s => .text (((f s).string?).getD "")
  | .bytes data => .bytes data

/-- The node with the text of its file rewritten. -/
def Node.mapText (f : Text → Text) : Node → Node
  | .directory => .directory
  | .file content => .file (content.mapText f)

/-- The operating system with the texts rewritten that files are left with. -/
def System.mapTexts (f : Text → Text) (s : System) : System :=
  { s with interrupted := Entries.mapValues (Prod.map id (Content.mapText f)) s.interrupted }

/-- The tree with the texts of its files rewritten. -/
def FileTree.mapTexts (f : Text → Text) (t : FileTree) : FileTree where
  nodes := Entries.mapValues (Node.mapText f) t.nodes
  system := t.system.mapTexts f

/-- The target with the texts of its files rewritten. -/
def Target.mapTexts (f : Text → Text) : Target → Target
  | .buffer files => .buffer (Entries.mapValues f files)
  | .directory root paths => .directory root paths
  | .interface => .interface

/-- The workspace with the texts of its files rewritten. -/
def Workspace.mapTexts (f : Text → Text) (w : Workspace) : Workspace :=
  { w with tree := w.tree.mapTexts f, target := w.target.mapTexts f }

/-- The draft with its text rewritten. -/
def Draft.mapText (f : Text → Text) (d : Draft) : Draft :=
  { d with text := f d.text }

/-- The emission with its text rewritten. -/
def Emission.mapText (f : Text → Text) (e : Emission) : Emission :=
  { e with draft := e.draft.map (Draft.mapText f) }

/-- Emissions that are the same once their texts are rewritten. -/
def Emission.Alike (f : Text → Text) (e e' : Emission) : Prop :=
  e.mapText f = e'.mapText f

/-! ## Entries -/

namespace Entries

variable {κ ν ν' : Type} [BEq κ] (f : ν → ν')

theorem keys_mapValues (entries : Entries κ ν) : (mapValues f entries).keys = entries.keys :=
  List.map_map

theorem get?_mapValues (key : κ) : ∀ entries : Entries κ ν,
    get? (mapValues f entries) key = (get? entries key).map f
  | [] => rfl
  | (k, v) :: rest => by
    have ih : get? (mapValues f rest) key = (get? rest key).map f := get?_mapValues key rest
    simp only [mapValues, List.map_cons, get?] at ih ⊢
    split
    · rfl
    · exact ih

theorem mapValues_put (key : κ) (value : ν) : ∀ entries : Entries κ ν,
    mapValues f (put entries key value) = put (mapValues f entries) key (f value)
  | [] => rfl
  | (k, v) :: rest => by
    have ih : mapValues f (put rest key value) = put (mapValues f rest) key (f value) :=
      mapValues_put key value rest
    simp only [mapValues, List.map_cons, put] at ih ⊢
    split
    · rfl
    · rw [List.map_cons, ih]

variable {f}

theorem forall₂_of_mapValues : ∀ {entries entries' : Entries κ ν},
    mapValues f entries = mapValues f entries' →
      List.Forall₂ (fun e e' => e.1 = e'.1 ∧ f e.2 = f e'.2) entries entries'
  | [], [], _ => .nil
  | _ :: _, _ :: _, h => by
    obtain ⟨hfirst, hrest⟩ := List.cons.inj h
    exact .cons (Prod.mk.inj hfirst) (forall₂_of_mapValues hrest)

end Entries

/-! ## Trees -/

namespace FileTree

variable {f : Text → Text} {t : FileTree}

theorem node?_mapTexts (loc : Location) :
    (t.mapTexts f).node? loc = (t.node? loc).map (Node.mapText f) := by
  unfold node?
  split
  · rfl
  · exact Entries.get?_mapValues _ loc t.nodes

theorem mapTexts_put (loc : Location) (node : Node) :
    (t.put loc node).mapTexts f = (t.mapTexts f).put loc (node.mapText f) := by
  rw [mapTexts, put, put, Entries.mapValues_put]
  rfl

theorem map_eq_directory {node : Option Node} :
    node.map (Node.mapText f) = some .directory ↔ node = some .directory := by
  match node with
  | none => simp
  | some .directory => simp [Node.mapText]
  | some (.file content) => simp [Node.mapText]

theorem step_mapTexts (loc : Location) (part : Text) :
    (t.mapTexts f).step loc part = t.step loc part := by
  unfold step
  show (t.system.follow loc >>= _) = (t.system.follow loc >>= _)
  cases t.system.follow loc with
  | error e => rfl
  | ok dir =>
    simp only [bind_ok, node?_mapTexts]
    cases t.node? dir with
    | none => rfl
    | some node => cases node <;> rfl

theorem locate_mapTexts (p : Path) : (t.mapTexts f).locate p = t.locate p := by
  have hstep : (t.mapTexts f).step = t.step := funext₂ step_mapTexts
  rw [locate, hstep, locate]

theorem landing_mapTexts (p : Path) : (t.mapTexts f).landing p = t.landing p := by
  rw [landing, locate_mapTexts, landing]
  rfl

theorem isDirectory_mapTexts (p : Path) : (t.mapTexts f).isDirectory p = t.isDirectory p := by
  unfold isDirectory status
  rw [landing_mapTexts]
  cases t.landing p with
  | error e => rfl
  | ok loc =>
    simp only [bind_ok, node?_mapTexts]
    cases t.node? loc with
    | none => rfl
    | some node => cases node <;> rfl

theorem makeDirectory_mapTexts (p : Path) :
    (t.mapTexts f).makeDirectory p = (t.makeDirectory p).map (mapTexts f) := by
  unfold makeDirectory
  rw [locate_mapTexts]
  cases t.locate p with
  | error e => rfl
  | ok loc =>
    simp only [node?_mapTexts, Option.isSome_map]
    have hlinks : (t.mapTexts f).system.links = t.system.links := rfl
    have hallow : (t.mapTexts f).system.allow loc .write = t.system.allow loc .write := rfl
    rw [hlinks, hallow]
    split
    · rfl
    · cases t.system.allow loc .write with
      | error e => rfl
      | ok u => exact congrArg Except.ok (mapTexts_put loc .directory).symm

theorem ensureDirectory_mapTexts (p : Path) :
    (t.mapTexts f).ensureDirectory p = (t.ensureDirectory p).map (mapTexts f) := by
  unfold ensureDirectory
  rw [makeDirectory_mapTexts, isDirectory_mapTexts]
  cases t.makeDirectory p with
  | ok after => rfl
  | error e =>
    simp only [Except.map]
    split <;> rfl

theorem finish_mapTexts (p : Path) : makeDirectoriesFrom.finish (t.mapTexts f) p =
    (makeDirectoriesFrom.finish t p).map (mapTexts f) id := by
  unfold makeDirectoriesFrom.finish
  rw [ensureDirectory_mapTexts]
  cases t.ensureDirectory p <;> rfl

theorem makeDirectoriesFrom_mapTexts (root : Text) : ∀ parts : List Text,
    (t.mapTexts f).makeDirectoriesFrom root parts =
      (t.makeDirectoriesFrom root parts).map (mapTexts f) id
  | [] => finish_mapTexts _
  | part :: above => by
    have ih := makeDirectoriesFrom_mapTexts root above
    unfold makeDirectoriesFrom
    rw [ensureDirectory_mapTexts, ih]
    cases t.ensureDirectory ⟨root, (part :: above).reverse⟩ with
    | ok after => rfl
    | error e =>
      simp only [Except.map]
      split
      · cases t.makeDirectoriesFrom root above with
        | mk after refusal =>
          cases refusal with
          | some e => rfl
          | none => exact finish_mapTexts _
      · rfl

theorem makeDirectories_mapTexts (p : Path) :
    (t.mapTexts f).makeDirectories p = (t.makeDirectories p).map (mapTexts f) id :=
  makeDirectoriesFrom_mapTexts p.root p.parts.reverse

theorem openForWriting_mapTexts (p : Path) :
    (t.mapTexts f).openForWriting p = t.openForWriting p := by
  unfold openForWriting
  rw [landing_mapTexts]
  simp only [node?_mapTexts, map_eq_directory, ne_eq]
  rfl

theorem writeFile_mapTexts (p : Path) (content : Content) :
    (t.mapTexts f).writeFile p (content.mapText f) =
      (t.writeFile p content).map (mapTexts f) id := by
  unfold writeFile
  rw [openForWriting_mapTexts]
  cases t.openForWriting p with
  | error e => rfl
  | ok loc =>
    have hinterrupted : Entries.get? (t.mapTexts f).system.interrupted loc =
        (Entries.get? t.system.interrupted loc).map (Prod.map id (Content.mapText f)) :=
      Entries.get?_mapValues _ loc _
    simp only [hinterrupted]
    cases Entries.get? t.system.interrupted loc with
    | none => exact Prod.ext (mapTexts_put loc (.file content)).symm rfl
    | some left => exact Prod.ext (mapTexts_put loc (.file left.2)).symm rfl

/-- What is written of a text without bytes is the empty text. -/
theorem writePieces_mapTexts (hf : Text.KeepsBytes f) (p : Path) (text : Text) :
    (t.mapTexts f).writePieces p [f text] = (t.writePieces p [text]).map (mapTexts f) id := by
  have hcontent : ∃ s s' whole, encodable [text] = (s, whole) ∧ encodable [f text] = (s', whole) ∧
      (Content.text s).mapText f = .text s' := by
    cases hstring : text.string? with
    | some s =>
      obtain rfl := Text.eq_of_string? hstring
      obtain ⟨s', hs'⟩ := Text.exists_string? (t := f s) (by rw [hf.isWhole, Text.isWhole_ofString])
      refine ⟨s, s', true, ?_, ?_, ?_⟩
      · simp [encodable, hstring]
      · simp [encodable, hs']
      · rw [Content.mapText, hs']
        rfl
    | none =>
      have hnone : (f text).string? = none := by
        cases hs' : (f text).string? with
        | none => rfl
        | some s' =>
          have hwhole : text.isWhole = true := by
            rw [← hf.isWhole, Text.eq_of_string? hs', Text.isWhole_ofString]
          obtain ⟨s, hs⟩ := Text.exists_string? hwhole
          rw [hstring] at hs
          cases hs
      refine ⟨"", "", false, by rw [encodable, hstring], by rw [encodable, hnone], ?_⟩
      have hempty : f (Text.ofString "") = [] := hf.nil
      rw [Content.mapText, hempty]
      rfl
  obtain ⟨s, s', whole, htext, hrewritten, hs⟩ := hcontent
  rw [writePieces, writePieces, htext, hrewritten]
  simp only [← hs, writeFile_mapTexts]
  match t.writeFile p (.text s) with
  | (after, none) => rfl
  | (after, some e) => rfl

end FileTree

/-! ## Targets -/

namespace Target

variable (f : Text → Text)

theorem written_mapTexts (target : Target) : (target.mapTexts f).written = target.written := by
  cases target with
  | buffer files => exact congrArg Except.ok (Entries.keys_mapValues f files)
  | directory root paths => rfl
  | interface => rfl

theorem files_mapTexts (target : Target) :
    (target.mapTexts f).files = Entries.mapValues f target.files := by
  cases target <;> rfl

end Target

/-! ## Writes -/

namespace Workspace

variable {f : Text → Text}

/-- A rewritten text over rewritten files is written as the text is over the files. -/
theorem write_mapTexts (hf : Text.KeepsBytes f) (w : Workspace) (path text : Text) :
    (w.mapTexts f).write path (f text) = (w.write path text).map (mapTexts f) id := by
  obtain ⟨tree, target, log⟩ := w
  cases target with
  | interface => rfl
  | buffer files =>
    simp only [write, mapTexts, Target.mapTexts, ← Entries.mapValues_put]
    rfl
  | directory root paths =>
    simp only [write, mapTexts, Target.mapTexts, writeBelow, FileTree.makeDirectories_mapTexts]
    cases (root.join (.ofText path)).parent.fault? with
    | some f => rfl
    | none =>
      cases tree.makeDirectories (root.join (.ofText path)).parent with
      | mk made refusal =>
        cases refusal with
        | some e => rfl
        | none =>
          simp only [Prod.map, id]
          cases (root.join (.ofText path)).fault? with
          | some f => rfl
          | none =>
            simp only [FileTree.writePieces_mapTexts hf]
            cases made.writePieces (root.join (.ofText path)) [text] with
            | mk after trouble =>
              cases trouble with
              | none => rfl
              | some trouble => cases trouble <;> rfl

theorem written_of_mapTexts {w w' : Workspace} (h : w.mapTexts f = w'.mapTexts f) :
    w.target.written = w'.target.written := by
  have htargets : w.target.mapTexts f = w'.target.mapTexts f := congrArg Workspace.target h
  rw [← w.target.written_mapTexts f, htargets, w'.target.written_mapTexts f]

theorem mapTexts_noteAll : ∀ (messages : List Text) (w : Workspace),
    (w.noteAll messages).mapTexts f = (w.mapTexts f).noteAll messages
  | [], _ => rfl
  | m :: messages, w => mapTexts_noteAll messages (w.note .debug m)

end Workspace

/-! ## Runs -/

namespace Session

variable {f : Text → Text} {s s' : Session}

/-- Sessions of generators of one class that have the same files once these are rewritten. -/
structure Alike (f : Text → Text) (s s' : Session) : Prop where
  kind : s.generator.kind = s'.generator.kind
  files : s.workspace.mapTexts f = s'.workspace.mapTexts f

namespace Alike

theorem note (h : Alike f s s') (level : Level) (message : Text) :
    Alike f (s.note level message) (s'.note level message) where
  kind := h.kind
  files := congrArg (fun w : Workspace => w.note level message) h.files

theorem foldl_note : ∀ (warnings : List Text) {s s' : Session}, Alike f s s' →
    Alike f (warnings.foldl (fun s w => s.note .warning w) s)
      (warnings.foldl (fun s w => s.note .warning w) s')
  | [], _, _, h => h
  | w :: warnings, _, _, h => foldl_note warnings (h.note .warning w)

theorem lookUp (h : Alike f s s') (names names' : List String) :
    Alike f (s.lookUp names) (s'.lookUp names') where
  kind := h.kind
  files := h.files

/-- Drafts that are the same once rewritten are written or refused alike. -/
theorem write (hf : Text.KeepsBytes f) (h : Alike f s s') {d d' : Draft}
    (hd : d.mapText f = d'.mapText f) :
    Alike f (s.write d).1 (s'.write d').1 ∧ (s.write d).2 = (s'.write d').2 := by
  obtain ⟨hpath, htext, hnotes⟩ := Draft.mk.inj hd
  have hwrite := s.workspace.write_mapTexts hf d.path d.text
  rw [h.files, htext, hpath, s'.workspace.write_mapTexts hf d'.path d'.text] at hwrite
  unfold Session.write
  rw [hpath, hnotes]
  cases hw : s.workspace.write d'.path d.text with
  | mk w trouble =>
    cases hw' : s'.workspace.write d'.path d'.text with
    | mk w' trouble' =>
      rw [hw, hw'] at hwrite
      obtain ⟨hfiles, htrouble⟩ := Prod.mk.inj hwrite
      obtain rfl : trouble = trouble' := htrouble.symm
      cases trouble with
      | some e => exact ⟨⟨h.kind, hfiles.symm⟩, rfl⟩
      | none =>
        refine ⟨⟨h.kind, ?_⟩, rfl⟩
        rw [Workspace.mapTexts_noteAll, Workspace.mapTexts_noteAll, hfiles]

/-- Emissions that are the same once rewritten end alike. -/
theorem emit (hf : Text.KeepsBytes f) (h : Alike f s s') {e e' : Emission}
    (he : e.Alike f e') :
    Alike f (s.emit e).1 (s'.emit e').1 ∧ (s.emit e).2 = (s'.emit e').2 := by
  have hlookUp := h.lookUp e.lookUps e'.lookUps
  have hdraft : e.draft.map (Draft.mapText f) = e'.draft.map (Draft.mapText f) :=
    congrArg Emission.draft he
  unfold Session.emit
  cases hd : e.draft with
  | error trouble =>
    rw [hd] at hdraft
    rw [map_eq_error_iff.1 hdraft.symm]
    exact ⟨hlookUp, rfl⟩
  | ok d =>
    cases hd' : e'.draft with
    | error trouble =>
      rw [hd, hd'] at hdraft
      cases hdraft
    | ok d' =>
      rw [hd, hd'] at hdraft
      exact hlookUp.write hf (Except.ok.inj hdraft)

theorem emitAll (hf : Text.KeepsBytes f) {es es' : List Emission}
    (hes : List.Forall₂ (Emission.Alike f) es es') : ∀ {s s' : Session}, Alike f s s' →
      Alike f (s.emitAll es).1 (s'.emitAll es').1 ∧ (s.emitAll es).2 = (s'.emitAll es').2 := by
  induction hes with
  | nil => exact fun h => ⟨h, rfl⟩
  | @cons e e' es es' he _ ih =>
    intro s s' h
    obtain ⟨hnext, htrouble⟩ := h.emit hf he
    unfold Session.emitAll
    cases hemit : s.emit e with
    | mk next trouble =>
      cases hemit' : s'.emit e' with
      | mk next' trouble' =>
        rw [hemit, hemit'] at hnext htrouble
        obtain rfl : trouble = trouble' := htrouble
        cases trouble with
        | none => exact ih hnext
        | some trouble => exact ⟨hnext, rfl⟩

theorem report (h : Alike f s s') (m : Model) (warnings : List Text) :
    Alike f (s.report m warnings).1 (s'.report m warnings).1 ∧
      (s.report m warnings).2 = (s'.report m warnings).2 := by
  unfold Session.report
  rw [Workspace.written_of_mapTexts h.files, h.kind]
  split
  · exact ⟨h, rfl⟩
  · exact ⟨h.note .info _, rfl⟩

end Alike

/-- Runs of generators of one class whose emissions are the same once rewritten end alike, from
files that are the same once rewritten to such files. -/
theorem generateCode_mapTexts (hf : Text.KeepsBytes f) (h : Alike f s s') (m : Model)
    (hplan : List.Forall₂ (Emission.Alike f) (s.generator.plan m) (s'.generator.plan m)) :
    Alike f (s.generateCode m).1 (s'.generateCode m).1 ∧
      (s.generateCode m).2 = (s'.generateCode m).2 := by
  unfold generateCode
  split
  · exact ⟨h, rfl⟩
  next warnings _ =>
    have hstart := Alike.foldl_note warnings h
    simp only [generate, (foldl_note_sameFiles warnings s).1, (foldl_note_sameFiles warnings s').1]
    generalize warnings.foldl (fun s w => s.note .warning w) s = start at hstart ⊢
    generalize warnings.foldl (fun s w => s.note .warning w) s' = start' at hstart ⊢
    obtain ⟨hlast, htrouble⟩ := Alike.emitAll hf hplan hstart
    cases hrun : start.emitAll (s.generator.plan m) with
    | mk last trouble =>
      cases hrun' : start'.emitAll (s'.generator.plan m) with
      | mk last' trouble' =>
        rw [hrun, hrun'] at hlast htrouble
        obtain rfl : trouble = trouble' := htrouble
        cases trouble with
        | none => exact hlast.report m warnings
        | some trouble =>
          cases trouble with
          | fault f => exact ⟨hlast, rfl⟩
          | cause e =>
            cases e with
            | output e => exact ⟨hlast, rfl⟩
            | emission e =>
              cases e with
              | template e => exact ⟨hlast.note .error _, rfl⟩
              | unknownIndex kind => exact ⟨hlast, rfl⟩

end Session

end DtoPress
