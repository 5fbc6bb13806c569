import DtoPress.Generation.Session
import DtoPress.Proofs.Entries
import Mathlib.Data.List.Forall2

/-!
# The writes of a run

What a run does to files is decided by the texts of its emissions. `Emission.writes` lists the
paths and texts of emissions up to the first that has none, and `Workspace.writeAll` carries
writes out up to the first that fails. `Session.emitAll_eq_writeAll` : a run of emissions
leaves the tree and the target that its writes leave, and fails with the first write that
fails, else with the first emission without a text. A target that is a buffer ends up with
all writes put one after the other (`Workspace.writeAll_buffer`). The log of a session has no
part in any of this (`Session.SameWork.generateCode`), and a whole run does to the files what its
writes do, however it ends (`Session.exists_writeAll_of_generateCode`).
-/

namespace DtoPress

/-! ## Writes -/

namespace Emission

/-- The paths and texts that emissions write, up to the first emission without a text. -/
def writes : List Emission → Entries Text Text
  | [] => []
  | e :: es =>
    match e.draft with
    | .ok d => (d.path, d.text) :: writes es
    | .error _ => []

/-- Why the first emission without a text has none. -/
def failure? : List Emission → Option (Trouble EmissionError)
  | [] => none
  | e :: es =>
    match e.draft with
    | .ok _ => failure? es
    | .error trouble => some trouble

/-- The emission has a text for the file at a path. -/
def Writes (e : Emission) (path : Text) : Prop :=
  ∃ d, e.draft = .ok d ∧ d.path = path

variable {es fs : List Emission} {paths : List Text}

theorem writes_cons_of_ok {e : Emission} {d : Draft} (h : e.draft = .ok d) :
    writes (e :: es) = (d.path, d.text) :: writes es := by
  rw [writes, h]

theorem failure?_cons_of_ok {e : Emission} {d : Draft} (h : e.draft = .ok d) :
    failure? (e :: es) = failure? es := by
  rw [failure?, h]

theorem failure?_eq_none : ∀ {es : List Emission} {paths : List Text},
    List.Forall₂ Writes es paths → failure? es = none
  | _, _, .nil => rfl
  | _, _, .cons ⟨d, hd, _⟩ h => by rw [failure?_cons_of_ok hd, failure?_eq_none h]

theorem keys_writes : ∀ {es : List Emission} {paths : List Text},
    List.Forall₂ Writes es paths → (writes es).keys = paths
  | _, _, .nil => rfl
  | _, _, .cons ⟨d, hd, hpath⟩ h => by
    rw [writes_cons_of_ok hd, Entries.keys_cons, keys_writes h, hpath]

end Emission

/-! ## Carrying writes out -/

namespace Workspace

/-- Two workspaces differ in their logs at most. -/
structure SameFiles (v w : Workspace) : Prop where
  tree : v.tree = w.tree
  target : v.target = w.target

/-- Writes carried out up to the first that fails. -/
def writeAll (w : Workspace) : Entries Text Text → Workspace × Option (Trouble OutputError)
  | [] => (w, none)
  | (path, text) :: rest =>
    match w.write path text with
    | (after, none) => after.writeAll rest
    | (after, some trouble) => (after, some trouble)

variable {u v w : Workspace}

theorem SameFiles.refl (w : Workspace) : w.SameFiles w := ⟨rfl, rfl⟩

theorem SameFiles.trans (h : u.SameFiles v) (h' : v.SameFiles w) : u.SameFiles w :=
  ⟨h.tree.trans h'.tree, h.target.trans h'.target⟩

theorem SameFiles.symm (h : v.SameFiles w) : w.SameFiles v :=
  ⟨h.tree.symm, h.target.symm⟩

theorem note_sameFiles (w : Workspace) (level : Level) (message : Text) :
    (w.note level message).SameFiles w := ⟨rfl, rfl⟩

theorem noteAll_sameFiles : ∀ (messages : List Text) (w : Workspace),
    (w.noteAll messages).SameFiles w
  | [], w => .refl w
  | m :: messages, w => (noteAll_sameFiles messages _).trans (w.note_sameFiles .debug m)

/-- A write takes no notice of the log. -/
theorem write_congr (h : v.SameFiles w) (path text : Text) :
    (v.write path text).1.SameFiles (w.write path text).1 ∧
      (v.write path text).2 = (w.write path text).2 := by
  obtain ⟨tree, target, log⟩ := v
  obtain ⟨tree', target', log'⟩ := w
  obtain ⟨rfl, rfl⟩ : tree = tree' ∧ target = target' := ⟨h.tree, h.target⟩
  cases target with
  | buffer files => exact ⟨⟨rfl, rfl⟩, rfl⟩
  | interface => exact ⟨⟨rfl, rfl⟩, rfl⟩
  | directory root paths =>
    simp only [write, writeBelow]
    split
    · exact ⟨⟨rfl, rfl⟩, rfl⟩
    · split
      · exact ⟨⟨rfl, rfl⟩, rfl⟩
      · split
        · exact ⟨⟨rfl, rfl⟩, rfl⟩
        · exact ⟨⟨rfl, rfl⟩, rfl⟩
        · split <;> exact ⟨⟨rfl, rfl⟩, rfl⟩

theorem writeAll_congr : ∀ {v w : Workspace} (_ : v.SameFiles w) (ws : Entries Text Text),
    (v.writeAll ws).1.SameFiles (w.writeAll ws).1 ∧ (v.writeAll ws).2 = (w.writeAll ws).2
  | _, _, h, [] => ⟨h, rfl⟩
  | v, w, h, (path, text) :: rest => by
    obtain ⟨hfiles, htrouble⟩ := write_congr h path text
    simp only [writeAll]
    cases hv : v.write path text with
    | mk v' r =>
      cases hw : w.write path text with
      | mk w' r' =>
        rw [hv, hw] at hfiles htrouble
        obtain rfl : r = r' := htrouble
        cases r with
        | none => exact writeAll_congr hfiles rest
        | some trouble => exact ⟨hfiles, rfl⟩

/-- A run of writes that succeeds has carried out the first and then the others. -/
theorem writeAll_cons_eq_none {path text : Text} {ws : Entries Text Text}
    (h : w.writeAll ((path, text) :: ws) = (v, none)) :
    ∃ next, w.write path text = (next, none) ∧ next.writeAll ws = (v, none) := by
  rw [writeAll] at h
  cases hwrite : w.write path text with
  | mk next trouble =>
    rw [hwrite] at h
    cases trouble with
    | some trouble => simp at h
    | none => exact ⟨next, rfl, h⟩

/-- A buffer takes all writes and keeps the last text of each path. -/
theorem writeAll_buffer : ∀ (ws files : Entries Text Text) (w : Workspace),
    w.target = .buffer files → (w.writeAll ws).2 = none ∧
      (w.writeAll ws).1.target = .buffer (Entries.putAll files ws) ∧
      (w.writeAll ws).1.tree = w.tree
  | [], _, _, h => ⟨rfl, h, rfl⟩
  | (path, text) :: rest, files, w, h => by
    have hwrite : w.write path text =
        (({ w with target := .buffer (files.put path text) } : Workspace).note .debug
          ("Buffered " ++ path), none) := by
      rw [write, h]
    simp only [writeAll, hwrite]
    exact writeAll_buffer rest _ _ rfl

end Workspace

/-! ## Emissions as writes -/

namespace Session

theorem lookUp_workspace (s : Session) (names : List String) :
    (s.lookUp names).workspace = s.workspace := rfl

/-- An emission with a text does to the files what its write does. -/
theorem emit_of_ok (s : Session) {e : Emission} {d : Draft} (hd : e.draft = .ok d) :
    (s.emit e).1.workspace.SameFiles (s.workspace.write d.path d.text).1 ∧
      (s.emit e).2 = (s.workspace.write d.path d.text).2.map (Trouble.map .output) := by
  simp only [emit, hd, write, lookUp_workspace]
  cases s.workspace.write d.path d.text with
  | mk w r =>
    cases r with
    | none => exact ⟨Workspace.noteAll_sameFiles d.notes w, rfl⟩
    | some trouble => exact ⟨.refl w, rfl⟩

/-- A run of emissions leaves the files that its writes leave. It fails with the first write
that fails, else with the first emission that has no text. -/
theorem emitAll_eq_writeAll : ∀ (es : List Emission) (s : Session),
    (s.emitAll es).1.workspace.SameFiles (s.workspace.writeAll (Emission.writes es)).1 ∧
      (s.emitAll es).2 = ((s.workspace.writeAll (Emission.writes es)).2.map
        (Trouble.map .output)).or ((Emission.failure? es).map (Trouble.map .emission))
  | [], s => ⟨.refl _, rfl⟩
  | e :: es, s => by
    cases hd : e.draft with
    | error trouble =>
      simp only [emitAll, emit, hd, Emission.writes, Emission.failure?, Workspace.writeAll]
      exact ⟨by rw [lookUp_workspace]; exact .refl _, rfl⟩
    | ok d =>
      obtain ⟨hfiles, htrouble⟩ := s.emit_of_ok hd
      rw [Emission.writes_cons_of_ok hd, Emission.failure?_cons_of_ok hd]
      simp only [emitAll, Workspace.writeAll]
      cases hw : s.workspace.write d.path d.text with
      | mk w r =>
        cases he : s.emit e with
        | mk after r' =>
          rw [hw, he] at hfiles htrouble
          obtain rfl : r' = r.map (Trouble.map .output) := htrouble
          cases r with
          | some trouble => exact ⟨hfiles, rfl⟩
          | none =>
            obtain ⟨hrest, hrestTrouble⟩ := emitAll_eq_writeAll es after
            obtain ⟨hcongr, hcongrTrouble⟩ :=
              Workspace.writeAll_congr hfiles (Emission.writes es)
            rw [hcongrTrouble] at hrestTrouble
            exact ⟨hrest.trans hcongr, hrestTrouble⟩

theorem emitAll_append : ∀ (es fs : List Emission) (s : Session), s.emitAll (es ++ fs) =
    match s.emitAll es with
    | (after, none) => after.emitAll fs
    | (after, some trouble) => (after, some trouble)
  | [], fs, s => rfl
  | e :: es, fs, s => by
    rw [List.cons_append, emitAll, emitAll]
    cases s.emit e with
    | mk after trouble =>
      cases trouble with
      | none => exact emitAll_append es fs after
      | some trouble => rfl

/-! ## Runs that differ in their logs -/

/-- Two sessions have the same generator and differ in their logs at most. -/
structure SameWork (s s' : Session) : Prop where
  generator : s.generator = s'.generator
  files : s.workspace.SameFiles s'.workspace

variable {s s' : Session}

theorem SameWork.note (h : s.SameWork s') (level : Level) (message : Text) :
    (s.note level message).SameWork (s'.note level message) :=
  ⟨h.generator, h.files.tree, h.files.target⟩

theorem SameWork.foldl_note : ∀ (warnings : List Text) {s s' : Session}, s.SameWork s' →
    (warnings.foldl (fun s w => s.note .warning w) s).SameWork
      (warnings.foldl (fun s w => s.note .warning w) s')
  | [], _, _, h => h
  | w :: warnings, _, _, h => SameWork.foldl_note warnings (h.note .warning w)

theorem SameWork.lookUp (h : s.SameWork s') (names : List String) :
    (s.lookUp names).SameWork (s'.lookUp names) :=
  ⟨by simp only [Session.lookUp, h.generator], h.files⟩

/-- An emission takes no notice of the log. -/
theorem SameWork.emit (h : s.SameWork s') (e : Emission) :
    (s.emit e).1.SameWork (s'.emit e).1 ∧ (s.emit e).2 = (s'.emit e).2 := by
  have hlookUp := h.lookUp e.lookUps
  unfold Session.emit
  split
  next d _ =>
    obtain ⟨hfiles, htrouble⟩ := Workspace.write_congr hlookUp.files d.path d.text
    simp only [Session.write]
    cases hw : (s.lookUp e.lookUps).workspace.write d.path d.text with
    | mk w r =>
      cases hw' : (s'.lookUp e.lookUps).workspace.write d.path d.text with
      | mk w' r' =>
        rw [hw, hw'] at hfiles htrouble
        obtain rfl : r = r' := htrouble
        cases r with
        | some trouble => exact ⟨⟨hlookUp.generator, hfiles⟩, rfl⟩
        | none =>
          have hw := Workspace.noteAll_sameFiles d.notes w
          have hw' := Workspace.noteAll_sameFiles d.notes w'
          exact ⟨⟨hlookUp.generator, (hw.trans hfiles).tree.trans hw'.tree.symm,
            (hw.trans hfiles).target.trans hw'.target.symm⟩, rfl⟩
  · exact ⟨hlookUp, rfl⟩

theorem SameWork.emitAll : ∀ (es : List Emission) {s s' : Session}, s.SameWork s' →
    (s.emitAll es).1.SameWork (s'.emitAll es).1 ∧ (s.emitAll es).2 = (s'.emitAll es).2
  | [], _, _, h => ⟨h, rfl⟩
  | e :: es, s, s', h => by
    obtain ⟨hnext, htrouble⟩ := h.emit e
    simp only [Session.emitAll]
    cases he : s.emit e with
    | mk next r =>
      cases he' : s'.emit e with
      | mk next' r' =>
        rw [he, he'] at hnext htrouble
        obtain rfl : r = r' := htrouble
        cases r with
        | none => exact SameWork.emitAll es hnext
        | some trouble => exact ⟨hnext, rfl⟩

theorem SameWork.report (h : s.SameWork s') (m : Model) (warnings : List Text) :
    (s.report m warnings).1.SameWork (s'.report m warnings).1 ∧
      (s.report m warnings).2 = (s'.report m warnings).2 := by
  simp only [Session.report, h.files.target, h.generator]
  split
  · exact ⟨h, rfl⟩
  · exact ⟨h.note _ _, rfl⟩

/-- What a run leaves and what it ends in does not depend on the log that it starts with. -/
theorem SameWork.generateCode (h : s.SameWork s') (m : Model) :
    (s.generateCode m).1.SameWork (s'.generateCode m).1 ∧
      (s.generateCode m).2 = (s'.generateCode m).2 := by
  unfold Session.generateCode
  split
  · exact ⟨h, rfl⟩
  next warnings _ =>
    have hstart := SameWork.foldl_note warnings h
    simp only [generate, hstart.generator]
    generalize warnings.foldl (fun s w => s.note .warning w) s = start at hstart ⊢
    generalize warnings.foldl (fun s w => s.note .warning w) s' = start' at hstart ⊢
    obtain ⟨hlast, htrouble⟩ := SameWork.emitAll (start'.generator.plan m) hstart
    cases he : start.emitAll (start'.generator.plan m) with
    | mk last r =>
      cases he' : start'.emitAll (start'.generator.plan m) with
      | mk last' r' =>
        rw [he, he'] at hlast htrouble
        obtain rfl : r = r' := htrouble
        cases r with
        | none => exact SameWork.report hlast m warnings
        | some trouble =>
          cases trouble with
          | fault f => exact ⟨hlast, rfl⟩
          | cause e =>
            cases e with
            | output e => exact ⟨hlast, rfl⟩
            | emission e =>
              cases e with
              | template e => exact ⟨hlast.note _ _, rfl⟩
              | unknownIndex kind => exact ⟨hlast, rfl⟩

/-! ## A whole run -/

theorem foldl_note_sameFiles : ∀ (warnings : List Text) (s : Session),
    (warnings.foldl (fun s w => s.note .warning w) s).generator = s.generator ∧
      (warnings.foldl (fun s w => s.note .warning w) s).workspace.SameFiles s.workspace
  | [], s => ⟨rfl, .refl _⟩
  | w :: warnings, s => by
    obtain ⟨hgenerator, hfiles⟩ := foldl_note_sameFiles warnings (s.note .warning w)
    exact ⟨hgenerator, hfiles.trans (s.workspace.note_sameFiles .warning w)⟩

/-- A run whose emissions all have texts and whose writes all succeed comes to its end. It leaves
the files that its writes leave and lists the paths that were written. -/
theorem generateCode_of_writes (s : Session) {m : Model} {warnings : List Text}
    (hwarnings : m.warnings = .ok warnings)
    (htexts : Emission.failure? (s.generator.plan m) = none) {w : Workspace}
    (hwrites : s.workspace.writeAll (Emission.writes (s.generator.plan m)) = (w, none))
    {files : List Text} (hfiles : w.target.written = .ok files) : ∃ after metadata,
      s.generateCode m = (after, .ok (.done files warnings metadata)) ∧
        after.workspace.SameFiles w ∧ metadata.fileCount = files.length := by
  obtain ⟨hgenerator, hsame⟩ := foldl_note_sameFiles warnings s
  rw [generateCode, hwarnings]
  simp only [generate]
  generalize warnings.foldl (fun s w => s.note .warning w) s = noted at hgenerator hsame ⊢
  obtain ⟨hrun, htrouble⟩ := emitAll_eq_writeAll (s.generator.plan m) noted
  obtain ⟨hcongr, hcongrTrouble⟩ :=
    Workspace.writeAll_congr hsame (Emission.writes (s.generator.plan m))
  rw [hcongrTrouble, hwrites, htexts] at htrouble
  rw [hwrites] at hcongr
  rw [hgenerator]
  cases hemit : noted.emitAll (s.generator.plan m) with
  | mk last trouble =>
    rw [hemit] at hrun htrouble
    obtain rfl : trouble = none := htrouble
    have hlast : last.workspace.SameFiles w := hrun.trans hcongr
    simp only [report, hlast.target, hfiles]
    exact ⟨_, _, rfl, (last.workspace.note_sameFiles .info _).trans hlast, rfl⟩

/-- A run leaves the files that its writes leave, unless it faults before the first of them. A run
that has come to its end has carried all of them out, and no text is missing. -/
theorem exists_writeAll_of_generateCode (s : Session) (m : Model) :
    (s.generateCode m).1.workspace.SameFiles s.workspace ∧ (∃ f, m.warnings = .error f) ∨
    (s.generateCode m).1.workspace.SameFiles
        (s.workspace.writeAll (Emission.writes (s.generator.plan m))).1 ∧
      ∀ files warnings metadata, (s.generateCode m).2 = .ok (.done files warnings metadata) →
        (s.workspace.writeAll (Emission.writes (s.generator.plan m))).2 = none ∧
          Emission.failure? (s.generator.plan m) = none := by
  cases hwarnings : m.warnings with
  | error f =>
    refine .inl ⟨?_, f, rfl⟩
    rw [generateCode, hwarnings]
    exact .refl _
  | ok warnings =>
    right
    obtain ⟨hgenerator, hwarned⟩ := foldl_note_sameFiles warnings s
    rw [generateCode, hwarnings]
    simp only [generate]
    generalize warnings.foldl (fun s w => s.note .warning w) s = noted at hgenerator hwarned ⊢
    obtain ⟨hrun, htrouble⟩ := emitAll_eq_writeAll (s.generator.plan m) noted
    -- The warnings in the log do not change what is written.
    obtain ⟨hcongr, hcongrTrouble⟩ :=
      Workspace.writeAll_congr hwarned (Emission.writes (s.generator.plan m))
    rw [hcongrTrouble] at htrouble
    rw [hgenerator]
    cases hemit : noted.emitAll (s.generator.plan m) with
    | mk last trouble =>
      rw [hemit] at hrun htrouble
      have hlast := hrun.trans hcongr
      cases trouble with
      | none =>
        refine ⟨?_, fun files warned metadata _ => ?_⟩
        · simp only [report]
          split
          · exact hlast
          · exact (last.workspace.note_sameFiles .info _).trans hlast
        · have hnone := Option.or_eq_none_iff.1 htrouble.symm
          exact ⟨Option.map_eq_none_iff.1 hnone.1, Option.map_eq_none_iff.1 hnone.2⟩
      | some trouble =>
        cases trouble with
        | fault f => exact ⟨hlast, fun _ _ _ h => by cases h⟩
        | cause e =>
          cases e with
          | output e => exact ⟨hlast, fun _ _ _ h => by cases h⟩
          | emission e =>
            cases e with
            | template e =>
              exact ⟨(last.workspace.note_sameFiles .error _).trans hlast,
                fun _ _ _ h => by cases h⟩
            | unknownIndex kind => exact ⟨hlast, fun _ _ _ h => by cases h⟩

end Session

end DtoPress
