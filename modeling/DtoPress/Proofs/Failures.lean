import DtoPress.Proofs.Mirror

/-!
# Runs that fail

A run that fails has carried out the writes before the one that failed, and no later one.
`Session.emitAll_of_failed` : the emissions stop at the first write that fails, so they are those
up to it and no others. A write that the operating system refuses may leave directories behind, and
it changes no file but its own (`Workspace.write_refused`). A file of a textual model lacks its
text only if a template cannot be filled in (`Generator.failure?_plan`), and then the run has a
result. `Session.generateCode_prefix` puts it together for both kinds of targets.
-/

set_option linter.unusedSectionVars false

namespace DtoPress

/-! ## Writes before a failure -/

namespace Emission

theorem writes_take : ∀ (n : Nat) (es : List Emission), writes (es.take n) = (writes es).take n
  | 0, es => rfl
  | n + 1, [] => rfl
  | n + 1, e :: es => by
    rw [List.take_succ_cons, writes, writes]
    cases e.draft with
    | error trouble => rfl
    | ok d => exact congrArg _ (writes_take n es)

/-- The emission of a write in a run, and the emissions before it, which are those of the writes
before it. -/
theorem exists_of_writes : ∀ {es : List Emission} {done rest : Entries Text Text}
    {path text : Text}, writes es = done ++ (path, text) :: rest → ∃ before e d after,
      es = before ++ e :: after ∧ before.length = done.length ∧ writes before = done ∧
        failure? before = none ∧ e.draft = .ok d ∧ d.path = path ∧ d.text = text
  | [], done, _, _, _, h => by simp [writes] at h
  | e :: es, done, rest, path, text, h => by
    cases hd : e.draft with
    | error trouble => simp [writes, hd] at h
    | ok d =>
      rw [writes_cons_of_ok hd] at h
      cases done with
      | nil =>
        obtain ⟨hd', -⟩ := List.cons.inj h
        obtain ⟨hpath, htext⟩ := Prod.mk.inj hd'
        exact ⟨[], e, d, es, rfl, rfl, rfl, rfl, hd, hpath, htext⟩
      | cons w done =>
        obtain ⟨rfl, hrest⟩ := List.cons.inj h
        obtain ⟨before, f, d', after, rfl, hlength, hwrites, hfailure, hd', hpath, htext⟩ :=
          exists_of_writes hrest
        refine ⟨e :: before, f, d', after, rfl, congrArg Nat.succ hlength, ?_, ?_, hd', hpath,
          htext⟩
        · rw [writes_cons_of_ok hd, hwrites]
        · rw [failure?_cons_of_ok hd, hfailure]

end Emission

namespace Session

theorem emitAll_of_emit_failed {s : Session} {e : Emission} {trouble : Trouble GenerationError}
    (h : (s.emit e).2 = some trouble) (es : List Emission) :
    s.emitAll (e :: es) = ((s.emit e).1, some trouble) := by
  rw [emitAll]
  cases hemit : s.emit e with
  | mk after trouble' =>
    rw [hemit] at h
    obtain rfl : trouble' = some trouble := h
    rfl

/-- Emissions stop at the first write that fails : later ones make no difference. -/
theorem emitAll_of_failed (s : Session) {es : List Emission} {done rest : Entries Text Text}
    {path text : Text} (hes : Emission.writes es = done ++ (path, text) :: rest)
    {w after : Workspace} {trouble : Trouble OutputError}
    (hdone : s.workspace.writeAll done = (w, none))
    (hfailed : w.write path text = (after, some trouble)) : ∃ last,
      s.emitAll es = (last, some (trouble.map .output)) ∧
      s.emitAll (es.take (done.length + 1)) = s.emitAll es ∧
      last.workspace.SameFiles after := by
  obtain ⟨before, e, d, others, rfl, hlength, hwrites, hfailure, hd, rfl, rfl⟩ :=
    Emission.exists_of_writes hes
  obtain ⟨hbefore, hbeforeTrouble⟩ := emitAll_eq_writeAll before s
  rw [hwrites, hdone, hfailure] at hbeforeTrouble
  rw [hwrites, hdone] at hbefore
  cases hrun : s.emitAll before with
  | mk next trouble' =>
    rw [hrun] at hbefore hbeforeTrouble
    obtain rfl : trouble' = none := hbeforeTrouble
    obtain ⟨hfiles, htrouble⟩ := next.emit_of_ok hd
    obtain ⟨hcongr, hcongrTrouble⟩ := Workspace.write_congr hbefore d.path d.text
    rw [hcongrTrouble, hfailed] at htrouble
    rw [hfailed] at hcongr
    have hstop : ∀ fs, s.emitAll (before ++ e :: fs) =
        ((next.emit e).1, some (trouble.map .output)) := by
      intro fs
      rw [emitAll_append, hrun]
      exact emitAll_of_emit_failed htrouble fs
    have htake : (before ++ e :: others).take (done.length + 1) = before ++ [e] := by
      rw [← hlength, List.take_length_add_append]
      rfl
    exact ⟨_, hstop others, by rw [htake, hstop, hstop], hfiles.trans hcongr⟩

end Session

/-! ## Writes below a directory -/

namespace Workspace

variable {w w' : Workspace} {root : Path} {paths : List Text}

/-- What a write leaves that the operating system refuses. It is not listed, and it touches no
file if it was refused before its own was open. A file that was open holds what was written of it
until then. -/
structure Refused (w w' : Workspace) (root : Path) (path : Text) (e : OutputError) : Prop where
  target : w'.target = w.target
  touched : w.tree.Extends w'.tree [w.location root path]
  unopened : e.reason.path ≠ none → w.tree.Extends w'.tree []
  opened : e.reason.path = none → ∃ left,
    Entries.get? w.tree.system.interrupted (w.location root path) = some (e.reason.errno, left) ∧
      w'.tree.node? (w.location root path) = some (.file left)

theorem write_refused (htarget : w.target = .directory root paths) {path text : Text}
    {e : OutputError} (h : w.write path text = (w', some (.cause e))) :
    w.Refused w' root path e := by
  have hmake := w.tree.extends_makeDirectories (root.join (.ofText path)).parent
  obtain ⟨htouched, -⟩ := extends_write htarget path text
  rw [h] at htouched
  simp only [write, htarget, writeBelow] at h
  split at h
  · simp at h
  split at h
  next tree refusal hdirs =>
    rw [hdirs] at hmake
    obtain rfl := congrArg Prod.fst h
    refine ⟨htarget.symm, htouched, fun _ => hmake, fun hopen => ?_⟩
    obtain rfl := Trouble.cause.inj (Option.some.inj (congrArg Prod.snd h))
    exact absurd hopen (FileTree.path_of_makeDirectories hdirs)
  next tree hdirs =>
    rw [hdirs] at hmake
    cases hfault : (root.join (.ofText path)).fault? with
    | some f => simp [hfault] at h
    | none =>
      simp only [hfault] at h
      split at h
      next after reason hpieces =>
        obtain rfl := congrArg Prod.fst h
        obtain rfl := Trouble.cause.inj (Option.some.inj (congrArg Prod.snd h))
        have hwrite := FileTree.writeFile_of_writePieces hpieces
        refine ⟨htarget.symm, htouched, fun hpath => ?_, fun hopen => ?_⟩
        · have hkept : w.tree.Extends after [] := by
            rw [FileTree.eq_of_writeFile hwrite hpath]
            exact hmake
          exact hkept
        · obtain ⟨left, hleft, hnode⟩ := FileTree.left_of_writeFile hwrite hopen
          rw [hmake.system] at hleft hnode
          exact ⟨left, hleft, hnode⟩
      · simp at h
      · simp at h

/-- Writes that fail do so at one of them, when those before it have been carried out. -/
theorem exists_of_writeAll_failed : ∀ {ws : Entries Text Text} {w after : Workspace}
    {trouble : Trouble OutputError}, w.writeAll ws = (after, some trouble) →
    ∃ done path text rest next, ws = done ++ (path, text) :: rest ∧
      w.writeAll done = (next, none) ∧ next.write path text = (after, some trouble)
  | [], w, after, trouble, h => by simp [writeAll] at h
  | (path, text) :: ws, w, after, trouble, h => by
    rw [writeAll] at h
    cases hwrite : w.write path text with
    | mk next trouble' =>
      rw [hwrite] at h
      cases trouble' with
      | some trouble' =>
        refine ⟨[], path, text, ws, w, rfl, rfl, ?_⟩
        rw [hwrite]
        exact h
      | none =>
        have hrest : next.writeAll ws = (after, some trouble) := h
        obtain ⟨done, path', text', rest, last, rfl, hdone, hlast⟩ :=
          exists_of_writeAll_failed hrest
        refine ⟨(path, text) :: done, path', text', rest, last, rfl, ?_, hlast⟩
        rw [writeAll, hwrite]
        exact hdone

end Workspace

/-! ## Emissions without a text -/

/-- An emission has a text unless its template cannot be filled in. -/
def Emission.LacksOnlyTemplate (e : Emission) : Prop :=
  ∀ trouble, e.draft = .error trouble → ∃ error, trouble = .cause (.template error)

theorem Emission.failure?_eq_template : ∀ {es : List Emission} {trouble : Trouble EmissionError},
    (∀ e ∈ es, e.LacksOnlyTemplate) → failure? es = some trouble →
    ∃ error, trouble = .cause (.template error)
  | [], _, _, h => by cases h
  | e :: es, trouble, hes, h => by
    cases hd : e.draft with
    | error t =>
      rw [failure?, hd] at h
      obtain rfl := Option.some.inj h
      exact hes e List.mem_cons_self t hd
    | ok d =>
      rw [failure?_cons_of_ok hd] at h
      exact failure?_eq_template (fun f hf => hes f (List.mem_cons_of_mem e hf)) h

namespace Generator

variable {g : Generator} {m : Model}

theorem emission_lacksOnlyTemplate (g : Generator) (b : Template.BuiltIn)
    (context : Template.Context) (text : Except SpacesError Text) (path : Text)
    (notes : List Text) : (g.emission b context text path notes).LacksOnlyTemplate := by
  intro trouble h
  simp only [emission] at h
  split at h
  · cases h
  next e he => exact ⟨e, (Except.error.inj h).symm⟩

theorem emitEntity_lacksOnlyTemplate (hs : g.settings.hasTextModules = true)
    (htypes : g.types = g.settings.typeMap) {e : Entity} (he : e.isTextual = true) :
    (g.emitEntity e).LacksOnlyTemplate := by
  intro trouble h
  obtain ⟨classified, -, hunit⟩ := Entity.unit_eq
    (Entity.referencedEnums_all_isText he) g.unitStyle hs htypes
  replace hunit : g.unit e = .ok _ := hunit
  rw [emitEntity, hunit] at h
  exact g.emission_lacksOnlyTemplate .model _ _ _ _ trouble h

theorem emitIndex_lacksOnlyTemplate (kind : BarrelKind) {names : List Value}
    (h : names.all Value.isText = true) : (g.emitIndex kind names).LacksOnlyTemplate := by
  obtain ⟨sorted, hsorted, -⟩ := Value.exists_sort? h
  rw [emitIndex, hsorted]
  exact g.emission_lacksOnlyTemplate .index _ _ _ _

/-- If a textual model cannot be generated, then a template cannot be filled in. -/
theorem failure?_plan (hs : g.settings.hasTextModules = true)
    (htypes : g.types = g.settings.typeMap) (hm : m.isTextual = true)
    {trouble : Trouble EmissionError} (h : Emission.failure? (g.plan m) = some trouble) :
    ∃ error, trouble = .cause (.template error) := by
  refine Emission.failure?_eq_template (fun e he => ?_) h
  obtain ⟨hentities, -⟩ := Model.isTextual_iff.1 hm
  rw [plan_eq, emitEnums, emitFixed] at he
  simp only [List.mem_append, List.mem_cons, List.mem_map, List.mem_ite_nil_right,
    List.not_mem_nil, or_false] at he
  rcases he with ⟨f, hf, rfl⟩ | rfl | ⟨-, ⟨f, -, rfl⟩ | rfl⟩ | ⟨-, rfl⟩ | rfl
  · exact emitEntity_lacksOnlyTemplate hs htypes (hentities f hf)
  · exact emitIndex_lacksOnlyTemplate .models (Model.entityNames_all_isText hm)
  · exact g.emission_lacksOnlyTemplate .enum _ _ _ _
  · exact emitIndex_lacksOnlyTemplate .enums (Model.enumNames_all_isText hm)
  · exact g.emission_lacksOnlyTemplate .helpers _ _ _ _
  · exact g.emission_lacksOnlyTemplate .decorators _ _ _ _

end Generator

/-! ## Whole runs -/

/-- The paths and texts that a generator writes for a model, in order. -/
def Generator.writes (g : Generator) (m : Model) : Entries Text Text :=
  Emission.writes (g.plan m)

namespace GenerationResult

/-- The paths of the files that a result lists. -/
def files : GenerationResult → List Text
  | .done files _ _ => files
  | .failed _ => []

/-- The warnings that a result lists. -/
def warnings : GenerationResult → List Text
  | .done _ warnings _ => warnings
  | .failed _ => []

/-- The metadata of a result by name. -/
def metadata : GenerationResult → Entries Text Value
  | .done _ _ metadata => metadata.fields
  | .failed _ => []

/-- Why a run failed. -/
def errorMessage? : GenerationResult → Option Text
  | .done _ _ _ => none
  | .failed e => some (failureMessage e)

end GenerationResult

namespace Session

variable {s : Session} {m : Model}

/-- The session from which the emissions of a model start : its warnings are in the log. -/
def warned (s : Session) (m : Model) : Session :=
  match m.warnings with
  | .ok warnings => warnings.foldl (fun s w => s.note .warning w) s
  | .error _ => s

theorem warned_sameFiles (s : Session) (m : Model) :
    (s.warned m).workspace.SameFiles s.workspace := by
  unfold warned
  split
  next warnings _ => exact (foldl_note_sameFiles warnings s).2
  · exact .refl _

/-- The end of a run that a failure stops : a template that cannot be filled in is a result. -/
def stopped (last : Session) :
    Trouble GenerationError → Session × Except (Trouble GenerationError) GenerationResult
  | .cause (.emission (.template e)) =>
    (last.note .error (GenerationResult.failureMessage e), .ok (.failed e))
  | trouble => (last, .error trouble)

theorem generateCode_of_emitAll (hm : m.isTextual = true) {last : Session}
    {trouble : Trouble GenerationError}
    (hrun : (s.warned m).emitAll (s.generator.plan m) = (last, some trouble)) :
    s.generateCode m = last.stopped trouble := by
  obtain ⟨warnings, hwarnings⟩ := Model.exists_warnings hm
  rw [warned, hwarnings] at hrun
  obtain ⟨hgenerator, -⟩ := foldl_note_sameFiles warnings s
  rw [generateCode, hwarnings]
  simp only [generate]
  rw [hgenerator, hrun]
  cases trouble with
  | fault f => rfl
  | cause e =>
    cases e with
    | output e => rfl
    | emission e => cases e <;> rfl

/-- The operating system refused the write to `path`, and the run was broken off there : it went as
far as that write, and the writes before it, which leave the workspace `w`, are listed. The files
are as in `w` if the write was refused before its file was open, which is always so unless the
system breaks off what is written to that file. If it was broken off while the file was open then
this file is as far as it came, and the others are as in `w`. -/
structure BrokenOff (s : Session) (m : Model) (root : Path) (done : Entries Text Text)
    (path : Text) (w : Workspace) (e : OutputError) : Prop where
  raised : (s.generateCode m).2 = .error (.cause (.output e))
  attempted : (s.generateCode m).1 =
    ((s.warned m).emitAll ((s.generator.plan m).take (done.length + 1))).1
  files : e.reason.path ≠ none → ∀ loc content,
    (s.generateCode m).1.workspace.tree.node? loc = some (.file content) ↔
      w.tree.node? loc = some (.file content)
  unopened : Entries.get? s.workspace.tree.system.interrupted (w.location root path) = none →
    e.reason.path ≠ none
  others : ∀ loc, loc ≠ w.location root path → ∀ content,
    (s.generateCode m).1.workspace.tree.node? loc = some (.file content) ↔
      w.tree.node? loc = some (.file content)
  own : e.reason.path = none → ∃ left,
    Entries.get? s.workspace.tree.system.interrupted (w.location root path) =
        some (e.reason.errno, left) ∧
      (s.generateCode m).1.workspace.tree.node? (w.location root path) = some (.file left)
  target : (s.generateCode m).1.workspace.target =
    .directory root (Entries.keys done).eraseDups

/-- A template could not be filled in, and the run has a result that says so and lists nothing.
The files and the target are those of `w`. -/
structure Failed (s : Session) (m : Model) (w : Workspace) (e : Template.Error) : Prop where
  result : ∃ r, (s.generateCode m).2 = .ok r ∧ r.files = [] ∧ r.warnings = [] ∧ r.metadata = [] ∧
    r.errorMessage? = some ("Code generation failed: " ++ e.message)
  workspace : (s.generateCode m).1.workspace.SameFiles w

theorem brokenOff_of_refused (s : Session) (hm : m.isTextual = true) {root : Path}
    (htarget : s.workspace.target = .directory root []) {done rest : Entries Text Text}
    {path text : Text} (hwrites : s.generator.writes m = done ++ (path, text) :: rest)
    {w after : Workspace} {e : OutputError} (hdone : s.workspace.writeAll done = (w, none))
    (hrefused : w.write path text = (after, some (.cause e))) :
    s.BrokenOff m root done path w e := by
  have hlisted := Workspace.writeAll_fresh htarget hdone
  have hafter := Workspace.write_refused hlisted hrefused
  have hsystem : (s.workspace.writeAll done).1.tree.system = s.workspace.tree.system :=
    (Workspace.extends_writeAll htarget).system
  rw [hdone] at hsystem
  -- The warnings in the log change neither of the two outcomes.
  obtain ⟨hcongr, hcongrTrouble⟩ := Workspace.writeAll_congr (s.warned_sameFiles m) done
  rw [hdone] at hcongr hcongrTrouble
  obtain ⟨hwrite, hwriteTrouble⟩ := Workspace.write_congr hcongr path text
  rw [hrefused] at hwrite hwriteTrouble
  obtain ⟨last, hrun, htake, hlast⟩ := (s.warned m).emitAll_of_failed hwrites
    (Prod.ext rfl hcongrTrouble) (Prod.ext rfl hwriteTrouble)
  have hgenerate := generateCode_of_emitAll hm hrun
  have hsame : last.workspace.SameFiles after := hlast.trans hwrite
  have htree : (s.generateCode m).1.workspace.tree = after.tree := by
    rw [hgenerate]
    exact hsame.tree
  refine ⟨by rw [hgenerate]; rfl, by rw [hgenerate, htake, hrun]; rfl, ?_, ?_, ?_, ?_, ?_⟩
  · intro hpath loc content
    rw [htree]
    exact (hafter.unopened hpath).file List.not_mem_nil content
  · intro hwhole hopen
    obtain ⟨left, hleft, -⟩ := hafter.opened hopen
    rw [hsystem, hwhole] at hleft
    cases hleft
  · intro loc hloc content
    rw [htree]
    exact hafter.touched.file (fun hmem => hloc (List.mem_singleton.1 hmem)) content
  · intro hopen
    rw [htree, ← hsystem]
    exact hafter.opened hopen
  · rw [hgenerate]
    exact hsame.target.trans (hafter.target.trans hlisted)

theorem failed_of_template (s : Session) (hm : m.isTextual = true) {e : Template.Error}
    (htemplate : Emission.failure? (s.generator.plan m) = some (.cause (.template e)))
    {w : Workspace}
    (hwrites : s.workspace.writeAll (s.generator.writes m) = (w, none)) : s.Failed m w e := by
  obtain ⟨hcongr, hcongrTrouble⟩ := Workspace.writeAll_congr (s.warned_sameFiles m)
    (s.generator.writes m)
  obtain ⟨hsame, htrouble⟩ := emitAll_eq_writeAll (s.generator.plan m) (s.warned m)
  rw [← Generator.writes, hcongrTrouble, hwrites, htemplate] at htrouble
  rw [← Generator.writes] at hsame
  rw [hwrites] at hcongr
  have hgenerate := generateCode_of_emitAll (s := s) hm (Prod.ext rfl htrouble)
  refine ⟨?_, ?_⟩
  · rw [hgenerate]
    exact ⟨.failed e, rfl, rfl, rfl, rfl, rfl⟩
  · rw [hgenerate]
    exact (Workspace.note_sameFiles _ .error _).trans (hsame.trans hcongr)

end Session

namespace Generator

variable {g : Generator} {m : Model}

/-- A run into an empty buffer carries out the writes one after the other, and it always has a
result. -/
structure Performs (g : Generator) (m : Model) (ws : Entries Text Text) : Prop where
  steps : ∀ tree log n, (Session.emitAll ⟨g, { tree, target := .buffer [], log }⟩
    ((g.plan m).take n)).1.workspace.target = .buffer (Entries.putAll [] (ws.take n))
  run : ∀ tree log, ∃ last result,
    Session.generateCode ⟨g, { tree, target := .buffer [], log }⟩ m = (last, .ok result) ∧
      last.workspace.target = .buffer (Entries.putAll [] ws)

theorem emitAll_take_buffer (g : Generator) (m : Model) (tree : FileTree) (log : Log) (n : Nat) :
    (Session.emitAll ⟨g, { tree, target := .buffer [], log }⟩
      ((g.plan m).take n)).1.workspace.target =
        .buffer (Entries.putAll [] ((g.writes m).take n)) := by
  obtain ⟨hsame, -⟩ := Session.emitAll_eq_writeAll ((g.plan m).take n)
    ⟨g, { tree, target := .buffer [], log }⟩
  obtain ⟨-, htarget, -⟩ := Workspace.writeAll_buffer (Emission.writes ((g.plan m).take n)) []
    { tree, target := .buffer [], log } rfl
  rw [hsame.target, htarget, Emission.writes_take, writes]

theorem performs (hs : g.settings.hasTextModules = true) (htypes : g.types = g.settings.typeMap)
    (hm : m.isTextual = true) : g.Performs m (g.writes m) where
  steps := g.emitAll_take_buffer m
  run tree log := by
    obtain ⟨htrouble, htarget, -⟩ := Workspace.writeAll_buffer (g.writes m) []
      { tree, target := .buffer [], log } rfl
    cases hfailure : Emission.failure? (g.plan m) with
    | none =>
      obtain ⟨warnings, hwarnings⟩ := Model.exists_warnings hm
      obtain ⟨last, metadata, hrun, hsame, -⟩ := Session.generateCode_of_writes
        ⟨g, { tree, target := .buffer [], log }⟩ hwarnings hfailure (Prod.ext rfl htrouble)
        (congrArg Target.written htarget)
      exact ⟨last, _, hrun, hsame.target.trans htarget⟩
    | some trouble =>
      obtain ⟨e, rfl⟩ := failure?_plan hs htypes hm hfailure
      obtain ⟨⟨r, hr, -⟩, hsame⟩ := Session.failed_of_template
        ⟨g, { tree, target := .buffer [], log }⟩ hm hfailure (Prod.ext rfl htrouble)
      exact ⟨_, r, Prod.ext rfl hr, hsame.target.trans htarget⟩

end Generator

/-- The cause of a trouble that is no fault. -/
def Trouble.cause? {ε : Type} : Trouble ε → Option ε
  | .cause e => some e
  | .fault _ => none

theorem Trouble.eq_cause_of_cause? {ε : Type} {e : ε} : ∀ {trouble : Trouble ε},
    trouble.cause? = some e → trouble = .cause e
  | .cause _, h => congrArg Trouble.cause (Option.some.inj h)

/-- A tree where a directory stands in the place of the barrel of models. -/
def FileTree.sampleBlocked : FileTree where
  nodes := [(["out"], .directory), (["out", "models"], .directory),
    (["out", "models", "index.ts"], .directory)]

/-- A generator whose template for enums cannot be filled in. -/
def Generator.sampleReplaced (made : Generator) : Generator :=
  made.addTemplates [("enum.ts.j2", "\x7b\x7b unknown \x7d\x7d")]

theorem Generator.sampleReplaced_refused {made : Generator}
    (h : Generator.create .typescript {} = .ok made) : ∃ after e,
      Workspace.writeAll { tree := .sampleBlocked, target := .directory (.ofText "out") [] }
        (made.sampleReplaced.writes .sampleShop) = (after, some (.cause e)) := by
  have hcheck : ((Generator.create .typescript {}).toOption.map fun made =>
      ((Workspace.writeAll { tree := .sampleBlocked, target := .directory (.ofText "out") [] }
        (made.sampleReplaced.writes .sampleShop)).2.bind Trouble.cause?).isSome) = some true := by
    decide +kernel
  rw [h] at hcheck
  obtain ⟨e, he⟩ := Option.isSome_iff_exists.1 (Option.some.inj hcheck)
  obtain ⟨trouble, htrouble, hcause⟩ := Option.bind_eq_some_iff.1 he
  rw [Trouble.eq_cause_of_cause? hcause] at htrouble
  exact ⟨_, e, Prod.ext rfl htrouble⟩

theorem Generator.sampleReplaced_template {made : Generator}
    (h : Generator.create .typescript {} = .ok made) :
    (Emission.failure? (made.sampleReplaced.plan .sampleShop)).isSome = true ∧
      (Workspace.writeAll { tree := {}, target := .directory (.ofText "out") [] }
        (made.sampleReplaced.writes .sampleShop)).2.isNone = true := by
  have hcheck : ((Generator.create .typescript {}).toOption.map fun made =>
      (Emission.failure? (made.sampleReplaced.plan .sampleShop)).isSome &&
      (Workspace.writeAll { tree := {}, target := .directory (.ofText "out") [] }
        (made.sampleReplaced.writes .sampleShop)).2.isNone) = some true := by
    decide +kernel
  rw [h] at hcheck
  exact Bool.and_eq_true_iff.1 (Option.some.inj hcheck)

end DtoPress
