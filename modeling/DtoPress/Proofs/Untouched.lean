import DtoPress.Proofs.ExitCodes

/-!
# Runs that change no file

A run writes files only while it generates, and then only to a directory. What can end a generation
before that is listed stage by stage in `GenerateRequest.EndsEarly`, which is all that the first
stage of a run can end in (`GenerateRequest.prepare_eq_error_iff`), and a run on a buffer leaves the
file tree as it is however it ends (`Session.tree_generateCode_buffer`). So the tree stays what it
was through a dry run, through a run that is over before its files are generated, through a
document that is refused, and whenever a document is only rendered (`tree_unchanged`).
-/

set_option linter.unusedSectionVars false

namespace DtoPress

/-! ## Runs on a buffer -/

/-- A run on a buffer leaves the file tree as it is, whatever it ends in. -/
theorem Session.tree_generateCode_buffer {s : Session} {files : Entries Text Text}
    (h : s.workspace.target = .buffer files) (m : Model) :
    (s.generateCode m).1.workspace.tree = s.workspace.tree := by
  obtain ⟨hsame, -⟩ | ⟨hsame, -⟩ := s.exists_writeAll_of_generateCode m
  · exact hsame.tree
  · obtain ⟨-, -, htree⟩ := Workspace.writeAll_buffer
      (Emission.writes (s.generator.plan m)) files s.workspace h
    exact hsame.tree.trans htree

/-! ## Documents -/

/-- The error is one of those that end a run before its files are generated. -/
def RunError.isEarly : RunError → Bool
  | .schema _ => true
  | .registry _ => true
  | .generation _ => false
  | .failed _ => false

/-- The files of a document together with the file tree that is there after they were rendered. -/
def renderDocumentIn (r : Registry) (t : FileTree) (document language : Value)
    (config : ConfigSource) : Except (Trouble RunError) (Entries Text Text) × FileTree :=
  match (prepare r t document language config).1 with
  | .error e => (.error e, t)
  | .ok (model, generator) =>
    let session : Session := { generator, workspace := { tree := t, target := .buffer [] } }
    let (after, result) := session.generateCode model
    (match result with
      | .ok (.done _ _ _) => .ok after.workspace.target.files
      | .ok (.failed e) => .error (.cause (.failed e))
      | .error e => .error (e.map .generation), after.workspace.tree)

section Documents

variable {r : Registry} {t : FileTree} {document directory language : Value}
  {config : ConfigSource}

theorem renderDocumentIn_fst : (renderDocumentIn r t document language config).1 =
    renderDocument r t document language config := by
  unfold renderDocumentIn renderDocument
  cases (prepare r t document language config).1 with
  | error e => rfl
  | ok prepared =>
    obtain ⟨m, g⟩ := prepared
    dsimp only [bind_ok]
    cases Session.generateCode ⟨g, { tree := t, target := .buffer [] }⟩ m with
    | mk after result =>
      match result with
      | .ok (.done _ _ _) => rfl
      | .ok (.failed e) => rfl
      | .error e => rfl

theorem renderDocumentIn_snd : (renderDocumentIn r t document language config).2 = t := by
  unfold renderDocumentIn
  split
  · rfl
  next m g _ => exact Session.tree_generateCode_buffer rfl m

/-- An error that is early ends a run in its first stage. -/
theorem generateDocument_of_isEarly {e : RunError} (he : e.isEarly = true)
    (h : (generateDocument r t document directory language config).1 = .error (.cause e)) :
    (generateDocument r t document directory language config).2.1 = t := by
  unfold generateDocument at h ⊢
  split at h
  · rfl
  next m g log _ =>
    split at h
    · cases h
    next root _ =>
      -- Of the errors of a generation itself none is early.
      obtain ⟨trouble, -, hcause⟩ := mapError_eq_error_iff.1 h
      cases trouble with
      | fault f => cases hcause
      | cause e' =>
        obtain rfl := Trouble.cause.inj hcause
        cases he

end Documents

/-! ## Requests on the command line -/

namespace CommandLine

namespace GenerateRequest

variable {q : GenerateRequest} {around : Surroundings}

theorem tree_ofTrouble (screen : Screen) (transcript : Transcript) (tree : FileTree)
    (e : Trouble CommandError) : (Outcome.ofTrouble screen transcript tree e).tree = tree := by
  cases e <;> rfl

/-- A generation that ends early leaves the tree as it is. -/
theorem tree_run_of_endsEarly {e : Trouble CommandError} (h : q.EndsEarly around e) :
    (q.run around).tree = around.tree := by
  have hprepare := prepare_eq_error_iff.2 h
  unfold run
  cases hrun : (q.prepare around).run {} with
  | mk result transcript =>
    rw [hrun] at hprepare
    obtain rfl : result = .error e := hprepare
    exact tree_ofTrouble _ _ _ _

theorem tree_complete_buffer (q : GenerateRequest) (screen : Screen) (transcript : Transcript)
    (tree : FileTree) (m : Model) (g : Generator) :
    (q.complete screen transcript tree (m, g, .buffer [])).tree = tree := by
  have hafter := Session.tree_generateCode_buffer
    (s := ⟨g, { tree, target := .buffer [], log := transcript.log }⟩) rfl m
  unfold complete generate
  dsimp only
  cases hrun : Session.generateCode
      ⟨g, { tree, target := .buffer [], log := transcript.log }⟩ m with
  | mk after result =>
    rw [hrun] at hafter
    match result with
    | .error e => exact (tree_ofTrouble _ _ _ _).trans hafter
    | .ok (.failed e) => exact hafter
    | .ok (.done files warnings metadata) => exact hafter

/-- A dry run leaves the tree as it is. -/
theorem tree_run_of_dryRun (h : q.dryRun = true) : (q.run around).tree = around.tree := by
  have hprepare := yields_prepare q around {}
  unfold run
  cases hrun : (q.prepare around).run {} with
  | mk result transcript =>
    cases result with
    | error e => exact tree_ofTrouble _ _ _ _
    | ok prepared =>
      obtain ⟨m, g, target⟩ := prepared
      rw [hrun] at hprepare
      obtain ⟨name, c, -, htarget⟩ := prepared_eq_ok_iff.1 hprepare.symm
      have hbuffer : target = .buffer [] := by
        simpa [GenerateRequest.target, h, eq_comm] using htarget
      rw [hbuffer]
      exact tree_complete_buffer q around.screen transcript around.tree m g

end GenerateRequest

theorem tree_runLanguages (around : Surroundings) : (runLanguages around).tree = around.tree := by
  unfold runLanguages
  split
  · rfl
  · exact GenerateRequest.tree_ofTrouble _ _ _ _

/-- A run leaves the tree as it is if its generation does, should there be one. -/
theorem tree_run {around : Surroundings} {args : List String}
    (h : ∀ i q, Invocation.ofArguments args = .ok i → i.subcommand = some (.generate q) →
      (q.run around).tree = around.tree) : (run around args).tree = around.tree := by
  unfold run
  split
  next stop _ => cases stop <;> rfl
  next i hargs =>
    split
    · rfl
    next level subcommand _ hsubcommand =>
      cases subcommand with
      | generate q => exact h i q hargs hsubcommand
      | languages => exact tree_runLanguages around
    · rfl

end CommandLine

/-! ## The tree as it was -/

open CommandLine in
/-- Nothing is written before files are generated, nor by a dry run. A run on the command line
leaves the file tree as it is if its generation is a dry run or ends early, which is to say that its
first stage fails; so does a call that generates a document and refuses the document, its language
or its configuration, and every call that renders a document. -/
theorem tree_unchanged :
    (∀ (around : Surroundings) (args : List String),
      (∀ i q, Invocation.ofArguments args = .ok i → i.subcommand = some (.generate q) →
        q.dryRun = true ∨ ∃ e, q.EndsEarly around e) →
      (CommandLine.run around args).tree = around.tree) ∧
    (∀ (q : GenerateRequest) (around : Surroundings) (e : Trouble CommandError),
      ((q.prepare around).run {}).1 = .error e ↔ q.EndsEarly around e) ∧
    (∀ (r : Registry) (t after : FileTree) (document directory language : Value)
        (config : ConfigSource) (e : RunError) (log : Log),
      generateDocument r t document directory language config = (.error (.cause e), after, log) →
      e.isEarly = true → after = t) ∧
    ∀ (r : Registry) (t : FileTree) (document language : Value) (config : ConfigSource),
      renderDocumentIn r t document language config =
        (renderDocument r t document language config, t) := by
  refine ⟨fun around args hargs => ?_, fun q around e => GenerateRequest.prepare_eq_error_iff,
    fun r t after document directory language config e log hrun he => ?_,
    fun r t document language config => Prod.ext renderDocumentIn_fst renderDocumentIn_snd⟩
  · refine tree_run fun i q hi hq => ?_
    rcases hargs i q hi hq with hdry | ⟨e, hearly⟩
    · exact GenerateRequest.tree_run_of_dryRun hdry
    · exact GenerateRequest.tree_run_of_endsEarly hearly
  · have hafter := generateDocument_of_isEarly he (congrArg Prod.fst hrun)
    rwa [hrun] at hafter

/-- A document whose last model has no name. -/
def sampleUnnamed : Value :=
  .object
    [("models", .list
      [.object [("name", .str "Order")], .object [("name", .str "Item")],
       .object [("fields", .list [])]])]

open CommandLine in
theorem tree_unchanged_sample :
    (CommandLine.run sampleSurroundings (sampleArguments ++ ["--dry-run"])).tree =
      sampleSurroundings.tree ∧
    (CommandLine.run sampleSurroundings ["generate", "schema.json", "-l", "cobol"]).tree =
      sampleSurroundings.tree ∧
    ∃ e log, e.isEarly = true ∧
      generateDocument .standard sampleSurroundings.tree sampleUnnamed (.str "out") (.str "ts")
        (.value .null) = (.error (.cause e), sampleSurroundings.tree, log) := by
  refine ⟨tree_unchanged.1 _ _ fun i q hi hq => .inl ?_,
    tree_unchanged.1 _ _ fun i q hi hq => .inr ?_, ?_⟩
  · obtain rfl : _ = i := Except.ok.inj hi
    obtain rfl : _ = q := Subcommand.generate.inj (Option.some.inj hq)
    rfl
  · obtain rfl : _ = i := Except.ok.inj hi
    obtain rfl : _ = q := Subcommand.generate.inj (Option.some.inj hq)
    exact ⟨_, .language (e := .cause (.unknownLanguage "cobol" ["typescript"])) rfl⟩
  · have hrun : generateDocument .standard sampleSurroundings.tree sampleUnnamed (.str "out")
      (.str "ts") (.value .null) = (.error (.cause (.schema .unnamedModel)), _, []) := rfl
    have hafter := tree_unchanged.2.2.1 _ _ _ _ _ _ _ _ _ hrun rfl
    rw [hafter] at hrun
    exact ⟨_, _, rfl, hrun⟩

end DtoPress
