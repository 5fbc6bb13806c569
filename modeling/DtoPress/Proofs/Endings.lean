import DtoPress.Proofs.Showing
import DtoPress.Proofs.Writes

/-!
# How a run ends

A generation goes through stages. The language is looked up, the configuration is read and
checked, the schema is loaded, the generator and its target are made, the files are generated, and
what there is to say is shown along the way. `GenerateRequest.Completes` says that all stages come
to their end, and `GenerateRequest.EndsWith` with one constructor for each stage what else it can
end with : the error of that stage, or the fault of an item that the screen refuses.
`GenerateRequest.EndsEarly` are the stages before files are generated.

`GenerateRequest.ending` computes this without what is shown and logged
(`GenerateRequest.ending_eq_ok_iff`, `GenerateRequest.ending_eq_error_iff`). An error with a cause
is itself shown at the end, so the exit of a run tells three kinds of invocations apart
(`Invocation.exit_eq_zero_iff` and the two theorems below it), and there is no fourth
(`Invocation.completes_or_fails_or_faults`).
-/

set_option linter.unusedSectionVars false

namespace DtoPress.CommandLine

/-! ## Stages of a generation -/

namespace GenerateRequest

/-- The language of a request is known, and its configuration is read for it. -/
structure ReadsConfig (q : GenerateRequest) (around : Surroundings) (name : Text) (c : Config) :
    Prop where
  known : around.registry.resolve q.language = .ok name
  loaded : (loadConfig around.tree (.str name) (.object q.overrides) q.config).1 = .ok c

/-- The configuration is checked as well, and its warnings are shown. -/
structure ChecksConfig (q : GenerateRequest) (around : Surroundings) (name : Text) (c : Config) :
    Prop extends q.ReadsConfig around name c where
  checked : ∃ warnings, c.warnings = .ok warnings ∧
    around.screen.Takes (warnings.map Item.warning)

/-- The schema is loaded as well, and its source is shown. -/
structure ReadsModel (q : GenerateRequest) (around : Surroundings) (name : Text) (c : Config)
    (m : Model) : Prop extends q.ChecksConfig around name c where
  read : ∃ source, (loadModel around.tree q.schema q.url around.reply).1 = .ok (source, m) ∧
    around.screen.Takes [.loaded source]

/-- The generator is made as well. -/
structure MakesGenerator (q : GenerateRequest) (around : Surroundings) (name : Text) (c : Config)
    (m : Model) (g : Generator) : Prop extends q.ReadsModel around name c m where
  made : (around.registry.create around.tree (.str name) (.given c)).1 = .ok g

/-- All is there that files are generated from, and the target that they go to. -/
def Prepares (q : GenerateRequest) (around : Surroundings) (m : Model) (g : Generator)
    (target : Target) : Prop :=
  ∃ name c, q.MakesGenerator around name c m g ∧ q.target c = .ok target

/-- What ends a generation before its files are generated : its language is unknown, its
configuration cannot be read or checked, its schema cannot be loaded, there is no generator or no
target for it, or the screen refuses what there is to say about one of these. Each stage is reached
if the ones above it are passed. -/
inductive EndsEarly (q : GenerateRequest) (around : Surroundings) : Trouble CommandError → Prop
  | language {e : Trouble RegistryError} (h : around.registry.resolve q.language = .error e) :
      EndsEarly q around (e.map .registry)
  | config {name : Text} {e : Trouble ConfigError}
      (hknown : around.registry.resolve q.language = .ok name)
      (h : (loadConfig around.tree (.str name) (.object q.overrides) q.config).1 = .error e) :
      EndsEarly q around (e.map .config)
  | check {name : Text} {c : Config} {f : Fault} (hread : q.ReadsConfig around name c)
      (h : c.warnings = .error f) : EndsEarly q around (.fault f)
  | warnings {name : Text} {c : Config} {ws : List Text} {f : Fault}
      (hread : q.ReadsConfig around name c) (hchecked : c.warnings = .ok ws)
      (h : around.screen.Refuses (ws.map Item.warning) f) : EndsEarly q around (.fault f)
  | schema {name : Text} {c : Config} {e : Trouble ModelError}
      (hchecked : q.ChecksConfig around name c)
      (h : (loadModel around.tree q.schema q.url around.reply).1 = .error e) :
      EndsEarly q around (e.map .model)
  | source {name source : Text} {c : Config} {m : Model} {f : Fault}
      (hchecked : q.ChecksConfig around name c)
      (hmodel : (loadModel around.tree q.schema q.url around.reply).1 = .ok (source, m))
      (h : around.screen.Refuses [.loaded source] f) : EndsEarly q around (.fault f)
  | generator {name : Text} {c : Config} {m : Model} {e : Trouble RegistryError}
      (hread : q.ReadsModel around name c m)
      (h : (around.registry.create around.tree (.str name) (.given c)).1 = .error e) :
      EndsEarly q around (e.map .registry)
  | target {name : Text} {c : Config} {m : Model} {g : Generator} {f : Fault}
      (hmade : q.MakesGenerator around name c m g) (h : q.target c = .error f) :
      EndsEarly q around (.fault f)

/-- The files of a model, generated into a target. -/
def files (tree : FileTree) (m : Model) (g : Generator) (target : Target) :
    Session × Except (Trouble GenerationError) GenerationResult :=
  Session.generateCode ⟨g, { tree, target }⟩ m

/-- All stages of a generation come to their end : its files are generated, and the result is
shown. -/
def Completes (q : GenerateRequest) (around : Surroundings) : Prop :=
  ∃ m g target after paths warnings metadata, q.Prepares around m g target ∧
    files around.tree m g target = (after, .ok (.done paths warnings metadata)) ∧
    around.screen.Takes (q.resultShown after.workspace paths warnings metadata)

/-- What else a generation ends with. Either it ends early, or its files cannot be generated, or a
template of theirs cannot be filled in, or the screen refuses the result. -/
inductive EndsWith (q : GenerateRequest) (around : Surroundings) : Trouble CommandError → Prop
  | early {e : Trouble CommandError} (h : q.EndsEarly around e) : EndsWith q around e
  | generation {m : Model} {g : Generator} {target : Target} {e : Trouble GenerationError}
      (hprepared : q.Prepares around m g target)
      (h : (files around.tree m g target).2 = .error e) : EndsWith q around (e.map .generation)
  | failed {m : Model} {g : Generator} {target : Target} {e : Template.Error}
      (hprepared : q.Prepares around m g target)
      (h : (files around.tree m g target).2 = .ok (.failed e)) :
      EndsWith q around (.cause (.failed e))
  | result {m : Model} {g : Generator} {target : Target} {after : Session}
      {paths warnings : List Text} {metadata : Metadata} {f : Fault}
      (hprepared : q.Prepares around m g target)
      (hdone : files around.tree m g target = (after, .ok (.done paths warnings metadata)))
      (h : around.screen.Refuses (q.resultShown after.workspace paths warnings metadata) f) :
      EndsWith q around (.fault f)

/-! ## The stages computed -/

/-- What a run works with, without what is logged on the way. -/
def material (q : GenerateRequest) (around : Surroundings) :
    Except (Trouble CommandError) (Model × Generator × Config) := do
  let language ← Trouble.widen .registry (around.registry.resolve q.language)
  let config ← Trouble.widen .config
    (loadConfig around.tree (.str language) (.object q.overrides) q.config).1
  let warnings ← Trouble.ofFault config.warnings
  let _ ← Trouble.ofFault (around.screen.take (warnings.map Item.warning)).2
  let (source, model) ← Trouble.widen .model (loadModel around.tree q.schema q.url around.reply).1
  let _ ← Trouble.ofFault (around.screen.take [.loaded source]).2
  let generator ← Trouble.widen .registry
    (around.registry.create around.tree (.str language) (.given config)).1
  return (model, generator, config)

/-- The second stage, without what is logged in it. -/
def emission (q : GenerateRequest) (around : Surroundings) (m : Model) (g : Generator)
    (target : Target) : Except (Trouble CommandError) Unit :=
  match files around.tree m g target with
  | (_, .error e) => .error (e.map .generation)
  | (_, .ok (.failed e)) => .error (.cause (.failed e))
  | (after, .ok (.done paths warnings metadata)) =>
    Trouble.ofFault
      (around.screen.take (q.resultShown after.workspace paths warnings metadata)).2

/-- The stages of a generation : whether they all came to their end, or what ended the run. -/
def ending (q : GenerateRequest) (around : Surroundings) :
    Except (Trouble CommandError) Unit := do
  let (model, generator, config) ← q.material around
  let target ← Trouble.ofFault (q.target config)
  q.emission around model generator target

variable {q : GenerateRequest} {around : Surroundings}

theorem yields_read (q : GenerateRequest) (around : Surroundings) :
    (q.read around).Yields (q.material around) := by
  refine (Step.yields_logged _ _).bind fun language => ?_
  refine (Step.yields_logged _ _).bind fun config => ?_
  refine (Step.yields_ofFault _).bind fun warnings => ?_
  refine (Step.yields_showItems _ _).bind fun _ => ?_
  refine (Step.yields_logged _ _).bind fun (source, model) => ?_
  refine (Step.yields_showItems _ _).bind fun _ => ?_
  refine (Step.yields_logged _ _).bind fun generator => ?_
  exact Step.yields_pure _

theorem yields_prepare (q : GenerateRequest) (around : Surroundings) :
    (q.prepare around).Yields (q.material around >>= fun (model, generator, config) =>
      Trouble.ofFault (q.target config) >>= fun target => .ok (model, generator, target)) := by
  refine (yields_read q around).bind fun (model, generator, config) => ?_
  exact (Step.yields_ofFault _).bind fun target => Step.yields_pure _

theorem material_eq_ok_iff {m : Model} {g : Generator} {c : Config} :
    q.material around = .ok (m, g, c) ↔ ∃ name, q.MakesGenerator around name c m g := by
  constructor
  · intro h
    obtain ⟨name, hknown, h⟩ := bind_eq_ok_iff.1 h
    obtain ⟨config, hloaded, h⟩ := bind_eq_ok_iff.1 h
    obtain ⟨ws, hwarnings, h⟩ := bind_eq_ok_iff.1 h
    obtain ⟨_, hshown, h⟩ := bind_eq_ok_iff.1 h
    obtain ⟨⟨source, model⟩, hmodel, h⟩ := bind_eq_ok_iff.1 h
    obtain ⟨_, hsource, h⟩ := bind_eq_ok_iff.1 h
    obtain ⟨generator, hmade, h⟩ := bind_eq_ok_iff.1 h
    obtain ⟨rfl, rfl, rfl⟩ : model = m ∧ generator = g ∧ config = c := by simpa using h
    have hchecked : q.ChecksConfig around name config :=
      ⟨⟨mapError_eq_ok_iff.1 hknown, mapError_eq_ok_iff.1 hloaded⟩, ws,
        mapError_eq_ok_iff.1 hwarnings, Screen.take_eq_ok_iff.1 (mapError_eq_ok_iff.1 hshown)⟩
    have hread : q.ReadsModel around name config model :=
      ⟨hchecked, source, mapError_eq_ok_iff.1 hmodel,
        Screen.take_eq_ok_iff.1 (mapError_eq_ok_iff.1 hsource)⟩
    exact ⟨name, hread, mapError_eq_ok_iff.1 hmade⟩
  · rintro ⟨name, ⟨⟨⟨hknown, hloaded⟩, ws, hwarnings, hshown⟩, source, hmodel, hsource⟩, hmade⟩
    simp only [material, hknown, hloaded, hwarnings, Screen.take_of_takes hshown, hmodel,
      Screen.take_of_takes hsource, hmade, widen_ok, ofFault_ok, bind_ok]
    rfl

theorem endsEarly_of_material {e : Trouble CommandError} (h : q.material around = .error e) :
    q.EndsEarly around e := by
  rcases bind_eq_error_iff.1 h with hlanguage | ⟨name, hknown, h⟩
  · obtain ⟨e', he', rfl⟩ := mapError_eq_error_iff.1 hlanguage
    exact .language he'
  have hknown := mapError_eq_ok_iff.1 hknown
  rcases bind_eq_error_iff.1 h with hconfig | ⟨c, hloaded, h⟩
  · obtain ⟨e', he', rfl⟩ := mapError_eq_error_iff.1 hconfig
    exact .config hknown he'
  have hread : q.ReadsConfig around name c := ⟨hknown, mapError_eq_ok_iff.1 hloaded⟩
  rcases bind_eq_error_iff.1 h with hfault | ⟨ws, hwarnings, h⟩
  · obtain ⟨f, hf, rfl⟩ := mapError_eq_error_iff.1 hfault
    exact .check hread hf
  have hwarnings := mapError_eq_ok_iff.1 hwarnings
  rcases bind_eq_error_iff.1 h with hrefused | ⟨_, hshown, h⟩
  · obtain ⟨f, hf, rfl⟩ := mapError_eq_error_iff.1 hrefused
    exact .warnings hread hwarnings (Screen.take_eq_error_iff.1 hf)
  have hchecked : q.ChecksConfig around name c :=
    ⟨hread, ws, hwarnings, Screen.take_eq_ok_iff.1 (mapError_eq_ok_iff.1 hshown)⟩
  rcases bind_eq_error_iff.1 h with hschema | ⟨⟨source, m⟩, hmodel, h⟩
  · obtain ⟨e', he', rfl⟩ := mapError_eq_error_iff.1 hschema
    exact .schema hchecked he'
  have hmodel := mapError_eq_ok_iff.1 hmodel
  rcases bind_eq_error_iff.1 h with hrefused | ⟨_, hsource, h⟩
  · obtain ⟨f, hf, rfl⟩ := mapError_eq_error_iff.1 hrefused
    exact .source hchecked hmodel (Screen.take_eq_error_iff.1 hf)
  have hread : q.ReadsModel around name c m :=
    ⟨hchecked, source, hmodel, Screen.take_eq_ok_iff.1 (mapError_eq_ok_iff.1 hsource)⟩
  rcases bind_eq_error_iff.1 h with hgenerator | ⟨g, -, h⟩
  · obtain ⟨e', he', rfl⟩ := mapError_eq_error_iff.1 hgenerator
    exact .generator hread he'
  · cases h

/-- The first stage of a generation fails exactly in one of the ways that end it early. -/
theorem prepared_eq_error_iff {e : Trouble CommandError} :
    (q.material around >>= fun (model, generator, config) =>
      Trouble.ofFault (q.target config) >>= fun target =>
        Except.ok (model, generator, target)) = .error e ↔ q.EndsEarly around e := by
  constructor
  · intro h
    rcases bind_eq_error_iff.1 h with hmaterial | ⟨⟨m, g, c⟩, hmaterial, h⟩
    · exact endsEarly_of_material hmaterial
    obtain ⟨name, hmade⟩ := material_eq_ok_iff.1 hmaterial
    rcases bind_eq_error_iff.1 h with htarget | ⟨target, -, h⟩
    · obtain ⟨f, hf, rfl⟩ := mapError_eq_error_iff.1 htarget
      exact .target hmade hf
    · cases h
  · rintro (h | ⟨hknown, h⟩ | ⟨⟨hknown, hloaded⟩, h⟩ | ⟨⟨hknown, hloaded⟩, hwarnings, h⟩ |
      ⟨⟨⟨hknown, hloaded⟩, ws, hwarnings, hshown⟩, h⟩ |
      ⟨⟨⟨hknown, hloaded⟩, ws, hwarnings, hshown⟩, hmodel, h⟩ |
      ⟨⟨⟨⟨hknown, hloaded⟩, ws, hwarnings, hshown⟩, source, hmodel, hsource⟩, h⟩ | ⟨hmade, h⟩)
    · simp only [material, h, widen_error, bind_error]
    · simp only [material, hknown, h, widen_ok, widen_error, bind_ok, bind_error]
    · simp only [material, hknown, hloaded, h, widen_ok, ofFault_error, bind_ok, bind_error]
    · simp only [material, hknown, hloaded, hwarnings, Screen.take_of_refuses h, widen_ok,
        ofFault_ok, ofFault_error, bind_ok, bind_error]
    · simp only [material, hknown, hloaded, hwarnings, Screen.take_of_takes hshown, h, widen_ok,
        ofFault_ok, widen_error, bind_ok, bind_error]
    · simp only [material, hknown, hloaded, hwarnings, Screen.take_of_takes hshown, hmodel,
        Screen.take_of_refuses h, widen_ok, ofFault_ok, ofFault_error, bind_ok, bind_error]
    · simp only [material, hknown, hloaded, hwarnings, Screen.take_of_takes hshown, hmodel,
        Screen.take_of_takes hsource, h, widen_ok, ofFault_ok, widen_error, bind_ok, bind_error]
    · rw [material_eq_ok_iff.2 ⟨_, hmade⟩]
      simp only [h, ofFault_error, bind_ok, bind_error]

/-- The first stage of a generation, as the run goes through it. -/
theorem prepare_eq_error_iff {e : Trouble CommandError} :
    ((q.prepare around).run {}).1 = .error e ↔ q.EndsEarly around e := by
  rw [yields_prepare q around {}]
  exact prepared_eq_error_iff

theorem ending_eq (q : GenerateRequest) (around : Surroundings) : q.ending around =
    ((q.material around >>= fun (model, generator, config) =>
      Trouble.ofFault (q.target config) >>= fun target => .ok (model, generator, target)) >>=
        fun (model, generator, target) => q.emission around model generator target) := by
  unfold ending
  cases q.material around with
  | error e => rfl
  | ok material =>
    obtain ⟨m, g, c⟩ := material
    simp only [bind_ok]
    cases q.target c <;> rfl

theorem prepared_eq_ok_iff {m : Model} {g : Generator} {target : Target} :
    (q.material around >>= fun (model, generator, config) =>
      Trouble.ofFault (q.target config) >>= fun target =>
        Except.ok (model, generator, target)) = .ok (m, g, target) ↔
      q.Prepares around m g target := by
  constructor
  · intro h
    obtain ⟨⟨model, generator, c⟩, hmaterial, h⟩ := bind_eq_ok_iff.1 h
    obtain ⟨target', htarget, h⟩ := bind_eq_ok_iff.1 h
    obtain ⟨rfl, rfl, rfl⟩ : model = m ∧ generator = g ∧ target' = target := by simpa using h
    obtain ⟨name, hmade⟩ := material_eq_ok_iff.1 hmaterial
    exact ⟨name, c, hmade, mapError_eq_ok_iff.1 htarget⟩
  · rintro ⟨name, c, hmade, htarget⟩
    rw [material_eq_ok_iff.2 ⟨name, hmade⟩]
    simp only [htarget, ofFault_ok, bind_ok]

/-- The computed stages come to their end exactly if all stages do. -/
theorem ending_eq_ok_iff : q.ending around = .ok () ↔ q.Completes around := by
  rw [ending_eq, bind_eq_ok_iff]
  constructor
  · rintro ⟨⟨m, g, target⟩, hprepared, h⟩
    replace h : q.emission around m g target = .ok () := h
    unfold emission at h
    split at h
    · cases h
    · cases h
    next after paths warnings metadata hfiles =>
      exact ⟨m, g, target, after, paths, warnings, metadata, prepared_eq_ok_iff.1 hprepared, hfiles,
        Screen.take_eq_ok_iff.1 (mapError_eq_ok_iff.1 h)⟩
  · rintro ⟨m, g, target, after, paths, warnings, metadata, hprepared, hfiles, htakes⟩
    refine ⟨(m, g, target), prepared_eq_ok_iff.2 hprepared, ?_⟩
    simp only [emission, hfiles, Screen.take_of_takes htakes]
    rfl

/-- They end with an error or a fault exactly if a stage does. -/
theorem ending_eq_error_iff {e : Trouble CommandError} :
    q.ending around = .error e ↔ q.EndsWith around e := by
  rw [ending_eq, bind_eq_error_iff]
  constructor
  · rintro (h | ⟨⟨m, g, target⟩, hprepared, h⟩)
    · exact .early (prepared_eq_error_iff.1 h)
    · have hprepared := prepared_eq_ok_iff.1 hprepared
      replace h : q.emission around m g target = .error e := h
      unfold emission at h
      split at h
      next trouble hfiles =>
        obtain rfl := Except.error.inj h
        exact .generation hprepared (congrArg Prod.snd hfiles)
      next e' hfiles =>
        obtain rfl := Except.error.inj h
        exact .failed hprepared (congrArg Prod.snd hfiles)
      next hfiles =>
        obtain ⟨f, hf, rfl⟩ := mapError_eq_error_iff.1 h
        exact .result hprepared hfiles (Screen.take_eq_error_iff.1 hf)
  · rintro (h | ⟨hprepared, h⟩ | ⟨hprepared, h⟩ | ⟨hprepared, hdone, h⟩)
    · exact .inl (prepared_eq_error_iff.2 h)
    · refine .inr ⟨_, prepared_eq_ok_iff.2 hprepared, ?_⟩
      rename_i m g target _
      cases hfiles : files around.tree m g target with
      | mk after result =>
        obtain rfl : result = _ := (congrArg Prod.snd hfiles).symm.trans h
        simp only [emission, hfiles]
    · refine .inr ⟨_, prepared_eq_ok_iff.2 hprepared, ?_⟩
      rename_i m g target _
      cases hfiles : files around.tree m g target with
      | mk after result =>
        obtain rfl : result = _ := (congrArg Prod.snd hfiles).symm.trans h
        simp only [emission, hfiles]
    · refine .inr ⟨_, prepared_eq_ok_iff.2 hprepared, ?_⟩
      simp only [emission, hdone, Screen.take_of_refuses h]
      rfl

end GenerateRequest

/-! ## Exits -/

/-- The exit of a run that ends so. A cause is shown at the end, which the screen can refuse. -/
def exitOf (screen : Screen) : Except (Trouble CommandError) Unit → Except Fault Nat
  | .ok () => .ok 0
  | .error (.cause e) => (screen.take [e.item]).2 >>= fun _ => .ok 1
  | .error (.fault f) => .error f

section Exits

variable {screen : Screen} {r : Except (Trouble CommandError) Unit}

theorem exitOf_cause (screen : Screen) (e : CommandError) : exitOf screen (.error (.cause e)) =
    match screen e.item with
    | some f => .error f
    | none => .ok 1 := by
  simp only [exitOf, Screen.take]
  cases screen e.item <;> rfl

theorem exit_ofTrouble (screen : Screen) (trouble : Trouble CommandError) (transcript : Transcript)
    (tree : FileTree) :
    (Outcome.ofTrouble screen transcript tree trouble).exit = exitOf screen (.error trouble) := by
  cases trouble <;> rfl

theorem exitOf_eq_zero_iff : exitOf screen r = .ok 0 ↔ r = .ok () := by
  match r with
  | .ok () => simp [exitOf]
  | .error (.fault f) => simp [exitOf]
  | .error (.cause e) =>
    rw [exitOf_cause]
    cases screen e.item <;> simp

theorem exitOf_eq_one_iff : exitOf screen r = .ok 1 ↔
    ∃ e, r = .error (.cause e) ∧ screen e.item = none := by
  match r with
  | .ok () => simp [exitOf]
  | .error (.fault f) => simp [exitOf]
  | .error (.cause e) =>
    rw [exitOf_cause]
    cases hitem : screen e.item <;> simp [hitem]

theorem exitOf_eq_error_iff {f : Fault} : exitOf screen r = .error f ↔
    r = .error (.fault f) ∨ ∃ e, r = .error (.cause e) ∧ screen e.item = some f := by
  match r with
  | .ok () => simp [exitOf]
  | .error (.fault f) => simp [exitOf]
  | .error (.cause e) =>
    rw [exitOf_cause]
    cases hitem : screen e.item <;> simp [hitem]

end Exits

namespace GenerateRequest

theorem exit_complete (q : GenerateRequest) (around : Surroundings) (transcript : Transcript)
    (m : Model) (g : Generator) (target : Target) :
    (q.complete around.screen transcript around.tree (m, g, target)).exit =
      exitOf around.screen (q.emission around m g target) := by
  -- The session goes on with the log of the first stage, which changes no result.
  have hlog : Session.SameWork ⟨g, { tree := around.tree, target, log := transcript.log }⟩
    ⟨g, { tree := around.tree, target }⟩ := ⟨rfl, rfl, rfl⟩
  obtain ⟨hsame, hresult⟩ := hlog.generateCode m
  unfold complete emission files generate
  dsimp only
  cases hrun : Session.generateCode
      ⟨g, { tree := around.tree, target, log := transcript.log }⟩ m with
  | mk after result =>
    cases hrun' : Session.generateCode ⟨g, { tree := around.tree, target }⟩ m with
    | mk after' result' =>
      rw [hrun, hrun'] at hsame hresult
      obtain rfl : result = result' := hresult
      match result with
      | .error trouble => exact exit_ofTrouble around.screen (trouble.map .generation) _ _
      | .ok (.failed e) => rfl
      | .ok (.done paths warnings metadata) =>
        have htarget : after.workspace.target = after'.workspace.target := hsame.files.target
        have hshown : q.resultShown after.workspace paths warnings metadata =
            q.resultShown after'.workspace paths warnings metadata := by
          simp only [resultShown, filesShown, htarget]
        rw [Outcome.exit_showing, hshown]
        show _ = exitOf around.screen (Trouble.ofFault
          (around.screen.take (q.resultShown after'.workspace paths warnings metadata)).2)
        cases (around.screen.take (q.resultShown after'.workspace paths warnings metadata)).2
        · rfl
        · rfl

theorem exit_run (q : GenerateRequest) (around : Surroundings) :
    (q.run around).exit = exitOf around.screen (q.ending around) := by
  have hyields := yields_prepare q around {}
  rw [ending_eq]
  unfold run
  cases hprepare : (q.prepare around).run {} with
  | mk result transcript =>
    rw [hprepare] at hyields
    rw [← hyields]
    cases result with
    | error trouble => exact exit_ofTrouble around.screen trouble _ _
    | ok prepared =>
      obtain ⟨m, g, target⟩ := prepared
      exact exit_complete q around transcript m g target

end GenerateRequest

/-! ## Subcommands -/

namespace Subcommand

/-- The subcommand comes to its end. -/
def Completes (around : Surroundings) : Subcommand → Prop
  | .generate q => q.Completes around
  | .languages => ∃ languages, around.registry.describeAll = .ok languages ∧
      around.screen.Takes (languagesShown languages)

/-- What else a subcommand ends with : the list of languages can lack a description of one, or the
screen refuses it. -/
def EndsWith (around : Surroundings) (e : Trouble CommandError) : Subcommand → Prop
  | .generate q => q.EndsWith around e
  | .languages => (∃ e', around.registry.describeAll = .error e' ∧ e = e'.map .registry) ∨
      ∃ languages f, around.registry.describeAll = .ok languages ∧
        around.screen.Refuses (languagesShown languages) f ∧ e = .fault f

/-- What a subcommand ends in. -/
def ending (around : Surroundings) : Subcommand → Except (Trouble CommandError) Unit
  | .generate q => q.ending around
  | .languages => do
    let languages ← Trouble.widen .registry around.registry.describeAll
    Trouble.ofFault (around.screen.take (languagesShown languages)).2

variable {around : Surroundings} {c : Subcommand}

theorem ending_eq_ok_iff : c.ending around = .ok () ↔ c.Completes around := by
  cases c with
  | generate q => exact GenerateRequest.ending_eq_ok_iff
  | languages =>
    rw [ending, bind_eq_ok_iff]
    exact exists_congr fun languages => and_congr mapError_eq_ok_iff
      (mapError_eq_ok_iff.trans Screen.take_eq_ok_iff)

theorem ending_eq_error_iff {e : Trouble CommandError} :
    c.ending around = .error e ↔ c.EndsWith around e := by
  cases c with
  | generate q => exact GenerateRequest.ending_eq_error_iff
  | languages =>
    rw [ending, bind_eq_error_iff]
    refine or_congr ?_ (exists_congr fun languages => ?_)
    · exact mapError_eq_error_iff.trans (exists_congr fun e' => and_congr_right fun _ => eq_comm)
    · rw [exists_and_left]
      refine and_congr mapError_eq_ok_iff (mapError_eq_error_iff.trans (exists_congr fun f => ?_))
      exact and_congr Screen.take_eq_error_iff eq_comm

theorem exit_run (around : Surroundings) (c : Subcommand) :
    (c.run around).exit = exitOf around.screen (c.ending around) := by
  cases c with
  | generate q => exact q.exit_run around
  | languages =>
    simp only [run, runLanguages, ending]
    cases around.registry.describeAll with
    | error trouble => exact exit_ofTrouble around.screen (trouble.map .registry) _ _
    | ok languages =>
      simp only [Outcome.exit_showing, widen_ok, bind_ok]
      cases (around.screen.take (languagesShown languages)).2 <;> rfl

end Subcommand

/-! ## Invocations -/

namespace Invocation

/-- The level is one, and the subcommand comes to its end. -/
def Completes (i : Invocation) (around : Surroundings) : Prop :=
  (∃ level, i.logLevel = .ok level) ∧ ∃ c, i.subcommand = some c ∧ c.Completes around

/-- The level is one, and the subcommand, if there is one at all, ends with an error that has a
cause and can be shown. -/
def Fails (i : Invocation) (around : Surroundings) : Prop :=
  (∃ level, i.logLevel = .ok level) ∧ ∀ c, i.subcommand = some c →
    ∃ e, c.EndsWith around (.cause e) ∧ around.screen e.item = none

/-- The level is none, or the subcommand ends with a fault, or with an error that cannot be
shown. -/
def Faults (i : Invocation) (around : Surroundings) (f : Fault) : Prop :=
  i.logLevel = .error f ∨ (∃ level, i.logLevel = .ok level) ∧ ∃ c, i.subcommand = some c ∧
    (c.EndsWith around (.fault f) ∨
      ∃ e, c.EndsWith around (.cause e) ∧ around.screen e.item = some f)

variable {args : List String} {i : Invocation} {around : Surroundings}

theorem exit_of_logLevel (hargs : ofArguments args = .ok i) {level : Level}
    (hlevel : i.logLevel = .ok level) : (CommandLine.run around args).exit =
      match i.subcommand with
      | some c => exitOf around.screen (c.ending around)
      | none => .ok 1 := by
  simp only [CommandLine.run, hargs, hlevel]
  cases i.subcommand with
  | none => rfl
  | some c => exact c.exit_run around

theorem exit_of_logLevel_error (hargs : ofArguments args = .ok i) {f : Fault}
    (hlevel : i.logLevel = .error f) : (CommandLine.run around args).exit = .error f := by
  simp only [CommandLine.run, hargs, hlevel]

theorem exit_eq_zero_iff (hargs : ofArguments args = .ok i) :
    (CommandLine.run around args).exit = .ok 0 ↔ i.Completes around := by
  unfold Completes
  cases hlevel : i.logLevel with
  | error f => simp [exit_of_logLevel_error hargs hlevel]
  | ok level =>
    rw [exit_of_logLevel hargs hlevel]
    cases i.subcommand with
    | none => simp
    | some c => simp [exitOf_eq_zero_iff, Subcommand.ending_eq_ok_iff]

theorem exit_eq_one_iff (hargs : ofArguments args = .ok i) :
    (CommandLine.run around args).exit = .ok 1 ↔ i.Fails around := by
  unfold Fails
  cases hlevel : i.logLevel with
  | error f => simp [exit_of_logLevel_error hargs hlevel]
  | ok level =>
    rw [exit_of_logLevel hargs hlevel]
    cases i.subcommand with
    | none => simp
    | some c => simp [exitOf_eq_one_iff, Subcommand.ending_eq_error_iff]

theorem exit_eq_error_iff (hargs : ofArguments args = .ok i) {f : Fault} :
    (CommandLine.run around args).exit = .error f ↔ i.Faults around f := by
  unfold Faults
  cases hlevel : i.logLevel with
  | error g => simp [exit_of_logLevel_error hargs hlevel]
  | ok level =>
    rw [exit_of_logLevel hargs hlevel]
    cases i.subcommand with
    | none => simp
    | some c => simp [exitOf_eq_error_iff, Subcommand.ending_eq_error_iff]

/-- There is no fourth way to end. -/
theorem completes_or_fails_or_faults (hargs : ofArguments args = .ok i) (around : Surroundings) :
    i.Completes around ∨ i.Fails around ∨ ∃ f, i.Faults around f := by
  rw [← exit_eq_zero_iff hargs, ← exit_eq_one_iff hargs]
  simp only [← exit_eq_error_iff hargs]
  cases hlevel : i.logLevel with
  | error f => exact .inr (.inr ⟨f, exit_of_logLevel_error hargs hlevel⟩)
  | ok level =>
    rw [exit_of_logLevel hargs hlevel]
    cases i.subcommand with
    | none => exact .inr (.inl rfl)
    | some c =>
      match hc : c.ending around with
      | .ok () => exact .inl (by simp only [hc]; rfl)
      | .error (.fault f) => exact .inr (.inr ⟨f, by simp only [hc]; rfl⟩)
      | .error (.cause e) =>
        simp only [hc, exitOf_cause]
        cases around.screen e.item with
        | none => exact .inr (.inl rfl)
        | some f => exact .inr (.inr ⟨f, rfl⟩)

end Invocation

end DtoPress.CommandLine
