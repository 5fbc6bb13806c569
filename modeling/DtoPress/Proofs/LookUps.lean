import DtoPress.Proofs.Generators
import DtoPress.Proofs.Writes

/-!
# Generators in use

A generator changes in nothing but the templates that it has looked up. A look-up keeps what is
found anyway (`Template.Engine.find?_lookUp`), so whatever a generator has written before, it finds
the same templates and makes the same emissions (`Generator.used_plan`), and what a run leaves of it
is the generator in use (`Session.generateCode_generator`).
-/

namespace DtoPress

namespace Template.Engine

variable (e : Engine) (names : List String)

/-- Engines that find the same render the same. -/
theorem text_lookUpAll (name : Option String) (r : Rendering) :
    (e.lookUpAll names).text name r = e.text name r := by
  rw [text, text, funext (find?_lookUpAll names e)]

theorem lookedUp_lookUpAll (r : Rendering) : (e.lookUpAll names).lookedUp r = e.lookedUp r := by
  rw [lookedUp, lookedUp, funext (find?_lookUpAll names e)]

theorem rendering_lookUpAll (name : String) (builtIn : BuiltIn → Except Problem Text)
    (given : Except Problem Context) :
    (e.lookUpAll names).rendering name builtIn given = e.rendering name builtIn given := by
  rw [lookUpAll_eq]
  rfl

end Template.Engine

namespace Generator

/-! ## Emissions of a generator in use -/

variable (g : Generator) (names : List String)

theorem used_used (more : List String) : (g.used names).used more = g.used (names ++ more) := by
  simp only [used, Template.Engine.lookUpAll, List.foldl_append]

theorem used_rendering (b : Template.BuiltIn) (context : Template.Context)
    (text : Except SpacesError Text) :
    (g.used names).rendering b context text = g.rendering b context text :=
  g.engine.rendering_lookUpAll names b.fileName _ (.ok context)

theorem used_emission (b : Template.BuiltIn) (context : Template.Context)
    (text : Except SpacesError Text) (path : Text) (notes : List Text) :
    (g.used names).emission b context text path notes = g.emission b context text path notes := by
  have hlookedUp (r : Template.Rendering) :
      (g.used names).engine.lookedUp r = g.engine.lookedUp r :=
    g.engine.lookedUp_lookUpAll names r
  have htext (name : Option String) (r : Template.Rendering) :
      (g.used names).engine.text name r = g.engine.text name r :=
    g.engine.text_lookUpAll names name r
  simp only [emission, rendered, used_rendering, hlookedUp, htext]

theorem used_unit (e : Entity) : (g.used names).unit e = g.unit e := by
  have hstyle : (g.used names).unitStyle = g.unitStyle := by
    simp only [unitStyle, used, Template.Engine.quote_lookUpAll]
  rw [unit, hstyle, unit]

theorem used_layout : (g.used names).layout = g.layout := by
  simp only [layout, used, Template.Engine.quote_lookUpAll]

theorem used_emitEntity (e : Entity) : (g.used names).emitEntity e = g.emitEntity e := by
  simp only [emitEntity, used_unit, used_layout, used_emission]
  rfl

theorem used_emitEnum (e : EnumType) : (g.used names).emitEnum e = g.emitEnum e := by
  have hquote : (g.used names).engine.quote = g.engine.quote := g.engine.quote_lookUpAll names
  simp only [emitEnum, used_emission, hquote]
  rfl

theorem used_emitIndex (kind : BarrelKind) (values : List Value) :
    (g.used names).emitIndex kind values = g.emitIndex kind values := by
  have hquote : (g.used names).engine.quote = g.engine.quote := g.engine.quote_lookUpAll names
  simp only [emitIndex, emitBarrel, used_emission, hquote]
  rfl

theorem used_emitIndexOf (kind values : Value) :
    (g.used names).emitIndexOf kind values = g.emitIndexOf kind values := by
  simp only [emitIndexOf, used_emitIndex]

theorem used_emitHelpers : (g.used names).emitHelpers = g.emitHelpers := by
  simp only [emitHelpers, used_emission]
  rfl

theorem used_emitDecorators : (g.used names).emitDecorators = g.emitDecorators := by
  have hquote : (g.used names).engine.quote = g.engine.quote := g.engine.quote_lookUpAll names
  simp only [emitDecorators, used_emission, hquote]
  rfl

/-- A generator in use has the plan that it had when it was new. -/
theorem used_plan (m : Model) : (g.used names).plan m = g.plan m := by
  have hentity : (g.used names).emitEntity = g.emitEntity := funext (g.used_emitEntity names)
  have henum : (g.used names).emitEnum = g.emitEnum := funext (g.used_emitEnum names)
  rw [plan, plan, hentity, henum, used_emitIndex, used_emitIndex, used_emitHelpers,
    used_emitDecorators]
  rfl

end Generator

/-! ## Sessions -/

namespace Session

theorem lookUp_generator (s : Session) (names : List String) :
    (s.lookUp names).generator = s.generator.used names := rfl

theorem emit_generator (s : Session) (e : Emission) :
    (s.emit e).1.generator = s.generator.used e.lookUps := by
  simp only [emit, write]
  split
  · split <;> exact s.lookUp_generator e.lookUps
  · exact s.lookUp_generator e.lookUps

theorem emitAll_generator : ∀ (es : List Emission) (s : Session), ∃ names,
    (s.emitAll es).1.generator = s.generator.used names
  | [], s => ⟨[], rfl⟩
  | e :: es, s => by
    have hfirst := s.emit_generator e
    rw [emitAll]
    cases hemit : s.emit e with
    | mk after trouble =>
      rw [hemit] at hfirst
      cases trouble with
      | some trouble => exact ⟨_, hfirst⟩
      | none =>
        obtain ⟨names, hnames⟩ := emitAll_generator es after
        exact ⟨e.lookUps ++ names, by rw [hnames, hfirst, Generator.used_used]⟩

theorem report_generator (s : Session) (m : Model) (warnings : List Text) :
    (s.report m warnings).1.generator = s.generator := by
  unfold report
  split <;> rfl

/-- A run changes a generator in nothing but the templates that it has looked up. -/
theorem generateCode_generator (s : Session) (m : Model) : ∃ names,
    (s.generateCode m).1.generator = s.generator.used names := by
  rw [generateCode]
  split
  · exact ⟨[], rfl⟩
  next warnings hwarnings =>
    obtain ⟨hgenerator, -⟩ := foldl_note_sameFiles warnings s
    dsimp only
    generalize warnings.foldl (fun s w => s.note .warning w) s = noted at hgenerator ⊢
    obtain ⟨names, hnames⟩ := emitAll_generator (noted.generator.plan m) noted
    refine ⟨names, ?_⟩
    rw [generate]
    cases hrun : noted.emitAll (noted.generator.plan m) with
    | mk last trouble =>
      rw [hrun, hgenerator] at hnames
      rw [← hnames]
      split
      next after hnone =>
        obtain ⟨rfl, -⟩ := Prod.mk.inj hnone
        exact report_generator last m warnings
      next after e hcause => exact congrArg (Session.generator ∘ Prod.fst) hcause.symm
      next after other _ hother => exact congrArg (Session.generator ∘ Prod.fst) hother.symm

end Session

end DtoPress
