import DtoPress.Proofs.Alignment
import DtoPress.Proofs.Contents
import DtoPress.Proofs.Uncommented

/-!
# Indentation is layout

The size of the indentation has no part in anything but the spaces in front of lines. A generator
that is made with another size has another text of spaces and is otherwise the same
(`Generator.create_reindented`), so its files are aligned with those of the first
(`Generator.alike_plan`). What a run writes comes to the same once the spaces in front of all lines
are left out (`Text.outdented`), and leaving them out keeps whether a text has bytes
(`Text.keepsBytes_outdented`). Hence runs with two sizes end alike and leave files with the same
lines but for spaces (`Session.generateCode_reindented`).
-/

set_option linter.unusedSectionVars false

namespace DtoPress

/-! ## Texts without indentation -/

namespace Text

/-- The text without the spaces in front of its lines. -/
def outdented (t : Text) : Text :=
  joinLines (unindented t)

/-- The texts have as many lines, and the lines are the same but for spaces in front of them. -/
def SameLines (t t' : Text) : Prop :=
  List.Forall₂ (fun l l' => dropSpaces l = dropSpaces l') (splitLines t) (splitLines t')

variable {t t' : Text}

theorem splitLines_outdented (t : Text) : splitLines (outdented t) = unindented t :=
  splitLines_joinLines_map (fun _ hl hmem => hl ((List.dropWhile_sublist _).subset hmem)) t

theorem outdented_eq_iff : outdented t = outdented t' ↔ SameLines t t' := by
  have hlines : outdented t = outdented t' ↔ unindented t = unindented t' := by
    refine ⟨fun h => ?_, congrArg joinLines⟩
    rw [← splitLines_outdented, h, splitLines_outdented]
  rw [hlines, SameLines, unindented, unindented, ← List.forall₂_eq_eq_eq,
    List.forall₂_map_left_iff, List.forall₂_map_right_iff]

theorem Aligned.outdented_eq (h : Aligned t t') : outdented t = outdented t' :=
  congrArg joinLines h.unindented_eq

theorem isWhole_dropSpaces : ∀ l : Text, (dropSpaces l).isWhole = l.isWhole
  | [] => rfl
  | c :: l => by
    have ih := isWhole_dropSpaces l
    unfold dropSpaces at ih ⊢
    rw [List.dropWhile_cons]
    split
    next hspace =>
      rw [ih, of_decide_eq_true hspace, isWhole_cons_char]
    · rfl

/-- Spaces have bytes, so it makes no difference to the others whether they are left out. -/
theorem keepsBytes_outdented : KeepsBytes outdented where
  nil := rfl
  isWhole t := by
    rw [Bool.eq_iff_iff, outdented, unindented, isWhole_joinLines, List.forall_mem_map]
    simp only [isWhole_dropSpaces]
    rw [← isWhole_joinLines, joinLines_splitLines]

end Text

/-! ## Files without indentation -/

/-- The files have the same text but for spaces in front of lines, or the same bytes. -/
def Content.SameLines : Content → Content → Prop
  | .text s, .text s' => Text.SameLines s s'
  | .bytes data, .bytes data' => data = data'
  | _, _ => False

/-- Both are directories, or both are files, with the same lines but for spaces in front. -/
def Node.SameLines : Node → Node → Prop
  | .directory, .directory => True
  | .file content, .file content' => content.SameLines content'
  | _, _ => False

/-- The workspaces have the same paths in the same order, and the files at them the same lines but
for spaces in front. -/
structure Workspace.SameLines (w w' : Workspace) : Prop where
  tree : List.Forall₂ (fun e e' => e.1 = e'.1 ∧ Node.SameLines e.2 e'.2) w.tree.nodes w'.tree.nodes
  files : List.Forall₂ (fun e e' => e.1 = e'.1 ∧ Text.SameLines e.2 e'.2)
    w.target.files w'.target.files
  written : w.target.written = w'.target.written

theorem Content.sameLines_of_mapText : ∀ {content content' : Content},
    content.mapText Text.outdented = content'.mapText Text.outdented → content.SameLines content'
  | .bytes _, .bytes _, h => Content.bytes.inj h
  | .text s, .text s', h => by
    have hwhole (s : String) : (Text.outdented s).isWhole = true :=
      (Text.keepsBytes_outdented.isWhole s).trans (Text.isWhole_ofString s)
    obtain ⟨u, hu⟩ := Text.exists_string? (hwhole s)
    obtain ⟨u', hu'⟩ := Text.exists_string? (hwhole s')
    have heq := Content.text.inj h
    rw [hu, hu'] at heq
    obtain rfl : u = u' := heq
    exact Text.outdented_eq_iff.1 ((Text.eq_of_string? hu).trans (Text.eq_of_string? hu').symm)

theorem Node.sameLines_of_mapText : ∀ {node node' : Node},
    node.mapText Text.outdented = node'.mapText Text.outdented → node.SameLines node'
  | .directory, .directory, _ => trivial
  | .file _, .file _, h => Content.sameLines_of_mapText (Node.file.inj h)

/-- Workspaces that come to the same without indentation have the same lines. -/
theorem Workspace.sameLines_of_mapTexts {w w' : Workspace}
    (h : w.mapTexts Text.outdented = w'.mapTexts Text.outdented) : w.SameLines w' where
  tree := (Entries.forall₂_of_mapValues (congrArg (·.tree.nodes) h)).imp
    fun _ _ he => ⟨he.1, Node.sameLines_of_mapText he.2⟩
  files := by
    have hfiles : Entries.mapValues Text.outdented w.target.files =
        Entries.mapValues Text.outdented w'.target.files := by
      have htargets : w.target.mapTexts Text.outdented = w'.target.mapTexts Text.outdented :=
        congrArg Workspace.target h
      rw [← Target.files_mapTexts, htargets, Target.files_mapTexts]
    exact (Entries.forall₂_of_mapValues hfiles).imp
      fun _ _ he => ⟨he.1, Text.outdented_eq_iff.1 he.2⟩
  written := Workspace.written_of_mapTexts h

/-! ## Generators with another indentation -/

namespace Generator

variable {kind : GeneratorClass} {c : Config} {g : Generator} {size : Value} {n : Nat}

/-- The generator with an indentation of another size, which is a number of spaces. -/
def reindented (g : Generator) (size : Value) (n : Nat) : Generator :=
  { g with config := { g.config with indentSize := size }, indent := List.replicate n (.char ' ') }

/-- With another size of the indentation a generator is made just as well, if the size is a number
of spaces, and it differs in its indentation alone. -/
theorem create_reindented (h : create kind c = .ok g) (size : Value) :
    create kind { c with indentSize := size } =
      ((spacesOf size).mapError SpacesError.fault).map (g.reindented size) := by
  obtain rfl := config_of_create h
  rw [create_eq h { g.config with indentSize := size } rfl rfl, indentation]
  cases spacesOf size <;> rfl

theorem Ready.reindented (hg : g.Ready) (hn : spacesOf size = .ok n) :
    (g.reindented size n).Ready :=
  ⟨hg.types, ⟨n, hn⟩, hg.builtIn⟩

theorem Ready.reindents_layout (hg : g.Ready) (hindent : Text.IsSpaces g.indent)
    (hn : spacesOf size = .ok n) : g.layout.Reindents (g.reindented size n).layout where
  quote := rfl
  indent := hindent
  indent' := Text.isSpaces_replicate n
  spaces := hg.spaces
  spaces' := ⟨n, hn⟩

/-- Emissions of aligned texts come to the same without indentation. -/
theorem alike_emission {g g' : Generator} (hg : g.Ready) (hg' : g'.Ready) (b : Template.BuiltIn)
    (context context' : Template.Context) {t t' : Text} (h : Text.Aligned t t') (path : Text)
    (notes : List Text) : (g.emission b context (.ok t) path notes).Alike Text.outdented
      (g'.emission b context' (.ok t') path notes) := by
  have hdraft : Draft.mapText Text.outdented ⟨path, t, notes⟩ =
      Draft.mapText Text.outdented ⟨path, t', notes⟩ := by
    rw [Draft.mapText, h.outdented_eq, Draft.mapText]
  rw [emission, emission, hg.rendered, hg'.rendered, hg.lookedUp, hg'.lookedUp]
  exact congrArg (Emission.mk [b.fileName]) (congrArg Except.ok hdraft)

/-- Indentation has no part in barrels. -/
theorem alike_emitIndex (kind : BarrelKind) (names : List Value) :
    (g.emitIndex kind names).Alike Text.outdented ((g.reindented size n).emitIndex kind names) :=
  rfl

section Plan

variable (hg : g.Ready) (hindent : Text.IsSpaces g.indent) (hn : spacesOf size = .ok n)
include hg hindent hn

theorem alike_emitEntity (e : Entity) :
    (g.emitEntity e).Alike Text.outdented ((g.reindented size n).emitEntity e) := by
  have hunit : (g.reindented size n).unit e = g.unit e := rfl
  unfold emitEntity
  rw [hunit]
  cases g.unit e with
  | error f => rfl
  | ok unit =>
    cases hdeclared : unit.declaration with
    | none =>
      simp only [hdeclared]
      rfl
    | some c =>
      obtain ⟨t, t', ht, ht', haligned⟩ :=
        exists_classFile_aligned (hg.reindents_layout hindent hn) unit.imports c
      simp only [hdeclared, ht, ht']
      exact alike_emission hg (hg.reindented hn) .model _ _ haligned _ _

theorem alike_emitEnum (e : EnumType) :
    (g.emitEnum e).Alike Text.outdented ((g.reindented size n).emitEnum e) :=
  alike_emission hg (hg.reindented hn) .enum _ _ (aligned_enumFile hindent
    (Text.isSpaces_replicate n) g.engine.quote g.config.addComments.truthy e) _ _

theorem alike_emitHelpers :
    g.emitHelpers.Alike Text.outdented (g.reindented size n).emitHelpers :=
  alike_emission hg (hg.reindented hn) .helpers _ _
    (aligned_codeLines hindent (Text.isSpaces_replicate n) helperLines) _ _

theorem alike_emitDecorators :
    g.emitDecorators.Alike Text.outdented (g.reindented size n).emitDecorators :=
  alike_emission hg (hg.reindented hn) .decorators _ _
    (aligned_codeLines hindent (Text.isSpaces_replicate n) (decoratorLines _ _ _ _)) _ _

/-- The emissions of a model come to the same without indentation. -/
theorem alike_plan (m : Model) : List.Forall₂ (Emission.Alike Text.outdented) (g.plan m)
    ((g.reindented size n).plan m) := by
  have hentities : List.Forall₂ (Emission.Alike Text.outdented) (m.entities.map g.emitEntity)
      (m.entities.map (g.reindented size n).emitEntity) :=
    forall₂_map_same fun e _ => alike_emitEntity hg hindent hn e
  have henums : List.Forall₂ (Emission.Alike Text.outdented) (m.enums.map g.emitEnum)
      (m.enums.map (g.reindented size n).emitEnum) :=
    forall₂_map_same fun e _ => alike_emitEnum hg hindent hn e
  rw [plan_eq, plan_eq]
  refine List.rel_append hentities (.cons (alike_emitIndex .models m.entityNames)
    (List.rel_append ?_ ?_))
  · show List.Forall₂ _ (if g.config.generateEnums.truthy then _ else [])
      (if g.config.generateEnums.truthy then _ else [])
    split
    · exact List.rel_append henums (.cons (alike_emitIndex .enums m.enumNames) .nil)
    · exact .nil
  · refine List.rel_append ?_ (.cons (alike_emitDecorators hg hindent hn) .nil)
    show List.Forall₂ _ (if g.config.generateHelpers.truthy then _ else [])
      (if g.config.generateHelpers.truthy then _ else [])
    split
    · exact .cons (alike_emitHelpers hg hindent hn) .nil
    · exact .nil

end Plan

end Generator

/-- Indentation is only layout. Whatever a configuration says besides, a generator is made with any
other size of the indentation that is a number of spaces, and with no size that is none. Runs of the
two generators on a model end alike, and they leave the same paths in the same order, with files
that have the same lines but for the spaces in front of them. -/
theorem Session.generateCode_reindented {kind : GeneratorClass} {c : Config} {g : Generator}
    (h : Generator.create kind c = .ok g) (size : Value) :
    (∀ e, spacesOf size = .error e →
      Generator.create kind { c with indentSize := size } = .error e.fault) ∧
    ∀ n, spacesOf size = .ok n → ∃ g',
      Generator.create kind { c with indentSize := size } = .ok g' ∧
      ∀ (lookUps : List String) (w : Workspace) (m : Model),
        (generateCode ⟨g.used lookUps, w⟩ m).2 = (generateCode ⟨g'.used lookUps, w⟩ m).2 ∧
        (generateCode ⟨g.used lookUps, w⟩ m).1.workspace.SameLines
          (generateCode ⟨g'.used lookUps, w⟩ m).1.workspace := by
  have hcreate := Generator.create_reindented h size
  refine ⟨fun e he => by rw [hcreate, he]; rfl, fun n hn => ?_⟩
  refine ⟨g.reindented size n, by rw [hcreate, hn]; rfl, fun lookUps w m => ?_⟩
  have hindent : Text.IsSpaces g.indent := by
    obtain ⟨settings, k, -, -, rfl⟩ := Generator.of_create h
    exact Text.isSpaces_replicate k
  have hready := Generator.ready_used_of_create h lookUps
  have hplan := Generator.alike_plan (g := g.used lookUps) hready hindent hn m
  have hstart : Alike Text.outdented ⟨g.used lookUps, w⟩ ⟨(g.reindented size n).used lookUps, w⟩ :=
    ⟨rfl, rfl⟩
  obtain ⟨halike, hresult⟩ := generateCode_mapTexts Text.keepsBytes_outdented hstart m hplan
  exact ⟨hresult, Workspace.sameLines_of_mapTexts halike.files⟩

/-- The run of a generator on an entity with documentation of several lines. -/
def Session.sampleRun (g : Generator) : Session × Except (Trouble GenerationError) GenerationResult :=
  generateCode ⟨g.used [], { tree := {}, target := .buffer [] }⟩ { entities := [.sampleDocumented] }

/-- With four spaces and with none the files are not the same. -/
theorem Session.generateCode_reindented_sampleDocumented : ∃ g g' : Generator,
    Generator.create .typescript {} = .ok g ∧ spacesOf (.int 0) = .ok 0 ∧
    Generator.create .typescript { indentSize := .int 0 } = .ok g' ∧
    (sampleRun g).2.isOk = true ∧ (sampleRun g).2 = (sampleRun g').2 ∧
    (sampleRun g).1.workspace.target.files ≠ (sampleRun g').1.workspace.target.files ∧
    (sampleRun g).1.workspace.SameLines (sampleRun g').1.workspace := by
  obtain ⟨g, hg⟩ : ∃ g, Generator.create .typescript {} = .ok g := ⟨_, rfl⟩
  have hsize : spacesOf (.int 0) = .ok 0 := by decide +kernel
  obtain ⟨g', hg', hruns⟩ := (generateCode_reindented hg (.int 0)).2 0 hsize
  obtain ⟨hresult, hlines⟩ := hruns [] { tree := {}, target := .buffer [] }
    { entities := [.sampleDocumented] }
  have hcheck : ((Generator.create .typescript {}).toOption.bind fun g =>
      (Generator.create .typescript { indentSize := .int 0 }).toOption.map fun g' =>
        (sampleRun g).2.isOk && (sampleRun g).1.workspace.target.files !=
          (sampleRun g').1.workspace.target.files) = some true := by
    decide +kernel
  rw [hg, hg'] at hcheck
  obtain ⟨hok, hfiles⟩ := Bool.and_eq_true_iff.1 (Option.some.inj hcheck)
  exact ⟨g, g', hg, hsize, hg', hok, hresult, bne_iff_ne.1 hfiles, hlines⟩

end DtoPress
