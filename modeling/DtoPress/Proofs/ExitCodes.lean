import DtoPress.Proofs.Documents
import DtoPress.Proofs.DryRun
import DtoPress.Proofs.Endings
import DtoPress.Proofs.Failures
import DtoPress.Proofs.Fitting
import DtoPress.Proofs.Readings
import DtoPress.Proofs.Registrations

/-!
# Exit codes

`run_exit` : the exit code of a run is zero if its subcommand came to its end and one if an error
with a cause ended it. The third way to end is a fault, which leaves no exit code, and the theorem
says for which inputs there is none : what is read is JSON of the expected kind or cannot be read
for a reason that has a wording (`FileTree.valueAt`, `Url.replyTo`), settings are of the kind that
they are used as (`Config.fitsFile`), and names can be written (`GenerateRequest.takes`). Then each
stage of `GenerateRequest.ending` gives the next one what it can work with
(`GenerateRequest.answers_ending`).

A document of another shape does end a run without an exit code (`run_sampleMisshapen_no_exit`).
-/

set_option linter.unusedSectionVars false

namespace DtoPress

/-! ## Documents that are read -/

/-- The value that the file at a path writes. -/
def FileTree.valueAt (t : FileTree) (p : Path) : Except (Trouble Unit) Value := do
  if ← Trouble.ofFault (t.hasPath p) then
    let s ← Trouble.widen (fun _ => ()) (t.readText p)
    Trouble.widen (fun _ => ()) (Json.read s)
  else throw (.cause ())

/-- The value that a reply to a request for a URL writes. -/
def Url.replyTo (url : Text) (reply : Except TransportError Response) :
    Except (Trouble Unit) Value := do
  if (← Trouble.ofFault (Url.ofText url)).isComplete then
    let r ← (acceptResponse reply).mapError fun _ => .cause ()
    Trouble.widen (fun _ => ()) (Json.read r.body)
  else throw (.cause ())

/-- What is read from a file can be printed. -/
theorem FileTree.isPrintable_of_valueAt {t : FileTree} {p : Path} {v : Value}
    (h : t.valueAt p = .ok v) : v.isPrintable = true := by
  obtain ⟨there, -, h⟩ := bind_eq_ok_iff.1 h
  split at h
  · obtain ⟨s, -, h⟩ := bind_eq_ok_iff.1 h
    exact Json.isPrintable_of_read (mapError_eq_ok_iff.1 h)
  · cases h

theorem Url.isPrintable_of_replyTo {url : Text} {reply : Except TransportError Response}
    {v : Value} (h : Url.replyTo url reply = .ok v) : v.isPrintable = true := by
  obtain ⟨parsed, -, h⟩ := bind_eq_ok_iff.1 h
  split at h
  · obtain ⟨r, -, h⟩ := bind_eq_ok_iff.1 h
    exact Json.isPrintable_of_read (mapError_eq_ok_iff.1 h)
  · cases h

section Loading

variable {P : Value → Prop} {t : FileTree} {p : Path} {log : Log} {url : Text} {r : Response}

theorem FileTree.answers_valueAt_iff : Answers P (t.valueAt p) ↔ ∃ there, t.hasPath p = .ok there ∧
    (there = true → Answers (fun s => Answers P (Json.read s)) (t.readText p)) := by
  rw [valueAt, answers_bind_iff, answers_ofFault_iff]
  refine exists_congr fun there => and_congr_right fun _ => ?_
  cases there with
  | false => simp
  | true => simp [answers_bind_iff, answers_widen_iff]

theorem answers_loadFile (h : Answers P (t.valueAt p)) :
    Answers (fun loaded => P loaded.2) (loadFile t p).1 := by
  obtain ⟨there, hpath, h⟩ := FileTree.answers_valueAt_iff.1 h
  unfold loadFile
  simp only [hpath]
  cases there with
  | false => trivial
  | true =>
    rcases (h rfl).exists_or with ⟨s, hs, h⟩ | ⟨e, he⟩
    · rcases h.exists_or with ⟨document, hdocument, h⟩ | ⟨e, he⟩
      · simp only [hs, hdocument]
        exact h
      · simp only [hs, he]
        trivial
    · simp only [he]
      trivial

theorem answers_readConfigFile (h : Answers P (t.valueAt p)) :
    Answers (fun fields => P (.object fields)) (readConfigFile t p) := by
  obtain ⟨there, hpath, h⟩ := FileTree.answers_valueAt_iff.1 h
  rw [readConfigFile, answers_bind_iff, answers_ofFault_iff]
  refine ⟨there, hpath, ?_⟩
  cases there with
  | false => trivial
  | true =>
    simp only [Bool.not_true, Bool.false_eq_true, if_false]
    split
    · trivial
    · rw [answers_bind_iff, answers_widen_iff]
      refine (h rfl).mono fun s hs => ?_
      rw [answers_bind_iff, answers_widen_iff]
      refine hs.mono fun v hv => ?_
      split
      · exact hv
      · trivial

theorem answers_readResponse (h : Answers P (Json.read r.body)) :
    Answers (fun loaded => P loaded.2) (readResponse log url r).1 := by
  unfold readResponse
  rcases h.exists_or with ⟨document, hdocument, h⟩ | ⟨e, he⟩
  · simp only [hdocument]
    exact h
  · simp only [he]
    trivial

theorem answers_loadUrl {reply : Except TransportError Response}
    (h : Answers P (Url.replyTo url reply)) :
    Answers (fun loaded => P loaded.2) (loadUrl (.str url) reply).1 := by
  obtain ⟨parsed, hparsed, h⟩ := answers_ofFault_iff.1 (answers_bind_iff.1 h)
  unfold loadUrl
  simp only [Url.ofValue, hparsed]
  split
  next hcomplete =>
    rw [if_pos hcomplete] at h
    cases hr : acceptResponse reply with
    | error e => trivial
    | ok r =>
      rw [hr] at h
      exact answers_readResponse ((answers_widen_iff _).1 h)
  · trivial

end Loading

/-! ## Configurations -/

/-- The settings in a configuration file fit. What is no object is refused, whatever it is. -/
def Config.fitsFile : Value → Bool
  | .object fields => fields.all Config.fits
  | _ => true

/-- Files and overrides that fit make a configuration that fits, or are refused with a cause. -/
theorem answers_loadConfig {t : FileTree} {file : Value} {overrides : Entries Text Value}
    (language : Text) (hoverrides : ∀ s ∈ overrides, Config.fits s = true)
    (hfile : Answers (fun layer => ∀ s ∈ layer.1, Config.fits s = true) (fileLayer t file)) :
    Answers Config.Fits (loadConfig t (.str language) (.object overrides) file).1 := by
  rcases hfile.exists_or with ⟨⟨fields, log⟩, hlayer, hfields⟩ | ⟨e, he⟩
  · rw [loadConfig_eq hlayer]
    exact answers_ofFault (Config.exists_layered_fits language hfields hoverrides)
  · have hcause : (loadConfig t (.str language) (.object overrides) file).1 =
        .error (.cause e) := by
      simp only [loadConfig, he]
      rfl
    rw [hcause]
    trivial

theorem Config.Fits.exists_warnings {c : Config} (h : c.Fits) : ∃ ws, c.warnings = .ok ws := by
  rw [Config.warnings, if_pos h.quote]
  exact ⟨_, rfl⟩

/-! ## Generators -/

namespace Registry

/-- The built-in language is the only one. -/
theorem answers_entry_standard (language : Text) :
    Answers (fun e : LanguageEntry => e.name = "typescript") (standard.entry (.str language)) := by
  cases hentry : standard.entry (.str language) with
  | ok e =>
    have hall : ∀ entry ∈ standard.entries, entry.2.name = "typescript" := by
      intro entry hentry
      rcases List.mem_cons.1 hentry with rfl | hentry
      · rfl
      · rw [List.mem_singleton.1 hentry]
    exact hall _ (Entries.mem_of_get? (entry_eq_ok_iff.1 hentry))
  | error e =>
    have hname : Trouble.ofFault (ε := RegistryError) (nameOf (.str language)) =
      .ok (Text.lower language) := rfl
    rw [entry, hname, bind_ok] at hentry
    split at hentry
    · cases hentry
    · obtain rfl := Except.error.inj hentry
      trivial

theorem answers_resolve_standard (language : Text) :
    Answers (fun name : Text => name = "typescript") (standard.resolve (.str language)) := by
  rw [resolve, answers_bind_iff]
  exact answers_entry_standard language

theorem create_standard (t : FileTree) (c : Config) :
    (standard.create t (.str "typescript") (.given c)).1 =
      Trouble.ofFault (Generator.create .typescript c) := by
  have hentry : standard.entry (.str "typescript") =
      .ok { name := "typescript", generator := .typescript, aliases := ["ts"] } :=
    entry_insert _ (by decide)
  unfold create
  rw [hentry]
  show (Trouble.ofFault (Generator.create .typescript c) >>= _) = _
  cases Generator.create .typescript c <;> rfl

/-- Each language of the registry can be described. -/
theorem exists_describeAll_standard : ∃ languages, standard.describeAll = .ok languages := by
  have hok : standard.describeAll.isOk = true := by decide +kernel
  cases h : standard.describeAll with
  | ok languages => exact ⟨languages, rfl⟩
  | error e =>
    rw [h] at hok
    cases hok

end Registry

/-! ## Files -/

namespace Generator

variable {g : Generator} {m : Model}

/-- A generation into a buffer or below a directory comes to its end, or it is refused with a
cause. -/
theorem Ready.answers_generateCode (hg : g.Ready) (hs : g.settings.isTextual = true)
    (hsettings : g.settings.isWritable = true) (hindent : g.indent.isWhole = true)
    (hm : m.isTextual = true) (hwritable : m.isWritable = true) (tree : FileTree) {target : Target}
    (htarget : target = .buffer [] ∨ ∃ root, root.fault? = none ∧ target = .directory root []) :
    Answers (fun _ => True) (Session.generateCode ⟨g, { tree, target }⟩ m).2 := by
  have hmodules := (Settings.isTextual_iff.1 hs).1
  rcases htarget with rfl | ⟨root, hroot, rfl⟩
  · obtain ⟨after, warnings, metadata, hrun, -⟩ := hg.generateCode_buffer hmodules hm tree []
    rw [hrun]
    trivial
  · have hfault := hg.writeAll_ne_fault hmodules hsettings hindent hm hwritable hroot
      (w := { tree, target := .directory root [] }) rfl
    cases hwrites : Workspace.writeAll { tree, target := .directory root [] }
        (Emission.writes (g.plan m)) with
    | mk w trouble =>
      rw [hwrites] at hfault
      match trouble with
      | none =>
        obtain ⟨after, warnings, metadata, hrun, -⟩ := hg.generateCode_of_writes hmodules hm
          hwrites (congrArg Target.written (Workspace.writeAll_fresh rfl hwrites))
        rw [hrun]
        trivial
      | some (.fault f) => exact absurd rfl (hfault f)
      | some (.cause e) =>
        let s : Session := ⟨g, { tree, target := .directory root [] }⟩
        -- The warnings in the log make no difference to the write that is refused.
        obtain ⟨-, htrouble⟩ := Session.emitAll_eq_writeAll (g.plan m) (s.warned m)
        rw [(Workspace.writeAll_congr (s.warned_sameFiles m) _).2, hwrites] at htrouble
        rw [Session.generateCode_of_emitAll hm (Prod.ext rfl htrouble)]
        trivial

end Generator

/-! ## Requests -/

namespace CommandLine

namespace GenerateRequest

/-- A request can work with the document : its shape is the expected one, and the texts of the model
that it describes can be written. -/
def takes (document : Value) : Bool :=
  document.isDocument &&
    match Model.ofDocument document with
    | .ok m => m.isWritable
    | .error _ => true

/-- The request has no two dashes in the place of its language and a path that can be written to,
and what it reads is JSON of the expected kind, or it cannot be read for a reason that has a
wording. -/
structure Regular (q : GenerateRequest) (around : Surroundings) : Prop where
  language : q.language ≠ .list []
  output : ∀ path, q.output = .str path → (Path.ofText path).fault? = none
  config : ∀ path, q.config = .str path → path ≠ [] →
    Answers (Config.fitsFile · = true) (around.tree.valueAt (.ofText path))
  schema : ∀ path, q.schema = .str path → path ≠ [] →
    Answers (takes · = true) (around.tree.valueAt (.ofText path))
  url : ∀ url, q.url = .str url → url ≠ [] →
    Answers (takes · = true) (Url.replyTo url around.reply)

variable {q : GenerateRequest} {around : Surroundings}

/-- What is given and does not count as false is a text. -/
theorem exists_text_of_truthy {v : Value} (h : v = .null ∨ IsUsed v) (htruthy : v.truthy = true) :
    ∃ t, v = .str t ∧ t ≠ [] := by
  rcases h with rfl | rfl | ⟨s, rfl⟩
  · cases htruthy
  · cases htruthy
  · refine ⟨_, rfl, fun hempty => ?_⟩
    rw [hempty] at htruthy
    cases htruthy

theorem overrides_fit (hq : q.OfArguments) (h : q.Regular around) :
    ∀ s ∈ q.overrides, Config.fits s = true := by
  intro s hs
  obtain ⟨⟨given, s'⟩, hmem, rfl⟩ := List.mem_map.1 hs
  obtain ⟨hmem, hgiven⟩ := List.mem_filter.1 hmem
  -- The switches are no settings of the language, so their values are free.
  have hswitch : ∀ name ∈ ["emit_type_coercion", "generate_enums", "generate_helpers",
      "add_comments"], ∀ b, Config.fits (.ofString name, .bool b) = true := by decide +kernel
  simp only [List.mem_cons, Prod.mk.injEq, List.not_mem_nil, or_false] at hmem
  rcases hmem with ⟨rfl, rfl⟩ | ⟨-, rfl⟩ | ⟨-, rfl⟩ | ⟨-, rfl⟩ | ⟨-, rfl⟩
  · obtain ⟨path, hpath, -⟩ := exists_text_of_truthy hq.output hgiven
    show (q.output.isText && (Path.ofText q.output.text).fault?.isNone) = true
    rw [hpath, Value.text_str, h.output path hpath]
    rfl
  · exact hswitch "emit_type_coercion" (by simp) true
  · exact hswitch "generate_enums" (by simp) false
  · exact hswitch "generate_helpers" (by simp) false
  · exact hswitch "add_comments" (by simp) false

theorem answers_fileLayer (hq : q.OfArguments) (h : q.Regular around) :
    Answers (fun layer => ∀ s ∈ layer.1, Config.fits s = true)
      (fileLayer around.tree q.config) := by
  unfold fileLayer
  split
  next htruthy =>
    obtain ⟨path, hpath, hne⟩ := exists_text_of_truthy hq.config htruthy
    rw [hpath]
    refine (answers_readConfigFile (h.config path hpath hne)).bind fun fields hfields => ?_
    exact List.all_eq_true.1 hfields
  · show ∀ s ∈ [], _
    simp

/-- The model of a request is textual and can be written. -/
theorem answers_ofDocument {document : Value} (h : takes document = true)
    (hprintable : document.isPrintable = true) :
    Answers (fun m => m.isTextual = true ∧ m.isWritable = true) (Model.ofDocument document) := by
  obtain ⟨hdocument, hwritable⟩ := Bool.and_eq_true_iff.1 h
  rcases (Model.answers_ofDocument hdocument hprintable).exists_or with ⟨m, hm, htextual⟩ | ⟨e, he⟩
  · rw [hm] at hwritable ⊢
    exact ⟨htextual, hwritable⟩
  · rw [he]
    trivial

theorem answers_loadDocument (hq : q.OfArguments) (h : q.Regular around) :
    Answers (fun loaded => takes loaded.2 = true ∧ loaded.2.isPrintable = true)
      (loadDocument around.tree q.schema q.url around.reply).1 := by
  unfold loadDocument
  split
  · trivial
  · trivial
  next hschema _ =>
    obtain ⟨path, hpath, hne⟩ := exists_text_of_truthy hq.schema hschema
    rw [hpath]
    exact answers_loadFile ((h.schema path hpath hne).and fun _ => FileTree.isPrintable_of_valueAt)
  next _ hurl =>
    obtain ⟨url, hurl, hne⟩ := exists_text_of_truthy hq.url hurl
    rw [hurl]
    exact answers_loadUrl ((h.url url hurl hne).and fun _ => Url.isPrintable_of_replyTo)

theorem answers_loadModel (hq : q.OfArguments) (h : q.Regular around) :
    Answers (fun loaded => loaded.2.isTextual = true ∧ loaded.2.isWritable = true)
      (loadModel around.tree q.schema q.url around.reply).1 := by
  unfold loadModel
  have hdocument := answers_loadDocument hq h
  split
  next e log hload =>
    rw [hload] at hdocument
    exact hdocument.error_map _
  next source document log hload =>
    rw [hload] at hdocument
    have hmodel := answers_ofDocument hdocument.1 hdocument.2
    split
    next hfailed =>
      rw [hfailed] at hmodel
      exact hmodel.error_map _
    next hmade =>
      rw [hmade] at hmodel
      exact hmodel

/-- The target of a request is a buffer if nothing is written, else a directory that can be
written to. -/
theorem exists_target (q : GenerateRequest) {c : Config}
    (hc : ∃ t, c.outputDir = .str t ∧ (Path.ofText t).fault? = none) :
    ∃ target, q.target c = .ok target ∧ (target = .buffer [] ∨
      ∃ root, root.fault? = none ∧ target = .directory root []) := by
  unfold target
  cases q.dryRun with
  | true => exact ⟨_, rfl, .inl rfl⟩
  | false =>
    obtain ⟨t, ht, hfault⟩ := hc
    rw [ht]
    exact ⟨_, rfl, .inr ⟨_, hfault, rfl⟩⟩

/-- The stages of a regular request end with a value or with a cause, if nothing is refused on the
screen. -/
theorem answers_ending (hq : q.OfArguments) (h : q.Regular around)
    (hregistry : around.registry = .standard) (hscreen : around.screen = .lenient) :
    Answers (fun _ => True) (q.ending around) := by
  obtain ⟨language, hlanguage⟩ := hq.language.resolve_left h.language
  have htake : ∀ items, (Screen.take .lenient items).2 = .ok () := fun items =>
    Screen.take_eq_ok_iff.2 (Screen.lenient_takes items)
  unfold ending material
  -- Stage by stage : each one answers, and what it gives fits what the next one works with.
  simp only [answers_bind_iff, answers_widen_iff, hregistry, hscreen, hlanguage, htake, ofFault_ok,
    pure_eq_ok, answers_ok]
  refine (Registry.answers_resolve_standard _).mono fun name hname => ?_
  subst hname
  refine (answers_loadConfig _ (overrides_fit hq h) (answers_fileLayer hq h)).mono fun c hc => ?_
  obtain ⟨warnings, hwarnings⟩ := hc.exists_warnings
  refine answers_ofFault_iff.2 ⟨warnings, hwarnings, ?_⟩
  refine (answers_loadModel hq h).mono fun loaded hloaded => ?_
  obtain ⟨source, m⟩ := loaded
  obtain ⟨htextual, hwritable⟩ := hloaded
  rw [Registry.create_standard]
  obtain ⟨g, hg, hsettings, hwhole, hindent⟩ := hc.exists_create
  refine answers_ofFault_iff.2 ⟨g, hg, ?_⟩
  obtain ⟨target, htarget, hfits⟩ := q.exists_target hc.output
  refine answers_ofFault_iff.2 ⟨target, htarget, ?_⟩
  have hgenerated := (Generator.ready_of_create hg).answers_generateCode hsettings hwhole hindent
    htextual hwritable around.tree hfits
  unfold emission files
  cases hrun : Session.generateCode ⟨g, { tree := around.tree, target }⟩ m with
  | mk after result =>
    rw [hrun] at hgenerated
    cases result with
    | error trouble =>
      cases trouble with
      | cause e => trivial
      | fault f => exact hgenerated.elim
    | ok result =>
      cases result with
      | failed e => trivial
      | done paths warnings metadata =>
        simp only [hscreen, htake]
        trivial

end GenerateRequest

/-! ## Runs -/

/-- The subcommands of an invocation find the one built-in language, its level is a word, its
request is regular, and the screen takes what there is to show. -/
structure Invocation.Regular (i : Invocation) (around : Surroundings) : Prop where
  registry : around.registry = .standard
  level : i.level ≠ .list []
  request : ∀ q, i.subcommand = some (.generate q) → q.Regular around
  screen : ∀ c, i.subcommand = some c →
    around.screen.Takes (c.run { around with screen := .lenient }).transcript.shown

/-- A regular invocation ends with an exit code. -/
theorem Invocation.Regular.exit {args : List String} {i : Invocation} {around : Surroundings}
    (h : i.Regular around) (hargs : ofArguments args = .ok i) :
    (CommandLine.run around args).exit = .ok 0 ∨ (CommandLine.run around args).exit = .ok 1 := by
  obtain ⟨-, -, -, hrequest⟩ := ofArguments_eq_ok hargs
  obtain ⟨level, hlevel⟩ := exists_logLevel hargs h.level
  rw [exit_of_logLevel hargs hlevel]
  cases hc : i.subcommand with
  | none => exact .inr rfl
  | some c =>
    -- The screen takes what is shown, so the run is that on the lenient screen.
    have hexit := congrArg Outcome.exit (Subcommand.run_of_takes (h.screen c hc))
    rw [c.exit_run, c.exit_run] at hexit
    have hanswers : Answers (fun _ => True) (c.ending { around with screen := .lenient }) := by
      cases c with
      | generate q =>
        have hregular : q.Regular { around with screen := .lenient } :=
          let ⟨h₁, h₂, h₃, h₄, h₅⟩ := h.request q hc
          ⟨h₁, h₂, h₃, h₄, h₅⟩
        exact GenerateRequest.answers_ending (hrequest q hc) hregular h.registry rfl
      | languages =>
        obtain ⟨languages, hlanguages⟩ := Registry.exists_describeAll_standard
        rw [Subcommand.ending, h.registry, hlanguages, widen_ok, bind_ok,
          Screen.take_of_takes (Screen.lenient_takes _)]
        trivial
    show exitOf around.screen (c.ending around) = _ ∨ exitOf around.screen (c.ending around) = _
    rw [hexit]
    rcases hanswers.exists_or with ⟨⟨⟩, hok, -⟩ | ⟨e, he⟩
    · rw [hok]
      exact .inl rfl
    · rw [he]
      exact .inr rfl

/-- Arguments that give `sampleRequest`. -/
def sampleArguments : List String :=
  ["generate", "schema.json", "--output", "out", "--no-enums", "--no-helpers"]

/-- A schema whose models are no list. -/
def sampleMisshapen : Surroundings :=
  { registry := .standard
    tree := { nodes := [(["schema.json"], .file (.text "\x7b\"models\": 3\x7d"))] }
    reply := .error .timeout }

end CommandLine

end DtoPress
