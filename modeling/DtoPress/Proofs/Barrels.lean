import DtoPress.Proofs.ClassFiles
import DtoPress.Proofs.Literals
import DtoPress.Proofs.LookUps

/-!
# What barrels export

A barrel has one statement for each name that it is given, in the order of the names. A statement
spells the name twice, in the symbol that it exports and in the literal of the module, which is read
back as that module whatever characters the name has (`BarrelKind.exports_exportCode`). So the text
of a barrel says which names it was given and how often, but not in which order
(`Generator.barrelText_eq_iff`). `Session.emitIndexOf_exports` : an emission of a barrel writes this
text and nothing else, and for any other kind it is refused and changes nothing.
-/

set_option linter.unusedSectionVars false

namespace DtoPress

/-! ## Export statements -/

namespace BarrelKind

/-- What the symbol that is exported has behind the name. -/
def symbolEnd : BarrelKind → Text
  | .models => "DTO"
  | .enums => ""

/-- What the module that it is exported from has behind the name. -/
def moduleEnd : BarrelKind → Text
  | .models => "DTO.model"
  | .enums => ".enum"

/-- The module that is exported from for a name. -/
def moduleOf (kind : BarrelKind) (name : Text) : Text :=
  "./" ++ name ++ kind.moduleEnd

/-- The line is an export statement for the name, with a literal in quote character `q` that is read
as the module, whatever comes behind it. -/
def Exports (kind : BarrelKind) (q : Char) (name line : Text) : Prop :=
  ∃ literal : Text,
    line = "export \x7b " ++ (name ++ kind.symbolEnd) ++ " \x7d from " ++ literal ++ ";\n" ∧
      ∀ rest, Text.readLiteral q (literal ++ rest) = some (kind.moduleOf name, rest)

/-- What a statement has behind the name. -/
def behindName (kind : BarrelKind) (q : Char) (name : Text) : Text :=
  kind.symbolEnd ++ " \x7d from " ++ Text.literal q (kind.moduleOf name) ++ ";"

/-- The statement for a name, without the end of the line. -/
def exportCode (kind : BarrelKind) (q : Char) (name : Text) : Text :=
  "export \x7b " ++ (name ++ kind.behindName q name)

variable {q : Char}

theorem exportLine_exportOf (kind : BarrelKind) (q : Char) (name : Text) :
    exportLine q (kind.exportOf (.str name)) = kind.exportCode q name ++ "\n" := by
  cases kind <;> simp only [exportLine, exportOf, exportCode, behindName, symbolEnd, moduleOf,
    moduleEnd, dtoName, Value.text_str, List.append_assoc] <;> rfl

theorem exports_exportCode (hq : q ≠ '\\') (kind : BarrelKind) (name : Text) :
    kind.Exports q name (kind.exportCode q name ++ "\n") := by
  refine ⟨Text.literal q (kind.moduleOf name), ?_, Text.readLiteral_literal hq _⟩
  simp only [exportCode, behindName, List.append_assoc]
  rfl

/-- Different names have different statements. -/
theorem exportCode_injective (kind : BarrelKind) (q : Char) :
    Function.Injective (kind.exportCode q) := by
  intro name other h
  have hlonger : ∀ t more,
      (kind.behindName q t).length ≤ (kind.behindName q (t ++ more)).length := by
    intro t more
    have hliteral := Text.length_literal_le q "./" t more kind.moduleEnd
    simp only [behindName, moduleOf, List.length_append]
    exact Nat.add_le_add_right (Nat.add_le_add_left hliteral _) _
  exact Text.append_self_injective hlonger (List.append_cancel_left h)

theorem isLine_exportCode (hq : q ≠ '\n') (kind : BarrelKind) {name : Text}
    (h : name.isLine = true) : (kind.exportCode q name).isLine = true := by
  have hname : name.all Text.isInLine = true := h
  have hsymbol : kind.symbolEnd.all Text.isInLine = true := by cases kind <;> decide
  have hend : kind.moduleEnd.all Text.isInLine = true := by cases kind <;> decide
  have hmodule : (kind.moduleOf name).all Text.isInLine = true := by
    simp +decide only [moduleOf, List.all_append, hname, hend, Text.all_ofString]
  simp +decide only [Text.isLine, exportCode, behindName, List.all_append, hname, hsymbol,
    Text.all_ofString, Text.all_literal hq hmodule]

/-- The kinds are named by their words and by nothing else. -/
theorem ofValue?_word (kind : BarrelKind) : ofValue? (.str kind.word) = some kind := by
  cases kind <;> decide

theorem ofValue?_eq_none {v : Value} (h : ∀ kind : BarrelKind, v ≠ .str kind.word) :
    ofValue? v = none := by
  cases v with
  | str word =>
    refine List.find?_eq_none.2 fun kind _ hkind => h kind ?_
    rw [eq_of_beq hkind]
  | _ => rfl

end BarrelKind

/-! ## The text of a barrel -/

namespace Generator

variable {g : Generator}

/-- What is written into a barrel of names. -/
def barrelText (g : Generator) (kind : BarrelKind) (names : List Text) : Text :=
  barrelFile g.engine.quote (((Value.sort? (names.map .str)).getD []).map kind.exportOf)

/-- A barrel has a statement for each name, in ascending order. -/
theorem exists_barrelText_eq (g : Generator) (kind : BarrelKind) (names : List Text) :
    ∃ sorted : List Text, Value.sort? (names.map .str) = some (sorted.map .str) ∧
      sorted.Perm names ∧ sorted.Pairwise (· ≤ ·) ∧
      g.barrelText kind names = unlines (sorted.map (kind.exportCode g.engine.quote)) := by
  obtain ⟨sorted, hsort, hperm, hsorted⟩ := Value.sort?_map_str names
  refine ⟨sorted, hsort, hperm, hsorted, ?_⟩
  rw [barrelText, hsort, Option.getD_some, barrelFile, unlines, List.flatMap_map, List.flatMap_map,
    List.flatMap_map]
  simp only [BarrelKind.exportLine_exportOf]

/-- The text of a barrel says which names it was given, and how often. -/
theorem barrelText_eq_iff (hq : g.engine.quote ≠ '\n') (kind : BarrelKind)
    {names others : List Text} (hnames : ∀ n ∈ names, n.isLine = true)
    (hothers : ∀ n ∈ others, n.isLine = true) :
    g.barrelText kind names = g.barrelText kind others ↔ names.Perm others := by
  constructor
  · intro h
    obtain ⟨sorted, -, hperm, -, htext⟩ := g.exists_barrelText_eq kind names
    obtain ⟨sorted', -, hperm', -, htext'⟩ := g.exists_barrelText_eq kind others
    have hlines : ∀ {ns sorted : List Text}, (∀ n ∈ ns, n.isLine = true) → sorted.Perm ns →
        ∀ l ∈ sorted.map (kind.exportCode g.engine.quote), l.isLine = true := by
      intro ns sorted hns hperm l hl
      obtain ⟨n, hn, rfl⟩ := List.mem_map.1 hl
      exact kind.isLine_exportCode hq (hns n (hperm.mem_iff.1 hn))
    rw [htext, htext'] at h
    have hsame := unlines_injOn (hlines hnames hperm) (hlines hothers hperm') h
    obtain rfl := List.map_injective_iff.2 (kind.exportCode_injective g.engine.quote) hsame
    exact hperm.symm.trans hperm'
  · intro h
    have htexts : (names.map Value.str).all Value.isText = true := by
      simp [Value.isText]
    rw [barrelText, barrelText, Value.sort?_of_perm htexts (h.map Value.str)]

/-- The emission of a barrel has the text of its names. -/
theorem Ready.emitIndexOf_draft (hg : g.Ready) (kind : BarrelKind) (names : List Text) :
    ∃ d, (g.emitIndexOf (.str kind.word) (.list (names.map .str))).draft = .ok d ∧
      d.path = g.barrelPath kind ∧ d.text = g.barrelText kind names := by
  obtain ⟨sorted, hsort, -⟩ := g.exists_barrelText_eq kind names
  have hindex : g.emitIndexOf (.str kind.word) (.list (names.map .str)) =
      g.emitBarrel kind (sorted.map .str) := by
    rw [emitIndexOf, BarrelKind.ofValue?_word]
    show g.emitIndex kind (names.map .str) = _
    rw [emitIndex, hsort]
  rw [hindex]
  refine ⟨_, hg.emission_draft .index _ _ _ _, rfl, ?_⟩
  rw [barrelText, hsort]
  rfl

end Generator

/-! ## Emissions of barrels -/

namespace Session

/-- A generator that was made from a configuration writes barrels, whatever it has looked up since
and wherever the files go. A barrel of names has one statement for each of them, in ascending order,
and each names its module in a literal that is read as it. Two lists of names of one line have the
same text exactly if they are the same up to their order. For any other kind there is an error with
a cause, and the session stays as it is. -/
theorem emitIndexOf_exports {cls : GeneratorClass} {config : Config} {g : Generator}
    (h : Generator.create cls config = .ok g) {s : Session} {lookUps : List String}
    (hs : s.generator = g.used lookUps) :
    (∀ kind names, ∃ sorted lines, sorted.Perm names ∧ sorted.Pairwise (· ≤ ·) ∧
      List.Forall₂ (kind.Exports g.engine.quote) sorted lines ∧
      g.barrelText kind names = lines.flatten) ∧
    (∀ kind names, ∃ after trouble,
      s.emit (s.generator.emitIndexOf (.str kind.word) (.list (names.map .str))) =
        (after, trouble) ∧
      after.workspace.SameFiles
        (s.workspace.write (g.barrelPath kind) (g.barrelText kind names)).1 ∧
      trouble = (s.workspace.write (g.barrelPath kind) (g.barrelText kind names)).2.map
        (Trouble.map .output)) ∧
    (∀ kind names others, (∀ n ∈ names, n.isLine = true) → (∀ n ∈ others, n.isLine = true) →
      (g.barrelText kind names = g.barrelText kind others ↔ names.Perm others)) ∧
    ∀ v names, (∀ kind : BarrelKind, v ≠ .str kind.word) →
      s.emit (s.generator.emitIndexOf v names) =
        (s, some (.cause (.emission (.unknownIndex v)))) := by
  have hquote := Generator.quote_of_create h
  obtain ⟨hbackslash, hnewline⟩ : g.engine.quote ≠ '\\' ∧ g.engine.quote ≠ '\n' := by
    rcases hquote with hq | hq <;> rw [hq] <;> decide
  refine ⟨fun kind names => ?_, fun kind names => ?_,
    fun kind _ _ hnames hothers => Generator.barrelText_eq_iff hnewline kind hnames hothers,
    fun v names hv => ?_⟩
  · obtain ⟨sorted, -, hperm, hsorted, htext⟩ := g.exists_barrelText_eq kind names
    refine ⟨sorted, sorted.map fun n => kind.exportCode g.engine.quote n ++ "\n", hperm, hsorted,
      ?_, ?_⟩
    · rw [List.forall₂_map_right_iff, List.forall₂_same]
      exact fun n _ => kind.exports_exportCode hbackslash n
    · rw [htext, unlines, List.flatMap_map, List.flatMap_def]
  · obtain ⟨d, hd, hpath, htext⟩ :=
      (Generator.ready_of_create h).emitIndexOf_draft kind names
    rw [hs, Generator.used_emitIndexOf]
    have hemit := s.emit_of_ok hd
    rw [hpath, htext] at hemit
    exact ⟨_, _, rfl, hemit⟩
  · rw [emit, Generator.emitIndexOf, BarrelKind.ofValue?_eq_none hv]
    rfl

/-- A name with quote characters, one in lower case, and a name that is there twice. -/
def sampleNames : List Text := ["order", "Say \"hi\"", "Order", "Order"]

theorem emitIndexOf_exports_sampleNames : ∃ g, Generator.create .typescript {} = .ok g ∧
    (∀ n ∈ sampleNames, n.isLine = true) ∧
    (∃ sorted lines, sorted.Perm sampleNames ∧
      List.Forall₂ (BarrelKind.enums.Exports g.engine.quote) sorted lines ∧
      g.barrelText .enums sampleNames = lines.flatten) ∧
    g.barrelText .enums sampleNames = g.barrelText .enums sampleNames.reverse ∧
    g.barrelText .enums sampleNames ≠ g.barrelText .enums sampleNames.dropLast ∧
    let s : Session := ⟨g.used ["index.ts.j2"], { tree := {}, target := .buffer [] }⟩
    s.emit (s.generator.emitIndexOf (.str "other") .null) =
        (s, some (.cause (.emission (.unknownIndex (.str "other"))))) ∧
      ∃ after, s.emit (s.generator.emitIndexOf (.str "enums") (.list (sampleNames.map .str))) =
          (after, none) ∧
        after.workspace.target =
          .buffer [(g.barrelPath .enums, g.barrelText .enums sampleNames)] := by
  obtain ⟨g, hg⟩ : ∃ g, Generator.create .typescript {} = .ok g := ⟨_, rfl⟩
  have hlines : ∀ n ∈ sampleNames, n.isLine = true := by decide
  have hs : Session.generator ⟨g.used ["index.ts.j2"], { tree := {}, target := .buffer [] }⟩ =
      g.used ["index.ts.j2"] := rfl
  obtain ⟨hstatements, hwrites, hsame, hother⟩ := emitIndexOf_exports hg hs
  obtain ⟨sorted, lines, hperm, -, hexports, htext⟩ := hstatements .enums sampleNames
  obtain ⟨after, trouble, hemit, hfiles, rfl⟩ := hwrites .enums sampleNames
  have hreverse : g.barrelText .enums sampleNames = g.barrelText .enums sampleNames.reverse :=
    (hsame .enums _ _ hlines fun n hn => hlines n (List.mem_reverse.1 hn)).2
      (List.reverse_perm _).symm
  have hfewer : g.barrelText .enums sampleNames ≠ g.barrelText .enums sampleNames.dropLast := by
    intro h
    have hlength := ((hsame .enums _ _ hlines fun n hn =>
      hlines n (List.dropLast_subset _ hn)).1 h).length_eq
    exact absurd hlength (by decide)
  have hunknown : ∀ kind : BarrelKind, Value.str "other" ≠ .str kind.word := by
    intro kind hword
    cases kind <;> exact absurd (Value.str.inj hword) (by decide)
  exact ⟨g, hg, hlines, ⟨sorted, lines, hperm, hexports, htext⟩, hreverse, hfewer,
    hother _ .null hunknown, after, hemit, hfiles.target⟩

end Session

end DtoPress
