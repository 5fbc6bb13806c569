import DtoPress.Proofs.InPlace

/-!
# Which value a setting gets

A setting can have a value in the overrides, in the file and in the defaults of the language, and
a setting of the language can have it at the top of a layer or inside `custom`.
`Config.genericBy` and `Config.specialBy` say which of these values counts, and
`Config.exists_layered_by` that a configuration has just these. As only the places of the values
matter, an object does as overrides what it does as the content of a file
(`Config.layered_file_eq_overrides`). With `Config.Manager.answers_eq` this makes
`loadConfig_precedence`, which describes every answer of a manager by the call alone.
-/

set_option linter.unusedSectionVars false

namespace DtoPress

namespace Config

variable {language name : Text} {settings file overrides : Entries Text Value}

/-! ## Values by their place -/

/-- The value of a generic setting : of the overrides, else of the file, else of the defaults of the
language, else the usual one. -/
def genericBy (language : Text) (file overrides : Entries Text Value) (name : Text) :
    Option Value :=
  (Entries.last? overrides name).or <| (Entries.last? file name).or <|
    (Entries.get? (defaultsFor language) name).or (Entries.get? ({} : Config).generic name)

/-- The value of a setting at the top of the overrides, else at the top of the file. A generic
setting is not one of the language there. -/
def topBy (file overrides : Entries Text Value) (name : Text) : Option Value :=
  if name ∈ fieldNames then none
  else (Entries.last? overrides name).or (Entries.last? file name)

/-- The value of a setting of the language : one at the top of a layer, else one inside `custom`, of
the overrides, else of the file, else of the defaults. -/
def specialBy (language : Text) (file overrides : Entries Text Value) (name : Text) :
    Option Value :=
  (topBy file overrides name).or <| (lastInside? overrides name).or <|
    (lastInside? file name).or (inside? (defaultsFor language) name)

theorem get?_customOf (settings : Entries Text Value) (name : Text) :
    Entries.get? (customOf settings) name = inside? settings name := by
  unfold customOf inside?
  cases Entries.get? settings customName with
  | none => rfl
  | some v => cases v <;> rfl

/-- No generic setting is among those that are not. -/
theorem last?_filter_generic (settings : Entries Text Value) (hgeneric : name ∈ fieldNames) :
    Entries.last? (settings.filter (!isGeneric ·)) name = none := by
  refine Entries.last?_eq_none_iff.2 fun hkey => ?_
  obtain ⟨setting, hmem, rfl⟩ := List.mem_map.1 hkey
  have hnot := (List.mem_filter.1 hmem).2
  rw [isGeneric, List.contains_iff_mem.2 hgeneric] at hnot
  cases hnot

/-! ## Configurations by the places of values -/

/-- Layers always make a configuration, and each of its settings has the value that counts. -/
theorem exists_layered_by (language : Text) (hfile : CustomIsObject file)
    (hoverrides : CustomIsObject overrides) : ∃ c custom,
      layered language file (.object overrides) = .ok c ∧ c.custom = .plain (.object custom) ∧
      (∀ name ∈ fieldNames, name ≠ customName →
        Entries.get? c.generic name = genericBy language file overrides name) ∧
      ∀ name, Entries.get? custom name = specialBy language file overrides name := by
  obtain ⟨c, hc⟩ := exists_layered language hfile hoverrides
  obtain ⟨base, settings, hbase, hsettings, hnodup, hmerged⟩ := layered_eq_ok hc
  have hobject := hasObject_merge
    (hasObject_merge (hasObject_defaultsFor language) hfile hbase) hoverrides hsettings
  have htop {name : Text} (hname : name ≠ customName) : Entries.get? settings name =
      (Entries.last? overrides name).or
        ((Entries.last? file name).or (Entries.get? (defaultsFor language) name)) := by
    rw [get?_merge hname hsettings, get?_merge hname hbase]
  have hinside (name : Text) : inside? settings name = (lastInside? overrides name).or
      ((lastInside? file name).or (inside? (defaultsFor language) name)) := by
    rw [inside?_merge name hoverrides hsettings, inside?_merge name hfile hbase]
  refine ⟨c, _, hc, custom_of_hasObject hnodup hmerged hobject, ?_, ?_⟩
  · intro name hgeneric hname
    rw [(ofMerged_eq_ok hnodup hmerged).1, get?_ofGeneric hnodup hgeneric hname, htop hname,
      genericBy, Option.or_assoc, Option.or_assoc]
  · intro name
    rw [Entries.get?_putAll, get?_customOf, hinside, specialBy, topBy]
    refine congrArg (Option.or · _) ?_
    split
    next hgeneric => exact last?_filter_generic settings hgeneric
    next hspecial =>
      have hname : name ≠ customName := fun heq =>
        hspecial ((mem_fieldNames (c := c)).2 (.inr heq))
      rw [last?_filter_special hnodup hspecial, htop hname, get?_defaultsFor hspecial,
        Option.or_none]

/-- A file alone does what the same object does as overrides. -/
theorem layered_file_eq_overrides (language : Text) (fields : Entries Text Value) :
    layered language fields .null = layered language [] (.object fields) := by
  have hfile : layered language fields .null =
      (merge (defaultsFor language) fields >>= fun base => ofMerged base) := rfl
  rw [hfile, layered, layerOf_object]
  rfl

end Config

/-! ## What a manager answers -/

open Config Config.Manager in
/-- With objects `custom` there always is a configuration. Each generic setting has the value of the
overrides, else of the file, else of the defaults of the language, else the usual one. The settings
of the language are an object in which a name has the value that the overrides or else the file have
at their top, if it is no generic name, else what the overrides, the file or the defaults have
inside `custom`, and there is nothing else. A file does what its object does as overrides. A manager
that builds in place answers every call in this way, whatever was called before. -/
theorem loadConfig_precedence {t : FileTree} {file overrides : Value}
    {fields given : Entries Text Value} {log : Log} (language : Text)
    (hfile : fileLayer t file = .ok (fields, log)) (hfields : CustomIsObject fields)
    (hoverrides : layerOf overrides = .ok given) (hgiven : CustomIsObject given) :
    (∃ c custom, (DtoPress.loadConfig t (.str language) overrides file).1 = .ok c ∧
      c.custom = .plain (.object custom) ∧
      (∀ name ∈ fieldNames, name ≠ customName →
        Entries.get? c.generic name = genericBy language fields given name) ∧
      ∀ name, Entries.get? custom name = specialBy language fields given name) ∧
    (∀ t', (DtoPress.loadConfig t (.str language) .null file).1 =
      (DtoPress.loadConfig t' (.str language) (.object fields) .null).1) ∧
    ∀ calls : List Call, answers defaultsAt calls atStart = calls.map Call.answer := by
  refine ⟨?_, fun t' => ?_, fun calls => answers_eq holds_atStart⟩
  · obtain ⟨c, custom, hc, hcustom⟩ := exists_layered_by language hfields hgiven
    refine ⟨c, custom, ?_, hcustom⟩
    rw [loadConfig_eq hfile, layered_of_layerOf hoverrides, hc]
    rfl
  · rw [loadConfig_eq hfile, loadConfig_eq (show fileLayer t' .null = .ok ([], []) from rfl),
      layered_file_eq_overrides]

open Config Config.Manager in
/-- Overrides in both spellings over a file in both spellings. What the file has inside `custom` is
under what the overrides have at the top, and the indentation is given by the defaults alone. The
second call is answered as the first. -/
theorem loadConfig_precedence_sampleSettings : ∃ fields log c custom,
    fileLayer .sampleSettings (.str "dtogen.json") = .ok (fields, log) ∧ CustomIsObject fields ∧
    layerOf (.object sampleOverrides) = .ok sampleOverrides ∧ CustomIsObject sampleOverrides ∧
    (DtoPress.loadConfig .sampleSettings (.str "typescript") (.object sampleOverrides)
      (.str "dtogen.json")).1 = .ok c ∧ c.custom = .plain (.object custom) ∧
    Entries.get? c.generic "indent_size" = some (.int 4) ∧
    Entries.get? custom "enums_module" = some (.str "overrides") ∧
    Entries.get? custom "helpers_module" = some (.str "../helpers") ∧
    Entries.get? custom "output_dir" = none ∧
    let call : Call :=
      ⟨.sampleSettings, .str "typescript", .object sampleOverrides, .str "dtogen.json"⟩
    answers defaultsAt [call, call] atStart = [.ok c, .ok c] := by
  obtain ⟨log, hlayer⟩ := FileTree.fileLayer_sampleSettings
  have hfields : CustomIsObject
    [("orm_module", .str "file"), ("custom", .object [("enums_module", .str "file")])] := by decide
  have hgiven : CustomIsObject sampleOverrides := by decide
  obtain ⟨⟨c, custom, hc, hcustom, hgeneric, hspecial⟩, -, hanswers⟩ :=
    loadConfig_precedence "typescript" hlayer hfields (layerOf_object _) hgiven
  refine ⟨_, log, c, custom, hlayer, hfields, layerOf_object _, hgiven, hc, hcustom, ?_, ?_, ?_,
    ?_, ?_⟩
  · rw [hgeneric "indent_size" (by decide) (by decide)]
    rfl
  · rw [hspecial "enums_module"]
    rfl
  · rw [hspecial "helpers_module"]
    rfl
  · rw [hspecial "output_dir"]
    rfl
  · intro call
    have hanswer : call.answer = .ok c := hc
    rw [hanswers, List.map_cons, List.map_singleton, hanswer]

end DtoPress
