import DtoPress.Proofs.Fitting
import DtoPress.Proofs.Storing

/-!
# Saved configurations

A saved configuration has all generic settings at its top and those of the language inside
`custom`. Read as a file it is a layer like any other, over the defaults of the language. What a
layer does to the object `custom` is to put all that it has inside `custom` over it, one after the
other (`Config.customOf_merge`), and a saved layer has nothing beside it. So a reload gives back all
generic settings, and the settings of the language over its defaults (`Config.layered_saved`).

That makes no difference to a configuration that was loaded : however its layers were, its settings
of the language are some put over the defaults (`Config.exists_custom_layered`), and to put such
settings over the defaults again changes nothing (`Entries.putAll_putAll_self`). The main theorem
is `saveConfig_reloads`. That a value is read back from the text that is written for it is for the
JSON of the configuration at hand to show (`Json.RoundTrips`).
-/

set_option linter.unusedSectionVars false

namespace DtoPress

namespace Config

variable {c : Config} {name language : Text} {v : Value}
  {settings below after layer file fields : Entries Text Value}

/-! ## The object `custom` -/

/-- The object that stands as `custom`. -/
def customOf (settings : Entries Text Value) : Entries Text Value :=
  match Entries.get? settings customName with
  | some (.object fields) => fields
  | _ => []

/-- All that a layer has inside `custom`, in order. -/
def insideOf (layer : Entries Text Value) : Entries Text Value :=
  layer.flatMap fun
    | (k, .object fields) => if k == customName then fields else []
    | _ => []

theorem insideOf_append (layer more : Entries Text Value) :
    insideOf (layer ++ more) = insideOf layer ++ insideOf more :=
  List.flatMap_append

theorem insideOf_of_not_mem (h : customName ∉ layer.keys) : insideOf layer = [] := by
  rw [insideOf, List.flatMap_eq_nil_iff]
  rintro ⟨k, v⟩ hmem
  have hk : k ≠ customName := fun hk => h (hk ▸ List.mem_map_of_mem hmem)
  cases v <;> simp [hk]

theorem customOf_eq (h : (Entries.get? settings customName).getD (.object []) = .object fields) :
    customOf settings = fields := by
  unfold customOf
  cases hget : Entries.get? settings customName with
  | none =>
    rw [hget] at h
    exact Value.object.inj h
  | some w =>
    rw [hget] at h
    obtain rfl : w = .object fields := h
    rfl

theorem customOf_overlay {setting : Text × Value}
    (hobject : setting.1 = customName → setting.2.isObject = true)
    (h : overlay below setting = .ok after) :
    customOf after = Entries.putAll (customOf below) (insideOf [setting]) := by
  obtain ⟨k, v⟩ := setting
  by_cases hk : k = customName
  · subst hk
    obtain ⟨more, rfl⟩ := Value.isObject_iff.1 (hobject rfl)
    unfold overlay at h
    simp only [beq_self_eq_true] at h
    split at h
    next custom hcustom =>
      obtain rfl := Except.ok.inj h
      rw [customOf_eq hcustom, customOf, Entries.get?_put_self]
      simp [insideOf]
    · cases h
  · have hkey : (k == customName) = false := beq_eq_false_iff_ne.2 hk
    have hinside : insideOf [(k, v)] = [] := insideOf_of_not_mem (by simpa using Ne.symm hk)
    rcases overlay_eq_ok h with rfl | ⟨more, custom, heq, -, -⟩
    · rw [hinside, customOf, Entries.get?_put, hkey]
      rfl
    · exact absurd (congrArg Prod.fst heq) hk

/-- A layer puts all that it has inside `custom` over the object that stands there. -/
theorem customOf_merge : ∀ {layer below : Entries Text Value}, CustomIsObject layer →
    merge below layer = .ok after →
      customOf after = Entries.putAll (customOf below) (insideOf layer)
  | [], below, _, h => by
    obtain rfl : below = after := Except.ok.inj h
    rfl
  | setting :: layer, below, hobject, h => by
    obtain ⟨hsetting, hlayer⟩ := List.forall_mem_cons.1 hobject
    obtain ⟨next, hnext, h⟩ := merge_cons_eq_ok h
    rw [customOf_merge hlayer h, customOf_overlay hsetting hnext, ← Entries.putAll_append,
      ← insideOf_append, List.singleton_append]

theorem hasObject_merge (h : HasObject below) (hlayer : CustomIsObject layer)
    (hmerge : merge below layer = .ok after) : HasObject after := by
  obtain ⟨after', hafter', hobject⟩ := exists_merge hlayer h
  obtain rfl := Except.ok.inj (hafter'.symm.trans hmerge)
  exact hobject

/-- The settings of the language are those inside `custom`, with those beside it put over them. -/
theorem custom_of_hasObject (hnodup : settings.keys.Nodup) (h : ofMerged settings = .ok c)
    (hobject : HasObject settings) : c.custom = .plain (.object
      (Entries.putAll (customOf settings) (settings.filter (!isGeneric ·)))) := by
  obtain ⟨fields, hfields⟩ := hobject
  rw [custom_ofMerged hnodup h hfields, customOf_eq hfields]

/-- The layer that a value gives is the layer of an object. -/
theorem layered_of_layerOf (h : layerOf v = .ok layer) :
    layered language file v = layered language file (.object layer) := by
  rw [layered, layered, h, layerOf_object]

/-- Whatever the layers are, the settings of the language are some put over its defaults. -/
theorem exists_custom_layered {overrides : Entries Text Value} (hfile : CustomIsObject file)
    (hoverrides : CustomIsObject overrides)
    (h : layered language file (.object overrides) = .ok c) : ∃ more, c.custom =
      .plain (.object (Entries.putAll (customOf (defaultsFor language)) more)) := by
  obtain ⟨base, settings, hbase, hsettings, hnodup, hc⟩ := layered_eq_ok h
  have hobject := hasObject_merge
    (hasObject_merge (hasObject_defaultsFor language) hfile hbase) hoverrides hsettings
  have hcustom := custom_of_hasObject hnodup hc hobject
  rw [customOf_merge hoverrides hsettings, customOf_merge hfile hbase, ← Entries.putAll_append,
    ← Entries.putAll_append] at hcustom
  exact ⟨_, hcustom⟩

theorem nodup_customOf_defaultsFor (language : Text) :
    (customOf (defaultsFor language)).keys.Nodup := by
  unfold defaultsFor
  split <;> decide +kernel

/-! ## The layer of a saved configuration -/

/-- The settings of a saved configuration, with those of the language as an object. -/
def saved (c : Config) (fields : Entries Text Value) : Entries Text Value :=
  c.generic ++ [(customName, .object fields)]

theorem toSaved_eq (h : c.custom = .plain (.object fields)) :
    c.toSaved = .object (c.saved fields) := by
  rw [toSaved, h, saved]
  rfl

theorem nodup_generic (c : Config) : c.generic.keys.Nodup := by
  show ({} : Config).generic.keys.Nodup
  decide

theorem customName_not_mem_generic (c : Config) : customName ∉ c.generic.keys := by
  show customName ∉ ({} : Config).generic.keys
  decide

theorem customIsObject_saved (c : Config) (fields : Entries Text Value) :
    CustomIsObject (c.saved fields) := by
  intro setting hsetting hname
  rcases List.mem_append.1 hsetting with hgeneric | hcustom
  · have hkey : customName ∈ c.generic.keys := hname ▸ List.mem_map_of_mem hgeneric
    exact absurd hkey (customName_not_mem_generic c)
  · rw [List.mem_singleton.1 hcustom]
    rfl

theorem insideOf_saved (c : Config) (fields : Entries Text Value) :
    insideOf (c.saved fields) = fields := by
  rw [saved, insideOf_append, insideOf_of_not_mem (customName_not_mem_generic c)]
  exact List.append_nil fields

theorem last?_saved (c : Config) (fields : Entries Text Value) (hname : name ≠ customName) :
    Entries.last? (c.saved fields) name = Entries.get? c.generic name := by
  have hkey : (customName == name) = false := beq_eq_false_iff_ne.2 hname.symm
  rw [saved, Entries.last?_append, Entries.last?_eq_get? (nodup_generic c)]
  simp [Entries.last?, hkey]

/-- Two configurations with the same settings are the same. -/
theorem ext_settings {d : Config}
    (hgeneric : ∀ name ∈ fieldNames, name ≠ customName →
      Entries.get? c.generic name = Entries.get? d.generic name)
    (hcustom : c.custom = d.custom) : c = d := by
  obtain ⟨o, i, q, a, t, e, h, custom⟩ := c
  obtain ⟨o', i', q', a', t', e', h', custom'⟩ := d
  obtain rfl : o = o' := Option.some.inj (hgeneric "output_dir" (by decide) (by decide))
  obtain rfl : i = i' := Option.some.inj (hgeneric "indent_size" (by decide) (by decide))
  obtain rfl : q = q' := Option.some.inj (hgeneric "quote_style" (by decide) (by decide))
  obtain rfl : a = a' := Option.some.inj (hgeneric "add_comments" (by decide) (by decide))
  obtain rfl : t = t' := Option.some.inj (hgeneric "emit_type_coercion" (by decide) (by decide))
  obtain rfl : e = e' := Option.some.inj (hgeneric "generate_enums" (by decide) (by decide))
  obtain rfl : h = h' := Option.some.inj (hgeneric "generate_helpers" (by decide) (by decide))
  obtain rfl : custom = custom' := hcustom
  rfl

/-- A saved configuration is one again : the generic settings are the same, and those of the
language stand over its defaults. -/
theorem layered_saved (language : Text) (c : Config) (fields : Entries Text Value) :
    layered language (c.saved fields) .null = .ok { c with
      custom := .plain (.object (Entries.putAll (customOf (defaultsFor language)) fields)) } := by
  have hobject := customIsObject_saved c fields
  have hnone : CustomIsObject [] := by simp [CustomIsObject]
  obtain ⟨d, hd⟩ := exists_layered language hobject hnone
  rw [layered_of_layerOf (show layerOf .null = .ok [] from rfl), hd]
  obtain ⟨base, settings, hbase, hsettings, hnodup, hmerged⟩ := layered_eq_ok hd
  obtain rfl : base = settings := Except.ok.inj hsettings
  have hget {name : Text} (hname : name ≠ customName) : Entries.get? base name =
      (Entries.get? c.generic name).or (Entries.get? (defaultsFor language) name) := by
    rw [get?_merge hname hbase, last?_saved c fields hname]
  -- Nothing stands beside the generic settings and `custom`.
  have hspecial : base.filter (!isGeneric ·) = [] := by
    rw [List.filter_eq_nil_iff]
    rintro ⟨name, v⟩ hmem hnot
    have hname : name ∉ fieldNames := by simpa [isGeneric] using hnot
    have hne : name ≠ customName := by
      rintro rfl
      exact hname (by decide)
    have hnone : Entries.get? base name = none := by
      rw [hget hne, get?_defaultsFor hname,
        Entries.get?_of_not_mem_keys fun hkey => hname ((mem_fieldNames (c := c)).2 (.inl hkey))]
      rfl
    rw [Entries.get?_of_mem hnodup hmem] at hnone
    cases hnone
  refine congrArg _ (ext_settings (fun name hfield hname => ?_) ?_)
  · have hkey : name ∈ c.generic.keys := (mem_fieldNames.1 hfield).resolve_right hname
    obtain ⟨v, hv⟩ := Option.isSome_iff_exists.1 (Entries.isSome_get?_iff.2 hkey)
    rw [(ofMerged_eq_ok hnodup hmerged).1, get?_ofGeneric hnodup hfield hname, hget hname]
    show _ = Entries.get? c.generic name
    rw [hv]
    rfl
  · rw [custom_of_hasObject hnodup hmerged (hasObject_merge (hasObject_defaultsFor language)
      hobject hbase), hspecial, customOf_merge hobject hbase, insideOf_saved]
    rfl

end Config

/-! ## Files -/

section Files

variable {t : FileTree} {p : Path} {file language : Text} {c : Config}
  {fields : Entries Text Value}

/-- A configuration is saved as far as its text has bytes. -/
theorem exists_saveConfig (ht : t.IsWritable p) (c : Config) : ∃ after,
    saveConfig t c p =
      (after, if c.toSaved.isStorable then none else some (.fault .unencodable)) ∧
    after.IsWritable p ∧
    after.readFile p = .ok (.text (FileTree.encodable (Json.prettyPieces c.toSaved)).1) := by
  obtain ⟨after, hwrite, hafter⟩ := ht.exists_writeValue c.toSaved
  refine ⟨after, ?_, hafter⟩
  simp only [saveConfig, ht.fault, hwrite]
  cases c.toSaved.isStorable <;> rfl

/-- A configuration that is saved to its end can be read as a file of settings. -/
theorem readConfigFile_of_saved (ht : t.IsWritable p) (hjson : p.extension = ".json")
    (hcustom : c.custom = .plain (.object fields)) (hround : Json.RoundTrips c.toSaved)
    (hwhole : c.toSaved.isStorable = true)
    (hfile : t.readFile p = .ok (.text (FileTree.encodable (Json.prettyPieces c.toSaved)).1)) :
    readConfigFile t p = .ok (c.saved fields) := by
  rw [← Json.isWhole_pretty] at hwhole
  obtain ⟨hall, htext⟩ := FileTree.encodable_eq (Json.prettyPieces c.toSaved)
  obtain ⟨s, hs⟩ := Text.exists_string? hwhole
  have hs' : (FileTree.encodable (Json.prettyPieces c.toSaved)).1 = s := by
    have heq := htext (hall.trans hwhole)
    rw [← Json.pretty, Text.eq_of_string? hs] at heq
    exact Text.ofString_inj heq
  rw [hs'] at hfile
  have hread : t.readText p = .ok (String.ofList (FileTree.unixLines s.toList)) := by
    rw [FileTree.readText, hfile]
  have hvalue : Json.read (String.ofList (FileTree.unixLines s.toList)) =
      .ok (.object (c.saved fields)) := by
    rw [Json.read, String.toList_ofList, hround s hs, Config.toSaved_eq hcustom]
    rfl
  rw [readConfigFile, FileTree.hasPath_of_readFile ht.fault hfile, ofFault_ok, bind_ok]
  simp only [hjson, hread, hvalue, widen_ok, bind_ok]
  rfl

/-- What is loaded from the file of a saved configuration is that configuration, its settings of
the language put over the defaults. -/
theorem exists_loadConfig (language : Text) (hjson : (Path.ofText file).extension = ".json")
    (hread : readConfigFile t (.ofText file) = .ok (c.saved fields)) :
    ∃ log, loadConfig t (.str language) .null (.str file) = (.ok { c with
      custom := .plain (.object
        (Entries.putAll (Config.customOf (Config.defaultsFor language)) fields)) }, log) := by
  have htruthy : (Value.str file).truthy = true := by
    cases file with
    | nil => exact absurd hjson (by decide)
    | cons a cs => rfl
  have hlayer : fileLayer t (.str file) = .ok (c.saved fields,
      [⟨.debug, "Loaded configuration file " ++ (Path.ofText file).text⟩]) := by
    rw [fileLayer, if_pos htruthy]
    show (readConfigFile t (.ofText file) >>= _) = _
    rw [hread]
    rfl
  rw [loadConfig_eq hlayer, Config.layered_saved, ofFault_ok]
  exact ⟨_, rfl⟩

/-- The configuration was loaded for the language, from a file and overrides in which everything
that is given as `custom` is an object. -/
def Config.LoadedFor (c : Config) (language : Text) : Prop :=
  ∃ t overrides layer file fields log, layerOf overrides = .ok layer ∧ CustomIsObject layer ∧
    fileLayer t file = .ok (fields, log) ∧ CustomIsObject fields ∧
    (loadConfig t (.str language) overrides file).1 = .ok c

/-- The settings of the language that were loaded are some put over its defaults. -/
theorem Config.LoadedFor.exists_custom (h : c.LoadedFor language) : ∃ more, c.custom =
    .plain (.object (Entries.putAll (customOf (defaultsFor language)) more)) := by
  obtain ⟨t, overrides, layer, file, fields, log, hlayer, hoverrides, hfile, hobject, hload⟩ := h
  rw [loadConfig_eq hfile] at hload
  have hlayered := mapError_eq_ok_iff.1 hload
  rw [layered_of_layerOf hlayer] at hlayered
  exact exists_custom_layered hobject hoverrides hlayered

end Files

/-- Settings put over the defaults of a language have no more lone halves than before. -/
theorem Config.isStorable_toSaved_reloaded (language : Text) {c : Config}
    {fields : Entries Text Value} (hcustom : c.custom = .plain (.object fields))
    (h : c.toSaved.isStorable = true) : Value.isStorable ({ c with custom := .plain (.object
      (Entries.putAll (customOf (defaultsFor language)) fields)) } : Config).toSaved = true := by
  have hdefaults : Value.storableFields (customOf (defaultsFor language)) = true := by
    unfold defaultsFor
    split <;> decide +kernel
  rw [toSaved_eq hcustom, saved, Value.isStorable, Value.storableFields_iff] at h
  have hfields := (h (customName, .object fields) (List.mem_append_right _ List.mem_cons_self)).2
  rw [toSaved_eq rfl, saved, Value.isStorable, Value.storableFields_iff]
  intro field hfield
  rcases List.mem_append.1 hfield with hgeneric | hcustom
  · exact h field (List.mem_append_left _ hgeneric)
  · rw [List.mem_singleton.1 hcustom]
    have hname : customName.isWhole = true := by decide
    exact ⟨hname, Value.storableFields_putAll hdefaults hfields⟩

/-- What was loaded can be saved so that it is read back. -/
def savesBack : Except (Trouble ConfigError) Config × Log → Bool
  | (.ok c, _) => Json.readsBack c.toSaved
  | (.error _, _) => false

/-- A file of settings with a lone half in a text, spelled as an escape. -/
def FileTree.sampleHalf : FileTree where
  nodes := [([("half.json" : Text)],
    .file (.text "\x7b\"orm_module\": \"\\ud800\"\x7d"))]

/-- A configuration can be loaded from a file of settings that has a lone half in a text. -/
def loadsHalf (t : FileTree) (file : Text) : Bool :=
  match fileLayer t (.str file), loadConfig t (.str "typescript") .null (.str file) with
  | .ok (fields, _), (.ok c, _) =>
    decide (Config.CustomIsObject fields) && !c.toSaved.isStorable
  | _, _ => false

end DtoPress
