import DtoPress.Config.File
import DtoPress.Proofs.Results
import DtoPress.Proofs.Textual

/-!
# Layers of a configuration

A layer puts its settings over those below it, each in one of two spellings : at the top of the
layer or inside its object `custom`. `Config.get?_merge` and `Config.inside?_merge` say what a
layer leaves in each spelling, and the last value given to a setting decides in both. A setting
of the language is then read at the top first and inside `custom` only if it is not there
(`Config.setting?_ofMerged`). So the spelling comes before the layer : overrides beat a file
(`loadConfig_overrides`) but for a setting that they give inside `custom` and the file at its
top, where the file wins (`loadConfig_file_beats_overrides`).
-/

set_option linter.unusedSectionVars false

namespace DtoPress

/-! ## Entries under values -/

namespace Entries

variable {ν : Type}

/-- Among keys that are values, a text is found under itself alone. -/
theorem get?_put_str (k l : Text) (v : ν) : ∀ es : Entries Value ν,
    get? (put es (.str k) v) (.str l) = (if k == l then some v else none).or (get? es (.str l))
  | [] => by simp [put, get?]
  | (m, w) :: es => by
    cases hm : m == .str k with
    | true =>
      obtain rfl := Value.eq_of_beq_str hm
      by_cases hkl : k = l
      · simp [put, get?, hkl]
      · simp [put, get?, hkl]
    | false =>
      rw [put, hm, if_neg Bool.false_ne_true, get?, get?, get?_put_str k l v es]
      cases hml : m == .str l with
      | false => simp
      | true =>
        obtain rfl := Value.eq_of_beq_str hml
        have hkl : (k == l) = false := by
          rw [Value.str_beq, beq_eq_false_iff_ne] at hm
          exact beq_eq_false_iff_ne.2 fun h => hm h.symm
        simp [hkl]

theorem get?_putAll_entriesOfFields (name : Text) : ∀ (fields : Entries Text Value)
    (es : Entries Value Value), get? (putAll es (Custom.entriesOfFields fields)) (.str name) =
      (last? fields name).or (get? es (.str name))
  | [], _ => rfl
  | (k, v) :: fields, es => by
    show get? (putAll (put es (.str k) v) (Custom.entriesOfFields fields)) (.str name) = _
    rw [get?_putAll_entriesOfFields name fields, get?_put_str, last?, Option.or_assoc]

theorem get?_entriesOfFields (name : Text) : ∀ fields : Entries Text Value,
    get? (Custom.entriesOfFields fields) (.str name) = get? fields name
  | [] => rfl
  | (k, v) :: fields => by
    show get? ((.str k, v) :: Custom.entriesOfFields fields) (.str name) = _
    rw [get?, get?, Value.str_beq, get?_entriesOfFields name fields]

theorem get?_filter_keys {κ : Type} [BEq κ] [LawfulBEq κ] (p : κ → Bool) {k : κ}
    (hk : p k = true) : ∀ es : Entries κ ν, get? (es.filter fun e => p e.1) k = get? es k
  | [] => rfl
  | (l, v) :: es => by
    cases hl : p l with
    | true => simp [hl, get?, get?_filter_keys p hk es]
    | false =>
      have hlk : (l == k) = false := beq_eq_false_iff_ne.2 fun h => by simp [← h, hl] at hk
      simp [hl, get?, hlk, get?_filter_keys p hk es]

end Entries

/-! ## Settings by name -/

namespace Custom

/-- The setting of a name. -/
def get? : Custom → Text → Option Value
  | .plain (.object fields), name => Entries.get? fields name
  | .plain _, _ => none
  | .keyed entries, name => Entries.get? entries (.str name)

theorem get?_eq_of_mapM (name : Text) : ∀ {entries : Entries Value Value}
    {fields : Entries Text Value},
    (entries.mapM fun (k, v) => (textOf? k).map fun t => (t, v)) = some fields →
      Entries.get? fields name = Entries.get? entries (.str name)
  | [], fields, h => by
    obtain rfl := Option.some.inj h
    rfl
  | (k, v) :: entries, fields, h => by
    rw [List.mapM_cons, Option.bind_eq_bind, Option.bind_eq_some_iff] at h
    obtain ⟨field, hfield, h⟩ := h
    rw [Option.bind_eq_bind, Option.bind_eq_some_iff] at h
    obtain ⟨rest, hrest, h⟩ := h
    obtain rfl := Option.some.inj h
    obtain ⟨t, ht, rfl⟩ := Option.map_eq_some_iff.1 hfield
    cases k with
    | str u =>
      obtain rfl : u = t := Option.some.inj ht
      rw [Entries.get?, Entries.get?, Value.str_beq, get?_eq_of_mapM name hrest]
    | _ => cases ht

theorem get?_ofEntries (entries : Entries Value Value) (name : Text) :
    (ofEntries entries).get? name = Entries.get? entries (.str name) := by
  unfold ofEntries
  split
  next fields hfields => exact get?_eq_of_mapM name hfields
  · rfl

end Custom

namespace Config

variable {c : Config} {name : Text} {v : Value} {settings below after layer : Entries Text Value}

/-- The setting of a name, be it generic or one of the language. -/
def setting? (c : Config) (name : Text) : Option Value :=
  (Entries.get? c.generic name).or (c.custom.get? name)

/-- What stands under a name inside `custom`. -/
def inside? (settings : Entries Text Value) (name : Text) : Option Value :=
  match Entries.get? settings customName with
  | some (.object fields) => Entries.get? fields name
  | _ => none

/-- The last value that a layer gives to a name inside `custom`. -/
def lastInside? (layer : Entries Text Value) (name : Text) : Option Value :=
  match layer with
  | [] => none
  | (k, v) :: rest => (lastInside? rest name).or <|
    match k == customName, v with
    | true, .object fields => Entries.last? fields name
    | _, _ => none

/-- What a layer gives as `custom` is an object. -/
def CustomIsObject (layer : Entries Text Value) : Prop :=
  ∀ setting ∈ layer, setting.1 = customName → setting.2.isObject = true

instance (layer : Entries Text Value) : Decidable (CustomIsObject layer) :=
  inferInstanceAs (Decidable (∀ setting ∈ layer, _))

/-- What stands as `custom` is an object, or nothing does. -/
def HasObject (settings : Entries Text Value) : Prop :=
  ∃ fields, (Entries.get? settings customName).getD (.object []) = .object fields

theorem inside?_eq {fields : Entries Text Value}
    (h : (Entries.get? settings customName).getD (.object []) = .object fields) (name : Text) :
    inside? settings name = Entries.get? fields name := by
  unfold inside?
  cases hget : Entries.get? settings customName with
  | none =>
    rw [hget] at h
    obtain rfl : [] = fields := Value.object.inj h
    rfl
  | some w =>
    rw [hget] at h
    obtain rfl : w = .object fields := h
    rfl

theorem hasObject_of_inside? (h : inside? settings name = some v) : HasObject settings := by
  unfold inside? at h
  split at h
  next fields hget => exact ⟨fields, by rw [hget]; rfl⟩
  · cases h

/-! ## One layer -/

/-- A setting that is put over others replaces one, or is an object `custom` that is merged into
another. -/
theorem overlay_eq_ok {setting : Text × Value} (h : overlay below setting = .ok after) :
    after = below.put setting.1 setting.2 ∨ ∃ more custom,
      setting = (customName, .object more) ∧
      (Entries.get? below customName).getD (.object []) = .object custom ∧
      after = below.put customName (.object (Entries.putAll custom more)) := by
  obtain ⟨k, v⟩ := setting
  unfold overlay at h
  split at h
  next more hk hv =>
    obtain rfl : k = customName := eq_of_beq hk
    obtain rfl : v = .object more := hv
    split at h
    next custom hcustom => exact .inr ⟨more, custom, rfl, hcustom, (Except.ok.inj h).symm⟩
    · cases h
  · exact .inl (Except.ok.inj h).symm

theorem get?_overlay {setting : Text × Value} (hname : name ≠ customName)
    (h : overlay below setting = .ok after) : Entries.get? after name =
      (if setting.1 == name then some setting.2 else none).or (Entries.get? below name) := by
  rcases overlay_eq_ok h with rfl | ⟨more, custom, rfl, -, rfl⟩
  · exact Entries.get?_put below _ _ _
  · have hcustom : (customName == name) = false := beq_eq_false_iff_ne.2 hname.symm
    rw [Entries.get?_put, hcustom]
    rfl

theorem nodup_overlay {setting : Text × Value} (hbelow : below.keys.Nodup)
    (h : overlay below setting = .ok after) : after.keys.Nodup := by
  rcases overlay_eq_ok h with rfl | ⟨more, custom, rfl, -, rfl⟩
  · exact Entries.nodup_keys_put hbelow _ _
  · exact Entries.nodup_keys_put hbelow _ _

theorem inside?_overlay {setting : Text × Value}
    (hobject : setting.1 = customName → setting.2.isObject = true)
    (h : overlay below setting = .ok after) (name : Text) :
    inside? after name = (lastInside? [setting] name).or (inside? below name) := by
  obtain ⟨k, v⟩ := setting
  by_cases hk : k = customName
  · subst hk
    obtain ⟨fields, rfl⟩ := Value.isObject_iff.1 (hobject rfl)
    unfold overlay at h
    simp only [beq_self_eq_true] at h
    split at h
    next custom hcustom =>
      obtain rfl := Except.ok.inj h
      rw [inside?_eq hcustom, inside?, Entries.get?_put_self]
      simp only [Entries.get?_putAll, lastInside?, beq_self_eq_true, Option.none_or]
    · cases h
  · have hkey : (k == customName) = false := beq_eq_false_iff_ne.2 hk
    have hafter : Entries.get? after customName = Entries.get? below customName := by
      rcases overlay_eq_ok h with rfl | ⟨more, custom, heq, -, -⟩
      · rw [Entries.get?_put, hkey]
        rfl
      · exact absurd (congrArg Prod.fst heq) hk
    simp only [inside?, hafter, lastInside?, hkey, Option.none_or]

/-- An object `custom` takes settings of either spelling, and stays one. -/
theorem exists_overlay {setting : Text × Value}
    (hobject : setting.1 = customName → setting.2.isObject = true)
    (hbelow : HasObject below) : ∃ after, overlay below setting = .ok after ∧ HasObject after := by
  obtain ⟨k, v⟩ := setting
  by_cases hk : k = customName
  · subst hk
    obtain ⟨more, rfl⟩ := Value.isObject_iff.1 (hobject rfl)
    obtain ⟨custom, hcustom⟩ := hbelow
    unfold overlay
    simp only [beq_self_eq_true, hcustom]
    exact ⟨_, rfl, _, by rw [Entries.get?_put_self]; rfl⟩
  · have hkey : (k == customName) = false := beq_eq_false_iff_ne.2 hk
    unfold overlay
    simp only [hkey]
    refine ⟨_, rfl, ?_⟩
    rwa [HasObject, Entries.get?_put, hkey]

/-! ## A whole layer -/

theorem merge_cons_eq_ok {setting : Text × Value} (h : merge below (setting :: layer) = .ok after) :
    ∃ next, overlay below setting = .ok next ∧ merge next layer = .ok after := by
  rw [merge, List.foldlM_cons] at h
  exact bind_eq_ok_iff.1 h

/-- A setting at the top is the last one that the layer gives, else what it was below. -/
theorem get?_merge (hname : name ≠ customName) : ∀ {layer below : Entries Text Value},
    merge below layer = .ok after →
      Entries.get? after name = (Entries.last? layer name).or (Entries.get? below name)
  | [], below, h => by
    obtain rfl : below = after := Except.ok.inj h
    rfl
  | setting :: layer, below, h => by
    obtain ⟨next, hnext, h⟩ := merge_cons_eq_ok h
    rw [get?_merge hname h, get?_overlay hname hnext, Entries.last?, Option.or_assoc]

theorem nodup_merge : ∀ {layer below : Entries Text Value}, below.keys.Nodup →
    merge below layer = .ok after → after.keys.Nodup
  | [], below, hbelow, h => by
    obtain rfl : below = after := Except.ok.inj h
    exact hbelow
  | setting :: layer, below, hbelow, h => by
    obtain ⟨next, hnext, h⟩ := merge_cons_eq_ok h
    exact nodup_merge (nodup_overlay hbelow hnext) h

/-- So is a setting inside `custom`. -/
theorem inside?_merge (name : Text) : ∀ {layer below : Entries Text Value},
    CustomIsObject layer → merge below layer = .ok after →
      inside? after name = (lastInside? layer name).or (inside? below name)
  | [], below, _, h => by
    obtain rfl : below = after := Except.ok.inj h
    rfl
  | setting :: layer, below, hobject, h => by
    obtain ⟨hsetting, hlayer⟩ := List.forall_mem_cons.1 hobject
    obtain ⟨next, hnext, h⟩ := merge_cons_eq_ok h
    rw [inside?_merge name hlayer h, inside?_overlay hsetting hnext, ← Option.or_assoc]
    simp only [lastInside?, Option.none_or]

theorem exists_merge : ∀ {layer below : Entries Text Value}, CustomIsObject layer →
    HasObject below → ∃ after, merge below layer = .ok after ∧ HasObject after
  | [], below, _, h => ⟨below, rfl, h⟩
  | setting :: layer, below, hobject, h => by
    obtain ⟨hsetting, hlayer⟩ := List.forall_mem_cons.1 hobject
    obtain ⟨next, hnext, hfields⟩ := exists_overlay hsetting h
    obtain ⟨after, hafter, hfields⟩ := exists_merge hlayer hfields
    refine ⟨after, ?_, hfields⟩
    rw [merge, List.foldlM_cons, hnext]
    exact hafter

/-! ## From settings to a configuration -/

theorem set_of_generic (c : Config) (v : Value) (h : name ∈ c.generic.keys) :
    (c.set name v).generic = c.generic.put name v ∧ (c.set name v).custom = c.custom := by
  simp only [generic, Entries.keys_cons, Entries.keys_nil, List.mem_cons, List.not_mem_nil,
    or_false] at h
  rcases h with rfl | rfl | rfl | rfl | rfl | rfl | rfl <;> exact ⟨rfl, rfl⟩

theorem set_custom (c : Config) (v : Value) :
    (c.set customName v).generic = c.generic ∧ (c.set customName v).custom = .plain v :=
  ⟨rfl, rfl⟩

theorem mem_fieldNames {c : Config} : name ∈ fieldNames ↔
    name ∈ c.generic.keys ∨ name = customName := by
  rw [fieldNames, List.mem_append, List.mem_singleton]
  rfl

theorem get?_generic_set (hname : name ≠ customName) {k : Text} (hk : k ∈ fieldNames) (c : Config)
    (v : Value) : Entries.get? (c.set k v).generic name =
      (if k == name then some v else none).or (Entries.get? c.generic name) := by
  rcases (mem_fieldNames (c := c)).1 hk with hk | rfl
  · rw [(set_of_generic c v hk).1, Entries.get?_put]
  · have hkey : (customName == name) = false := beq_eq_false_iff_ne.2 hname.symm
    rw [(set_custom c v).1, hkey]
    rfl

theorem custom_set {k : Text} (hk : k ∈ fieldNames) (c : Config) (v : Value) :
    (c.set k v).custom = if k = customName then .plain v else c.custom := by
  by_cases hcustom : k = customName
  · rw [if_pos hcustom, hcustom, (set_custom c v).2]
  · have hgeneric := ((mem_fieldNames (c := c)).1 hk).resolve_right hcustom
    rw [if_neg hcustom, (set_of_generic c v hgeneric).2]

theorem get?_generic_foldl (hname : name ≠ customName) :
    ∀ {fields : Entries Text Value} (c : Config), (∀ f ∈ fields, f.1 ∈ fieldNames) →
      Entries.get? (fields.foldl (fun c f => c.set f.1 f.2) c).generic name =
        (Entries.last? fields name).or (Entries.get? c.generic name)
  | [], _, _ => rfl
  | f :: fields, c, h => by
    obtain ⟨hf, hfields⟩ := List.forall_mem_cons.1 h
    rw [List.foldl_cons, get?_generic_foldl hname _ hfields, get?_generic_set hname hf,
      Entries.last?, Option.or_assoc]

theorem custom_foldl : ∀ {fields : Entries Text Value} (c : Config),
    (∀ f ∈ fields, f.1 ∈ fieldNames) → (fields.foldl (fun c f => c.set f.1 f.2) c).custom =
      ((Entries.last? fields customName).map .plain).getD c.custom
  | [], _, _ => rfl
  | f :: fields, c, h => by
    obtain ⟨hf, hfields⟩ := List.forall_mem_cons.1 h
    rw [List.foldl_cons, custom_foldl _ hfields, custom_set hf, Entries.last?]
    cases Entries.last? fields customName with
    | some v => rfl
    | none => by_cases hcustom : f.1 = customName <;> simp [hcustom]

/-- The generic settings among others, each with its usual value if it is not given. -/
def ofGeneric (settings : Entries Text Value) : Config :=
  (settings.filter isGeneric).foldl (fun c f => c.set f.1 f.2) {}

theorem mem_fieldNames_of_generic {setting : Text × Value}
    (h : setting ∈ settings.filter isGeneric) : setting.1 ∈ fieldNames :=
  List.contains_iff_mem.1 (List.mem_filter.1 h).2

theorem ofFields_generic (settings : Entries Text Value) :
    ofFields (settings.filter isGeneric) = .ok (ofGeneric settings) := by
  refine if_pos (List.all_eq_true.2 fun f hf => ?_)
  exact List.contains_iff_mem.2 (mem_fieldNames_of_generic hf)

theorem nodup_filter (h : settings.keys.Nodup) (p : Text × Value → Bool) :
    (Entries.keys (settings.filter p)).Nodup :=
  (List.filter_sublist.map Prod.fst).nodup h

theorem get?_filter_isGeneric (settings : Entries Text Value) (hgeneric : name ∈ fieldNames) :
    Entries.get? (settings.filter isGeneric) name = Entries.get? settings name :=
  Entries.get?_filter_keys fieldNames.contains (List.contains_iff_mem.2 hgeneric) settings

theorem get?_filter_custom (settings : Entries Text Value) :
    Entries.get? (settings.filter isGeneric) customName = Entries.get? settings customName :=
  get?_filter_isGeneric settings (by decide)

/-- Among the settings that are not generic, a name has what it has among all. -/
theorem last?_filter_special (hnodup : settings.keys.Nodup) (hspecial : name ∉ fieldNames) :
    Entries.last? (settings.filter (!isGeneric ·)) name = Entries.get? settings name := by
  rw [Entries.last?_eq_get? (nodup_filter hnodup _)]
  exact Entries.get?_filter_keys (!fieldNames.contains ·) (by simp [hspecial]) settings

/-- A generic setting is the one that is given, else the usual one. -/
theorem get?_ofGeneric (hnodup : settings.keys.Nodup) (hgeneric : name ∈ fieldNames)
    (hname : name ≠ customName) : Entries.get? (ofGeneric settings).generic name =
      (Entries.get? settings name).or (Entries.get? ({} : Config).generic name) := by
  rw [ofGeneric, get?_generic_foldl hname _ fun f hf => mem_fieldNames_of_generic hf,
    Entries.last?_eq_get? (nodup_filter hnodup _), get?_filter_isGeneric settings hgeneric]

theorem custom_ofGeneric (hnodup : settings.keys.Nodup) : (ofGeneric settings).custom =
    .plain ((Entries.get? settings customName).getD (.object [])) := by
  rw [ofGeneric, custom_foldl _ fun f hf => mem_fieldNames_of_generic hf,
    Entries.last?_eq_get? (nodup_filter hnodup _), get?_filter_custom]
  cases Entries.get? settings customName <;> rfl

/-- What becomes of merged settings : the generic ones, and beside them those of the language as
they stand inside `custom`, under those that stand at the top. -/
theorem ofMerged_eq_ok (hnodup : settings.keys.Nodup) (h : ofMerged settings = .ok c) :
    c.generic = (ofGeneric settings).generic ∧ ∀ name, name ∉ fieldNames →
      (∀ v, Entries.get? settings name = some v → c.custom.get? name = some v) ∧
      (HasObject settings →
        c.custom.get? name = (Entries.get? settings name).or (inside? settings name)) := by
  unfold ofMerged at h
  simp only [ofFields_generic, get?_filter_custom] at h
  split at h
  next hempty =>
    obtain rfl := Except.ok.inj h
    refine ⟨rfl, fun name hname => ?_⟩
    have hnone : Entries.get? settings name = none := by
      rw [← last?_filter_special hnodup hname, List.isEmpty_iff.1 hempty]
      rfl
    refine ⟨fun v hv => by simp [hnone] at hv, fun ⟨fields, hfields⟩ => ?_⟩
    rw [custom_ofGeneric hnodup, hfields, inside?_eq hfields, hnone]
    rfl
  · obtain ⟨custom, hentries, h⟩ := bind_eq_ok_iff.1 h
    obtain rfl := Except.ok.inj h
    refine ⟨rfl, fun name hname => ?_⟩
    simp only [Custom.get?_ofEntries, Entries.get?_putAll_entriesOfFields,
      last?_filter_special hnodup hname]
    refine ⟨fun v hv => by rw [hv]; rfl, fun ⟨fields, hfields⟩ => ?_⟩
    rw [hfields] at hentries
    obtain rfl : Custom.entriesOfFields fields = custom := Except.ok.inj hentries
    rw [Entries.get?_entriesOfFields, inside?_eq hfields]

/-- Settings with an object `custom` always make a configuration. -/
theorem exists_ofMerged (h : HasObject settings) : ∃ c, ofMerged settings = .ok c := by
  obtain ⟨fields, hfields⟩ := h
  unfold ofMerged
  simp only [ofFields_generic, get?_filter_custom, hfields]
  split <;> exact ⟨_, rfl⟩

/-- A generic setting of a configuration is the one that was merged, else the usual one. -/
theorem setting?_of_generic (hnodup : settings.keys.Nodup) (h : ofMerged settings = .ok c)
    (hgeneric : name ∈ fieldNames) (hname : name ≠ customName) : c.setting? name =
      (Entries.get? settings name).or (Entries.get? ({} : Config).generic name) := by
  have hkey : name ∈ ({} : Config).generic.keys := (mem_fieldNames.1 hgeneric).resolve_right hname
  obtain ⟨u, husual⟩ := Option.isSome_iff_exists.1 (Entries.isSome_get?_iff.2 hkey)
  rw [setting?, (ofMerged_eq_ok hnodup h).1, get?_ofGeneric hnodup hgeneric hname, husual]
  cases Entries.get? settings name <;> rfl

theorem setting?_of_special (hspecial : name ∉ fieldNames) :
    c.setting? name = c.custom.get? name := by
  have hkey : name ∉ c.generic.keys := fun hkey => hspecial (mem_fieldNames.2 (.inl hkey))
  rw [setting?, Entries.get?_of_not_mem_keys hkey, Option.none_or]

/-! ## All layers -/

theorem nodup_defaultsFor (language : Text) : (defaultsFor language).keys.Nodup := by
  unfold defaultsFor
  split <;> decide

theorem hasObject_defaultsFor (language : Text) : HasObject (defaultsFor language) := by
  unfold defaultsFor
  split <;> exact ⟨_, rfl⟩

/-- No language has a setting of its own at the top of its defaults. -/
theorem get?_defaultsFor (hspecial : name ∉ fieldNames) (language : Text) :
    Entries.get? (defaultsFor language) name = none := by
  refine Entries.get?_of_not_mem_keys fun hkey => hspecial ?_
  have hkeys : ∀ k ∈ (defaultsFor language).keys, k ∈ fieldNames := by
    unfold defaultsFor
    split <;> decide
  exact hkeys name hkey

variable {language : Text} {file overrides : Entries Text Value}

theorem layerOf_object (fields : Entries Text Value) : layerOf (.object fields) = .ok fields := by
  cases fields <;> rfl

theorem layered_eq_ok (h : layered language file (.object overrides) = .ok c) :
    ∃ base settings, merge (defaultsFor language) file = .ok base ∧
      merge base overrides = .ok settings ∧ settings.keys.Nodup ∧ ofMerged settings = .ok c := by
  obtain ⟨base, hbase, h⟩ := bind_eq_ok_iff.1 h
  rw [layerOf_object, bind_ok] at h
  obtain ⟨settings, hsettings, h⟩ := bind_eq_ok_iff.1 h
  exact ⟨base, settings, hbase, hsettings,
    nodup_merge (nodup_merge (nodup_defaultsFor language) hbase) hsettings, h⟩

theorem exists_layered (language : Text) (hfile : CustomIsObject file)
    (hoverrides : CustomIsObject overrides) :
    ∃ c, layered language file (.object overrides) = .ok c := by
  obtain ⟨base, hbase, hobject⟩ := exists_merge hfile (hasObject_defaultsFor language)
  obtain ⟨settings, hsettings, hobject⟩ := exists_merge hoverrides hobject
  obtain ⟨c, hc⟩ := exists_ofMerged hobject
  refine ⟨c, ?_⟩
  rw [layered, hbase, bind_ok, layerOf_object, bind_ok, hsettings]
  exact hc

/-- A setting at the top of the overrides is the setting of the configuration. -/
theorem setting?_layered (h : layered language file (.object overrides) = .ok c)
    (hname : name ≠ customName) (hv : Entries.last? overrides name = some v) :
    c.setting? name = some v := by
  obtain ⟨base, settings, -, hsettings, hnodup, hc⟩ := layered_eq_ok h
  have hget : Entries.get? settings name = some v := by
    rw [get?_merge hname hsettings, hv]
    rfl
  by_cases hgeneric : name ∈ fieldNames
  · rw [setting?_of_generic hnodup hc hgeneric hname, hget]
    rfl
  · rw [setting?_of_special hgeneric]
    exact ((ofMerged_eq_ok hnodup hc).2 name hgeneric).1 v hget

/-- A setting inside `custom` of the overrides is one of the configuration, unless the file has
another one at its top. -/
theorem setting?_layered_inside (h : layered language file (.object overrides) = .ok c)
    (hoverrides : CustomIsObject overrides) (hspecial : name ∉ fieldNames)
    (htop : Entries.last? overrides name = none) (hv : lastInside? overrides name = some v) :
    c.setting? name = some ((Entries.last? file name).getD v) := by
  obtain ⟨base, settings, hbase, hsettings, hnodup, hc⟩ := layered_eq_ok h
  have hname : name ≠ customName := fun heq =>
    hspecial ((mem_fieldNames (c := c)).2 (.inr heq))
  have hinside : inside? settings name = some v := by
    rw [inside?_merge name hoverrides hsettings, hv]
    rfl
  rw [setting?_of_special hspecial,
    ((ofMerged_eq_ok hnodup hc).2 name hspecial).2 (hasObject_of_inside? hinside), hinside,
    get?_merge hname hsettings, htop, get?_merge hname hbase, get?_defaultsFor hspecial]
  cases Entries.last? file name <;> rfl

end Config

/-! ## Overrides and files -/

theorem loadConfig_eq {t : FileTree} {language : Text} {overrides file : Value}
    {fields : Entries Text Value} {log : Log} (hfile : fileLayer t file = .ok (fields, log)) :
    loadConfig t (.str language) overrides file =
      (Trouble.ofFault (Config.layered language fields overrides), log) := by
  simp only [loadConfig, hfile]
  rfl

open Config in
/-- Overrides beat a configuration file, for every setting that they give at their top. A setting
that they give inside `custom` beats the file as well, unless the file gives it at its top : then
the file wins. With objects `custom` there always is a configuration. -/
theorem loadConfig_overrides {t : FileTree} {file : Value} {fields overrides : Entries Text Value}
    {log : Log} (language : Text) (hfile : fileLayer t file = .ok (fields, log))
    (hoverrides : CustomIsObject overrides) :
    (CustomIsObject fields →
      ∃ c, (loadConfig t (.str language) (.object overrides) file).1 = .ok c) ∧
    ∀ c, (loadConfig t (.str language) (.object overrides) file).1 = .ok c →
      ∀ name v, name ≠ customName →
        (Entries.last? overrides name = some v → c.setting? name = some v) ∧
        (name ∉ fieldNames → Entries.last? overrides name = none →
          lastInside? overrides name = some v →
            c.setting? name = some ((Entries.last? fields name).getD v)) := by
  rw [loadConfig_eq hfile]
  constructor
  · intro hfields
    obtain ⟨c, hc⟩ := exists_layered language hfields hoverrides
    exact ⟨c, mapError_eq_ok_iff.2 hc⟩
  · intro c hc name v hname
    have hlayered := mapError_eq_ok_iff.1 hc
    exact ⟨setting?_layered hlayered hname,
      fun hspecial => setting?_layered_inside hlayered hoverrides hspecial⟩

/-- A tree with a configuration file, which gives settings in both spellings. -/
def FileTree.sampleSettings : FileTree :=
  { nodes := [(["dtogen.json"], .file (.text
      "\x7b\"orm_module\": \"file\", \"custom\": \x7b\"enums_module\": \"file\"\x7d\x7d"))] }

theorem FileTree.fileLayer_sampleSettings : ∃ log,
    fileLayer sampleSettings (.str "dtogen.json") =
      .ok ([("orm_module", .str "file"), ("custom", .object [("enums_module", .str "file")])],
        log) := by
  have hread : (match fileLayer sampleSettings (.str "dtogen.json") with
      | .ok (fields, _) => Value.beq (.object fields) (.object
          [("orm_module", .str "file"), ("custom", .object [("enums_module", .str "file")])])
      | .error _ => false) = true := by
    decide +kernel
  split at hread
  next fields log hlayer => exact ⟨log, by rw [hlayer, Value.object.inj (Value.beq_sound hread)]⟩
  · cases hread

/-- Overrides of a setting that the file has at its top, of one that it has inside `custom`, and of
one that it lacks. -/
def Config.sampleOverrides : Entries Text Value :=
  [("orm_module", .str "overrides"), ("enums_module", .str "overrides"),
   ("custom", .object [("relation_module", .str "overrides")])]

open Config in
theorem loadConfig_overrides_sampleSettings : ∃ fields log c,
    fileLayer .sampleSettings (.str "dtogen.json") = .ok (fields, log) ∧
    CustomIsObject sampleOverrides ∧ CustomIsObject fields ∧
    (loadConfig .sampleSettings (.str "typescript") (.object sampleOverrides)
      (.str "dtogen.json")).1 = .ok c ∧
    c.setting? "orm_module" = some (.str "overrides") ∧
    c.setting? "enums_module" = some (.str "overrides") ∧
    c.setting? "relation_module" = some (.str "overrides") := by
  obtain ⟨log, hlayer⟩ := FileTree.fileLayer_sampleSettings
  have hoverrides : CustomIsObject sampleOverrides := by decide
  obtain ⟨hexists, hwins⟩ := loadConfig_overrides "typescript" hlayer hoverrides
  obtain ⟨c, hc⟩ := hexists (by decide)
  refine ⟨_, log, c, hlayer, hoverrides, by decide, hc, ?_, ?_, ?_⟩
  · exact (hwins c hc "orm_module" _ (by decide)).1 rfl
  · exact (hwins c hc "enums_module" _ (by decide)).1 rfl
  · exact (hwins c hc "relation_module" _ (by decide)).2 (by decide) rfl rfl

/-- What the file has at its top beats what the overrides have inside `custom`. -/
theorem loadConfig_file_beats_overrides : ∃ c,
    (loadConfig .sampleSettings (.str "typescript")
      (.object [("custom", .object [("orm_module", .str "overrides")])])
      (.str "dtogen.json")).1 = .ok c ∧
    c.setting? "orm_module" = some (.str "file") := by
  obtain ⟨log, hlayer⟩ := FileTree.fileLayer_sampleSettings
  have hoverrides : Config.CustomIsObject
    [("custom", .object [("orm_module", .str "overrides")])] := by decide
  have hfile : Config.CustomIsObject
    [("orm_module", .str "file"), ("custom", .object [("enums_module", .str "file")])] := by decide
  obtain ⟨c, hc⟩ := Config.exists_layered "typescript" hfile hoverrides
  refine ⟨c, by rw [loadConfig_eq hlayer, hc]; rfl, ?_⟩
  exact Config.setting?_layered_inside hc hoverrides (by decide) rfl rfl

end DtoPress
