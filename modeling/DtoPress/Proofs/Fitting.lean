import DtoPress.Proofs.Generators
import DtoPress.Proofs.Layers
import DtoPress.Proofs.Printing

/-!
# Configurations that fit

A setting fits if its value is of the kind that it is used as : `Settings.fits` says so for the
settings of the generated project, `Config.fits` for those of a configuration. Layers are put
together setting by setting and no value is changed on the way, so what fits in every layer fits in
the configuration (`Config.exists_layered_fits`), and a generator can be made from it whose modules
and directories can be written (`Config.Fits.exists_create`).
-/

set_option linter.unusedSectionVars false

namespace DtoPress

/-! ## Settings that fit -/

/-- An object whose fields pass. -/
def Value.isObjectOf (p : Text × Value → Bool) : Value → Bool
  | .object fields => fields.all p
  | _ => false

/-- Modules and directories are texts that can be written. All other settings of the language may
be anything, but for the one name that no setting can have. -/
def Settings.fits (setting : Text × Value) : Bool :=
  setting.1 != "self" && (!(({} : Settings).fields.keys.contains setting.1)
    || setting.2.isText && setting.2.text.isName)

/-- The directory is a path, the indentation a number of spaces, the quote style can be looked up,
and the settings of the language fit, be they inside `custom` or beside it. -/
def Config.fits (setting : Text × Value) : Bool :=
  if setting.1 = "output_dir" then
    setting.2.isText && (Path.ofText setting.2.text).fault?.isNone
  else if setting.1 = "indent_size" then (spacesOf setting.2).isOk
  else if setting.1 = "quote_style" then setting.2.isKey
  else if setting.1 = customName then setting.2.isObjectOf Settings.fits
  else Settings.fits setting

namespace Entries

variable {κ ν : Type} [BEq κ] [LawfulBEq κ] {p : κ × ν → Prop}

/-- What holds of all entries and of a new one holds after a put. -/
theorem forall_mem_put {k : κ} {v : ν} (hv : p (k, v)) : ∀ {es : Entries κ ν},
    (∀ e ∈ es, p e) → ∀ e ∈ put es k v, p e
  | [], _ => List.forall_mem_singleton.2 hv
  | (l, w) :: es, h => by
    obtain ⟨hl, hes⟩ := List.forall_mem_cons.1 h
    by_cases hkey : l = k
    · subst hkey
      rw [put, if_pos (beq_self_eq_true l)]
      exact List.forall_mem_cons.2 ⟨hv, hes⟩
    · rw [put, if_neg (by simpa using hkey)]
      exact List.forall_mem_cons.2 ⟨hl, forall_mem_put hv hes⟩

theorem forall_mem_putAll : ∀ {changes es : Entries κ ν}, (∀ e ∈ es, p e) →
    (∀ e ∈ changes, p e) → ∀ e ∈ putAll es changes, p e
  | [], _, h, _ => h
  | (k, v) :: changes, es, h, hchanges => by
    obtain ⟨hv, hrest⟩ := List.forall_mem_cons.1 hchanges
    show ∀ e ∈ putAll (put es k v) changes, p e
    exact forall_mem_putAll (forall_mem_put hv h) hrest

end Entries

/-! ## Objects as entries -/

namespace Custom

theorem entriesOfFields_put (k : Text) (v : Value) : ∀ fields : Entries Text Value,
    Entries.put (entriesOfFields fields) (.str k) v = entriesOfFields (fields.put k v)
  | [] => rfl
  | (l, w) :: fields => by
    show Entries.put ((.str l, w) :: entriesOfFields fields) (.str k) v = _
    rw [Entries.put, Entries.put, Value.str_beq, entriesOfFields_put k v fields]
    split <;> rfl

theorem entriesOfFields_putAll : ∀ changes fields : Entries Text Value,
    Entries.putAll (entriesOfFields fields) (entriesOfFields changes) =
      entriesOfFields (Entries.putAll fields changes)
  | [], _ => rfl
  | (k, v) :: changes, fields => by
    show Entries.putAll (Entries.put (entriesOfFields fields) (.str k) v)
      (entriesOfFields changes) = _
    rw [entriesOfFields_put]
    exact entriesOfFields_putAll changes (fields.put k v)

/-- The entries of an object make the object. -/
theorem ofEntries_entriesOfFields (fields : Entries Text Value) :
    ofEntries (entriesOfFields fields) = .plain (.object fields) := by
  have hall : ∀ fields : Entries Text Value,
      ((entriesOfFields fields).mapM fun e => (textOf? e.1).map fun t => (t, e.2)) =
        some fields := by
    intro fields
    induction fields with
    | nil => rfl
    | cons f fields ih =>
      show (List.mapM _ ((.str f.1, f.2) :: entriesOfFields fields)) = _
      rw [List.mapM_cons, ih]
      rfl
  unfold ofEntries
  split
  next read hread => rw [Option.some.inj (hread.symm.trans (hall fields))]
  next hnone => exact absurd (hnone.symm.trans (hall fields)) (by simp)

end Custom

namespace Config

variable {c : Config} {name : Text} {v : Value} {settings below after layer : Entries Text Value}

theorem fits_custom {fields : Entries Text Value} :
    fits (customName, .object fields) = true ↔ ∀ s ∈ fields, Settings.fits s = true := by
  show fields.all Settings.fits = true ↔ _
  rw [List.all_eq_true]

theorem isObject_of_fits (h : fits (customName, v) = true) : v.isObject = true := by
  replace h : v.isObjectOf Settings.fits = true := h
  cases v with
  | object fields => rfl
  | _ => cases h

theorem customIsObject_of_fits (h : ∀ s ∈ layer, fits s = true) : CustomIsObject layer := by
  rintro ⟨name, v⟩ hs rfl
  exact isObject_of_fits (h _ hs)

/-! ## Layers -/

/-- The object `custom` of settings that fit. -/
theorem settingsFit_of_get? (h : ∀ s ∈ settings, fits s = true) {fields : Entries Text Value}
    (hget : (Entries.get? settings customName).getD (.object []) = .object fields) :
    ∀ s ∈ fields, Settings.fits s = true := by
  cases hv : Entries.get? settings customName with
  | none =>
    rw [hv] at hget
    obtain rfl : [] = fields := Value.object.inj hget
    simp
  | some v =>
    rw [hv] at hget
    obtain rfl : v = .object fields := hget
    exact fits_custom.1 (h _ (Entries.mem_of_get? hv))

theorem fits_overlay {setting : Text × Value} (hbelow : ∀ s ∈ below, fits s = true)
    (hsetting : fits setting = true) (h : overlay below setting = .ok after) :
    ∀ s ∈ after, fits s = true := by
  rcases overlay_eq_ok h with rfl | ⟨more, custom, rfl, hget, rfl⟩
  · exact Entries.forall_mem_put (p := (fits · = true)) hsetting hbelow
  · refine Entries.forall_mem_put (p := (fits · = true)) (fits_custom.2 ?_) hbelow
    exact Entries.forall_mem_putAll (p := (Settings.fits · = true))
      (settingsFit_of_get? hbelow hget) (fits_custom.1 hsetting)

theorem fits_merge : ∀ {layer below : Entries Text Value}, (∀ s ∈ below, fits s = true) →
    (∀ s ∈ layer, fits s = true) → merge below layer = .ok after → ∀ s ∈ after, fits s = true
  | [], below, hbelow, _, h => by
    obtain rfl : below = after := Except.ok.inj h
    exact hbelow
  | setting :: layer, below, hbelow, hlayer, h => by
    obtain ⟨hsetting, hrest⟩ := List.forall_mem_cons.1 hlayer
    obtain ⟨next, hnext, h⟩ := merge_cons_eq_ok h
    exact fits_merge (fits_overlay hbelow hsetting hnext) hrest h

theorem fits_defaultsFor (language : Text) : ∀ s ∈ defaultsFor language, fits s = true := by
  unfold defaultsFor
  split <;> decide +kernel

/-! ## From settings to a configuration -/

/-- The settings of the language are those inside `custom`, with those beside it put over them. -/
theorem custom_ofMerged (hnodup : settings.keys.Nodup) (h : ofMerged settings = .ok c)
    {fields : Entries Text Value}
    (hget : (Entries.get? settings customName).getD (.object []) = .object fields) :
    c.custom = .plain (.object (Entries.putAll fields (settings.filter (!isGeneric ·)))) := by
  unfold ofMerged at h
  simp only [ofFields_generic, get?_filter_custom] at h
  split at h
  next hempty =>
    obtain rfl := Except.ok.inj h
    rw [custom_ofGeneric hnodup, hget, List.isEmpty_iff.1 hempty]
    rfl
  · rw [hget] at h
    obtain rfl := Except.ok.inj h
    show Custom.ofEntries (Entries.putAll (Custom.entriesOfFields fields) _) = _
    rw [Custom.entriesOfFields_putAll, Custom.ofEntries_entriesOfFields]

/-- Of a configuration that fits, a generator can be made. -/
structure Fits (c : Config) : Prop where
  output : ∃ t, c.outputDir = .str t ∧ (Path.ofText t).fault? = none
  indent : ∃ n, spacesOf c.indentSize = .ok n
  quote : c.quoteStyle.isKey = true
  custom : ∃ fields, c.custom = .plain (.object fields) ∧ ∀ s ∈ fields, Settings.fits s = true

theorem fits_special {setting : Text × Value} (h : setting.1 ∉ fieldNames) :
    fits setting = Settings.fits setting := by
  have hne : ∀ name ∈ fieldNames, setting.1 ≠ name := fun name hname heq => h (heq ▸ hname)
  rw [fits, if_neg (hne _ (by decide)), if_neg (hne _ (by decide)), if_neg (hne _ (by decide)),
    if_neg (hne _ (by decide))]

/-- A generic setting is one that was merged or the usual one, and both fit. -/
theorem fits_generic (hfits : ∀ s ∈ settings, fits s = true) (hnodup : settings.keys.Nodup)
    (h : ofMerged settings = .ok c) (hgeneric : name ∈ fieldNames) (hname : name ≠ customName)
    (hv : Entries.get? c.generic name = some v) : fits (name, v) = true := by
  have husual : ∀ s ∈ ({} : Config).generic, fits s = true := by decide +kernel
  rw [(ofMerged_eq_ok hnodup h).1, get?_ofGeneric hnodup hgeneric hname] at hv
  rcases Option.or_eq_some_iff.1 hv with hv | ⟨-, hv⟩
  · exact hfits _ (Entries.mem_of_get? hv)
  · exact husual _ (Entries.mem_of_get? hv)

theorem fits_ofMerged (hfits : ∀ s ∈ settings, fits s = true) (hnodup : settings.keys.Nodup)
    (hobject : HasObject settings) (h : ofMerged settings = .ok c) : c.Fits := by
  have hgeneric : ∀ name v, name ∈ fieldNames → name ≠ customName →
      Entries.get? c.generic name = some v → fits (name, v) = true := fun name v hname hne =>
    fits_generic hfits hnodup h hname hne
  constructor
  · have houtput : fits ("output_dir", c.outputDir) = true :=
      hgeneric _ _ (by decide) (by decide) rfl
    obtain ⟨htext, hfault⟩ := Bool.and_eq_true_iff.1 houtput
    exact ⟨_, (Value.str_text htext).symm, Option.isNone_iff_eq_none.1 hfault⟩
  · have hindent : (spacesOf c.indentSize).isOk = true :=
      hgeneric "indent_size" _ (by decide) (by decide) rfl
    cases hspaces : spacesOf c.indentSize with
    | ok n => exact ⟨n, rfl⟩
    | error e =>
      rw [hspaces] at hindent
      cases hindent
  · exact hgeneric "quote_style" _ (by decide) (by decide) rfl
  · obtain ⟨fields, hfields⟩ := hobject
    refine ⟨_, custom_ofMerged hnodup h hfields, ?_⟩
    refine Entries.forall_mem_putAll (p := (Settings.fits · = true))
      (settingsFit_of_get? hfits hfields) fun s hs => ?_
    obtain ⟨hmem, hspecial⟩ := List.mem_filter.1 hs
    rw [← fits_special (by simpa [isGeneric] using hspecial)]
    exact hfits s hmem

/-- Layers that fit make a configuration that fits. -/
theorem exists_layered_fits (language : Text) {file overrides : Entries Text Value}
    (hfile : ∀ s ∈ file, fits s = true) (hoverrides : ∀ s ∈ overrides, fits s = true) :
    ∃ c, layered language file (.object overrides) = .ok c ∧ c.Fits := by
  obtain ⟨base, hbase, hobject⟩ :=
    exists_merge (customIsObject_of_fits hfile) (hasObject_defaultsFor language)
  obtain ⟨settings, hsettings, hobject⟩ :=
    exists_merge (customIsObject_of_fits hoverrides) hobject
  obtain ⟨c, hc⟩ := exists_ofMerged hobject
  have hbaseFits := fits_merge (fits_defaultsFor language) hfile hbase
  have hnodup := nodup_merge (nodup_merge (nodup_defaultsFor language) hbase) hsettings
  refine ⟨c, ?_, fits_ofMerged (fits_merge hbaseFits hoverrides hsettings) hnodup hobject hc⟩
  rw [layered, hbase, bind_ok, layerOf_object, bind_ok, hsettings]
  exact hc

end Config

/-! ## Generators -/

/-- Modules and directories that fit are texts and can be written. -/
theorem Settings.of_fits {given : Entries Text Value} (h : ∀ s ∈ given, fits s = true) :
    (ofFields given).isTextual = true ∧ (ofFields given).isWritable = true := by
  have husual : ∀ s ∈ ({} : Settings).fields, s.2.isText = true ∧ s.2.text.isName = true := by
    decide
  have hall : ∀ s ∈ ({} : Settings).fields, ((Entries.get? given s.1).getD s.2).isText = true ∧
      ((Entries.get? given s.1).getD s.2).text.isName = true := by
    intro s hs
    have hkey : ({} : Settings).fields.keys.contains s.1 = true :=
      List.contains_iff_mem.2 (List.mem_map_of_mem hs)
    cases hv : Entries.get? given s.1 with
    | none => exact husual s hs
    | some v =>
      have hfits := h _ (Entries.mem_of_get? hv)
      simp only [fits, hkey, Bool.not_true, Bool.false_or, Bool.and_eq_true] at hfits
      exact hfits.2
  simp only [Settings.fields, List.forall_mem_cons, Text.isName_iff] at hall
  obtain ⟨hv, ht, hj, ho, hn, hh, hu, hd, hr, hmodels, henums, -⟩ := hall
  constructor
  · rw [isTextual_iff, hasTextModules]
    refine ⟨?_, hmodels.1, henums.1⟩
    simp only [modules, List.all_cons, List.all_nil, Bool.and_true, Bool.and_eq_true]
    exact ⟨hv.1, ht.1, hj.1, ho.1, hn.1, hh.1, hu.1, hd.1, hr.1⟩
  · rw [isWritable_iff]
    refine ⟨?_, hmodels.2.2, henums.2.2⟩
    simp only [modules, List.forall_mem_cons]
    exact ⟨hv.2.1, ht.2.1, hj.2.1, ho.2.1, hn.2.1, hh.2.1, hu.2.1, hd.2.1, hr.2.1, by simp⟩

/-- The generator of a configuration that fits. -/
theorem Config.Fits.exists_create {c : Config} (h : c.Fits) : ∃ g,
    Generator.create .typescript c = .ok g ∧ g.settings.isTextual = true ∧
      g.settings.isWritable = true ∧ g.indent.isWhole = true := by
  obtain ⟨fields, hcustom, hfields⟩ := h.custom
  obtain ⟨n, hn⟩ := h.indent
  have hself : Entries.has fields "self" = false := by
    rw [Entries.has, Option.isSome_eq_false_iff, Option.isNone_iff_eq_none]
    refine Entries.get?_of_not_mem_keys fun hkey => ?_
    obtain ⟨s, hs, hname⟩ := List.mem_map.1 hkey
    have hfits := hfields s hs
    simp [Settings.fits, hname] at hfits
  have hsettings : Generator.settingsOf c.custom = .ok (Settings.ofFields fields) := by
    rw [hcustom, Generator.settingsOf, Settings.ofValue, hself, if_neg Bool.false_ne_true]
  have hindent : Generator.indentation c.indentSize = .ok (List.replicate n (.char ' ')) := by
    rw [Generator.indentation, hn]
    rfl
  obtain ⟨htextual, hwritable⟩ := Settings.of_fits hfields
  obtain ⟨g, hg⟩ : ∃ g, Generator.create .typescript c = .ok g := by
    simp only [Generator.create, hsettings, hindent]
    exact ⟨_, rfl⟩
  obtain ⟨settings, k, hs, -, rfl⟩ := Generator.of_create hg
  obtain rfl := Except.ok.inj (hs.symm.trans hsettings)
  exact ⟨_, hg, htextual, hwritable, Text.isWhole_replicate k ' '⟩

end DtoPress
