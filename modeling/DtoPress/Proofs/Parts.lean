import DtoPress.Proofs.Plan

/-!
# The parts of what is generated

A run into an empty buffer leaves `Generator.files` : one file for each path of the model, in the
order of their first write, with the text that was written last. Each of them is the file of one
`Part` : an entity, an enum, a barrel or a fixed file. The character before its extension tells
what kind of part a path is of, whatever the names (`Generator.EndsIn`), and within a kind names
can be read off paths. So paths of different parts differ (`Generator.eq_of_pathOf_eq`), and the
file of a part has the text of the last emission for it, which `Generator.emissionOf?` reads off
the model without regard to other parts (`Generator.Ready.get?_files`).
-/

set_option linter.unusedSectionVars false

namespace DtoPress

/-! ## Texts of emissions -/

namespace Emission

/-- The text of an emission, empty if it has none. -/
def text (e : Emission) : Text :=
  match e.draft with
  | .ok d => d.text
  | .error _ => []

theorem text_of_ok {e : Emission} {d : Draft} (h : e.draft = .ok d) : e.text = d.text := by
  rw [text, h]

theorem writes_map {α : Type} {f : α → Emission} {path : α → Text} : ∀ {l : List α},
    (∀ a ∈ l, (f a).Writes (path a)) → writes (l.map f) = l.map fun a => (path a, (f a).text)
  | [], _ => rfl
  | a :: l, h => by
    obtain ⟨d, hd, hpath⟩ := h a List.mem_cons_self
    have hrest := writes_map fun b hb => h b (List.mem_cons_of_mem a hb)
    rw [List.map_cons, List.map_cons, writes_cons_of_ok hd, hrest, text_of_ok hd, hpath]

end Emission

/-! ## Parts -/

/-- What one file is made for. -/
inductive Part where
  | entity (name : Text)
  | models
  | enum (name : Text)
  | enums
  | helpers
  | decorators
  deriving DecidableEq

/-- The character before the extension in the path of a part. -/
def Part.ending : Part → Char
  | .entity _ => 'l'
  | .models => 'x'
  | .enum _ => 'm'
  | .enums => 'x'
  | .helpers => 's'
  | .decorators => 's'

/-- What stands behind all others of its name in a list is the last of the name. -/
theorem Entries.last?_of_split {α : Type} {name : α → Value} {before rest : List α} {a : α}
    (htexts : ∀ b ∈ before ++ a :: rest, (name b).isText = true) (hlast : name a ∉ rest.map name) :
    Entries.last? ((before ++ a :: rest).map fun b => ((name b).text, b)) (name a).text =
      some a := by
  have hrest : (name a).text ∉ Entries.keys (rest.map fun b => ((name b).text, b)) := by
    rw [Entries.keys, List.map_map, List.mem_map]
    rintro ⟨b, hb, hname⟩
    refine hlast (List.mem_map.2 ⟨b, hb, Value.eq_of_text_eq (htexts b ?_) (htexts a ?_) hname⟩)
    · exact List.mem_append_right _ (List.mem_cons_of_mem a hb)
    · exact List.mem_append_right _ List.mem_cons_self
  rw [List.map_append, List.map_cons, Entries.last?_append, Entries.last?,
    Entries.last?_eq_none_iff.2 hrest]
  simp

/-- The last entity of a name. -/
def Model.lastEntity? (m : Model) (name : Text) : Option Entity :=
  Entries.last? (m.entities.map fun e => (e.name.text, e)) name

/-- The last enum of a name. -/
def Model.lastEnum? (m : Model) (name : Text) : Option EnumType :=
  Entries.last? (m.enums.map fun e => (e.name.text, e)) name

theorem Model.lastEntity?_of_split {m : Model} (hm : m.isTextual = true)
    {before rest : List Entity} {e : Entity} (h : m.entities = before ++ e :: rest)
    (hlast : e.name ∉ rest.map (·.name)) : m.lastEntity? e.name.text = some e := by
  rw [lastEntity?, h]
  refine Entries.last?_of_split (fun f hf => ?_) hlast
  exact (Entity.isTextual_iff.1 ((isTextual_iff.1 hm).1 f (h ▸ hf))).1

theorem Model.lastEnum?_of_split {m : Model} (hm : m.isTextual = true)
    {before rest : List EnumType} {e : EnumType} (h : m.enums = before ++ e :: rest)
    (hlast : e.name ∉ rest.map (·.name)) : m.lastEnum? e.name.text = some e := by
  rw [lastEnum?, h]
  exact Entries.last?_of_split (fun f hf => (isTextual_iff.1 hm).2 f (h ▸ hf)) hlast

namespace Generator

variable {g : Generator} {m : Model}

/-- The path of the file of a part. -/
def pathOf (g : Generator) : Part → Text
  | .entity name => g.modelPath (.str name)
  | .models => g.barrelPath .models
  | .enum name => g.enumPath (.str name)
  | .enums => g.barrelPath .enums
  | .helpers => g.helpersPath
  | .decorators => g.decoratorsPath

/-- What is emitted for a part : the last entity or enum of its name, a barrel of all names, or a
fixed file, if it is wanted. -/
def emissionOf? (g : Generator) (m : Model) : Part → Option Emission
  | .entity name => (m.lastEntity? name).map g.emitEntity
  | .models => some (g.emitIndex .models m.entityNames)
  | .enum name =>
    if g.config.generateEnums.truthy then (m.lastEnum? name).map g.emitEnum else none
  | .enums =>
    if g.config.generateEnums.truthy then some (g.emitIndex .enums m.enumNames) else none
  | .helpers => if g.config.generateHelpers.truthy then some g.emitHelpers else none
  | .decorators => some g.emitDecorators

/-! ## Paths apart -/

/-- The path has the given character before its extension. -/
def EndsIn (g : Generator) (c : Char) (path : Text) : Prop :=
  ∃ stem : Text, path = stem ++ [.char c] ++ (g.kind.extension : Text)

theorem EndsIn.unique {c d : Char} {path : Text} (hc : g.EndsIn c path) (hd : g.EndsIn d path) :
    c = d := by
  obtain ⟨s, rfl⟩ := hc
  obtain ⟨t, h⟩ := hd
  have hlast := (List.append_inj' (List.append_cancel_right h) rfl).2
  simpa using hlast

theorem endsIn_append (stem init : Text) (c : Char) :
    g.EndsIn c (stem ++ (init ++ [.char c]) ++ (g.kind.extension : Text)) :=
  ⟨stem ++ init, by rw [List.append_assoc stem init]⟩

theorem pathOf_endsIn (g : Generator) : ∀ part : Part, g.EndsIn part.ending (g.pathOf part)
  | .entity _ => endsIn_append _ ".mode" 'l'
  | .models => endsIn_append _ "/inde" 'x'
  | .enum _ => endsIn_append _ ".enu" 'm'
  | .enums => endsIn_append _ "/inde" 'x'
  | .helpers => ⟨"helper", rfl⟩
  | .decorators => ⟨"decorator", rfl⟩

theorem modelPath_injective {a b : Value} (h : g.modelPath a = g.modelPath b) :
    a.text = b.text :=
  List.append_cancel_right (List.append_cancel_left
    (List.append_cancel_right (List.append_cancel_right h)))

theorem enumPath_injective {a b : Value} (h : g.enumPath a = g.enumPath b) :
    a.text = b.text :=
  List.append_cancel_left (List.append_cancel_right (List.append_cancel_right h))

theorem barrelPath_injective (h : g.barrelPath .models = g.barrelPath .enums) :
    g.settings.modelsDir.text = g.settings.enumsDir.text :=
  List.append_cancel_right (List.append_cancel_right h)

theorem helpersPath_ne_decoratorsPath : g.helpersPath ≠ g.decoratorsPath := fun h =>
  absurd (List.append_cancel_right h) (by decide)

/-- Different parts have different paths, whatever the names; only the two barrels may meet. -/
theorem eq_of_pathOf_eq {p q : Part} (h : g.pathOf p = g.pathOf q) : p = q ∨
    (p = .enums ∨ q = .enums) ∧ g.settings.modelsDir.text = g.settings.enumsDir.text := by
  have hending : p.ending = q.ending := (g.pathOf_endsIn p).unique (h ▸ g.pathOf_endsIn q)
  -- Only parts with the same ending are left : two of one kind, two barrels or two fixed files.
  cases p <;> cases q <;> try (simp [Part.ending] at hending; done)
  case entity.entity => exact .inl (congrArg Part.entity (modelPath_injective h))
  case models.models => exact .inl rfl
  case models.enums => exact .inr ⟨.inr rfl, barrelPath_injective h⟩
  case enum.enum => exact .inl (congrArg Part.enum (enumPath_injective h))
  case enums.models => exact .inr ⟨.inl rfl, barrelPath_injective h.symm⟩
  case enums.enums => exact .inl rfl
  case helpers.helpers => exact .inl rfl
  case helpers.decorators => exact absurd h helpersPath_ne_decoratorsPath
  case decorators.helpers => exact absurd h.symm helpersPath_ne_decoratorsPath
  case decorators.decorators => exact .inl rfl

theorem pathOf_injective (hdirs : g.settings.modelsDir.text ≠ g.settings.enumsDir.text)
    {p q : Part} (h : g.pathOf p = g.pathOf q) : p = q :=
  (eq_of_pathOf_eq h).resolve_right fun hmeet => hdirs hmeet.2

/-! ## The plan by parts -/

/-- The parts of entities in order, with their emissions. -/
def entityParts (g : Generator) (m : Model) : Entries Part Emission :=
  m.entities.map fun e => (.entity e.name.text, g.emitEntity e)

/-- The parts of enums in order and their barrel, if they are wanted. -/
def enumParts (g : Generator) (m : Model) : Entries Part Emission :=
  if g.config.generateEnums.truthy then
    (m.enums.map fun e => (.enum e.name.text, g.emitEnum e))
      ++ [(.enums, g.emitIndex .enums m.enumNames)]
  else []

/-- Helpers, if they are wanted, and decorators. -/
def fixedParts (g : Generator) : Entries Part Emission :=
  (if g.config.generateHelpers.truthy then [(.helpers, g.emitHelpers)] else [])
    ++ [(.decorators, g.emitDecorators)]

/-- The emissions of a plan, each with the part that it is for. -/
def parts (g : Generator) (m : Model) : Entries Part Emission :=
  g.entityParts m ++ (.models, g.emitIndex .models m.entityNames) :: (g.enumParts m ++ g.fixedParts)

theorem plan_eq_parts (g : Generator) (m : Model) : g.plan m = (g.parts m).map Prod.snd := by
  rw [plan_eq, parts, emitEnums, enumParts, emitFixed, fixedParts, entityParts]
  split <;> split <;> simp [Function.comp_def]

theorem paths_eq_parts (g : Generator) (m : Model) : g.paths m = (g.parts m).keys.map g.pathOf := by
  rw [paths, parts, enumPaths, enumParts, fixedPaths, fixedParts, entityPaths, entityParts,
    Entries.keys]
  split <;> split <;> simp only [List.map_append, List.map_map, List.map_cons, List.map_nil] <;> rfl

theorem last?_entityParts (name : Text) : Entries.last? (g.entityParts m) (.entity name) =
    (m.lastEntity? name).map g.emitEntity := by
  have h := Entries.last?_map (g := Part.entity) g.emitEntity (k := name)
    (m.entities.map fun e => (e.name.text, e)) fun _ _ => Part.entity.inj
  rwa [List.map_map] at h

theorem last?_enumUnits (name : Text) :
    Entries.last? (m.enums.map fun e => (Part.enum e.name.text, g.emitEnum e)) (.enum name) =
      (m.lastEnum? name).map g.emitEnum := by
  have h := Entries.last?_map (g := Part.enum) g.emitEnum (k := name)
    (m.enums.map fun e => (e.name.text, e)) fun _ _ => Part.enum.inj
  rwa [List.map_map] at h

/-- The last emission of a plan that is for a part. -/
theorem last?_parts (g : Generator) (m : Model) (part : Part) :
    Entries.last? (g.parts m) part = g.emissionOf? m part := by
  have hentities : (∀ name, part ≠ .entity name) → Entries.last? (g.entityParts m) part = none := by
    intro hpart
    rw [Entries.last?_eq_none_iff]
    simpa [entityParts, Entries.keys] using fun (e : Entity) _ => (hpart e.name.text).symm
  have henums : (∀ name, part ≠ .enum name) → Entries.last?
      (m.enums.map fun e => (Part.enum e.name.text, g.emitEnum e)) part = none := by
    intro hpart
    rw [Entries.last?_eq_none_iff]
    simpa [Entries.keys] using fun (e : EnumType) _ => (hpart e.name.text).symm
  rw [parts, Entries.last?_append, Entries.last?, Entries.last?_append, enumParts, fixedParts]
  cases part with
  | entity name =>
    rw [last?_entityParts]
    split <;> split <;> simp [Entries.last?, Entries.last?_append, henums, emissionOf?]
  | enum name =>
    rw [hentities (by simp)]
    split <;> split <;>
      simp [Entries.last?, Entries.last?_append, last?_enumUnits, emissionOf?, *]
  | _ =>
    rw [hentities (by simp)]
    split <;> split <;> simp [Entries.last?, Entries.last?_append, emissionOf?, *]

theorem mem_keys_parts {part : Part} :
    part ∈ (g.parts m).keys ↔ (g.emissionOf? m part).isSome = true := by
  rw [← last?_parts, ← Option.ne_none_iff_isSome, ne_eq, Entries.last?_eq_none_iff, not_not]

/-- The two barrels stand in different places, or only one is wanted. -/
def BarrelsApart (g : Generator) : Prop :=
  g.config.generateEnums.truthy = true → g.settings.modelsDir.text ≠ g.settings.enumsDir.text

/-- Parts that are emitted have different paths. -/
theorem eq_of_pathOf_eq_of_mem (hapart : g.BarrelsApart) {p q : Part}
    (hp : p ∈ (g.parts m).keys) (hq : q ∈ (g.parts m).keys) (h : g.pathOf p = g.pathOf q) :
    p = q := by
  have hwanted : .enums ∈ (g.parts m).keys → g.config.generateEnums.truthy = true := by
    intro hmem
    by_contra hunwanted
    simp [mem_keys_parts, emissionOf?, hunwanted] at hmem
  refine (eq_of_pathOf_eq h).resolve_right ?_
  rintro ⟨rfl | rfl, hdirs⟩
  · exact hapart (hwanted hp) hdirs
  · exact hapart (hwanted hq) hdirs

/-! ## The file of a part -/

/-- The files that a run into an empty buffer leaves. -/
def files (g : Generator) (m : Model) : Entries Text Text :=
  Entries.putAll [] (Emission.writes (g.plan m))

section Files

variable (hg : g.Ready) (hs : g.settings.hasTextModules = true) (hm : m.isTextual = true)

include hg hs hm

theorem Ready.keys_files : (g.files m).keys = (g.paths m).eraseDups := by
  rw [files, Entries.keys_putAll, Emission.keys_writes (hg.writes_plan hs hm)]

theorem Ready.writes_parts : Emission.writes (g.plan m) =
    (g.parts m).map fun p => (g.pathOf p.1, p.2.text) := by
  have hplan := hg.writes_plan hs hm
  rw [plan_eq_parts, paths_eq_parts, Entries.keys, List.map_map, List.forall₂_map_left_iff,
    List.forall₂_map_right_iff, List.forall₂_same] at hplan
  rw [plan_eq_parts, Emission.writes_map hplan]
  rfl

theorem Ready.get?_files_of_apart {part : Part}
    (h : ∀ p ∈ (g.parts m).keys, g.pathOf p = g.pathOf part → p = part) :
    Entries.get? (g.files m) (g.pathOf part) = (g.emissionOf? m part).map Emission.text := by
  rw [files, Entries.get?_putAll, hg.writes_parts hs hm, Entries.last?_map Emission.text _ h,
    last?_parts, Entries.get?, Option.or_none]

/-- The file of a part has the text of the last emission for it, if there is one. -/
theorem Ready.get?_files (hdirs : g.settings.modelsDir.text ≠ g.settings.enumsDir.text)
    (part : Part) : Entries.get? (g.files m) (g.pathOf part) =
      (g.emissionOf? m part).map Emission.text :=
  hg.get?_files_of_apart hs hm fun _ _ => pathOf_injective hdirs

/-- The file of a part that is emitted, even if the barrels would meet. -/
theorem Ready.get?_files_emitted (hapart : g.BarrelsApart) (part : Part) {e : Emission}
    (h : g.emissionOf? m part = some e) :
    Entries.get? (g.files m) (g.pathOf part) = some e.text := by
  have hmem : part ∈ (g.parts m).keys := mem_keys_parts.2 (by rw [h]; rfl)
  rw [hg.get?_files_of_apart hs hm fun p hp => eq_of_pathOf_eq_of_mem hapart hp hmem, h,
    Option.map_some]

/-- Each file is that of a part. -/
theorem Ready.get?_files_eq_none {path : Text} (h : ∀ part, g.pathOf part ≠ path) :
    Entries.get? (g.files m) path = none := by
  refine Entries.get?_of_not_mem_keys fun hmem => ?_
  rw [hg.keys_files hs hm, List.mem_eraseDups, paths_eq_parts] at hmem
  obtain ⟨part, -, hpart⟩ := List.mem_map.1 hmem
  exact h part hpart

end Files

end Generator

end DtoPress
