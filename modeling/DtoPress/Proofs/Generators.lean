import DtoPress.Generation.Emission
import DtoPress.Proofs.Entries
import DtoPress.Proofs.Results

/-!
# Generators as they are made

What holds of a generator that was made from a configuration, whatever the configuration :
the types of scalars are those of its settings, the indentation is a number of spaces, and
each file has the built-in template (`Generator.ready_of_create`). Emissions rest on these
three facts alone, so they stay what they are as long as none of the three changes. Looking
templates up changes none of them : what is found under a name is kept, and kept or not it is
found again (`Template.Engine.find?_lookUpAll`).
-/

namespace DtoPress

namespace Template.Engine

/-! ## Looking templates up -/

/-- A look-up changes nothing but what is kept. -/
theorem lookUp_eq (e : Engine) (name : String) :
    e.lookUp name = { e with cached := (e.lookUp name).cached } := by
  unfold lookUp
  split <;> rfl

theorem lookUpAll_eq : ∀ (names : List String) (e : Engine),
    e.lookUpAll names = { e with cached := (e.lookUpAll names).cached }
  | [], _ => rfl
  | name :: names, e => by
    have hrest := lookUpAll_eq names (e.lookUp name)
    change (e.lookUp name).lookUpAll names =
      { e with cached := ((e.lookUp name).lookUpAll names).cached }
    generalize (e.lookUp name).lookUpAll names = last at hrest ⊢
    rw [lookUp_eq] at hrest
    exact hrest

theorem quote_lookUpAll (e : Engine) (names : List String) :
    (e.lookUpAll names).quote = e.quote := by
  rw [lookUpAll_eq]

/-- A look-up does not change what is found under any name. -/
theorem find?_lookUp (e : Engine) (name other : String) :
    (e.lookUp name).find? other = e.find? other := by
  unfold lookUp
  split
  next found hfind =>
    by_cases hother : other = name
    · subst hother
      have hnow : ({ e with cached := e.cached.put other found } : Engine).find? other =
          if e.library.upToDate found (e.added.get? other) then some found
          else e.load? other := by
        simp only [find?, Entries.get?_put_self, load?]
      rw [hnow, hfind]
      split
      · rfl
      next hstale =>
        -- What is not up to date was not kept before, so it was loaded.
        unfold find? at hfind
        split at hfind
        · split at hfind
          next huse => exact absurd (Option.some.inj hfind ▸ huse) hstale
          · exact hfind
        · exact hfind
    · simp only [find?, Entries.get?_put_of_ne hother, load?]
  · rfl

theorem find?_lookUpAll : ∀ (names : List String) (e : Engine) (other : String),
    (e.lookUpAll names).find? other = e.find? other
  | [], _, _ => rfl
  | name :: names, e, other =>
    (find?_lookUpAll names (e.lookUp name) other).trans (e.find?_lookUp name other)

end Template.Engine

namespace Generator

/-- The generator writes with the built-in templates, and its indentation and types are those
that it was made with. -/
structure Ready (g : Generator) : Prop where
  types : g.types = g.settings.typeMap
  spaces : ∃ n, spacesOf g.config.indentSize = .ok n
  builtIn : ∀ b : Template.BuiltIn, g.engine.find? b.fileName = some (.file (.builtIn b))

/-- The generator when templates of some names have been looked up. -/
def used (g : Generator) (names : List String) : Generator :=
  { g with engine := g.engine.lookUpAll names }

theorem find?_ofStyle (style : Value) (b : Template.BuiltIn) :
    (Template.Engine.ofStyle style Template.BuiltIn.file?).find? b.fileName =
      some (.file (.builtIn b)) := by
  cases b <;> rfl

/-- What a generator is made of. -/
theorem of_create {kind : GeneratorClass} {c : Config} {g : Generator}
    (h : create kind c = .ok g) : ∃ settings n, settingsOf c.custom = .ok settings ∧
      spacesOf c.indentSize = .ok n ∧
      g = { kind, config := c, settings, indent := List.replicate n (.char ' ')
            types := settings.typeMap, engine := .ofStyle c.quoteStyle Template.BuiltIn.file? } := by
  unfold create at h
  split at h
  · simp at h
  · obtain ⟨settings, hs, h⟩ := bind_eq_ok_iff.1 h
    obtain ⟨indent, hi, h⟩ := bind_eq_ok_iff.1 h
    obtain ⟨n, hn, hi⟩ := bind_eq_ok_iff.1 hi
    refine ⟨settings, n, hs, mapError_eq_ok_iff.1 hn, ?_⟩
    rw [← Except.ok.inj h, ← Except.ok.inj hi]

variable {kind : GeneratorClass} {c : Config} {g : Generator}

theorem ready_of_create (h : create kind c = .ok g) : g.Ready := by
  obtain ⟨settings, n, -, hn, rfl⟩ := of_create h
  exact ⟨rfl, ⟨n, hn⟩, find?_ofStyle c.quoteStyle⟩

theorem Ready.used (hg : g.Ready) (names : List String) : (g.used names).Ready :=
  ⟨hg.types, hg.spaces, fun b =>
    (Template.Engine.find?_lookUpAll names g.engine b.fileName).trans (hg.builtIn b)⟩

/-- A generator stays what it was made as, whatever templates it has looked up since. -/
theorem ready_used_of_create (h : create kind c = .ok g) (names : List String) :
    (g.used names).Ready :=
  (ready_of_create h).used names

/-- Of a configuration only its custom object, its indentation and its quote style are read when
a generator is made, and the indentation goes into one text. -/
theorem create_eq (h : create kind c = .ok g) (c' : Config) (hcustom : c'.custom = c.custom)
    (hquote : c'.quoteStyle = c.quoteStyle) :
    create kind c' =
      (indentation c'.indentSize).map fun indent => { g with config := c', indent } := by
  unfold create at h ⊢
  split at h
  · simp at h
  next hkind =>
    obtain ⟨settings, hsettings, h⟩ := bind_eq_ok_iff.1 h
    obtain ⟨indent, -, h⟩ := bind_eq_ok_iff.1 h
    simp only [hkind, hcustom, hquote, hsettings, bind_ok, pure_eq_ok,
      ← Except.ok.inj h]
    cases indentation c'.indentSize <;> rfl

theorem create_config (h : create kind c = .ok g) (c' : Config) (hcustom : c'.custom = c.custom)
    (hindent : c'.indentSize = c.indentSize) (hquote : c'.quoteStyle = c.quoteStyle) :
    create kind c' = .ok { g with config := c' } := by
  rw [create_eq h c' hcustom hquote, hindent]
  obtain ⟨settings, n, -, hn, rfl⟩ := of_create h
  rw [indentation, hn]
  rfl

theorem config_of_create (h : create kind c = .ok g) : g.config = c := by
  obtain ⟨settings, n, -, -, rfl⟩ := of_create h
  rfl

theorem kind_of_create (h : create kind c = .ok g) : g.kind = kind := by
  obtain ⟨settings, n, -, -, rfl⟩ := of_create h
  rfl

/-- The quote character of a generator is one of the two that there are. -/
theorem quote_of_create (h : create kind c = .ok g) :
    g.engine.quote = Text.singleQuote ∨ g.engine.quote = Text.doubleQuote := by
  obtain ⟨settings, n, -, -, rfl⟩ := of_create h
  by_cases hstyle : c.quoteStyle.equals (.str "single") = true
  · exact .inl (if_pos hstyle)
  · exact .inr (if_neg hstyle)

end Generator

end DtoPress
