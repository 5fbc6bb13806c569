import DtoPress.Proofs.Entries
import DtoPress.Proofs.Generators
import DtoPress.Registry
import Mathlib.Tactic.ByContra

/-!
# Registering a language again

A registration puts its entry under the names that it gives and leaves all other names as they
were (`Registry.get?_insert`). A name that the language had and is not given again keeps leading
to the entry from before. So `Registry.register_replaces` : all names of a language lead to its
new entry if and only if the registration gives all names that the language had. A history in
which every registration does so leaves one entry for each language
(`Registry.oneEntry_of_keepsNames`); without it there can be two
(`Registry.register_leaves_old_alias`).
-/

set_option linter.unusedSectionVars false

namespace DtoPress

namespace Registry

variable {r r' : Registry} {e f : LanguageEntry} {name aliases : Value} {candidate : Candidate}

/-! ## One registration -/

theorem get?_foldl_put (e : LanguageEntry) (key : Text) :
    ∀ (names : List Text) (entries : Entries Text LanguageEntry),
      Entries.get? (names.foldl (fun es n => Entries.put es n e) entries) key =
        if key ∈ names then some e else Entries.get? entries key
  | [], entries => by simp
  | n :: names, entries => by
    rw [List.foldl_cons, get?_foldl_put e key names]
    by_cases hnames : key ∈ names
    · simp [hnames]
    · by_cases hn : key = n
      · simp [hn, Entries.get?_put_self]
      · simp [hnames, hn, Entries.get?_put_of_ne hn]

/-- An entry stands under its own names, and every other name is as it was. -/
theorem get?_insert (r : Registry) (e : LanguageEntry) (key : Text) :
    Entries.get? (r.insert e).entries key =
      if key ∈ e.names then some e else Entries.get? r.entries key :=
  get?_foldl_put e key e.names r.entries

/-- What an accepted registration does : its entry is free of conflicts and is inserted. -/
theorem register_eq_ok (h : r.register name candidate aliases = .ok (r', e)) :
    ∃ c, candidate = .generator c ∧ newEntry name c aliases = .ok e ∧
      r.conflict? e = none ∧ r' = r.insert e := by
  cases candidate with
  | valueClass kind => cases h
  | value v => cases h
  | generator c =>
    obtain ⟨made, hmade, h⟩ := bind_eq_ok_iff.1 h
    cases hconflict : r.conflict? made with
    | some taken =>
      rw [hconflict] at h
      cases h
    | none =>
      rw [hconflict] at h
      obtain ⟨rfl, rfl⟩ := Prod.mk.inj (Except.ok.inj h)
      exact ⟨c, rfl, mapError_eq_ok_iff.1 hmade, hconflict, rfl⟩

theorem generator_of_newEntry {c : GeneratorClass} (h : newEntry name c aliases = .ok e) :
    e.generator = c := by
  obtain ⟨primary, -, h⟩ := bind_eq_ok_iff.1 h
  obtain ⟨elements, -, h⟩ := bind_eq_ok_iff.1 h
  obtain ⟨names, -, h⟩ := bind_eq_ok_iff.1 h
  rw [← Except.ok.inj h]

/-! ## Looking languages up -/

theorem entry_eq_ok_iff {language : Text} :
    r.entry (.str language) = .ok e ↔ Entries.get? r.entries (Text.lower language) = some e := by
  have hname : Trouble.ofFault (ε := RegistryError) (nameOf (.str language)) =
      .ok (Text.lower language) := rfl
  rw [entry, hname, bind_ok]
  cases Entries.get? r.entries (Text.lower language) with
  | none => simp
  | some f => simp

theorem resolve_eq_ok_iff {language name : Text} : r.resolve (.str language) = .ok name ↔
    ∃ e, r.entry (.str language) = .ok e ∧ e.name = name := by
  rw [resolve, bind_eq_ok_iff]
  simp only [pure_eq_ok, Except.ok.injEq]

/-- The names of an entry lead to it once it is inserted. -/
theorem entry_insert (r : Registry) {language : Text} (h : Text.lower language ∈ e.names) :
    (r.insert e).entry (.str language) = .ok e :=
  entry_eq_ok_iff.2 ((get?_insert r e _).trans (if_pos h))

/-- A generator that is made for a language is of the class of its entry. -/
theorem kind_of_create {t : FileTree} {language : Value} {source : ConfigSource} {g : Generator}
    {log : Log} (hentry : r.entry language = .ok e)
    (h : r.create t language source = (.ok g, log)) : g.kind = e.generator := by
  rw [create, hentry] at h
  obtain ⟨c, -, h⟩ := bind_eq_ok_iff.1 (congrArg Prod.fst h)
  obtain ⟨made, hmade, h⟩ := bind_eq_ok_iff.1 h
  rw [← Except.ok.inj h]
  show made.kind = e.generator
  exact Generator.kind_of_create (mapError_eq_ok_iff.1 hmade)

/-! ## Histories -/

/-- A call that registers a language. -/
structure Registration where
  name : Value
  candidate : Candidate
  aliases : Value := .list []

/-- The registry after a call. A call that is rejected changes nothing. -/
def attempt (r : Registry) (c : Registration) : Registry :=
  match r.register c.name c.candidate c.aliases with
  | .ok (after, _) => after
  | .error _ => r

/-- The registry after calls in order. -/
def afterAll (r : Registry) (calls : List Registration) : Registry :=
  calls.foldl attempt r

theorem attempt_eq (r : Registry) (c : Registration) : r.attempt c = r ∨
    ∃ e, r.register c.name c.candidate c.aliases = .ok (r.attempt c, e) := by
  unfold attempt
  split
  next after e h => exact .inr ⟨e, h⟩
  · exact .inl rfl

/-- Each name is one of the names of the entry that it leads to. -/
def Owned (r : Registry) : Prop :=
  ∀ key e, Entries.get? r.entries key = some e → key ∈ e.names

theorem Owned.insert (h : r.Owned) (e : LanguageEntry) : (r.insert e).Owned := by
  intro key f hf
  rw [get?_insert] at hf
  split at hf
  next hkey => rwa [← Option.some.inj hf]
  · exact h key f hf

theorem Owned.attempt (h : r.Owned) (c : Registration) : (r.attempt c).Owned := by
  rcases attempt_eq r c with hsame | ⟨e, hregister⟩
  · rwa [hsame]
  · obtain ⟨-, -, -, -, hafter⟩ := register_eq_ok hregister
    rw [hafter]
    exact h.insert e

theorem Owned.afterAll : ∀ {calls : List Registration} {r : Registry}, r.Owned →
    (r.afterAll calls).Owned
  | [], _, h => h
  | c :: _, _, h => (h.attempt c).afterAll

theorem owned_empty : ({} : Registry).Owned := fun _ _ h => by cases h

/-! ## One entry for each language -/

/-- Two names of one language lead to the same entry. -/
def OneEntry (r : Registry) : Prop :=
  ∀ key key' e e', Entries.get? r.entries key = some e → Entries.get? r.entries key' = some e' →
    e.name = e'.name → e = e'

/-- The entry has all names under which the registry knows its language. -/
def Covers (r : Registry) (e : LanguageEntry) : Prop :=
  ∀ key f, Entries.get? r.entries key = some f → f.name = e.name → key ∈ e.names

/-- Each call that is accepted gives all names that its language has by then. -/
def KeepsNames (r : Registry) : List Registration → Prop
  | [] => True
  | c :: calls =>
    (∀ after e, r.register c.name c.candidate c.aliases = .ok (after, e) → r.Covers e) ∧
      (r.attempt c).KeepsNames calls

/-- An entry that has all names of its language becomes its one entry. -/
theorem OneEntry.insert (h : r.OneEntry) (hcovers : r.Covers e) : (r.insert e).OneEntry := by
  intro key key' f f' hf hf' hname
  rw [get?_insert] at hf hf'
  split at hf <;> split at hf'
  · rw [← Option.some.inj hf, ← Option.some.inj hf']
  next hkey' =>
    rw [← Option.some.inj hf] at hname
    exact absurd (hcovers key' f' hf' hname.symm) hkey'
  next hkey _ =>
    rw [← Option.some.inj hf'] at hname
    exact absurd (hcovers key f hf hname) hkey
  · exact h key key' f f' hf hf' hname

theorem oneEntry_of_keepsNames : ∀ {calls : List Registration} {r : Registry}, r.OneEntry →
    r.KeepsNames calls → (r.afterAll calls).OneEntry
  | [], _, h, _ => h
  | c :: calls, r, h, ⟨hcovers, hkeeps⟩ => by
    have hnext : (r.attempt c).OneEntry := by
      rcases attempt_eq r c with hsame | ⟨e, hregister⟩
      · rwa [hsame]
      · obtain ⟨-, -, -, -, hafter⟩ := register_eq_ok hregister
        rw [hafter]
        exact h.insert (hcovers _ e hregister)
    show ((r.attempt c).afterAll calls).OneEntry
    exact oneEntry_of_keepsNames hnext hkeeps

/-- All names of a language lead to a new entry if and only if it has all names from before. A name
that it lacks leads to an entry that has the name, which is another one. -/
theorem replaces_iff_covers (hr : r.Owned) (e : LanguageEntry) :
    (∀ language, (r.insert e).resolve (.str language) = .ok e.name →
      (r.insert e).entry (.str language) = .ok e) ↔
    ∀ language, r.resolve (.str language) = .ok e.name → Text.lower language ∈ e.names := by
  simp only [resolve_eq_ok_iff, entry_eq_ok_iff, get?_insert]
  constructor
  · rintro h language ⟨f, hf, hname⟩
    by_contra hkey
    have hnew := h language ⟨f, by rw [if_neg hkey, hf], hname⟩
    rw [if_neg hkey, hf] at hnew
    exact hkey (Option.some.inj hnew ▸ hr _ f hf)
  · rintro h language ⟨f, hf, hname⟩
    split at hf
    next hkey => rw [if_pos hkey]
    next hkey => exact absurd (h language ⟨f, hf, hname⟩) hkey

/-- After any history, a language that is registered again is replaced under the names that are
given now, and under all of its names if and only if all of them are given. Histories that keep
to this leave one entry for each language. -/
theorem register_replaces (calls : List Registration) :
    (({} : Registry).KeepsNames calls → (({} : Registry).afterAll calls).OneEntry) ∧
    ∀ (name aliases : Value) (c : GeneratorClass) (r' : Registry) (e : LanguageEntry),
      (({} : Registry).afterAll calls).register name (.generator c) aliases = .ok (r', e) →
      (∀ language, Text.lower language ∈ e.names → r'.entry (.str language) = .ok e ∧
        ∀ t source g log, r'.create t (.str language) source = (.ok g, log) → g.kind = c) ∧
      ((∀ language, r'.resolve (.str language) = .ok e.name → r'.entry (.str language) = .ok e) ↔
        ∀ language, (({} : Registry).afterAll calls).resolve (.str language) = .ok e.name →
          Text.lower language ∈ e.names) := by
  have hempty : ({} : Registry).OneEntry := fun _ _ _ _ h => by cases h
  refine ⟨oneEntry_of_keepsNames hempty, ?_⟩
  intro name aliases c r' e hregister
  obtain ⟨c', hc, hnew, -, rfl⟩ := register_eq_ok hregister
  obtain rfl : c = c' := Candidate.generator.inj hc
  refine ⟨fun language hkey => ?_, replaces_iff_covers owned_empty.afterAll e⟩
  have hentry := entry_insert (({} : Registry).afterAll calls) hkey
  exact ⟨hentry, fun t source g log hcreate =>
    (kind_of_create hentry hcreate).trans (generator_of_newEntry hnew)⟩

/-- A class for another language. -/
def sampleClass : GeneratorClass where
  name := "OtherGenerator"
  language := "other"
  extension := ".oth"

/-- A language with an alias. -/
def Registration.sample : Registration :=
  { name := .str "TypeScript", candidate := .generator .typescript, aliases := .list [.str "TS"] }

theorem register_replaces_sample : ({} : Registry).KeepsNames [.sample] ∧
    (({} : Registry).afterAll [.sample]).OneEntry ∧
    ∃ r' e g, (({} : Registry).afterAll [.sample]).register (.str "typescript")
        (.generator sampleClass) (.list [.str "ts", .str "tsx"]) = .ok (r', e) ∧
      r'.entry (.str "Ts") = .ok e ∧
      r'.create {} (.str "Ts") (.given {}) = (.ok g, []) ∧ g.kind = sampleClass := by
  have hkeeps : ({} : Registry).KeepsNames [.sample] :=
    ⟨fun _ _ _ _ _ hf => (by cases hf), trivial⟩
  obtain ⟨hone, hreplaces⟩ := register_replaces [.sample]
  have hregister : (({} : Registry).afterAll [.sample]).register (.str "typescript")
    (.generator sampleClass) (.list [.str "ts", .str "tsx"]) =
      .ok ((({} : Registry).afterAll [.sample]).insert ⟨"typescript", sampleClass, ["ts", "tsx"]⟩,
        ⟨"typescript", sampleClass, ["ts", "tsx"]⟩) := rfl
  obtain ⟨hentry, hkind⟩ := (hreplaces _ _ _ _ _ hregister).1 "Ts" (by decide)
  obtain ⟨g, hcreate⟩ : ∃ g, ((({} : Registry).afterAll [.sample]).insert
      ⟨"typescript", sampleClass, ["ts", "tsx"]⟩).create {} (.str "Ts") (.given {}) =
        (.ok g, []) := by
    rw [create, hentry]
    exact ⟨_, rfl⟩
  exact ⟨hkeeps, hone hkeeps, _, _, _, hregister, hentry, hcreate, hkind _ _ _ _ hcreate⟩

/-- An alias that is not given again leads to the entry from before, under the same language. -/
theorem register_leaves_old_alias : ∃ r' e old,
    (({} : Registry).afterAll [.sample]).register (.str "typescript") (.generator sampleClass)
      (.list []) = .ok (r', e) ∧
    r'.resolve (.str "ts") = .ok e.name ∧ r'.entry (.str "ts") = .ok old ∧ old ≠ e := by
  have hregister : (({} : Registry).afterAll [.sample]).register (.str "typescript")
    (.generator sampleClass) (.list []) =
      .ok ((({} : Registry).afterAll [.sample]).insert ⟨"typescript", sampleClass, []⟩,
        ⟨"typescript", sampleClass, []⟩) := rfl
  have hentry : ((({} : Registry).afterAll [.sample]).insert ⟨"typescript", sampleClass, []⟩).entry
      (.str "ts") = .ok ⟨"typescript", .typescript, ["ts"]⟩ := by
    rw [entry_eq_ok_iff, get?_insert, if_neg (by decide)]
    rfl
  refine ⟨_, _, _, hregister, resolve_eq_ok_iff.2 ⟨_, hentry, rfl⟩, hentry, fun h => ?_⟩
  exact absurd (congrArg LanguageEntry.generator h) (by decide)

end Registry

end DtoPress
