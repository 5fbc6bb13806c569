import DtoPress.Proofs.LookUps
import DtoPress.Template.Given

/-!
# Added templates and files

A template that is added under the name of a file takes its place, unless the file was looked up
before it was first given another source. The library that fills templates in is any that keeps
what it has loaded as documented (`Library.Caches`) : a file that was kept stays up to date, a
source only while it is the one that is added. Under such a library what is found under a name is
the file that is kept under it, or else what is loaded (`Engine.Sound.find?_of_not_keeps`), and
which names keep a file for good is decided by what comes first in the history of an engine, a
look-up or an addition (`Engine.Sound.keeps_afterAll_iff`). Two engines that differ in one name
only go on to differ in that one as long as what they look up otherwise is the same
(`Engine.SameElsewhere.after`). So `Engine.add_shadows` : what an addition does to an engine with
any history. An addition that comes after a look-up of the file does nothing to it
(`Engine.add_after_lookUp_shadows_not`).
-/

set_option linter.unusedSectionVars false

namespace DtoPress.Template

/-! ## Sources under a name and without one -/

/-- The template shows itself in one of its expressions. -/
def showsItself (source : String) : Bool :=
  (pieces source).any fun
    | .expression name _ => name = selfName
    | _ => false

theorem mem_pieces_of_mem_lookedUp {ps : List Piece} {name : Text} (h : name ∈ lookedUp ps) :
    ∃ filters, .expression name filters ∈ ps := by
  have hname : name ∈ ps.filterMap fun
      | .expression name _ => if Entries.has constants name then none else some name
      | _ => none := by
    simp only [lookedUp, List.mem_append, List.mem_filter, List.mem_eraseDups] at h
    rcases h with ⟨h, -⟩ | ⟨h, -⟩ <;> exact h
  obtain ⟨p, hp, hsome⟩ := List.mem_filterMap.1 hname
  split at hsome
  next n filters =>
    split at hsome
    · cases hsome
    · obtain rfl := Option.some.inj hsome
      exact ⟨filters, hp⟩
  · cases hsome

/-- A spelling is the name itself or one of those that the template looks up. -/
theorem spelling_eq_or_mem (names : List Text) (name : Text) :
    spelling names name = name ∨ spelling names name ∈ names := by
  unfold spelling
  cases h : names.reverse.find? fun n => Text.decomposed n = Text.decomposed name with
  | none => exact .inl rfl
  | some n => exact .inr (List.mem_reverse.1 (List.mem_of_find?_eq_some h))

/-- No name of a template that does not show itself is spelled as that of the template. -/
theorem spelling_ne_selfName {source : String} (h : showsItself source = false) {name : Text}
    {filters : List Filter} (hp : .expression name filters ∈ pieces source) :
    spelling (lookedUp (pieces source)) name ≠ selfName := by
  have hshown : ∀ fs, Piece.expression selfName fs ∉ pieces source := by
    intro fs hfs
    have hany := List.any_eq_false.1 h _ hfs
    simp at hany
  intro hself
  rcases spelling_eq_or_mem (lookedUp (pieces source)) name with hname | hmem
  · rw [hname] at hself
    subst hself
    exact hshown filters hp
  · rw [hself] at hmem
    obtain ⟨fs, hfs⟩ := mem_pieces_of_mem_lookedUp hmem
    exact hshown fs hfs

/-- Filters give a text for every text or for none. -/
theorem exists_applyAll (q : Char) : ∀ (filters : List Filter) {a t : Text} (b : Text),
    Filter.applyAll q (.ok a) filters = .ok t → ∃ u, Filter.applyAll q (.ok b) filters = .ok u
  | [], _, _, b, _ => ⟨b, rfl⟩
  | .quote :: filters, a, _, b, h =>
    exists_applyAll q filters (a := Text.literal q a) (Text.literal q b) h
  | .docComment :: filters, a, _, b, h =>
    exists_applyAll q filters (a := Text.docComment a) (Text.docComment b) h
  | .indentLines n :: filters, a, t, b, h => by
    cases hn : spacesOfInt n with
    | error e =>
      have hfail : Filter.applyAll q (.ok a) (.indentLines n :: filters) =
          .error (.notSpaces e) := by
        simp [Filter.applyAll, Filter.apply, hn, mapError_error]
      rw [hfail] at h
      cases h
    | ok spaces =>
      have hpass (c : Text) : Filter.applyAll q (.ok c) (.indentLines n :: filters) =
          Filter.applyAll q (.ok (Text.indentLines spaces c)) filters := by
        simp [Filter.applyAll, Filter.apply, hn, mapError_ok]
      rw [hpass] at h ⊢
      exact exists_applyAll q filters _ h

/-- Filters make no text where there is none. -/
theorem exists_of_applyAll {q : Char} {subject : Except Problem Text} {filters : List Filter}
    {t : Text} (h : Filter.applyAll q subject filters = .ok t) : ∃ a, subject = .ok a := by
  cases subject with
  | ok a => exact ⟨a, rfl⟩
  | error e =>
    match filters, h with
    | .indentLines n :: _, h =>
      obtain ⟨last, hlast, -⟩ := bind_eq_ok_iff.1 h
      obtain ⟨first, hfirst, -⟩ := bind_eq_ok_iff.1 hlast
      obtain ⟨_, happly, -⟩ := bind_eq_ok_iff.1 hfirst
      obtain ⟨spaces, -, hsubject⟩ := bind_eq_ok_iff.1 happly
      cases hsubject

section Named

variable {q : Char} {names : List Text} {context : Texts} {template : Option String}

theorem exists_text_named {name t : Text}
    (h : ({ template, names, given := context } : Scope).text name = .ok t)
    (template' : Option String) :
    ∃ u, ({ template := template', names, given := context } : Scope).text name = .ok u ∧
      (spelling names name ≠ selfName → u = t) := by
  unfold Scope.text at h ⊢
  cases hconstant : Entries.get? constants name with
  | some c =>
    rw [hconstant] at h
    exact ⟨t, h, fun _ => rfl⟩
  | none =>
    rw [hconstant] at h
    dsimp only at h ⊢
    by_cases hself : spelling names name = selfName
    · rw [if_pos hself]
      exact ⟨_, rfl, fun hne => absurd hself hne⟩
    · rw [if_neg hself] at h ⊢
      exact ⟨t, h, fun _ => rfl⟩

theorem exists_piece_named {p : Piece} {t : Text}
    (h : p.render q { template, names, given := context } = .ok t) (template' : Option String) :
    ∃ u, p.render q { template := template', names, given := context } = .ok u ∧
      ((∀ name filters, p = .expression name filters → spelling names name ≠ selfName) →
        u = t) := by
  cases p with
  | text s => exact ⟨t, h, fun _ => rfl⟩
  | gap before => cases h
  | expression name filters =>
    simp only [Piece.render] at h ⊢
    obtain ⟨a, ha⟩ := exists_of_applyAll h
    obtain ⟨b, hb, hsame⟩ := exists_text_named ha template'
    rw [ha] at h
    rw [hb]
    obtain ⟨u, hu⟩ := exists_applyAll q filters b h
    refine ⟨u, hu, fun hspelled => ?_⟩
    obtain rfl := hsame (hspelled name filters rfl)
    exact Except.ok.inj (hu.symm.trans h)

/-- Pieces that have texts under one name of the template have texts under every name. -/
theorem exists_pieces_named (template' : Option String) : ∀ {ps : List Piece} {ts : List Text},
    ps.mapM (Piece.render q { template, names, given := context }) = .ok ts →
    ∃ us, ps.mapM (Piece.render q { template := template', names, given := context }) = .ok us ∧
      ((∀ name filters, .expression name filters ∈ ps → spelling names name ≠ selfName) →
        us = ts)
  | [], ts, h => ⟨ts, h, fun _ => rfl⟩
  | p :: ps, _, h => by
    obtain ⟨t, ts, hp, hps, rfl⟩ := mapM_cons_eq_ok h
    obtain ⟨u, hu, hsame⟩ := exists_piece_named hp template'
    obtain ⟨us, hus, hrest⟩ := exists_pieces_named template' hps
    refine ⟨u :: us, by rw [List.mapM_cons, hu, hus]; rfl, fun hspelled => ?_⟩
    rw [hsame fun name filters h => hspelled name filters (h ▸ List.mem_cons_self),
      hrest fun name filters h => hspelled name filters (List.mem_cons_of_mem p h)]

/-- A source that is filled in without a name can be filled in under every name, and with the same
text if it does not show itself. -/
theorem exists_render_named {source : String} {given : Except Problem Texts} {t : Text}
    (h : render q none source given = .ok t) (name : String) :
    ∃ u, render q (some name) source given = .ok u ∧ (showsItself source = false → u = t) := by
  obtain ⟨ps, hparse, hrest⟩ := bind_eq_ok_iff.1 h
  obtain ⟨context, hgiven, hrest⟩ := bind_eq_ok_iff.1 hrest
  obtain ⟨ts, hts, htext⟩ := bind_eq_ok_iff.1 hrest
  have hpieces : pieces source = ps := by
    unfold parse at hparse
    split at hparse
    · cases hparse
    · exact Except.ok.inj hparse
  rw [← hpieces] at hts hparse
  obtain ⟨us, hus, hsame⟩ := exists_pieces_named (some name) hts
  refine ⟨us.flatten, ?_, fun hshows => ?_⟩
  · rw [render, hparse, hgiven]
    simp only [bind_ok, hus]
    rfl
  · rw [hsame fun n filters hp => spelling_ne_selfName hshows hp]
    exact Except.ok.inj htext

end Named

/-! ## Libraries -/

namespace Library

variable {library : Library}

/-- The library keeps what it has loaded : a file for good, and a source as long as it is the one
that is added. -/
structure Caches (library : Library) : Prop where
  file : ∀ f registered, library.upToDate (.file f) registered = true
  added : ∀ source registered,
    library.upToDate (.added source) registered = true → registered = some source

/-- The text of a source is the same under every name and without one. -/
def IgnoresName (library : Library) (source : String) : Prop :=
  ∀ q name given find? text, (library.fill q none source given).result find? = .ok text →
    (library.fill q (some name) source given).result find? = .ok text

theorem braces_caches : braces.Caches where
  file _ _ := rfl
  added _ _ h := eq_of_beq h

theorem braces_ignoresName {source : String} (h : showsItself source = false) :
    braces.IgnoresName source := by
  intro q name given find? text htext
  replace htext : render q none source (given.map (·.texts)) = .ok text := htext
  obtain ⟨u, hu, hsame⟩ := exists_render_named htext name
  rw [← hsame h]
  exact hu

end Library

/-- Where two engines find the same under all names but one, a rendering that does not look that
one up goes the same way. -/
theorem Rendering.congr_of_not_mem {find? find?' : String → Option Found} {name : String}
    (h : ∀ other, other ≠ name → find? other = find?' other) : ∀ r : Rendering,
    name ∉ r.lookUps find? →
      r.result find? = r.result find?' ∧ r.lookUps find? = r.lookUps find?'
  | .done _, _ => ⟨rfl, rfl⟩
  | .lookUp other next, hr => by
    simp only [lookUps, List.mem_cons, not_or] at hr
    have hother := h other (Ne.symm hr.1)
    obtain ⟨hresult, hlookUps⟩ := congr_of_not_mem h (next (find? other)) hr.2
    simp only [result, lookUps, ← hother]
    exact ⟨hresult, congrArg _ hlookUps⟩

namespace Engine

/-! ## Histories of an engine -/

/-- A call of an engine. -/
inductive Call where
  | add (name source : String)
  | has (name : String)
  | renderTemplate (name : String) (given : Value)
  | renderString (source : String) (given : Value)

/-- The call adds a template under the name. -/
def Call.adds (name : String) : Call → Bool
  | .add n _ => n == name
  | _ => false

/-- The names that a call looks up. -/
def lookUps (e : Engine) : Call → List String
  | .add _ _ => []
  | .has name => [name]
  | .renderTemplate name given => e.lookedUp (e.templateRendering name given)
  | .renderString source given => e.lookedUp (e.stringRendering source given)

/-- The engine after a call. -/
def after (e : Engine) (c : Call) : Engine :=
  match c with
  | .add name source => e.add name source
  | _ => e.lookUpAll (e.lookUps c)

/-- The engine after calls in order. -/
def afterAll (e : Engine) (calls : List Call) : Engine :=
  calls.foldl after e

/-- A name is looked up before a template is added under it. -/
def lookedUpFirst (name : String) : Engine → List Call → Bool
  | _, [] => false
  | e, c :: calls =>
    (e.lookUps c).contains name || (!c.adds name && lookedUpFirst name (e.after c) calls)

/-- A file of the directory is kept under the name for good once the calls are made. -/
def keepsFile (e : Engine) (name : String) (calls : List Call) : Bool :=
  (e.files name).isSome && e.lookedUpFirst name calls

/-- Every call looks the name up on its own or not at all. -/
def looksUpApart (name : String) : Engine → List Call → Bool
  | _, [] => true
  | e, c :: calls =>
    (!(e.lookUps c).contains name || (e.lookUps c).all (· == name)) &&
      looksUpApart name (e.after c) calls

variable {e e' : Engine} {name other source : String} {names : List String} {calls : List Call}
  {c : Call} {f : File}

/-! ## What calls leave alone -/

section After

variable (e : Engine) (c : Call)

/-- A call adds a template, or else it only looks templates up. -/
theorem after_cases : (∃ n s, c = .add n s) ∨
    (∀ n, c.adds n = false) ∧ e.after c = e.lookUpAll (e.lookUps c) := by
  cases c with
  | add n s => exact .inl ⟨n, s, rfl⟩
  | _ => exact .inr ⟨fun _ => rfl, rfl⟩

theorem quote_after : (e.after c).quote = e.quote := by
  obtain ⟨n, s, rfl⟩ | ⟨-, hafter⟩ := e.after_cases c
  · rfl
  · rw [hafter, quote_lookUpAll]

theorem library_after : (e.after c).library = e.library := by
  obtain ⟨n, s, rfl⟩ | ⟨-, hafter⟩ := e.after_cases c
  · rfl
  · rw [hafter, lookUpAll_eq]

theorem files_after : (e.after c).files = e.files := by
  obtain ⟨n, s, rfl⟩ | ⟨-, hafter⟩ := e.after_cases c
  · rfl
  · rw [hafter, lookUpAll_eq]

end After

theorem files_afterAll : ∀ (calls : List Call) (e : Engine), (e.afterAll calls).files = e.files
  | [], _ => rfl
  | c :: calls, e => (files_afterAll calls (e.after c)).trans (e.files_after c)

theorem library_afterAll : ∀ (calls : List Call) (e : Engine),
    (e.afterAll calls).library = e.library
  | [], _ => rfl
  | c :: calls, e => (library_afterAll calls (e.after c)).trans (e.library_after c)

/-- A call that adds nothing under a name leaves what is added under it. -/
theorem get?_added_after (h : c.adds name = false) :
    (e.after c).added.get? name = e.added.get? name := by
  obtain ⟨n, s, rfl⟩ | ⟨-, hafter⟩ := e.after_cases c
  · have hne : n ≠ name := by simpa [Call.adds] using h
    exact Entries.get?_put_of_ne hne.symm e.added s
  · rw [hafter, lookUpAll_eq]

theorem isSome_get?_added_after (h : (e.added.get? name).isSome = true ∨ c.adds name = true) :
    ((e.after c).added.get? name).isSome = true := by
  cases hadds : c.adds name with
  | false =>
    rw [get?_added_after hadds]
    exact h.resolve_right (by simp [hadds])
  | true =>
    obtain ⟨n, s, rfl⟩ | ⟨hnone, -⟩ := e.after_cases c
    · obtain rfl : n = name := by simpa [Call.adds] using hadds
      rw [after, add, Entries.get?_put_self]
      rfl
    · rw [hnone] at hadds
      cases hadds

/-- What is kept after look-ups is what was found, where anything was. -/
theorem get?_cached_lookUpAll : ∀ (names : List String) (e : Engine) (name : String),
    (e.lookUpAll names).cached.get? name =
      if name ∈ names then (e.find? name).or (e.cached.get? name) else e.cached.get? name
  | [], _, _ => rfl
  | n :: names, e, name => by
    have hrest := get?_cached_lookUpAll names (e.lookUp n) name
    have hone : (e.lookUp n).cached.get? name =
        if n = name then (e.find? name).or (e.cached.get? name) else e.cached.get? name := by
      by_cases hn : n = name
      · subst hn
        rw [lookUp, if_pos rfl]
        cases e.find? n with
        | some found => exact Entries.get?_put_self _ n found
        | none => rfl
      · rw [lookUp, if_neg hn]
        split
        · exact Entries.get?_put_of_ne (Ne.symm hn) _ _
        · rfl
    rw [find?_lookUp, hone] at hrest
    refine hrest.trans ?_
    by_cases hn : n = name
    · have hcons : name ∈ n :: names := hn ▸ List.mem_cons_self
      rw [if_pos hn, if_pos hcons]
      -- What is found is kept at once, and looking it up again keeps the same.
      cases e.find? name <;> split <;> rfl
    · simp only [if_neg hn, List.mem_cons, Ne.symm hn, false_or]

/-! ## What is found -/

/-- A file is kept under the name. -/
def Keeps (e : Engine) (name : String) : Prop :=
  ∃ f, e.cached.get? name = some (.file f)

/-- The library keeps what it has loaded, and the files that are kept are those of the directory. -/
structure Sound (e : Engine) : Prop where
  caches : e.library.Caches
  kept : ∀ name f, e.cached.get? name = some (.file f) → e.files name = some f

namespace Sound

variable (h : e.Sound)
include h

theorem find?_of_kept (hf : e.cached.get? name = some (.file f)) :
    e.find? name = some (.file f) := by
  rw [find?, hf]
  exact if_pos (h.caches.file f _)

theorem find?_of_not_keeps (hkeeps : ¬ e.Keeps name) : e.find? name = e.load? name := by
  unfold find?
  split
  next found hfound =>
    cases found with
    | file f => exact absurd ⟨f, hfound⟩ hkeeps
    | added s =>
      -- A source that is up to date is the one that is loaded.
      split
      next huse => rw [load?, h.caches.added s _ huse]
      · rfl
  · rfl

theorem find?_of_keeps (hkeeps : e.Keeps name) : e.find? name = (e.files name).map .file := by
  obtain ⟨f, hf⟩ := hkeeps
  rw [h.find?_of_kept hf, h.kept name f hf]
  rfl

theorem files_of_find? (hfind : e.find? name = some (.file f)) : e.files name = some f := by
  by_cases hkeeps : e.Keeps name
  · rw [h.find?_of_keeps hkeeps] at hfind
    obtain ⟨g, hg, hgf⟩ := Option.map_eq_some_iff.1 hfind
    rw [hg, Found.file.inj hgf]
  · rw [h.find?_of_not_keeps hkeeps, load?] at hfind
    split at hfind
    · cases hfind
    · obtain ⟨g, hg, hgf⟩ := Option.map_eq_some_iff.1 hfind
      rw [hg, Found.file.inj hgf]

theorem find?_eq_added_iff : e.find? name = some (.added source) ↔
    ¬ e.Keeps name ∧ e.added.get? name = some source := by
  by_cases hkeeps : e.Keeps name
  · obtain ⟨f, hf⟩ := hkeeps
    simp [h.find?_of_kept hf, show e.Keeps name from ⟨f, hf⟩]
  · rw [h.find?_of_not_keeps hkeeps, load?]
    cases e.added.get? name <;> simp [hkeeps]

theorem keeps_lookUpAll_iff : (e.lookUpAll names).Keeps name ↔
    e.Keeps name ∨ name ∈ names ∧ ∃ f, e.find? name = some (.file f) := by
  rw [Keeps, get?_cached_lookUpAll]
  by_cases hkeeps : e.Keeps name
  · obtain ⟨f, hf⟩ := hkeeps
    have hnow : (if name ∈ names then (e.find? name).or (e.cached.get? name)
        else e.cached.get? name) = some (.file f) := by
      rw [h.find?_of_kept hf, hf]
      split <;> rfl
    simp only [hnow, show e.Keeps name from ⟨f, hf⟩, true_or, iff_true]
    exact ⟨f, rfl⟩
  · simp only [hkeeps, false_or]
    split
    next hmem =>
      simp only [hmem, true_and]
      cases hfind : e.find? name with
      | some found => rfl
      | none => simpa using fun f hf => hkeeps ⟨f, hf⟩
    next hmem => simpa [hmem] using fun f hf => hkeeps ⟨f, hf⟩

/-! ## One call -/

theorem keeps_after_iff : (e.after c).Keeps name ↔
    e.Keeps name ∨ name ∈ e.lookUps c ∧ ∃ f, e.find? name = some (.file f) := by
  obtain ⟨n, s, rfl⟩ | ⟨-, hafter⟩ := e.after_cases c
  · simp [Engine.after, add, lookUps, Keeps]
  · rw [hafter]
    exact h.keeps_lookUpAll_iff

theorem after (c : Call) : (e.after c).Sound where
  caches := by
    rw [library_after]
    exact h.caches
  kept name f hf := by
    rw [files_after]
    obtain ⟨n, s, rfl⟩ | ⟨-, hafter⟩ := e.after_cases c
    · exact h.kept name f hf
    · rw [hafter, get?_cached_lookUpAll] at hf
      split at hf
      · rcases Option.or_eq_some_iff.1 hf with hfind | ⟨-, hkept⟩
        · exact h.files_of_find? hfind
        · exact h.kept name f hkept
      · exact h.kept name f hf

/-- A source that is found stays until another one is added. -/
theorem find?_after_of_added (hfind : e.find? name = some (.added source))
    (hc : c.adds name = false) : (e.after c).find? name = some (.added source) := by
  obtain ⟨hkeeps, hadded⟩ := h.find?_eq_added_iff.1 hfind
  refine (h.after c).find?_eq_added_iff.2 ⟨fun hafter => ?_, (get?_added_after hc).trans hadded⟩
  rcases h.keeps_after_iff.1 hafter with hbefore | ⟨-, f, hf⟩
  · exact hkeeps hbefore
  · rw [hfind] at hf
    cases hf

end Sound

/-! ## Histories -/

namespace Sound

theorem afterAll : ∀ (calls : List Call) {e : Engine}, e.Sound → (e.afterAll calls).Sound
  | [], _, h => h
  | c :: calls, _, h => afterAll calls (h.after c)

theorem find?_afterAll_of_added : ∀ (calls : List Call) {e : Engine}, e.Sound →
    e.find? name = some (.added source) → (∀ c ∈ calls, c.adds name = false) →
      (e.afterAll calls).find? name = some (.added source)
  | [], _, _, hfind, _ => hfind
  | c :: calls, _, h, hfind, hcalls =>
    find?_afterAll_of_added calls (h.after c)
      (h.find?_after_of_added hfind (hcalls c List.mem_cons_self))
      fun d hd => hcalls d (List.mem_cons_of_mem c hd)

theorem keeps_afterAll_of_keeps : ∀ (calls : List Call) {e : Engine}, e.Sound →
    e.Keeps name → (e.afterAll calls).Keeps name
  | [], _, _, hkeeps => hkeeps
  | c :: calls, _, h, hkeeps =>
    keeps_afterAll_of_keeps calls (h.after c) (h.keeps_after_iff.2 (.inl hkeeps))

/-- Under a name that has a source of its own no file is kept any more. -/
theorem not_keeps_afterAll : ∀ (calls : List Call) {e : Engine}, e.Sound →
    ¬ e.Keeps name → (e.added.get? name).isSome = true → ¬ (e.afterAll calls).Keeps name
  | [], _, _, hkeeps, _ => hkeeps
  | c :: calls, e, h, hkeeps, hadded => by
    obtain ⟨source, hsource⟩ := Option.isSome_iff_exists.1 hadded
    have hafter : ¬ (e.after c).Keeps name := by
      rw [h.keeps_after_iff, h.find?_eq_added_iff.2 ⟨hkeeps, hsource⟩]
      simpa using hkeeps
    exact not_keeps_afterAll calls (h.after c) hafter (isSome_get?_added_after (.inl hadded))

/-- What comes first decides whether a file is kept under a name for good : a look-up of the name
keeps it, and an addition under the name prevents that. -/
theorem keeps_afterAll_iff : ∀ (calls : List Call) {e : Engine}, e.Sound →
    ¬ e.Keeps name → e.added.get? name = none →
      ((e.afterAll calls).Keeps name ↔ e.keepsFile name calls = true)
  | [], _, _, hkeeps, _ => by simpa [Engine.afterAll, keepsFile, lookedUpFirst] using hkeeps
  | c :: calls, e, h, hkeeps, hadded => by
    have hfind : e.find? name = (e.files name).map .file := by
      rw [h.find?_of_not_keeps hkeeps, load?, hadded]
    show ((e.after c).afterAll calls).Keeps name ↔ _
    by_cases hlooks : name ∈ e.lookUps c
    · have hadds : c.adds name = false := by
        obtain ⟨n, s, rfl⟩ | ⟨hnone, -⟩ := e.after_cases c
        · cases hlooks
        · exact hnone name
      cases hfile : e.files name with
      | some f =>
        rw [hfile] at hfind
        simp only [keepsFile, lookedUpFirst, hfile, hlooks, List.contains_iff_mem.2,
          Option.isSome_some, Bool.true_or, Bool.and_self, iff_true]
        exact keeps_afterAll_of_keeps calls (h.after c)
          (h.keeps_after_iff.2 (.inr ⟨hlooks, f, hfind⟩))
      | none =>
        -- There is no file to be kept, now or later.
        have hafter : ¬ (e.after c).Keeps name := by
          rw [h.keeps_after_iff, hfind, hfile]
          simpa using hkeeps
        rw [keeps_afterAll_iff calls (h.after c) hafter ((get?_added_after hadds).trans hadded)]
        simp only [keepsFile, files_after, hfile, Option.isSome_none, Bool.false_and]
    · have hafter : ¬ (e.after c).Keeps name := by
        rw [h.keeps_after_iff]
        simpa [hlooks] using hkeeps
      have hcontains : (e.lookUps c).contains name = false := by simpa using hlooks
      cases hadds : c.adds name with
      | true =>
        have hnever := not_keeps_afterAll calls (h.after c) hafter
          (isSome_get?_added_after (.inr hadds))
        simp only [keepsFile, lookedUpFirst, hcontains, hadds, hnever, Bool.not_true,
          Bool.false_and, Bool.or_false, Bool.and_false, Bool.false_eq_true]
      | false =>
        rw [keeps_afterAll_iff calls (h.after c) hafter ((get?_added_after hadds).trans hadded)]
        simp only [keepsFile, lookedUpFirst, files_after, hcontains, hadds, Bool.false_or,
          Bool.not_false, Bool.true_and]

end Sound

/-! ## Other names -/

/-- Two engines give the same answers about all names but one. -/
structure SameElsewhere (name : String) (e e' : Engine) : Prop where
  quote : e.quote = e'.quote
  files : e.files = e'.files
  library : e.library = e'.library
  cached : ∀ other, other ≠ name → e.cached.get? other = e'.cached.get? other
  added : ∀ other, other ≠ name → e.added.get? other = e'.added.get? other

theorem sameElsewhere_add (e : Engine) (name source : String) :
    SameElsewhere name (e.add name source) e :=
  ⟨rfl, rfl, rfl, fun _ _ => rfl, fun _ hother => Entries.get?_put_of_ne hother e.added source⟩

namespace SameElsewhere

variable (h : SameElsewhere name e e')
include h

theorem symm : SameElsewhere name e' e where
  quote := h.quote.symm
  files := h.files.symm
  library := h.library.symm
  cached other hother := (h.cached other hother).symm
  added other hother := (h.added other hother).symm

theorem find? (hother : other ≠ name) : e.find? other = e'.find? other := by
  simp only [Engine.find?, load?, h.library, h.files, h.cached other hother, h.added other hother]

theorem templateRendering (n : String) (given : Value) :
    e.templateRendering n given = e'.templateRendering n given := by
  simp only [Engine.templateRendering, rendering, h.quote, h.library]

theorem stringRendering (source : String) (given : Value) :
    e.stringRendering source given = e'.stringRendering source given := by
  simp only [Engine.stringRendering, h.quote, h.library]

theorem hasTemplate (hother : other ≠ name) : e.hasTemplate other = e'.hasTemplate other := by
  rw [Engine.hasTemplate, h.find? hother, Engine.hasTemplate]

/-- Calls that do not look the name up look up the same names. -/
theorem lookUps_of_not_mem (c : Call) (hc : name ∉ e.lookUps c) : e.lookUps c = e'.lookUps c := by
  cases c with
  | add n s => rfl
  | has n => rfl
  | renderTemplate n given =>
    rw [lookUps, lookUps, ← h.templateRendering]
    exact (Rendering.congr_of_not_mem (fun _ => h.find?) _ hc).2
  | renderString s given =>
    rw [lookUps, lookUps, ← h.stringRendering]
    exact (Rendering.congr_of_not_mem (fun _ => h.find?) _ hc).2

theorem renderTemplate {n : String} {given : Value}
    (hn : name ∉ e.lookUps (.renderTemplate n given)) :
    e.renderTemplate n given = e'.renderTemplate n given := by
  rw [Engine.renderTemplate, Engine.renderTemplate, ← h.templateRendering, text, text,
    (Rendering.congr_of_not_mem (fun _ => h.find?) _ hn).1]

theorem after (hlookUps : ∀ other, other ≠ name → (other ∈ e.lookUps c ↔ other ∈ e'.lookUps c)) :
    SameElsewhere name (e.after c) (e'.after c) := by
  refine ⟨?_, ?_, ?_, fun other hother => ?_, fun other hother => ?_⟩
  · rw [quote_after, quote_after, h.quote]
  · rw [files_after, files_after, h.files]
  · rw [library_after, library_after, h.library]
  · obtain ⟨n, s, rfl⟩ | ⟨-, hafter⟩ := e.after_cases c
    · exact h.cached other hother
    · obtain ⟨n, s, rfl⟩ | ⟨-, hafter'⟩ := e'.after_cases c
      · exact h.cached other hother
      · simp only [hafter, hafter', get?_cached_lookUpAll, hlookUps other hother, h.find? hother,
          h.cached other hother]
  · cases hadds : c.adds other with
    | false => rw [get?_added_after hadds, get?_added_after hadds, h.added other hother]
    | true =>
      obtain ⟨n, s, rfl⟩ | ⟨hnone, -⟩ := e.after_cases c
      · obtain rfl : n = other := by simpa [Call.adds] using hadds
        simp only [Engine.after, add, Entries.get?_put_self]
      · rw [hnone] at hadds
        cases hadds

end SameElsewhere

/-- Where no source looks anything up, a call looks up the name that it is made with at most. -/
theorem looksUpApart_of_done : ∀ (calls : List Call) {e : Engine},
    (∀ q n source given, ∃ result, e.library.fill q n source given = .done result) →
      e.looksUpApart name calls = true
  | [], _, _ => rfl
  | c :: calls, e, hdone => by
    have hone : ∃ n, ∀ m ∈ e.lookUps c, m = n := by
      cases c with
      | add n s => exact ⟨n, by simp [lookUps]⟩
      | has n => exact ⟨n, by simp [lookUps]⟩
      | renderTemplate n given =>
        refine ⟨n, fun m hm => ?_⟩
        rw [lookUps, lookedUp, templateRendering, rendering, Rendering.lookUps] at hm
        refine (List.mem_cons.1 hm).resolve_right ?_
        split
        · simp [Rendering.lookUps]
        next s _ =>
          obtain ⟨result, hresult⟩ := hdone e.quote (some n) s _
          rw [hresult]
          simp [Rendering.lookUps]
        next s _ =>
          obtain ⟨result, hresult⟩ := hdone e.quote (some n) s _
          rw [hresult]
          simp [Rendering.lookUps]
        · simp [Rendering.lookUps]
      | renderString s given =>
        obtain ⟨result, hresult⟩ :=
          hdone e.quote none s ((Values.ofValue given).map (·.context))
        exact ⟨name, by simp [lookUps, lookedUp, stringRendering, hresult, Rendering.lookUps]⟩
    obtain ⟨n, hn⟩ := hone
    have hrest := looksUpApart_of_done calls (e := e.after c) (by rwa [library_after])
    rw [looksUpApart, hrest, Bool.and_true, Bool.or_eq_true]
    by_cases hmem : name ∈ e.lookUps c
    · refine .inr (List.all_eq_true.2 fun m hm => ?_)
      rw [hn m hm, hn name hmem]
      exact beq_self_eq_true n
    · exact .inl (by simpa using hmem)

/-- Calls that look the name up on its own, in both engines, or not at all. -/
theorem SameElsewhere.afterAll : ∀ (calls : List Call) {e e' : Engine},
    SameElsewhere name e e' → e.looksUpApart name calls = true →
      e'.looksUpApart name calls = true →
        SameElsewhere name (e.afterAll calls) (e'.afterAll calls)
  | [], _, _, h, _, _ => h
  | c :: calls, e, e', h, hapart, hapart' => by
    rw [looksUpApart, Bool.and_eq_true] at hapart hapart'
    refine SameElsewhere.afterAll calls (h.after fun other hother => ?_) hapart.2 hapart'.2
    by_cases hmem : name ∈ e.lookUps c
    · by_cases hmem' : name ∈ e'.lookUps c
      · have honly : ∀ n ∈ e.lookUps c, n = name := by simpa [hmem] using hapart.1
        have honly' : ∀ n ∈ e'.lookUps c, n = name := by simpa [hmem'] using hapart'.1
        exact ⟨fun ho => absurd (honly other ho) hother, fun ho => absurd (honly' other ho) hother⟩
      · rw [h.symm.lookUps_of_not_mem c hmem']
    · rw [h.lookUps_of_not_mem c hmem]

/-! ## A file that is kept -/

/-- Two engines that differ in one name only, and keep a file under that one. -/
structure KeptAlike (name : String) (e e' : Engine) : Prop extends SameElsewhere name e e' where
  sound : e.Sound
  sound' : e'.Sound
  keeps : e.Keeps name
  keeps' : e'.Keeps name

namespace KeptAlike

variable (h : KeptAlike name e e')
include h

/-- The files are the same, so the one that is kept is. -/
theorem find?_eq : e.find? = e'.find? := by
  funext other
  by_cases hother : other = name
  · rw [hother, h.sound.find?_of_keeps h.keeps, h.sound'.find?_of_keeps h.keeps', h.files]
  · exact h.toSameElsewhere.find? hother

theorem lookUps_eq (c : Call) : e.lookUps c = e'.lookUps c := by
  cases c with
  | add n s => rfl
  | has n => rfl
  | renderTemplate n given =>
    rw [lookUps, lookUps, h.templateRendering, lookedUp, lookedUp, h.find?_eq]
  | renderString s given =>
    rw [lookUps, lookUps, h.stringRendering, lookedUp, lookedUp, h.find?_eq]

theorem hasTemplate_eq (other : String) : e.hasTemplate other = e'.hasTemplate other := by
  rw [Engine.hasTemplate, h.find?_eq, Engine.hasTemplate]

theorem renderTemplate_eq (other : String) (given : Value) :
    e.renderTemplate other given = e'.renderTemplate other given := by
  rw [Engine.renderTemplate, Engine.renderTemplate, h.templateRendering, text, text, h.find?_eq]

theorem after (c : Call) : KeptAlike name (e.after c) (e'.after c) where
  toSameElsewhere := h.toSameElsewhere.after fun other _ => by rw [h.lookUps_eq c]
  sound := h.sound.after c
  sound' := h.sound'.after c
  keeps := h.sound.keeps_after_iff.2 (.inl h.keeps)
  keeps' := h.sound'.keeps_after_iff.2 (.inl h.keeps')

end KeptAlike

theorem KeptAlike.afterAll : ∀ (calls : List Call) {e e' : Engine}, KeptAlike name e e' →
    KeptAlike name (e.afterAll calls) (e'.afterAll calls)
  | [], _, _, h => h
  | c :: calls, _, _, h => KeptAlike.afterAll calls (h.after c)

/-! ## Adding a template -/

theorem sound_start {quote : Char} {files : String → Option File} {library : Library}
    (hlibrary : library.Caches) : ({ quote, files, library } : Engine).Sound :=
  ⟨hlibrary, fun _ _ h => by cases h⟩

section Added

variable {quote : Char} {files : String → Option File} {library : Library}
  {before later : List Call} {source : String}

theorem keeps_start_iff (hlibrary : library.Caches) (calls : List Call) (name : String) :
    (({ quote, files, library } : Engine).afterAll calls).Keeps name ↔
      ({ quote, files, library } : Engine).keepsFile name calls = true :=
  (sound_start hlibrary).keeps_afterAll_iff calls (fun ⟨_, h⟩ => by cases h) rfl

theorem Sound.add (h : e.Sound) (name source : String) : (e.add name source).Sound :=
  h.after (.add name source)

/-- The added source is found where no file is kept. -/
theorem Sound.find?_added (h : e.Sound) (hkeeps : ¬ e.Keeps name)
    (hlater : ∀ c ∈ later, c.adds name = false) :
    ((e.add name source).afterAll later).find? name = some (.added source) :=
  (h.add name source).find?_afterAll_of_added later
    ((h.add name source).find?_eq_added_iff.2 ⟨hkeeps, Entries.get?_put_self _ name source⟩) hlater

/-- A source that is found is filled in under its name. -/
theorem renderTemplate_of_found (hname : e.library.IgnoresName source)
    (hfind : e.find? name = some (.added source)) {given : Value} {text : Text}
    (htext : e.renderString source given = .ok text) : e.renderTemplate name given = .ok text := by
  have hresult := hname e.quote name _ _ _ (mapError_eq_ok_iff.1 htext)
  refine mapError_eq_ok_iff.2 ?_
  rw [templateRendering, rendering, Rendering.result, hfind]
  exact hresult

end Added

/-- What an addition does to an engine with any history. It may have any files and any library that
caches as documented. Until a template is added under the name again there is a template of the
name. It is the added one, unless a file of the name was looked up before anything was added under
it : then it is the file, and all answers are as if nothing had been added. Other names are never
affected, but by templates that look the name up themselves. -/
theorem add_shadows {library : Library} (hlibrary : library.Caches) (quote : Char)
    (files : String → Option File) (before later : List Call) (name source : String)
    (hlater : ∀ c ∈ later, c.adds name = false) :
    let start : Engine := { quote, files, library }
    let bare := start.afterAll before
    let e := (bare.add name source).afterAll later
    e.hasTemplate name = true ∧
    (start.keepsFile name before = false → e.find? name = some (.added source) ∧
      (library.IgnoresName source → ∀ given text,
        e.renderString source given = .ok text → e.renderTemplate name given = .ok text)) ∧
    (start.keepsFile name before = true → e.find? name = (files name).map .file ∧
      ∀ other, e.hasTemplate other = (bare.afterAll later).hasTemplate other ∧
        ∀ given, e.renderTemplate other given = (bare.afterAll later).renderTemplate other given) ∧
    ∀ calls, (bare.add name source).looksUpApart name calls = true →
      bare.looksUpApart name calls = true → ∀ other, other ≠ name →
        let shadowed := (bare.add name source).afterAll calls
        let plain := bare.afterAll calls
        shadowed.hasTemplate other = plain.hasTemplate other ∧
          ∀ given, name ∉ shadowed.lookUps (.renderTemplate other given) →
            shadowed.renderTemplate other given = plain.renderTemplate other given := by
  intro start bare e
  have hsound : bare.Sound := (sound_start hlibrary).afterAll before
  have hkeeps : bare.Keeps name ↔ start.keepsFile name before = true :=
    keeps_start_iff hlibrary before name
  have hfiles : e.files = files :=
    (files_afterAll later _).trans (files_afterAll before start)
  have hfound (hkept : start.keepsFile name before = false) :
      e.find? name = some (.added source) :=
    hsound.find?_added (by rw [hkeeps, hkept]; decide) hlater
  have halike (hkept : start.keepsFile name before = true) :
      KeptAlike name e (bare.afterAll later) :=
    KeptAlike.afterAll later ⟨sameElsewhere_add bare name source, hsound.add name source, hsound,
      hkeeps.2 hkept, hkeeps.2 hkept⟩
  have hfile (hkept : start.keepsFile name before = true) :
      e.find? name = (files name).map .file := by
    rw [(halike hkept).sound.find?_of_keeps (halike hkept).keeps, hfiles]
  refine ⟨?_, fun hkept => ⟨hfound hkept, fun hname given text => ?_⟩,
    fun hkept => ⟨hfile hkept, fun other => ⟨(halike hkept).hasTemplate_eq other,
      (halike hkept).renderTemplate_eq other⟩⟩,
    fun calls hshadowed hplain other hother => ?_⟩
  · cases hkept : start.keepsFile name before with
    | false => rw [hasTemplate, hfound hkept, Option.isSome_some]
    | true =>
      rw [hasTemplate, hfile hkept, Option.isSome_map]
      exact (Bool.and_eq_true_iff.1 hkept).1
  · have hsame : e.library = library :=
      (library_afterAll later _).trans (library_afterAll before start)
    exact renderTemplate_of_found (hsame ▸ hname) (hfound hkept)
  · have hsame := (sameElsewhere_add bare name source).afterAll calls hshadowed hplain
    exact ⟨hsame.hasTemplate hother, fun given => hsame.renderTemplate⟩

/-- An engine with the built-in templates. -/
def sampleEngine : Engine := { quote := Text.doubleQuote, files := BuiltIn.file? }

/-- A template that greets. -/
def sampleGreeting : String := "Hello \x7b\x7b name \x7d\x7d"

theorem add_shadows_sample : Library.braces.Caches ∧
    (((sampleEngine.afterAll [.has "own.j2"]).add "own.j2" sampleGreeting).afterAll
        [.renderTemplate "own.j2" .null, .add "helpers.ts.j2" "x"]).renderTemplate "own.j2"
      (.object [("name", .str "World")]) = .ok "Hello World" ∧
    (∀ given, ((sampleEngine.afterAll [.has "helpers.ts.j2"]).add "helpers.ts.j2"
        sampleGreeting).renderTemplate "helpers.ts.j2" given =
      (sampleEngine.afterAll [.has "helpers.ts.j2"]).renderTemplate "helpers.ts.j2" given) ∧
    ∀ calls, ((sampleEngine.add "own.j2" sampleGreeting).afterAll calls).hasTemplate
        "enum.ts.j2" = (sampleEngine.afterAll calls).hasTemplate "enum.ts.j2" := by
  refine ⟨Library.braces_caches, ?_, fun given => ?_, fun calls => ?_⟩
  · obtain ⟨-, hadded, -⟩ := add_shadows Library.braces_caches Text.doubleQuote BuiltIn.file?
      [.has "own.j2"] [.renderTemplate "own.j2" .null, .add "helpers.ts.j2" "x"] "own.j2"
      sampleGreeting (by decide)
    exact (hadded (by decide)).2 (Library.braces_ignoresName (by decide +kernel))
      (.object [("name", .str "World")]) "Hello World" rfl
  · obtain ⟨-, -, hkept, -⟩ := add_shadows Library.braces_caches Text.doubleQuote BuiltIn.file?
      [.has "helpers.ts.j2"] [] "helpers.ts.j2" sampleGreeting (by simp)
    exact ((hkept (by decide)).2 "helpers.ts.j2").2 given
  · obtain ⟨-, -, -, hothers⟩ := add_shadows Library.braces_caches Text.doubleQuote BuiltIn.file?
      [] [] "own.j2" sampleGreeting (by simp)
    exact (hothers calls (looksUpApart_of_done calls fun _ _ _ _ => ⟨_, rfl⟩)
      (looksUpApart_of_done calls fun _ _ _ _ => ⟨_, rfl⟩) "enum.ts.j2" (by decide)).1

/-- An addition under the name of a built-in template that was looked up before does not show. -/
theorem add_after_lookUp_shadows_not :
    let e := (sampleEngine.afterAll [.has "helpers.ts.j2"]).add "helpers.ts.j2" "x"
    let given := Value.object [("indent", .str "")]
    e.hasTemplate "helpers.ts.j2" = true ∧ e.renderString "x" given = .ok "x" ∧
      ∃ t, e.renderTemplate "helpers.ts.j2" given = .ok t ∧ t ≠ "x" := by
  refine ⟨by decide, rfl, _, rfl, by decide +kernel⟩

end Engine

end DtoPress.Template
