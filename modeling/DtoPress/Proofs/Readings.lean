import DtoPress.CommandLine.Usage
import DtoPress.Proofs.Entries
import DtoPress.Proofs.Results
import Mathlib.Data.List.Nodup

/-!
# What arguments give

Whatever the arguments of a command are, if they are read then every option has a value that it
can take : a flag is true, a value is a text and among the choices of its option, and two dashes
in the place of a value give the empty list (`Grammar.fits_read`). Each step of the walk over the
arguments keeps this, since it finds its options in the grammar and puts nothing else into the
reading.

So an invocation has a level unless two dashes stand in its place
(`Invocation.exists_logLevel`), and the schema, the URL, the output and the file of a request are
texts or count as false (`GenerateRequest.ofArguments_ofReading`).
-/

set_option linter.unusedSectionVars false

namespace DtoPress.CommandLine

/-! ## Values that options take -/

/-- The value is one that the option can be given. -/
inductive OptionSpec.Takes (o : OptionSpec) : Value → Prop
  | flag (h : o.takesValue = false) : o.Takes (.bool true)
  /-- Two dashes stand in the place of the value. -/
  | dashes : o.Takes (.list [])
  | text (s : String) (h : ∀ choices, o.choices = some choices → s ∈ choices) : o.Takes (.str s)

/-- The name is that of an option that takes the value, or of the positional argument, which is
given as a text. -/
def Grammar.Accepts (g : Grammar) (name : String) (v : Value) : Prop :=
  (∃ o ∈ g.options, o.name = name ∧ o.Takes v) ∨
    g.positional = some (.optional name) ∧ ∃ s : String, v = .str s

/-- All that is given is accepted by the grammar. -/
def Reading.Fits (r : Reading) (g : Grammar) : Prop :=
  ∀ name v, Entries.get? r.given name = some v → g.Accepts name v

/-- An option of the grammar in use, with a value if it takes one. -/
def Use.Fits (u : Use) (g : Grammar) : Prop :=
  u.1 ∈ g.options ∧ (u.2 = none → u.1.takesValue = false)

namespace Grammar

variable {g : Grammar} {r r' : Reading}

theorem fits_give (h : r.Fits g) {name : String} {v : Value} (hv : g.Accepts name v)
    (hgive : g.give r name v = .ok r') : r'.Fits g := by
  unfold give at hgive
  dsimp only at hgive
  split at hgive
  · cases hgive
  · obtain rfl := Except.ok.inj hgive
    intro other w hw
    rw [Entries.get?_put] at hw
    by_cases hname : name = other
    · subst hname
      rw [if_pos (beq_self_eq_true name)] at hw
      rwa [← Option.some.inj hw]
    · rw [if_neg (by simpa using hname)] at hw
      exact h other w hw

theorem fits_use (h : r.Fits g) {u : Use} (hu : u.Fits g) (huse : g.use r u = .ok r') :
    r'.Fits g := by
  obtain ⟨o, value⟩ := u
  obtain ⟨ho, hnone⟩ := hu
  have accepts : ∀ {v : Value}, o.Takes v → g.Accepts o.name v := fun hv =>
    .inl ⟨o, ho, rfl, hv⟩
  unfold use at huse
  cases value with
  | none =>
    dsimp only at huse
    split at huse
    · cases huse
    · exact fits_give h (accepts (.flag (hnone rfl))) huse
  | some value =>
    dsimp only at huse
    split at huse
    · exact fits_give h (accepts .dashes) huse
    · split at huse
      next choices hchoices =>
        split at huse
        next hmem =>
          refine fits_give h (accepts (.text value fun choices' h' => ?_)) huse
          obtain rfl := Option.some.inj (hchoices.symm.trans h')
          exact List.contains_iff_mem.1 hmem
        · cases huse
      next hchoices =>
        refine fits_give h (accepts (.text value fun choices' h' => ?_)) huse
        exact absurd (hchoices.symm.trans h') (by simp)

theorem fits_foldlM_use : ∀ {uses : List Use} {r : Reading}, r.Fits g → (∀ u ∈ uses, u.Fits g) →
    uses.foldlM g.use r = .ok r' → r'.Fits g
  | [], r, h, _, hrun => by
    obtain rfl : r = r' := Except.ok.inj hrun
    exact h
  | u :: uses, r, h, huses, hrun => by
    rw [List.foldlM_cons] at hrun
    obtain ⟨next, hnext, hrun⟩ := bind_eq_ok_iff.1 hrun
    obtain ⟨hu, hrest⟩ := List.forall_mem_cons.1 huses
    exact fits_foldlM_use (fits_use h hu hnext) hrest hrun

/-! ## Options found in an argument -/

theorem mem_options_of_mem_spellings {spelling : String} {o : OptionSpec}
    (h : (spelling, o) ∈ g.spellings) : o ∈ g.options := by
  obtain ⟨o', ho', h⟩ := List.mem_flatMap.1 h
  obtain ⟨s, -, heq⟩ := List.mem_map.1 h
  obtain ⟨-, rfl⟩ := Prod.mk.inj heq
  exact ho'

theorem mem_options_of_find? {spelling : String} {o : OptionSpec}
    (h : g.find? spelling = some o) : o ∈ g.options := by
  obtain ⟨⟨s, o'⟩, hfind, rfl⟩ := Option.map_eq_some_iff.1 h
  exact mem_options_of_mem_spellings (List.mem_of_find?_eq_some hfind)

theorem mem_options_of_candidates {cs : List Char} {m : Match} (h : m ∈ g.candidates cs) :
    m.option ∈ g.options := by
  unfold candidates at h
  split at h
  · obtain ⟨⟨s, o⟩, hmem, rfl⟩ := List.mem_map.1 h
    exact mem_options_of_mem_spellings (List.mem_filter.1 hmem).1
  · obtain ⟨⟨s, o⟩, hmem, hm⟩ := List.mem_filterMap.1 h
    have hoption : m.option = o := by
      dsimp only at hm
      split at hm
      · rw [← Option.some.inj hm]
      · split at hm
        · rw [← Option.some.inj hm]
        · cases hm
    rw [hoption]
    exact mem_options_of_mem_spellings hmem

theorem mem_options_of_mark {arg : String} {m : Match} (h : g.mark arg = .ok (.option m)) :
    m.option ∈ g.options := by
  unfold mark at h
  split at h
  · cases h
  · cases h
  · split at h
    · cases h
    split at h
    next o ho =>
      obtain rfl := Mark.option.inj (Except.ok.inj h)
      exact mem_options_of_find? ho
    split at h
    · cases h
    split at h
    next assigned hassigned =>
      obtain rfl := Mark.option.inj (Except.ok.inj h)
      unfold assigned? at hassigned
      split at hassigned
      · obtain ⟨o, ho, rfl⟩ := Option.map_eq_some_iff.1 hassigned
        exact mem_options_of_find? ho
      · cases hassigned
    · unfold markCandidate at h
      dsimp only at h
      split at h
      next candidate hcandidates =>
        obtain rfl := Mark.option.inj (Except.ok.inj h)
        exact mem_options_of_candidates (hcandidates ▸ List.mem_singleton_self _)
      · have := Except.ok.inj h
        split at this <;> cases this
      · cases h

/-- All options among marked arguments are of the grammar. -/
def MarksFit (g : Grammar) (marked : List (Mark × String)) : Prop :=
  ∀ m arg, (Mark.option m, arg) ∈ marked → m.option ∈ g.options

theorem marksFit_markAll : ∀ {args : List String} {marked : List (Mark × String)},
    g.markAll args = .ok marked → g.MarksFit marked
  | [], marked, h => by
    obtain rfl : [] = marked := Except.ok.inj h
    intro m arg hmem
    simp at hmem
  | arg :: rest, marked, h => by
    obtain ⟨mark, hmark, h⟩ := bind_eq_ok_iff.1 h
    intro m other hmem
    split at h
    · obtain rfl := Except.ok.inj h
      simp at hmem
    · obtain ⟨marks, hmarks, h⟩ := bind_eq_ok_iff.1 h
      obtain rfl := Except.ok.inj h
      rcases List.mem_cons.1 hmem with heq | hmem
      · obtain ⟨rfl, rfl⟩ := Prod.mk.inj heq
        exact mem_options_of_mark hmark
      · exact marksFit_markAll hmarks m other hmem

/-! ## Options in use -/

/-- The uses in a bundle are of the grammar, and so is the option whose value is to follow. -/
structure BundleFits (g : Grammar) (b : Bundle) : Prop where
  uses : ∀ u ∈ b.uses, u.Fits g
  last : ∀ o, b.last = some o → o ∈ g.options

theorem bundleFits_readLetters : ∀ {cs : List Char} {o : OptionSpec} {b : Bundle},
    o ∈ g.options → g.readLetters o cs = .ok b → g.BundleFits b
  | [], o, b, ho, h => by
    unfold readLetters at h
    split at h
    · obtain rfl := Except.ok.inj h
      exact ⟨by simpa [Use.Fits] using ho, by simp⟩
    · cases h
  | c :: cs, o, b, ho, h => by
    unfold readLetters at h
    split at h
    · obtain rfl := Except.ok.inj h
      exact ⟨by simpa [Use.Fits] using ho, by simp⟩
    next hflag =>
      have hown : Use.Fits (o, none) g := ⟨ho, fun _ => by simpa using hflag⟩
      split at h
      · cases h
      next next hnext =>
        obtain rfl := Except.ok.inj h
        refine ⟨by simpa using hown, fun o' ho' => ?_⟩
        rw [← Option.some.inj ho']
        exact mem_options_of_find? hnext
      next next hnext _ =>
        obtain ⟨more, hmore, h⟩ := bind_eq_ok_iff.1 h
        obtain rfl := Except.ok.inj h
        have hrest := bundleFits_readLetters (mem_options_of_find? hnext) hmore
        exact ⟨List.forall_mem_cons.2 ⟨hown, hrest.uses⟩, hrest.last⟩

theorem bundleFits_readMatch {m : Match} (hm : m.option ∈ g.options) {b : Bundle}
    (h : g.readMatch m = .ok b) : g.BundleFits b := by
  unfold readMatch at h
  split at h
  · obtain rfl := Except.ok.inj h
    refine ⟨by simp, fun o ho => ?_⟩
    rwa [← Option.some.inj ho]
  · split at h
    · cases h
    · exact bundleFits_readLetters hm h

theorem fits_takeValue {o : OptionSpec} (ho : o ∈ g.options) {rest : List (Mark × String)}
    {u : Use} {taken : Nat} (h : g.takeValue o rest = .ok (u, taken)) : u.Fits g := by
  unfold takeValue at h
  split at h
  · split at h
    · obtain ⟨rfl, -⟩ := Prod.mk.inj (Except.ok.inj h)
      exact ⟨ho, by simp⟩
    · cases h
  next hflag =>
    obtain ⟨rfl, -⟩ := Prod.mk.inj (Except.ok.inj h)
    exact ⟨ho, fun _ => by simpa using hflag⟩

theorem fits_useMatch (h : r.Fits g) {m : Match} (hm : m.option ∈ g.options)
    {rest : List (Mark × String)} {taken : Nat} (huse : g.useMatch r m rest = .ok (r', taken)) :
    r'.Fits g := by
  obtain ⟨b, hb, huse⟩ := bind_eq_ok_iff.1 huse
  have hfits := bundleFits_readMatch hm hb
  cases hlast : b.last with
  | none =>
    simp only [hlast, pure_eq_ok, bind_ok] at huse
    obtain ⟨after, hafter, huse⟩ := bind_eq_ok_iff.1 huse
    obtain ⟨rfl, -⟩ := Prod.mk.inj (Except.ok.inj huse)
    exact fits_foldlM_use h hfits.uses hafter
  | some o =>
    simp only [hlast, pure_eq_ok, bind_ok] at huse
    obtain ⟨⟨u, k⟩, hu, huse⟩ := bind_eq_ok_iff.1 huse
    obtain ⟨after, hafter, huse⟩ := bind_eq_ok_iff.1 huse
    obtain ⟨rfl, -⟩ := Prod.mk.inj (Except.ok.inj huse)
    refine fits_foldlM_use h (fun v hv => ?_) hafter
    rcases List.mem_append.1 hv with hv | hv
    · exact hfits.uses v hv
    · rw [List.mem_singleton.1 hv]
      exact fits_takeValue (hfits.last o hlast) hu

/-! ## The walk over the arguments -/

theorem fits_enter (h : r.Fits g) {name : String} {choices args : List String}
    (henter : g.enter r name choices args = .ok r') : r'.Fits g := by
  unfold enter at henter
  split at henter
  · rwa [← Except.ok.inj henter]
  · split at henter
    · rw [← Except.ok.inj henter]
      exact h
    · cases henter

theorem fits_readPlain {pending : Option Positional}
    (hpending : pending = none ∨ pending = g.positional) (h : r.Fits g) {args : List String}
    (hread : g.readPlain pending r args = .ok r') : r'.Fits g := by
  unfold readPlain at hread
  split at hread
  · rw [← Except.ok.inj hread]
    exact h
  next name =>
    split at hread
    · rwa [← Except.ok.inj hread]
    next value rest =>
      obtain ⟨after, hafter, hread⟩ := bind_eq_ok_iff.1 hread
      obtain rfl := Except.ok.inj hread
      have hgiven : after.Fits g :=
        fits_give h (.inr ⟨(hpending.resolve_left (by simp)).symm, value, rfl⟩) hafter
      exact hgiven
  · split at hread
    · rw [← Except.ok.inj hread]
      exact h
    · exact fits_enter h hread

/-- One argument after the other, what is given stays accepted. -/
theorem fits_walk : ∀ {marked : List (Mark × String)} {pending : Option Positional} {r : Reading}
    {skip : Nat}, pending = none ∨ pending = g.positional → r.Fits g → g.MarksFit marked →
    g.walk pending r skip marked = .ok r' → r'.Fits g
  | [], _, r, _, _, h, _, hwalk => by
    rw [walk] at hwalk
    rwa [← Except.ok.inj hwalk]
  | (mark, arg) :: rest, pending, r, skip, hpending, h, hmarks, hwalk => by
    have hrest : g.MarksFit rest := fun m a hm => hmarks m a (List.mem_cons_of_mem _ hm)
    unfold walk at hwalk
    split at hwalk
    · exact fits_walk hpending h hrest hwalk
    · split at hwalk
      next m =>
        obtain ⟨⟨after, taken⟩, hafter, hwalk⟩ := bind_eq_ok_iff.1 hwalk
        have hm := hmarks m arg List.mem_cons_self
        exact fits_walk hpending (fits_useMatch h hm hafter) hrest hwalk
      · have hleft : (r.leave [arg]).Fits g := h
        exact fits_walk hpending hleft hrest hwalk
      · exact fits_readPlain hpending h hwalk
      · split at hwalk
        · have hleft : (r.leave [arg]).Fits g := h
          exact fits_walk (.inl rfl) hleft hrest hwalk
        · exact fits_enter h hwalk
        next name =>
          obtain ⟨after, hafter, hwalk⟩ := bind_eq_ok_iff.1 hwalk
          have hgiven := fits_give h
            (.inr ⟨(hpending.resolve_left (by simp)).symm, arg, rfl⟩) hafter
          exact fits_walk (.inl rfl) hgiven hrest hwalk

/-- What the arguments of a command give is accepted by its grammar. -/
theorem fits_read {args : List String} (h : g.read args = .ok r) : r.Fits g := by
  obtain ⟨marked, hmarked, h⟩ := bind_eq_ok_iff.1 h
  obtain ⟨after, hafter, h⟩ := bind_eq_ok_iff.1 h
  have hstart : Reading.Fits {} g := fun name v hv => by cases hv
  have hfits := fits_walk (.inr rfl) hstart (marksFit_markAll hmarked) hafter
  unfold complete at h
  split at h
  · rwa [← Except.ok.inj h]
  · cases h

/-- What is given under the name of an option is a value of that option. -/
theorem takes_of_accepts (hnames : (g.options.map OptionSpec.name).Nodup) {o : OptionSpec}
    (ho : o ∈ g.options) (hpositional : g.positional ≠ some (.optional o.name)) {v : Value}
    (h : g.Accepts o.name v) : o.Takes v := by
  rcases h with ⟨o', ho', hname, hv⟩ | ⟨hpos, -⟩
  · rwa [← List.inj_on_of_nodup_map hnames ho' ho hname]
  · exact absurd hpos hpositional

end Grammar

/-! ## Invocations -/

/-- What an option with a value leaves where it is used : a text, or the empty list for two
dashes. -/
def IsUsed (v : Value) : Prop :=
  v = .list [] ∨ ∃ s : String, v = .str s

theorem OptionSpec.Takes.isUsed {o : OptionSpec} (ho : o.takesValue = true) {v : Value}
    (h : o.Takes v) : IsUsed v := by
  cases h with
  | flag h => simp [ho] at h
  | dashes => exact .inl rfl
  | text s _ => exact .inr ⟨s, rfl⟩

namespace GenerateRequest

/-- The values of a request are those that its arguments can give. -/
structure OfArguments (q : GenerateRequest) : Prop where
  schema : q.schema = .null ∨ IsUsed q.schema
  url : q.url = .null ∨ IsUsed q.url
  output : q.output = .null ∨ IsUsed q.output
  config : q.config = .null ∨ IsUsed q.config
  language : IsUsed q.language

theorem takes_of_has {r : Reading} (h : r.Fits generateGrammar) {o : OptionSpec}
    (ho : o ∈ generateGrammar.options) (hname : o.name ≠ schemaArgument)
    (hhas : r.has o.name = true) : o.Takes (r.value o.name) := by
  obtain ⟨v, hv⟩ := Option.isSome_iff_exists.1 hhas
  rw [Reading.value, hv]
  refine Grammar.takes_of_accepts (by decide +kernel) ho (fun heq => hname ?_) (h _ _ hv)
  exact (Positional.optional.inj (Option.some.inj heq)).symm

theorem isUsed_value {r : Reading} (h : r.Fits generateGrammar) {o : OptionSpec}
    (ho : o ∈ generateGrammar.options) (hname : o.name ≠ schemaArgument)
    (hvalue : o.takesValue = true) : r.value o.name = .null ∨ IsUsed (r.value o.name) := by
  by_cases hhas : r.has o.name = true
  · exact .inr ((takes_of_has h ho hname hhas).isUsed hvalue)
  · left
    rw [Reading.value, Option.not_isSome_iff_eq_none.1 hhas]
    rfl

theorem ofArguments_ofReading {r : Reading} (h : r.Fits generateGrammar) :
    (ofReading r).OfArguments := by
  constructor
  · show r.value schemaArgument = .null ∨ IsUsed (r.value schemaArgument)
    unfold Reading.value
    cases hv : Entries.get? r.given schemaArgument with
    | none => exact .inl rfl
    | some v =>
      rcases h _ _ hv with ⟨o, ho, hname, -⟩ | ⟨-, s, rfl⟩
      · have hnames : schemaArgument ∉ generateGrammar.options.map OptionSpec.name := by
          decide +kernel
        exact absurd (List.mem_map.2 ⟨o, ho, hname⟩) hnames
      · exact .inr (.inr ⟨s, rfl⟩)
  · exact isUsed_value h (o := urlOption) (by simp [generateGrammar]) (by decide +kernel) rfl
  · exact isUsed_value h (o := outputOption) (by simp [generateGrammar]) (by decide +kernel) rfl
  · exact isUsed_value h (o := configOption) (by simp [generateGrammar]) (by decide +kernel) rfl
  · show IsUsed (if r.has languageOption.name then r.value languageOption.name
      else .str "typescript")
    split
    next hhas =>
      exact (takes_of_has h (o := languageOption) (by simp [generateGrammar])
        (by decide +kernel) hhas).isUsed rfl
    · exact .inr ⟨_, rfl⟩

end GenerateRequest

namespace Invocation

variable {args : List String} {i : Invocation}

/-- The arguments are those of the program, and those behind the subcommand are its own. -/
theorem ofArguments_eq_ok (h : ofArguments args = .ok i) : ∃ r : Reading, r.Fits programGrammar ∧
    i.level = (if r.has levelOption.name then r.value levelOption.name else .str "WARNING") ∧
    ∀ q, i.subcommand = some (.generate q) → q.OfArguments := by
  obtain ⟨r, hr, h⟩ := bind_eq_ok_iff.1 h
  refine ⟨r, Grammar.fits_read hr, ?_⟩
  dsimp only at h
  split at h
  · obtain ⟨-, -, h⟩ := bind_eq_ok_iff.1 h
    obtain rfl := Except.ok.inj h
    exact ⟨rfl, fun q hq => by cases hq⟩
  · obtain ⟨⟨subcommand, leftOver⟩, hsubcommand, h⟩ := bind_eq_ok_iff.1 h
    obtain ⟨-, -, h⟩ := bind_eq_ok_iff.1 h
    obtain rfl := Except.ok.inj h
    refine ⟨rfl, fun q hq => ?_⟩
    obtain rfl : subcommand = .generate q := Option.some.inj hq
    unfold Subcommand.ofArguments at hsubcommand
    split at hsubcommand
    · obtain ⟨_, -, h⟩ := bind_eq_ok_iff.1 hsubcommand
      cases h
    · obtain ⟨own, hown, h⟩ := bind_eq_ok_iff.1 hsubcommand
      obtain rfl : GenerateRequest.ofReading own = q :=
        Subcommand.generate.inj (Prod.mk.inj (Except.ok.inj h)).1
      exact GenerateRequest.ofArguments_ofReading (Grammar.fits_read hown)

/-- The level is a word for one, unless two dashes stand in its place. -/
theorem exists_logLevel (h : ofArguments args = .ok i) (hlevel : i.level ≠ .list []) :
    ∃ level, i.logLevel = .ok level := by
  obtain ⟨r, hfits, heq, -⟩ := ofArguments_eq_ok h
  split at heq
  next hhas =>
    obtain ⟨v, hv⟩ := Option.isSome_iff_exists.1 hhas
    rw [Reading.value, hv] at heq
    have htakes : levelOption.Takes v := Grammar.takes_of_accepts (g := programGrammar)
      (by decide +kernel) (by simp [programGrammar]) (by simp [programGrammar]) (hfits _ _ hv)
    cases htakes with
    | flag h => cases h
    | dashes => exact absurd heq hlevel
    | text s hs =>
      obtain ⟨level, -, rfl⟩ := List.mem_map.1 (hs _ rfl)
      rw [logLevel, heq]
      cases level <;> exact ⟨_, rfl⟩
  · rw [logLevel, heq]
    exact ⟨.warning, rfl⟩

end Invocation

end DtoPress.CommandLine
