import DtoPress.CommandLine.Command
import DtoPress.Proofs.Results

/-!
# Runs and their screen

A screen takes items or refuses one of them, which is the first that it does not take by itself
(`Screen.take_eq_error_iff`). A step that shows items on it does what it does on the lenient screen
if what is shown there is taken (`Step.Follows`), and so does a whole subcommand
(`Subcommand.run_of_takes`) : a screen can only end a run early. What a step yields without looking
at what was shown before is `Step.Yields`.
-/

set_option linter.unusedSectionVars false

namespace DtoPress.CommandLine

/-! ## Items on a screen -/

namespace Screen

variable {screen : Screen} {items : List Item} {f : Fault}

/-- The screen takes each of the items. -/
def Takes (screen : Screen) (items : List Item) : Prop :=
  ∀ item ∈ items, screen item = none

/-- The screen refuses one of the items and takes those before it. -/
def Refuses (screen : Screen) (items : List Item) (f : Fault) : Prop :=
  ∃ before item after, items = before ++ item :: after ∧ screen.Takes before ∧ screen item = some f

theorem lenient_takes (items : List Item) : lenient.Takes items :=
  fun _ _ => rfl

theorem takes_append {more : List Item} :
    screen.Takes (items ++ more) ↔ screen.Takes items ∧ screen.Takes more :=
  List.forall_mem_append

theorem take_of_takes : ∀ {items : List Item}, screen.Takes items →
    screen.take items = (items, .ok ())
  | [], _ => rfl
  | item :: items, h => by
    obtain ⟨hitem, hitems⟩ := List.forall_mem_cons.1 h
    simp only [take, hitem, take_of_takes hitems]

theorem take_of_refuses (h : screen.Refuses items f) : (screen.take items).2 = .error f := by
  obtain ⟨before, item, after, rfl, hbefore, hitem⟩ := h
  induction before with
  | nil => simp [take, hitem]
  | cons first before ih =>
    obtain ⟨hfirst, hbefore⟩ := List.forall_mem_cons.1 hbefore
    simpa [take, hfirst] using ih hbefore

theorem takes_or_refuses (screen : Screen) : ∀ items : List Item,
    screen.Takes items ∨ ∃ f, screen.Refuses items f
  | [] => .inl (by simp [Takes])
  | item :: items => by
    cases hitem : screen item with
    | some f => exact .inr ⟨f, [], item, items, rfl, by simp [Takes], hitem⟩
    | none =>
      rcases takes_or_refuses screen items with htakes | ⟨f, before, other, after, rfl, hbefore, hf⟩
      · exact .inl (List.forall_mem_cons.2 ⟨hitem, htakes⟩)
      · exact .inr ⟨f, item :: before, other, after, rfl,
          List.forall_mem_cons.2 ⟨hitem, hbefore⟩, hf⟩

theorem take_eq_ok_iff : (screen.take items).2 = .ok () ↔ screen.Takes items := by
  refine ⟨fun h => ?_, fun h => by rw [take_of_takes h]⟩
  rcases screen.takes_or_refuses items with htakes | ⟨f, hrefuses⟩
  · exact htakes
  · rw [take_of_refuses hrefuses] at h
    cases h

theorem take_eq_error_iff : (screen.take items).2 = .error f ↔ screen.Refuses items f := by
  refine ⟨fun h => ?_, take_of_refuses⟩
  rcases screen.takes_or_refuses items with htakes | ⟨g, hrefuses⟩
  · rw [take_of_takes htakes] at h
    cases h
  · rw [take_of_refuses hrefuses] at h
    rwa [← Except.error.inj h]

end Screen

/-! ## Steps -/

namespace Step

variable {α β ε : Type} {s s' : Transcript} {x y : Step α}
  {r : Except (Trouble CommandError) α} {r' : Except (Trouble CommandError) β}

theorem run_bind (x : Step α) (f : α → Step β) (s : Transcript) : (x >>= f).run s =
    match x.run s with
    | (.ok a, between) => (f a).run between
    | (.error e, between) => (.error e, between) := by
  change (match x.run s with
    | (result, between) => (ExceptT.bindCont f result : StateM Transcript _) between) = _
  cases x.run s with
  | mk result between => cases result <;> rfl

theorem run_bind_eq_ok {f : α → Step β} {b : β} (h : (x >>= f).run s = (.ok b, s')) :
    ∃ a between, x.run s = (.ok a, between) ∧ (f a).run between = (.ok b, s') := by
  rw [run_bind] at h
  split at h
  next a between hx => exact ⟨a, between, hx, h⟩
  · cases congrArg Prod.fst h

theorem run_logged_eq_ok {f : ε → CommandError} {r : Except (Trouble ε) α × Log} {a : α}
    (h : (logged f r).run s = (.ok a, s')) : r.1 = .ok a ∧ s' = s.add r.2 := by
  obtain ⟨result, log⟩ := r
  cases result with
  | ok b =>
    obtain ⟨hresult, hs⟩ := Prod.mk.inj h
    exact ⟨congrArg _ (Except.ok.inj hresult), hs.symm⟩
  | error e => cases h

theorem run_ofFault_eq_ok {r : Except Fault α} {a : α} (h : (ofFault r).run s = (.ok a, s')) :
    r = .ok a ∧ s' = s := by
  cases r with
  | ok b =>
    obtain ⟨hresult, hs⟩ := Prod.mk.inj h
    exact ⟨congrArg _ (Except.ok.inj hresult), hs.symm⟩
  | error e => cases h

theorem run_showItems (screen : Screen) (items : List Item) (s : Transcript) :
    (showItems screen items).run s =
      (Trouble.ofFault (screen.take items).2, s.display (screen.take items).1) := by
  show (ofFault (screen.take items).2).run (s.display (screen.take items).1) = _
  cases (screen.take items).2 <;> rfl

theorem run_showItems_eq_ok {screen : Screen} {items : List Item} {u : Unit}
    (h : (showItems screen items).run s = (.ok u, s')) : s' = s.display items := by
  rw [run_showItems] at h
  obtain ⟨hresult, hs⟩ := Prod.mk.inj h
  have htakes := Screen.take_eq_ok_iff.1 (mapError_eq_ok_iff.1 hresult)
  rw [← hs, Screen.take_of_takes htakes]

/-- The step gives the result, whatever was shown and logged before it. -/
def Yields (x : Step α) (r : Except (Trouble CommandError) α) : Prop :=
  ∀ s, (x.run s).1 = r

theorem yields_pure (a : α) : Yields (pure a) (.ok a) := fun _ => rfl

theorem Yields.bind (h : x.Yields r) {f : α → Step β} {g : α → Except (Trouble CommandError) β}
    (hf : ∀ a, (f a).Yields (g a)) : Yields (x >>= f) (r >>= g) := by
  intro s
  have hx := h s
  rw [run_bind]
  cases hrun : x.run s with
  | mk result between =>
    rw [hrun] at hx
    obtain rfl : result = r := hx
    cases result with
    | ok a => exact hf a between
    | error e => rfl

theorem yields_logged (f : ε → CommandError) (r : Except (Trouble ε) α × Log) :
    (logged f r).Yields (Trouble.widen f r.1) := by
  obtain ⟨result, log⟩ := r
  cases result <;> exact fun _ => rfl

theorem yields_ofFault (r : Except Fault α) : (ofFault r).Yields (Trouble.ofFault r) := by
  cases r <;> exact fun _ => rfl

theorem yields_showItems (screen : Screen) (items : List Item) :
    (showItems screen items).Yields (Trouble.ofFault (screen.take items).2) := fun s => by
  rw [run_showItems]

/-- The step does on a screen what another does on the lenient one, if the screen takes all that is
shown there. -/
def Follows (screen : Screen) (x y : Step α) : Prop :=
  ∀ s, ∃ items, (y.run s).2.shown = s.shown ++ items ∧ (screen.Takes items → x.run s = y.run s)

variable {screen : Screen}

/-- A step that shows nothing is the same on every screen. -/
theorem follows_self (h : ∀ s, (x.run s).2.shown = s.shown) : Follows screen x x :=
  fun s => ⟨[], by rw [h, List.append_nil], fun _ => rfl⟩

theorem follows_pure (a : α) : Follows screen (pure a) (pure a) :=
  follows_self fun _ => rfl

theorem follows_logged (f : ε → CommandError) (r : Except (Trouble ε) α × Log) :
    Follows screen (logged f r) (logged f r) := by
  obtain ⟨result, log⟩ := r
  cases result <;> exact follows_self fun _ => rfl

theorem follows_ofFault (r : Except Fault α) : Follows screen (ofFault r) (ofFault r) := by
  cases r <;> exact follows_self fun _ => rfl

theorem follows_showItems (items : List Item) :
    Follows screen (showItems screen items) (showItems .lenient items) := by
  intro s
  rw [run_showItems .lenient, Screen.take_of_takes (Screen.lenient_takes items)]
  exact ⟨items, rfl, fun htakes => by rw [run_showItems, Screen.take_of_takes htakes]⟩

theorem Follows.bind (h : Follows screen x y) {f g : α → Step β}
    (hf : ∀ a, Follows screen (f a) (g a)) : Follows screen (x >>= f) (y >>= g) := by
  intro s
  obtain ⟨items, hshown, hsame⟩ := h s
  rw [run_bind, run_bind]
  cases hrun : y.run s with
  | mk result between =>
    rw [hrun] at hshown hsame
    cases result with
    | error e => exact ⟨items, hshown, fun htakes => by rw [hsame htakes]⟩
    | ok a =>
      obtain ⟨more, hmore, hsame'⟩ := hf a between
      refine ⟨items ++ more, ?_, fun htakes => ?_⟩
      · rw [← List.append_assoc, ← hshown, ← hmore]
      · obtain ⟨hitems, hrest⟩ := Screen.takes_append.1 htakes
        rw [hsame hitems]
        exact hsame' hrest

end Step

/-! ## Outcomes -/

namespace Outcome

variable {screen : Screen} {items : List Item}

@[simp] theorem exit_showing (o : Outcome) (screen : Screen) (items : List Item) :
    (o.showing screen items).exit = (screen.take items).2 >>= fun _ => o.exit := rfl

@[simp] theorem tree_showing (o : Outcome) (screen : Screen) (items : List Item) :
    (o.showing screen items).tree = o.tree := rfl

theorem showing_of_takes (h : screen.Takes items) (o : Outcome) : o.showing screen items =
    { o with transcript := o.transcript.display items } := by
  rw [showing, Screen.take_of_takes h]
  rfl

/-- An outcome with more items shown, on a screen that takes them. -/
theorem follows_showing (screen : Screen) (o : Outcome) (items : List Item) : ∃ more,
    (o.showing .lenient items).transcript.shown = o.transcript.shown ++ more ∧
      (screen.Takes more → o.showing screen items = o.showing .lenient items) := by
  rw [showing_of_takes (Screen.lenient_takes items)]
  exact ⟨items, rfl, fun htakes => showing_of_takes htakes o⟩

theorem follows_ofTrouble (screen : Screen) (transcript : Transcript) (tree : FileTree)
    (e : Trouble CommandError) : ∃ more,
    (ofTrouble .lenient transcript tree e).transcript.shown = transcript.shown ++ more ∧
      (screen.Takes more →
        ofTrouble screen transcript tree e = ofTrouble .lenient transcript tree e) := by
  cases e with
  | cause e => exact follows_showing screen _ _
  | fault f => exact ⟨[], (List.append_nil _).symm, fun _ => rfl⟩

end Outcome

namespace GenerateRequest

variable {around : Surroundings}

theorem follows_prepare (q : GenerateRequest) (around : Surroundings) :
    Step.Follows around.screen (q.prepare around)
      (q.prepare { around with screen := .lenient }) := by
  have hread : Step.Follows around.screen (q.read around)
      (q.read { around with screen := .lenient }) := by
    refine (Step.follows_logged _ _).bind fun language => ?_
    refine (Step.follows_logged _ _).bind fun config => ?_
    refine (Step.follows_ofFault _).bind fun warnings => ?_
    refine (Step.follows_showItems _).bind fun _ => ?_
    refine (Step.follows_logged _ _).bind fun (source, model) => ?_
    refine (Step.follows_showItems _).bind fun _ => ?_
    refine (Step.follows_logged _ _).bind fun generator => ?_
    exact Step.follows_pure _
  refine hread.bind fun (model, generator, config) => ?_
  exact (Step.follows_ofFault _).bind fun target => Step.follows_pure _

theorem follows_complete (q : GenerateRequest) (screen : Screen) (transcript : Transcript)
    (tree : FileTree) (prepared : Model × Generator × Target) : ∃ more,
    (q.complete .lenient transcript tree prepared).transcript.shown = transcript.shown ++ more ∧
      (screen.Takes more → q.complete screen transcript tree prepared =
        q.complete .lenient transcript tree prepared) := by
  unfold complete
  cases generate transcript tree prepared with
  | mk after result =>
    match result with
    | .error e => exact Outcome.follows_ofTrouble screen _ _ _
    | .ok (.failed e) => exact Outcome.follows_showing screen _ _
    | .ok (.done files warnings metadata) => exact Outcome.follows_showing screen _ _

/-- A screen that takes all that a generation shows makes no difference to it. -/
theorem run_of_takes {q : GenerateRequest}
    (h : around.screen.Takes (q.run { around with screen := .lenient }).transcript.shown) :
    q.run around = q.run { around with screen := .lenient } := by
  obtain ⟨items, hshown, hsame⟩ := q.follows_prepare around {}
  replace hshown : ((q.prepare { around with screen := .lenient }).run {}).2.shown = items := hshown
  unfold run at h ⊢
  cases hrun : (q.prepare { around with screen := .lenient }).run {} with
  | mk result transcript =>
    rw [hrun] at h hshown hsame
    cases result with
    | error e =>
      obtain ⟨more, hmore, hsame'⟩ :=
        Outcome.follows_ofTrouble around.screen transcript around.tree e
      rw [hmore, Screen.takes_append, hshown] at h
      rw [hsame h.1]
      exact hsame' h.2
    | ok prepared =>
      obtain ⟨more, hmore, hsame'⟩ :=
        q.follows_complete around.screen transcript around.tree prepared
      rw [hmore, Screen.takes_append, hshown] at h
      rw [hsame h.1]
      exact hsame' h.2

end GenerateRequest

/-- A screen that takes all that a subcommand shows makes no difference to it. -/
theorem Subcommand.run_of_takes {around : Surroundings} {c : Subcommand}
    (h : around.screen.Takes (c.run { around with screen := .lenient }).transcript.shown) :
    c.run around = c.run { around with screen := .lenient } := by
  cases c with
  | generate q => exact GenerateRequest.run_of_takes h
  | languages =>
    simp only [run, runLanguages] at h ⊢
    cases hlanguages : around.registry.describeAll with
    | ok languages =>
      simp only [hlanguages] at h ⊢
      obtain ⟨more, hmore, hsame⟩ := Outcome.follows_showing around.screen
        { exit := .ok 0, tree := around.tree } (languagesShown languages)
      rw [hmore] at h
      exact hsame (Screen.takes_append.1 h).2
    | error e =>
      simp only [hlanguages] at h ⊢
      obtain ⟨more, hmore, hsame⟩ := Outcome.follows_ofTrouble around.screen {} around.tree
        (e.map .registry)
      rw [hmore] at h
      exact hsame (Screen.takes_append.1 h).2

end DtoPress.CommandLine
