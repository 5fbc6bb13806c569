import DtoPress.Proofs.Fitting
import DtoPress.Proofs.Reloading

/-!
# Configurations built in place

A manager of configurations that keeps its defaults as objects and builds in place could hand out
what it keeps : whatever a call then merges would be there for the calls after it. Here a manager
has a `Memory` of objects under addresses, and an object `custom` is a reference from the settings
that it belongs to, so that two settings can share one. `Config.Manager.loadConfig` copies the
defaults of a language, the settings and the object `custom` inside them, and merges the layers into
the copies with writes to the memory.

`Memory.Kept` says that all objects of a memory are as they were, and `Memory.Follows` that a
program answers as a computation without a memory does and keeps the objects that it did not make.
Programs that follow can be put in sequence (`Memory.Follows.bind`), so what a call does
(`Config.Manager.follows_loadConfig`) comes from one lemma for each operation, and with it
`Config.Manager.answers_eq` : after whatever calls, and however they ended, a call is answered as by
`loadConfig`.
-/

set_option linter.unusedSectionVars false

namespace DtoPress

/-! ## Memories -/

/-- What stands under a key of stored settings : a value, or a reference to a stored object. -/
inductive Slot where
  | value (v : Value)
  | stored (address : Nat)

/-- Settings and objects `custom` by address. -/
structure Memory where
  settings : List (Entries Text Slot) := []
  objects : List (Entries Text Value) := []

namespace Memory

variable {start m after : Memory} {slots : Entries Text Slot} {k : Text} {s : Slot}

/-- The settings at an address. -/
def settingsAt (m : Memory) (address : Nat) : Entries Text Slot :=
  m.settings[address]?.getD []

/-- The object at an address. -/
def objectAt (m : Memory) (address : Nat) : Entries Text Value :=
  m.objects[address]?.getD []

/-- What is seen in a slot. -/
def see (m : Memory) : Slot → Value
  | .value v => v
  | .stored address => .object (m.objectAt address)

/-- What is seen in settings. -/
def seen (m : Memory) (slots : Entries Text Slot) : Entries Text Value :=
  slots.map fun s => (s.1, m.see s.2)

theorem get?_seen (m : Memory) (k : Text) : ∀ slots : Entries Text Slot,
    Entries.get? (m.seen slots) k = (Entries.get? slots k).map m.see
  | [] => rfl
  | (l, s) :: slots => by
    show Entries.get? ((l, m.see s) :: m.seen slots) k = _
    rw [Entries.get?, Entries.get?, get?_seen m k slots]
    split <;> rfl

theorem seen_put (m : Memory) (k : Text) (s : Slot) : ∀ slots : Entries Text Slot,
    m.seen (Entries.put slots k s) = Entries.put (m.seen slots) k (m.see s)
  | [] => rfl
  | (l, t) :: slots => by
    show m.seen (Entries.put ((l, t) :: slots) k s) = Entries.put ((l, m.see t) :: m.seen slots) k _
    rw [Entries.put, Entries.put]
    split
    · rfl
    · exact congrArg ((l, m.see t) :: ·) (seen_put m k s slots)

/-- All objects are there as they were. -/
structure Kept (start m : Memory) : Prop where
  settings : start.settings <+: m.settings
  objects : start.objects <+: m.objects

theorem Kept.refl (m : Memory) : m.Kept m :=
  ⟨List.prefix_rfl, List.prefix_rfl⟩

theorem Kept.trans (h : start.Kept m) (h' : m.Kept after) : start.Kept after :=
  ⟨h.settings.trans h'.settings, h.objects.trans h'.objects⟩

/-- The references among settings are to objects that are there. -/
def Bounded (m : Memory) (slots : Entries Text Slot) : Prop :=
  ∀ k address, (k, Slot.stored address) ∈ slots → address < m.objects.length

theorem Kept.settingsAt_eq (h : start.Kept m) {address : Nat}
    (hbound : address < start.settings.length) :
    m.settingsAt address = start.settingsAt address := by
  obtain ⟨rest, hrest⟩ := h.settings
  rw [settingsAt, settingsAt, ← hrest, List.getElem?_append_left hbound]

/-- Settings are seen as they were if nothing was changed. -/
theorem Kept.seen_eq (h : start.Kept m) (hslots : start.Bounded slots) :
    m.seen slots = start.seen slots := by
  refine List.map_congr_left fun ⟨k, s⟩ hmem => ?_
  cases s with
  | value v => rfl
  | stored address =>
    obtain ⟨rest, hrest⟩ := h.objects
    rw [see, see, objectAt, objectAt, ← hrest, List.getElem?_append_left (hslots k address hmem)]

/-! ## Operations -/

variable {base a : Nat} {fields : Entries Text Value}

/-- Settings at a new address. -/
def addSettings (m : Memory) (slots : Entries Text Slot) : Memory :=
  { m with settings := m.settings ++ [slots] }

/-- An object at a new address. -/
def addObject (m : Memory) (fields : Entries Text Value) : Memory :=
  { m with objects := m.objects ++ [fields] }

/-- Other settings at an address. -/
def setSettings (m : Memory) (address : Nat) (slots : Entries Text Slot) : Memory :=
  { m with settings := m.settings.set address slots }

/-- Another object at an address. -/
def setObject (m : Memory) (address : Nat) (fields : Entries Text Value) : Memory :=
  { m with objects := m.objects.set address fields }

theorem Kept.addSettings (h : start.Kept m) (slots : Entries Text Slot) :
    start.Kept (m.addSettings slots) :=
  ⟨h.settings.trans (List.prefix_append _ _), h.objects⟩

theorem Kept.addObject (h : start.Kept m) (fields : Entries Text Value) :
    start.Kept (m.addObject fields) :=
  ⟨h.settings, h.objects.trans (List.prefix_append _ _)⟩

theorem prefix_set {α : Type} {l l' : List α} (h : l <+: l') {i : Nat} (hi : l.length ≤ i) (x : α) :
    l <+: l'.set i x := by
  obtain ⟨rest, rfl⟩ := h
  rw [List.set_append_right i x hi]
  exact List.prefix_append _ _

/-- What was made since the start can be changed. -/
theorem Kept.setSettings (h : start.Kept m) (hbase : start.settings.length ≤ base)
    (slots : Entries Text Slot) : start.Kept (m.setSettings base slots) :=
  ⟨prefix_set h.settings hbase slots, h.objects⟩

theorem Kept.setObject (h : start.Kept m) (ha : start.objects.length ≤ a)
    (fields : Entries Text Value) : start.Kept (m.setObject a fields) :=
  ⟨h.settings, prefix_set h.objects ha fields⟩

theorem settingsAt_addSettings (m : Memory) (slots : Entries Text Slot) :
    (m.addSettings slots).settingsAt m.settings.length = slots := by
  simp [settingsAt, addSettings]

theorem settingsAt_setSettings (hbase : base < m.settings.length) (slots : Entries Text Slot) :
    (m.setSettings base slots).settingsAt base = slots := by
  simp [settingsAt, setSettings, hbase]

theorem objectAt_addObject (m : Memory) (fields : Entries Text Value) :
    (m.addObject fields).objectAt m.objects.length = fields := by
  simp [objectAt, addObject]

theorem seen_addObject (hslots : m.Bounded slots) (fields : Entries Text Value) :
    (m.addObject fields).seen slots = m.seen slots :=
  ((Kept.refl m).addObject fields).seen_eq hslots

theorem see_setObject_of_ne (fields : Entries Text Value) (h : ∀ b, s ≠ .stored b) :
    (m.setObject a fields).see s = m.see s := by
  cases s with
  | value v => rfl
  | stored b => exact absurd rfl (h b)

/-- A change of an object is not seen in settings that refer to none. -/
theorem seen_setObject_of_not_mem (fields : Entries Text Value)
    (h : ∀ slot ∈ slots, ∀ b, slot.2 ≠ .stored b) :
    (m.setObject a fields).seen slots = m.seen slots :=
  List.map_congr_left fun slot hslot =>
    congrArg (Prod.mk slot.1) (see_setObject_of_ne fields (h slot hslot))

/-- A change of the one object that settings refer to is seen as a change of the setting. -/
theorem seen_setObject (ha : a < m.objects.length) (fields : Entries Text Value)
    (hnodup : (Entries.keys slots).Nodup) (hget : Entries.get? slots k = some (.stored a))
    (hown : ∀ slot ∈ slots, ∀ b, slot.2 = .stored b → slot.1 = k) :
    (m.setObject a fields).seen slots = Entries.put (m.seen slots) k (.object fields) := by
  induction slots with
  | nil => cases hget
  | cons slot slots ih =>
    obtain ⟨l, s⟩ := slot
    obtain ⟨hl, hnodup⟩ := List.nodup_cons.1 hnodup
    obtain ⟨hslot, hslots⟩ := List.forall_mem_cons.1 hown
    show (l, (m.setObject a fields).see s) :: (m.setObject a fields).seen slots =
      Entries.put ((l, m.see s) :: m.seen slots) k _
    rw [Entries.get?] at hget
    rw [Entries.put]
    by_cases hlk : l = k
    · subst hlk
      rw [if_pos (beq_self_eq_true l)] at hget ⊢
      obtain rfl := Option.some.inj hget
      have hset : (m.setObject a fields).objectAt a = fields := by
        simp [objectAt, setObject, ha]
      have hrest : ∀ slot ∈ slots, ∀ b, slot.2 ≠ .stored b := by
        intro slot hslot b hb
        have hkey : slot.1 ∈ Entries.keys slots := List.mem_map_of_mem hslot
        rw [hslots slot hslot b hb] at hkey
        exact hl hkey
      rw [see, hset, seen_setObject_of_not_mem fields hrest]
    · rw [if_neg (by simpa using hlk)] at hget ⊢
      rw [see_setObject_of_ne fields fun b hb => hlk (hslot b hb), ih hnodup hget hslots]

end Memory

/-! ## Programs -/

namespace Memory

variable {α β γ δ : Type} {start m : Memory}

/-- A program on a memory. What it has written by the time it fails stays written. -/
abbrev Program := ExceptT (Trouble ConfigError) (StateM Memory)

/-- A computation that needs no memory. -/
def Program.pureOf (r : Except (Trouble ConfigError) α) : Program α :=
  ExceptT.mk (pure r)

/-- Run from a memory, the program answers as the computation does, up to a relation between
answers, and keeps all that was there at the start. -/
def Follows (start m : Memory) (x : Program α) (r : Except (Trouble ConfigError) β)
    (R : Memory → α → β → Prop) : Prop :=
  start.Kept (x.run.run m).2 ∧ Matches (R (x.run.run m).2) (x.run.run m).1 r

/-- Programs that follow can be put in sequence. -/
theorem Follows.bind {x : Program α} {r : Except (Trouble ConfigError) β}
    {f : α → Program γ} {g : β → Except (Trouble ConfigError) δ} {R : Memory → α → β → Prop}
    {S : Memory → γ → δ → Prop} (h : Follows start m x r R)
    (hnext : ∀ after a b, start.Kept after → R after a b → Follows start after (f a) (g b) S) :
    Follows start m (x >>= f) (r >>= g) S := by
  rw [Follows, run_run_bind]
  obtain ⟨hkept, hanswer⟩ := h
  revert hkept hanswer
  generalize x.run.run m = ran
  obtain ⟨answer, after⟩ := ran
  cases answer with
  | error trouble =>
    cases r with
    | error trouble' => exact fun hkept heq => ⟨hkept, heq⟩
    | ok b => exact fun _ hfalse => hfalse.elim
  | ok a =>
    cases r with
    | error trouble' => exact fun _ hfalse => hfalse.elim
    | ok b => exact fun hkept hrel => hnext after a b hkept hrel

theorem Follows.mono {x : Program α} {r : Except (Trouble ConfigError) β}
    {R S : Memory → α → β → Prop} (h : Follows start m x r R)
    (himp : ∀ after a b, R after a b → S after a b) : Follows start m x r S :=
  ⟨h.1, h.2.mono (himp _)⟩

theorem follows_pureOf (h : start.Kept m) (r : Except (Trouble ConfigError) α) :
    Follows start m (.pureOf r) r fun after a b => after = m ∧ a = b := by
  cases r with
  | error trouble => exact ⟨h, rfl⟩
  | ok a => exact ⟨h, rfl, rfl⟩

end Memory

/-! ## A manager -/

namespace Config.Manager

open Memory

variable {start m : Memory} {base : Nat} {defaults : Entries Text Nat} {language : Text}
  {settings below layer : Entries Text Value}

/-- A call for a configuration : the files that are there, the name of the language, overrides, and
the name of a configuration file. -/
structure Call where
  tree : FileTree
  language : Value
  overrides : Value
  file : Value

/-- The answer to a call where nothing is kept. -/
def Call.answer (call : Call) : Except (Trouble ConfigError) Config :=
  (DtoPress.loadConfig call.tree call.language call.overrides call.file).1

/-- The settings kept for a language, if any are. -/
def kept (defaults : Entries Text Nat) (m : Memory) (language : Text) : Entries Text Slot :=
  ((Entries.get? defaults language).map m.settingsAt).getD []

/-- A copy of the settings kept for a language, with an object `custom` of its own. -/
def copied (defaults : Entries Text Nat) (language : Text) : Program Nat := do
  let slots := kept defaults (← get) language
  let custom := customOf ((← get).seen slots)
  let address := (← get).objects.length
  modify (·.addObject custom)
  let base := (← get).settings.length
  modify (·.addSettings (Entries.put slots customName (.stored address)))
  return base

/-- Fields written into the object `custom` of settings, which is made if there is none. -/
def updateCustom (base : Nat) (more : Entries Text Value) : Program Unit := do
  let slots := (← get).settingsAt base
  match Entries.get? slots customName with
  | some (.stored address) =>
    modify fun m => m.setObject address (Entries.putAll (m.objectAt address) more)
  | some (.value _) => throw (.fault .noAttribute)
  | none =>
    let address := (← get).objects.length
    modify (·.addObject (Entries.putAll [] more))
    modify (·.setSettings base (Entries.put slots customName (.stored address)))

/-- One setting of a layer written into settings. -/
def overlayAt (base : Nat) (setting : Text × Value) : Program Unit :=
  match setting.1 == customName, setting.2 with
  | true, .object more => updateCustom base more
  | _, v => modify fun m =>
    m.setSettings base (Entries.put (m.settingsAt base) setting.1 (.value v))

/-- A layer written into settings. -/
def mergeAt (base : Nat) : Entries Text Value → Program Unit
  | [] => return
  | setting :: layer => do
    overlayAt base setting
    mergeAt base layer

/-- The configuration for a call, built in a copy of the settings kept for the language. -/
def loadConfig (defaults : Entries Text Nat) (call : Call) : Program Config := do
  let key ← .pureOf (Trouble.ofFault (languageKey call.language))
  let base ← copied defaults key
  let file ← .pureOf (fileLayer call.tree call.file)
  mergeAt base file.1
  let overrides ← .pureOf (Trouble.ofFault (layerOf call.overrides))
  mergeAt base overrides
  let m ← get
  .pureOf (Trouble.ofFault (ofMerged (m.seen (m.settingsAt base))))

/-- The answers to calls, one after the other on one memory. -/
def answers (defaults : Entries Text Nat) :
    List Call → Memory → List (Except (Trouble ConfigError) Config)
  | [], _ => []
  | call :: calls, m =>
    let ran := (loadConfig defaults call).run.run m
    ran.1 :: answers defaults calls ran.2

/-! ## What is kept -/

/-- The memory has the defaults of each language. -/
structure Holds (defaults : Entries Text Nat) (m : Memory) : Prop where
  bound : ∀ language address, Entries.get? defaults language = some address →
    address < m.settings.length
  bounded : ∀ language, m.Bounded (kept defaults m language)
  owned : ∀ language k address, Entries.get? (kept defaults m language) k = some (.stored address) →
    k = customName
  seen : ∀ language, Entries.put (m.seen (kept defaults m language)) customName
    (.object (customOf (m.seen (kept defaults m language)))) = defaultsFor language

theorem Holds.of_kept (h : Holds defaults start) (hkept : start.Kept m) : Holds defaults m := by
  have hsame (language : Text) : kept defaults m language = kept defaults start language := by
    unfold kept
    cases hget : Entries.get? defaults language with
    | none => rfl
    | some address => exact hkept.settingsAt_eq (h.bound language address hget)
  have hseen (language : Text) := hkept.seen_eq (h.bounded language)
  constructor
  · intro language address hget
    exact Nat.lt_of_lt_of_le (h.bound language address hget) hkept.settings.length_le
  · intro language k address hmem
    rw [hsame] at hmem
    exact Nat.lt_of_lt_of_le (h.bounded language k address hmem) hkept.objects.length_le
  · intro language
    rw [hsame]
    exact h.owned language
  · intro language
    rw [hsame, hseen]
    exact h.seen language

/-- Settings that a call builds : they were made since the start, they are the settings of
`Config.merge`, and so was the one object that they refer to. -/
structure Builds (start m : Memory) (base : Nat) (settings : Entries Text Value) : Prop where
  since : start.settings.length ≤ base
  bound : base < m.settings.length
  nodup : (Entries.keys (m.settingsAt base)).Nodup
  owned : ∀ k address, Entries.get? (m.settingsAt base) k = some (.stored address) →
    k = customName ∧ start.objects.length ≤ address ∧ address < m.objects.length
  plain : ∀ v, Entries.get? (m.settingsAt base) customName = some (.value v) → v.isObject = false
  seen : m.seen (m.settingsAt base) = settings

theorem Builds.bounded (h : Builds start m base below) : m.Bounded (m.settingsAt base) :=
  fun k address hmem => (h.owned k address (Entries.get?_of_mem h.nodup hmem)).2.2

theorem Builds.key_eq (h : Builds start m base below) :
    ∀ slot ∈ m.settingsAt base, ∀ b, slot.2 = .stored b → slot.1 = customName := by
  intro slot hslot b hb
  have hget : Entries.get? (m.settingsAt base) slot.1 = some (.stored b) :=
    hb ▸ Entries.get?_of_mem h.nodup hslot
  exact (h.owned slot.1 b hget).1

theorem Builds.get?_custom (h : Builds start m base below) : Entries.get? below customName =
    (Entries.get? (m.settingsAt base) customName).map m.see := by
  rw [← h.seen, get?_seen]

/-! ### One setting -/

section

variable {k : Text} {v : Value} {address : Nat} {more : Entries Text Value}

/-- A value put among settings, but for an object `custom`. -/
theorem Builds.put_value (h : Builds start m base below)
    (hv : k = customName → v.isObject = false) :
    Builds start (m.setSettings base (Entries.put (m.settingsAt base) k (.value v))) base
      (Entries.put below k v) := by
  have hat := settingsAt_setSettings h.bound (Entries.put (m.settingsAt base) k (.value v))
  constructor
  · exact h.since
  · rw [setSettings, List.length_set]
    exact h.bound
  · rw [hat]
    exact Entries.nodup_keys_put h.nodup _ _
  · intro l address hget
    rw [hat] at hget
    rcases Entries.of_get?_put hget with ⟨-, hnew⟩ | ⟨-, hold⟩
    · cases hnew
    · exact h.owned l address hold
  · intro w hget
    rw [hat] at hget
    rcases Entries.of_get?_put hget with ⟨hk, hnew⟩ | ⟨-, hold⟩
    · rw [Slot.value.inj hnew]
      exact hv hk.symm
    · exact h.plain w hold
  · rw [hat, seen_put, ← h.seen]
    rfl

/-- A change of the object `custom` that is there. -/
theorem Builds.setObject (h : Builds start m base below)
    (hget : Entries.get? (m.settingsAt base) customName = some (.stored address))
    (fields : Entries Text Value) : Builds start (m.setObject address fields) base
      (Entries.put below customName (.object fields)) := by
  have howned := h.owned customName address hget
  refine ⟨h.since, h.bound, h.nodup, fun l b hl => ?_, h.plain, ?_⟩
  · obtain ⟨hname, hsince, hbound⟩ := h.owned l b hl
    exact ⟨hname, hsince, by rwa [Memory.setObject, List.length_set]⟩
  · show (m.setObject address fields).seen (m.settingsAt base) = _
    rw [seen_setObject howned.2.2 fields h.nodup hget h.key_eq, h.seen]

/-- An object `custom` where none was. -/
theorem Builds.addObject (h : Builds start m base below) (hkept : start.Kept m)
    (fields : Entries Text Value) : Builds start
      ((m.addObject fields).setSettings base
        (Entries.put (m.settingsAt base) customName (.stored m.objects.length))) base
      (Entries.put below customName (.object fields)) := by
  have hat := settingsAt_setSettings (m := m.addObject fields) h.bound
    (Entries.put (m.settingsAt base) customName (.stored m.objects.length))
  have hlength : (m.addObject fields).objects.length = m.objects.length + 1 := by
    simp [Memory.addObject]
  constructor
  · exact h.since
  · rw [setSettings, List.length_set]
    exact h.bound
  · rw [hat]
    exact Entries.nodup_keys_put h.nodup _ _
  · intro l address hget
    show _ ∧ _ ∧ address < (m.addObject fields).objects.length
    rw [hat] at hget
    rcases Entries.of_get?_put hget with ⟨hname, hnew⟩ | ⟨-, hold⟩
    · obtain rfl := Slot.stored.inj hnew
      exact ⟨hname, hkept.objects.length_le, by omega⟩
    · obtain ⟨hname, hsince, hbound⟩ := h.owned l address hold
      exact ⟨hname, hsince, by omega⟩
  · intro w hget
    rw [hat, Entries.get?_put_self] at hget
    cases hget
  · rw [hat]
    show (m.addObject fields).seen _ = _
    rw [seen_put, seen_addObject h.bounded, h.seen, see, objectAt_addObject]

theorem overlay_value (hv : k = customName → v.isObject = false) :
    overlay below (k, v) = .ok (Entries.put below k v) := by
  unfold overlay
  by_cases hk : k = customName
  · cases v with
    | object fields => cases hv hk
    | _ => simp only [hk, beq_self_eq_true]
  · simp only [beq_eq_false_iff_ne.2 hk]

theorem run_overlayAt_value (hv : k = customName → v.isObject = false) (m : Memory) :
    (overlayAt base (k, v)).run.run m =
      (.ok (), m.setSettings base (Entries.put (m.settingsAt base) k (.value v))) := by
  unfold overlayAt
  by_cases hk : k = customName
  · cases v with
    | object fields => cases hv hk
    | _ =>
      simp only [hk, beq_self_eq_true]
      rfl
  · simp only [beq_eq_false_iff_ne.2 hk]
    rfl

theorem run_updateCustom (base : Nat) (more : Entries Text Value) (m : Memory) :
    (updateCustom base more).run.run m =
      match Entries.get? (m.settingsAt base) customName with
      | some (.stored address) =>
        (.ok (), m.setObject address (Entries.putAll (m.objectAt address) more))
      | some (.value _) => (.error (.fault .noAttribute), m)
      | none => (.ok (), (m.addObject (Entries.putAll [] more)).setSettings base
          (Entries.put (m.settingsAt base) customName (.stored m.objects.length))) := by
  have hrun : (updateCustom base more).run.run m =
      (match Entries.get? (m.settingsAt base) customName with
        | some (.stored address) =>
          modify fun m => m.setObject address (Entries.putAll (m.objectAt address) more)
        | some (.value _) => throw (.fault .noAttribute)
        | none => do
          let address := (← get).objects.length
          modify (·.addObject (Entries.putAll [] more))
          modify (·.setSettings base (Entries.put (m.settingsAt base) customName
            (.stored address))) : Program Unit).run.run m := rfl
  rw [hrun]
  cases Entries.get? (m.settingsAt base) customName with
  | none => rfl
  | some slot => cases slot <;> rfl

theorem follows_updateCustom (hkept : start.Kept m) (h : Builds start m base below) :
    Follows start m (updateCustom base more)
      (Trouble.ofFault (overlay below (customName, .object more)))
      fun after _ settings => Builds start after base settings := by
  unfold overlay
  simp only [beq_self_eq_true, h.get?_custom]
  rw [Follows, run_updateCustom]
  cases hget : Entries.get? (m.settingsAt base) customName with
  | none => exact ⟨(hkept.addObject _).setSettings h.since _, h.addObject hkept _⟩
  | some slot =>
    cases slot with
    | stored address => exact ⟨hkept.setObject (h.owned _ _ hget).2.1 _, h.setObject hget _⟩
    | value v =>
      have hplain := h.plain v hget
      cases v with
      | object fields => cases hplain
      | _ => exact ⟨hkept, rfl⟩

/-- A setting is put in place as `Config.overlay` puts it. -/
theorem follows_overlayAt (hkept : start.Kept m) (h : Builds start m base below)
    (setting : Text × Value) : Follows start m (overlayAt base setting)
      (Trouble.ofFault (overlay below setting))
      fun after _ settings => Builds start after base settings := by
  obtain ⟨k, v⟩ := setting
  by_cases hcustom : k = customName ∧ v.isObject = true
  · obtain ⟨rfl, hobject⟩ := hcustom
    obtain ⟨more, rfl⟩ := Value.isObject_iff.1 hobject
    exact follows_updateCustom hkept h
  · have hv : k = customName → v.isObject = false := fun hk =>
      Bool.eq_false_iff.2 fun hobject => hcustom ⟨hk, hobject⟩
    rw [Follows, run_overlayAt_value hv, overlay_value hv]
    exact ⟨hkept.setSettings h.since _, h.put_value hv⟩

end

/-! ### A whole call -/

theorem follows_mergeAt : ∀ {layer below : Entries Text Value} {m : Memory}, start.Kept m →
    Builds start m base below → Follows start m (mergeAt base layer)
      (Trouble.ofFault (merge below layer)) fun after _ settings => Builds start after base settings
  | [], _, _, hkept, h => ⟨hkept, h⟩
  | setting :: layer, below, m, hkept, h => by
    rw [merge, List.foldlM_cons, ofFault_bind]
    exact (follows_overlayAt hkept h setting).bind fun _ _ _ hkept' h' => follows_mergeAt hkept' h'

theorem keys_seen (m : Memory) (slots : Entries Text Slot) :
    Entries.keys (m.seen slots) = Entries.keys slots :=
  List.map_map

/-- The copy of the settings kept for a language is the defaults of the language. -/
theorem follows_copied (hm : Holds defaults m) (language : Text) :
    Follows m m (copied defaults language) (.ok (defaultsFor language))
      fun after base settings => Builds m after base settings := by
  have hdefaults := hm.seen language
  have hbounded := hm.bounded language
  have howned := hm.owned language
  have hrun : (copied defaults language).run.run m = (.ok m.settings.length,
      (m.addObject (customOf (m.seen (kept defaults m language)))).addSettings
        (Entries.put (kept defaults m language) customName (.stored m.objects.length))) := rfl
  rw [Follows, hrun]
  generalize kept defaults m language = slots at *
  generalize hcustom : customOf (m.seen slots) = custom at *
  have hat := settingsAt_addSettings (m.addObject custom)
    (Entries.put slots customName (.stored m.objects.length))
  have hseen : (m.addObject custom).seen
      (Entries.put slots customName (.stored m.objects.length)) = defaultsFor language := by
    rw [seen_put, seen_addObject hbounded, see, objectAt_addObject, hdefaults]
  have hlength : (m.addObject custom).objects.length = m.objects.length + 1 := by
    simp [Memory.addObject]
  refine ⟨((Kept.refl m).addObject custom).addSettings _, ?_⟩
  constructor
  · exact Nat.le_refl _
  · simp [Memory.addSettings, Memory.addObject]
  · show (Entries.keys (Memory.settingsAt _ (m.addObject custom).settings.length)).Nodup
    rw [hat, ← keys_seen (m.addObject custom), hseen]
    exact nodup_defaultsFor language
  · intro k address hget
    replace hget : Entries.get? (Memory.settingsAt _ (m.addObject custom).settings.length) k =
      some (.stored address) := hget
    show _ ∧ _ ∧ address < (m.addObject custom).objects.length
    rw [hat] at hget
    rcases Entries.of_get?_put hget with ⟨hname, hnew⟩ | ⟨hother, hold⟩
    · obtain rfl := Slot.stored.inj hnew
      exact ⟨hname, Nat.le_refl _, by omega⟩
    · exact absurd (howned k address hold) hother
  · intro v hget
    replace hget : Entries.get? (Memory.settingsAt _ (m.addObject custom).settings.length)
      customName = some (.value v) := hget
    rw [hat, Entries.get?_put_self] at hget
    cases hget
  · show Memory.seen _ (Memory.settingsAt _ (m.addObject custom).settings.length) = _
    rw [hat]
    exact hseen

/-- An answer step by step, as it is built in place. -/
theorem answer_eq (call : Call) : call.answer = (do
    let key ← Trouble.ofFault (languageKey call.language)
    let defaults ← .ok (defaultsFor key)
    let file ← fileLayer call.tree call.file
    let below ← Trouble.ofFault (merge defaults file.1)
    let overrides ← Trouble.ofFault (layerOf call.overrides)
    let settings ← Trouble.ofFault (merge below overrides)
    Trouble.ofFault (ofMerged settings)) := by
  unfold Call.answer DtoPress.loadConfig
  cases Trouble.ofFault (languageKey call.language) with
  | error trouble => rfl
  | ok key =>
    cases fileLayer call.tree call.file with
    | error trouble => rfl
    | ok file =>
      show Trouble.ofFault (layered key file.1 call.overrides) = _
      simp only [layered, ofFault_bind, bind_ok]

/-- Built in place, a configuration is the one that is built without a memory, and all that was
there stays as it was. -/
theorem follows_loadConfig (hm : Holds defaults m) (call : Call) :
    Follows m m (loadConfig defaults call) call.answer fun _ c d => c = d := by
  rw [answer_eq]
  refine (follows_pureOf (.refl m) _).bind ?_
  rintro _ key _ _ ⟨rfl, rfl⟩
  refine (follows_copied hm key).bind fun _ base _ hkept hcopied => ?_
  refine (follows_pureOf hkept _).bind ?_
  rintro _ file _ _ ⟨rfl, rfl⟩
  refine (follows_mergeAt hkept hcopied).bind fun _ _ _ hkept hfile => ?_
  refine (follows_pureOf hkept _).bind ?_
  rintro _ overrides _ _ ⟨rfl, rfl⟩
  refine (follows_mergeAt hkept hfile).bind fun after _ settings hkept hbuilt => ?_
  rw [← hbuilt.seen]
  exact (follows_pureOf hkept (Trouble.ofFault
    (ofMerged (after.seen (after.settingsAt base))))).mono fun _ _ _ h => h.2

/-- Whatever calls came before, and however they ended, a call is answered as on its own. -/
theorem answers_eq : ∀ {calls : List Call} {m : Memory}, Holds defaults m →
    answers defaults calls m = calls.map Call.answer
  | [], _, _ => rfl
  | call :: calls, m, h => by
    obtain ⟨hkept, hanswer⟩ := follows_loadConfig h call
    rw [answers, List.map_cons, answers_eq (h.of_kept hkept)]
    refine congrArg (· :: _) ?_
    generalize ((loadConfig defaults call).run.run m).1 = ran at hanswer ⊢
    generalize call.answer = answer at hanswer ⊢
    match ran, answer, hanswer with
    | .ok _, .ok _, h => exact congrArg _ h
    | .error _, .error _, h => exact congrArg _ h

/-! ## The manager as it starts -/

/-- The one language with settings of its own is under the first address. -/
def defaultsAt : Entries Text Nat := languagesWithDefaults.map (·, 0)

/-- The memory of a manager to which no call has been made. -/
def atStart : Memory where
  settings := [typescriptDefaults.map fun s =>
    if s.1 = customName then (s.1, .stored 0) else (s.1, .value s.2)]
  objects := [customOf typescriptDefaults]

theorem kept_atStart (language : Text) : kept defaultsAt atStart language =
    if language = "typescript" then atStart.settingsAt 0 else [] := by
  have hget : Entries.get? defaultsAt language =
      if ("typescript" : Text) == language then some 0 else none := rfl
  unfold kept
  rw [hget]
  by_cases hlanguage : language = "typescript"
  · rw [if_pos hlanguage, if_pos (by simp [hlanguage])]
    rfl
  · rw [if_neg hlanguage, if_neg (by simpa using Ne.symm hlanguage)]
    rfl

theorem holds_atStart : Holds defaultsAt atStart := by
  have hstored : ∀ slot ∈ atStart.settingsAt 0, ∀ address, slot.2 = .stored address →
      slot.1 = customName ∧ address = 0 := by
    intro slot hslot address haddress
    obtain ⟨setting, -, rfl⟩ := List.mem_map.1 hslot
    split at haddress
    next hname => exact ⟨by rw [if_pos hname]; exact hname, (Slot.stored.inj haddress).symm⟩
    · cases haddress
  constructor
  · intro language address hget
    have hzero : address = 0 := by
      have hmem := Entries.mem_of_get? hget
      simp only [defaultsAt, languagesWithDefaults, List.map_cons, List.map_nil,
        List.mem_singleton, Prod.mk.injEq] at hmem
      exact hmem.2
    rw [hzero]
    exact Nat.one_pos
  · intro language k address hmem
    rw [kept_atStart] at hmem
    split at hmem
    · rw [(hstored _ hmem address rfl).2]
      exact Nat.one_pos
    · cases hmem
  · intro language k address hget
    rw [kept_atStart] at hget
    split at hget
    · exact (hstored _ (Entries.mem_of_get? hget) address rfl).1
    · cases hget
  · intro language
    rw [kept_atStart, defaultsFor]
    split <;> rfl

end Config.Manager

end DtoPress
