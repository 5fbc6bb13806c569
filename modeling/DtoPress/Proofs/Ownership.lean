import DtoPress.Proofs.Registrations
import DtoPress.Proofs.Sorting

/-!
# Names and their owners

A name in a registry is owned by the primary name of the entry that it leads to
(`Registry.owner?`). The registry can hold old entries of a language next to its new one, so what
registrations keep is said of owners : a name never changes its owner (`Registry.Keeps`), and a
primary name owns itself (`Registry.WellOwned.primary`). A registration that a name of another
language stands against is rejected, so an insertion keeps all owners (`Registry.keeps_insert`),
and both facts hold after every history.

`Registry.registerInPlace` is registration as a program that changes one registry : a loop checks
all names, then a loop writes them. A failure leaves the registry as it was found, whichever name
it is found at (`Registry.run_registerInPlace`). The languages are the primary names of the
accepted registrations (`Registry.mem_languages_afterAll`), and `Registry.ownership_afterAll` puts
all of this together for every history.
-/

set_option linter.unusedSectionVars false

namespace DtoPress

namespace Registry

variable {r r' : Registry} {e : LanguageEntry} {key name p : Text}

/-! ## Owners -/

/-- The language that a name belongs to. -/
def owner? (r : Registry) (key : Text) : Option Text :=
  (Entries.get? r.entries key).map LanguageEntry.name

theorem owner?_insert (r : Registry) (e : LanguageEntry) (key : Text) :
    (r.insert e).owner? key = if key ∈ e.names then some e.name else r.owner? key := by
  rw [owner?, get?_insert]
  split <;> rfl

theorem resolve_iff_owner? {language : Text} :
    r.resolve (.str language) = .ok p ↔ r.owner? (Text.lower language) = some p := by
  rw [resolve_eq_ok_iff, owner?, Option.map_eq_some_iff]
  simp only [entry_eq_ok_iff]

theorem isSupported_iff_owner? {language : Text} :
    r.isSupported (.str language) = .ok true ↔ ∃ p, r.owner? (Text.lower language) = some p := by
  have hsupported : r.isSupported (.str language) =
      .ok (Entries.get? r.entries (Text.lower language)).isSome := rfl
  rw [hsupported, owner?]
  cases Entries.get? r.entries (Text.lower language) <;> simp

theorem otherOwner?_eq_none_iff :
    r.otherOwner? name key = none ↔ ∀ p, r.owner? key = some p → p = name := by
  unfold otherOwner? owner?
  cases Entries.get? r.entries key with
  | none => simp
  | some e => simp

/-- There is no conflict where each name is new or belongs to the language already. -/
theorem conflict?_eq_none_iff :
    r.conflict? e = none ↔ ∀ key ∈ e.names, ∀ p, r.owner? key = some p → p = e.name := by
  simp only [conflict?, List.findSome?_eq_none_iff, Option.map_eq_none_iff,
    otherOwner?_eq_none_iff]

/-! ## Owners stay -/

/-- Each name that has an owner keeps it. -/
def Keeps (r r' : Registry) : Prop :=
  ∀ key p, r.owner? key = some p → r'.owner? key = some p

theorem Keeps.refl (r : Registry) : r.Keeps r := fun _ _ h => h

theorem Keeps.trans {r'' : Registry} (h : r.Keeps r') (h' : r'.Keeps r'') : r.Keeps r'' :=
  fun key p hp => h' key p (h key p hp)

theorem keeps_insert (h : r.conflict? e = none) : r.Keeps (r.insert e) := by
  intro key p hp
  rw [owner?_insert]
  split
  next hkey => rw [conflict?_eq_none_iff.1 h key hkey p hp]
  · exact hp

theorem keeps_attempt (r : Registry) (c : Registration) : r.Keeps (r.attempt c) := by
  rcases attempt_eq r c with hsame | ⟨e, hregister⟩
  · rw [hsame]
    exact .refl r
  · obtain ⟨-, -, -, hconflict, hafter⟩ := register_eq_ok hregister
    rw [hafter]
    exact keeps_insert hconflict

theorem keeps_afterAll : ∀ (calls : List Registration) (r : Registry), r.Keeps (r.afterAll calls)
  | [], r => .refl r
  | c :: calls, r => (keeps_attempt r c).trans (keeps_afterAll calls (r.attempt c))

/-! ## The invariant -/

/-- Names lead to entries that have them, primary names own themselves, and no name is kept
twice. -/
structure WellOwned (r : Registry) : Prop where
  owned : r.Owned
  primary : ∀ key p, r.owner? key = some p → r.owner? p = some p
  nodup : (Entries.keys r.entries).Nodup

theorem nodup_keys_insert (h : (Entries.keys r.entries).Nodup) (e : LanguageEntry) :
    (Entries.keys (r.insert e).entries).Nodup := by
  have hfold : ∀ (names : List Text) (entries : Entries Text LanguageEntry),
      (Entries.keys entries).Nodup →
      (Entries.keys (names.foldl (fun es n => Entries.put es n e) entries)).Nodup := by
    intro names
    induction names with
    | nil => exact fun _ h => h
    | cons n names ih => exact fun es h => ih _ (Entries.nodup_keys_put h n e)
  exact hfold e.names r.entries h

/-- The primary name of an entry is the first of its names. -/
theorem name_mem_names (e : LanguageEntry) : e.name ∈ e.names := List.mem_cons_self

theorem WellOwned.insert (h : r.WellOwned) (hconflict : r.conflict? e = none) :
    (r.insert e).WellOwned where
  owned := h.owned.insert e
  nodup := nodup_keys_insert h.nodup e
  primary := by
    intro key p hp
    rw [owner?_insert] at hp
    split at hp
    · obtain rfl : e.name = p := Option.some.inj hp
      rw [owner?_insert, if_pos (name_mem_names e)]
    · exact keeps_insert hconflict p p (h.primary key p hp)

theorem WellOwned.attempt (h : r.WellOwned) (c : Registration) : (r.attempt c).WellOwned := by
  rcases attempt_eq r c with hsame | ⟨e, hregister⟩
  · rwa [hsame]
  · obtain ⟨-, -, -, hconflict, hafter⟩ := register_eq_ok hregister
    rw [hafter]
    exact h.insert hconflict

theorem WellOwned.afterAll : ∀ {calls : List Registration} {r : Registry}, r.WellOwned →
    (r.afterAll calls).WellOwned
  | [], _, h => h
  | c :: _, _, h => (h.attempt c).afterAll

theorem wellOwned_empty : ({} : Registry).WellOwned where
  owned := owned_empty
  primary := fun _ _ h => by cases h
  nodup := List.nodup_nil

/-! ## Sorted languages -/

theorem mem_insertName : ∀ {names : List Text}, p ∈ insertName name names ↔ p = name ∨ p ∈ names
  | [] => by simp [insertName]
  | other :: names => by
    rw [insertName]
    split
    · simp
    · split
      next heq => simp [heq]
      · rw [List.mem_cons, mem_insertName, List.mem_cons, or_left_comm]

theorem pairwise_insertName : ∀ {names : List Text}, names.Pairwise (· < ·) →
    (insertName name names).Pairwise (· < ·)
  | [], _ => List.pairwise_singleton _ name
  | other :: names, h => by
    obtain ⟨hother, hnames⟩ := List.pairwise_cons.1 h
    rw [insertName]
    split
    next hlt =>
      refine List.pairwise_cons.2 ⟨fun p hp => ?_, h⟩
      rcases List.mem_cons.1 hp with rfl | hp
      · exact hlt
      · exact List.lt_trans hlt (hother p hp)
    next hnotLt =>
      split
      · exact h
      next hne =>
        refine List.pairwise_cons.2 ⟨fun p hp => ?_, pairwise_insertName hnames⟩
        rcases mem_insertName.1 hp with rfl | hp
        · exact Std.not_le.1 fun hle => hne (List.le_antisymm hle (List.not_lt.1 hnotLt))
        · exact hother p hp

theorem pairwise_languages (r : Registry) : r.languages.Pairwise (· < ·) := by
  rw [languages]
  induction r.entries with
  | nil => exact List.Pairwise.nil
  | cons e entries ih => exact pairwise_insertName ih

theorem mem_languages_iff_exists : p ∈ r.languages ↔ ∃ e ∈ r.entries, e.2.name = p := by
  rw [languages]
  induction r.entries with
  | nil => simp
  | cons e entries ih => simp [mem_insertName, ih, eq_comm]

/-- The languages are the owners of names. -/
theorem WellOwned.mem_languages_iff (h : r.WellOwned) :
    p ∈ r.languages ↔ ∃ key, r.owner? key = some p := by
  simp only [mem_languages_iff_exists, owner?, Option.map_eq_some_iff]
  constructor
  · rintro ⟨⟨key, e⟩, he, hp⟩
    exact ⟨key, e, Entries.get?_of_mem h.nodup he, hp⟩
  · rintro ⟨key, e, he, hp⟩
    exact ⟨(key, e), Entries.mem_of_get? he, hp⟩

/-- The entries that accepted calls make, in order. -/
def accepted (r : Registry) : List Registration → List LanguageEntry
  | [] => []
  | c :: calls =>
    match r.register c.name c.candidate c.aliases with
    | .ok (after, e) => e :: after.accepted calls
    | .error _ => r.accepted calls

theorem owner?_insert_iff (hconflict : r.conflict? e = none) :
    (∃ key, (r.insert e).owner? key = some p) ↔ e.name = p ∨ ∃ key, r.owner? key = some p := by
  constructor
  · rintro ⟨key, hp⟩
    rw [owner?_insert] at hp
    split at hp
    · exact .inl (Option.some.inj hp)
    · exact .inr ⟨key, hp⟩
  · rintro (rfl | ⟨key, hp⟩)
    · exact ⟨e.name, by rw [owner?_insert, if_pos (name_mem_names e)]⟩
    · exact ⟨key, keeps_insert hconflict key p hp⟩

/-- A history adds the primary names of the calls that it accepts, and no others. -/
theorem exists_owner?_afterAll (p : Text) : ∀ (calls : List Registration) (r : Registry),
    (∃ key, (r.afterAll calls).owner? key = some p) ↔
      (∃ key, r.owner? key = some p) ∨ ∃ e ∈ r.accepted calls, e.name = p
  | [], r => by simp [accepted, afterAll]
  | c :: calls, r => by
    have hnext := exists_owner?_afterAll p calls (r.attempt c)
    show (∃ key, ((r.attempt c).afterAll calls).owner? key = some p) ↔ _
    rw [hnext]
    cases hregister : r.register c.name c.candidate c.aliases with
    | error trouble => simp only [attempt, accepted, hregister]
    | ok made =>
      obtain ⟨after, e⟩ := made
      obtain ⟨-, -, -, hconflict, rfl⟩ := register_eq_ok hregister
      simp only [attempt, accepted, hregister, owner?_insert_iff hconflict,
        List.exists_mem_cons_iff, or_assoc, or_left_comm]

theorem mem_languages_afterAll (calls : List Registration) :
    p ∈ (({} : Registry).afterAll calls).languages ↔
      ∃ e ∈ ({} : Registry).accepted calls, e.name = p := by
  have hempty : ¬ ∃ key, ({} : Registry).owner? key = some p := fun ⟨_, h⟩ => by cases h
  rw [wellOwned_empty.afterAll.mem_languages_iff, exists_owner?_afterAll, or_iff_right hempty]

/-! ## Registration in place -/

/-- A program on one registry. What it has changed by the time it fails stays changed. -/
abbrev InPlace := ExceptT (Trouble RegistryError) (StateM Registry)

/-- Fail at the first of the names that another language owns. -/
def checkNames (e : LanguageEntry) : List Text → InPlace Unit
  | [] => pure ()
  | name :: names => do
    match (← get).otherOwner? e.name name with
    | some owner => throw (.cause (.nameTaken name owner))
    | none => checkNames e names

/-- Write an entry under the names, one after the other. -/
def writeNames (e : LanguageEntry) : List Text → InPlace Unit
  | [] => pure ()
  | name :: names => do
    modify fun r => { r with entries := Entries.put r.entries name e }
    writeNames e names

/-- Registration in place : all names are checked before any is written. -/
def registerInPlace (c : Registration) : InPlace LanguageEntry :=
  match c.candidate with
  | .generator g => do
    let e ← ExceptT.mk (pure (Trouble.ofFault (newEntry c.name g c.aliases)))
    checkNames e e.names
    writeNames e e.names
    return e
  | other => throw (.cause (.notGenerator other.written))

/-- The check fails at the first name that is taken, and changes nothing. -/
theorem run_checkNames (e : LanguageEntry) (r : Registry) : ∀ names : List Text,
    (checkNames e names).run.run r =
      (match names.findSome? fun name => (r.otherOwner? e.name name).map fun owner => (name, owner)
        with
        | some (name, owner) => .error (.cause (.nameTaken name owner))
        | none => .ok (), r)
  | [] => rfl
  | name :: names => by
    have hstep : (checkNames e (name :: names)).run.run r =
        (match r.otherOwner? e.name name with
          | some owner => throw (.cause (.nameTaken name owner))
          | none => checkNames e names : InPlace Unit).run.run r := rfl
    rw [hstep, List.findSome?_cons]
    cases r.otherOwner? e.name name with
    | some owner => rfl
    | none => exact run_checkNames e r names

theorem run_writeNames (e : LanguageEntry) : ∀ (names : List Text) (r : Registry),
    (writeNames e names).run.run r =
      (.ok (), { r with entries := names.foldl (fun es name => Entries.put es name e) r.entries })
  | [], _ => rfl
  | name :: names, r => run_writeNames e names { r with entries := Entries.put r.entries name e }

theorem register_of_newEntry {given aliases : Value} {g : GeneratorClass}
    (h : newEntry given g aliases = .ok e) :
    r.register given (.generator g) aliases =
      match r.conflict? e with
      | some (name, owner) => .error (.cause (.nameTaken name owner))
      | none => .ok (r.insert e, e) := by
  have hbind : r.register given (.generator g) aliases = (do
      match r.conflict? e with
      | some (name, owner) => throw (.cause (.nameTaken name owner))
      | none => return (r.insert e, e)) := by
    rw [register, h]
    rfl
  rw [hbind]
  cases r.conflict? e <;> rfl

theorem attempt_of_error {c : Registration} {trouble : Trouble RegistryError}
    (h : r.register c.name c.candidate c.aliases = .error trouble) : r.attempt c = r := by
  rw [attempt, h]

/-- Registration in place answers as registration does and leaves the registry after the call.
The one loop that can fail is the check, and it has written nothing. -/
theorem run_registerInPlace (r : Registry) (c : Registration) :
    (registerInPlace c).run.run r =
      ((r.register c.name c.candidate c.aliases).map Prod.snd, r.attempt c) := by
  obtain ⟨name, candidate, aliases⟩ := c
  cases candidate with
  | valueClass kind => rfl
  | value v => rfl
  | generator g =>
    have hprogram : registerInPlace ⟨name, .generator g, aliases⟩ =
        (ExceptT.mk (pure (Trouble.ofFault (newEntry name g aliases))) >>= fun e =>
          checkNames e e.names >>= fun _ => writeNames e e.names >>= fun _ => pure e) := rfl
    rw [hprogram, run_run_bind]
    cases hnew : newEntry name g aliases with
    | error fault =>
      have hregister : r.register name (.generator g) aliases = .error (.fault fault) := by
        rw [register, hnew]
        rfl
      simp only [attempt, hregister]
      rfl
    | ok e =>
      show (checkNames e e.names >>= fun _ =>
        writeNames e e.names >>= fun _ => pure e).run.run r = _
      rw [run_run_bind, run_checkNames]
      have hregister := register_of_newEntry (r := r) hnew
      rw [conflict?] at hregister
      simp only [attempt, hregister]
      cases e.names.findSome? _ with
      | some taken => rfl
      | none =>
        show (writeNames e e.names >>= fun _ => pure e).run.run r = _
        rw [run_run_bind, run_writeNames]
        rfl

/-- A call is rejected with a cause if what it registers is no generator, or if another language
owns one of the names. -/
theorem register_rejects_iff (r : Registry) (c : Registration) :
    (∃ cause, r.register c.name c.candidate c.aliases = .error (.cause cause)) ↔
      (∀ g, c.candidate ≠ .generator g) ∨
        ∃ g e, c.candidate = .generator g ∧ newEntry c.name g c.aliases = .ok e ∧
          ∃ key ∈ e.names, ∃ p, r.owner? key = some p ∧ p ≠ e.name := by
  obtain ⟨name, candidate, aliases⟩ := c
  cases candidate with
  | valueClass kind => exact iff_of_true ⟨_, rfl⟩ (.inl fun _ h => (by cases h))
  | value v => exact iff_of_true ⟨_, rfl⟩ (.inl fun _ h => (by cases h))
  | generator g =>
    cases hnew : newEntry name g aliases with
    | error fault =>
      have hregister : r.register name (.generator g) aliases = .error (.fault fault) := by
        rw [register, hnew]
        rfl
      simp [hregister, hnew]
    | ok e =>
      have htaken : (∃ key ∈ e.names, ∃ p, r.owner? key = some p ∧ p ≠ e.name) ↔
          r.conflict? e ≠ none := by
        rw [Ne, conflict?_eq_none_iff]
        simp only [not_forall, exists_prop]
      have hregister : (∃ cause, r.register name (.generator g) aliases = .error (.cause cause)) ↔
          r.conflict? e ≠ none := by
        rw [register_of_newEntry hnew]
        cases r.conflict? e <;> simp
      rw [hregister, ← htaken]
      simp [hnew]

/-! ## Names in lower case -/

/-- Owners are in lower case. -/
def LowerCased (r : Registry) : Prop :=
  ∀ key p, r.owner? key = some p → Text.lower p = p

/-- The primary name of a new entry is the given name in lower case. -/
theorem name_of_newEntry {given aliases : Value} {g : GeneratorClass}
    (h : newEntry given g aliases = .ok e) : ∃ n, given = .str n ∧ e.name = Text.lower n := by
  obtain ⟨primary, hprimary, h⟩ := bind_eq_ok_iff.1 h
  obtain ⟨elements, -, h⟩ := bind_eq_ok_iff.1 h
  obtain ⟨names, -, h⟩ := bind_eq_ok_iff.1 h
  rw [← Except.ok.inj h]
  cases given with
  | str n => exact ⟨n, rfl, (Except.ok.inj hprimary).symm⟩
  | _ => cases hprimary

theorem LowerCased.attempt (h : r.LowerCased) {c : Registration}
    (hc : ∀ n, c.name = .str n → Text.lower (Text.lower n) = Text.lower n) :
    (r.attempt c).LowerCased := by
  rcases attempt_eq r c with hsame | ⟨e, hregister⟩
  · rwa [hsame]
  · obtain ⟨g, -, hnew, -, hafter⟩ := register_eq_ok hregister
    obtain ⟨n, hn, hname⟩ := name_of_newEntry hnew
    intro key p hp
    rw [hafter, owner?_insert] at hp
    split at hp
    · rw [← Option.some.inj hp, hname, hc n hn]
    · exact h key p hp

theorem LowerCased.afterAll : ∀ {calls : List Registration} {r : Registry}, r.LowerCased →
    (∀ c ∈ calls, ∀ n, c.name = .str n → Text.lower (Text.lower n) = Text.lower n) →
    (r.afterAll calls).LowerCased
  | [], _, h, _ => h
  | c :: _, _, h, hcalls =>
    (h.attempt (hcalls c List.mem_cons_self)).afterAll
      fun d hd => hcalls d (List.mem_cons_of_mem c hd)

/-! ## Every history -/

/-- What holds of the registry after a history of calls. -/
structure Ownership (calls : List Registration) (r : Registry) : Prop where
  /-- Each name is among the names of the entry that it leads to. -/
  owned : r.Owned
  /-- The primary name of each entry leads to an entry with that primary name. -/
  primary : ∀ key e, Entries.get? r.entries key = some e →
    ∃ f, Entries.get? r.entries e.name = some f ∧ f.name = e.name
  /-- What is supported has a primary name, and that is its own primary name. -/
  resolve_resolve : ∀ language, r.isSupported (.str language) = .ok true →
    ∃ p, r.resolve (.str language) = .ok p ∧ r.resolve (.str p) = .ok p
  resolve_language : ∀ p ∈ r.languages, r.resolve (.str p) = .ok p
  /-- No further call, accepted or rejected, changes what a name resolves to. -/
  stable : ∀ more language p, r.resolve (.str language) = .ok p →
    (r.afterAll more).resolve (.str language) = .ok p
  rejects_iff : ∀ c : Registration,
    (∃ cause, r.register c.name c.candidate c.aliases = .error (.cause cause)) ↔
      (∀ g, c.candidate ≠ .generator g) ∨
        ∃ g e, c.candidate = .generator g ∧ newEntry c.name g c.aliases = .ok e ∧
          ∃ key ∈ e.names, ∃ p, r.owner? key = some p ∧ p ≠ e.name
  /-- A call that fails, for whatever reason, leaves the registry as it was. -/
  atomic : ∀ c trouble after, (registerInPlace c).run.run r = (.error trouble, after) → after = r
  sorted : r.languages.Pairwise (· < ·)
  mem_languages : ∀ p, p ∈ r.languages ↔ ∃ e ∈ ({} : Registry).accepted calls, e.name = p

/-- After every history of calls, some of them rejected, names have their owners and keep them,
and the languages are the primary names of the calls that were accepted. -/
theorem ownership_afterAll (calls : List Registration)
    (hlower : ∀ c ∈ calls, ∀ n, c.name = .str n → Text.lower (Text.lower n) = Text.lower n) :
    Ownership calls (({} : Registry).afterAll calls) := by
  have hwell : (({} : Registry).afterAll calls).WellOwned := wellOwned_empty.afterAll
  have hcased : (({} : Registry).afterAll calls).LowerCased :=
    LowerCased.afterAll (fun _ _ h => by cases h) hlower
  have hself : ∀ key p, (({} : Registry).afterAll calls).owner? key = some p →
      (({} : Registry).afterAll calls).resolve (.str p) = .ok p := by
    intro key p hp
    rw [resolve_iff_owner?, hcased key p hp]
    exact hwell.primary key p hp
  refine
    { owned := hwell.owned
      primary := fun key e he => ?_
      resolve_resolve := fun language h => ?_
      resolve_language := fun p hp => ?_
      stable := fun more language p h => ?_
      rejects_iff := register_rejects_iff _
      atomic := fun c trouble after h => ?_
      sorted := pairwise_languages _
      mem_languages := fun p => mem_languages_afterAll calls }
  · have howner := hwell.primary key e.name (by rw [owner?, he]; rfl)
    exact Option.map_eq_some_iff.1 howner
  · obtain ⟨p, hp⟩ := isSupported_iff_owner?.1 h
    exact ⟨p, resolve_iff_owner?.2 hp, hself _ p hp⟩
  · obtain ⟨key, hkey⟩ := hwell.mem_languages_iff.1 hp
    exact hself key p hkey
  · exact resolve_iff_owner?.2 (keeps_afterAll more _ _ p (resolve_iff_owner?.1 h))
  · rw [run_registerInPlace] at h
    obtain ⟨hregister, rfl⟩ := Prod.mk.inj h
    exact attempt_of_error (map_eq_error_iff.1 hregister)

/-- A history with a clash in its last alias, with a value that is no class, and with a language
that is registered again under another alias. -/
def Registration.mixed : List Registration :=
  [.sample,
    { name := .str "python", candidate := .generator sampleClass
      aliases := .list [.str "py", .str "TS"] },
    { name := .str "Plain", candidate := .value (.int 3) },
    { name := .str "TYPESCRIPT", candidate := .generator sampleClass, aliases := .list [.str "tsx"] }]

theorem ownership_afterAll_mixed :
    (∀ c ∈ Registration.mixed, ∀ n, c.name = .str n →
      Text.lower (Text.lower n) = Text.lower n) ∧
    Ownership Registration.mixed (({} : Registry).afterAll Registration.mixed) ∧
    (({} : Registry).afterAll Registration.mixed).resolve (.str "Ts") = .ok "typescript" ∧
    (({} : Registry).afterAll Registration.mixed).languages = ["typescript"] := by
  have hlower : ∀ c ∈ Registration.mixed, ∀ n, c.name = .str n →
      Text.lower (Text.lower n) = Text.lower n := by
    intro c hc n hn
    simp only [Registration.mixed, List.mem_cons, List.not_mem_nil, or_false] at hc
    rcases hc with rfl | rfl | rfl | rfl <;> obtain rfl := Value.str.inj hn <;> decide
  exact ⟨hlower, ownership_afterAll Registration.mixed hlower, by rfl, by decide⟩

end Registry

end DtoPress
