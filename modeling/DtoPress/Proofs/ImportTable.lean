import DtoPress.Dto.Unit
import DtoPress.Proofs.Textual

/-!
# Tables of imports

Between texts the imports of a unit are a table of texts, and a run of calls is a fold of
`ImportTable.add`. The table of a run imports what its calls name and nothing else, whichever
modules coincide (`ImportTable.has_ofCalls`), and it stays proper : no module heads two groups
and no symbol stands twice in a group (`ImportTable.proper_ofCalls`). `ImportTable.toImports`
carries both over to the imports of a unit. A run for different modules is its own table
(`ImportTable.ofCalls_of_nodup`).
-/

namespace DtoPress

/-- Symbols by module, all of them texts. -/
abbrev ImportTable := Entries Text (List Text)

namespace ImportTable

/-- The group of a module, empty if there is none. -/
def group (table : ImportTable) (module : Text) : List Text :=
  (Entries.get? table module).getD []

/-- The symbol is imported from the module. -/
def Has (table : ImportTable) (module symbol : Text) : Prop :=
  symbol ∈ table.group module

/-- The symbols of a call merged into the group of its module. -/
def add (table : ImportTable) (call : Text × List Text) : ImportTable :=
  Entries.put table call.1 (call.2.foldl appendNew (table.group call.1))

/-- The table that a run of calls makes. -/
def ofCalls (calls : List (Text × List Text)) : ImportTable :=
  calls.foldl add []

/-- No module heads two groups, and no symbol stands twice in a group. -/
structure Proper (table : ImportTable) : Prop where
  modules : table.keys.Nodup
  symbols : ∀ module, (table.group module).Nodup

theorem group_add_self (table : ImportTable) (call : Text × List Text) :
    (table.add call).group call.1 = call.2.foldl appendNew (table.group call.1) := by
  rw [group, add, Entries.get?_put_self, Option.getD_some]

theorem group_add_of_ne (table : ImportTable) {call : Text × List Text} {module : Text}
    (h : module ≠ call.1) : (table.add call).group module = table.group module := by
  rw [group, add, Entries.get?_put_of_ne h, group]

theorem has_add {table : ImportTable} {call : Text × List Text} {module symbol : Text} :
    (table.add call).Has module symbol ↔
      table.Has module symbol ∨ module = call.1 ∧ symbol ∈ call.2 := by
  by_cases h : module = call.1
  · subst h
    rw [Has, group_add_self, mem_foldl_appendNew, Has]
    simp
  · rw [Has, group_add_of_ne table h, Has]
    simp [h]

theorem Proper.add {table : ImportTable} (h : table.Proper) (call : Text × List Text) :
    (table.add call).Proper where
  modules := by
    rw [ImportTable.add, Entries.keys_put]
    exact nodup_appendNew h.modules
  symbols := by
    intro module
    by_cases hm : module = call.1
    · rw [hm, group_add_self]
      exact nodup_foldl_appendNew _ (h.symbols _)
    · rw [group_add_of_ne table hm]
      exact h.symbols module

theorem has_foldl_add {module symbol : Text} : ∀ {calls : List (Text × List Text)}
    {table : ImportTable}, (calls.foldl add table).Has module symbol ↔
      table.Has module symbol ∨ ∃ call ∈ calls, module = call.1 ∧ symbol ∈ call.2
  | [], _ => by simp
  | call :: calls, table => by
    rw [List.foldl_cons, has_foldl_add, has_add, or_assoc]
    simp

/-- A run of calls imports what one of its calls names. -/
theorem has_ofCalls {calls : List (Text × List Text)} {module symbol : Text} :
    (ofCalls calls).Has module symbol ↔ ∃ call ∈ calls, module = call.1 ∧ symbol ∈ call.2 := by
  have hnil : ¬Has [] module symbol := List.not_mem_nil
  rw [ofCalls, has_foldl_add]
  simp [hnil]

theorem proper_foldl_add : ∀ (calls : List (Text × List Text)) {table : ImportTable},
    table.Proper → (calls.foldl add table).Proper
  | [], _, h => h
  | call :: calls, _, h => proper_foldl_add calls (h.add call)

theorem proper_ofCalls (calls : List (Text × List Text)) : (ofCalls calls).Proper :=
  proper_foldl_add calls ⟨List.nodup_nil, fun _ => List.nodup_nil⟩

/-! ## Tables as imports -/

/-- The imports that a table stands for. -/
def toImports (table : ImportTable) : Imports :=
  table.map fun (module, symbols) => (.str module, symbols.map .str)

theorem get?_toImports (module : Text) : ∀ table : ImportTable,
    Entries.get? table.toImports (.str module) = (Entries.get? table module).map (·.map .str)
  | [] => rfl
  | (m, symbols) :: table => by
    have ih := get?_toImports module table
    by_cases h : m = module
    · simp [toImports, Entries.get?, h]
    · rw [toImports] at ih
      simp [toImports, Entries.get?, h, ih]

theorem put_toImports (module : Text) (symbols : List Text) : ∀ table : ImportTable,
    Entries.put table.toImports (.str module) (symbols.map .str) =
      toImports (Entries.put table module symbols)
  | [] => rfl
  | (m, group) :: table => by
    have ih := put_toImports module symbols table
    by_cases h : m = module
    · simp [toImports, Entries.put, h]
    · rw [toImports] at ih
      simp [toImports, Entries.put, h, ih]

theorem symbolsOf_toImports (table : ImportTable) (module : Text) :
    table.toImports.symbolsOf (.str module) = (table.group module).map .str := by
  rw [Imports.symbolsOf, get?_toImports, group]
  cases Entries.get? table module <;> rfl

theorem mergeSymbols_map_str : ∀ more before : List Text,
    Imports.mergeSymbols (before.map .str) (more.map .str) =
      (more.foldl appendNew before).map Value.str
  | [], _ => rfl
  | s :: more, before => by
    rw [List.foldl_cons, ← mergeSymbols_map_str more]
    show Imports.mergeSymbols (if (before.map Value.str).contains (.str s) then _ else _) _ = _
    rw [Value.contains_map_str, appendNew]
    split <;> simp

theorem symbolsIn_map_str (symbols : List Text) :
    Imports.symbolsIn (.list (symbols.map .str)) = .ok (symbols.map .str) := by
  have hkeys : (symbols.map Value.str).all Value.isKey = true := by
    rw [List.all_eq_true]
    intro v hv
    obtain ⟨t, -, rfl⟩ := List.mem_map.1 hv
    rfl
  simp only [Imports.symbolsIn, Value.elements, bind, Except.bind, hkeys, if_true]
  rfl

/-- A call with texts does to imports what it does to the table. -/
theorem tryAdd_toImports (table : ImportTable) (module : Text) (symbols : List Text) :
    table.toImports.tryAdd (.str module) (symbols.map .str) =
      .ok (table.add (module, symbols)).toImports := by
  have hadd : table.toImports.add (.str module) (.list (symbols.map .str)) =
      ((table.add (module, symbols)).toImports, none) := by
    simp only [Imports.add, Value.isKey, if_true, symbolsIn_map_str, symbolsOf_toImports,
      mergeSymbols_map_str, put_toImports]
    rfl
  rw [Imports.tryAdd, hadd]

theorem ofCalls_append (calls : List (Text × List Text)) (call : Text × List Text) :
    ofCalls (calls ++ [call]) = (ofCalls calls).add call := by
  simp [ofCalls]

theorem tryAdd_ofCalls (calls : List (Text × List Text)) (module : Text) (symbols : List Text) :
    (ofCalls calls).toImports.tryAdd (.str module) (symbols.map .str) =
      .ok (ofCalls (calls ++ [(module, symbols)])).toImports := by
  rw [tryAdd_toImports, ofCalls_append]

theorem addIf_ofCalls (calls : List (Text × List Text)) (wanted : Bool) (module : Text)
    (symbols : List Text) :
    (ofCalls calls).toImports.addIf wanted (.str module) (symbols.map .str) =
      .ok (ofCalls (calls ++ if wanted then [(module, symbols)] else [])).toImports := by
  cases wanted with
  | true => exact tryAdd_ofCalls calls module symbols
  | false => simp [Imports.addIf]

end ImportTable

/-- The symbol is imported from the module. -/
def Imports.Has (imports : Imports) (module symbol : Value) : Prop :=
  ∃ symbols, (module, symbols) ∈ imports ∧ symbol ∈ symbols

theorem Imports.has_of_mem_symbolsOf {module : Text} {symbol : Value} : ∀ {imports : Imports},
    symbol ∈ imports.symbolsOf (.str module) → imports.Has (.str module) symbol
  | [], h => absurd h List.not_mem_nil
  | (m, symbols) :: imports, h => by
    rw [symbolsOf, Entries.get?] at h
    split at h
    next heq =>
      rw [Value.eq_of_beq_str heq]
      exact ⟨symbols, List.mem_cons_self, h⟩
    next =>
      obtain ⟨ss, hmem, hsymbol⟩ := has_of_mem_symbolsOf h
      exact ⟨ss, List.mem_cons_of_mem _ hmem, hsymbol⟩

namespace ImportTable

theorem mem_toImports {table : ImportTable} {module : Value} {symbols : List Value} :
    (module, symbols) ∈ table.toImports ↔
      ∃ m ss, (m, ss) ∈ table ∧ module = .str m ∧ symbols = ss.map .str := by
  simp only [toImports, List.mem_map, Prod.exists, Prod.mk.injEq]
  constructor
  · rintro ⟨m, ss, h, rfl, rfl⟩
    exact ⟨m, ss, h, rfl, rfl⟩
  · rintro ⟨m, ss, h, rfl, rfl⟩
    exact ⟨m, ss, h, rfl, rfl⟩

theorem Proper.group_eq {table : ImportTable} (h : table.Proper) {module : Text}
    {symbols : List Text} (hmem : (module, symbols) ∈ table) : table.group module = symbols := by
  rw [group, Entries.get?_of_mem h.modules hmem, Option.getD_some]

theorem Proper.has_toImports {table : ImportTable} (h : table.Proper) {module symbol : Value} :
    table.toImports.Has module symbol ↔
      ∃ m s, table.Has m s ∧ module = .str m ∧ symbol = .str s := by
  constructor
  · rintro ⟨symbols, hmem, hsym⟩
    obtain ⟨m, ss, hm, rfl, rfl⟩ := mem_toImports.1 hmem
    obtain ⟨s, hs, rfl⟩ := List.mem_map.1 hsym
    exact ⟨m, s, by rwa [Has, h.group_eq hm], rfl, rfl⟩
  · rintro ⟨m, s, hs, rfl, rfl⟩
    rw [Has, group] at hs
    cases hget : Entries.get? table m with
    | none => simp [hget] at hs
    | some ss =>
      rw [hget, Option.getD_some] at hs
      exact ⟨_, mem_toImports.2 ⟨m, ss, Entries.mem_of_get? hget, rfl, rfl⟩,
        List.mem_map_of_mem hs⟩

theorem Proper.nodup_modules {table : ImportTable} (h : table.Proper) :
    (table.toImports.map Prod.fst).Nodup := by
  have hmap : table.toImports.map Prod.fst = table.keys.map Value.str := by
    simp [toImports, Entries.keys]
  rw [hmap]
  exact Value.nodup_map_str h.modules

theorem Proper.nodup_symbols {table : ImportTable} (h : table.Proper)
    {group : Value × List Value} (hmem : group ∈ table.toImports) : group.2.Nodup := by
  obtain ⟨m, ss, hm, -, hss⟩ := mem_toImports.1 hmem
  rw [hss, ← h.group_eq hm]
  exact Value.nodup_map_str (h.symbols m)

/-! ## Calls for different modules -/

/-- A call for a new module, with different symbols, makes a group of its own. -/
theorem add_of_not_mem {table : ImportTable} {call : Text × List Text}
    (hmodule : call.1 ∉ table.keys) (hsymbols : call.2.Nodup) :
    table.add call = table ++ [call] := by
  have hgroup : table.group call.1 = [] := by
    rw [group, Entries.get?_of_not_mem_keys hmodule]
    rfl
  rw [add, hgroup, foldl_appendNew _ List.nodup_nil, List.nil_append,
    eraseDups_of_nodup hsymbols, Entries.put_of_not_mem hmodule]

/-- A run of calls for different modules is the table that it makes. -/
theorem foldl_add_of_nodup : ∀ {calls : List (Text × List Text)} {table : ImportTable},
    (Entries.keys (table ++ calls)).Nodup → (∀ call ∈ calls, call.2.Nodup) →
      calls.foldl add table = table ++ calls
  | [], table, _, _ => by simp
  | call :: calls, table, hmodules, hsymbols => by
    have hnew : call.1 ∉ table.keys := by
      rw [Entries.keys, List.map_append, List.nodup_append] at hmodules
      exact fun hmem => hmodules.2.2 _ hmem _ List.mem_cons_self rfl
    rw [List.foldl_cons, add_of_not_mem hnew (hsymbols call List.mem_cons_self),
      foldl_add_of_nodup (by simpa using hmodules)
        fun c hc => hsymbols c (List.mem_cons_of_mem call hc), List.append_assoc]
    rfl

theorem ofCalls_of_nodup {calls : List (Text × List Text)} (hmodules : (Entries.keys calls).Nodup)
    (hsymbols : ∀ call ∈ calls, call.2.Nodup) : ofCalls calls = calls :=
  foldl_add_of_nodup hmodules hsymbols

theorem flatMap_toImports (table : ImportTable) :
    table.toImports.flatMap (·.2) = (table.flatMap (·.2)).map Value.str := by
  rw [toImports, List.flatMap_map, List.map_flatMap]

end ImportTable

end DtoPress
