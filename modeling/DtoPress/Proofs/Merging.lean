import DtoPress.Proofs.ClassFiles
import DtoPress.Proofs.ImportTable
import DtoPress.Proofs.Literals

/-!
# Merging of imports

Calls that add symbols for modules, some of which fail, leave what `Imports.merged` says of them
without a loop : each module once, in the order of its first call, with the symbols of the calls
that do not fail, each once (`Imports.afterAll_eq_merged`). A call fails if its value gives no
symbols (`Value.symbols?`). `Imports.addInPlace` is a call as a program that adds the symbols one by
one to a copy of the group, and stops at the first that cannot be in a group; the good ones before
it are in the copy alone (`Imports.run_addInPlace`). So a call that fails changes the symbols of no
module (`Imports.symbolsOf_openGroup`). `Imports.merging_of_calls` puts this together and adds what
is rendered : one statement for each group with symbols.
-/

set_option linter.unusedSectionVars false

namespace DtoPress

/-! ## Calls -/

/-- A call that adds symbols for a module. -/
structure ImportCall where
  module : Text
  symbols : Value

/-- The symbols that a value gives, if it runs through any and each of them can be in a group. -/
def Value.symbols? : Value → Option (List Value)
  | .list items => if items.all isKey then some items else none
  | .object fields => some (fields.map fun f => .str f.1)
  | .str t => some (t.map fun c => .str [c])
  | _ => none

/-- The symbols that a call gives, none if it fails. -/
def ImportCall.given (c : ImportCall) : List Value :=
  c.symbols.symbols?.getD []

namespace Imports

/-- The imports after some calls, whether they fail or not. -/
def afterAll (imports : Imports) (calls : List ImportCall) : Imports :=
  calls.foldl (fun i c => (i.add (.str c.module) c.symbols).1) imports

/-- Modules with the symbols of each. -/
def tabulate (modules : List Text) (symbols : Text → List Value) : Imports :=
  modules.map fun m => (.str m, symbols m)

/-- The modules of calls, each once, in the order of its first call. -/
def modulesOf (calls : List ImportCall) : List Text :=
  (calls.map (·.module)).eraseDups

/-- The symbols that calls give for a module, each once, in order. -/
def symbolsFor (calls : List ImportCall) (module : Text) : List Value :=
  ((calls.filter fun c => c.module == module).flatMap ImportCall.given).eraseDups

/-- The imports that calls make. -/
def merged (calls : List ImportCall) : Imports :=
  tabulate (modulesOf calls) (symbolsFor calls)

variable {imports : Imports} {modules : List Text} {symbols : Text → List Value} {module : Text}
  {v : Value} {calls : List ImportCall} {c : ImportCall}

/-! ## Groups of modules -/

theorem get?_tabulate (module : Text) (symbols : Text → List Value) : ∀ modules : List Text,
    Entries.get? (tabulate modules symbols) (.str module) =
      if module ∈ modules then some (symbols module) else none
  | [] => rfl
  | m :: modules => by
    show Entries.get? ((.str m, symbols m) :: tabulate modules symbols) _ = _
    rw [Entries.get?, Value.str_beq, get?_tabulate module symbols modules]
    by_cases h : m = module
    · simp [h]
    · simp [h, Ne.symm h]

theorem put_tabulate (symbols : Text → List Value) (module : Text) (group : List Value) :
    ∀ {modules : List Text}, modules.Nodup →
      Entries.put (tabulate modules symbols) (.str module) group =
        tabulate (appendNew modules module) (Function.update symbols module group)
  | [], _ => by
    show [(Value.str module, group)] = [(.str module, Function.update symbols module group module)]
    rw [Function.update_self]
  | m :: modules, h => by
    obtain ⟨hm, hmodules⟩ := List.nodup_cons.1 h
    have hothers : ∀ {ms : List Text}, module ∉ ms →
        tabulate ms (Function.update symbols module group) = tabulate ms symbols := by
      intro ms hms
      refine List.map_congr_left fun l hl => ?_
      have hne : l ≠ module := fun heq => hms (heq ▸ hl)
      rw [Function.update_of_ne hne]
    show Entries.put ((.str m, symbols m) :: tabulate modules symbols) _ _ = _
    rw [Entries.put, Value.str_beq]
    by_cases heq : m = module
    · subst heq
      rw [if_pos (beq_self_eq_true m), appendNew_of_mem List.mem_cons_self, ← hothers hm]
      show _ = (Value.str m, Function.update symbols m group m) :: _
      rw [Function.update_self]
      rfl
    · have happend : appendNew (m :: modules) module = m :: appendNew modules module := by
        by_cases hmem : module ∈ modules
        · rw [appendNew_of_mem hmem, appendNew_of_mem (List.mem_cons_of_mem m hmem)]
        · rw [appendNew_of_not_mem hmem, appendNew_of_not_mem (by simp [Ne.symm heq, hmem])]
          rfl
      rw [if_neg (by simpa using heq), put_tabulate symbols module group hmodules, happend]
      show _ = (Value.str m, Function.update symbols module group m) :: _
      rw [Function.update_of_ne heq]
      rfl

/-! ## One call -/

theorem symbolsIn_eq (v : Value) :
    symbolsIn v = match v.symbols? with
      | some symbols => .ok symbols
      | none => .error .wrongType := by
  cases v with
  | list items =>
    show (if items.all Value.isKey then _ else _) = _
    rw [Value.symbols?]
    split <;> rfl
  | object fields =>
    have hkeys : (fields.map fun f => Value.str f.1).all Value.isKey = true := by
      simp [Value.isKey]
    show (if _ then _ else _) = _
    rw [if_pos hkeys]
    rfl
  | str t =>
    have hkeys : (t.map fun c => Value.str [c]).all Value.isKey = true := by
      simp [Value.isKey]
    show (if _ then _ else _) = _
    rw [if_pos hkeys]
    rfl
  | _ => rfl

/-- A call merges the symbols that its value gives, or opens the group and fails. -/
theorem add_str (imports : Imports) (module : Text) (v : Value) :
    imports.add (.str module) v = match v.symbols? with
      | some more =>
        (Entries.put imports (.str module) (mergeSymbols (imports.symbolsOf (.str module)) more), none)
      | none => (imports.openGroup (.str module), some .wrongType) := by
  have hkey : (Value.str module).isKey = true := rfl
  rw [add, if_pos hkey, symbolsIn_eq]
  cases v.symbols? <;> rfl

/-- A call, failed or not, puts the group of its module with the symbols that it gives. -/
theorem add_fst (imports : Imports) (c : ImportCall) :
    (imports.add (.str c.module) c.symbols).1 = Entries.put imports (.str c.module)
      (mergeSymbols (imports.symbolsOf (.str c.module)) c.given) := by
  rw [add_str, ImportCall.given]
  cases c.symbols.symbols? <;> rfl

/-- To open a group changes nothing, or there is a new group without symbols. -/
theorem openGroup_eq (imports : Imports) (module : Value) :
    imports.openGroup module = imports ∨
      Entries.get? imports module = none ∧ imports.openGroup module = imports ++ [(module, [])] := by
  rw [openGroup, symbolsOf]
  cases hget : Entries.get? imports module with
  | some group => exact .inl (Entries.put_of_get? hget)
  | none => exact .inr ⟨rfl, Entries.put_of_get?_eq_none [] hget⟩

/-- To open a group changes the symbols of no module. -/
theorem symbolsOf_openGroup (imports : Imports) (module other : Value) :
    (imports.openGroup module).symbolsOf other = imports.symbolsOf other := by
  rcases imports.openGroup_eq module with h | ⟨-, h⟩
  · rw [h]
  · rw [h, symbolsOf, Entries.get?_append, symbolsOf, Entries.get?, Entries.get?]
    cases Entries.get? imports other with
    | some group => rfl
    | none => split <;> rfl

/-! ## All calls -/

theorem symbolsFor_concat (calls : List ImportCall) (c : ImportCall) :
    symbolsFor (calls ++ [c]) = Function.update (symbolsFor calls) c.module
      (mergeSymbols (symbolsFor calls c.module) c.given) := by
  funext module
  rw [symbolsFor, List.filter_append, List.flatMap_append]
  by_cases h : module = c.module
  · subst h
    have hlast : [c].filter (fun d => d.module == c.module) = [c] := by simp
    rw [Function.update_self, hlast, List.flatMap_singleton, ← foldl_appendNew_eraseDups]
    rfl
  · rw [Function.update_of_ne h, List.filter_cons_of_neg (by simpa using Ne.symm h), List.filter_nil,
      List.flatMap_nil, List.append_nil]
    rfl

/-- A module that has no call has no symbols. -/
theorem symbolsOf_merged (calls : List ImportCall) (module : Text) :
    (merged calls).symbolsOf (.str module) = symbolsFor calls module := by
  rw [symbolsOf, merged, get?_tabulate]
  by_cases h : module ∈ modulesOf calls
  · rw [if_pos h, Option.getD_some]
  · have hnone : (calls.filter fun c => c.module == module) = [] := by
      refine List.filter_eq_nil_iff.2 fun c hc heq => h ?_
      rw [modulesOf, List.mem_eraseDups, ← eq_of_beq heq]
      exact List.mem_map_of_mem hc
    rw [if_neg h, symbolsFor, hnone]
    rfl

theorem add_merged (calls : List ImportCall) (c : ImportCall) :
    ((merged calls).add (.str c.module) c.symbols).1 = merged (calls ++ [c]) := by
  have hmodules : modulesOf (calls ++ [c]) = appendNew (modulesOf calls) c.module := by
    rw [modulesOf, List.map_append, List.map_singleton, eraseDups_concat]
    rfl
  have hnodup : (modulesOf calls).Nodup := nodup_eraseDups _
  rw [add_fst, symbolsOf_merged, merged,
    put_tabulate _ _ _ hnodup, merged, hmodules,
    symbolsFor_concat]

theorem afterAll_merged : ∀ calls before : List ImportCall,
    (merged before).afterAll calls = merged (before ++ calls)
  | [], before => by rw [List.append_nil]; rfl
  | c :: calls, before => by
    show ((merged before).add (.str c.module) c.symbols).1.afterAll calls = _
    rw [add_merged, afterAll_merged calls, List.append_assoc, List.singleton_append]

/-- Calls leave their modules in the order of their first calls, with the symbols of those that do
not fail. -/
theorem afterAll_eq_merged (calls : List ImportCall) :
    afterAll [] calls = merged calls :=
  afterAll_merged calls []

/-! ## A call in place -/

/-- A program on the imports of a unit. What it has changed by the time it fails stays changed. -/
abbrev InPlace := ExceptT Fault (StateM Imports)

/-- Symbols added one by one to a copy of a group, up to the first that cannot be in one. -/
def extendEach (copy : List Value) : List Value → Except Fault (List Value)
  | [] => .ok copy
  | s :: more => if s.isKey then extendEach (appendNew copy s) more else .error .wrongType

/-- A copy of a group with what a value runs through added to it. -/
def extendCopy (copy : List Value) (v : Value) : Except Fault (List Value) := do
  extendEach copy (← v.elements)

/-- A call in place : the group is opened, its copy is extended, and the copy takes its place. -/
def addInPlace (c : ImportCall) : InPlace Unit := do
  modify fun i => i.openGroup (.str c.module)
  let group := (← get).symbolsOf (.str c.module)
  let copy ← ExceptT.mk (pure (extendCopy group c.symbols))
  modify fun i => Entries.put i (.str c.module) copy

theorem extendEach_eq : ∀ more copy : List Value, extendEach copy more =
    if more.all Value.isKey then .ok (mergeSymbols copy more) else .error .wrongType
  | [], _ => rfl
  | s :: more, copy => by
    rw [extendEach, extendEach_eq more, List.all_cons]
    cases s.isKey <;> rfl

theorem extendCopy_eq (copy : List Value) (v : Value) :
    extendCopy copy v = (symbolsIn v).map (mergeSymbols copy) := by
  unfold extendCopy symbolsIn
  cases v.elements with
  | error fault => rfl
  | ok more =>
    show extendEach copy more = Except.map _ (if more.all Value.isKey then _ else _)
    rw [extendEach_eq]
    split <;> rfl

/-- A call in place answers as the call does and leaves the same imports. -/
theorem run_addInPlace (imports : Imports) (c : ImportCall) :
    (addInPlace c).run.run imports =
      (match (imports.add (.str c.module) c.symbols).2 with
        | none => .ok ()
        | some fault => .error fault, (imports.add (.str c.module) c.symbols).1) := by
  have hopen : (addInPlace c).run.run imports =
      (ExceptT.mk (pure (extendCopy ((imports.openGroup (.str c.module)).symbolsOf (.str c.module))
        c.symbols)) >>= fun copy =>
          modify fun i => Entries.put i (.str c.module) copy : InPlace Unit).run.run
            (imports.openGroup (.str c.module)) := rfl
  rw [hopen, run_run_bind, symbolsOf_openGroup, extendCopy_eq, symbolsIn_eq, add_str]
  cases c.symbols.symbols? with
  | none => rfl
  | some more =>
    have hput := Entries.put_put_self ((Value.str_beq c.module c.module).trans (beq_self_eq_true _))
      (imports.symbolsOf (.str c.module))
      (mergeSymbols (imports.symbolsOf (.str c.module)) more) imports
    exact congrArg (Prod.mk _) hput

end Imports

/-! ## Statements -/

/-- A statement that imports names from what its literal says. -/
structure ImportStatement where
  names : List Text
  literal : Text

namespace ImportStatement

/-- A statement with the end of its line. -/
def text (s : ImportStatement) : Text :=
  "import \x7b " ++ Text.commaSeparated s.names ++ " \x7d from " ++ s.literal ++ ";\n"

/-- The statement imports the symbols of a group, by a literal in quote character `q` that is read
as the module, whatever comes behind it. -/
structure IsFor (q : Char) (s : ImportStatement) (group : Value × List Value) : Prop where
  names : s.names = group.2.map Value.text
  reads : ∀ rest, Text.readLiteral q (s.literal ++ rest) = some (group.1.text, rest)

/-- The statement of a group. -/
def ofGroup (q : Char) (group : Value × List Value) : ImportStatement :=
  { names := group.2.map Value.text, literal := Text.literal q group.1.text }

theorem ofGroup_isFor {q : Char} (hq : q ≠ '\\') (group : Value × List Value) :
    (ofGroup q group).IsFor q group :=
  ⟨rfl, fun rest => Text.readLiteral_literal hq group.1.text rest⟩

end ImportStatement

namespace Imports

/-- The groups that have symbols. -/
def withSymbols (imports : Imports) : Imports :=
  imports.filter fun group => !group.2.isEmpty

theorem importLines_eq_statements (q : Char) (imports : Imports) : importLines q imports =
    (imports.withSymbols.map (ImportStatement.ofGroup q)).flatMap ImportStatement.text := by
  rw [importLines_eq_unlines, unlines, importCodes, List.flatMap_map, List.flatMap_map, withSymbols]
  refine congrArg (List.flatMap · _) (funext fun group => ?_)
  rw [importCode, List.append_assoc _ _ ("\n" : Text)]
  rfl

/-- Statements for different modules have different literals. -/
theorem nodup_literals {q : Char} (hq : q ≠ '\\') {imports : Imports}
    (h : (imports.map fun group => group.1.text).Nodup) :
    ((imports.map (ImportStatement.ofGroup q)).map ImportStatement.literal).Nodup := by
  have hliterals : (imports.map (ImportStatement.ofGroup q)).map ImportStatement.literal =
      (imports.map fun group => group.1.text).map (Text.literal q) := by
    rw [List.map_map, List.map_map]
    rfl
  rw [hliterals]
  exact h.map (Text.literal_injective hq)

/-- Different modules have different texts. -/
theorem nodup_texts_merged (calls : List ImportCall) :
    ((merged calls).withSymbols.map fun group => group.1.text).Nodup := by
  have htexts : (merged calls).map (fun group => group.1.text) = modulesOf calls := by
    rw [merged, tabulate, List.map_map]
    exact List.map_id _
  have hsublist := (List.filter_sublist
    (p := fun group : Value × List Value => !group.2.isEmpty) (l := merged calls)).map
      fun group => group.1.text
  rw [htexts] at hsublist
  exact (nodup_eraseDups _ : (modulesOf calls).Nodup).sublist hsublist

end Imports

/-! ## The file of a unit -/

/-- What a file with a class is rendered as : statements that import the groups with symbols, in
order and with different literals, an empty line, and the class. -/
structure Generator.RendersImports (g : Generator) (imports : Imports) (c : ClassDeclaration)
    (statements : List ImportStatement) (body : Text) : Prop where
  isFor : List.Forall₂ (ImportStatement.IsFor g.engine.quote) statements imports.withSymbols
  nodup : (statements.map ImportStatement.literal).Nodup
  classText : classText g.layout c = .ok body
  renderUnit : g.renderUnit imports c =
    .ok (statements.flatMap ImportStatement.text ++ "\n" ++ body)

theorem Generator.Ready.rendersImports {g : Generator} (hg : g.Ready) (hq : g.engine.quote ≠ '\\')
    {imports : Imports} (h : (imports.withSymbols.map fun group => group.1.text).Nodup)
    (c : ClassDeclaration) : ∃ statements body, g.RendersImports imports c statements body := by
  obtain ⟨rest, hbody⟩ := exists_classText g.layout hg.spaces c
  refine ⟨imports.withSymbols.map (ImportStatement.ofGroup g.engine.quote), _,
    ?_, Imports.nodup_literals hq h, hbody, ?_⟩
  · rw [List.forall₂_map_left_iff, List.forall₂_same]
    exact fun group _ => ImportStatement.ofGroup_isFor hq group
  · rw [Generator.renderUnit, hg.rendered, classFile, hbody]
    rw [Imports.importLines_eq_statements]
    rfl

namespace Imports

/-- What a call does to imports and how it ends. -/
structure Call (imports : Imports) (c : ImportCall) : Prop where
  /-- It fails if its value gives no symbols. -/
  fault : (imports.add (.str c.module) c.symbols).2 =
    if c.symbols.symbols?.isSome then none else some .wrongType
  /-- If symbols are added one by one to a copy of the group, the call is the same. -/
  inPlace : (addInPlace c).run.run imports =
    (match (imports.add (.str c.module) c.symbols).2 with
      | none => .ok ()
      | some fault => .error fault, (imports.add (.str c.module) c.symbols).1)
  /-- If it fails, no module has other symbols. -/
  symbols : c.symbols.symbols? = none → ∀ other,
    (imports.add (.str c.module) c.symbols).1.symbolsOf other = imports.symbolsOf other
  /-- If it fails, nothing changes but for a group without symbols if the module is new. -/
  groups : c.symbols.symbols? = none →
    (imports.add (.str c.module) c.symbols).1 = imports ∨
      Entries.get? imports (.str c.module) = none ∧
        (imports.add (.str c.module) c.symbols).1 = imports ++ [(.str c.module, [])]

theorem call (imports : Imports) (c : ImportCall) : imports.Call c where
  fault := by
    rw [add_str]
    cases c.symbols.symbols? <;> rfl
  inPlace := run_addInPlace imports c
  symbols h other := by
    rw [add_str, h]
    exact symbolsOf_openGroup imports _ other
  groups h := by
    rw [add_str, h]
    exact openGroup_eq imports _

/-- Calls, some of which fail, make the imports that are computed from all of them at once, a call
that fails changes the symbols of no module, and the file has one statement for each group with
symbols. -/
theorem merging_of_calls {kind : GeneratorClass} {config : Config} {g : Generator}
    (hg : Generator.create kind config = .ok g) (lookUps : List String) (calls : List ImportCall) :
    afterAll [] calls = merged calls ∧ (∀ imports c, Call imports c) ∧
      ∀ declaration, ∃ statements body,
        (g.used lookUps).RendersImports (afterAll [] calls) declaration statements body := by
  refine ⟨afterAll_eq_merged calls, call, fun declaration => ?_⟩
  have hquote : (g.used lookUps).engine.quote ≠ '\\' := by
    rw [Generator.used, Template.Engine.quote_lookUpAll]
    rcases Generator.quote_of_create hg with h | h <;> rw [h] <;> decide
  rw [afterAll_eq_merged]
  exact (Generator.ready_used_of_create hg lookUps).rendersImports hquote (nodup_texts_merged calls)
    declaration

/-- A call with a list among its symbols, for a module that is new, then for one that is not. -/
def sampleCalls : List ImportCall :=
  [⟨"./orders", .list [.str "Order", .list []]⟩, ⟨"a\"b", .list [.str "B", .str "A", .str "B"]⟩,
    ⟨"a\"b", .null⟩, ⟨"a\"b", .list [.str "C", .object []]⟩, ⟨"./empty", .list []⟩,
    ⟨"a\"b", .list [.str "C", .str "A"]⟩]

theorem merging_of_calls_sampleCalls : ∃ g, Generator.create .typescript {} = .ok g ∧
    afterAll [] sampleCalls = merged sampleCalls ∧
    (merged sampleCalls).map Prod.fst = ["./orders", "a\"b", "./empty"].map Value.str ∧
    ∃ statements body, g.RendersImports (afterAll [] sampleCalls) { name := .str "Order" }
      statements body ∧ statements.map ImportStatement.names = [["B", "A", "C"].map Text.ofString] := by
  obtain ⟨g, hg⟩ : ∃ g, Generator.create .typescript {} = .ok g := ⟨_, rfl⟩
  obtain ⟨hmerged, -, hrenders⟩ := merging_of_calls hg [] sampleCalls
  obtain ⟨statements, body, h⟩ := hrenders { name := .str "Order" }
  have hnames : List.Forall₂ (· = ·) (statements.map ImportStatement.names)
      ((afterAll [] sampleCalls).withSymbols.map fun group => group.2.map Value.text) := by
    rw [List.forall₂_map_left_iff, List.forall₂_map_right_iff]
    exact h.isFor.imp fun _ _ hstatement => hstatement.names
  rw [List.forall₂_eq_eq_eq] at hnames
  exact ⟨g, hg, hmerged, rfl, statements, body, h, hnames.trans rfl⟩

end Imports

end DtoPress
