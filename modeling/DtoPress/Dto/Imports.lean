import DtoPress.Value.Access

/-!
# Imports

The symbols that a generated file imports, grouped by module. A module heads one group and a
symbol stands once in a group; both keep the order in which they first appeared. A call that
fails leaves no symbol behind, but the group of a new module stays, empty.
-/

namespace DtoPress

/-- Symbols by module. -/
abbrev Imports := Entries Value (List Value)

namespace Imports

/-- The symbols of a group with more merged in. -/
def mergeSymbols (before more : List Value) : List Value :=
  more.foldl (fun symbols s => if symbols.contains s then symbols else symbols ++ [s]) before

/-- The symbols imported from a module. -/
def symbolsOf (imports : Imports) (module : Value) : List Value :=
  (Entries.get? imports module).getD []

/-- A group for the module is there, empty if it is new. -/
def openGroup (imports : Imports) (module : Value) : Imports :=
  Entries.put imports module (imports.symbolsOf module)

/-- The symbols that a value gives, if it gives any and each can stand in a group. -/
def symbolsIn (v : Value) : Except Fault (List Value) := do
  let symbols ← v.elements
  if symbols.all Value.isKey then return symbols else throw .wrongType

/-- Symbols added to the group of a module : what the imports become, and the fault if the call
fails. -/
def add (imports : Imports) (module symbols : Value) : Imports × Option Fault :=
  if module.isKey then
    match symbolsIn symbols with
    | .ok more =>
      (Entries.put imports module (mergeSymbols (imports.symbolsOf module) more), none)
    | .error f => (imports.openGroup module, some f)
  else (imports, some .wrongType)

/-- Symbols added to the group of a module, where a fault ends everything. -/
def tryAdd (imports : Imports) (module : Value) (symbols : List Value) :
    Except Fault Imports :=
  match imports.add module (.list symbols) with
  | (after, none) => .ok after
  | (_, some f) => .error f

end Imports

end DtoPress
