import DtoPress.Json.Writer
import DtoPress.Value.Access

/-!
# Settings of a language

The settings of a language are whatever value a configuration gives for them, and in most cases
an object. Where they are put together from a list of pairs, a key can be any value that can be
a member of a set, and keys that stand for the same value are one key. `Custom.toValue` shows
such settings as an object, `Custom.toSaved` as the object that a file gets : the two differ in
how they spell a key that is no text.
-/

namespace DtoPress

/-- The settings of a language. -/
inductive Custom where
  /-- As they were given. -/
  | plain (v : Value)
  /-- Entries under keys of which at least one is no text. -/
  | keyed (entries : Entries Value Value)

namespace Custom

/-- The text that a key is, if it is one. -/
def textOf? : Value → Option Text
  | .str t => some t
  | _ => none

/-- Fields as entries. -/
def entriesOfFields (fields : Entries Text Value) : Entries Value Value :=
  fields.map fun (k, v) => (.str k, v)

/-- The settings with the given entries : an object if all keys are texts. -/
def ofEntries (entries : Entries Value Value) : Custom :=
  match entries.mapM fun (k, v) => (textOf? k).map fun t => (t, v) with
  | some fields => .plain (.object fields)
  | none => .keyed entries

/-- The settings as they are shown : under the texts of their keys, of which the last one with
the same text counts. -/
def toValue : Custom → Value
  | plain v => v
  | keyed entries => .object (Entries.putAll [] (entries.map fun (k, v) => (k.text, v)))

/-- A key as a file gets it. -/
def savedKey : Value → Text
  | .str t => t
  | k => Json.compact k

/-- The settings as a file gets them : all entries, also where keys have the same spelling. -/
def toSaved : Custom → Value
  | plain v => v
  | keyed entries => .object (entries.map fun (k, v) => (savedKey k, v))

/-- An entry of the same key has the same value. -/
def agrees (entries : Entries Value Value) (entry : Value × Value) : Bool :=
  match Entries.get? entries entry.1 with
  | some v => entry.2.same v
  | none => false

/-- Two settings are equal. -/
def same : Custom → Custom → Bool
  | plain a, plain b => a.same b
  | keyed a, keyed b => a.length == b.length && a.all (agrees b)
  | _, _ => false

end Custom

end DtoPress
