import DtoPress.Value.Order

/-!
# Reading values

What a value holds, asked of a value that may be of any kind : whether it has a key, what
stands under the key, and which values it runs through. Each is defined on some kinds and a
fault on the others.
-/

namespace DtoPress.Value

/-- A text occurs within another. -/
def occursIn (part : Text) : Text → Bool
  | [] => part.isEmpty
  | c :: cs => part.isPrefixOf (c :: cs) || occursIn part cs

/-- Whether a value has the key : an object by its keys, a list by its items, a text by what
occurs in it. -/
def hasMember (key : Text) : Value → Except Fault Bool
  | .object fields => .ok (Entries.has fields key)
  | .list items => .ok (items.contains (.str key))
  | .str t => .ok (occursIn key t)
  | _ => .error .wrongType

/-- What stands under a key that the value must have; `missing` is the error if it lacks it.
Only an object has anything under a key. -/
def require {ε : Type} (key : Text) (missing : ε) (v : Value) : Except (Trouble ε) Value := do
  if ← Trouble.ofFault (v.hasMember key) then
    match v with
    | .object fields =>
      match Entries.get? fields key with
      | some w => return w
      | none => throw (.fault .wrongType)
    | _ => throw (.fault .wrongType)
  else throw (.cause missing)

/-- The field of an object, or the value that stands for an absent one. -/
def fieldOr (v : Value) (key : Text) (default : Value) : Value :=
  match v with
  | .object fields => (Entries.get? fields key).getD default
  | _ => default

/-- The values that a value runs through : the items of a list, the keys of an object, the
code points of a text. -/
def elements : Value → Except Fault (List Value)
  | .list items => .ok items
  | .object fields => .ok (fields.map fun f => .str f.1)
  | .str t => .ok (t.map fun c => .str [c])
  | _ => .error .wrongType

end DtoPress.Value
