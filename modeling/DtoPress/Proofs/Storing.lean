import DtoPress.Json.Writer
import DtoPress.Proofs.Encoding

/-!
# Values stored in files

A value is written to a file as JSON, in pieces. A file takes them as far as they have bytes
(`FileTree.encodable_eq`), and the text of a value has bytes exactly if no text in the value has
a lone half (`Json.isWhole_pretty`). So at a path that can be written to (`FileTree.IsWritable`)
the file afterwards holds the front of the text, and all of it for such a value
(`FileTree.IsWritable.exists_writeValue`). That reading the text gives the value back is what
`Json.RoundTrips` says of a value.
-/

set_option linter.unusedSectionVars false

namespace DtoPress

/-! ## Values without lone halves -/

namespace Value

mutual

/-- No text in the value has a lone half. -/
def isStorable : Value → Bool
  | .str t => t.isWhole
  | .list items => storableItems items
  | .object fields => storableFields fields
  | _ => true

/-- No text in the items has a lone half. -/
def storableItems : List Value → Bool
  | [] => true
  | v :: vs => v.isStorable && storableItems vs

/-- No name and no text in the fields has a lone half. -/
def storableFields : Entries Text Value → Bool
  | [] => true
  | (k, v) :: rest => k.isWhole && v.isStorable && storableFields rest

end

theorem storableFields_iff : ∀ {fields : Entries Text Value}, storableFields fields = true ↔
    ∀ field ∈ fields, field.1.isWhole = true ∧ field.2.isStorable = true
  | [] => by simp [storableFields]
  | (k, v) :: rest => by
    rw [storableFields, Bool.and_eq_true, Bool.and_eq_true, storableFields_iff,
      List.forall_mem_cons]

theorem storableFields_put : ∀ {fields : Entries Text Value} {k : Text} {v : Value},
    storableFields fields = true → k.isWhole = true → v.isStorable = true →
      storableFields (fields.put k v) = true
  | [], k, v, _, hk, hv => by simp [Entries.put, storableFields, hk, hv]
  | (k', w) :: rest, k, v, h, hk, hv => by
    rw [storableFields, Bool.and_eq_true] at h
    obtain ⟨hfirst, hrest⟩ := h
    rw [Entries.put]
    split
    · simp [storableFields, (Bool.and_eq_true_iff.1 hfirst).1, hv, hrest]
    · rw [storableFields, hfirst, Bool.true_and]
      exact storableFields_put hrest hk hv

/-- Fields without lone halves put over others that have none. -/
theorem storableFields_putAll : ∀ {more fields : Entries Text Value}, storableFields fields = true →
    storableFields more = true → storableFields (Entries.putAll fields more) = true
  | [], _, h, _ => h
  | (k, v) :: more, fields, h, hmore => by
    rw [storableFields, Bool.and_eq_true, Bool.and_eq_true] at hmore
    obtain ⟨⟨hk, hv⟩, hrest⟩ := hmore
    exact @storableFields_putAll more _ (storableFields_put h hk hv) hrest

end Value

/-! ## Their JSON -/

namespace Json

theorem isWhole_writeString (t : Text) : (writeString escapePoint t).isWhole = t.isWhole := by
  have hpoint : ∀ c : CodePoint, (escapePoint c).isWhole = c.char?.isSome
    | .char c => Text.isWhole_ofChars _
    | .half index => rfl
  rw [Bool.eq_iff_iff, writeString, Text.isWhole_append, Text.isWhole_cons_char, Bool.and_eq_true,
    Text.isWhole_flatMap, Text.isWhole, Text.isWhole, List.all_eq_true]
  simp [hpoint, CodePoint.char?]

theorem isWhole_newLine (level : Nat) : (newLine level).isWhole = true :=
  Text.isWhole_replicate _ _

theorem isWhole_attach (before : Text) : ∀ pieces : List Text,
    Text.isWhole (attach before pieces).flatten =
      (before.isWhole && Text.isWhole pieces.flatten)
  | [] => by simp [attach]
  | [piece] => by simp [attach]
  | piece :: piece' :: pieces => by simp [attach]

mutual

theorem isWhole_prettyAt (level : Nat) : ∀ v : Value,
    Text.isWhole (prettyAt level v).flatten = v.isStorable
  | .null => rfl
  | .bool true => rfl
  | .bool false => rfl
  | .int n => by simp [prettyAt, Value.isStorable]
  | .float x => by simp [prettyAt, Value.isStorable]
  | .str t => by simp [prettyAt, Value.isStorable, isWhole_writeString]
  | .list [] => rfl
  | .list (v :: vs) => by
    have hopen : ("[" ++ newLine (level + 1) : Text).isWhole = true := by
      rw [Text.isWhole_append, isWhole_newLine]
      rfl
    rw [prettyAt, List.flatten_append, Text.isWhole_append, Value.isStorable,
      isWhole_prettyItems (level + 1) hopen]
    simp [isWhole_newLine]
  | .object [] => rfl
  | .object (field :: fields) => by
    have hopen : ("\x7b" ++ newLine (level + 1) : Text).isWhole = true := by
      rw [Text.isWhole_append, isWhole_newLine]
      rfl
    rw [prettyAt, List.flatten_append, Text.isWhole_append, Value.isStorable,
      isWhole_prettyFields (level + 1) hopen]
    simp [isWhole_newLine]

theorem isWhole_prettyItems (level : Nat) {before : Text} (h : before.isWhole = true) :
    ∀ vs : List Value, Text.isWhole (prettyItems level before vs).flatten = Value.storableItems vs
  | [] => rfl
  | v :: vs => by
    have hnext : ("," ++ newLine level : Text).isWhole = true := by
      rw [Text.isWhole_append, isWhole_newLine]
      rfl
    rw [prettyItems, List.flatten_append, Text.isWhole_append, isWhole_attach, h,
      isWhole_prettyAt level v, isWhole_prettyItems level hnext vs, Value.storableItems,
      Bool.true_and]

theorem isWhole_prettyFields (level : Nat) {before : Text} (h : before.isWhole = true) :
    ∀ fields : Entries Text Value,
      Text.isWhole (prettyFields level before fields).flatten = Value.storableFields fields
  | [] => rfl
  | (k, v) :: fields => by
    have hnext : ("," ++ newLine level : Text).isWhole = true := by
      rw [Text.isWhole_append, isWhole_newLine]
      rfl
    rw [prettyFields, List.flatten_append, Text.isWhole_append, List.flatten_append,
      Text.isWhole_append, isWhole_prettyAt level v, isWhole_prettyFields level hnext fields,
      Value.storableFields]
    simp [h, isWhole_writeString]

end

/-- The text of a value has bytes if no text in the value has a lone half. -/
theorem isWhole_pretty (v : Value) : (pretty v).isWhole = v.isStorable :=
  isWhole_prettyAt 0 v

/-- Reading undoes writing : where the text that is written for the value has bytes, the value is
read back from it. -/
def RoundTrips (v : Value) : Prop :=
  ∀ s, (pretty v).string? = some s → readChars (FileTree.unixLines s.toList) = .ok v

theorem isStorable_of_string? {v : Value} {s : String} (h : (pretty v).string? = some s) :
    v.isStorable = true := by
  rw [← isWhole_pretty, Text.eq_of_string? h]
  exact Text.isWhole_ofString s

theorem roundTrips_of_not_storable {v : Value} (h : v.isStorable = false) : RoundTrips v := by
  intro s hs
  rw [isStorable_of_string? hs] at h
  cases h

/-- Whether a value has a text with bytes and is read back from it, worked out. -/
def readsBack (v : Value) : Bool :=
  match (pretty v).mapM CodePoint.char? with
  | some cs =>
    match readChars (FileTree.unixLines cs) with
    | .ok w => w.beq v
    | .error _ => false
  | none => false

theorem roundTrips_of_readsBack {v : Value} (h : readsBack v = true) :
    RoundTrips v ∧ v.isStorable = true := by
  unfold readsBack at h
  split at h
  next cs hcs =>
    have hs : (pretty v).string? = some (String.ofList cs) := by rw [Text.string?, hcs]; rfl
    split at h
    next w hread =>
      refine ⟨fun s hs' => ?_, isStorable_of_string? hs⟩
      obtain rfl := Option.some.inj (hs.symm.trans hs')
      rw [String.toList_ofList, hread, Value.beq_sound h]
    · cases h
  · cases h

end Json

/-! ## Files -/

namespace FileTree

/-- A file can be written at the path to its end, and read there. -/
structure IsWritable (t : FileTree) (p : Path) : Prop where
  fault : p.fault? = none
  opened : t.openForWriting p = .ok (t.system.location p)
  whole : Entries.get? t.system.interrupted (t.system.location p) = none
  readable : t.system.allow (t.system.location p) .read = .ok ()

variable {t : FileTree} {p : Path}

/-- All of a text in pieces is encoded if it has bytes, and otherwise only a front of it. -/
theorem encodable_eq : ∀ pieces : List Text,
    (encodable pieces).2 = Text.isWhole pieces.flatten ∧
      ((encodable pieces).2 = true → ((encodable pieces).1 : Text) = pieces.flatten)
  | [] => ⟨rfl, fun _ => rfl⟩
  | piece :: rest => by
    obtain ⟨hwhole, htext⟩ := encodable_eq rest
    rw [List.flatten_cons, Text.isWhole_append]
    cases hpiece : piece.string? with
    | none =>
      have hfront : (encodable (piece :: rest)).2 = false := by rw [encodable, hpiece]
      have hhalf : piece.isWhole = false := by
        by_contra hnot
        obtain ⟨s, hs⟩ := Text.exists_string? (Bool.not_eq_false _ ▸ hnot)
        rw [hpiece] at hs
        cases hs
      rw [hfront, hhalf, Bool.false_and]
      exact ⟨rfl, fun h => by cases h⟩
    | some s =>
      have hall : encodable (piece :: rest) = (s ++ (encodable rest).1, (encodable rest).2) := by
        rw [encodable, hpiece]
      obtain rfl := Text.eq_of_string? hpiece
      rw [hall, Text.isWhole_ofString, Bool.true_and]
      exact ⟨hwhole, fun h => by rw [← htext h]; simp [Text.ofString, Text.ofChars]⟩

/-- A file that is written to its end can be read, and written again. -/
theorem IsWritable.exists_writeFile (h : t.IsWritable p) (content : Content) : ∃ after,
    t.writeFile p content = (after, none) ∧ after.IsWritable p ∧
      after.readFile p = .ok content := by
  refine ⟨_, writeFile_eq_none_iff.2 ⟨h.opened, h.whole, rfl⟩, ?_⟩
  obtain ⟨-, hlanding, hnode, -⟩ := openForWriting_eq_ok_iff.1 h.opened
  have hextends := extends_put_file hnode content
  have hput := node?_put_self (t := t) (isGiven_of_node? hnode) (.file content)
  refine ⟨⟨h.fault, hextends.openForWriting h.opened (by simp [hput]), h.whole, h.readable⟩, ?_⟩
  rw [readFile, openForReading, hextends.landing hlanding, bind_ok, hput]
  simp only [system_put, h.readable]
  rfl

/-- A value is written as far as its text has bytes. -/
theorem IsWritable.exists_writeValue (h : t.IsWritable p) (v : Value) : ∃ after,
    t.writePieces p (Json.prettyPieces v) =
      (after, if v.isStorable then none else some (.fault .unencodable)) ∧
    after.IsWritable p ∧
    after.readFile p = .ok (.text (encodable (Json.prettyPieces v)).1) := by
  obtain ⟨after, hwrite, hafter⟩ := h.exists_writeFile (.text (encodable (Json.prettyPieces v)).1)
  refine ⟨after, ?_, hafter⟩
  rw [← Json.isWhole_pretty, Json.pretty, ← (encodable_eq (Json.prettyPieces v)).1, writePieces]
  simp only [hwrite]

theorem hasPath_of_readFile {content : Content} (hfault : p.fault? = none)
    (h : t.readFile p = .ok content) : t.hasPath p = .ok true := by
  have hopen := mapError_eq_ok_iff.1 h
  obtain ⟨loc, hlanding, hopen⟩ := bind_eq_ok_iff.1 hopen
  obtain ⟨node, hstatus⟩ : ∃ node, t.status p = .ok node := by
    rw [status, hlanding, bind_ok]
    cases hnode : t.node? loc with
    | none => simp [hnode] at hopen
    | some node => exact ⟨node, rfl⟩
  simp [hasPath, hfault, hstatus]

end FileTree

end DtoPress
