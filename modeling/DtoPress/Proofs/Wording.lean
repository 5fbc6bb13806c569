import DtoPress.Json.Reader
import DtoPress.Proofs.Entries
import DtoPress.Proofs.Results
import DtoPress.Proofs.Textual
import DtoPress.Value.Access
import Mathlib.Algebra.Group.Int.Defs
import Mathlib.Algebra.Group.Nat.Defs

/-!
# Values that have a text

A value can be printed unless a number in it has too many digits or its brackets are nested too
deep (`Value.isPrintable`). What stands inside a value that can be printed can be printed too
(`Value.isPrintable_of_mem`, `Value.isPrintable_fieldOr`). The reader of JSON keeps to the same
limits : a number it takes has no more digits, and a value that it reads with some number of
brackets left needs no more than those (`Json.hindrance?_readValue`). So every document that is
read can be printed, and so can all its parts (`Json.isPrintable_of_read`).
-/

set_option linter.unusedSectionVars false

namespace DtoPress

namespace Value

/-! ## Printing -/

variable {v : Value} {depth : Nat}

/-- Nothing in the value keeps it from being printed. -/
def isPrintable (v : Value) : Bool :=
  (v.hindrance? maxDepth).isNone

theorem isPrintable_iff : v.isPrintable = true ↔ v.hindrance? maxDepth = none :=
  Option.isNone_iff_eq_none

/-- A value that can be printed has its text. -/
theorem print_eq (h : v.isPrintable = true) : v.print = .ok v.text := by
  rw [print, isPrintable_iff.1 h]

theorem hindrance?_str (depth : Nat) (t : Text) : (Value.str t).hindrance? depth = none := by
  cases depth <;> rfl

theorem hindrance?_int (depth : Nat) (n : Int) :
    (Value.int n).hindrance? depth = numberHindrance? n := by
  cases depth <;> rw [hindrance?]

/-- A power of ten with too many zeros has no text. -/
theorem print_power {n : Nat} (h : maxDigits ≤ n) :
    (Value.int (10 ^ n)).print = .error .badValue := by
  have hlong : ¬ ((10 : Int) ^ n).natAbs < Nat.pow 10 maxDigits := by
    rw [Int.natAbs_pow, Nat.pow_eq]
    exact Nat.not_lt_of_le (Nat.pow_le_pow_right (by decide) h)
  rw [print, hindrance?_int, numberHindrance?, if_neg hlong]

theorem isPrintable_str (t : Text) : (Value.str t).isPrintable = true :=
  isPrintable_iff.2 (hindrance?_str _ t)

theorem print_str (t : Text) : (Value.str t).print = .ok t :=
  print_eq (isPrintable_str t)

theorem isPrintable_of_isText (h : v.isText = true) : v.isPrintable = true := by
  obtain ⟨t, rfl⟩ := isText_iff.1 h
  exact isPrintable_str t

theorem hindranceInItems?_eq_none_iff : ∀ {items : List Value},
    hindranceInItems? depth items = none ↔ ∀ w ∈ items, w.hindrance? depth = none
  | [] => by simp [hindranceInItems?]
  | w :: items => by
    simp only [hindranceInItems?, Option.or_eq_none_iff, List.forall_mem_cons,
      @hindranceInItems?_eq_none_iff items]

theorem hindranceInFields?_eq_none_iff : ∀ {fields : List (Text × Value)},
    hindranceInFields? depth fields = none ↔ ∀ f ∈ fields, f.2.hindrance? depth = none
  | [] => by simp [hindranceInFields?]
  | (k, w) :: fields => by
    simp only [hindranceInFields?, Option.or_eq_none_iff, List.forall_mem_cons,
      @hindranceInFields?_eq_none_iff fields]

mutual

/-- With more brackets to open a value can still be written. -/
theorem hindrance?_mono : ∀ (depth depth' : Nat) (v : Value), depth ≤ depth' →
    v.hindrance? depth = none → v.hindrance? depth' = none
  | _, depth', .null => fun _ _ => by cases depth' <;> rfl
  | _, depth', .bool _ => fun _ _ => by cases depth' <;> rfl
  | _, depth', .float _ => fun _ _ => by cases depth' <;> rfl
  | _, depth', .str t => fun _ _ => hindrance?_str depth' t
  | depth, depth', .int n => fun _ hn =>
    (hindrance?_int depth' n).trans ((hindrance?_int depth n).symm.trans hn)
  | 0, _, .list _ => fun _ hitems => by cases hitems
  | depth + 1, 0, .list _ => fun h _ => absurd h (Nat.not_succ_le_zero depth)
  | depth + 1, depth' + 1, .list items => fun h hitems =>
    hindranceInItems?_mono depth depth' items (Nat.le_of_succ_le_succ h) hitems
  | 0, _, .object _ => fun _ hfields => by cases hfields
  | depth + 1, 0, .object _ => fun h _ => absurd h (Nat.not_succ_le_zero depth)
  | depth + 1, depth' + 1, .object fields => fun h hfields =>
    hindranceInFields?_mono depth depth' fields (Nat.le_of_succ_le_succ h) hfields

theorem hindranceInItems?_mono : ∀ (depth depth' : Nat) (items : List Value), depth ≤ depth' →
    hindranceInItems? depth items = none → hindranceInItems? depth' items = none
  | _, _, [] => fun _ _ => rfl
  | depth, depth', w :: items => fun h hitems => by
    rw [hindranceInItems?, Option.or_eq_none_iff] at hitems ⊢
    exact ⟨hindrance?_mono depth depth' w h hitems.1,
      hindranceInItems?_mono depth depth' items h hitems.2⟩

theorem hindranceInFields?_mono : ∀ (depth depth' : Nat) (fields : List (Text × Value)),
    depth ≤ depth' →
      hindranceInFields? depth fields = none → hindranceInFields? depth' fields = none
  | _, _, [] => fun _ _ => rfl
  | depth, depth', (_, w) :: fields => fun h hfields => by
    rw [hindranceInFields?, Option.or_eq_none_iff] at hfields ⊢
    exact ⟨hindrance?_mono depth depth' w h hfields.1,
      hindranceInFields?_mono depth depth' fields h hfields.2⟩

end

/-! ## Inside a value -/

theorem isPrintable_of_mem {items : List Value} (h : (Value.list items).isPrintable = true)
    {w : Value} (hw : w ∈ items) : w.isPrintable = true :=
  isPrintable_iff.2 <| hindrance?_mono _ _ w (Nat.le_succ _) <|
    hindranceInItems?_eq_none_iff.1 (isPrintable_iff.1 h) w hw

theorem isPrintable_of_get? {fields : Entries Text Value}
    (h : (Value.object fields).isPrintable = true) {key : Text} {w : Value}
    (hw : fields.get? key = some w) : w.isPrintable = true :=
  isPrintable_iff.2 <| hindrance?_mono _ _ w (Nat.le_succ _) <|
    hindranceInFields?_eq_none_iff.1 (isPrintable_iff.1 h) (key, w) (Entries.mem_of_get? hw)

/-- What stands under a key of a value that can be printed. -/
theorem isPrintable_fieldOr (h : v.isPrintable = true) (key : Text) {usual : Value}
    (husual : usual.isPrintable = true) : (v.fieldOr key usual).isPrintable = true := by
  cases v with
  | object fields =>
    rw [fieldOr]
    cases hget : Entries.get? fields key with
    | none => exact husual
    | some w => exact isPrintable_of_get? h hget
  | _ => exact husual

theorem hindranceInFields?_put (key : Text) {w : Value} : ∀ {fields : Entries Text Value},
    hindranceInFields? depth fields = none → w.hindrance? depth = none →
      hindranceInFields? depth (fields.put key w) = none
  | [], _, hw => by
    rw [Entries.put, hindranceInFields?, hw]
    rfl
  | (k, u) :: fields, h, hw => by
    rw [hindranceInFields?, Option.or_eq_none_iff] at h
    rw [Entries.put]
    split
    · rw [hindranceInFields?, Option.or_eq_none_iff]
      exact ⟨hw, h.2⟩
    · rw [hindranceInFields?, Option.or_eq_none_iff]
      exact ⟨h.1, hindranceInFields?_put key h.2 hw⟩

end Value

namespace Json

/-! ## What is read -/

theorem digit_lt {c : Char} (h : c.isDigit = true) : c.toNat - 48 < 10 := by
  have hupper : c.toNat ≤ 57 := by
    simp only [Char.isDigit, Bool.and_eq_true, decide_eq_true_eq] at h
    exact h.2
  omega

/-- A number of some digits is below the power of ten with as many zeros. -/
theorem digitsValue_lt {cs : List Char} (h : ∀ c ∈ cs, c.isDigit = true) :
    digitsValue cs < 10 ^ cs.length := by
  have hfrom : ∀ (cs : List Char) (n : Nat), (∀ c ∈ cs, c.isDigit = true) →
      cs.foldl (fun n c => n * 10 + (c.toNat - 48)) n < (n + 1) * 10 ^ cs.length := by
    intro cs
    induction cs with
    | nil => intro n _; simp
    | cons c cs ih =>
      intro n hcs
      obtain ⟨hc, hrest⟩ := List.forall_mem_cons.1 hcs
      have hdigit := digit_lt hc
      calc (c :: cs).foldl (fun n c => n * 10 + (c.toNat - 48)) n
          < (n * 10 + (c.toNat - 48) + 1) * 10 ^ cs.length := ih _ hrest
        _ ≤ ((n + 1) * 10) * 10 ^ cs.length := Nat.mul_le_mul_right _ (by omega)
        _ = (n + 1) * 10 ^ (c :: cs).length := by
          rw [List.length_cons, Nat.pow_succ, Nat.mul_assoc, Nat.mul_comm 10]
  simpa [digitsValue] using hfrom cs 0 h

theorem isDigit_of_leadingDigits {cs whole rest : List Char}
    (h : leadingDigits cs = some (whole, rest)) : ∀ c ∈ whole, c.isDigit = true := by
  unfold leadingDigits at h
  split at h
  · obtain ⟨rfl, -⟩ := Prod.mk.inj (Option.some.inj h)
    exact List.forall_mem_singleton.2 rfl
  next c tail _ =>
    split at h
    next hc =>
      obtain ⟨rfl, -⟩ := Prod.mk.inj (Option.some.inj h)
      rw [List.forall_mem_cons]
      exact ⟨hc, List.all_eq_true.1 List.all_takeWhile⟩
    · cases h
  · cases h

variable {at_ after : Cursor} {v : Value}

/-- A whole number of not too many digits. -/
theorem hindrance?_digitsValue (depth : Nat) {whole : List Char}
    (hwhole : ∀ c ∈ whole, c.isDigit = true) (hdigits : whole.length ≤ Value.maxDigits)
    (negative : Bool) :
    (Value.int (if negative then -(digitsValue whole : Int) else digitsValue whole)).hindrance?
      depth = none := by
  have habs : (if negative then -(digitsValue whole : Int) else digitsValue whole).natAbs =
      digitsValue whole := by
    cases negative
    · exact Int.natAbs_natCast _
    · exact Int.natAbs_neg _
  have hlt : ∀ {digits : Nat}, whole.length ≤ digits → digitsValue whole < Nat.pow 10 digits :=
    fun h => Nat.lt_of_lt_of_le (digitsValue_lt hwhole) (Nat.pow_le_pow_right (by decide) h)
  rw [Value.hindrance?_int, Value.numberHindrance?, habs, if_pos (hlt hdigits)]

/-- A number that is read is a whole one of not too many digits, or a floating-point one. -/
theorem hindrance?_readNumber (depth : Nat) (h : readNumber at_ = .ok (v, after)) :
    v.hindrance? depth = none := by
  have hnumber : ∀ {whole : List Char} {isWhole : Prop} [Decidable isWhole] {negative : Bool}
      {x : Binary64} {next next' : Cursor}, (∀ c ∈ whole, c.isDigit = true) →
      (if isWhole then
        if Value.maxDigits < whole.length then .error (.limit .badValue)
        else .ok (.int (if negative then -(digitsValue whole : Int) else digitsValue whole), next)
      else (.ok (.float x, next') : Except Failure (Value × Cursor))) = .ok (v, after) →
        v.hindrance? depth = none := by
    intro whole isWhole _ negative x next next' hwhole h
    split at h
    · split at h
      · cases h
      next hdigits =>
        obtain ⟨rfl, -⟩ := Prod.mk.inj (Except.ok.inj h)
        exact hindrance?_digitsValue depth hwhole (Nat.le_of_not_lt hdigits) negative
    · obtain ⟨rfl, -⟩ := Prod.mk.inj (Except.ok.inj h)
      cases depth <;> rfl
  unfold readNumber at h
  dsimp only at h
  split at h
  · cases h
  next whole rest hwhole => exact hnumber (isDigit_of_leadingDigits hwhole) h

theorem hindrance?_readScalar (depth : Nat) (h : readScalar at_ = .ok (v, after)) :
    v.hindrance? depth = none := by
  unfold readScalar at h
  split at h
  next word w hword =>
    obtain ⟨rfl, -⟩ := Prod.mk.inj (Except.ok.inj h)
    have hwords : ∀ entry ∈ wordValues, entry.2.hindrance? depth = none := by
      cases depth <;> simp [wordValues, Value.hindrance?]
    exact hwords _ (List.mem_of_find?_eq_some hword)
  · exact hindrance?_readNumber depth h

/-- What is read with some number of brackets left can be written with as many. The induction is
on the fuel, for values, items and fields at once. -/
theorem hindrance?_read : ∀ fuel : Nat,
    (∀ depth at_ v after, readValue depth fuel at_ = .ok (v, after) →
      v.hindrance? depth = none) ∧
    (∀ depth at_ items after, readItems depth fuel at_ = .ok (items, after) →
      Value.hindranceInItems? depth items = none) ∧
    ∀ depth before at_ fields after, Value.hindranceInFields? depth before = none →
      readFields depth fuel before at_ = .ok (fields, after) →
        Value.hindranceInFields? depth fields = none
  | 0 => by
    refine ⟨fun depth at_ v after h => ?_, fun depth at_ items after h => ?_,
      fun depth before at_ fields after _ h => ?_⟩
    · cases h
    · cases h
    · cases h
  | fuel + 1 => by
    obtain ⟨ihValue, ihItems, ihFields⟩ := hindrance?_read fuel
    refine ⟨fun depth at_ v after h => ?_, fun depth at_ items after h => ?_,
      fun depth before at_ fields after hbefore h => ?_⟩
    · unfold readValue at h
      split at h
      · obtain ⟨⟨t, next⟩, -, h⟩ := bind_eq_ok_iff.1 h
        obtain ⟨rfl, -⟩ := Prod.mk.inj (Except.ok.inj h)
        exact Value.hindrance?_str depth t
      · cases depth with
        | zero => cases h
        | succ depth =>
          dsimp only at h
          split at h
          · obtain ⟨rfl, -⟩ := Prod.mk.inj (Except.ok.inj h)
            rfl
          · obtain ⟨⟨items, next⟩, hitems, h⟩ := bind_eq_ok_iff.1 h
            obtain ⟨rfl, -⟩ := Prod.mk.inj (Except.ok.inj h)
            exact ihItems depth _ items next hitems
      · cases depth with
        | zero => cases h
        | succ depth =>
          dsimp only at h
          split at h
          · obtain ⟨rfl, -⟩ := Prod.mk.inj (Except.ok.inj h)
            rfl
          · obtain ⟨⟨fields, next⟩, hfields, h⟩ := bind_eq_ok_iff.1 h
            obtain ⟨rfl, -⟩ := Prod.mk.inj (Except.ok.inj h)
            exact ihFields depth [] _ fields next rfl hfields
      · exact hindrance?_readScalar depth h
    · unfold readItems at h
      obtain ⟨⟨item, next⟩, hitem, h⟩ := bind_eq_ok_iff.1 h
      have hfirst := ihValue depth at_ item next hitem
      dsimp only at h
      split at h
      · obtain ⟨rfl, -⟩ := Prod.mk.inj (Except.ok.inj h)
        simpa [Value.hindranceInItems?] using hfirst
      · obtain ⟨⟨more, last⟩, hmore, h⟩ := bind_eq_ok_iff.1 h
        obtain ⟨rfl, -⟩ := Prod.mk.inj (Except.ok.inj h)
        rw [Value.hindranceInItems?, Option.or_eq_none_iff]
        exact ⟨hfirst, ihItems depth _ more last hmore⟩
      · cases h
    · unfold readFields at h
      obtain ⟨⟨key, behind⟩, -, h⟩ := bind_eq_ok_iff.1 h
      obtain ⟨⟨value, next⟩, hvalue, h⟩ := bind_eq_ok_iff.1 h
      have hput := Value.hindranceInFields?_put key hbefore
        (ihValue depth _ value next hvalue)
      dsimp only at h
      split at h
      · obtain ⟨rfl, -⟩ := Prod.mk.inj (Except.ok.inj h)
        exact hput
      · exact ihFields depth _ _ fields after hput h
      · cases h

theorem isPrintable_of_readChars {cs : List Char} (h : readChars cs = .ok v) :
    v.isPrintable = true := by
  have hbody : readChars.body cs = .ok v → v.isPrintable = true := by
    intro h
    obtain ⟨⟨w, next⟩, hread, h⟩ := bind_eq_ok_iff.1 h
    dsimp only at h
    split at h
    · obtain rfl := Except.ok.inj h
      exact Value.isPrintable_iff.2 ((hindrance?_read _).1 _ _ w next hread)
    · cases h
  unfold readChars at h
  split at h
  · split at h
    · cases h
    · exact hbody h
  · exact hbody h

/-- A document that is read from JSON can be printed. -/
theorem isPrintable_of_read {s : String} (h : read s = .ok v) : v.isPrintable = true :=
  isPrintable_of_readChars (mapError_eq_ok_iff.1 h)

end Json

end DtoPress
