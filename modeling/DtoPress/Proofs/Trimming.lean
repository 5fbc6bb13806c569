import DtoPress.Text.Lines

/-!
# Texts without blanks at their ends

What is left of a text without the blanks at its ends is a part of it (`Text.trim_isInfix`), and
nothing is left exactly of a text that is all blank (`Text.trim_eq_nil_iff`).
-/

namespace DtoPress.Text

theorem trimRight_cons_of_ne_nil {cs : Text} (h : trimRight cs ≠ []) (c : CodePoint) :
    trimRight (c :: cs) = c :: trimRight cs := by
  rw [trimRight]
  split
  next hnil => exact absurd hnil h
  next d ds hcons => rw [hcons]

theorem trimRight_cons_of_eq_nil {cs : Text} (h : trimRight cs = []) (c : CodePoint) :
    trimRight (c :: cs) = if c.isA isBlank then [] else [c] := by
  rw [trimRight, h]

theorem trimRight_cons_of_not_blank {c : CodePoint} (h : c.isA isBlank = false) (cs : Text) :
    trimRight (c :: cs) = c :: trimRight cs := by
  by_cases hcs : trimRight cs = []
  · rw [trimRight_cons_of_eq_nil hcs, h, hcs, if_neg Bool.false_ne_true]
  · exact trimRight_cons_of_ne_nil hcs c

theorem trimRight_isPrefix : ∀ t : Text, trimRight t <+: t
  | [] => List.prefix_refl _
  | c :: cs => by
    by_cases h : trimRight cs = []
    · rw [trimRight_cons_of_eq_nil h]
      split
      · exact List.nil_prefix
      · exact ⟨cs, rfl⟩
    · rw [trimRight_cons_of_ne_nil h]
      exact (List.prefix_cons_inj c).2 (trimRight_isPrefix cs)

theorem trim_isInfix (t : Text) : trim t <:+: t :=
  (trimRight_isPrefix _).isInfix.trans (List.dropWhile_suffix _).isInfix

/-- There are no blanks left to remove. -/
@[simp] theorem trimRight_trimRight : ∀ t : Text, trimRight (trimRight t) = trimRight t
  | [] => rfl
  | c :: cs => by
    by_cases h : trimRight cs = []
    · rw [trimRight_cons_of_eq_nil h]
      split
      · rfl
      next hc => rw [trimRight_cons_of_eq_nil rfl, if_neg hc]
    · have ih := trimRight_trimRight cs
      have hagain : trimRight (trimRight cs) ≠ [] := by rwa [ih]
      rw [trimRight_cons_of_ne_nil h, trimRight_cons_of_ne_nil hagain, ih]

@[simp] theorem trimRight_trim (t : Text) : trimRight (trim t) = trim t :=
  trimRight_trimRight _

/-- Nothing is left of a text without the blanks at its end exactly if all of it is blank. -/
theorem trimRight_eq_nil_iff : ∀ {t : Text}, trimRight t = [] ↔ t.all (·.isA isBlank) = true
  | [] => ⟨fun _ => rfl, fun _ => rfl⟩
  | c :: cs => by
    rw [List.all_cons, Bool.and_eq_true, ← trimRight_eq_nil_iff (t := cs)]
    by_cases h : trimRight cs = []
    · rw [trimRight_cons_of_eq_nil h]
      split
      next hc => exact ⟨fun _ => ⟨hc, h⟩, fun _ => rfl⟩
      next hc =>
        exact ⟨fun hnil => absurd hnil (List.cons_ne_nil c []), fun hall => absurd hall.1 hc⟩
    · rw [trimRight_cons_of_ne_nil h]
      exact ⟨fun hnil => absurd hnil (List.cons_ne_nil c _), fun hall => absurd hall.2 h⟩

/-- A text is all blank exactly if nothing is left of it without the blanks at its ends. -/
theorem trim_eq_nil_iff {t : Text} : trim t = [] ↔ t.all (·.isA isBlank) = true := by
  rw [trim, trimRight_eq_nil_iff, trimLeft]
  constructor
  · intro h
    rw [← List.takeWhile_append_dropWhile (p := fun c : CodePoint => c.isA isBlank) (l := t),
      List.all_append, h, Bool.and_true]
    exact List.all_takeWhile
  · intro h
    rw [List.all_eq_true] at h ⊢
    exact fun c hc => h c ((List.dropWhile_suffix _).subset hc)

end DtoPress.Text
