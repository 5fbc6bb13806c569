import DtoPress.Text.Lines

/-!
# Laws of splitting

The pieces of a list hold no separator and are parts of the list (`Text.not_mem_of_mem_split`,
`Text.isInfix_of_mem_splitLines`), and what has no separator is one piece. So a text and its lines
determine each other (`Text.splitLines_joinLines`).
-/

set_option linter.unusedSectionVars false

namespace DtoPress.Text

variable {α : Type} [DecidableEq α] {sep : α}

/-! ## Pieces -/

theorem split_of_not_mem : ∀ {cs : List α}, sep ∉ cs → split sep cs = [cs]
  | [], _ => rfl
  | c :: cs, h => by
    rw [List.mem_cons, not_or] at h
    rw [split, if_neg fun heq => h.1 heq.symm, split_of_not_mem h.2]

theorem split_ne_nil : ∀ cs : List α, split sep cs ≠ []
  | [] => by simp [split]
  | c :: cs => by
    rw [split]
    split
    · simp
    · split <;> simp

theorem split_cons_of_ne {c : α} (h : c ≠ sep) (cs : List α) : ∃ p ps,
    split sep cs = p :: ps ∧ split sep (c :: cs) = (c :: p) :: ps := by
  cases hsplit : split sep cs with
  | nil => exact absurd hsplit (split_ne_nil cs)
  | cons p ps => exact ⟨p, ps, rfl, by rw [split, if_neg h, hsplit]⟩

/-- The pieces on both sides of a separator are those of the two sides. -/
theorem split_append_separator (ds : List α) : ∀ cs : List α,
    split sep (cs ++ sep :: ds) = split sep cs ++ split sep ds
  | [] => by
    rw [List.nil_append, split, split, if_pos rfl, List.singleton_append]
  | c :: cs => by
    have ih := split_append_separator ds cs
    by_cases hc : c = sep
    · rw [List.cons_append, split, if_pos hc, ih, split, if_pos hc, List.cons_append]
    · obtain ⟨p, ps, hcs, hccs⟩ := split_cons_of_ne hc cs
      obtain ⟨q, qs, hall, hcall⟩ := split_cons_of_ne hc (cs ++ sep :: ds)
      rw [hall, hcs, List.cons_append] at ih
      obtain ⟨rfl, rfl⟩ := List.cons.inj ih
      rw [List.cons_append, hcall, hccs, List.cons_append]

theorem split_append_cons (ds : List α) {cs : List α} (h : sep ∉ cs) :
    split sep (cs ++ sep :: ds) = cs :: split sep ds := by
  rw [split_append_separator, split_of_not_mem h, List.singleton_append]

/-- Blocks that each have a separator behind them are the pieces before what follows them. -/
theorem split_flatMap {tail : List α} (htail : sep ∉ tail) : ∀ {blocks : List (List α)},
    (∀ b ∈ blocks, sep ∉ b) → split sep (blocks.flatMap (· ++ [sep]) ++ tail) = blocks ++ [tail]
  | [], _ => split_of_not_mem htail
  | b :: blocks, h => by
    obtain ⟨hb, hblocks⟩ := List.forall_mem_cons.1 h
    rw [List.flatMap_cons, List.append_assoc, List.append_assoc, List.singleton_append,
      split_append_cons _ hb, split_flatMap htail hblocks, List.cons_append]

/-- No piece holds a separator. -/
theorem not_mem_of_mem_split : ∀ {cs p : List α}, p ∈ split sep cs → sep ∉ p
  | [], p, h => by
    rw [List.mem_singleton.1 h]
    exact List.not_mem_nil
  | c :: cs, p, h => by
    by_cases hc : c = sep
    · rw [split, if_pos hc] at h
      rcases List.mem_cons.1 h with rfl | h
      · exact List.not_mem_nil
      · exact not_mem_of_mem_split h
    · obtain ⟨q, qs, hcs, hccs⟩ := split_cons_of_ne hc cs
      have hrest : ∀ r ∈ q :: qs, sep ∉ r := fun r hr => not_mem_of_mem_split (hcs ▸ hr)
      rw [hccs] at h
      rcases List.mem_cons.1 h with rfl | h
      · rw [List.mem_cons, not_or]
        exact ⟨fun heq => hc heq.symm, hrest q List.mem_cons_self⟩
      · exact hrest p (List.mem_cons_of_mem q h)

/-- A piece holds nothing that the list does not hold. -/
theorem subset_of_mem_split : ∀ {cs p : List α}, p ∈ split sep cs → p ⊆ cs
  | [], p, h => by
    rw [List.mem_singleton.1 h]
    exact List.nil_subset _
  | c :: cs, p, h => by
    have hrest : ∀ r ∈ split sep cs, r ⊆ c :: cs := fun r hr =>
      List.Subset.trans (subset_of_mem_split hr) (List.subset_cons_self c cs)
    by_cases hc : c = sep
    · rw [split, if_pos hc] at h
      rcases List.mem_cons.1 h with rfl | h
      · exact List.nil_subset _
      · exact hrest p h
    · obtain ⟨q, qs, hcs, hccs⟩ := split_cons_of_ne hc cs
      rw [hcs] at hrest
      rw [hccs] at h
      rcases List.mem_cons.1 h with rfl | h
      · exact List.cons_subset_cons c (subset_of_mem_split (hcs ▸ List.mem_cons_self))
      · exact hrest p (List.mem_cons_of_mem q h)

/-- What has no separator goes to the end of the last piece. -/
theorem split_append_of_not_mem {ds : List α} (hds : sep ∉ ds) : ∀ cs : List α,
    split sep (cs ++ ds) =
      (split sep cs).dropLast ++ [(split sep cs).getLast?.getD [] ++ ds]
  | [] => by simp [split, split_of_not_mem hds]
  | c :: cs => by
    have ih := split_append_of_not_mem hds cs
    by_cases hc : c = sep
    · have hne : split sep cs ≠ [] := split_ne_nil cs
      rw [List.cons_append, split, if_pos hc, ih, split, if_pos hc,
        List.dropLast_cons_of_ne_nil hne, List.getLast?_cons_of_ne_nil hne]
      rfl
    · obtain ⟨p, ps, hcs, hccs⟩ := split_cons_of_ne hc cs
      obtain ⟨q, qs, hds', hcds⟩ := split_cons_of_ne hc (cs ++ ds)
      rw [List.cons_append, hcds, hccs]
      rw [hds', hcs] at ih
      cases ps with
      | nil =>
        obtain ⟨rfl, rfl⟩ := List.cons.inj ih
        rfl
      | cons p' ps =>
        obtain ⟨rfl, rfl⟩ := List.cons.inj ih
        rfl

/-! ## Lines -/

theorem joinLines_cons {ls : List Text} (h : ls ≠ []) (l : Text) :
    joinLines (l :: ls) = l ++ .char '\n' :: joinLines ls := by
  obtain ⟨m, ms, rfl⟩ := List.exists_cons_of_ne_nil h
  rfl

theorem joinLines_concat (l : Text) : ∀ {ls : List Text}, ls ≠ [] →
    joinLines (ls ++ [l]) = joinLines ls ++ .char '\n' :: l
  | [m], _ => rfl
  | m :: n :: ls, _ => by
    rw [List.cons_append, joinLines_cons (by simp), joinLines_concat l (List.cons_ne_nil n ls),
      joinLines_cons (List.cons_ne_nil n ls), List.append_assoc]
    rfl

theorem joinLines_splitLines : ∀ t : Text, joinLines (splitLines t) = t
  | [] => rfl
  | c :: cs => by
    have ih := joinLines_splitLines cs
    unfold splitLines at ih ⊢
    by_cases hc : c = .char '\n'
    · rw [split, if_pos hc, joinLines_cons (split_ne_nil cs), ih, hc]
      rfl
    · obtain ⟨p, ps, hcs, hccs⟩ := split_cons_of_ne hc cs
      rw [hcs] at ih
      rw [hccs]
      cases ps with
      | nil => exact congrArg (c :: ·) ih
      | cons q ps =>
        rw [joinLines_cons (List.cons_ne_nil q ps)] at ih ⊢
        exact congrArg (c :: ·) ih

/-- Lines without line feeds are the lines of the text that they make. -/
theorem splitLines_joinLines : ∀ {ls : List Text}, ls ≠ [] →
    (∀ l ∈ ls, (.char '\n' : CodePoint) ∉ l) → splitLines (joinLines ls) = ls
  | [l], _, h => split_of_not_mem (h l List.mem_cons_self)
  | l :: m :: ls, _, h => by
    rw [joinLines_cons (List.cons_ne_nil m ls), splitLines,
      split_append_cons _ (h l List.mem_cons_self)]
    exact congrArg (l :: ·) (splitLines_joinLines (List.cons_ne_nil m ls)
      fun n hn => h n (List.mem_cons_of_mem l hn))

/-- Each line of a text can be changed, as long as it stays one line. -/
theorem splitLines_joinLines_map {f : Text → Text}
    (hf : ∀ l : Text, (.char '\n' : CodePoint) ∉ l → .char '\n' ∉ f l) (t : Text) :
    splitLines (joinLines ((splitLines t).map f)) = (splitLines t).map f := by
  refine splitLines_joinLines ?_ fun l hl => ?_
  · rw [ne_eq, List.map_eq_nil_iff]
    exact split_ne_nil t
  · obtain ⟨m, hm, rfl⟩ := List.mem_map.1 hl
    exact hf m (not_mem_of_mem_split hm)

theorem isInfix_joinLines : ∀ {ls : List Text} {l : Text}, l ∈ ls → l <:+: joinLines ls
  | [m], l, h => by
    rw [List.mem_singleton.1 h]
    exact List.infix_rfl
  | m :: n :: ls, l, h => by
    rw [joinLines_cons (List.cons_ne_nil n ls)]
    rcases List.mem_cons.1 h with rfl | h
    · exact (List.prefix_append l _).isInfix
    · exact (isInfix_joinLines h).trans
        ((List.suffix_cons _ _).trans (List.suffix_append m _)).isInfix

/-- The lines of a text are parts of it. -/
theorem isInfix_of_mem_splitLines {t l : Text} (h : l ∈ splitLines t) : l <:+: t :=
  joinLines_splitLines t ▸ isInfix_joinLines h

end DtoPress.Text
