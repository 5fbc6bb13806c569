import DtoPress.Proofs.Textual

/-!
# Sorting texts

Code points are ordered by their numbers, and no two share one, so the order of texts is linear.
Texts can always be sorted, in ascending order and with none lost or added
(`Value.sort?_map_str`). Hence the outcome does not depend on the order in which they came
(`Value.sort?_of_perm`).
-/

namespace DtoPress

/-! ## The order of texts -/

namespace CodePoint

/-- A character is no half of a surrogate pair, so numbers tell code points apart. -/
theorem value_injective : ∀ {a b : CodePoint}, a.value = b.value → a = b
  | char c, char d, h => by
    rw [Char.ext (UInt32.toNat_inj.1 h)]
  | half i, half j, h => by
    rw [Fin.ext (Nat.add_left_cancel h)]
  | char c, half i, h => by
    have hc := c.valid
    simp only [value, Char.toNat] at h
    simp only [UInt32.isValidChar, Nat.isValidChar] at hc
    omega
  | half i, char c, h => by
    have hc := c.valid
    simp only [value, Char.toNat] at h
    simp only [UInt32.isValidChar, Nat.isValidChar] at hc
    omega

instance : Std.Asymm (fun a b : CodePoint => a < b) :=
  ⟨fun _ _ h => Nat.lt_asymm h⟩

instance : Std.Trichotomous (fun a b : CodePoint => a < b) :=
  ⟨fun _ _ hab hba => value_injective (Nat.le_antisymm (Nat.not_lt.1 hba) (Nat.not_lt.1 hab))⟩

instance : Trans (fun a b : CodePoint => a < b) (fun a b => a < b) (fun a b => a < b) :=
  ⟨fun h h' => Nat.lt_trans h h'⟩

end CodePoint

/-! ## Sorted texts -/

namespace Value

theorem insertValue_map_str (t : Text) : ∀ ts : List Text, ∃ us : List Text,
    insertValue (.str t) (ts.map .str) = us.map .str ∧ us.Perm (t :: ts) ∧
      (ts.Pairwise (· ≤ ·) → us.Pairwise (· ≤ ·))
  | [] => ⟨[t], rfl, .refl _, fun _ => List.pairwise_singleton _ t⟩
  | u :: ts => by
    by_cases h : t < u
    · refine ⟨t :: u :: ts, ?_, .refl _, fun hts => ?_⟩
      · simp [insertValue, less?_str, h]
      · refine List.pairwise_cons.2 ⟨fun v hv => ?_, hts⟩
        rcases List.mem_cons.1 hv with rfl | hv
        · exact List.not_lt.1 (List.lt_asymm h)
        · have huv : u ≤ v := (List.pairwise_cons.1 hts).1 v hv
          exact List.not_lt.1 fun hvt => List.not_lt.2 huv (List.lt_trans hvt h)
    · obtain ⟨us, heq, hperm, hsorted⟩ := insertValue_map_str t ts
      refine ⟨u :: us, ?_, (hperm.cons u).trans (.swap t u ts), fun hts => ?_⟩
      · simp [insertValue, less?_str, h, heq]
      · obtain ⟨hu, hts⟩ := List.pairwise_cons.1 hts
        refine List.pairwise_cons.2 ⟨fun v hv => ?_, hsorted hts⟩
        rcases List.mem_cons.1 (hperm.subset hv) with rfl | hv
        · exact List.not_lt.1 h
        · exact hu v hv

theorem foldl_insertValue_map_str : ∀ (ts : List Text) {before : List Text},
    before.Pairwise (· ≤ ·) → ∃ us : List Text,
      (ts.map Value.str).foldl (fun sorted v => insertValue v sorted) (before.map .str) =
        us.map .str ∧ us.Perm (ts ++ before) ∧ us.Pairwise (· ≤ ·)
  | [], before, h => ⟨before, rfl, .refl _, h⟩
  | t :: ts, before, h => by
    obtain ⟨next, heq, hnext, hsorted⟩ := insertValue_map_str t before
    obtain ⟨us, hfold, hperm, hus⟩ := foldl_insertValue_map_str ts (hsorted h)
    refine ⟨us, ?_, hperm.trans ((hnext.append_left ts).trans List.perm_middle), hus⟩
    rw [List.map_cons, List.foldl_cons, heq, hfold]

/-- Texts can be sorted : they end up in ascending order, and none is lost or added. -/
theorem sort?_map_str (ts : List Text) : ∃ us : List Text,
    sort? (ts.map .str) = some (us.map .str) ∧ us.Perm ts ∧ us.Pairwise (· ≤ ·) := by
  obtain ⟨us, hfold, hperm, hsorted⟩ := foldl_insertValue_map_str ts List.Pairwise.nil
  rw [List.append_nil] at hperm
  refine ⟨us, ?_, hperm, hsorted⟩
  rw [sort?, anyUnordered_map_str, allComparable_map_str]
  exact congrArg some hfold

theorem exists_sort? {vs : List Value} (h : vs.all isText = true) :
    ∃ sorted, sort? vs = some sorted ∧ sorted.Perm vs := by
  obtain ⟨ts, rfl⟩ := exists_texts h
  obtain ⟨us, hsort, hperm, -⟩ := sort?_map_str ts
  exact ⟨us.map .str, hsort, hperm.map Value.str⟩

/-- The order in which texts come is lost when they are sorted. -/
theorem sort?_of_perm {vs ws : List Value} (h : vs.all isText = true) (hperm : vs.Perm ws) :
    sort? vs = sort? ws := by
  have hws : ws.all isText = true := by
    rw [List.all_eq_true] at h ⊢
    exact fun w hw => h w (hperm.mem_iff.2 hw)
  obtain ⟨ts, rfl⟩ := exists_texts h
  obtain ⟨us, rfl⟩ := exists_texts hws
  obtain ⟨ts', hts, htsPerm, htsSorted⟩ := sort?_map_str ts
  obtain ⟨us', hus, husPerm, husSorted⟩ := sort?_map_str us
  have htexts : ts.Perm us := by
    have hmap := hperm.map text
    simpa [List.map_map, Function.comp_def, text] using hmap
  have heq : ts' = us' := List.Perm.eq_of_pairwise (fun _ _ _ _ => List.le_antisymm) htsSorted
    husSorted ((htsPerm.trans htexts).trans husPerm.symm)
  rw [hts, hus, heq]

end Value

end DtoPress
