import DtoPress.Entries

/-!
# Laws of entries

Reading after writing, and the order of keys. A run of writes leaves each key with the last
value it was given (`Entries.get?_putAll`), and the keys in the order in which they
were first written (`Entries.keys_putAll`); made again over what it left, it changes nothing
(`Entries.putAll_putAll_self`). That order is a fold of `appendNew`, which also
collects the symbols of an import and the paths that a directory was given, so it is computed
once, as `List.eraseDups` (`foldl_appendNew`).
-/

set_option linter.unusedSectionVars false

namespace DtoPress

/-! ## Collecting without duplicates -/

section Collecting

variable {α β : Type} [BEq α] [BEq β]

/-- An item at the end of a list unless it is there. -/
def appendNew (l : List α) (a : α) : List α :=
  if l.contains a then l else l ++ [a]

/-- A map that keeps what is equal and what is not keeps the duplicates. -/
theorem eraseDups_map {f : α → β} : ∀ {l : List α},
    (∀ a ∈ l, ∀ b ∈ l, (f a == f b) = (a == b)) → (l.map f).eraseDups = l.eraseDups.map f
  | [], _ => rfl
  | a :: l, hf => by
    have hfilter : (l.map f).filter (fun b => !b == f a) = (l.filter fun b => !b == a).map f := by
      rw [List.filter_map]
      refine congrArg (List.map f) (List.filter_congr fun b hb => ?_)
      exact congrArg Bool.not (hf b (List.mem_cons_of_mem a hb) a List.mem_cons_self)
    have hrest : ∀ b ∈ l.filter fun b => !b == a, ∀ c ∈ l.filter fun b => !b == a,
        (f b == f c) = (b == c) := fun b hb c hc =>
      hf b (List.mem_cons_of_mem a (List.mem_filter.1 hb).1)
        c (List.mem_cons_of_mem a (List.mem_filter.1 hc).1)
    rw [List.map_cons, List.eraseDups_cons, hfilter, eraseDups_map hrest, List.eraseDups_cons,
      List.map_cons]
termination_by l => l.length
decreasing_by exact Nat.lt_succ_of_le (List.length_filter_le _ _)

/-- A further item is collected after the items before it. -/
theorem eraseDups_concat (a : α) : ∀ l : List α, (l ++ [a]).eraseDups = appendNew l.eraseDups a
  | [] => rfl
  | b :: l => by
    rw [List.cons_append, List.eraseDups_cons, List.eraseDups_cons, List.filter_append]
    cases hab : a == b with
    | true => simp [appendNew, hab]
    | false =>
      have hkept : [a].filter (fun c => !c == b) = [a] := by simp [hab]
      rw [hkept, eraseDups_concat a (l.filter fun c => !c == b)]
      by_cases hrest : (l.filter fun c => !c == b).eraseDups.contains a
      · rw [appendNew, if_pos hrest, appendNew, if_pos (by simpa [hab] using hrest)]
      · rw [appendNew, if_neg hrest, appendNew, if_neg (by simpa [hab] using hrest)]
        rfl
termination_by l => l.length
decreasing_by exact Nat.lt_succ_of_le (List.length_filter_le _ _)

/-- Items collected one by one are the list of all of them without its duplicates. -/
theorem foldl_appendNew_eraseDups : ∀ l before : List α,
    l.foldl appendNew before.eraseDups = (before ++ l).eraseDups
  | [], before => by rw [List.append_nil, List.foldl_nil]
  | a :: l, before => by
    rw [List.foldl_cons, ← eraseDups_concat, foldl_appendNew_eraseDups l, List.append_assoc,
      List.singleton_append]

variable [LawfulBEq α]

theorem eraseDups_map_of_injOn [LawfulBEq β] {f : α → β} {l : List α}
    (hf : ∀ a ∈ l, ∀ b ∈ l, f a = f b → a = b) : (l.map f).eraseDups = l.eraseDups.map f := by
  refine eraseDups_map fun a ha b hb => ?_
  by_cases hab : a = b
  · simp [hab]
  · have hne : f a ≠ f b := fun heq => hab (hf a ha b hb heq)
    rw [beq_eq_false_iff_ne.2 hne, beq_eq_false_iff_ne.2 hab]

theorem appendNew_of_mem {l : List α} {a : α} (h : a ∈ l) : appendNew l a = l := by
  simp [appendNew, h]

theorem appendNew_of_not_mem {l : List α} {a : α} (h : a ∉ l) : appendNew l a = l ++ [a] := by
  simp [appendNew, h]

theorem mem_appendNew {l : List α} {a b : α} : b ∈ appendNew l a ↔ b ∈ l ∨ b = a := by
  by_cases h : a ∈ l
  · rw [appendNew_of_mem h]
    constructor
    · exact Or.inl
    · rintro (hb | rfl)
      · exact hb
      · exact h
  · simp [appendNew_of_not_mem h]

theorem nodup_appendNew {l : List α} {a : α} (h : l.Nodup) : (appendNew l a).Nodup := by
  by_cases ha : a ∈ l
  · rwa [appendNew_of_mem ha]
  · rw [appendNew_of_not_mem ha, List.nodup_append]
    refine ⟨h, by simp, ?_⟩
    intro b hb c hc
    rw [List.mem_singleton.1 hc]
    exact fun hba => ha (hba ▸ hb)

theorem eraseDups_of_nodup : ∀ {l : List α}, l.Nodup → l.eraseDups = l
  | [], _ => rfl
  | a :: l, h => by
    obtain ⟨ha, hl⟩ := List.nodup_cons.1 h
    have hfilter : (l.filter fun b => !b == a) = l := by
      rw [List.filter_eq_self]
      intro b hb
      have hba : b ≠ a := fun hba => ha (hba ▸ hb)
      simpa using hba
    rw [List.eraseDups_cons, hfilter, eraseDups_of_nodup hl]

theorem eraseDups_append_of_disjoint {l m : List α} (h : ∀ a ∈ m, a ∉ l) :
    (l ++ m).eraseDups = l.eraseDups ++ m.eraseDups := by
  have hremove : m.removeAll l = m := by
    rw [List.removeAll, List.filter_eq_self]
    intro a ha
    simp [h a ha]
  rw [List.eraseDups_append, hremove]

theorem foldl_appendNew (l : List α) {before : List α} (h : before.Nodup) :
    l.foldl appendNew before = (before ++ l).eraseDups := by
  rw [← foldl_appendNew_eraseDups, eraseDups_of_nodup h]

theorem mem_foldl_appendNew {a : α} : ∀ {l before : List α},
    a ∈ l.foldl appendNew before ↔ a ∈ before ∨ a ∈ l
  | [], _ => by simp
  | b :: l, before => by
    rw [List.foldl_cons, mem_foldl_appendNew, mem_appendNew, List.mem_cons, or_assoc]

theorem foldl_appendNew_of_subset : ∀ {l before : List α}, l ⊆ before →
    l.foldl appendNew before = before
  | [], _, _ => rfl
  | a :: l, before, h => by
    obtain ⟨ha, hl⟩ := List.cons_subset.1 h
    rw [List.foldl_cons, appendNew_of_mem ha, foldl_appendNew_of_subset hl]

theorem nodup_foldl_appendNew : ∀ (l : List α) {before : List α}, before.Nodup →
    (l.foldl appendNew before).Nodup
  | [], _, h => h
  | _ :: l, _, h => nodup_foldl_appendNew l (nodup_appendNew h)

theorem prefix_foldl_appendNew : ∀ l before : List α, before <+: l.foldl appendNew before
  | [], before => List.prefix_refl before
  | a :: l, before => by
    have hstep : before <+: appendNew before a := by
      by_cases ha : a ∈ before
      · exact ⟨[], (List.append_nil before).trans (appendNew_of_mem ha).symm⟩
      · exact ⟨[a], (appendNew_of_not_mem ha).symm⟩
    exact hstep.trans (prefix_foldl_appendNew l _)

theorem nodup_eraseDups (l : List α) : l.eraseDups.Nodup := by
  have h := foldl_appendNew l List.nodup_nil
  rw [List.nil_append] at h
  rw [← h]
  exact nodup_foldl_appendNew l List.nodup_nil

end Collecting

/-! ## Reading and writing -/

namespace Entries

variable {κ ν : Type} [BEq κ]

@[simp] theorem keys_nil : keys ([] : Entries κ ν) = [] := rfl

@[simp] theorem keys_cons (e : κ × ν) (es : Entries κ ν) : keys (e :: es) = e.1 :: keys es := rfl

/-- The last value that is given to a key. -/
def last? (es : Entries κ ν) (key : κ) : Option ν :=
  match es with
  | [] => none
  | (k, v) :: rest => (last? rest key).or (if k == key then some v else none)

theorem get?_append (k : κ) : ∀ es fs : Entries κ ν,
    get? (es ++ fs) k = (get? es k).or (get? fs k)
  | [], _ => rfl
  | (l, w) :: es, fs => by
    rw [List.cons_append, get?, get?]
    split
    · rfl
    · exact get?_append k es fs

theorem put_of_get? {k : κ} {v : ν} : ∀ {es : Entries κ ν}, get? es k = some v → put es k v = es
  | (l, w) :: es, h => by
    rw [get?] at h
    split at h
    next hl => rw [put, if_pos hl, Option.some.inj h]
    next hl => rw [put, if_neg hl, put_of_get? h]

theorem put_of_get?_eq_none {k : κ} (v : ν) : ∀ {es : Entries κ ν}, get? es k = none →
    put es k v = es ++ [(k, v)]
  | [], _ => rfl
  | (l, w) :: es, h => by
    rw [get?] at h
    split at h
    · cases h
    next hl => rw [put, if_neg hl, put_of_get?_eq_none v h, List.cons_append]

/-- Of two values that a key is given in a row, the second counts. -/
theorem put_put_self {k : κ} (hk : (k == k) = true) (v w : ν) : ∀ es : Entries κ ν,
    put (put es k v) k w = put es k w
  | [] => if_pos hk
  | (l, u) :: es => by
    by_cases hl : (l == k) = true
    · rw [put, if_pos hl, put, if_pos hl, put, if_pos hl]
    · rw [put, if_neg hl, put, if_neg hl, put, if_neg hl, put_put_self hk v w es]

variable [LawfulBEq κ]

theorem get?_put_self : ∀ (es : Entries κ ν) (k : κ) (v : ν), get? (put es k v) k = some v
  | [], k, v => by simp [put, get?]
  | (l, w) :: es, k, v => by
    by_cases h : l = k
    · simp [put, get?, h]
    · simp [put, get?, h, get?_put_self es k v]

theorem get?_put_of_ne {k l : κ} (h : l ≠ k) :
    ∀ (es : Entries κ ν) (v : ν), get? (put es k v) l = get? es l
  | [], v => by simp [put, get?, h.symm]
  | (m, w) :: es, v => by
    by_cases hm : m = k
    · simp [put, get?, hm, h.symm]
    · simp [put, get?, hm, get?_put_of_ne h es v]

theorem keys_put : ∀ (es : Entries κ ν) (k : κ) (v : ν), keys (put es k v) = appendNew (keys es) k
  | [], k, v => by simp [put, appendNew]
  | (l, w) :: es, k, v => by
    by_cases h : l = k
    · simp [put, appendNew, h]
    · have hk : k ≠ l := fun hk => h hk.symm
      by_cases hmem : k ∈ keys es
      · simp [put, h, keys_put es k v, appendNew_of_mem hmem,
          appendNew_of_mem (List.mem_cons_of_mem l hmem)]
      · have hmem' : k ∉ l :: keys es := by simp [hk, hmem]
        simp [put, h, keys_put es k v, appendNew_of_not_mem hmem, appendNew_of_not_mem hmem']

theorem nodup_keys_put {es : Entries κ ν} (h : (keys es).Nodup) (k : κ) (v : ν) :
    (keys (put es k v)).Nodup := by
  rw [keys_put]
  exact nodup_appendNew h

theorem get?_of_not_mem_keys : ∀ {es : Entries κ ν} {k : κ}, k ∉ keys es → get? es k = none
  | [], _, _ => rfl
  | (l, w) :: es, k, h => by
    simp only [keys_cons, List.mem_cons, not_or] at h
    have hl : l ≠ k := fun hl => h.1 hl.symm
    simp [get?, hl, get?_of_not_mem_keys h.2]

theorem put_of_not_mem {k : κ} {v : ν} {es : Entries κ ν} (h : k ∉ keys es) :
    put es k v = es ++ [(k, v)] :=
  put_of_get?_eq_none v (get?_of_not_mem_keys h)

theorem mem_of_get? : ∀ {es : Entries κ ν} {k : κ} {v : ν}, get? es k = some v → (k, v) ∈ es
  | (l, w) :: es, k, v, h => by
    by_cases hl : l = k
    · simp only [get?, hl, beq_self_eq_true, if_true, Option.some.injEq] at h
      simp [hl, h]
    · simp only [get?, beq_iff_eq, hl, if_false] at h
      exact List.mem_cons_of_mem _ (mem_of_get? h)

theorem mem_keys_of_get? {es : Entries κ ν} {k : κ} {v : ν} (h : get? es k = some v) :
    k ∈ keys es :=
  List.mem_map_of_mem (f := Prod.fst) (mem_of_get? h)

theorem isSome_get?_iff : ∀ {es : Entries κ ν} {k : κ}, (get? es k).isSome = true ↔ k ∈ keys es
  | [], k => by simp [get?]
  | (l, v) :: es, k => by
    by_cases h : l = k
    · simp [get?, h]
    · have hk : k ≠ l := fun hk => h hk.symm
      simp [get?, h, hk, isSome_get?_iff]

theorem get?_of_mem : ∀ {es : Entries κ ν} {k : κ} {v : ν}, (keys es).Nodup → (k, v) ∈ es →
    get? es k = some v
  | (l, w) :: es, k, v, hnd, h => by
    obtain ⟨hl, hnd⟩ := List.nodup_cons.1 hnd
    rcases List.mem_cons.1 h with h | h
    · obtain ⟨rfl, rfl⟩ := Prod.mk.inj h
      simp [get?]
    · have hlk : l ≠ k := by
        rintro rfl
        exact hl (List.mem_map_of_mem (f := Prod.fst) (a := (l, v)) h)
      simp [get?, hlk, get?_of_mem hnd h]

theorem get?_eq_some_iff {es : Entries κ ν} {k : κ} {v : ν} (h : (keys es).Nodup) :
    get? es k = some v ↔ (k, v) ∈ es :=
  ⟨mem_of_get?, get?_of_mem h⟩

/-! ## Runs of writes -/

theorem keys_putAll_eq_foldl : ∀ (changes es : Entries κ ν),
    keys (putAll es changes) = (keys changes).foldl appendNew (keys es)
  | [], _ => rfl
  | c :: changes, es => by
    show keys (putAll (put es c.1 c.2) changes) = _
    rw [keys_putAll_eq_foldl changes, keys_put]
    rfl

/-- The keys of a run of writes, in the order of their first write. -/
theorem keys_putAll (changes : Entries κ ν) :
    keys (putAll [] changes) = (keys changes).eraseDups := by
  rw [keys_putAll_eq_foldl, keys_nil, foldl_appendNew _ List.nodup_nil, List.nil_append]

theorem nodup_keys_putAll (changes : Entries κ ν) : (keys (putAll [] changes)).Nodup := by
  rw [keys_putAll]
  exact nodup_eraseDups _

/-! ## Entries put over their own beginning -/

theorem putAll_append (es fs gs : Entries κ ν) :
    putAll es (fs ++ gs) = putAll (putAll es fs) gs :=
  List.foldl_append

/-- The first entry stays the first if its key is not given another value. -/
theorem putAll_cons_of_not_mem {k : κ} {v : ν} : ∀ (changes : Entries κ ν) {es : Entries κ ν},
    k ∉ changes.keys → putAll ((k, v) :: es) changes = (k, v) :: putAll es changes
  | [], _, _ => rfl
  | (l, w) :: changes, es, h => by
    rw [keys_cons, List.mem_cons, not_or] at h
    have hput : put ((k, v) :: es) l w = (k, v) :: put es l w := by
      rw [put, if_neg (by simpa using h.1)]
    show putAll (put ((k, v) :: es) l w) changes = _
    rw [hput]
    exact putAll_cons_of_not_mem changes h.2

/-- Entries put over others whose keys they begin with replace them. -/
theorem putAll_of_prefix : ∀ (es fs : Entries κ ν), es.keys <+: fs.keys → fs.keys.Nodup →
    putAll es fs = fs
  | [], [], _, _ => rfl
  | [], (k, v) :: fs, _, h => by
    obtain ⟨hk, hfs⟩ := List.nodup_cons.1 h
    show putAll [(k, v)] fs = _
    rw [putAll_cons_of_not_mem fs hk, putAll_of_prefix [] fs List.nil_prefix hfs]
  | (k, w) :: es, [], hprefix, _ => absurd (List.prefix_nil.1 hprefix) (by simp)
  | (k, w) :: es, (l, v) :: fs, hprefix, h => by
    obtain ⟨hl, hfs⟩ := List.nodup_cons.1 h
    obtain ⟨hkl, hprefix⟩ := List.cons_prefix_cons.1 hprefix
    have hput : put ((k, w) :: es) l v = (l, v) :: es := by
      obtain rfl : k = l := hkl
      rw [put, if_pos (beq_self_eq_true k)]
    show putAll (put ((k, w) :: es) l v) fs = _
    rw [hput, putAll_cons_of_not_mem fs hl, putAll_of_prefix es fs hprefix hfs]

/-- To put what was put over entries over them again changes nothing. -/
theorem putAll_putAll_self {es : Entries κ ν} (h : es.keys.Nodup) (changes : Entries κ ν) :
    putAll es (putAll es changes) = putAll es changes := by
  refine putAll_of_prefix _ _ ?_ ?_
  · rw [keys_putAll_eq_foldl]
    exact prefix_foldl_appendNew _ _
  · rw [keys_putAll_eq_foldl]
    exact nodup_foldl_appendNew _ h

/-! ## The last value of a key -/

theorem get?_put (es : Entries κ ν) (k : κ) (v : ν) (l : κ) :
    get? (put es k v) l = (if k == l then some v else none).or (get? es l) := by
  by_cases h : k = l
  · simp [h, get?_put_self]
  · simp [h, get?_put_of_ne fun hl : l = k => h hl.symm]

/-- What is found after a put is what was put, or was there under another key. -/
theorem of_get?_put {es : Entries κ ν} {k l : κ} {v w : ν} (h : get? (put es k v) l = some w) :
    l = k ∧ w = v ∨ l ≠ k ∧ get? es l = some w := by
  rw [get?_put] at h
  by_cases hkl : k = l
  · subst hkl
    rw [if_pos (beq_self_eq_true k)] at h
    exact .inl ⟨rfl, (Option.some.inj h).symm⟩
  · rw [if_neg (by simpa using hkl)] at h
    exact .inr ⟨Ne.symm hkl, h⟩

/-- A run of writes leaves each key with the last value that it was given, if there is one. -/
theorem get?_putAll (k : κ) : ∀ (changes es : Entries κ ν),
    get? (putAll es changes) k = (last? changes k).or (get? es k)
  | [], _ => rfl
  | c :: changes, es => by
    show get? (putAll (put es c.1 c.2) changes) k = _
    rw [get?_putAll k changes, get?_put, last?, Option.or_assoc]

theorem last?_append (k : κ) : ∀ es fs : Entries κ ν,
    last? (es ++ fs) k = (last? fs k).or (last? es k)
  | [], fs => by simp [last?]
  | e :: es, fs => by rw [List.cons_append, last?, last?_append k es fs, last?, Option.or_assoc]

theorem last?_eq_none_iff {k : κ} : ∀ {es : Entries κ ν}, last? es k = none ↔ k ∉ keys es
  | [] => by simp [last?]
  | (l, v) :: es => by
    have hl : l = k ↔ k = l := eq_comm
    simp [last?, last?_eq_none_iff, hl, and_comm]

/-! ## Runs of writes made again -/

/-- Two keys can be given values in either order, if the one is there already. -/
theorem put_comm {k l : κ} (hkl : k ≠ l) (v u : ν) : ∀ {es : Entries κ ν}, k ∈ keys es →
    put (put es k v) l u = put (put es l u) k v
  | (m, w) :: es, h => by
    by_cases hk : m = k
    · have hl : m ≠ l := fun hl => hkl (hk.symm.trans hl)
      simp [put, hk, hkl]
    · have hes : k ∈ keys es := (List.mem_cons.1 h).resolve_left (Ne.symm hk)
      by_cases hl : m = l
      · simp [put, hl, Ne.symm hkl]
      · simp [put, hk, hl, put_comm hkl v u hes]

/-- A value makes no difference if its key is given another one later. -/
theorem putAll_put_of_mem {k : κ} (v : ν) : ∀ {changes es : Entries κ ν}, k ∈ keys changes →
    k ∈ keys es → putAll (put es k v) changes = putAll es changes
  | (l, u) :: changes, es, h, hes => by
    show putAll (put (put es k v) l u) changes = putAll (put es l u) changes
    by_cases hkl : k = l
    · subst hkl
      rw [put_put_self (beq_self_eq_true k)]
    · have hkeys : k ∈ keys (put es l u) := by
        rw [keys_put]
        exact mem_appendNew.2 (.inl hes)
      rw [put_comm hkl v u hes,
        putAll_put_of_mem v ((List.mem_cons.1 h).resolve_left hkl) hkeys]

/-- Where each key has the last value that it is given already, nothing changes. -/
theorem putAll_of_settled : ∀ {changes es : Entries κ ν},
    (∀ k ∈ keys changes, get? es k = last? changes k) → putAll es changes = es
  | [], _, _ => rfl
  | (k, v) :: changes, es, h => by
    have hlater : ∀ l ∈ keys changes, last? ((k, v) :: changes) l = last? changes l := by
      intro l hl
      obtain ⟨w, hw⟩ := Option.ne_none_iff_exists'.1 fun hnone => last?_eq_none_iff.1 hnone hl
      rw [last?, hw]
      rfl
    have hrest : ∀ l ∈ keys changes, get? es l = last? changes l := fun l hl =>
      (h l (List.mem_cons_of_mem k hl)).trans (hlater l hl)
    have hk := h k List.mem_cons_self
    show putAll (put es k v) changes = es
    by_cases hmem : k ∈ keys changes
    · have hes : k ∈ keys es := by
        rw [← isSome_get?_iff, hrest k hmem, Option.isSome_iff_ne_none]
        exact fun hnone => last?_eq_none_iff.1 hnone hmem
      rw [putAll_put_of_mem v hmem hes, putAll_of_settled hrest]
    · rw [last?, last?_eq_none_iff.2 hmem, if_pos (beq_self_eq_true k)] at hk
      rw [put_of_get? hk, putAll_of_settled hrest]

/-- A run of writes that is made a second time changes nothing. -/
theorem putAll_repeat (es changes : Entries κ ν) :
    putAll (putAll es changes) changes = putAll es changes := by
  refine putAll_of_settled fun k hk => ?_
  obtain ⟨v, hv⟩ := Option.ne_none_iff_exists'.1 fun hnone => last?_eq_none_iff.1 hnone hk
  rw [get?_putAll, hv]
  rfl

/-! ## Keys that are given one value -/

/-- Where each key is given one value, the last one is the one that is found. -/
theorem last?_eq_get? {k : κ} : ∀ {es : Entries κ ν}, (keys es).Nodup → last? es k = get? es k
  | [], _ => rfl
  | (l, v) :: es, h => by
    obtain ⟨hl, hes⟩ := List.nodup_cons.1 h
    rw [last?, last?_eq_get? hes]
    by_cases hlk : l = k
    · rw [← hlk, get?_of_not_mem_keys hl]
      simp [get?]
    · simp [get?, hlk]

/-- Where each key is given one value, it does not matter in which order that is done. -/
theorem last?_eq_of_perm {es fs : Entries κ ν} (hperm : es.Perm fs) (h : (keys es).Nodup) (k : κ) :
    last? es k = last? fs k := by
  have hfs : (keys fs).Nodup := (hperm.map Prod.fst).nodup_iff.1 h
  rw [last?_eq_get? h, last?_eq_get? hfs]
  refine Option.ext fun v => ?_
  rw [get?_eq_some_iff h, get?_eq_some_iff hfs, hperm.mem_iff]

/-- The last value of a key that is written differently, if no other key is written like it. -/
theorem last?_map {κ' ν' : Type} [BEq κ'] [LawfulBEq κ'] {g : κ → κ'} (f : ν → ν') {k : κ} :
    ∀ es : Entries κ ν, (∀ l ∈ keys es, g l = g k → l = k) →
      last? (es.map fun e => (g e.1, f e.2)) (g k) = (last? es k).map f
  | [], _ => rfl
  | (l, v) :: es, hg => by
    have hrest := last?_map f es fun m hm => hg m (List.mem_cons_of_mem l hm)
    by_cases h : l = k
    · cases hlast : last? es k <;> simp [last?, hrest, h, hlast]
    · have hne : g l ≠ g k := fun heq => h (hg l List.mem_cons_self heq)
      simp [last?, hrest, h, hne]

end Entries

end DtoPress
