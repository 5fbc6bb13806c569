import DtoPress.Proofs.Results
import Mathlib.Data.List.Forall2

/-!
# Places in a schema

What is found wrong with a schema is found at a place : in a round over a list, at an item of the
list, and there at the item itself or at one of its parts. `Place.Before` is the order in which
places are come to. A list of findings lists a relation between places and what is there if it has
all that the relation says, and nothing else, in the order of their places (`Lists`); so it has each
of them once, and its first is before all others (`Lists.first`). Findings are made by looking at
one place (`findIf`), at all items of a list (`findEach`), and by one round after the other, and all
three keep the order (`orderly_findIf`, `orderly_findEach`, `Orderly.append`).
-/

set_option linter.unusedSectionVars false

namespace DtoPress

/-- Where something is found. Part 0 of an item is the item itself, its parts are counted from 1,
and several things can be found at one part. -/
structure Place where
  round : Nat
  item : Nat
  part : Nat
  aspect : Nat
  deriving DecidableEq

namespace Place

/-- The item `i` of a round. -/
def ofItem (round i : Nat) : Place :=
  ⟨round, i, 0, 0⟩

/-- The part `j` of the item `i`. -/
def ofPart (round i j aspect : Nat) : Place :=
  ⟨round, i, j + 1, aspect⟩

/-- One place is come to before another : round by round, item by item, part by part. -/
def Before (p q : Place) : Prop :=
  p.round < q.round ∨ p.round = q.round ∧ (p.item < q.item ∨ p.item = q.item ∧
    (p.part < q.part ∨ p.part = q.part ∧ p.aspect < q.aspect))

instance (p q : Place) : Decidable (p.Before q) :=
  inferInstanceAs (Decidable (_ ∨ _))

/-- The place is in a round. -/
def InRound (round : Nat) (p : Place) : Prop :=
  p.round = round

/-- The place is in the item `i` of a round. -/
def InItem (round i : Nat) (p : Place) : Prop :=
  p.round = round ∧ p.item = i

/-- The place is in the part `j` of an item. -/
def InPart (round i j : Nat) (p : Place) : Prop :=
  p.round = round ∧ p.item = i ∧ p.part = j + 1

end Place

/-! ## Findings in order -/

section Findings

variable {α β : Type}

/-- The findings are at places of a kind, and in the order of their places. -/
structure Orderly (At : Place → Prop) (found : List (Place × α)) : Prop where
  ordered : found.Pairwise fun x y => x.1.Before y.1
  places : ∀ x ∈ found, At x.1

/-- The findings are what the relation says, in the order of their places. -/
structure Lists (found : List (Place × α)) (At : Place → α → Prop) : Prop where
  mem_iff : ∀ p a, (p, a) ∈ found ↔ At p a
  ordered : found.Pairwise fun x y => x.1.Before y.1

/-- What is found at a place, if it is. -/
def findIf (isFound : Bool) (p : Place) (a : α) : List (Place × α) :=
  if isFound then [(p, a)] else []

/-- What is found in the items of a list, item by item, each looked at with its number. -/
def findEach (find : Nat → β → List (Place × α)) (l : List β) : List (Place × α) :=
  l.zipIdx.flatMap fun x => find x.2 x.1

theorem Lists.first {p : Place} {a : α} {rest : List (Place × α)} {At : Place → α → Prop}
    (h : Lists ((p, a) :: rest) At) :
    At p a ∧ ∀ q b, At q b → q = p ∧ b = a ∨ p.Before q := by
  refine ⟨(h.mem_iff p a).1 List.mem_cons_self, fun q b hq => ?_⟩
  rcases List.mem_cons.1 ((h.mem_iff q b).2 hq) with heq | hmem
  · exact .inl (Prod.mk.inj heq)
  · exact .inr ((List.pairwise_cons.1 h.ordered).1 _ hmem)

/-- Nothing is found exactly if there is nothing at any place. -/
theorem Lists.eq_nil_iff {found : List (Place × α)} {At : Place → α → Prop} (h : Lists found At) :
    found = [] ↔ ∀ p a, ¬ At p a := by
  rw [List.eq_nil_iff_forall_not_mem]
  exact ⟨fun hnil p a hat => hnil (p, a) ((h.mem_iff p a).2 hat),
    fun hnone x hx => hnone x.1 x.2 ((h.mem_iff x.1 x.2).1 hx)⟩

/-! ## At one place -/

@[simp] theorem mem_findIf {isFound : Bool} {p : Place} {a : α} {x : Place × α} :
    x ∈ findIf isFound p a ↔ isFound = true ∧ x = (p, a) := by
  unfold findIf
  split <;> simp [*]

@[simp] theorem map_findIf (isFound : Bool) (p : Place) (a : α) :
    (findIf isFound p a).map Prod.snd = if isFound then [a] else [] := by
  unfold findIf
  split <;> rfl

theorem orderly_findIf {At : Place → Prop} {p : Place} (h : At p) (isFound : Bool) (a : α) :
    Orderly At (findIf isFound p a) := by
  refine ⟨?_, fun x hx => ?_⟩
  · unfold findIf
    split
    · exact List.pairwise_singleton _ _
    · exact .nil
  · rw [(mem_findIf.1 hx).2]
    exact h

/-- One aspect of a part. -/
theorem orderly_aspect {round i j k : Nat} (isFound : Bool) (a : α) :
    Orderly (fun p => p.InPart round i j ∧ p.aspect = k) (findIf isFound (.ofPart round i j k) a) :=
  orderly_findIf ⟨⟨rfl, rfl, rfl⟩, rfl⟩ isFound a

/-- One list of findings and then another, with places that all come later. -/
theorem Orderly.append {At At' In : Place → Prop} {found more : List (Place × α)}
    (hfound : Orderly At found) (hmore : Orderly At' more)
    (hbefore : ∀ p q, At p → At' q → p.Before q) (hin : ∀ p, At p → In p)
    (hin' : ∀ p, At' p → In p) : Orderly In (found ++ more) where
  ordered := List.pairwise_append.2 ⟨hfound.ordered, hmore.ordered, fun x hx y hy =>
    hbefore _ _ (hfound.places x hx) (hmore.places y hy)⟩
  places := fun x hx => by
    rcases List.mem_append.1 hx with hx | hx
    · exact hin _ (hfound.places x hx)
    · exact hin' _ (hmore.places x hx)

/-! ## Item by item -/

variable {find : Nat → β → List (Place × α)} {l : List β}

@[simp] theorem mem_findEach {x : Place × α} :
    x ∈ findEach find l ↔ ∃ i b, l[i]? = some b ∧ x ∈ find i b := by
  simp only [findEach, List.mem_flatMap, Prod.exists, List.mem_zipIdx_iff_getElem?]
  exact exists_comm

theorem map_findEach {γ : Type} {g : Place × α → γ} {own : β → List γ}
    (h : ∀ b ∈ l, ∀ i, (find i b).map g = own b) : (findEach find l).map g = l.flatMap own := by
  have hown : ∀ x ∈ l.zipIdx, (find x.2 x.1).map g = own x.1 := fun x hx =>
    h x.1 (List.mem_of_getElem? (List.mem_zipIdx_iff_getElem?.1 hx)) x.2
  rw [findEach, List.map_flatMap, List.flatMap_congr hown]
  conv_rhs => rw [← List.zipIdx_map_fst 0 l, List.flatMap_map]

/-- A check that finds in each item what is found there, whatever the number of the item, finds
what is found in the list. -/
theorem mapM_eq_findEach {ε : Type} {check : β → Except ε (List α)}
    (h : ∀ b ∈ l, ∀ i, check b = .ok ((find i b).map Prod.snd)) :
    ∃ each, l.mapM check = .ok each ∧ each.flatten = (findEach find l).map Prod.snd := by
  refine ⟨_, mapM_eq_ok_map fun b hb => h b hb 0, ?_⟩
  rw [map_findEach fun b hb i => Except.ok.inj ((h b hb i).symm.trans (h b hb 0)), List.flatMap_def]

/-- The order of the items is only the order of what is found in them. -/
theorem perm_findEach {γ : Type} {g : Place × α → γ} {find' : Nat → β → List (Place × α)}
    {l' : List β} (hperm : l.Perm l')
    (h : ∀ b ∈ l, ∀ i j, (find i b).map g = (find' j b).map g) :
    ((findEach find l).map g).Perm ((findEach find' l').map g) := by
  have hmap : (findEach find l).map g = l.flatMap fun b => (find' 0 b).map g :=
    map_findEach fun b hb i => h b hb i 0
  have hmap' : (findEach find' l').map g = l'.flatMap fun b => (find' 0 b).map g :=
    map_findEach fun b hb j =>
      (h b (hperm.mem_iff.2 hb) 0 j).symm.trans (h b (hperm.mem_iff.2 hb) 0 0)
  rw [hmap, hmap']
  exact hperm.flatMap_right _

/-- Items whose places come one after the other. -/
theorem orderly_findEach {At : Nat → Place → Prop} {In : Place → Prop}
    (hown : ∀ i b, Orderly (At i) (find i b))
    (hbefore : ∀ i j, i < j → ∀ p q, At i p → At j q → p.Before q)
    (hin : ∀ i p, At i p → In p) : Orderly In (findEach find l) where
  ordered := by
    have hnumbers : l.zipIdx.Pairwise fun x y => x.2 < y.2 := by
      rw [← List.pairwise_map (f := Prod.snd) (R := (· < ·)), List.zipIdx_map_snd]
      exact List.pairwise_lt_range' 1
    refine List.pairwise_flatMap.2 ⟨fun x _ => (hown x.2 x.1).ordered, hnumbers.imp ?_⟩
    intro x y hlt u hu v hv
    exact hbefore _ _ hlt _ _ ((hown _ _).places u hu) ((hown _ _).places v hv)
  places := fun x hx => by
    obtain ⟨i, b, -, hx⟩ := mem_findEach.1 hx
    exact hin i _ ((hown i b).places x hx)

/-- An item and then its parts, one after the other. -/
theorem orderly_item {round i : Nat} (isFound : Bool) (a : α)
    (hparts : ∀ j b, Orderly (Place.InPart round i j) (find j b)) :
    Orderly (Place.InItem round i) (findIf isFound (.ofItem round i) a ++ findEach find l) := by
  have hitem : Orderly (fun p => p.InItem round i ∧ p.part = 0)
      (findIf isFound (.ofItem round i) a) := orderly_findIf ⟨⟨rfl, rfl⟩, rfl⟩ isFound a
  have heach : Orderly (fun p => p.InItem round i ∧ 0 < p.part) (findEach find l) := by
    refine orderly_findEach hparts (fun j k hlt p q hp hq => ?_) fun j p hp => ?_
    · simp only [Place.InPart, Place.Before] at *
      omega
    · simp only [Place.InPart, Place.InItem] at *
      omega
  refine hitem.append heach (fun p q hp hq => ?_) (fun p hp => hp.1) fun p hp => hp.1
  simp only [Place.InItem, Place.Before] at *
  omega

/-- The items of a round, one after the other. -/
theorem orderly_round {round : Nat} (hitems : ∀ i b, Orderly (Place.InItem round i) (find i b)) :
    Orderly (Place.InRound round) (findEach find l) := by
  refine orderly_findEach hitems (fun i j hlt p q hp hq => ?_) fun i p hp => hp.1
  simp only [Place.InItem, Place.Before] at *
  omega

end Findings

end DtoPress
