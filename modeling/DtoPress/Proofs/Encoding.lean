import DtoPress.Proofs.Mirror

/-!
# Texts and paths with bytes

A text without lone halves is whole : it has bytes, and a file takes all of it. A path can be
handed to the operating system if its root and its parts have bytes none of which is zero
(`Path.fault?_eq_none_iff`), and then so can every path below it that is named by such a text
(`Path.fault?_join`). Hence `Workspace.writeAll_ne_fault` : with whole texts and such paths, the
writes of a run below a directory all succeed or are refused with a cause.
-/

set_option linter.unusedSectionVars false

namespace DtoPress

/-! ## Joined texts -/

theorem Text.all_joined {p : CodePoint → Bool} {separator : Text} (hsep : separator.all p = true) :
    ∀ {parts : List Text}, (joined separator parts).all p = true ↔ ∀ t ∈ parts, t.all p = true
  | [] => by simp [joined, List.intercalate]
  | [t] => by simp [joined, List.intercalate]
  | t :: u :: parts => by
    have ih : (joined separator (u :: parts)).all p = true ↔ ∀ v ∈ u :: parts, v.all p = true :=
      all_joined hsep
    have hjoined : joined separator (t :: u :: parts) =
        t ++ (separator ++ joined separator (u :: parts)) := by
      simp [joined, List.intercalate]
    rw [hjoined, List.all_append, List.all_append, hsep, Bool.true_and, Bool.and_eq_true, ih]
    exact (List.forall_mem_cons (p := fun v : Text => v.all p = true)).symm

/-! ## Whole texts -/

namespace Text

/-- No code point is a lone half. -/
def isWhole (t : Text) : Bool :=
  t.all fun c => c.char?.isSome

variable {t u : Text}

@[simp] theorem isWhole_nil : isWhole [] = true := rfl

@[simp] theorem isWhole_cons_char (c : Char) (t : Text) : isWhole (.char c :: t) = isWhole t := rfl

@[simp] theorem isWhole_append (t u : Text) : isWhole (t ++ u) = (isWhole t && isWhole u) :=
  List.all_append

@[simp] theorem isWhole_ofChars (cs : List Char) : isWhole (ofChars cs) = true := by
  rw [isWhole, ofChars, List.all_map, List.all_eq_true]
  exact fun c _ => rfl

@[simp] theorem isWhole_ofString (s : String) : isWhole (ofString s) = true :=
  isWhole_ofChars s.toList

@[simp] theorem isWhole_replicate (n : Nat) (c : Char) :
    isWhole (List.replicate n (.char c)) = true := by
  rw [isWhole, List.all_eq_true]
  intro d hd
  rw [List.eq_of_mem_replicate hd]
  rfl

theorem isWhole_flatten {ts : List Text} :
    isWhole ts.flatten = true ↔ ∀ t ∈ ts, isWhole t = true := by
  rw [isWhole, List.all_flatten, List.all_eq_true]
  rfl

theorem isWhole_flatMap {α : Type} {l : List α} {f : α → Text} :
    isWhole (l.flatMap f) = true ↔ ∀ a ∈ l, isWhole (f a) = true := by
  rw [List.flatMap_def, isWhole_flatten, List.forall_mem_map]

theorem isWhole_joined {separator : Text} (hsep : isWhole separator = true) {parts : List Text} :
    isWhole (joined separator parts) = true ↔ ∀ t ∈ parts, isWhole t = true :=
  all_joined hsep

theorem isWhole_joinLines : ∀ {ls : List Text},
    isWhole (joinLines ls) = true ↔ ∀ l ∈ ls, isWhole l = true
  | [] => by simp [joinLines]
  | [l] => by simp [joinLines]
  | l :: m :: ls => by
    rw [joinLines_cons (List.cons_ne_nil m ls), isWhole_append, isWhole_cons_char, Bool.and_eq_true,
      isWhole_joinLines]
    exact (List.forall_mem_cons (p := fun n : Text => n.isWhole = true)).symm

theorem isWhole_of_subset (h : isWhole t = true) (hu : u ⊆ t) : isWhole u = true := by
  rw [isWhole, List.all_eq_true] at h ⊢
  exact fun c hc => h c (hu hc)

/-- A whole text is a string. -/
theorem exists_string? (h : isWhole t = true) : ∃ s, t.string? = some s := by
  have hchars : ∃ cs, t.mapM CodePoint.char? = some cs := by
    induction t with
    | nil => exact ⟨[], rfl⟩
    | cons c t ih =>
      obtain ⟨hc, ht⟩ := Bool.and_eq_true_iff.1 h
      obtain ⟨d, hd⟩ := Option.isSome_iff_exists.1 hc
      obtain ⟨ds, hds⟩ := ih ht
      exact ⟨d :: ds, by rw [List.mapM_cons, hd, hds]; rfl⟩
  obtain ⟨cs, hcs⟩ := hchars
  exact ⟨String.ofList cs, by rw [string?, hcs]; rfl⟩

theorem ofString_inj {s s' : String} (h : ofString s = ofString s') : s = s' :=
  String.toList_inj.1 (List.map_injective_iff.2 (fun _ _ => CodePoint.char.inj) h)

/-! ## Texts in paths -/

/-- A code point that can stand in a path : it has bytes and is not zero. -/
def isPathPoint (c : CodePoint) : Bool :=
  (Path.bytesOf? c).isSome && c != .char (Char.ofNat 0)

/-- The text of a name that can stand in a path and in a file. -/
def isName (t : Text) : Bool :=
  t.isWhole && t.all isPathPoint

theorem isName_iff : t.isName = true ↔ t.isWhole = true ∧ t.all isPathPoint = true := by
  simp [isName]

end Text

/-! ## Paths -/

namespace Path

open Text (isPathPoint)

variable {p q : Path}

theorem fault?_eq_none_iff_text : p.fault? = none ↔ p.text.all isPathPoint = true := by
  unfold fault?
  split
  next h =>
    obtain ⟨c, hc, hnone⟩ := List.any_eq_true.1 h
    refine iff_of_false (by simp) fun hall => ?_
    have hpoint := List.all_eq_true.1 hall c hc
    rw [isPathPoint, Option.isNone_iff_eq_none.1 hnone] at hpoint
    exact Bool.false_ne_true hpoint
  next h =>
    rw [Bool.not_eq_true, List.any_eq_false] at h
    split
    next hzero =>
      refine iff_of_false (by simp) fun hall => ?_
      have hpoint := List.all_eq_true.1 hall _ (List.contains_iff_mem.1 hzero)
      exact absurd hpoint (by decide)
    next hzero =>
      refine iff_of_true rfl (List.all_eq_true.2 fun c hc => ?_)
      have hbytes : (bytesOf? c).isSome = true := by
        simpa [Option.isNone_iff_eq_none, Option.isSome_iff_ne_none] using h c hc
      have hne : c ≠ .char (Char.ofNat 0) := by
        rintro rfl
        exact hzero (List.contains_iff_mem.2 hc)
      rw [isPathPoint, hbytes, Bool.true_and, bne_iff_ne]
      exact hne

/-- A path can be handed to the operating system if its root and its parts can. -/
theorem fault?_eq_none_iff : p.fault? = none ↔
    p.root.all isPathPoint = true ∧ ∀ part ∈ p.parts, part.all isPathPoint = true := by
  rw [fault?_eq_none_iff_text, text]
  split
  next h =>
    rw [h.1, h.2]
    exact iff_of_true (by decide) ⟨rfl, by simp⟩
  · rw [List.all_append, Bool.and_eq_true, Text.all_joined (by decide)]

theorem fault?_parent (h : p.fault? = none) : p.parent.fault? = none := by
  rw [fault?_eq_none_iff] at h ⊢
  exact ⟨h.1, fun part hpart => h.2 part (List.dropLast_subset _ hpart)⟩

/-- The path that a text writes has nothing that the text does not have, but for its root. -/
theorem fault?_ofText {t : Text} (h : t.all isPathPoint = true) : (ofText t).fault? = none := by
  rw [fault?_eq_none_iff]
  constructor
  · show (rootOf t).all isPathPoint = true
    unfold rootOf
    split <;> decide
  · intro part hpart
    rw [List.all_eq_true] at h ⊢
    exact fun c hc => h c (Text.subset_of_mem_split (List.mem_filter.1 hpart).1 hc)

theorem fault?_join (hp : p.fault? = none) (hq : q.fault? = none) : (p.join q).fault? = none := by
  unfold join
  split
  · rw [fault?_eq_none_iff] at hp hq ⊢
    refine ⟨hp.1, fun part hpart => ?_⟩
    rcases List.mem_append.1 hpart with hpart | hpart
    · exact hp.2 part hpart
    · exact hq.2 part hpart
  · exact hq

end Path

/-! ## Writes -/

theorem FileTree.writePieces_ne_fault (t : FileTree) (p : Path) {text : Text}
    (h : text.isWhole = true) (f : Fault) : (t.writePieces p [text]).2 ≠ some (.fault f) := by
  obtain ⟨s, hs⟩ := Text.exists_string? h
  unfold writePieces encodable encodable
  simp only [hs]
  split
  · simp
  · simp

namespace Workspace

variable {root : Path}

/-- A write of a whole text below a directory succeeds, or it is refused with a cause. -/
theorem write_ne_fault {w : Workspace} {paths : List Text}
    (htarget : w.target = .directory root paths) {path text : Text}
    (hpath : (root.join (.ofText path)).fault? = none) (htext : text.isWhole = true) (f : Fault) :
    (w.write path text).2 ≠ some (.fault f) := by
  simp only [write, htarget, writeBelow, Path.fault?_parent hpath, hpath]
  split
  · simp
  next tree hdirs =>
    split
    · simp
    next g hpieces =>
      exact absurd (congrArg Prod.snd hpieces) (FileTree.writePieces_ne_fault _ _ htext g)
    · simp

/-- So do the writes of a run : they go on below the same directory. -/
theorem writeAll_ne_fault : ∀ {ws : Entries Text Text} {w : Workspace} {paths : List Text},
    w.target = .directory root paths →
    (∀ e ∈ ws, (root.join (.ofText e.1)).fault? = none ∧ e.2.isWhole = true) →
    ∀ f, (w.writeAll ws).2 ≠ some (.fault f)
  | [], w, paths, _, _, f => by simp [writeAll]
  | (path, text) :: rest, w, paths, htarget, h, f => by
    obtain ⟨⟨hpath, htext⟩, hrest⟩ := List.forall_mem_cons.1 h
    have hwrite := write_ne_fault htarget hpath htext f
    unfold writeAll
    cases hw : w.write path text with
    | mk next trouble =>
      cases trouble with
      | some e =>
        rw [hw] at hwrite
        exact hwrite
      | none => exact writeAll_ne_fault (write_directory htarget hw).2.2 hrest f

end Workspace

end DtoPress
