import DtoPress.Proofs.Paths

/-!
# Names with slashes

The name of a generated file is put between its directory and an ending, and it may hold slashes
and double dots of its own. `Path.ofText_between` lists the parts of such a path. A walk along
them ends below its start if there is nowhere a double dot too many, which `Path.depth?` counts
(`Path.foldl_advance_of_depth?`). So the file of a name lies below the root unless the name
`Text.Climbs` (`Path.below_location_join`).
-/

namespace DtoPress

/-! ## The parts of a name -/

namespace Text

/-- The parts of a name before its last slash that count when it is read as part of a path. -/
def directories (name : Text) : List Text :=
  (split (.char '/') name).dropLast.filter fun p => p != "" && p != "."

theorem IsFileName.ne_nil {t : Text} (h : t.IsFileName) : t ≠ [] := by
  rintro rfl
  exact absurd h.long (by decide)

/-- What stands in a name behind its last slash. -/
def fileName (name : Text) : Text :=
  (split (.char '/') name).getLast?.getD []

theorem not_mem_fileName (name : Text) : (.char '/' : CodePoint) ∉ name.fileName := by
  unfold fileName
  cases hlast : (split (.char '/') name).getLast? with
  | none => exact List.not_mem_nil
  | some p => exact not_mem_of_mem_split (List.mem_of_getLast? hlast)

end Text

/-- The parts of the path of a file whose name is put between a directory and an ending. -/
theorem Path.ofText_between {dir ending : Text} (hdir : dir.IsFileName)
    (hending : ending.IsFileName) (name : Text) :
    Path.ofText (dir ++ "/" ++ name ++ ending : Text) =
      ⟨"", dir :: name.directories ++ [name.fileName ++ ending]⟩ := by
  have hsplit : Text.split (.char '/') (dir ++ "/" ++ name ++ ending : Text) =
      dir :: ((Text.split (.char '/') name).dropLast ++ [name.fileName ++ ending]) := by
    rw [List.append_assoc, List.append_assoc]
    show Text.split (.char '/') (dir ++ .char '/' :: (name ++ ending)) = _
    rw [Text.split_append_cons _ hdir.noSlash, Text.split_append_of_not_mem hending.noSlash]
    rfl
  have hfile : (name.fileName ++ ending : Text).IsFileName :=
    .append name.not_mem_fileName hending
  have hfirst : ∀ n ∈ [dir], n.IsFileName := by simpa using hdir
  have hlast : ∀ n ∈ [name.fileName ++ ending], n.IsFileName := by simpa using hfile
  have hroot : rootOf (dir ++ "/" ++ name ++ ending : Text) = "" := by
    rw [List.append_assoc, List.append_assoc]
    exact rootOf_append hdir _
  rw [ofText, hsplit, hroot, ← List.singleton_append, List.filter_append, List.filter_append,
    Text.filter_names hfirst, Text.filter_names hlast]
  rfl

/-! ## Walks -/

/-- How far below its start a walk along parts ends, from a depth below the start. None if it
comes above the start on its way. -/
def Path.depth? : Nat → List Text → Option Nat
  | n, [] => some n
  | n, part :: parts =>
    if part = ".." then
      match n with
      | 0 => none
      | n + 1 => depth? n parts
    else depth? (n + 1) parts

theorem Path.depth?_above (parts : List Text) : depth? 0 ((".." : Text) :: parts) = none := by
  rw [depth?, if_pos rfl]

theorem Path.depth?_dots (n : Nat) (parts : List Text) :
    depth? (n + 1) ((".." : Text) :: parts) = depth? n parts := by
  rw [depth?, if_pos rfl]

theorem Path.depth?_name {part : Text} (h : part ≠ "..") (n : Nat) (parts : List Text) :
    depth? n (part :: parts) = depth? (n + 1) parts := by
  cases n <;> rw [depth?, if_neg h]

/-- The location lies below a directory. -/
def Location.Below (loc root : Location) : Prop :=
  ∃ names, loc = root ++ names ∧ names ≠ [] ∧ (".." : Text) ∉ names

/-- The parts are names : none of them stands for another place. -/
def Path.AreNames (names : List Text) : Prop :=
  (".." : Text) ∉ names ∧ ("/" : Text) ∉ names

/-- Above a name is the directory that it is in. -/
theorem FileTree.above_append {names : List Text} {name : Text}
    (h : Path.AreNames (names ++ [name])) (root : Location) :
    above (root ++ (names ++ [name])) = root ++ names := by
  obtain ⟨hdots, hslash⟩ := h
  have hname : name ∈ names ++ [name] := List.mem_append_right _ List.mem_cons_self
  have hnotRoot : (root ++ (names ++ [name]) == [("/" : Text)]) = false := by
    rw [beq_eq_false_iff_ne]
    intro heq
    have hmem : name ∈ [("/" : Text)] := heq ▸ List.mem_append_right root hname
    exact hslash (List.mem_singleton.1 hmem ▸ hname)
  have hnotAbove : (root ++ (names ++ [name])).all (· == "..") = false := by
    rw [List.all_eq_false]
    refine ⟨name, List.mem_append_right root hname, fun heq => ?_⟩
    exact hdots (beq_iff_eq.1 heq ▸ hname)
  rw [above, hnotRoot, hnotAbove, if_neg Bool.false_ne_true, if_neg Bool.false_ne_true,
    ← List.append_assoc, List.dropLast_concat]

/-- A walk that does not come above its start ends below it, as far as its depth says. -/
theorem Path.foldl_advance_of_depth? (root : Location) : ∀ {parts names : List Text} {n : Nat},
    AreNames names → ("/" : Text) ∉ parts → depth? names.length parts = some n →
    ∃ after, parts.foldl FileTree.advance (root ++ names) = root ++ after ∧ AreNames after ∧
      after.length = n
  | [], names, n, hnames, _, h => ⟨names, rfl, hnames, Option.some.inj h⟩
  | part :: parts, names, n, hnames, hparts, h => by
    rw [List.mem_cons, not_or] at hparts
    obtain ⟨hpart, hparts⟩ := hparts
    rw [List.foldl_cons, FileTree.advance]
    by_cases hdots : part = ".."
    · rw [if_pos hdots]
      subst hdots
      rcases List.eq_nil_or_concat' names with rfl | ⟨before, name, rfl⟩
      · rw [List.length_nil, depth?_above] at h
        cases h
      · rw [List.length_append, List.length_singleton, depth?_dots] at h
        have hbefore : AreNames before :=
          ⟨fun hmem => hnames.1 (List.mem_append_left _ hmem),
            fun hmem => hnames.2 (List.mem_append_left _ hmem)⟩
        rw [FileTree.above_append hnames]
        exact foldl_advance_of_depth? root hbefore hparts h
    · rw [depth?_name hdots] at h
      rw [if_neg hdots, List.append_assoc]
      have hnext : AreNames (names ++ [part]) := by
        refine ⟨fun hmem => ?_, fun hmem => ?_⟩
        · rcases List.mem_append.1 hmem with hmem | hmem
          · exact hnames.1 hmem
          · exact hdots (List.mem_singleton.1 hmem).symm
        · rcases List.mem_append.1 hmem with hmem | hmem
          · exact hnames.2 hmem
          · exact hpart (List.mem_singleton.1 hmem)
      refine foldl_advance_of_depth? root hnext hparts ?_
      rwa [List.length_append]

/-- The directories in a name lead above the root, if the name itself stands in a directory below
the root. -/
def Text.Climbs (name : Text) : Prop :=
  Path.depth? 1 name.directories = none

instance (name : Text) : Decidable name.Climbs :=
  inferInstanceAs (Decidable (_ = _))

theorem Text.slash_not_mem_directories (name : Text) : ("/" : Text) ∉ name.directories := by
  intro h
  have hpiece := List.dropLast_subset _ (List.mem_filter.1 h).1
  exact not_mem_of_mem_split hpiece (by decide)

namespace Path

/-- The file of a name that does not climb lies below the root. -/
theorem below_location_join {dir ending name : Text} (hdir : dir.IsFileName)
    (hending : ending.IsFileName) (hname : ¬ name.Climbs) (root : Path) :
    Location.Below (root.join (.ofText (dir ++ "/" ++ name ++ ending : Text))).location
      root.location := by
  obtain ⟨n, hdepth⟩ := Option.ne_none_iff_exists'.1 hname
  have hfile : (name.fileName ++ ending : Text).IsFileName :=
    .append name.not_mem_fileName hending
  have hslash : ∀ {t : Text}, t.IsFileName → ("/" : Text) ≠ t := by
    rintro t ht rfl
    exact absurd ht.long (by decide)
  have hnames : AreNames [dir] :=
    ⟨fun h => hdir.ne_dots (List.mem_singleton.1 h).symm,
      fun h => hslash hdir (List.mem_singleton.1 h)⟩
  obtain ⟨after, hwalk, ⟨hdots, -⟩, -⟩ := foldl_advance_of_depth? root.location hnames
    name.slash_not_mem_directories hdepth
  refine ⟨after ++ [name.fileName ++ ending], ?_, by simp, ?_⟩
  · have hjoin : (root.join (.ofText (dir ++ "/" ++ name ++ ending : Text))).location =
        (dir :: name.directories ++ [name.fileName ++ ending]).foldl FileTree.advance
          root.location := by
      rw [ofText_between hdir hending, join, if_pos rfl, location, List.foldl_append]
      rfl
    have hdirs : (dir :: name.directories).foldl FileTree.advance root.location =
        root.location ++ after := by
      rw [List.foldl_cons, FileTree.advance, if_neg hdir.ne_dots, hwalk]
    rw [hjoin, List.foldl_append, hdirs, List.foldl_cons, List.foldl_nil, FileTree.advance,
      if_neg hfile.ne_dots, List.append_assoc]
  · rw [List.mem_append, List.mem_singleton, not_or]
    exact ⟨hdots, fun heq => hfile.ne_dots heq.symm⟩

/-- A plain path leads below the root. -/
theorem below_location_join_of_plain {path : Text} (h : path.IsPlainPath) (hne : path ≠ [])
    (root : Path) : Location.Below (root.join (.ofText path)).location root.location := by
  refine ⟨(ofText path).parts, location_join h.relative h.noDots root, fun hnil => ?_, h.noDots⟩
  have hjoined := h.joined
  rw [hnil] at hjoined
  exact hne hjoined.symm

end Path

end DtoPress
