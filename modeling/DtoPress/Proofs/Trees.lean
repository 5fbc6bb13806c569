import DtoPress.Files.Tree
import DtoPress.Proofs.Entries
import DtoPress.Proofs.Results

/-!
# Laws of file trees

An operation on a tree makes directories and touches at most one file. `FileTree.Extends` says
this of two trees : directories stay, and away from the locations that were touched the files
are the same. Making directories touches nothing (`FileTree.extends_makeDirectories`), and a
file that is written touches its own location, however the write ends
(`FileTree.extends_writeFile`). One that was written to its end holds its content afterwards
(`FileTree.status_writeFile`).

Whether a path leads anywhere is a matter of the tree, but where it leads is a matter of the links
alone (`FileTree.landing_eq`) : it leads to its `System.location`. Where there are no links this is
the `Path.location` (`System.location_eq`), so that two paths without double dots meet below a
directory only if they have the same parts.
-/

set_option linter.unusedSectionVars false

namespace DtoPress

/-! ## Locations of paths -/

/-- The location one part further, where there are no links. -/
def FileTree.advance (loc : Location) (part : Text) : Location :=
  if part = ".." then above loc else loc ++ [part]

/-- Where a path starts. -/
def Path.start (p : Path) : Location :=
  if p.root = "" then [] else [("/" : Text)]

/-- Where a path leads if it leads anywhere, where there are no links. -/
def Path.location (p : Path) : Location :=
  p.parts.foldl FileTree.advance p.start

theorem foldl_advance_of_not_mem : ∀ {parts : List Text} (loc : Location),
    (".." : Text) ∉ parts → parts.foldl FileTree.advance loc = loc ++ parts
  | [], loc, _ => (List.append_nil loc).symm
  | part :: parts, loc, h => by
    rw [List.mem_cons, not_or] at h
    obtain ⟨hpart, hparts⟩ := h
    rw [List.foldl_cons, FileTree.advance, if_neg fun heq => hpart heq.symm,
      foldl_advance_of_not_mem _ hparts, List.append_assoc, List.singleton_append]

/-- A path without double dots leads below the one that it is joined to. -/
theorem Path.location_join {q : Path} (hroot : q.root = "") (hdots : (".." : Text) ∉ q.parts)
    (p : Path) : (p.join q).location = p.location ++ q.parts := by
  rw [join, if_pos hroot, location, List.foldl_append, foldl_advance_of_not_mem _ hdots]
  rfl

namespace System

variable {s : System} {loc after : Location}

/-- Where a location leads if it leads anywhere. -/
def resolve (s : System) (loc : Location) : Location :=
  (Entries.get? s.links loc).getD loc

/-- The location that a path names if it names one. -/
def place (s : System) (p : Path) : Location :=
  p.parts.foldl (fun loc part => FileTree.advance (s.resolve loc) part) p.start

/-- Where a path leads if it leads anywhere. -/
def location (s : System) (p : Path) : Location :=
  s.resolve (s.place p)

theorem follow_eq_ok (h : s.follow loc = .ok after) : after = s.resolve loc := by
  unfold follow at h
  unfold resolve
  split at h
  next hlink =>
    split at h
    · cases h
    · rw [hlink, Option.getD_some, Except.ok.inj h]
  next hlink => rw [hlink, Option.getD_none, Except.ok.inj h]

theorem follow_of_not_link (h : Entries.has s.links loc = false) :
    s.follow loc = .ok loc ∧ s.resolve loc = loc := by
  have hnone : Entries.get? s.links loc = none :=
    Option.isNone_iff_eq_none.1 (Option.isSome_eq_false_iff.1 h)
  exact ⟨by rw [follow, hnone], by rw [resolve, hnone, Option.getD_none]⟩

/-- Without links a path leads where its parts say. -/
theorem location_eq (h : s.links = []) (p : Path) : s.location p = p.location := by
  have hresolve : ∀ loc, s.resolve loc = loc := fun loc => by
    rw [resolve, h]
    rfl
  simp only [location, place, hresolve]
  rfl

end System

namespace FileTree

variable {t t' t'' : FileTree} {loc : Location} {p : Path}

/-- A step goes from a directory that may be searched to a name in it or to what is above it. -/
theorem step_eq_ok_iff {part : Text} {after : Location} : t.step loc part = .ok after ↔
    t.system.follow loc = .ok (t.system.resolve loc) ∧
      t.node? (t.system.resolve loc) = some .directory ∧
      t.system.allow (t.system.resolve loc) .search = .ok () ∧
      (part = ".." ∨ Path.sizeOf part ≤ maxNameBytes) ∧
      after = advance (t.system.resolve loc) part := by
  unfold step advance
  cases hfollow : t.system.follow loc with
  | error e => simp
  | ok dir =>
    obtain rfl := System.follow_eq_ok hfollow
    cases hnode : t.node? (t.system.resolve loc) with
    | none => simp [hnode]
    | some node =>
      cases node with
      | file content => simp [hnode]
      | directory =>
        cases hallow : t.system.allow (t.system.resolve loc) .search with
        | error e => simp [hnode, hallow]
        | ok u =>
          by_cases hdots : part = ".."
          · simp [hnode, hallow, hdots, eq_comm]
          · by_cases hlong : maxNameBytes < Path.sizeOf part
            · simp [hnode, hallow, hdots, hlong, Nat.not_le.2 hlong]
            · simp [hnode, hallow, hdots, hlong, Nat.not_lt.1 hlong, eq_comm]

theorem foldlM_step_eq_ok : ∀ {parts : List Text} {loc after : Location},
    parts.foldlM t.step loc = .ok after →
      after = parts.foldl (fun loc part => advance (t.system.resolve loc) part) loc
  | [], _, _, h => (Except.ok.inj h).symm
  | part :: parts, loc, after, h => by
    rw [List.foldlM_cons] at h
    obtain ⟨next, hstep, h⟩ := bind_eq_ok_iff.1 h
    obtain ⟨-, -, -, -, rfl⟩ := step_eq_ok_iff.1 hstep
    rw [foldlM_step_eq_ok h, List.foldl_cons]

/-- A path that names a location names its own. -/
theorem locate_eq (h : t.locate p = .ok loc) : loc = t.system.place p := by
  unfold locate at h
  split at h
  · cases h
  · exact foldlM_step_eq_ok h

/-- A path that leads somewhere leads to its location. -/
theorem landing_eq (h : t.landing p = .ok loc) : loc = t.system.location p := by
  obtain ⟨named, hlocate, hfollow⟩ := bind_eq_ok_iff.1 h
  rw [System.follow_eq_ok hfollow, locate_eq hlocate]
  rfl

theorem landing_of_locate (h : t.locate p = .ok loc) : t.landing p = t.system.follow loc := by
  rw [landing, h]
  rfl

/-! ## What operations keep -/

/-- The directories of a tree are directories of the other, and away from the touched locations
the files are the same. -/
structure Extends (t t' : FileTree) (touched : List Location) : Prop where
  system : t'.system = t.system
  directory : ∀ {loc}, t.node? loc = some .directory → t'.node? loc = some .directory
  file : ∀ {loc}, loc ∉ touched → ∀ content,
    t'.node? loc = some (.file content) ↔ t.node? loc = some (.file content)

theorem Extends.refl (t : FileTree) : t.Extends t [] := ⟨rfl, id, fun _ _ => .rfl⟩

theorem Extends.trans {touched more : List Location} (h : t.Extends t' touched)
    (h' : t'.Extends t'' more) : t.Extends t'' (touched ++ more) where
  system := h'.system.trans h.system
  directory hdir := h'.directory (h.directory hdir)
  file hloc content := by
    rw [List.mem_append, not_or] at hloc
    exact (h'.file hloc.2 content).trans (h.file hloc.1 content)

theorem Extends.mono {touched more : List Location} (h : t.Extends t' touched)
    (hmore : ∀ loc ∈ touched, loc ∈ more) : t.Extends t' more where
  system := h.system
  directory := h.directory
  file hloc := h.file fun hmem => hloc (hmore _ hmem)

/-- What touches nothing touches no more than some locations. -/
theorem Extends.touching (h : t.Extends t' []) (more : List Location) : t.Extends t' more :=
  h.mono fun loc hloc => by cases hloc

/-- What a path leads to it leads to in a tree with more directories. -/
theorem Extends.foldlM_step {touched : List Location} (h : t.Extends t' touched) :
    ∀ {parts : List Text} {loc after : Location}, parts.foldlM t.step loc = .ok after →
      parts.foldlM t'.step loc = .ok after
  | [], _, _, hfold => hfold
  | part :: parts, loc, after, hfold => by
    rw [List.foldlM_cons] at hfold ⊢
    obtain ⟨next, hstep, hrest⟩ := bind_eq_ok_iff.1 hfold
    obtain ⟨hfollow, hnode, hallow⟩ := step_eq_ok_iff.1 hstep
    have hstep' : t'.step loc part = .ok next := by
      rw [step_eq_ok_iff, h.system]
      exact ⟨hfollow, h.directory hnode, hallow⟩
    rw [hstep', bind_ok]
    exact h.foldlM_step hrest

theorem Extends.locate {touched : List Location} (h : t.Extends t' touched)
    (hlocate : t.locate p = .ok loc) : t'.locate p = .ok loc := by
  unfold FileTree.locate at hlocate ⊢
  split at hlocate
  · cases hlocate
  next hsize =>
    rw [if_neg hsize]
    exact h.foldlM_step hlocate

theorem Extends.landing {touched : List Location} (h : t.Extends t' touched)
    (hlanding : t.landing p = .ok loc) : t'.landing p = .ok loc := by
  obtain ⟨named, hlocate, hfollow⟩ := bind_eq_ok_iff.1 hlanding
  rw [landing_of_locate (h.locate hlocate), h.system, hfollow]

/-! ## One node set -/

@[simp] theorem system_put (t : FileTree) (loc : Location) (node : Node) :
    (t.put loc node).system = t.system := rfl

theorem isGiven_of_node? (h : t.node? loc ≠ some .directory) : isGiven loc = false :=
  Bool.eq_false_iff.2 fun hgiven => h (by rw [node?, if_pos hgiven])

theorem get?_of_node? (h : t.node? loc ≠ some .directory) :
    Entries.get? t.nodes loc = t.node? loc := by
  rw [node?, isGiven_of_node? h, if_neg Bool.false_ne_true]

theorem node?_put_self (h : isGiven loc = false) (node : Node) :
    (t.put loc node).node? loc = some node := by
  rw [node?, h, if_neg Bool.false_ne_true, put, Entries.get?_put_self]

theorem node?_put_of_ne {other : Location} (h : other ≠ loc) (node : Node) :
    (t.put loc node).node? other = t.node? other := by
  rw [node?, node?, put, Entries.get?_put_of_ne h]

/-- A file put where there is no directory touches its location. -/
theorem extends_put_file (h : t.node? loc ≠ some .directory) (content : Content) :
    t.Extends (t.put loc (.file content)) [loc] where
  system := rfl
  directory := fun {other} hdir => by
    have hne : other ≠ loc := fun heq => h (heq ▸ hdir)
    rwa [node?_put_of_ne hne]
  file hloc content := by
    rw [node?_put_of_ne (List.ne_of_not_mem_cons hloc)]

/-! ## Directories -/

/-- A directory is made where nothing stands and no link. -/
theorem makeDirectory_eq_ok (h : t.makeDirectory p = .ok t') : ∃ loc,
    t.locate p = .ok loc ∧ Entries.has t.system.links loc = false ∧ t.node? loc = none ∧
      t' = t.put loc .directory := by
  unfold makeDirectory at h
  split at h
  · cases h
  next loc hlocate =>
    split at h
    · cases h
    next hfree =>
      rw [not_or, Bool.not_eq_true, Option.not_isSome_iff_eq_none] at hfree
      split at h
      · cases h
      · exact ⟨loc, hlocate, hfree.1, hfree.2, (Except.ok.inj h).symm⟩

theorem extends_makeDirectory (h : t.makeDirectory p = .ok t') : t.Extends t' [] := by
  obtain ⟨loc, -, -, hnone, rfl⟩ := makeDirectory_eq_ok h
  have hgiven : isGiven loc = false := isGiven_of_node? (t := t) (by simp [hnone])
  refine ⟨rfl, fun {other} hdir => ?_, fun {other} _ content => ?_⟩
  · by_cases heq : other = loc
    · rw [heq, node?_put_self hgiven]
    · rwa [node?_put_of_ne heq]
  · by_cases heq : other = loc
    · rw [heq, node?_put_self hgiven, hnone]
      simp
    · rw [node?_put_of_ne heq]

theorem extends_ensureDirectory (h : t.ensureDirectory p = .ok t') : t.Extends t' [] := by
  unfold ensureDirectory at h
  split at h
  next hmake => exact Except.ok.inj h ▸ extends_makeDirectory hmake
  · split at h
    · exact Except.ok.inj h ▸ .refl t
    · cases h

theorem extends_finish (t : FileTree) (p : Path) :
    t.Extends (makeDirectoriesFrom.finish t p).1 [] := by
  unfold makeDirectoriesFrom.finish
  split
  next h => exact extends_ensureDirectory h
  · exact .refl t

theorem extends_makeDirectoriesFrom (root : Text) : ∀ (parts : List Text) (t : FileTree),
    t.Extends (t.makeDirectoriesFrom root parts).1 []
  | [], t => extends_finish t _
  | part :: above, t => by
    have ih := extends_makeDirectoriesFrom root above t
    unfold makeDirectoriesFrom
    split
    next h => exact extends_ensureDirectory h
    · split
      · split
        next h => rwa [h] at ih
        next after h =>
          rw [h] at ih
          exact ih.trans (extends_finish after _)
      · exact .refl t

/-- Making directories touches no file. -/
theorem extends_makeDirectories (t : FileTree) (p : Path) :
    t.Extends (t.makeDirectories p).1 [] :=
  extends_makeDirectoriesFrom p.root p.parts.reverse t

/-! ## Refused directories -/

theorem path_of_ensureDirectory {e : OsError} (h : t.ensureDirectory p = .error e) :
    e.path ≠ none := by
  unfold ensureDirectory makeDirectory at h
  split at h
  · cases h
  next hmake =>
    split at h
    · cases h
    obtain rfl := Except.error.inj h
    split at hmake
    · obtain rfl := Except.error.inj hmake
      simp
    · split at hmake
      · obtain rfl := Except.error.inj hmake
        simp
      · split at hmake
        · obtain rfl := Except.error.inj hmake
          simp
        · cases hmake

theorem path_of_finish {e : OsError} (h : makeDirectoriesFrom.finish t p = (t', some e)) :
    e.path ≠ none := by
  unfold makeDirectoriesFrom.finish at h
  split at h
  · cases congrArg Prod.snd h
  next hensure =>
    obtain rfl := Option.some.inj (congrArg Prod.snd h)
    exact path_of_ensureDirectory hensure

theorem path_of_makeDirectoriesFrom {root : Text} : ∀ {parts : List Text} {t t' : FileTree}
    {e : OsError}, t.makeDirectoriesFrom root parts = (t', some e) → e.path ≠ none
  | [], _, _, _, h => path_of_finish h
  | part :: above, t, t', e, h => by
    unfold makeDirectoriesFrom at h
    split at h
    · cases congrArg Prod.snd h
    next hensure =>
      split at h
      · split at h
        next habove =>
          obtain rfl := Option.some.inj (congrArg Prod.snd h)
          exact path_of_makeDirectoriesFrom habove
        · exact path_of_finish h
      · obtain rfl := Option.some.inj (congrArg Prod.snd h)
        exact path_of_ensureDirectory hensure

/-- A directory that cannot be made is refused by the path that was asked for. -/
theorem path_of_makeDirectories {e : OsError} (h : t.makeDirectories p = (t', some e)) :
    e.path ≠ none :=
  path_of_makeDirectoriesFrom h

/-! ## What a path leads to -/

/-- What a path leads to stands at its location. -/
theorem status_eq_ok_iff {node : Node} : t.status p = .ok node ↔
    t.landing p = .ok (t.system.location p) ∧ t.node? (t.system.location p) = some node := by
  unfold status
  cases hlanding : t.landing p with
  | error e => simp
  | ok loc =>
    obtain rfl := landing_eq hlanding
    cases hnode : t.node? (t.system.location p) <;> simp [hnode]

theorem isDirectory_iff_status : t.isDirectory p = true ↔ t.status p = .ok .directory := by
  unfold isDirectory
  split <;> simp_all

theorem isDirectory_iff : t.isDirectory p = true ↔
    t.landing p = .ok (t.system.location p) ∧
      t.node? (t.system.location p) = some .directory := by
  rw [isDirectory_iff_status, status_eq_ok_iff]

theorem Extends.isDirectory {touched : List Location} (h : t.Extends t' touched)
    (hdir : t.isDirectory p = true) : t'.isDirectory p = true := by
  obtain ⟨hlanding, hnode⟩ := isDirectory_iff.1 hdir
  rw [isDirectory_iff, h.system]
  exact ⟨h.landing hlanding, h.directory hnode⟩

theorem isDirectory_of_ensureDirectory (h : t.ensureDirectory p = .ok t') :
    t'.isDirectory p = true := by
  unfold ensureDirectory at h
  split at h
  next hmake =>
    obtain rfl := Except.ok.inj h
    have hextends := extends_makeDirectory hmake
    obtain ⟨loc, hlocate, hlink, hnone, rfl⟩ := makeDirectory_eq_ok hmake
    have hgiven : isGiven loc = false := isGiven_of_node? (t := t) (by simp [hnone])
    obtain ⟨hfollow, hresolve⟩ := System.follow_of_not_link hlink
    obtain rfl := locate_eq hlocate
    refine isDirectory_iff.2 ⟨?_, ?_⟩
    · rw [landing_of_locate (hextends.locate hlocate), system_put, hfollow, System.location,
        hresolve]
    · rw [system_put, System.location, hresolve]
      exact node?_put_self hgiven _
  · split at h
    next hdir => exact Except.ok.inj h ▸ hdir.2
    · cases h

theorem isDirectory_of_finish (h : makeDirectoriesFrom.finish t p = (t', none)) :
    t'.isDirectory p = true := by
  unfold makeDirectoriesFrom.finish at h
  split at h
  next hensure => exact isDirectory_of_ensureDirectory ((Prod.mk.inj h).1 ▸ hensure)
  · simp at h

/-- Once directories are made down to a path there is one at the path. -/
theorem isDirectory_of_makeDirectories (h : t.makeDirectories p = (t', none)) :
    t'.isDirectory p = true := by
  have hparts : p = ⟨p.root, p.parts.reverse.reverse⟩ := by rw [List.reverse_reverse]
  rw [hparts]
  unfold makeDirectories at h
  revert h
  cases p.parts.reverse with
  | nil => exact isDirectory_of_finish
  | cons part above =>
    intro h
    unfold makeDirectoriesFrom at h
    split at h
    next hensure => exact isDirectory_of_ensureDirectory ((Prod.mk.inj h).1 ▸ hensure)
    · split at h
      · split at h
        · simp at h
        · exact isDirectory_of_finish h
      · simp at h

/-- Nothing is made where there is a directory. -/
theorem ensureDirectory_of_isDirectory (h : t.isDirectory p = true) :
    t.ensureDirectory p = .ok t := by
  have hmake : t.makeDirectory p = .error ⟨.exists_, some p⟩ := by
    obtain ⟨hlanding, hnode⟩ := isDirectory_iff.1 h
    obtain ⟨loc, hlocate, -⟩ := bind_eq_ok_iff.1 hlanding
    have hthere : Entries.has t.system.links loc = true ∨ (t.node? loc).isSome = true := by
      cases hlink : Entries.has t.system.links loc with
      | true => exact .inl rfl
      | false =>
        obtain rfl := locate_eq hlocate
        rw [System.location, (System.follow_of_not_link hlink).2] at hnode
        exact .inr (by rw [hnode]; rfl)
    simp only [makeDirectory, hlocate]
    exact if_pos hthere
  have hrefused : Errno.exists_ ≠ .noEntry := by decide
  rw [ensureDirectory, hmake]
  exact if_pos ⟨hrefused, h⟩

theorem makeDirectories_of_isDirectory (h : t.isDirectory p = true) :
    t.makeDirectories p = (t, none) := by
  have hparts : p = ⟨p.root, p.parts.reverse.reverse⟩ := by rw [List.reverse_reverse]
  rw [hparts] at h
  unfold makeDirectories
  revert h
  cases p.parts.reverse with
  | nil =>
    intro h
    rw [List.reverse_nil] at h
    rw [makeDirectoriesFrom, makeDirectoriesFrom.finish, ensureDirectory_of_isDirectory h]
  | cons part above =>
    intro h
    rw [makeDirectoriesFrom, ensureDirectory_of_isDirectory h]

/-! ## One file written -/

/-- A file that is opened for writing is at the location of its path, in a directory. -/
theorem openForWriting_eq_ok_iff : t.openForWriting p = .ok loc ↔
    loc = t.system.location p ∧ t.landing p = .ok loc ∧ t.node? loc ≠ some .directory ∧
      t.node? (above loc) = some .directory ∧ t.system.allow loc .write = .ok () := by
  constructor
  · intro h
    obtain ⟨there, hlanding, h⟩ := bind_eq_ok_iff.1 h
    split at h
    · cases h
    next hdir =>
      split at h
      · cases h
      next habove =>
        obtain ⟨_, hallow, h⟩ := bind_eq_ok_iff.1 h
        obtain rfl := Except.ok.inj h
        exact ⟨landing_eq hlanding, hlanding, hdir, not_not.1 habove, hallow⟩
  · rintro ⟨-, hlanding, hdir, habove, hallow⟩
    rw [openForWriting, hlanding, bind_ok, if_neg hdir, if_neg (not_not.2 habove), hallow]
    rfl

/-- A file that can be opened for writing can be in every tree with more directories. -/
theorem Extends.openForWriting {touched : List Location} (h : t.Extends t' touched)
    (hopen : t.openForWriting p = .ok loc) (hnode : t'.node? loc ≠ some .directory) :
    t'.openForWriting p = .ok loc := by
  obtain ⟨hloc, hlanding, -, habove, hallow⟩ := openForWriting_eq_ok_iff.1 hopen
  rw [openForWriting_eq_ok_iff, h.system]
  exact ⟨hloc, h.landing hlanding, hnode, h.directory habove, hallow⟩

/-- A file is written to its end if it can be opened and nothing comes between. -/
theorem writeFile_eq_none_iff {content : Content} : t.writeFile p content = (t', none) ↔
    t.openForWriting p = .ok (t.system.location p) ∧
      Entries.get? t.system.interrupted (t.system.location p) = none ∧
      t' = t.put (t.system.location p) (.file content) := by
  unfold writeFile
  cases hopen : t.openForWriting p with
  | error e => simp
  | ok loc =>
    obtain rfl := (openForWriting_eq_ok_iff.1 hopen).1
    cases hinterrupted : Entries.get? t.system.interrupted (t.system.location p) with
    | none => simp [hinterrupted, eq_comm]
    | some left => simp [hinterrupted]

/-- A file that is written touches its own location, however the write ends. -/
theorem extends_writeFile (t : FileTree) (p : Path) (content : Content) :
    t.Extends (t.writeFile p content).1 [t.system.location p] := by
  unfold writeFile
  split
  · exact (Extends.refl t).touching _
  next loc hopen =>
    obtain ⟨rfl, -, hnode, -⟩ := openForWriting_eq_ok_iff.1 hopen
    split <;> exact extends_put_file hnode _

/-- A file that cannot be opened stays as it is. -/
theorem eq_of_writeFile {content : Content} {e : OsError}
    (h : t.writeFile p content = (t', some e)) (hpath : e.path ≠ none) : t' = t := by
  unfold writeFile at h
  split at h
  · exact (congrArg Prod.fst h).symm
  · split at h
    · obtain rfl := Option.some.inj (congrArg Prod.snd h)
      exact absurd rfl hpath
    · cases congrArg Prod.snd h

/-- A file that was opened and not written to its end holds what was written of it. -/
theorem left_of_writeFile {content : Content} {e : OsError}
    (h : t.writeFile p content = (t', some e)) (hpath : e.path = none) : ∃ left,
      Entries.get? t.system.interrupted (t.system.location p) = some (e.errno, left) ∧
        t'.node? (t.system.location p) = some (.file left) := by
  unfold writeFile at h
  split at h
  · obtain rfl := Option.some.inj (congrArg Prod.snd h)
    cases hpath
  next loc hopen =>
    obtain ⟨rfl, -, hnode, -⟩ := openForWriting_eq_ok_iff.1 hopen
    split at h
    next errno left hleft =>
      obtain rfl := Option.some.inj (congrArg Prod.snd h)
      obtain rfl := congrArg Prod.fst h
      exact ⟨left, hleft, node?_put_self (isGiven_of_node? hnode) _⟩
    · cases congrArg Prod.snd h

/-- A file that was written to its end holds its content afterwards. -/
theorem status_writeFile {content : Content} (h : t.writeFile p content = (t', none)) :
    t'.status p = .ok (.file content) := by
  have hextends := t.extends_writeFile p content
  rw [h] at hextends
  obtain ⟨hopen, -, rfl⟩ := writeFile_eq_none_iff.1 h
  obtain ⟨-, hlanding, hnode, -⟩ := openForWriting_eq_ok_iff.1 hopen
  exact status_eq_ok_iff.2
    ⟨hextends.landing hlanding, node?_put_self (isGiven_of_node? hnode) _⟩

end FileTree

end DtoPress
