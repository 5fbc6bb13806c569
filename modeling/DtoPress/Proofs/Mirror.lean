import DtoPress.Proofs.Directories
import DtoPress.Proofs.FileSet
import DtoPress.Proofs.Paths

/-!
# Directories that mirror buffers

A buffer and a directory are given the same writes, and the directory takes each of them. Then
the tree below the root holds what the buffer holds, and nothing else of the tree has changed
(`FileTree.Shows`). `Workspace.Mirrors` is what one write keeps (`Workspace.Mirrors.write`) and
hence a run (`Workspace.Mirrors.writeAll`) : every path leads to a file with the text of a path that
leads to the same file. Plain paths that differ lead to different places, unless links bring them
together (`FileTree.KeepsApart`) : so this is the text of the path itself wherever no link makes it
share its file.
-/

set_option linter.unusedSectionVars false

namespace DtoPress

/-! ## What a tree shows -/

/-- No link makes a path below a root lead to the file of another one of some paths. -/
def FileTree.KeepsApart (t : FileTree) (root : Path) (paths : List Text) (p : Text) : Prop :=
  ∀ q ∈ paths, t.system.location (root.join (.ofText q)) =
    t.system.location (root.join (.ofText p)) →
      (root.join (.ofText q)).location = (root.join (.ofText p)).location

/-- Where there are no links each path has its own file. -/
theorem FileTree.keepsApart_of_links {t : FileTree} (h : t.system.links = []) (root : Path)
    (paths : List Text) (p : Text) : t.KeepsApart root paths p := by
  intro q _ heq
  rwa [System.location_eq h, System.location_eq h] at heq

instance (t : FileTree) (root : Path) (paths : List Text) (p : Text) :
    Decidable (t.KeepsApart root paths p) :=
  inferInstanceAs (Decidable (∀ q ∈ paths, _ → _))

/-- Below the root the tree afterwards holds the files, text for text, and everywhere else it
holds the files that there were before. Where links make paths share a file, it holds the text of
one of them. -/
structure FileTree.Shows (before after : FileTree) (root : Path) (files : Entries Text Text) :
    Prop where
  written : ∀ p text, Entries.get? files p = some text → before.KeepsApart root files.keys p →
    ∃ s : String, text = s ∧ after.status (root.join (.ofText p)) = .ok (.file (.text s))
  linked : ∀ p ∈ files.keys, ∃ q text, Entries.get? files q = some text ∧
    before.system.location (root.join (.ofText q)) =
      before.system.location (root.join (.ofText p)) ∧
    ∃ s : String, text = s ∧ after.status (root.join (.ofText p)) = .ok (.file (.text s))
  others : ∀ loc, (∀ p ∈ files.keys, after.landing (root.join (.ofText p)) ≠ .ok loc) →
    ∀ content, after.node? loc = some (.file content) ↔ before.node? loc = some (.file content)

/-! ## One write, and a run -/

namespace Workspace

variable {w w' : Workspace} {root : Path}

/-- The workspace writes below a root, and below it each path leads to what a buffer of the same
writes holds, for this path or for another one that leads to the same file. -/
structure Mirrors (w : Workspace) (before : FileTree) (root : Path) (files : Entries Text Text) :
    Prop where
  target : w.target = .directory root files.keys
  tree : before.Extends w.tree (files.keys.map fun p => before.system.location
    (root.join (.ofText p)))
  linked : ∀ p ∈ files.keys, ∃ q text, Entries.get? files q = some text ∧
    before.system.location (root.join (.ofText q)) =
      before.system.location (root.join (.ofText p)) ∧
    ∃ s : String, text = s ∧ w.tree.status (root.join (.ofText p)) = .ok (.file (.text s))

variable {before : FileTree} {files : Entries Text Text}

theorem mirrors_empty (before : FileTree) (root : Path) (log : Log) :
    Mirrors { tree := before, target := .directory root [], log } before root [] where
  target := rfl
  tree := .refl before
  linked p hp := by cases hp

/-- A write keeps the mirror : the path may be new, or one that was written before, or lead to the
file of one. -/
theorem Mirrors.write (h : w.Mirrors before root files) {path text : Text}
    (hwrite : w.write path text = (w', none)) : w'.Mirrors before root (files.put path text) := by
  obtain ⟨⟨s, rfl, hown⟩, hextends, htarget⟩ := write_directory h.target hwrite
  have hsystem : w.tree.system = before.system := h.tree.system
  rw [location, hsystem] at hextends
  refine ⟨by rw [htarget, Entries.keys_put], ?_, ?_⟩
  · refine (h.tree.trans hextends).mono fun loc hloc => ?_
    rw [Entries.keys_put, List.mem_map]
    rcases List.mem_append.1 hloc with hloc | hloc
    · obtain ⟨p, hp, rfl⟩ := List.mem_map.1 hloc
      exact ⟨p, mem_appendNew.2 (.inl hp), rfl⟩
    · exact ⟨path, mem_appendNew.2 (.inr rfl), (List.mem_singleton.1 hloc).symm⟩
  · intro p hp
    rw [Entries.keys_put, mem_appendNew] at hp
    rcases hp with hp | rfl
    · obtain ⟨q, old, hq, hlocation, s', rfl, hstatus⟩ := h.linked p hp
      obtain ⟨hlanding, hnode⟩ := FileTree.status_eq_ok_iff.1 hstatus
      rw [hsystem] at hlanding hnode
      by_cases hshared : before.system.location (root.join (.ofText p)) =
          before.system.location (root.join (.ofText path))
      · -- The path leads to the file that was just written.
        refine ⟨path, _, Entries.get?_put_self .., hshared.symm, s, rfl, ?_⟩
        obtain ⟨-, hwritten⟩ := FileTree.status_eq_ok_iff.1 hown
        rw [FileTree.status_eq_ok_iff, hextends.system, hsystem, hshared]
        rw [hextends.system, hsystem] at hwritten
        exact ⟨hshared ▸ hextends.landing hlanding, hwritten⟩
      · -- It leads elsewhere, so what it held before the write it holds still.
        have hne : q ≠ path := by
          rintro rfl
          exact hshared hlocation.symm
        refine ⟨q, _, by rw [Entries.get?_put_of_ne hne, hq], hlocation, s', rfl, ?_⟩
        rw [FileTree.status_eq_ok_iff, hextends.system, hsystem]
        exact ⟨hextends.landing hlanding,
          (hextends.file (fun hmem => hshared (List.mem_singleton.1 hmem)) _).2 hnode⟩
    · exact ⟨p, _, Entries.get?_put_self .., rfl, s, rfl, hown⟩

/-- So does a run of writes. -/
theorem Mirrors.writeAll : ∀ {ws : Entries Text Text} {w : Workspace} {files : Entries Text Text},
    w.Mirrors before root files → w.writeAll ws = (w', none) →
      w'.Mirrors before root (Entries.putAll files ws)
  | [], w, files, h, hrun => by
    obtain rfl : w = w' := congrArg Prod.fst hrun
    exact h
  | (path, text) :: ws, w, files, h, hrun => by
    obtain ⟨next, hwrite, hnext⟩ := writeAll_cons_eq_none hrun
    exact (h.write hwrite).writeAll hnext

/-- A workspace that mirrors a buffer shows what the buffer holds. -/
theorem Mirrors.shows (h : w.Mirrors before root files)
    (hplain : ∀ p ∈ files.keys, p.IsPlainPath) : before.Shows w.tree root files where
  written p text hget hapart := by
    have hp := Entries.mem_keys_of_get? hget
    obtain ⟨q, text', hq, hlocation, hstatus⟩ := h.linked p hp
    have hmem := Entries.mem_keys_of_get? hq
    obtain rfl := Path.location_join_inj root (hplain q hmem) (hplain p hp)
      (hapart q hmem hlocation)
    rwa [Option.some.inj (hget.symm.trans hq)]
  linked := h.linked
  others loc hloc content := by
    refine h.tree.file (fun hmem => ?_) content
    obtain ⟨p, hp, rfl⟩ := List.mem_map.1 hmem
    obtain ⟨-, -, -, -, s, -, hstatus⟩ := h.linked p hp
    rw [← h.tree.system] at hloc
    exact hloc p hp (FileTree.status_eq_ok_iff.1 hstatus).1

end Workspace

end DtoPress
