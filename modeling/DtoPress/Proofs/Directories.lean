import DtoPress.Proofs.Trees
import DtoPress.Proofs.Writes

/-!
# Writes below a directory

A write below a directory that succeeds is one way through all that can go wrong
(`Workspace.write_directory_eq_none`) : the path can be handed to the operating system, its
directories can be made, and the file takes the text. However it ends, it touches the file at its
own path and no other (`Workspace.extends_write`), and so do all writes of a run together
(`Workspace.extends_writeAll`). A run that succeeds lists its paths, each once
(`Workspace.writeAll_directory`), and leaves a file at each of them
(`Workspace.exists_file_of_writeAll`).
-/

set_option linter.unusedSectionVars false

namespace DtoPress

/-! ## One write -/

theorem Text.eq_ofChars_of_mapM : ∀ {t : Text} {cs : List Char},
    t.mapM CodePoint.char? = some cs → t = ofChars cs
  | [], cs, h => by
    rw [← Option.some.inj h]
    rfl
  | c :: t, cs, h => by
    rw [List.mapM_cons, Option.bind_eq_bind, Option.bind_eq_some_iff] at h
    obtain ⟨d, hd, h⟩ := h
    rw [Option.bind_eq_bind, Option.bind_eq_some_iff] at h
    obtain ⟨ds, hds, h⟩ := h
    rw [← Option.some.inj h, eq_ofChars_of_mapM hds]
    cases c with
    | char c =>
      rw [← Option.some.inj hd]
      rfl
    | half index => cases hd

theorem Text.eq_of_string? {t : Text} {s : String} (h : t.string? = some s) : t = s := by
  obtain ⟨cs, hcs, rfl⟩ := Option.map_eq_some_iff.1 h
  rw [eq_ofChars_of_mapM hcs, ofString, String.toList_ofList]

theorem FileTree.writePieces_eq_none_iff {t t' : FileTree} {p : Path} {text : Text} :
    t.writePieces p [text] = (t', none) ↔
      ∃ s : String, text.string? = some s ∧ t.writeFile p (.text s) = (t', none) := by
  unfold writePieces encodable encodable
  cases hstring : text.string? with
  | none =>
    match hwrite : t.writeFile p (.text "") with
    | (after, none) => simp [hwrite]
    | (after, some e) => simp [hwrite]
  | some s =>
    match hwrite : t.writeFile p (.text s) with
    | (after, none) => simp [hwrite]
    | (after, some e) => simp [hwrite]

/-- A text in pieces is refused as the file is that it goes to. -/
theorem FileTree.writeFile_of_writePieces {t t' : FileTree} {p : Path} {pieces : List Text}
    {e : OsError} (h : t.writePieces p pieces = (t', some (.cause e))) :
    t.writeFile p (.text (encodable pieces).1) = (t', some e) := by
  unfold writePieces at h
  simp only at h
  split at h
  next hwrite =>
    obtain ⟨rfl, hcause⟩ := Prod.mk.inj h
    obtain rfl := Trouble.cause.inj (Option.some.inj hcause)
    exact hwrite
  · split at h <;> simp at h

theorem FileTree.extends_writePieces (t : FileTree) (p : Path) (pieces : List Text) :
    t.Extends (t.writePieces p pieces).1 [t.system.location p] := by
  have hwrite := t.extends_writeFile p (.text (encodable pieces).1)
  unfold writePieces
  simp only
  split
  next h =>
    rw [h] at hwrite
    exact hwrite
  next h =>
    rw [h] at hwrite
    exact hwrite

namespace Workspace

variable {w w' : Workspace} {root : Path}

/-- Where the file at a path below a root is. -/
def location (w : Workspace) (root : Path) (path : Text) : Location :=
  w.tree.system.location (root.join (.ofText path))

/-- A write below a directory succeeds if its path can be handed to the operating system, the
directories above it can be made, and the file takes its text. -/
theorem write_directory_eq_none {paths : List Text} {path text : Text}
    (htarget : w.target = .directory root paths) (h : w.write path text = (w', none)) :
    (root.join (.ofText path)).parent.fault? = none ∧ (root.join (.ofText path)).fault? = none ∧
    ∃ (tree : FileTree) (s : String),
      w.tree.makeDirectories (root.join (.ofText path)).parent = (tree, none) ∧
      text.string? = some s ∧
      tree.writeFile (root.join (.ofText path)) (.text s) = (w'.tree, none) ∧
      w'.target = .directory root (appendNew paths path) := by
  simp only [write, htarget, writeBelow] at h
  split at h
  · simp at h
  next hparent =>
    split at h
    · simp at h
    next tree hdirs =>
      cases hfault : (root.join (.ofText path)).fault? with
      | some f => simp [hfault] at h
      | none =>
        simp only [hfault] at h
        split at h
        · simp at h
        · simp at h
        next after hpieces =>
          obtain rfl := congrArg Prod.fst h
          obtain ⟨s, hs, hfile⟩ := FileTree.writePieces_eq_none_iff.1 hpieces
          exact ⟨hparent, rfl, tree, s, hdirs, hs, hfile, rfl⟩

/-- A write below a directory touches the file at its path and no other, however it ends. -/
theorem extends_write {paths : List Text} (htarget : w.target = .directory root paths)
    (path text : Text) : w.tree.Extends (w.write path text).1.tree [w.location root path] ∧
      ∃ after, (w.write path text).1.target = .directory root after := by
  have hmake := w.tree.extends_makeDirectories (root.join (.ofText path)).parent
  have hdirs := hmake.touching [w.location root path]
  have hwrite := hmake.trans
    ((w.tree.makeDirectories (root.join (.ofText path)).parent).1.extends_writePieces
      (root.join (.ofText path)) [text])
  rw [hmake.system] at hwrite
  simp only [write, htarget, writeBelow]
  split
  · exact ⟨(FileTree.Extends.refl _).touching _, paths, htarget⟩
  split
  next tree refusal hmade =>
    rw [hmade] at hdirs
    exact ⟨hdirs, paths, rfl⟩
  next tree hmade =>
    rw [hmade] at hdirs hwrite
    cases hfault : (root.join (.ofText path)).fault? with
    | some f => exact ⟨hdirs, paths, rfl⟩
    | none =>
      simp only
      split
      next after e hpieces =>
        rw [hpieces] at hwrite
        exact ⟨hwrite, paths, rfl⟩
      next after f hpieces =>
        rw [hpieces] at hwrite
        exact ⟨hwrite, paths, rfl⟩
      next after hpieces =>
        rw [hpieces] at hwrite
        exact ⟨hwrite, _, rfl⟩

/-- A write below a directory that succeeds leaves its text there and touches no other file. -/
theorem write_directory {paths : List Text} {path text : Text}
    (htarget : w.target = .directory root paths) (h : w.write path text = (w', none)) :
    (∃ s : String, text = s ∧
      w'.tree.status (root.join (.ofText path)) = .ok (.file (.text s))) ∧
    w.tree.Extends w'.tree [w.location root path] ∧
    w'.target = .directory root (appendNew paths path) := by
  obtain ⟨-, -, tree, s, -, hs, hfile, htarget'⟩ := write_directory_eq_none htarget h
  obtain ⟨hextends, -⟩ := extends_write htarget path text
  rw [h] at hextends
  exact ⟨⟨s, Text.eq_of_string? hs, FileTree.status_writeFile hfile⟩, hextends, htarget'⟩

/-- Writes leave the locations of paths as they are. -/
theorem location_congr {touched : List Location} (h : w.tree.Extends w'.tree touched)
    (root : Path) (path : Text) : w'.location root path = w.location root path := by
  rw [location, location, h.system]

/-! ## Runs of writes -/

theorem extends_writeAll : ∀ {ws : Entries Text Text} {w : Workspace} {paths : List Text},
    w.target = .directory root paths →
      w.tree.Extends (w.writeAll ws).1.tree (ws.keys.map (w.location root))
  | [], w, _, _ => .refl w.tree
  | (path, text) :: ws, w, _, htarget => by
    obtain ⟨hwrite, paths', htarget'⟩ := extends_write htarget path text
    rw [writeAll]
    cases hw : w.write path text with
    | mk next trouble =>
      rw [hw] at hwrite htarget'
      cases trouble with
      | none =>
        have hrest := hwrite.trans (@extends_writeAll ws _ _ htarget')
        rwa [funext (location_congr hwrite root)] at hrest
      | some trouble =>
        exact hwrite.mono fun loc hloc => List.mem_cons.2 (.inl (List.mem_singleton.1 hloc))

/-- Once a run of writes has come to its end, there is a file at each of its paths. -/
theorem exists_file_of_writeAll : ∀ {ws : Entries Text Text} {w after : Workspace}
    {paths : List Text}, w.target = .directory root paths → w.writeAll ws = (after, none) →
    ∀ loc, (∃ content, w.tree.node? loc = some (.file content)) ∨
      (∃ path ∈ ws.keys, loc = w.location root path) →
    ∃ content, after.tree.node? loc = some (.file content)
  | [], w, after, _, _, hrun, loc, hloc => by
    obtain rfl : w = after := congrArg Prod.fst hrun
    simpa using hloc
  | (path, text) :: ws, w, after, _, htarget, hrun, loc, hloc => by
    obtain ⟨next, hwrite, hrest⟩ := writeAll_cons_eq_none hrun
    obtain ⟨⟨s, -, hstatus⟩, hextends, hnext⟩ := write_directory htarget hwrite
    obtain ⟨-, hown⟩ := FileTree.status_eq_ok_iff.1 hstatus
    replace hown : next.tree.node? (w.location root path) = some (.file (.text s)) := by
      rwa [← location_congr hextends root path]
    refine exists_file_of_writeAll hnext hrest loc ?_
    by_cases heq : loc = w.location root path
    · exact .inl ⟨_, heq ▸ hown⟩
    · rcases hloc with ⟨content, hcontent⟩ | ⟨path', hpath', rfl⟩
      · have hother : loc ∉ [w.location root path] := by simpa using heq
        exact .inl ⟨content, (hextends.file hother content).2 hcontent⟩
      · rcases List.mem_cons.1 hpath' with rfl | hpath'
        · exact absurd rfl heq
        · exact .inr ⟨path', hpath', (location_congr hextends root path').symm⟩

/-- A directory lists the paths that were written to it, each once. -/
theorem writeAll_directory : ∀ {ws : Entries Text Text} {w : Workspace} {paths : List Text},
    w.target = .directory root paths → w.writeAll ws = (w', none) →
    w'.target = .directory root ((Entries.keys ws).foldl appendNew paths)
  | [], w, paths, htarget, h => by
    obtain rfl : w = w' := congrArg Prod.fst h
    exact htarget
  | (path, text) :: ws, w, paths, htarget, h => by
    obtain ⟨next, hwrite, hrest⟩ := writeAll_cons_eq_none h
    obtain ⟨-, -, hnext⟩ := write_directory htarget hwrite
    have hlisted := writeAll_directory hnext hrest
    exact hlisted

theorem writeAll_fresh {ws : Entries Text Text} (htarget : w.target = .directory root [])
    (h : w.writeAll ws = (w', none)) :
    w'.target = .directory root (Entries.keys ws).eraseDups := by
  rw [writeAll_directory htarget h, foldl_appendNew _ List.nodup_nil, List.nil_append]

end Workspace

end DtoPress
