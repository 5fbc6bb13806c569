import DtoPress.Proofs.Directories
import DtoPress.Proofs.LookUps

/-!
# Calls made again

Calls that have all succeeded can be made a second time : they succeed again, and every file and the
list of files stay as they are (`Session.carryOutAll_again`), whatever the generator and its target
and whatever was there before. Two things carry this. What a call writes does not depend on the
calls before it, so a sequence of calls is one sequence of writes (`Session.carryOutAll_eq`). And
a run of writes leaves each file with the last text that it is given (`Workspace.get?_of_writeAll`),
in directories that are then there (`Workspace.takesInPlace_of_writeAll`), so the same writes put
into each file, at its place, what it has in the end (`Workspace.writeAll_again`).
-/

set_option linter.unusedSectionVars false

namespace DtoPress

/-! ## Writes in place -/

/-- Below the root there is a file at the path, and it can be written anew : the path can be handed
to the operating system, its directory is there, it can be opened and written to its end, and the
text has bytes. -/
structure FileTree.TakesInPlace (t : FileTree) (root : Path) (path text : Text) : Prop where
  parent : (root.join (.ofText path)).parent.fault? = none
  full : (root.join (.ofText path)).fault? = none
  directory : t.isDirectory (root.join (.ofText path)).parent = true
  opened : t.openForWriting (root.join (.ofText path)) =
    .ok (t.system.location (root.join (.ofText path)))
  whole : Entries.get? t.system.interrupted (t.system.location (root.join (.ofText path))) = none
  file : ∃ content, t.node? (t.system.location (root.join (.ofText path))) = some (.file content)
  text : ∃ s, text.string? = some s

/-- What a write puts into a tree, and where. -/
def System.placed (s : System) (root : Path) (write : Text × Text) : Location × Node :=
  (s.location (root.join (.ofText write.1)), .file (.text (write.2.string?.getD "")))

theorem FileTree.TakesInPlace.file_of_extends {t t' : FileTree} {root : Path} {path text : Text}
    {touched : List Location} (h : t.TakesInPlace root path text) (hextends : t.Extends t' touched)
    (hfiles : ∀ loc ∈ touched, ∃ content, t'.node? loc = some (.file content)) :
    ∃ content, t'.node? (t.system.location (root.join (.ofText path))) = some (.file content) := by
  by_cases hmem : t.system.location (root.join (.ofText path)) ∈ touched
  · exact hfiles _ hmem
  · obtain ⟨content, hnode⟩ := h.file
    exact ⟨content, (hextends.file hmem content).2 hnode⟩

/-- Where files are, they can be written as long as directories stay and they stay files. -/
theorem FileTree.TakesInPlace.of_extends {t t' : FileTree} {root : Path} {path text : Text}
    {touched : List Location} (h : t.TakesInPlace root path text) (hextends : t.Extends t' touched)
    (hfiles : ∀ loc ∈ touched, ∃ content, t'.node? loc = some (.file content)) :
    t'.TakesInPlace root path text where
  parent := h.parent
  full := h.full
  directory := hextends.isDirectory h.directory
  opened := by
    obtain ⟨content, hnode⟩ := h.file_of_extends hextends hfiles
    rw [hextends.system]
    exact hextends.openForWriting h.opened (by simp [hnode])
  whole := by
    rw [hextends.system]
    exact h.whole
  file := by
    rw [hextends.system]
    exact h.file_of_extends hextends hfiles
  text := h.text

namespace Workspace

variable {w w' : Workspace} {root : Path} {paths : List Text}

/-- A file that can be written in its place is. -/
theorem write_of_takesInPlace (htarget : w.target = .directory root paths) {path text : Text}
    (h : w.tree.TakesInPlace root path text) : ∃ after, w.write path text = (after, none) ∧
      after.tree = w.tree.put (w.tree.system.placed root (path, text)).1
        (w.tree.system.placed root (path, text)).2 ∧
      after.target = .directory root (appendNew paths path) ∧
      w.tree.Extends after.tree [w.location root path] ∧
      ∃ content, after.tree.node? (w.location root path) = some (.file content) := by
  obtain ⟨s, hs⟩ := h.text
  have hwrite : w.tree.writeFile (root.join (.ofText path)) (.text s) =
      (w.tree.put (w.location root path) (.file (.text s)), none) :=
    FileTree.writeFile_eq_none_iff.2 ⟨h.opened, h.whole, rfl⟩
  have hpieces := FileTree.writePieces_eq_none_iff.2 ⟨s, hs, hwrite⟩
  have hdirs := FileTree.makeDirectories_of_isDirectory h.directory
  have hafter := (FileTree.status_eq_ok_iff.1 (FileTree.status_writeFile hwrite)).2
  have hwritten : w.write path text =
      (({ w with
          tree := w.tree.put (w.location root path) (.file (.text s))
          target := .directory root (appendNew paths path) } : Workspace).note .debug
        ("Wrote " ++ (root.join (.ofText path)).text), none) := by
    simp only [write, htarget, writeBelow, h.parent, hdirs, h.full, hpieces]
    rfl
  have hextends := w.tree.extends_writeFile (root.join (.ofText path)) (.text s)
  rw [hwrite] at hextends
  refine ⟨_, hwritten, ?_, rfl, hextends, _, hafter⟩
  rw [System.placed, hs, Option.getD_some]
  rfl

/-- So are all files that can be, one after the other. -/
theorem writeAll_of_takesInPlace : ∀ {ws : Entries Text Text} {w : Workspace} {paths : List Text},
    w.target = .directory root paths → (∀ e ∈ ws, w.tree.TakesInPlace root e.1 e.2) →
    ∃ after, w.writeAll ws = (after, none) ∧
      after.tree = { w.tree with
        nodes := Entries.putAll w.tree.nodes (ws.map (w.tree.system.placed root)) } ∧
      after.target = .directory root ((Entries.keys ws).foldl appendNew paths)
  | [], w, _, htarget, _ => ⟨w, rfl, rfl, htarget⟩
  | (path, text) :: ws, w, paths, htarget, h => by
    obtain ⟨hfirst, hothers⟩ := List.forall_mem_cons.1 h
    obtain ⟨next, hwrite, htree, hnext, hextends, hfile⟩ := write_of_takesInPlace htarget hfirst
    have hstill : ∀ e ∈ ws, next.tree.TakesInPlace root e.1 e.2 := fun e he =>
      (hothers e he).of_extends hextends (List.forall_mem_singleton.2 hfile)
    obtain ⟨after, hrun, hafter, hlisted⟩ := writeAll_of_takesInPlace hnext hstill
    refine ⟨after, ?_, ?_, hlisted⟩
    · rw [writeAll, hwrite]
      exact hrun
    · rw [hafter, hextends.system, htree]
      rfl

/-! ## What a run of writes leaves -/

/-- A write that has succeeded could be made again. -/
theorem takesInPlace_of_write (htarget : w.target = .directory root paths) {path text : Text}
    (h : w.write path text = (w', none)) : w'.tree.TakesInPlace root path text ∧
      w'.tree.node? (w'.location root path) =
        some (w'.tree.system.placed root (path, text)).2 := by
  obtain ⟨hparent, hfull, tree, s, hdirs, hs, hfile, -⟩ := write_directory_eq_none htarget h
  obtain ⟨-, hnode⟩ := FileTree.status_eq_ok_iff.1 (FileTree.status_writeFile hfile)
  have hextends := tree.extends_writeFile (root.join (.ofText path)) (.text s)
  rw [hfile] at hextends
  have hdirectory := hextends.isDirectory (FileTree.isDirectory_of_makeDirectories hdirs)
  obtain ⟨hopen, hwhole, -⟩ := FileTree.writeFile_eq_none_iff.1 hfile
  rw [← hextends.system] at hopen hwhole
  have hopened := hextends.openForWriting hopen (by simp [hnode])
  refine ⟨⟨hparent, hfull, hdirectory, hopened, hwhole, ⟨_, hnode⟩, ⟨s, hs⟩⟩, ?_⟩
  rw [location, hnode, System.placed, hs, Option.getD_some]

/-- After a run of writes each of them could be made again. -/
theorem takesInPlace_of_writeAll : ∀ {ws : Entries Text Text} {w : Workspace} {paths : List Text},
    w.target = .directory root paths → w.writeAll ws = (w', none) →
    ∀ e ∈ ws, w'.tree.TakesInPlace root e.1 e.2
  | [], _, _, _, _, _, he => absurd he List.not_mem_nil
  | (path, text) :: ws, w, paths, htarget, h, e, he => by
    obtain ⟨next, hwrite, hrest⟩ := writeAll_cons_eq_none h
    obtain ⟨-, -, hnext⟩ := write_directory htarget hwrite
    rcases List.mem_cons.1 he with rfl | he
    · have hextends : next.tree.Extends (next.writeAll ws).1.tree _ := extends_writeAll hnext
      rw [hrest] at hextends
      refine (takesInPlace_of_write htarget hwrite).1.of_extends hextends fun loc hloc => ?_
      obtain ⟨path', hpath', rfl⟩ := List.mem_map.1 hloc
      exact exists_file_of_writeAll hnext hrest _ (.inr ⟨path', hpath', rfl⟩)
    · exact takesInPlace_of_writeAll hnext hrest e he

/-- After a run of writes each file has the last text that it was given. -/
theorem get?_of_writeAll : ∀ {ws : Entries Text Text} {w : Workspace} {paths : List Text},
    w.target = .directory root paths → w.writeAll ws = (w', none) →
    ∀ loc ∈ Entries.keys (ws.map (w'.tree.system.placed root)),
      Entries.get? w'.tree.nodes loc = Entries.last? (ws.map (w'.tree.system.placed root)) loc
  | [], _, _, _, _, _, hloc => absurd hloc List.not_mem_nil
  | (path, text) :: ws, w, paths, htarget, h, loc, hloc => by
    obtain ⟨next, hwrite, hrest⟩ := writeAll_cons_eq_none h
    obtain ⟨-, -, hnext⟩ := write_directory htarget hwrite
    rw [List.map_cons, Entries.last?]
    by_cases hlater : loc ∈ Entries.keys (ws.map (w'.tree.system.placed root))
    · -- A later write decides.
      have hdecided := get?_of_writeAll hnext hrest loc hlater
      obtain ⟨node, hnode⟩ := Option.ne_none_iff_exists'.1 fun hnone =>
        Entries.last?_eq_none_iff.1 hnone hlater
      rw [hdecided, hnode]
      rfl
    · obtain rfl : loc = (w'.tree.system.placed root (path, text)).1 :=
        (List.mem_cons.1 hloc).resolve_right hlater
      have hextends : next.tree.Extends (next.writeAll ws).1.tree _ := extends_writeAll hnext
      rw [hrest] at hextends
      have hsystem : w'.tree.system = next.tree.system := hextends.system
      have hkeys : next.location root path ∉ (Entries.keys ws).map (next.location root) := by
        intro hmem
        rw [hsystem] at hlater
        rw [Entries.keys, List.map_map] at hlater hmem
        exact hlater hmem
      have hnode : w'.tree.node? (w'.tree.system.placed root (path, text)).1 =
          some (w'.tree.system.placed root (path, text)).2 := by
        rw [hsystem]
        exact (hextends.file hkeys _).2 (takesInPlace_of_write htarget hwrite).2
      have hfile : w'.tree.node? (w'.tree.system.placed root (path, text)).1 ≠
          some .directory := by
        rw [hnode]
        simp [System.placed]
      rw [Entries.last?_eq_none_iff.2 hlater, if_pos (beq_self_eq_true _),
        FileTree.get?_of_node? hfile]
      exact hnode

/-- A run of writes that has succeeded can be made again and changes nothing. -/
theorem writeAll_again {ws : Entries Text Text} (h : w.writeAll ws = (w', none)) :
    ∃ again, w'.writeAll ws = (again, none) ∧ again.SameFiles w' := by
  cases htarget : w.target with
  | interface =>
    cases ws with
    | nil => exact ⟨w', rfl, .refl w'⟩
    | cons write ws =>
      obtain ⟨next, hwrite, -⟩ := writeAll_cons_eq_none h
      simp [Workspace.write, htarget] at hwrite
  | buffer files =>
    obtain ⟨-, hfiles, -⟩ := writeAll_buffer ws files w htarget
    rw [h] at hfiles
    obtain ⟨hnone, hagain, htree⟩ := writeAll_buffer ws _ w' hfiles
    refine ⟨_, Prod.ext rfl hnone, htree, ?_⟩
    rw [hagain, Entries.putAll_repeat, hfiles]
  | directory root paths =>
    have hlisted := writeAll_directory htarget h
    obtain ⟨again, hrun, htree, hagain⟩ :=
      writeAll_of_takesInPlace hlisted (takesInPlace_of_writeAll htarget h)
    refine ⟨again, hrun, ?_, ?_⟩
    · rw [htree, Entries.putAll_of_settled (get?_of_writeAll htarget h)]
    · rw [hagain, hlisted, foldl_appendNew_of_subset]
      exact fun path hpath => mem_foldl_appendNew.2 (.inr hpath)

end Workspace

/-! ## Calls -/

/-- A call that writes files. -/
inductive OutputCall where
  | entity (e : Entity)
  | enum (e : EnumType)
  /-- A barrel whose kind and names are given by values. -/
  | index (kind names : Value)
  | helpers
  | decorators
  /-- All files of a model. -/
  | model (m : Model)

/-- The emissions that a generator makes for a call. -/
def OutputCall.emissions (g : Generator) : OutputCall → List Emission
  | .entity e => [g.emitEntity e]
  | .enum e => [g.emitEnum e]
  | .index kind names => [g.emitIndexOf kind names]
  | .helpers => [g.emitHelpers]
  | .decorators => [g.emitDecorators]
  | .model m => g.plan m

namespace Session

/-- A call carried out : what the session becomes, and why it failed. -/
def carryOut (s : Session) : OutputCall → Session × Option (Trouble GenerationError)
  | .entity e => s.emit (s.generator.emitEntity e)
  | .enum e => s.emit (s.generator.emitEnum e)
  | .index kind names => s.emit (s.generator.emitIndexOf kind names)
  | .helpers => s.emit s.generator.emitHelpers
  | .decorators => s.emit s.generator.emitDecorators
  | .model m => s.generate m

/-- Calls carried out up to the first that fails. -/
def carryOutAll (s : Session) : List OutputCall → Session × Option (Trouble GenerationError)
  | [] => (s, none)
  | c :: calls =>
    match s.carryOut c with
    | (after, none) => after.carryOutAll calls
    | (after, some trouble) => (after, some trouble)

theorem emitAll_singleton (s : Session) (e : Emission) : s.emitAll [e] = s.emit e := by
  rw [emitAll]
  cases s.emit e with
  | mk after trouble => cases trouble <;> rfl

theorem carryOut_eq (s : Session) (c : OutputCall) :
    s.carryOut c = s.emitAll (c.emissions s.generator) := by
  cases c with
  | model m => rfl
  | _ => exact (s.emitAll_singleton _).symm

end Session

/-- A generator makes the same emissions for a call whatever it has looked up. -/
theorem OutputCall.emissions_used (g : Generator) (lookUps : List String) (c : OutputCall) :
    c.emissions (g.used lookUps) = c.emissions g := by
  cases c with
  | entity e => exact congrArg (fun emission => [emission]) (g.used_emitEntity lookUps e)
  | enum e => exact congrArg (fun emission => [emission]) (g.used_emitEnum lookUps e)
  | index kind names =>
    exact congrArg (fun emission => [emission]) (g.used_emitIndexOf lookUps kind names)
  | helpers => exact congrArg (fun emission => [emission]) (g.used_emitHelpers lookUps)
  | decorators => exact congrArg (fun emission => [emission]) (g.used_emitDecorators lookUps)
  | model m => exact g.used_plan lookUps m

namespace Session

/-- After emissions a generator still makes the same emissions for every call. -/
theorem emissions_emitAll (es : List Emission) (s : Session) :
    OutputCall.emissions (s.emitAll es).1.generator = OutputCall.emissions s.generator := by
  obtain ⟨lookUps, hgenerator⟩ := s.emitAll_generator es
  rw [hgenerator]
  exact funext (OutputCall.emissions_used s.generator lookUps)

/-- Calls are carried out as the emissions are that the generator makes for them at the start. -/
theorem carryOutAll_eq : ∀ (calls : List OutputCall) (s : Session),
    s.carryOutAll calls = s.emitAll (calls.flatMap (OutputCall.emissions s.generator))
  | [], _ => rfl
  | c :: calls, s => by
    have hemissions := s.emissions_emitAll (c.emissions s.generator)
    rw [carryOutAll, carryOut_eq, List.flatMap_cons, emitAll_append]
    cases hrun : s.emitAll (c.emissions s.generator) with
    | mk after trouble =>
      rw [hrun] at hemissions
      cases trouble with
      | some trouble => rfl
      | none =>
        show after.carryOutAll calls = after.emitAll _
        rw [carryOutAll_eq calls after, hemissions]

/-- Emissions that have all succeeded can be carried out again and change nothing. -/
theorem emitAll_again {s after : Session} {es : List Emission}
    (h : s.emitAll es = (after, none)) : ∃ again, after.emitAll es = (again, none) ∧
      again.workspace.SameFiles after.workspace := by
  obtain ⟨hfirst, hnone⟩ := emitAll_eq_writeAll es s
  rw [h] at hfirst hnone
  obtain ⟨hwrites, htexts⟩ := Option.or_eq_none_iff.1 hnone.symm
  have hrun : s.workspace.writeAll (Emission.writes es) = (_, none) :=
    Prod.ext rfl (Option.map_eq_none_iff.1 hwrites)
  obtain ⟨w, hagain, hsame⟩ := Workspace.writeAll_again hrun
  -- The second run starts from the files that the writes of the first have left.
  obtain ⟨hcongr, hcongrTrouble⟩ := Workspace.writeAll_congr hfirst (Emission.writes es)
  rw [hagain] at hcongr hcongrTrouble
  obtain ⟨hsecond, htrouble⟩ := emitAll_eq_writeAll es after
  rw [hcongrTrouble, htexts] at htrouble
  exact ⟨_, Prod.ext rfl htrouble,
    hsecond.trans (hcongr.trans (hsame.trans hfirst.symm))⟩

/-- Calls that have all succeeded succeed again, and leave every file and the list of files as they
are. -/
theorem carryOutAll_again {s after : Session} {calls : List OutputCall}
    (h : s.carryOutAll calls = (after, none)) : ∃ again,
      after.carryOutAll calls = (again, none) ∧ again.workspace.tree = after.workspace.tree ∧
        again.workspace.target = after.workspace.target := by
  rw [carryOutAll_eq] at h
  have hemissions := s.emissions_emitAll (calls.flatMap (OutputCall.emissions s.generator))
  rw [h] at hemissions
  obtain ⟨again, hrun, hsame⟩ := emitAll_again h
  rw [← hemissions, ← carryOutAll_eq] at hrun
  exact ⟨again, hrun, hsame.tree, hsame.target⟩

/-- Calls that write two files twice, one of them with another content the second time. -/
def sampleCalls : List OutputCall :=
  [.entity { name := .str "Order", fields := [{ name := .str "id", type := .str "Int" }] },
    .index (.str "models") (.list [.str "Order", .str "Order"]), .helpers,
    .model { entities := [{ name := .str "Order" }] }]

/-- A tree where there is a barrel already. -/
def sampleBarrel : FileTree where
  nodes := [(["out"], .directory), (["out", "models"], .directory),
    (["out", "models", "index.ts"], .file (.text "export \x7b\x7d;\n"))]

theorem carryOutAll_again_sampleCalls : ∃ g after again,
    Generator.create .typescript {} = .ok g ∧
    carryOutAll ⟨g, { tree := sampleBarrel, target := .directory (.ofText "out") [] }⟩ sampleCalls =
      (after, none) ∧
    after.carryOutAll sampleCalls = (again, none) ∧
    again.workspace.tree = after.workspace.tree ∧
    again.workspace.target = after.workspace.target := by
  obtain ⟨g, hg⟩ : ∃ g, Generator.create .typescript {} = .ok g := ⟨_, rfl⟩
  have hcheck : ((Generator.create .typescript {}).toOption.map fun g =>
      (carryOutAll ⟨g, { tree := sampleBarrel, target := .directory (.ofText "out") [] }⟩
        sampleCalls).2.isNone) = some true := by
    decide +kernel
  rw [hg] at hcheck
  have hnone : (carryOutAll ⟨g, { tree := sampleBarrel, target := .directory (.ofText "out") [] }⟩
      sampleCalls).2 = none := Option.isNone_iff_eq_none.1 (Option.some.inj hcheck)
  have hrun : carryOutAll _ sampleCalls = (_, none) := Prod.ext rfl hnone
  obtain ⟨again, hagain, htree, htarget⟩ := carryOutAll_again hrun
  exact ⟨g, _, again, hg, hrun, hagain, htree, htarget⟩

end Session

end DtoPress
