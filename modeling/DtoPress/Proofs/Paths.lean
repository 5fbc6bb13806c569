import DtoPress.Proofs.Plan
import DtoPress.Proofs.Splitting
import DtoPress.Proofs.Trees

/-!
# Paths of generated files

Under the usual directories the path of a generated file is plain : it is relative, has no
double dot, and is written as its parts are, so that below any root two of them lead to two
places (`Path.location_join_inj`). Nothing but a slash in a name can break this
(`Generator.plain_of_mem_paths`), because a name is never a part of its own.
-/

set_option linter.unusedSectionVars false

namespace DtoPress

/-! ## Reading paths -/

/-- The text can be the name of a file or a directory, and is none of those that stand for
another place. -/
structure Text.IsFileName (t : Text) : Prop where
  noSlash : (.char '/' : CodePoint) ∉ t
  long : 2 < t.length

theorem Text.IsFileName.append {t u : Text} (ht : (.char '/' : CodePoint) ∉ t)
    (hu : u.IsFileName) : (t ++ u : Text).IsFileName where
  noSlash := by
    rw [List.mem_append, not_or]
    exact ⟨ht, hu.noSlash⟩
  long := by
    rw [List.length_append]
    exact Nat.lt_add_left _ hu.long

/-- Names of files are parts that are kept when a path is read. -/
theorem Text.filter_names {names : List Text} (h : ∀ n ∈ names, n.IsFileName) :
    (names.filter fun p => p != ("" : Text) && p != ("." : Text)) = names := by
  rw [List.filter_eq_self]
  intro n hn
  have hlong := (h n hn).long
  rw [Bool.and_eq_true, bne_iff_ne, bne_iff_ne]
  constructor
  · rintro rfl
    exact absurd hlong (by decide)
  · rintro rfl
    exact absurd hlong (by decide)

theorem Text.IsFileName.ne_dots {t : Text} (h : t.IsFileName) : t ≠ ".." := by
  rintro rfl
  exact absurd h.long (by decide)

/-- A text that begins with a name of a file is no path with a root. -/
theorem Path.rootOf_append {t : Text} (h : t.IsFileName) (u : Text) :
    Path.rootOf (t ++ u) = "" := by
  have hlong := h.long
  have hslash := h.noSlash
  cases t with
  | nil => exact absurd hlong (by decide)
  | cons c cs =>
    rw [List.mem_cons, not_or] at hslash
    have hc : decide (c = .char '/') = false := decide_eq_false fun heq => hslash.1 heq.symm
    rw [rootOf, List.cons_append, List.takeWhile_cons, hc]
    rfl

theorem Path.ofText_name {file : Text} (h : file.IsFileName) :
    Path.ofText file = ⟨"", [file]⟩ := by
  have hroot := rootOf_append h []
  rw [List.append_nil] at hroot
  rw [ofText, hroot, Text.split_of_not_mem h.noSlash, Text.filter_names (by simpa using h)]

theorem Path.ofText_name_name {dir file : Text} (hdir : dir.IsFileName) (hfile : file.IsFileName) :
    Path.ofText (dir ++ "/" ++ file : Text) = ⟨"", [dir, file]⟩ := by
  have hsplit : Text.split (.char '/') (dir ++ "/" ++ file : Text) = [dir, file] := by
    rw [List.append_assoc]
    show Text.split (.char '/') (dir ++ .char '/' :: file) = _
    rw [Text.split_append_cons file hdir.noSlash, Text.split_of_not_mem hfile.noSlash]
  rw [ofText, hsplit, List.append_assoc, rootOf_append hdir,
    Text.filter_names (by simpa using ⟨hdir, hfile⟩)]

/-! ## Plain paths -/

/-- The path is relative, has no double dot, and is written as its parts are. -/
structure Text.IsPlainPath (t : Text) : Prop where
  relative : (Path.ofText t).root = ""
  noDots : (".." : Text) ∉ (Path.ofText t).parts
  joined : Text.joined "/" (Path.ofText t).parts = t

/-- Plain paths that lead to one place below a root are one. -/
theorem Path.location_join_inj (root : Path) {t u : Text} (ht : t.IsPlainPath)
    (hu : u.IsPlainPath)
    (h : (root.join (.ofText t)).location = (root.join (.ofText u)).location) : t = u := by
  rw [location_join ht.relative ht.noDots, location_join hu.relative hu.noDots] at h
  rw [← ht.joined, ← hu.joined, List.append_cancel_left h]

theorem Text.IsFileName.isPlainPath {file : Text} (h : file.IsFileName) : file.IsPlainPath := by
  have hpath := Path.ofText_name h
  refine ⟨by rw [hpath], ?_, ?_⟩
  · rw [hpath, List.mem_singleton]
    exact fun heq => h.ne_dots heq.symm
  · rw [hpath]
    simp [Text.joined]

theorem Text.IsFileName.isPlainPath_append {dir file : Text} (hdir : dir.IsFileName)
    (hfile : file.IsFileName) : (dir ++ "/" ++ file : Text).IsPlainPath := by
  have hpath := Path.ofText_name_name hdir hfile
  refine ⟨by rw [hpath], ?_, ?_⟩
  · rw [hpath, List.mem_cons, List.mem_singleton, not_or]
    exact ⟨fun heq => hdir.ne_dots heq.symm, fun heq => hfile.ne_dots heq.symm⟩
  · rw [hpath]
    simp [Text.joined, List.append_assoc]

namespace Generator

variable {g : Generator} {m : Model}

theorem isFileName_extension (kind : GeneratorClass) {stem : Text} (h : stem.IsFileName) :
    (stem ++ (kind.extension : Text) : Text).IsFileName where
  noSlash := by
    rw [List.mem_append, not_or]
    refine ⟨h.noSlash, fun hmem => ?_⟩
    obtain ⟨c, hc, heq⟩ := List.mem_map.1 hmem
    exact (kind.ne_of_mem_extension hc).1 (CodePoint.char.inj heq)
  long := by
    rw [List.length_append]
    exact Nat.lt_add_right _ h.long

theorem isPlainPath_barrelPath (hmodels : g.settings.modelsDir.text.IsFileName)
    (henums : g.settings.enumsDir.text.IsFileName) (kind : BarrelKind) :
    (g.barrelPath kind).IsPlainPath := by
  have hindex : (("index" : Text) ++ (g.kind.extension : Text)).IsFileName :=
    isFileName_extension g.kind ⟨by decide, by decide⟩
  have heq : ∀ dir : Text, dir ++ "/index" ++ (g.kind.extension : Text) =
      dir ++ "/" ++ (("index" : Text) ++ (g.kind.extension : Text)) := by
    intro dir
    rw [show ("/index" : Text) = "/" ++ "index" from rfl]
    simp only [List.append_assoc]
  unfold barrelPath
  rw [heq]
  cases kind with
  | models => exact hmodels.isPlainPath_append hindex
  | enums => exact henums.isPlainPath_append hindex

/-- The paths of a model whose names have no slash are plain, if directories have plain names. -/
theorem plain_of_mem_paths (hmodels : g.settings.modelsDir.text.IsFileName)
    (henums : g.settings.enumsDir.text.IsFileName)
    (hnames : ∀ n ∈ m.entityNames ++ m.enumNames, (.char '/' : CodePoint) ∉ n.text)
    {path : Text} (h : path ∈ g.paths m) : path.IsPlainPath := by
  simp only [paths, entityPaths, enumPaths, fixedPaths, List.mem_append, List.mem_map,
    List.mem_cons, List.mem_ite_nil_right, List.not_mem_nil, or_false] at h
  rcases h with ⟨e, he, rfl⟩ | rfl | ⟨-, ⟨e, he, rfl⟩ | rfl⟩ | ⟨-, rfl⟩ | rfl
  · have hname := hnames e.name (List.mem_append_left _ (List.mem_map_of_mem he))
    have hfile : (e.name.text ++ ("DTO" ++ ".model" : Text) : Text).IsFileName :=
      .append hname ⟨by decide, by decide⟩
    have hplain := hmodels.isPlainPath_append (isFileName_extension g.kind hfile)
    rw [modelPath, Settings.modelPath, dtoName]
    simpa only [List.append_assoc] using hplain
  · exact isPlainPath_barrelPath hmodels henums .models
  · have hname := hnames e.name (List.mem_append_right _ (List.mem_map_of_mem he))
    have hfile : (e.name.text ++ (".enum" : Text) : Text).IsFileName :=
      .append hname ⟨by decide, by decide⟩
    have hplain := henums.isPlainPath_append (isFileName_extension g.kind hfile)
    rw [enumPath, Settings.enumPath]
    simpa only [List.append_assoc] using hplain
  · exact isPlainPath_barrelPath hmodels henums .enums
  · exact (isFileName_extension g.kind ⟨by decide, by decide⟩ :
      g.helpersPath.IsFileName).isPlainPath
  · exact (isFileName_extension g.kind ⟨by decide, by decide⟩ :
      g.decoratorsPath.IsFileName).isPlainPath

end Generator

end DtoPress
