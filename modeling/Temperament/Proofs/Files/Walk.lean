import Mathlib.Tactic.SplitIfs
import Temperament.Files.Basic
import Temperament.Proofs.Files.Path

/-!
# Walks through a tree

Where a path leads depends on the folders of the tree only: a tree that keeps the folders of another
keeps its walks (`KeepsFolders.walk?`).  A walk that succeeds ends where the parts of the path say by
themselves (`walk?_eq_follow`).
-/

namespace Temperament

/-! ## Nodes above others -/

theorem Tree.view_append (t : Tree) (loc loc' : Location) :
    t.view (loc ++ loc') = (t.get? loc).bind (·.view loc') := by
  induction loc generalizing t with
  | nil => rfl
  | cons name loc ih =>
    rw [List.cons_append, view_cons, get?]
    cases t.child? name with
    | none => rfl
    | some child => exact ih child

namespace Files

variable {fs fs' : Files}

theorem isFolderAt_iff {loc : Location} : fs.isFolderAt loc = true ↔ fs.get? loc = some .folder := by
  rw [isFolderAt]
  rcases fs.get? loc with _ | _ | _ <;> simp [Node.isFolder]

/-- Whatever is there is in a folder. -/
theorem get?_of_get?_append {loc more : Location} {name : String}
    (h : fs.get? (loc ++ name :: more) ≠ none) : fs.get? loc = some .folder := by
  rw [get?, Tree.view_append] at h
  rw [get?, Tree.view]
  rcases hget : fs.root.get? loc with _ | t
  · rw [hget] at h
    exact absurd rfl h
  · rw [hget] at h
    cases t with
    | file => exact absurd rfl h
    | folder => rfl

theorem get?_of_isPrefix {loc loc' : Location} (h : loc <+: loc')
    (hloc' : fs.get? loc' = some .folder) : fs.get? loc = some .folder := by
  obtain ⟨more, rfl⟩ := h
  cases more with
  | nil => rwa [List.append_nil] at hloc'
  | cons name more => exact get?_of_get?_append (by rw [hloc']; nofun)

theorem get?_ne_none_of_isPrefix {loc loc' : Location} (h : loc <+: loc')
    (hloc' : fs.get? loc' ≠ none) : fs.get? loc ≠ none := by
  obtain ⟨more, rfl⟩ := h
  rw [get?, Tree.view_append] at hloc'
  rw [get?, Tree.view]
  intro hnone
  rw [Option.map_eq_none_iff.1 hnone] at hloc'
  exact hloc' rfl

theorem get?_dropLast {loc : Location} (h : fs.get? loc = some .folder) :
    fs.get? loc.dropLast = some .folder := by
  rcases List.eq_nil_or_concat loc with rfl | ⟨above, name, rfl⟩
  · exact h
  · rw [List.concat_eq_append] at h ⊢
    rw [List.dropLast_concat]
    exact get?_of_get?_append (by rw [h]; nofun)

/-! ## Following parts -/

/-- The location that a part leads to, if the one before is a folder. -/
def step (loc : Location) (part : String) : Location :=
  if part = "." then loc else if part = ".." then loc.dropLast else loc ++ [part]

/-- The location that parts lead to, if all on the way are folders. -/
def follow (loc : Location) (parts : List String) : Location :=
  parts.foldl step loc

/-- The location that a path leads to, if all on the way are folders. -/
def target (fs : Files) (path : String) : Location :=
  follow (fs.start (Path.ofText path)) (Path.ofText path).parts

theorem isName_dot : Path.isName "." = true := by decide

theorem isName_dotDot : Path.isName ".." = true := by decide

theorem walk?_cons (fs : Files) (loc : Location) (part : String) (parts : List String) :
    fs.walk? loc (part :: parts) =
      if fs.isFolderAt loc && Path.isName part then fs.walk? (step loc part) parts else none := by
  rw [walk?, step]
  by_cases hfolder : fs.isFolderAt loc = true
  · by_cases hdot : part = "."
    · simp [hfolder, hdot, isName_dot]
    · by_cases hdots : part = ".."
      · simp [hfolder, hdots, isName_dotDot]
      · simp [hfolder, hdot, hdots]
  · simp [hfolder]

theorem walk?_cons_eq_some {loc loc' : Location} {part : String} {parts : List String} :
    fs.walk? loc (part :: parts) = some loc' ↔
      fs.get? loc = some .folder ∧ Path.isName part = true ∧
        fs.walk? (step loc part) parts = some loc' := by
  rw [walk?_cons, ← isFolderAt_iff]
  by_cases hfolder : fs.isFolderAt loc = true <;> by_cases hname : Path.isName part = true <;>
    simp [hfolder, hname]

theorem walk?_append (fs : Files) (loc : Location) (parts parts' : List String) :
    fs.walk? loc (parts ++ parts') = (fs.walk? loc parts).bind (fs.walk? · parts') := by
  induction parts generalizing loc with
  | nil => rfl
  | cons part parts ih =>
    rw [List.cons_append, walk?_cons, walk?_cons]
    split
    · exact ih _
    · rfl

theorem walk?_eq_follow {loc loc' : Location} {parts : List String}
    (h : fs.walk? loc parts = some loc') : loc' = follow loc parts := by
  induction parts generalizing loc with
  | nil => exact (Option.some.inj h).symm
  | cons part parts ih =>
    obtain ⟨-, -, h⟩ := walk?_cons_eq_some.1 h
    exact ih h

/-! ## Trees that keep their folders -/

/-- Another tree, with the same working folder, has folders where this one does. -/
structure KeepsFolders (fs fs' : Files) : Prop where
  workingFolder_eq : fs'.workingFolder = fs.workingFolder
  folder : ∀ loc, fs.get? loc = some .folder → fs'.get? loc = some .folder

namespace KeepsFolders

theorem trans {fs'' : Files} (h : fs.KeepsFolders fs') (h' : fs'.KeepsFolders fs'') :
    fs.KeepsFolders fs'' where
  workingFolder_eq := h'.workingFolder_eq.trans h.workingFolder_eq
  folder loc hfolder := h'.folder loc (h.folder loc hfolder)

theorem start_eq (h : fs.KeepsFolders fs') (p : Path) : fs'.start p = fs.start p := by
  rw [start, start, h.workingFolder_eq]

theorem target_eq (h : fs.KeepsFolders fs') (path : String) : fs'.target path = fs.target path := by
  rw [target, target, h.start_eq]

theorem walk? (h : fs.KeepsFolders fs') {loc loc' : Location} {parts : List String}
    (hwalk : fs.walk? loc parts = some loc') : fs'.walk? loc parts = some loc' := by
  induction parts generalizing loc with
  | nil => exact hwalk
  | cons part parts ih =>
    obtain ⟨hfolder, hname, hwalk⟩ := walk?_cons_eq_some.1 hwalk
    exact walk?_cons_eq_some.2 ⟨h.folder loc hfolder, hname, ih hwalk⟩

theorem place? (h : fs.KeepsFolders fs') {p : Path} {loc : Location}
    (hplace : fs.place? p = some loc) : fs'.place? p = some loc := by
  rw [Files.place?] at hplace ⊢
  split at hplace
  · cases hplace
  · rename_i hcond
    rw [if_neg hcond, h.start_eq]
    exact h.walk? hplace

theorem locate? (h : fs.KeepsFolders fs') {path : String} {loc : Location}
    (hlocate : fs.locate? path = some loc) : fs'.locate? path = some loc := by
  rw [Files.locate?, Option.filter_eq_some_iff] at hlocate ⊢
  refine ⟨h.place? hlocate.1, ?_⟩
  rw [Bool.or_eq_true, isFolderAt_iff] at hlocate ⊢
  exact hlocate.2.imp_right (h.folder loc)

theorem locate?_eq (h : fs.KeepsFolders fs') (h' : fs'.KeepsFolders fs) (path : String) :
    fs'.locate? path = fs.locate? path :=
  Option.ext fun _ => ⟨h'.locate?, h.locate?⟩

end KeepsFolders

/-! ## Paths to files -/

/-- A path without parts is empty or asks for a folder. -/
theorem endsInSlash_of_parts_eq_nil {p : Path} (hempty : p.isEmpty = false) (hparts : p.parts = []) :
    p.endsInSlash = true := by
  have habsolute : p.isAbsolute = true := by
    simpa [Path.isEmpty, hparts] using hempty
  rw [Path.isAbsolute] at habsolute
  split at habsolute
  · rename_i first second pieces hpieces
    rw [Path.parts, List.filter_eq_nil_iff, hpieces] at hparts
    have hlast := hparts ((second :: pieces).getLast (List.cons_ne_nil _ _))
      (List.mem_cons_of_mem _ (List.getLast_mem _))
    rw [Path.endsInSlash, hpieces, List.tail_cons,
      List.getLast?_eq_some_getLast (List.cons_ne_nil _ _)]
    simpa using hlast
  · cases habsolute

/-- A path that leads to no folder leads to a name in a folder. -/
theorem exists_above_of_locate? {path : String} {loc : Location}
    (hlocate : fs.locate? path = some loc) (hloc : fs.get? loc ≠ some .folder) :
    ∃ above name, loc = above ++ [name] ∧ fs.get? above = some .folder := by
  rw [locate?, Option.filter_eq_some_iff, Bool.or_eq_true, isFolderAt_iff] at hlocate
  obtain ⟨hplace, hslash⟩ := hlocate
  rw [place?] at hplace
  split at hplace
  · cases hplace
  · rename_i hcond
    rw [Bool.or_eq_true, not_or, Bool.not_eq_true] at hcond
    rcases List.eq_nil_or_concat (Path.ofText path).parts with hparts | ⟨parts, part, hparts⟩
    · have hends := endsInSlash_of_parts_eq_nil hcond.1 hparts
      rcases hslash with hslash | hfolder
      · rw [hends] at hslash
        cases hslash
      · exact absurd hfolder hloc
    · rw [hparts, List.concat_eq_append, walk?_append, Option.bind_eq_some_iff] at hplace
      obtain ⟨above, -, hlast⟩ := hplace
      obtain ⟨habove, -, hstep⟩ := walk?_cons_eq_some.1 hlast
      obtain rfl : step above part = loc := Option.some.inj hstep
      -- `.` and `..` lead from a folder to a folder.
      rw [step] at hloc ⊢
      split_ifs at hloc ⊢
      · exact absurd habove hloc
      · exact absurd (get?_dropLast habove) hloc
      · exact ⟨above, part, rfl, habove⟩

section Join

open Temperament.Path

variable {base name : String} (hname : IsFileName name)

include hname

theorem step_of_isFileName (loc : Location) : step loc name = loc ++ [name] := by
  rw [step, if_neg hname.ne_dot, if_neg hname.ne_dotDot]

theorem start_join (fs : Files) : fs.start (ofText (join base name)) = fs.start (ofText base) := by
  rw [start, start, isAbsolute_join hname]

theorem target_join (fs : Files) :
    fs.target (join base name) = fs.target base ++ [name] := by
  rw [target, target, start_join hname, parts_join hname, follow, List.foldl_append, List.foldl_cons,
    List.foldl_nil, step_of_isFileName hname]
  rfl

/-- A path with a name at its end leads somewhere if it leads to a folder without the name. -/
theorem locate?_join {loc : Location} :
    fs.locate? (join base name) = some loc ↔
      (ofText (join base name)).isUsable = true ∧
        ∃ above, fs.walk? (fs.start (ofText base)) (ofText base).parts = some above ∧
          fs.get? above = some .folder ∧ loc = above ++ [name] := by
  have hwalk (above : Location) : fs.walk? above [name] = some loc ↔
      fs.get? above = some .folder ∧ loc = above ++ [name] := by
    rw [walk?_cons_eq_some, step_of_isFileName hname]
    simp [hname.isName, walk?, eq_comm]
  rw [locate?, Option.filter_eq_some_iff, endsInSlash_join hname, place?, isEmpty_join hname]
  by_cases husable : (ofText (join base name)).isUsable = true
  · rw [husable, start_join hname, parts_join hname, walk?_append]
    simp [Option.bind_eq_some_iff, hwalk]
  · simp [husable]

theorem eq_target_of_locate? {loc : Location} (h : fs.locate? (join base name) = some loc) :
    loc = fs.target (join base name) := by
  obtain ⟨-, above, hwalk, -, rfl⟩ := (locate?_join hname).1 h
  rw [target_join hname, walk?_eq_follow hwalk]
  rfl

end Join

/-! ## Walks that never turn back -/

theorem isPrefix_follow {loc : Location} {parts : List String} (h : ".." ∉ parts) :
    loc <+: follow loc parts := by
  induction parts generalizing loc with
  | nil => exact List.prefix_refl loc
  | cons part parts ih =>
    obtain ⟨hpart, hparts⟩ := not_or.1 (mt List.mem_cons.2 h)
    refine List.IsPrefix.trans ?_ (ih hparts)
    rw [step]
    split
    · exact List.prefix_refl loc
    · rw [if_neg (Ne.symm hpart)]
      exact List.prefix_append loc [part]

theorem isPrefix_of_mem_waypoints {loc loc' : Location} {parts : List String} (h : ".." ∉ parts)
    (hmem : loc' ∈ waypoints loc parts) : loc' <+: follow loc parts := by
  induction parts generalizing loc with
  | nil =>
    rw [List.mem_singleton.1 hmem]
    exact List.prefix_refl loc
  | cons part parts ih =>
    rcases List.mem_cons.1 hmem with rfl | hmem
    · exact isPrefix_follow h
    · exact ih (fun hparts => h (List.mem_cons_of_mem _ hparts)) hmem

/-- A way that never turns back leads to a folder that is there. -/
theorem walk?_follow {loc : Location} {parts : List String} (h : ".." ∉ parts)
    (hnames : ∀ part ∈ parts, Path.isName part = true)
    (hfolder : fs.get? (follow loc parts) = some .folder) :
    fs.walk? loc parts = some (follow loc parts) := by
  induction parts generalizing loc with
  | nil => rfl
  | cons part parts ih =>
    exact walk?_cons_eq_some.2 ⟨get?_of_isPrefix (isPrefix_follow h) hfolder,
      hnames part List.mem_cons_self,
      ih (fun hparts => h (List.mem_cons_of_mem _ hparts))
        (fun part' hmem => hnames part' (List.mem_cons_of_mem _ hmem)) hfolder⟩

/-! ## Paths that can be followed -/

/-- Whether a path has the form of one that leads somewhere in some tree. -/
def isFollowable (p : Path) : Bool :=
  p.isUsable && p.parts.all Path.isName

theorem isName_of_walk? {loc loc' : Location} {parts : List String}
    (h : fs.walk? loc parts = some loc') : parts.all Path.isName = true := by
  induction parts generalizing loc with
  | nil => rfl
  | cons part parts ih =>
    obtain ⟨-, hname, h⟩ := walk?_cons_eq_some.1 h
    rw [List.all_cons, hname, ih h]
    rfl

theorem isFollowable_of_locate? {path : String} {loc : Location}
    (h : fs.locate? path = some loc) : isFollowable (Path.ofText path) = true := by
  obtain ⟨hplace, -⟩ := Option.filter_eq_some_iff.1 h
  rw [place?] at hplace
  split at hplace
  · cases hplace
  · rename_i hcond
    rw [Bool.or_eq_true, not_or] at hcond
    rw [isFollowable, isName_of_walk? hplace]
    simpa using hcond.2

open Temperament.Path in
theorem locate?_target {base name : String} (hname : IsFileName name)
    (hparts : ".." ∉ (ofText base).parts) (h : isFollowable (ofText (join base name)) = true)
    (hthere : fs.get? (fs.target (join base name)) ≠ none) :
    fs.locate? (join base name) = some (fs.target (join base name)) := by
  obtain ⟨husable, hnames⟩ := (Bool.and_eq_true _ _).mp h
  rw [parts_join hname, List.all_append, Bool.and_eq_true, List.all_eq_true] at hnames
  rw [target_join hname] at hthere ⊢
  have hfolder := get?_of_get?_append hthere
  exact (locate?_join hname).2
    ⟨husable, fs.target base, walk?_follow hparts hnames.1 hfolder, hfolder, rfl⟩

end Files

end Temperament
