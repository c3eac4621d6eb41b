import Temperament.Proofs.Files.Changes

/-!
# Making folders

Making the folders of a path leaves all files as they are (`growsTo_makeFolders`) and makes only what
the path passes by (`get?_makeFolders`).  If it succeeds the path leads to a folder
(`place?_makeFolders`), and then there is nothing left to make (`makeFolders_of_place?`).
-/

namespace Temperament.Files

variable {fs : Files}

/-! ## One folder -/

/-- The tree with a folder at a location where there was nothing. -/
def withFolder (fs : Files) (loc : Location) : Files :=
  if (fs.get? loc).isNone then fs.put loc .folder else fs

theorem withFolder_of_ne_none {loc : Location} (h : fs.get? loc ≠ none) : fs.withFolder loc = fs := by
  rw [withFolder, if_neg (by simpa using h)]

theorem get?_withFolder_step {loc : Location} (part : String) (hloc : fs.get? loc = some .folder)
    (loc' : Location) : (fs.withFolder (step loc part)).get? loc' =
      if loc' = step loc part then some ((fs.get? loc').getD .folder) else fs.get? loc' := by
  by_cases hthere : fs.get? (step loc part) = none
  · -- Only a name leads out of the folders that are there.
    have hstep : step loc part = loc ++ [part] := by
      rw [step] at hthere ⊢
      split at hthere
      · rw [hloc] at hthere
        cases hthere
      · split at hthere
        · rw [get?_dropLast hloc] at hthere
          cases hthere
        · rename_i hdot hdots
          rw [if_neg hdot, if_neg hdots]
    rw [withFolder, hthere, hstep]
    rw [hstep] at hthere
    have hfree : fs.get? (loc ++ [part]) ≠ some .folder := by simp [hthere]
    rw [Option.isNone_none, if_pos rfl, get?_put hloc hfree]
    split
    · rename_i hloc'
      rw [hloc', hthere]
      rfl
    · rfl
  · rw [withFolder_of_ne_none hthere]
    split
    · rename_i hloc'
      obtain ⟨node, hnode⟩ := Option.ne_none_iff_exists'.1 hthere
      rw [hloc', hnode]
      rfl
    · rfl

theorem growsTo_withFolder_step {loc : Location} (part : String)
    (hloc : fs.get? loc = some .folder) : fs.GrowsTo (fs.withFolder (step loc part)) where
  workingFolder_eq := by
    rw [withFolder]
    split <;> rfl
  get?_eq loc' := by
    rw [get?_withFolder_step part hloc]
    split
    · rcases fs.get? loc' with _ | node
      · exact .inr ⟨rfl, rfl⟩
      · exact .inl rfl
    · exact .inl rfl

/-! ## Folders along a way -/

theorem makeAlong_cons (fs : Files) (loc : Location) (part : String) (parts : List String) :
    fs.makeAlong loc (part :: parts) =
      if fs.isFolderAt loc && Path.isName part then
        (fs.withFolder (step loc part)).makeAlong (step loc part) parts
      else (false, fs) := by
  rw [makeAlong, step]
  by_cases hfolder : fs.isFolderAt loc = true
  · have hloc := isFolderAt_iff.1 hfolder
    by_cases hdot : part = "."
    · have hthere : fs.get? loc ≠ none := by simp [hloc]
      simp [hfolder, hdot, isName_dot, withFolder_of_ne_none hthere]
    · by_cases hdots : part = ".."
      · have hthere : fs.get? loc.dropLast ≠ none := by simp [get?_dropLast hloc]
        simp [hfolder, hdots, isName_dotDot, withFolder_of_ne_none hthere]
      · by_cases hname : Path.isName part = true <;> simp [hfolder, hdot, hdots, hname, withFolder]
  · simp [hfolder]

theorem growsTo_makeAlong (fs : Files) (loc : Location) (parts : List String) :
    fs.GrowsTo (fs.makeAlong loc parts).2 := by
  induction parts generalizing fs loc with
  | nil => exact .refl fs
  | cons part parts ih =>
    rw [makeAlong_cons]
    split
    · rename_i hcond
      have hloc := isFolderAt_iff.1 (Bool.and_eq_true _ _ ▸ hcond).1
      exact (growsTo_withFolder_step part hloc).trans (ih _ _)
    · exact .refl fs

theorem get?_makeAlong (fs : Files) {loc loc' : Location} {parts : List String}
    (h : loc' ∉ waypoints loc parts) : (fs.makeAlong loc parts).2.get? loc' = fs.get? loc' := by
  induction parts generalizing fs loc with
  | nil => rfl
  | cons part parts ih =>
    rw [makeAlong_cons]
    split
    · rename_i hcond
      have hloc := isFolderAt_iff.1 (Bool.and_eq_true _ _ ▸ hcond).1
      have htail : loc' ∉ waypoints (step loc part) parts := fun hmem =>
        h (List.mem_cons_of_mem _ hmem)
      have hne : loc' ≠ step loc part := by
        rintro rfl
        cases parts <;> exact htail List.mem_cons_self
      rw [ih _ htail, get?_withFolder_step part hloc, if_neg hne]
    · rfl

/-- Parts along which all folders could be made lead to a folder. -/
theorem walk?_makeAlong {loc : Location} {parts : List String}
    (h : (fs.makeAlong loc parts).1 = true) : ∃ loc',
      (fs.makeAlong loc parts).2.walk? loc parts = some loc' ∧
        (fs.makeAlong loc parts).2.get? loc' = some .folder := by
  induction parts generalizing fs loc with
  | nil => exact ⟨loc, rfl, isFolderAt_iff.1 h⟩
  | cons part parts ih =>
    have hcond : (fs.isFolderAt loc && Path.isName part) = true := by
      rw [makeAlong_cons] at h
      split at h
      · assumption
      · cases h
    obtain ⟨hfolder, hpart⟩ := (Bool.and_eq_true _ _).mp hcond
    rw [makeAlong_cons, if_pos hcond] at h ⊢
    obtain ⟨loc', hwalk, hloc'⟩ := ih h
    have hgrows := (growsTo_withFolder_step part (isFolderAt_iff.1 hfolder)).trans
      (growsTo_makeAlong _ (step loc part) parts)
    exact ⟨loc', walk?_cons_eq_some.2
      ⟨hgrows.keepsFolders.folder loc (isFolderAt_iff.1 hfolder), hpart, hwalk⟩, hloc'⟩

/-- Along parts that lead to a folder there is nothing to make. -/
theorem makeAlong_of_walk? {loc loc' : Location} {parts : List String}
    (hwalk : fs.walk? loc parts = some loc') (hloc' : fs.get? loc' = some .folder) :
    fs.makeAlong loc parts = (true, fs) := by
  induction parts generalizing loc with
  | nil =>
    obtain rfl := Option.some.inj hwalk
    rw [makeAlong, isFolderAt_iff.2 hloc']
  | cons part parts ih =>
    obtain ⟨hfolder, hname, hwalk⟩ := walk?_cons_eq_some.1 hwalk
    have hnext : fs.get? (step loc part) ≠ none := by
      cases parts with
      | nil =>
        rw [← Option.some.inj hwalk] at hloc'
        rw [hloc']
        nofun
      | cons =>
        rw [(walk?_cons_eq_some.1 hwalk).1]
        nofun
    rw [makeAlong_cons, isFolderAt_iff.2 hfolder, hname, withFolder_of_ne_none hnext]
    exact ih hwalk

/-- If parts lead to a folder after folders were made along them, none of these failed. -/
theorem fst_makeAlong {loc loc' : Location} {parts : List String}
    (hwalk : (fs.makeAlong loc parts).2.walk? loc parts = some loc')
    (hloc' : (fs.makeAlong loc parts).2.get? loc' = some .folder) :
    (fs.makeAlong loc parts).1 = true := by
  induction parts generalizing fs loc with
  | nil =>
    obtain rfl := Option.some.inj hwalk
    exact isFolderAt_iff.2 hloc'
  | cons part parts ih =>
    have hstep := walk?_cons_eq_some.1 hwalk
    rw [makeAlong_cons] at hwalk hloc' hstep ⊢
    split at hwalk
    · rename_i hcond
      rw [if_pos hcond] at hloc' hstep ⊢
      exact ih hstep.2.2 hloc'
    · rename_i hcond
      rw [if_neg hcond] at hstep
      exact absurd ((Bool.and_eq_true _ _).mpr ⟨isFolderAt_iff.2 hstep.1, hstep.2.1⟩) hcond

/-! ## Parts and components -/

/-- Parts that are `.` matter only where they ask for a folder. -/
theorem walk?_filter_dot {loc loc' : Location} {parts : List String} :
    (fs.walk? loc (parts.filter (· != ".")) = some loc' ∧ fs.get? loc' = some .folder) ↔
      (fs.walk? loc parts = some loc' ∧ fs.get? loc' = some .folder) := by
  induction parts generalizing loc with
  | nil => rfl
  | cons part parts ih =>
    by_cases hdot : part = "."
    · have hstep : step loc "." = loc := rfl
      rw [hdot, List.filter_cons_of_neg (by decide), ih, walk?_cons_eq_some, hstep]
      refine ⟨fun h => ⟨⟨?_, isName_dot, h.1⟩, h.2⟩, fun h => ⟨h.1.2.2, h.2⟩⟩
      cases parts with
      | nil =>
        obtain rfl := Option.some.inj h.1
        exact h.2
      | cons => exact (walk?_cons_eq_some.1 h.1).1
    · rw [List.filter_cons_of_pos (by simpa using hdot), walk?_cons_eq_some, walk?_cons_eq_some,
        and_assoc, and_assoc, and_assoc, and_assoc, ih]

theorem filter_components (p : Path) :
    p.components.filter (· != ".") = p.parts.filter (· != ".") := by
  rw [Path.components]
  split
  · rename_i hparts
    rw [hparts]
    simp
  · rw [List.filter_filter]
    simp

theorem walk?_components (p : Path) {loc loc' : Location} (hloc' : fs.get? loc' = some .folder) :
    fs.walk? loc p.components = some loc' ↔ fs.walk? loc p.parts = some loc' := by
  have h : (fs.walk? loc p.components = some loc' ∧ fs.get? loc' = some .folder) ↔
      (fs.walk? loc p.parts = some loc' ∧ fs.get? loc' = some .folder) := by
    rw [← walk?_filter_dot, filter_components, walk?_filter_dot]
  simpa [hloc'] using h

theorem follow_filter_dot (loc : Location) (parts : List String) :
    follow loc (parts.filter (· != ".")) = follow loc parts := by
  induction parts generalizing loc with
  | nil => rfl
  | cons part parts ih =>
    by_cases hdot : part = "."
    · rw [hdot, List.filter_cons_of_neg (by decide), ih]
      rfl
    · rw [List.filter_cons_of_pos (by simpa using hdot)]
      exact ih _

theorem follow_components (loc : Location) (p : Path) :
    follow loc p.components = follow loc p.parts := by
  rw [← follow_filter_dot, filter_components, follow_filter_dot]

theorem notMem_components {p : Path} (h : ".." ∉ p.parts) : ".." ∉ p.components := by
  intro hmem
  have hfilter : ".." ∈ p.components.filter (· != ".") :=
    List.mem_filter.2 ⟨hmem, by decide⟩
  rw [filter_components] at hfilter
  exact h (List.mem_filter.1 hfilter).1

/-! ## Making the folders of a path -/

theorem growsTo_makeFolders (fs : Files) (p : Path) : fs.GrowsTo (fs.makeFolders p).2 := by
  unfold makeFolders
  split
  · exact .refl fs
  · split
    · exact .refl fs
    · split
      · exact growsTo_makeAlong _ _ _
      · exact growsTo_makeAlong _ _ _

theorem waypoints_dropLast_subset (loc : Location) (parts : List String) :
    waypoints loc parts.dropLast ⊆ waypoints loc parts := by
  induction parts generalizing loc with
  | nil => exact List.Subset.refl _
  | cons part parts ih =>
    cases parts with
    | nil => exact fun loc' hmem => List.mem_cons.2 (.inl (List.mem_singleton.1 hmem))
    | cons => exact List.cons_subset_cons loc (ih _)

theorem get?_makeFolders (fs : Files) {p : Path} {loc : Location}
    (h : loc ∉ waypoints (fs.start p) p.components) :
    (fs.makeFolders p).2.get? loc = fs.get? loc := by
  unfold makeFolders
  split
  · rfl
  · split
    · rfl
    · split
      · exact get?_makeAlong fs fun hmem => h (waypoints_dropLast_subset _ _ hmem)
      · exact get?_makeAlong fs h

/-- A path whose folders could be made leads to a folder. -/
theorem place?_makeFolders {p : Path} (hne : p.isEmpty = false) (h : (fs.makeFolders p).1 = true) :
    ∃ loc, (fs.makeFolders p).2.place? p = some loc ∧
      (fs.makeFolders p).2.get? loc = some .folder := by
  unfold makeFolders at h ⊢
  rw [if_neg (by simp [hne])] at h ⊢
  split at h
  · cases h
  · rename_i husable
    rw [if_neg husable]
    split at h
    · rename_i hdot
      rw [if_pos hdot]
      obtain ⟨loc, hplace⟩ := Option.isSome_iff_exists.1 h
      refine ⟨loc, hplace, ?_⟩
      -- The part at the end asks for a folder.
      have hlast := (Bool.and_eq_true _ _).mp hdot
      obtain ⟨parts, hparts⟩ := List.getLast?_eq_some_iff.1 (of_decide_eq_true hlast.1)
      rw [place?, hparts, walk?_append] at hplace
      split at hplace
      · cases hplace
      · obtain ⟨above, -, hwalk⟩ := Option.bind_eq_some_iff.1 hplace
        obtain ⟨hfolder, -, hwalk⟩ := walk?_cons_eq_some.1 hwalk
        rw [← Option.some.inj hwalk]
        exact hfolder
    · rename_i hdot
      rw [if_neg hdot]
      obtain ⟨loc, hwalk, hloc⟩ := walk?_makeAlong h
      refine ⟨loc, ?_, hloc⟩
      rw [place?, if_neg (by simpa [hne] using husable),
        (growsTo_makeAlong _ _ _).keepsFolders.start_eq]
      exact (walk?_components p hloc).1 hwalk

/-- There is nothing to make for a path that leads to a folder. -/
theorem makeFolders_of_place? {p : Path} {loc : Location} (hplace : fs.place? p = some loc)
    (hloc : fs.get? loc = some .folder) : fs.makeFolders p = (true, fs) := by
  unfold makeFolders
  split
  · rfl
  · rename_i hne
    split
    · rename_i husable
      rw [place?, if_pos (by simpa [hne] using husable)] at hplace
      cases hplace
    · rename_i husable
      rw [hplace, Option.isNone_some, Bool.and_false, if_neg Bool.false_ne_true]
      rw [place?, if_neg (by simpa [hne] using husable)] at hplace
      exact makeAlong_of_walk? ((walk?_components p hloc).2 hplace) hloc

/-- If a path leads to a folder after its folders were made, none of these failed. -/
theorem fst_makeFolders {p : Path} {loc : Location}
    (hplace : (fs.makeFolders p).2.place? p = some loc)
    (hloc : (fs.makeFolders p).2.get? loc = some .folder) : (fs.makeFolders p).1 = true := by
  unfold makeFolders at hplace hloc ⊢
  split
  · rfl
  · rename_i hne
    rw [if_neg hne] at hplace hloc
    split
    · rename_i husable
      rw [place?, if_pos (by simpa [hne] using husable)] at hplace
      cases hplace
    · rename_i husable
      rw [if_neg husable] at hplace hloc
      split
      · rename_i hdot
        rw [if_pos hdot] at hplace
        exact Option.isSome_of_eq_some hplace
      · rename_i hdot
        rw [if_neg hdot] at hplace hloc
        rw [place?, if_neg (by simpa [hne] using husable),
          (growsTo_makeAlong _ _ _).keepsFolders.start_eq] at hplace
        exact fst_makeAlong ((walk?_components p hloc).2 hplace) hloc

/-! ## The folder of a file -/

section Join

open Temperament.Path

variable {base name : String} (hname : IsFileName name)

include hname

/-- A path that leads to a place in a folder leads to this folder without its name. -/
theorem place?_of_locate?_join {loc : Location} (h : fs.locate? (join base name) = some loc)
    (hne : (ofText base).isEmpty = false) :
    ∃ above, fs.place? (ofText base) = some above ∧ fs.get? above = some .folder := by
  obtain ⟨husable, above, hwalk, habove, -⟩ := (locate?_join hname).1 h
  refine ⟨above, ?_, habove⟩
  rw [place?, hne, isUsable_of_isUsable_join hname husable]
  exact hwalk

/-- A way that never turns back passes by folders only, not by the file at its end. -/
theorem target_notMem_waypoints (fs : Files) (h : ".." ∉ (ofText base).parts) :
    fs.target (join base name) ∉
      waypoints (fs.start (ofText base)) (ofText base).components := by
  intro hmem
  have hprefix := isPrefix_of_mem_waypoints (notMem_components h) hmem
  rw [follow_components, target_join hname] at hprefix
  have hlength := hprefix.length_le
  rw [List.length_append, List.length_singleton] at hlength
  exact Nat.not_succ_le_self _ hlength

theorem makeFolders_of_locate? {loc : Location} (h : fs.locate? (join base name) = some loc) :
    fs.makeFolders (ofText base) = (true, fs) := by
  cases hne : (ofText base).isEmpty with
  | true => rw [makeFolders, if_pos hne]
  | false =>
    obtain ⟨above, hplace, habove⟩ := place?_of_locate?_join hname h hne
    exact makeFolders_of_place? hplace habove

theorem fst_makeFolders_of_locate? {loc : Location}
    (h : (fs.makeFolders (ofText base)).2.locate? (join base name) = some loc) :
    (fs.makeFolders (ofText base)).1 = true := by
  cases hne : (ofText base).isEmpty with
  | true => rw [makeFolders, if_pos hne]
  | false =>
    obtain ⟨above, hplace, habove⟩ := place?_of_locate?_join hname h hne
    exact fst_makeFolders hplace habove

end Join

end Temperament.Files
