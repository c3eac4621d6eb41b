import Temperament.Proofs.Files.Walk

/-!
# Changes to a tree

A tree changes in two ways.  It grows by folders, which leaves all files as they are (`GrowsTo`), or
one file is written or removed, which keeps all folders (`SetsFile`).
-/

namespace Temperament.Files

variable {fs fs' fs'' : Files}

/-! ## Growth -/

/-- Folders may have been made where nothing was, and all else is as before. -/
structure GrowsTo (fs fs' : Files) : Prop where
  workingFolder_eq : fs'.workingFolder = fs.workingFolder
  get?_eq : ∀ loc, fs'.get? loc = fs.get? loc ∨ (fs.get? loc = none ∧ fs'.get? loc = some .folder)

namespace GrowsTo

theorem refl (fs : Files) : fs.GrowsTo fs :=
  ⟨rfl, fun _ => .inl rfl⟩

theorem get?_of_ne_none (h : fs.GrowsTo fs') {loc : Location} (hloc : fs.get? loc ≠ none) :
    fs'.get? loc = fs.get? loc :=
  (h.get?_eq loc).resolve_right fun hnew => hloc hnew.1

theorem trans (h : fs.GrowsTo fs') (h' : fs'.GrowsTo fs'') : fs.GrowsTo fs'' where
  workingFolder_eq := h'.workingFolder_eq.trans h.workingFolder_eq
  get?_eq loc := by
    rcases h.get?_eq loc with hsame | ⟨hnone, hfolder⟩
    · rw [← hsame]
      exact h'.get?_eq loc
    · refine .inr ⟨hnone, ?_⟩
      rw [h'.get?_of_ne_none (by rw [hfolder]; nofun), hfolder]

theorem keepsFolders (h : fs.GrowsTo fs') : fs.KeepsFolders fs' where
  workingFolder_eq := h.workingFolder_eq
  folder loc hfolder := by rw [h.get?_of_ne_none (by rw [hfolder]; nofun), hfolder]

/-- A way that never turns back and ends where something was before leads there without the folders
that are new. -/
theorem walk?_of_get?_ne_none (h : fs.GrowsTo fs') {loc loc' : Location} {parts : List String}
    (hparts : ".." ∉ parts) (hwalk : fs'.walk? loc parts = some loc')
    (hloc' : fs.get? loc' ≠ none) : fs.walk? loc parts = some loc' := by
  induction parts generalizing loc with
  | nil => exact hwalk
  | cons part parts ih =>
    have hprefix : loc <+: loc' := walk?_eq_follow hwalk ▸ isPrefix_follow hparts
    obtain ⟨hfolder, hname, hwalk⟩ := walk?_cons_eq_some.1 hwalk
    rw [h.get?_of_ne_none (get?_ne_none_of_isPrefix hprefix hloc')] at hfolder
    exact walk?_cons_eq_some.2
      ⟨hfolder, hname, ih (fun hmem => hparts (List.mem_cons_of_mem _ hmem)) hwalk⟩

end GrowsTo

/-! ## Single files -/

/-- At one location, which is not a folder's, there is now another file or none; all else is as
before. -/
structure SetsFile (fs : Files) (loc : Location) (file : Option ByteArray) (fs' : Files) : Prop where
  workingFolder_eq : fs'.workingFolder = fs.workingFolder
  ne_folder : fs.get? loc ≠ some .folder
  get?_eq : ∀ loc', fs'.get? loc' = if loc' = loc then file.map Node.file else fs.get? loc'

namespace SetsFile

variable {loc : Location} {file : Option ByteArray}

theorem get?_self (h : fs.SetsFile loc file fs') : fs'.get? loc = file.map Node.file := by
  rw [h.get?_eq, if_pos rfl]

theorem get?_of_ne (h : fs.SetsFile loc file fs') {loc' : Location} (hne : loc' ≠ loc) :
    fs'.get? loc' = fs.get? loc' := by
  rw [h.get?_eq, if_neg hne]

theorem get?_folder_iff (h : fs.SetsFile loc file fs') {loc' : Location} :
    fs'.get? loc' = some .folder ↔ fs.get? loc' = some .folder := by
  by_cases hloc : loc' = loc
  · rw [hloc, h.get?_self]
    refine ⟨fun hfolder => ?_, fun hfolder => absurd hfolder h.ne_folder⟩
    cases file <;> cases hfolder
  · rw [h.get?_of_ne hloc]

theorem keepsFolders (h : fs.SetsFile loc file fs') : fs.KeepsFolders fs' :=
  ⟨h.workingFolder_eq, fun _ => h.get?_folder_iff.2⟩

theorem keepsFolders_back (h : fs.SetsFile loc file fs') : fs'.KeepsFolders fs :=
  ⟨h.workingFolder_eq.symm, fun _ => h.get?_folder_iff.1⟩

theorem trans {file' : Option ByteArray} (h : fs.SetsFile loc file fs')
    (h' : fs'.SetsFile loc file' fs'') : fs.SetsFile loc file' fs'' where
  workingFolder_eq := h'.workingFolder_eq.trans h.workingFolder_eq
  ne_folder := h.ne_folder
  get?_eq loc' := by
    rw [h'.get?_eq]
    split
    · rfl
    · rename_i hne
      exact h.get?_of_ne hne

theorem locate?_eq (h : fs.SetsFile loc file fs') (path : String) :
    fs'.locate? path = fs.locate? path :=
  h.keepsFolders.locate?_eq h.keepsFolders_back path

end SetsFile

theorem setsFile_put {above : Location} {name : String} (habove : fs.get? above = some .folder)
    (hold : fs.get? (above ++ [name]) ≠ some .folder) (bytes : ByteArray) :
    fs.SetsFile (above ++ [name]) (some bytes) (fs.put (above ++ [name]) (.file bytes)) :=
  ⟨rfl, hold, get?_put habove hold (.file bytes)⟩

theorem setsFile_drop {above : Location} {name : String} (habove : fs.get? above = some .folder)
    (hold : fs.get? (above ++ [name]) ≠ some .folder) :
    fs.SetsFile (above ++ [name]) none (fs.drop (above ++ [name])) :=
  ⟨rfl, hold, get?_drop habove hold⟩

/-! ## Writing and removing -/

theorem setsFile_of_write? {path : String} {bytes : ByteArray}
    (h : fs.write? path bytes = some fs') :
    ∃ loc, fs.locate? path = some loc ∧ fs.SetsFile loc (some bytes) fs' := by
  obtain ⟨loc, hlocate, h⟩ := Option.bind_eq_some_iff.1 h
  by_cases hfolder : fs.isFolderAt loc = true
  · rw [if_pos hfolder] at h
    cases h
  · rw [if_neg hfolder] at h
    obtain rfl := Option.some.inj h
    have hloc : fs.get? loc ≠ some .folder := mt isFolderAt_iff.2 hfolder
    obtain ⟨above, name, rfl, habove⟩ := exists_above_of_locate? hlocate hloc
    exact ⟨_, hlocate, setsFile_put habove hloc bytes⟩

theorem write?_isSome {path : String} {loc : Location} (hlocate : fs.locate? path = some loc)
    (hloc : fs.get? loc ≠ some .folder) (bytes : ByteArray) :
    ∃ fs', fs.write? path bytes = some fs' := by
  refine ⟨fs.put loc (.file bytes), ?_⟩
  have hfolder : ¬fs.isFolderAt loc = true := mt isFolderAt_iff.1 hloc
  rw [write?, hlocate]
  exact if_neg hfolder

theorem setsFile_of_remove? {path : String} (h : fs.remove? path = some fs') :
    ∃ loc, fs.locate? path = some loc ∧ fs.SetsFile loc none fs' := by
  obtain ⟨loc, hlocate, h⟩ := Option.bind_eq_some_iff.1 h
  split at h
  · rename_i hfile
    obtain rfl := Option.some.inj h
    have hloc : fs.get? loc ≠ some .folder := by rw [hfile]; nofun
    obtain ⟨above, name, rfl, habove⟩ := exists_above_of_locate? hlocate hloc
    exact ⟨_, hlocate, setsFile_drop habove hloc⟩
  · cases h

open Temperament.Path in
/-- A path that never turns back and leads to what was there before leads there without the folders
that are new. -/
theorem GrowsTo.locate?_of_get?_ne_none {base name : String} (hname : IsFileName name)
    (hgrows : fs.GrowsTo fs')
    (hparts : ".." ∉ (ofText base).parts) {loc : Location}
    (h : fs'.locate? (join base name) = some loc) (hloc : fs.get? loc ≠ none) :
    fs.locate? (join base name) = some loc := by
  obtain ⟨husable, above, hwalk, -, rfl⟩ := (locate?_join hname).1 h
  have habove := get?_of_get?_append hloc
  rw [hgrows.keepsFolders.start_eq] at hwalk
  exact (locate?_join hname).2 ⟨husable, above,
    hgrows.walk?_of_get?_ne_none hparts hwalk (by rw [habove]; nofun), habove, rfl⟩

end Temperament.Files
