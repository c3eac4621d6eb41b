import Temperament.Proofs.Profile
import Temperament.Proofs.Settings.File

/-!
# Stores that keep a profile

A store keeps its profile through every change that leaves its file alone (`of_get?_eq`), takes the
one that is saved (`of_save`), and has none once it is cleared (`of_clear`).  This asks that the file
is not in the way of the folders that may be made, and that its path does not hide a file.
-/

namespace Temperament

open Files Temperament.Path Scratch

/-- A store from which a profile is loaded.  The way to its folder does not pass by its file, and if
its path leads to nothing then nothing is where the path would lead. -/
structure Scratch.Keeps (s : Scratch) (fs : Files) (p : Profile) : Prop where
  load_eq : Profile.load s fs = .ok p fs
  notMem : fs.target s.path ∉ waypoints (fs.start (ofText s.folder)) (ofText s.folder).components
  hides : isFollowable (ofText s.path) = true → fs.contains s.path = false →
    fs.get? (fs.target s.path) = none

namespace Scratch.Keeps

variable {s : Scratch} {fs fs' : Files} {p : Profile} {m : Entries}

/-- A store whose path never turns back has nothing to hide. -/
theorem of_notMem (hload : Profile.load s fs = .ok p fs) (h : ".." ∉ (ofText s.folder).parts) :
    s.Keeps fs p where
  load_eq := hload
  notMem := target_notMem_waypoints isFileName_session fs h
  hides hfollow hcontains := by
    refine Classical.byContradiction fun hthere => ?_
    have hlocate : fs.locate? s.path = some (fs.target s.path) :=
      locate?_target isFileName_session h hfollow hthere
    rw [contains_iff.2 ⟨_, hlocate, hthere⟩] at hcontains
    cases hcontains

theorem holds_of_get?_eq (h : s.Keeps fs p) (hkeeps : fs.KeepsFolders fs')
    (hsame : fs'.get? (fs.target s.path) = fs.get? (fs.target s.path)) {state : Option Entries}
    (hholds : s.Holds fs state) : s.Holds fs' state := by
  cases state with
  | none =>
    refine Bool.eq_false_iff.2 fun hcontains => ?_
    obtain ⟨loc, hlocate, hloc⟩ := contains_iff.1 hcontains
    have htarget : loc = fs.target s.path := by rw [eq_target hlocate, hkeeps.target_eq]
    rw [htarget, hsame] at hloc
    exact hloc (h.hides (isFollowable_of_locate? hlocate) hholds)
  | some m =>
    obtain ⟨text, hread, htext⟩ := hholds
    obtain ⟨loc, bytes, hlocate, hloc, hbytes⟩ := readText?_eq_some_iff.1 hread
    refine ⟨text, readText?_eq_some_iff.2 ⟨loc, bytes, hkeeps.locate? hlocate, ?_, hbytes⟩, htext⟩
    rw [eq_target hlocate] at hloc ⊢
    rw [hsame, hloc]

/-- A store keeps its profile as long as its file stays as it is, whatever becomes of other files. -/
theorem of_get?_eq (h : s.Keeps fs p) (hkeeps : fs.KeepsFolders fs')
    (hsame : fs'.get? (fs.target s.path) = fs.get? (fs.target s.path)) : s.Keeps fs' p where
  load_eq := by
    obtain ⟨m, hload, rfl⟩ := Profile.load_eq_ok_iff.1 h.load_eq
    obtain ⟨-, state, hholds, rfl⟩ := load_eq_ok_iff.1 hload
    exact Profile.load_eq_ok_iff.2 ⟨_, (h.holds_of_get?_eq hkeeps hsame hholds).load, rfl⟩
  notMem := by
    rw [hkeeps.target_eq, hkeeps.start_eq]
    exact h.notMem
  hides hfollow hcontains := by
    rw [hkeeps.target_eq, hsame]
    refine h.hides hfollow (Bool.eq_false_iff.2 fun hbefore => ?_)
    obtain ⟨loc, hlocate, hloc⟩ := contains_iff.1 hbefore
    obtain rfl := eq_target hlocate
    rw [contains_iff.2 ⟨_, hkeeps.locate? hlocate, hsame ▸ hloc⟩] at hcontains
    cases hcontains

theorem of_failsToWrite (h : s.Keeps fs p) (hfails : s.FailsToWrite fs fs') : s.Keeps fs' p := by
  refine h.of_get?_eq hfails.growsTo.keepsFolders ?_
  rw [hfails.eq_makeFolders, get?_makeFolders fs h.notMem]

theorem of_writes (h : s.Keeps fs p) (hwrites : s.Writes m fs fs') :
    s.Keeps fs' (Profile.ofEntries m) where
  load_eq := Profile.load_eq_ok_iff.2 ⟨_, hwrites.holds.load, rfl⟩
  notMem := by
    have hgrows := growsTo_makeFolders fs (ofText s.folder)
    rw [hwrites.target_eq, hwrites.setsFile.keepsFolders.start_eq, hgrows.keepsFolders.start_eq]
    exact h.notMem
  hides _ hcontains := by
    have hthere : fs'.contains s.path = true := by
      refine contains_iff.2 ⟨_, hwrites.locate?_after, ?_⟩
      rw [hwrites.setsFile.get?_self]
      nofun
    rw [hthere] at hcontains
    cases hcontains

theorem of_save {sizes : List Nat} {p' : Profile} (h : s.Keeps fs p)
    (hload : s.load fs = .ok m fs) (hsave : p'.save s fs = .ok sizes fs') : s.Keeps fs' p' := by
  rcases p'.save_cases hload with ⟨hentries, hdone⟩ | ⟨sizes', fs₁, hdone, hwrites⟩ |
    ⟨fs₁, hdone, -⟩
  · cases hdone.symm.trans hsave
    refine ⟨Profile.load_eq_ok_iff.2 ⟨m, hload, ?_⟩, h.notMem, h.hides⟩
    rw [← hentries, Profile.ofEntries_entries]
  · cases hdone.symm.trans hsave
    have hkeeps := h.of_writes hwrites
    rwa [Profile.ofEntries_entries] at hkeeps
  · cases hdone.symm.trans hsave

theorem of_clear {existed : Bool} (h : s.Keeps fs p) (hclear : s.clear fs = .ok existed fs') :
    s.Keeps fs' {} := by
  have hempty {files : Files} (hnone : files.contains s.path = false) :
      Profile.load s files = .ok {} files := by
    have hholds : s.Holds files none := hnone
    exact Profile.load_eq_ok_iff.2 ⟨∅, hholds.load, rfl⟩
  rcases clear_cases s fs with ⟨hnone, hdone⟩ | ⟨fs₁, hdone, hlocate, -, hset⟩ | ⟨-, -, -, hdone⟩
  · cases hdone.symm.trans hclear
    exact ⟨hempty hnone, h.notMem, h.hides⟩
  · cases hdone.symm.trans hclear
    have hlocate' : fs'.locate? s.path = some (fs.target s.path) := by
      rw [hset.locate?_eq, hlocate]
    have htarget : fs'.target s.path = fs.target s.path := hset.keepsFolders.target_eq s.path
    refine ⟨hempty (contains_eq_false hlocate' hset.get?_self), ?_, fun _ _ => ?_⟩
    · rw [htarget, hset.keepsFolders.start_eq]
      exact h.notMem
    · rw [htarget, hset.get?_self]
      rfl
  · cases hdone.symm.trans hclear

theorem target_ne_of_locate? {base : String} {loc : Location}
    (hlocate : fs'.locate? (join base "config.toml") = some loc) : fs.target s.path ≠ loc := by
  intro heq
  have hconfig : loc = fs'.target base ++ ["config.toml"] := by
    rw [eq_target_of_locate? isFileName_config hlocate, target_join isFileName_config]
  have hsession : fs.target s.path = fs.target s.folder ++ ["session.json"] :=
    target_join isFileName_session fs
  rw [hconfig, hsession] at heq
  have hlast := congrArg List.getLast? heq
  rw [List.getLast?_concat, List.getLast?_concat] at hlast
  exact absurd hlast (by decide)

theorem get?_of_makes {home : String} (hnotMem : fs.target s.path ∉ Settings.folders home fs)
    (h : Settings.Makes (Settings.defaultPath home) fs fs') :
    fs'.get? (fs.target s.path) = fs.get? (fs.target s.path) := by
  rcases h with rfl | ⟨parent, hparent, rfl⟩
  · rfl
  · rw [Settings.folders, hparent] at hnotMem
    exact get?_makeFolders fs hnotMem

/-- Settings are created without a change to the file of the store. -/
theorem of_create {home : String} (h : s.Keeps fs p)
    (hnotMem : fs.target s.path ∉ Settings.folders home fs)
    (hnone : fs.contains (Settings.defaultPath home) = false)
    (hcreate : (∃ written, Settings.create (Settings.defaultPath home) fs = .ok written fs') ∨
      ∃ fault, Settings.create (Settings.defaultPath home) fs = .error fault fs') :
    s.Keeps fs' p := by
  obtain ⟨fs₁, hmakes, hcases⟩ := Settings.create_cases hnone
  have hsame := get?_of_makes hnotMem hmakes
  have hkeeps := hmakes.growsTo.keepsFolders
  rcases hcases with ⟨fault, hdone⟩ | ⟨loc, bytes, fs₂, hdone, hlocate, hset⟩
  · have hfiles : fs' = fs₁ := by
      rcases hcreate with ⟨written, h'⟩ | ⟨fault', h'⟩
      · cases hdone.symm.trans h'
      · cases hdone.symm.trans h'
        rfl
    rw [hfiles]
    exact h.of_get?_eq hkeeps hsame
  · have hfiles : fs' = fs₂ := by
      rcases hcreate with ⟨written, h'⟩ | ⟨fault', h'⟩
      · cases hdone.symm.trans h'
        rfl
      · cases hdone.symm.trans h'
    rw [hfiles]
    refine h.of_get?_eq (hkeeps.trans hset.keepsFolders) ?_
    rw [hset.get?_of_ne (target_ne_of_locate? hlocate), hsame]

end Scratch.Keeps

end Temperament
