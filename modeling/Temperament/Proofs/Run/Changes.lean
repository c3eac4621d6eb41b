import Temperament.Proofs.Run.Program

/-!
# What a run may change

A run that does not end well leaves all files as they are, and one that does changes at most the file
its command is about (`runProgram_changes`): the scratch file for an assessment, a report and
cleaning, or the settings file where its path leads to nothing.
-/

namespace Temperament

open Files Temperament.Path Scratch Work

/-- Whether a command writes to the session store. -/
def Command.writesStore : Command → Bool
  | .assess _ => true
  | .progress _ => true
  | _ => false

namespace Invocation

variable {i : Invocation} {around : Surroundings} {settings : Settings} {fs fs' : Files}

/-- A location whose file a command may have changed: a scratch file that was written, in place of
one that could be read; a scratch file that was deleted; a settings file that was written, where its
path led to nothing.  A path without `..` leads to the same place before and after. -/
inductive MayChange (i : Invocation) (around : Surroundings) (settings : Settings)
    (fs fs' : Files) (loc : Location) : Prop
  | stored (command : Command) (hcommand : i.command = some command)
      (hwrites : command.writesStore = true)
      (hread : ∃ m, (i.scratch around.home settings).load fs = .ok m fs)
      (hlocate : fs'.locate? (i.scratch around.home settings).path = some loc)
      (hplace : ".." ∉ (ofText (i.scratch around.home settings).path).parts →
        fs.get? loc = none ∨ fs.locate? (i.scratch around.home settings).path = some loc)
  | cleaned (hcommand : i.command = some .clean)
      (hlocate : fs.locate? (i.scratch around.home settings).path = some loc)
      (hgone : fs'.get? loc = none)
  | created (hcommand : i.command = some (.config true))
      (hnone : fs.contains (i.settingsPath around.home) = false)
      (hlocate : fs'.locate? (i.settingsPath around.home) = some loc)
      (hplace : ".." ∉ (ofText (i.settingsPath around.home)).parts → fs.get? loc = none)

/-- Everything is as before, apart from new folders, where a file may not have been changed. -/
def Changes (i : Invocation) (around : Surroundings) (settings : Settings) (fs fs' : Files) : Prop :=
  ∀ loc, fs'.get? loc = fs.get? loc ∨ (fs.get? loc = none ∧ fs'.get? loc = some .folder) ∨
    i.MayChange around settings fs fs' loc

/-! ## Single files -/

theorem notMem_parts_of_notMem_join {base name : String} (hname : IsFileName name)
    (h : ".." ∉ (ofText (join base name)).parts) : ".." ∉ (ofText base).parts := by
  rw [parts_join hname] at h
  exact fun hmem => h (List.mem_append_left _ hmem)

/-- A file was written after folders were made: all else only grows. -/
theorem grows_or_eq_of_setsFile {fs₁ : Files} {loc : Location} {bytes : Option ByteArray}
    (hgrows : fs.GrowsTo fs₁) (hset : fs₁.SetsFile loc bytes fs') (loc' : Location) :
    fs'.get? loc' = fs.get? loc' ∨ (fs.get? loc' = none ∧ fs'.get? loc' = some .folder) ∨
      loc' = loc := by
  by_cases hloc : loc' = loc
  · exact .inr (.inr hloc)
  · rw [hset.get?_of_ne hloc]
    exact (hgrows.get?_eq loc').imp_right .inl

theorem changes_of_save {command : Command} {m : Entries} {p : Profile} {sizes : List Nat}
    (hcommand : i.command = some command) (hwrites : command.writesStore = true)
    (hload : (i.scratch around.home settings).load fs = .ok m fs)
    (hsave : p.save (i.scratch around.home settings) fs = .ok sizes fs') :
    i.Changes around settings fs fs' := by
  intro loc
  rcases p.save_cases hload with ⟨-, h⟩ | ⟨sizes', fs₁, h, hwrite⟩ | ⟨fs₁, h, -⟩
  · cases h.symm.trans hsave
    exact .inl rfl
  · cases h.symm.trans hsave
    have hgrows := growsTo_makeFolders fs (ofText (i.scratch around.home settings).folder)
    rcases grows_or_eq_of_setsFile hgrows hwrite.setsFile loc with hsame | hnew | rfl
    · exact .inl hsame
    · exact .inr (.inl hnew)
    · refine .inr (.inr (.stored command hcommand hwrites ⟨m, hload⟩ hwrite.locate?_after ?_))
      intro hparts
      by_cases hloc : fs.get? (fs.target (i.scratch around.home settings).path) = none
      · exact .inl hloc
      · exact .inr (hgrows.locate?_of_get?_ne_none isFileName_session
          (notMem_parts_of_notMem_join isFileName_session hparts) hwrite.locate? hloc)
  · cases h.symm.trans hsave

theorem changes_of_clear {existed : Bool} (hcommand : i.command = some .clean)
    (hclear : (i.scratch around.home settings).clear fs = .ok existed fs') :
    i.Changes around settings fs fs' := by
  intro loc
  rcases clear_cases (i.scratch around.home settings) fs with ⟨-, h⟩ |
    ⟨fs₁, h, hlocate, -, hset⟩ | ⟨-, -, -, h⟩
  · cases h.symm.trans hclear
    exact .inl rfl
  · cases h.symm.trans hclear
    by_cases hloc : loc = fs.target (i.scratch around.home settings).path
    · subst hloc
      exact .inr (.inr (.cleaned hcommand hlocate hset.get?_self))
    · exact .inl (hset.get?_of_ne hloc)
  · cases h.symm.trans hclear

theorem changes_of_create {written : Bool} (hcommand : i.command = some (.config true))
    (hconfig : ∀ path, i.config = some path → fs.contains path = true)
    (hcreate : Settings.create (i.settingsPath around.home) fs = .ok written fs') :
    i.Changes around settings fs fs' := by
  intro loc
  cases hnone : fs.contains (i.settingsPath around.home) with
  | true =>
    cases (Settings.create_of_contains hnone).symm.trans hcreate
    exact .inl rfl
  | false =>
    have hpath := settingsPath_eq hconfig hnone
    have hnone' := hnone
    rw [hpath] at hnone' hcreate
    obtain ⟨fs₁, hmakes, ⟨fault, h⟩ | ⟨loc', bytes, fs₂, h, hlocate, hset⟩⟩ :=
      Settings.create_cases hnone'
    · cases h.symm.trans hcreate
    · cases h.symm.trans hcreate
      rcases grows_or_eq_of_setsFile hmakes.growsTo hset loc with hsame | hnew | rfl
      · exact .inl hsame
      · exact .inr (.inl hnew)
      · refine .inr (.inr (.created hcommand hnone ?_ fun hparts => ?_))
        · rw [hpath, hset.locate?_eq]
          exact hlocate
        · rw [hpath] at hparts
          refine Classical.byContradiction fun hloc => ?_
          have hbefore := hmakes.growsTo.locate?_of_get?_ne_none isFileName_config
            (notMem_parts_of_notMem_join isFileName_config hparts) hlocate hloc
          exact absurd (contains_iff.2 ⟨_, hbefore, hloc⟩) (Bool.eq_false_iff.1 hnone')

/-! ## Runs -/

theorem Performed.changes {shown : Styled}
    (hconfig : ∀ path, i.config = some path → fs.contains path = true)
    (h : i.Performed around settings fs fs' shown) : i.Changes around settings fs fs' := by
  unfold Performed at h
  split at h <;> rename_i hcommand
  · obtain ⟨answers, m, sizes, -, hload, hsave⟩ := h
    exact changes_of_save hcommand rfl hload hsave
  · exact fun loc => .inl (by rw [h.1])
  · obtain ⟨m, sizes, p, hload, -, hsave, -⟩ := h
    exact changes_of_save hcommand rfl hload hsave
  · obtain ⟨existed, hclear⟩ := h
    exact changes_of_clear hcommand hclear
  · obtain ⟨written, hcreate⟩ := h
    exact changes_of_create hcommand hconfig hcreate
  · exact fun loc => .inl (by rw [h])

theorem growsTo_of_unwritten {s : Scratch} (h : Unwritten s fs fs') : fs.GrowsTo fs' := by
  rcases h with rfl | hfails
  · exact .refl _
  · exact hfails.growsTo

theorem Failed.growsTo (hconfig : ∀ path, i.config = some path → fs.contains path = true)
    (h : i.Failed around settings fs fs') : fs.GrowsTo fs' := by
  unfold Failed at h
  split at h
  · exact growsTo_of_unwritten h
  · exact growsTo_of_unwritten h
  · obtain ⟨fault, hcreate⟩ := h
    cases hnone : fs.contains (i.settingsPath around.home) with
    | true => cases (Settings.create_of_contains hnone).symm.trans hcreate
    | false =>
      have hpath := settingsPath_eq hconfig hnone
      rw [hpath] at hnone hcreate
      obtain ⟨fs₁, hmakes, ⟨fault', h⟩ | ⟨loc, bytes, fs₂, h, -⟩⟩ :=
        Settings.create_cases hnone
      · cases h.symm.trans hcreate
        exact hmakes.growsTo
      · cases h.symm.trans hcreate
  · rw [h]
    exact .refl fs

end Invocation

/-- A run that does not end well leaves every file as it was.  A run that ends well does so too,
apart from one file that its command is about. -/
theorem runProgram_changes (args : List String) (around : Surroundings) (fs : Files) :
    ((runProgram args around fs).exit ≠ 0 → fs.GrowsTo (runProgram args around fs).files) ∧
    ((runProgram args around fs).exit = 0 → (runProgram args around fs).files = fs ∨
      ∃ i settings, Invocation.parse args = .ok i ∧
        Settings.loadFrom around.home i.config fs = .ok settings fs ∧
        i.Changes around settings fs (runProgram args around fs).files) := by
  rw [runProgram]
  cases hparse : Invocation.parse args with
  | error r =>
    have hfiles := Invocation.files_outcome r fs
    refine ⟨fun _ => ?_, fun _ => .inl hfiles⟩
    show fs.GrowsTo (r.outcome fs).files
    rw [hfiles]
    exact .refl fs
  | ok i =>
    simp only
    rcases i.run_cases around fs with ⟨settings, hload, hconfig, ⟨hexit, shown, -, hdone⟩ |
      ⟨hexit, hfailed⟩⟩ | ⟨hexit, hfiles⟩
    · exact ⟨fun h => absurd hexit h, fun _ => .inr ⟨i, settings, rfl, hload, hdone.changes hconfig⟩⟩
    · refine ⟨fun _ => hfailed.growsTo hconfig, fun h => ?_⟩
      rw [hexit] at h
      exact absurd h (by decide)
    · rw [hfiles]
      exact ⟨fun _ => .refl fs, fun _ => .inl rfl⟩

/-! ## Files that a path hides -/

/-- A file in place of a scratch file that cannot be read. -/
def unreadableFiles : Files where
  root := .folder [("session.json", .file "not JSON".toUTF8)]

/-- A scratch file that cannot be read may be overwritten all the same: a path with a folder before
`..` leads to nothing as long as the folder is missing, and to the file once it is made. -/
theorem not_forall_unreadable_kept :
    ¬ ∀ (args : List String) (around : Surroundings) (fs : Files) (i : Invocation)
        (plain text : String), (Invocation.parse args).toOption = some i →
      i.command ≠ some .clean →
      (runProgram args around fs).files.locate? (i.scratch around.home {}).path =
        fs.locate? plain →
      fs.readText? plain = some text → Entries.ofText? text = none →
      (runProgram args around fs).files.readText? plain = some text := by
  intro h
  have hkept := h
    ["progress", "--completed-learning", "1", "--completed-sports", "1", "--state-dir", "a/.."]
    .quiet unreadableFiles
    { stateDir := some "a/..",
      command := some (.progress { completedLearning := 1, completedSports := 1 }) }
    "session.json" "not JSON" (by decide +kernel) (by decide +kernel) (by decide +kernel)
    (by decide +kernel) (by decide +kernel)
  revert hkept
  decide +kernel

end Temperament
