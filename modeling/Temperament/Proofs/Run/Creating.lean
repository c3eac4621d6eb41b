import Temperament.Proofs.Run.Answering

/-!
# Creating settings

`config --init` writes the default settings where they are looked for if no path is given, and leaves
them alone once they are there.  With a path that is given it never creates them: settings are loaded
before a command is carried out, and a path that leads to nothing ends the run
(`runProgram_init`, `not_forall_init_creates`).
-/

namespace Temperament

open Files Temperament.Path Work

namespace Settings

variable {fs fs' : Files} {path : String}

/-! ## The file -/

/-- Nothing is at a path, and once its folder is there, which is or can be made, the path leads to a
place that is not a folder's. -/
structure IsCreatable (path : String) (fs : Files) : Prop where
  missing : fs.contains path = false
  place : ∃ fs₁ loc, makeFolderOf path fs = .ok ⟨⟩ fs₁ ∧ fs₁.locate? path = some loc ∧
    fs₁.isFolderAt loc = false

/-- The default settings were written to a path.  Elsewhere there are at most new folders. -/
structure Created (path : String) (fs fs' : Files) : Prop where
  load_eq : load path fs' = .ok {} fs'
  contains_eq : fs'.contains path = true
  get?_eq : ∃ loc, fs'.locate? path = some loc ∧ ∀ loc', loc' ≠ loc →
    fs'.get? loc' = fs.get? loc' ∨ (fs.get? loc' = none ∧ fs'.get? loc' = some .folder)

theorem IsCreatable.save (h : IsCreatable path fs) (settings : Settings) :
    ∃ fs', settings.save path fs = .ok ⟨⟩ fs' := by
  obtain ⟨fs₁, loc, hfolder, hlocate, hloc⟩ := h.place
  have hfree : fs₁.get? loc ≠ some .folder := fun hfolder => by
    rw [isFolderAt_iff.2 hfolder] at hloc
    cases hloc
  obtain ⟨fs', hwrite⟩ := write?_isSome hlocate hfree settings.text.toUTF8
  refine ⟨fs', ?_⟩
  rw [Settings.save, bind_apply, hfolder]
  simp only [bind_apply, get_apply, writeText?, hwrite]
  rfl

theorem created_of_save (h : save {} path fs = .ok ⟨⟩ fs') : Created path fs fs' := by
  have hload : load path fs' = .ok {} fs' := load_of_save h
  refine ⟨hload, ?_, ?_⟩
  · rcases load_cases path fs' with ⟨_, -, hcontains⟩ | ⟨fault, hfault⟩
    · exact hcontains
    · cases hload.symm.trans hfault
  · obtain ⟨fs₁, hmakes, ⟨fault, hsave⟩ | ⟨loc, fs₂, hsave, hlocate, hset⟩⟩ := save_cases {} path fs
    · cases hsave.symm.trans h
    · cases hsave.symm.trans h
      refine ⟨loc, by rw [hset.locate?_eq, hlocate], fun loc' hne => ?_⟩
      rw [hset.get?_of_ne hne]
      exact hmakes.growsTo.get?_eq loc'

/-- Settings that can be created are, and not a second time. -/
theorem IsCreatable.create (h : IsCreatable path fs) :
    ∃ fs', create path fs = .ok true fs' ∧ Created path fs fs' := by
  obtain ⟨fs', hsave⟩ := h.save {}
  refine ⟨fs', ?_, created_of_save hsave⟩
  rw [Settings.create, bind_apply, get_apply]
  simp only [h.missing, Bool.false_eq_true, if_false, bind_apply, hsave]
  rfl

end Settings

/-! ## Runs -/

namespace Invocation

variable {i : Invocation} {around : Surroundings} {settings : Settings} {fs fs' : Files}
  {written : Bool}

/-- What is shown when settings are to be created: whether they were, and the settings in force. -/
def initView (settings : Settings) (path : String) (written : Bool) (s : Scratch) (v : Verbosity)
    (isColoured : Bool) : Styled :=
  View.line (plain (if written then s!"✓ Wrote default config: {path}"
    else s!"Config already exists: {path}")) ++ View.newline ++
  Work.settingsView settings path s v isColoured

/-- A run that was to create settings has ended well, with the path as the source of the settings in
force. -/
structure EndsInit (i : Invocation) (around : Surroundings) (settings : Settings) (path : String)
    (written : Bool) (fs' : Files) (o : Outcome) : Prop where
  exit_eq : o.exit = 0
  files_eq : o.files = fs'
  output_eq : o.output = (initView settings path written (i.scratch around.home settings)
    (i.verbosity settings.verbosity) (i.allowsColour settings)).render
      (around.isColoured && i.allowsColour settings)

theorem perform_init (hcommand : i.command = some (.config true))
    (hcreate : Settings.create (i.settingsPath around.home) fs = .ok written fs')
    (hcontains : fs'.contains (i.settingsPath around.home) = true) :
    i.perform around settings { files := fs } = .ok ⟨⟩ {
      files := fs'
      shown := initView settings (i.settingsPath around.home) written
        (i.scratch around.home settings) (i.verbosity settings.verbosity) (i.allowsColour settings)
      events := [Events.usingStorage (i.scratch around.home settings)] } := by
  rw [perform, hcommand]
  simp only [bind_apply, note_apply, if_true, initSettings, filing, hcreate]
  cases written with
  | true =>
    simp only [if_true, showText_apply, showSettings, bind_apply, get_apply, hcontains]
    rfl
  | false =>
    simp only [Bool.false_eq_true, if_false, showText_apply, showSettings, bind_apply, get_apply,
      hcontains, if_true]
    rfl

theorem endsInit_run (hcommand : i.command = some (.config true))
    (hload : Settings.loadFrom around.home i.config fs = .ok settings fs)
    (hcreate : Settings.create (i.settingsPath around.home) fs = .ok written fs')
    (hcontains : fs'.contains (i.settingsPath around.home) = true) :
    i.EndsInit around settings (i.settingsPath around.home) written fs' (i.run around fs) := by
  rw [run_of_load hload, outcome, perform_init hcommand hcreate hcontains]
  exact ⟨rfl, rfl, rfl⟩

end Invocation

open Invocation in
/-- What a run that is to create settings does, by where they are looked for.  A given path that leads
to nothing ends it at once.  Settings that are there and can be loaded stay, and are shown.  If no path
is given and the default one leads to nothing, the default settings are written to it, and there they
stay when the same run is made again. -/
theorem runProgram_init {args : List String} {around : Surroundings} {fs : Files} {i : Invocation}
    (hparse : Invocation.parse args = .ok i) (hcommand : i.command = some (.config true)) :
    (∀ path, i.config = some path → fs.contains path = false → runProgram args around fs =
      ⟨1, "",
        s!"Error: Failed to load configuration\n\nCaused by:\n{causeText .unreadableSettings}\n",
        fs⟩) ∧
    (∀ settings, fs.contains (i.settingsPath around.home) = true →
      Settings.loadFrom around.home i.config fs = .ok settings fs →
      i.EndsInit around settings (i.settingsPath around.home) false fs
        (runProgram args around fs)) ∧
    (i.config = none → Settings.IsCreatable (Settings.defaultPath around.home) fs →
      ∃ fs', Settings.Created (Settings.defaultPath around.home) fs fs' ∧
        i.EndsInit around {} (Settings.defaultPath around.home) true fs'
          (runProgram args around fs) ∧
        i.EndsInit around {} (Settings.defaultPath around.home) false fs'
          (runProgram args around fs')) := by
  have hrun := runProgram_of_parse hparse around
  refine ⟨fun path hconfig hmissing => ?_, fun settings hcontains hload => ?_,
    fun hconfig hcreatable => ?_⟩
  · have hload : Settings.loadFrom around.home i.config fs = .error .unreadableSettings fs := by
      rw [hconfig]
      exact Settings.load_of_contains_eq_false hmissing
    rw [hrun, run_of_unreadable hload]
  · rw [hrun]
    exact i.endsInit_run hcommand hload (Settings.create_of_contains hcontains) hcontains
  · obtain ⟨fs', hcreate, hcreated⟩ := hcreatable.create
    have hpath : i.settingsPath around.home = Settings.defaultPath around.home := by
      rw [Invocation.settingsPath, hconfig, Option.getD_none]
    have hfirst : Settings.loadFrom around.home i.config fs = .ok {} fs := by
      rw [hconfig]
      exact Settings.loadFrom_none_of_contains_eq_false hcreatable.missing
    have hagain : Settings.loadFrom around.home i.config fs' = .ok {} fs' := by
      rw [hconfig, Settings.loadFrom_none_of_contains hcreated.contains_eq]
      exact hcreated.load_eq
    rw [← hpath] at hcreate hcreated ⊢
    refine ⟨fs', hcreated, ?_, ?_⟩
    · rw [hrun]
      exact i.endsInit_run hcommand hfirst hcreate hcreated.contains_eq
    · rw [hrun]
      exact i.endsInit_run hcommand hagain (Settings.create_of_contains hcreated.contains_eq)
        hcreated.contains_eq

def initArgs : List String := ["config", "--init"]

/-- Where nothing is, the default settings are created at the default path, and left as they are by a
second run. -/
theorem runProgram_init_twice :
    ∃ fs', Settings.Created "home/.huidong/config.toml" {} fs' ∧
      (runProgram initArgs .quiet {}).exit = 0 ∧ (runProgram initArgs .quiet {}).files = fs' ∧
      (runProgram initArgs .quiet fs').exit = 0 ∧ (runProgram initArgs .quiet fs').files = fs' := by
  have hparse : Invocation.parse initArgs = .ok { command := some (.config true) } := by
    decide +kernel
  have hcreatable : Settings.IsCreatable (Settings.defaultPath Surroundings.quiet.home) {} := {
    missing := by decide +kernel
    place := ⟨(Files.makeFolders {} (ofText "home/.huidong")).2,
      ["home", ".huidong", "config.toml"], by rfl, by decide +kernel, by decide +kernel⟩ }
  obtain ⟨fs', hcreated, hfirst, hagain⟩ :=
    (@runProgram_init initArgs .quiet {} _ hparse rfl).2.2 rfl hcreatable
  exact ⟨fs', hcreated, hfirst.exit_eq, hfirst.files_eq, hagain.exit_eq, hagain.files_eq⟩

/-- Settings that could be created at a given path are not. -/
theorem not_forall_init_creates :
    ¬ ∀ (args : List String) (around : Surroundings) (fs : Files) (i : Invocation) (path : String),
      Invocation.parse args = .ok i → i.command = some (.config true) → i.config = some path →
      Settings.IsCreatable path fs → (runProgram args around fs).exit = 0 := by
  intro h
  have hcreatable : Settings.IsCreatable "new.toml" {} := {
    missing := by decide +kernel
    place := ⟨{}, ["new.toml"], by rfl, by decide +kernel, by decide +kernel⟩ }
  have hexit := h ["config", "--init", "-c", "new.toml"] .quiet {}
    { config := some "new.toml", command := some (.config true) } "new.toml" (by decide +kernel)
    rfl rfl hcreatable
  revert hexit
  decide +kernel

end Temperament
