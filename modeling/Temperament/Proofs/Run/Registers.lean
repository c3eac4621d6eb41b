import Temperament.Proofs.Run.Keeping
import Temperament.Proofs.Run.Program

/-!
# Two registers

Over any sequence of runs on one state folder the program behaves as a machine with two registers,
the parts of a profile: an assessment sets the first, a report sets the second, cleaning empties both,
and nothing else changes them (`runAll_registers`).
-/

namespace Temperament

open Files Temperament.Path Scratch Work

/-! ## The machine -/

/-- Whether a command shows a plan. -/
def Command.showsPlan : Command → Bool
  | .plan => true
  | .progress _ => true
  | _ => false

/-- A use of the program: its arguments and what it finds around it. -/
structure Use where
  args : List String
  around : Surroundings

namespace Use

def outcome (u : Use) (fs : Files) : Outcome :=
  runProgram u.args u.around fs

/-- The registers after a run that ended with an exit code. -/
def registers (u : Use) (settings : Settings) (p : Profile) (exit : UInt32) : Profile :=
  if exit = 0 then
    match (Invocation.parse u.args).toOption.bind Invocation.command with
    | some (.assess specs) =>
      match collected specs u.around.input with
      | .ok answers => { p with category := some (answers.classify Question.builtin) }
      | .error _ => p
    | some (.progress report) =>
      { p with progress := some (report.progress settings u.around.today) }
    | some .clean => {}
    | _ => p
  else p

/-- The files and the registers after uses of the program one after the other. -/
def runAll (settings : Settings) : List Use → Files × Profile → Files × Profile
  | [], state => state
  | u :: us, (fs, p) =>
    runAll settings us ((u.outcome fs).files, u.registers settings p (u.outcome fs).exit)

/-- The settings that a run goes by, unless they cannot be loaded. -/
def settings? (u : Use) (i : Invocation) (fs : Files) : Option Settings :=
  match Settings.loadFrom u.around.home i.config fs with
  | .ok settings _ => some settings
  | .error _ _ => none

/-- A use on a store with given settings.  The way to its settings file does not pass by the file of
the store. -/
structure Suits (u : Use) (s : Scratch) (settings : Settings) (fs : Files) : Prop where
  settings_eq : ∀ i, (Invocation.parse u.args).toOption = some i →
    ∀ settings', u.settings? i fs = some settings' →
      settings' = settings ∧ i.scratch u.around.home settings' = s
  notMem : fs.target s.path ∉ Settings.folders u.around.home fs

/-- Each use suits the store in the files that it finds. -/
def SuitAll (s : Scratch) (settings : Settings) : List Use → Files → Prop
  | [], _ => True
  | u :: us, fs => u.Suits s settings fs ∧ SuitAll s settings us (u.outcome fs).files

/-! ## One run -/

variable {u : Use} {s : Scratch} {settings : Settings} {fs : Files} {p : Profile}

theorem registers_of_ne_zero {exit : UInt32} (h : exit ≠ 0) : u.registers settings p exit = p :=
  if_neg h

theorem registers_zero {i : Invocation} (hparse : Invocation.parse u.args = .ok i) :
    u.registers settings p 0 =
      match i.command with
      | some (.assess specs) =>
        match collected specs u.around.input with
        | .ok answers => { p with category := some (answers.classify Question.builtin) }
        | .error _ => p
      | some (.progress report) =>
        { p with progress := some (report.progress settings u.around.today) }
      | some .clean => {}
      | _ => p := by
  rw [registers, if_pos rfl, hparse]
  rfl

/-- Creating settings leaves the registers alone, whether or not it succeeds. -/
theorem keeps_of_create {i : Invocation} {fs' : Files} (h : s.Keeps fs p)
    (hnotMem : fs.target s.path ∉ Settings.folders u.around.home fs)
    (hconfig : ∀ path, i.config = some path → fs.contains path = true)
    (hcreate : (∃ written, Settings.create (i.settingsPath u.around.home) fs = .ok written fs') ∨
      ∃ fault, Settings.create (i.settingsPath u.around.home) fs = .error fault fs') :
    s.Keeps fs' p := by
  cases hnone : fs.contains (i.settingsPath u.around.home) with
  | true =>
    rw [Settings.create_of_contains hnone] at hcreate
    rcases hcreate with ⟨written, hdone⟩ | ⟨fault, hdone⟩
    · cases hdone
      exact h
    · cases hdone
  | false =>
    have hpath := Invocation.settingsPath_eq hconfig hnone
    rw [hpath] at hnone hcreate
    exact h.of_create hnotMem hnone hcreate

/-- The view of the plan that goes with the registers. -/
def planView (p : Profile) : Styled :=
  View.plan p.categoryOrDefault (p.categoryOrDefault.plan.adjust p.progress) p.progress

/-- A run that ended well leaves the registers in the store, and the plan it shows is theirs. -/
theorem keeps_of_performed {i : Invocation} {fs' : Files} {shown : Styled} (h : s.Keeps fs p)
    (hnotMem : fs.target s.path ∉ Settings.folders u.around.home fs)
    (hparse : Invocation.parse u.args = .ok i) (hscratch : i.scratch u.around.home settings = s)
    (hconfig : ∀ path, i.config = some path → fs.contains path = true)
    (hdone : i.Performed u.around settings fs fs' shown) :
    s.Keeps fs' (u.registers settings p 0) ∧
      (i.command.any Command.showsPlan = true → shown = planView (u.registers settings p 0)) := by
  obtain ⟨m₀, hload₀, rfl⟩ := Profile.load_eq_ok_iff.1 h.load_eq
  rw [registers_zero hparse]
  unfold Invocation.Performed at hdone
  rw [hscratch] at hdone
  rcases hcommand : i.command with _ | (_ | specs | _ | report | init | _) <;>
    simp only [hcommand] at hdone ⊢
  · subst hdone
    exact ⟨h, nofun⟩
  · subst hdone
    exact ⟨h, nofun⟩
  · obtain ⟨answers, m, sizes, hanswers, hload, hsave⟩ := hdone
    cases hload₀.symm.trans hload
    rw [hanswers]
    exact ⟨h.of_save hload hsave, nofun⟩
  · obtain ⟨rfl, m, hload, hshown⟩ := hdone
    cases hload₀.symm.trans hload
    exact ⟨h, fun _ => hshown⟩
  · obtain ⟨m, sizes, p, hload, hp, hsave, hshown⟩ := hdone
    cases hload₀.symm.trans hload
    rw [← hp]
    exact ⟨h.of_save hload hsave, fun _ => hshown⟩
  · cases init with
    | true => exact ⟨keeps_of_create h hnotMem hconfig (.inl hdone), nofun⟩
    | false =>
      subst hdone
      exact ⟨h, nofun⟩
  · obtain ⟨existed, hclear⟩ := hdone
    exact ⟨h.of_clear hclear, nofun⟩

theorem keeps_of_failed {i : Invocation} {fs' : Files} (h : s.Keeps fs p)
    (hnotMem : fs.target s.path ∉ Settings.folders u.around.home fs)
    (hscratch : i.scratch u.around.home settings = s)
    (hconfig : ∀ path, i.config = some path → fs.contains path = true)
    (hfailed : i.Failed u.around settings fs fs') : s.Keeps fs' p := by
  have hunwritten (hfiles : Unwritten s fs fs') : s.Keeps fs' p := by
    rcases hfiles with rfl | hfails
    · exact h
    · exact h.of_failsToWrite hfails
  unfold Invocation.Failed at hfailed
  rw [hscratch] at hfailed
  split at hfailed
  · exact hunwritten hfailed
  · exact hunwritten hfailed
  · exact keeps_of_create h hnotMem hconfig (.inr hfailed)
  · rwa [hfailed]

/-- One run takes a store and the registers to what the machine says. -/
theorem keeps_outcome (h : s.Keeps fs p) (hsuits : u.Suits s settings fs) :
    s.Keeps (u.outcome fs).files (u.registers settings p (u.outcome fs).exit) ∧
      ((u.outcome fs).exit = 0 → ∀ i, (Invocation.parse u.args).toOption = some i →
        i.command.any Command.showsPlan = true →
        (u.outcome fs).output =
          (planView (u.registers settings p (u.outcome fs).exit)).render
            (u.around.isColoured && i.allowsColour settings)) := by
  rw [outcome, runProgram]
  cases hparse : Invocation.parse u.args with
  | error r =>
    have hregisters (exit : UInt32) : u.registers settings p exit = p := by
      rw [registers, hparse]
      split <;> rfl
    rw [hregisters]
    refine ⟨?_, fun _ i hi => by cases hi⟩
    show s.Keeps (r.outcome fs).files p
    rwa [Invocation.files_outcome]
  | ok i =>
    simp only
    have hsettings := hsuits.settings_eq i (by rw [hparse]; rfl)
    rcases i.run_cases u.around fs with ⟨settings', hload, hconfig, hcases⟩ | ⟨hexit, hfiles⟩
    · obtain ⟨rfl, hscratch⟩ := hsettings settings' (by rw [settings?, hload])
      rcases hcases with ⟨hexit, shown, houtput, hdone⟩ | ⟨hexit, hfailed⟩
      · rw [hexit]
        obtain ⟨hkeeps, hview⟩ :=
          keeps_of_performed h hsuits.notMem hparse hscratch hconfig hdone
        refine ⟨hkeeps, fun _ i' hi' hcommand => ?_⟩
        obtain rfl := Option.some.inj hi'
        rw [houtput, hview hcommand]
      · have hne : (i.run u.around fs).exit ≠ 0 := by rw [hexit]; decide
        rw [registers_of_ne_zero hne]
        exact ⟨keeps_of_failed h hsuits.notMem hscratch hconfig hfailed,
          fun hzero => absurd hzero hne⟩
    · have hne : (i.run u.around fs).exit ≠ 0 := by rw [hexit]; decide
      rw [registers_of_ne_zero hne, hfiles]
      exact ⟨h, fun hzero => absurd hzero hne⟩

/-! ## Sequences of runs -/

theorem keeps_runAll (h : s.Keeps fs p) {us : List Use} (hsuits : SuitAll s settings us fs) :
    s.Keeps (runAll settings us (fs, p)).1 (runAll settings us (fs, p)).2 := by
  induction us generalizing fs p with
  | nil => exact h
  | cons u us ih => exact ih (keeps_outcome h hsuits.1).1 hsuits.2

theorem suits_of_suitAll_append {us : List Use} (h : SuitAll s settings (us ++ [u]) fs) :
    SuitAll s settings us fs ∧ u.Suits s settings (runAll settings us (fs, p)).1 := by
  induction us generalizing fs p with
  | nil => exact ⟨trivial, h.1⟩
  | cons u' us ih =>
    obtain ⟨hrest, hlast⟩ :=
      ih (p := u'.registers settings p (u'.outcome fs).exit) h.2
    exact ⟨⟨h.1, hrest⟩, hlast⟩

/-- After any runs the profile that is loaded is what the registers hold, and so is the one after
one more run.  If that run ends well and shows a plan, it is the plan of the registers. -/
theorem runAll_registers (h : s.Keeps fs p) (us : List Use) (u : Use)
    (hsuits : SuitAll s settings (us ++ [u]) fs) :
    let before := runAll settings us (fs, p)
    let after := u.outcome before.1
    Profile.load s before.1 = .ok before.2 before.1 ∧
      Profile.load s after.files = .ok (u.registers settings before.2 after.exit) after.files ∧
      (after.exit = 0 → ∀ i, (Invocation.parse u.args).toOption = some i →
        i.command.any Command.showsPlan = true →
        after.output = (planView (u.registers settings before.2 after.exit)).render
          (u.around.isColoured && i.allowsColour settings)) := by
  obtain ⟨hbefore, hlast⟩ := suits_of_suitAll_append hsuits
  have hkeeps := keeps_runAll h hbefore
  obtain ⟨hafter, hview⟩ := keeps_outcome hkeeps hlast
  exact ⟨hkeeps.load_eq, hafter.load_eq, hview⟩

/-! ## An assessment and a plan -/

theorem suits_of_parse {i : Invocation} (hparse : (Invocation.parse u.args).toOption = some i)
    (hsettings : u.settings? i fs = some settings) (hscratch : i.scratch u.around.home settings = s)
    (hnotMem : fs.target s.path ∉ Settings.folders u.around.home fs) : u.Suits s settings fs where
  settings_eq i' hi' settings' hs' := by
    rw [hparse] at hi'
    obtain rfl := Option.some.inj hi'
    rw [hsettings] at hs'
    obtain rfl := Option.some.inj hs'
    exact ⟨rfl, hscratch⟩
  notMem := hnotMem

def assessUse : Use where
  args := ["assess", "-a", "1=2", "-a", "2=2", "-a", "3=2", "-a", "4=2", "-a", "5=2",
    "--state-dir", "state"]
  around := .quiet

def planUse : Use where
  args := ["plan", "--state-dir", "state"]
  around := .quiet

theorem runAll_registers_assess_plan :
    let before := runAll {} [assessUse] ({}, {})
    let after := planUse.outcome before.1
    Profile.load ⟨"state"⟩ before.1 = .ok before.2 before.1 ∧
      Profile.load ⟨"state"⟩ after.files =
        .ok (planUse.registers {} before.2 after.exit) after.files ∧
      (after.exit = 0 → ∀ i, (Invocation.parse planUse.args).toOption = some i →
        i.command.any Command.showsPlan = true →
        after.output = (planView (planUse.registers {} before.2 after.exit)).render
          (planUse.around.isColoured && i.allowsColour {})) := by
  have hempty : Scratch.Holds ⟨"state"⟩ {} none := by
    show contains {} _ = false
    decide +kernel
  have hload : Profile.load ⟨"state"⟩ {} = .ok {} {} :=
    Profile.load_eq_ok_iff.2 ⟨∅, hempty.load, by decide +kernel⟩
  have hkeeps : Scratch.Keeps ⟨"state"⟩ {} {} := .of_notMem hload (by decide +kernel)
  have hassess : assessUse.Suits ⟨"state"⟩ {} {} :=
    suits_of_parse
      (i := ⟨none, "state", 0, false, false, some (.assess ["1=2", "2=2", "3=2", "4=2", "5=2"])⟩)
      (by decide +kernel) (by decide +kernel) rfl (by decide +kernel)
  have hplan : planUse.Suits ⟨"state"⟩ {} (assessUse.outcome {}).files :=
    suits_of_parse (i := ⟨none, "state", 0, false, false, some .plan⟩)
      (by decide +kernel) (by decide +kernel) rfl (by decide +kernel)
  exact runAll_registers hkeeps [assessUse] planUse ⟨hassess, hplan, trivial⟩

/-! ## A store that stands in its own way -/

def reportUse : Use where
  args := ["progress", "--completed-learning", "1", "--completed-sports", "1",
    "--state-dir", "session.json/.."]
  around := .quiet

/-- Where the way to the folder of the store passes by its file, a run that fails may make a folder in
place of the file, and nothing is loaded any more. -/
theorem not_forall_load_runAll :
    ¬ ∀ (s : Scratch) (settings : Settings) (fs : Files) (p : Profile) (us : List Use),
      Profile.load s fs = .ok p fs → SuitAll s settings us fs →
      Profile.load s (runAll settings us (fs, p)).1 =
        .ok (runAll settings us (fs, p)).2 (runAll settings us (fs, p)).1 := by
  intro h
  have hempty : Scratch.Holds ⟨"session.json/.."⟩ {} none := by
    show contains {} _ = false
    decide +kernel
  have hload : Profile.load ⟨"session.json/.."⟩ {} = .ok {} {} :=
    Profile.load_eq_ok_iff.2 ⟨∅, hempty.load, by decide +kernel⟩
  have hsuits : reportUse.Suits ⟨"session.json/.."⟩ {} {} :=
    suits_of_parse
      (i := ⟨none, "session.json/..", 0, false, false, some (.progress ⟨1, none, 1, none, none, none⟩)⟩)
      (by decide +kernel) (by decide +kernel) rfl (by decide +kernel)
  have hafter := h ⟨"session.json/.."⟩ {} {} {} [reportUse] hload ⟨hsuits, trivial⟩
  have hfails : (match Profile.load ⟨"session.json/.."⟩ (runAll {} [reportUse] ({}, {})).1 with
      | .ok _ _ => true
      | .error _ _ => false) = false := by
    decide +kernel
  rw [hafter] at hfails
  cases hfails

end Use

end Temperament
