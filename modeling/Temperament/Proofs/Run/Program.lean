import Temperament.Proofs.Run.Commands

/-!
# What a run does to the files

A run that ends well has performed its command (`Performed`); one that does not has left the files as
the command leaves them when it fails (`Failed`), or as they were.
-/

namespace Temperament

/-- Surroundings with an empty input and no log. -/
def Surroundings.quiet : Surroundings where
  home := "home"
  today := { year := 2024, month := 1, day := 1 }

namespace Invocation

open Scratch Work

/-- The session store of an invocation. -/
def scratch (i : Invocation) (home : String) (settings : Settings) : Scratch :=
  ⟨i.storeFolder home settings⟩

/-- What a command that ended well has shown and left. -/
def Performed (i : Invocation) (around : Surroundings) (settings : Settings) (fs fs' : Files)
    (shown : Styled) : Prop :=
  match i.command with
  | some (.assess specs) => ∃ answers m sizes, collected specs around.input = .ok answers ∧
      (i.scratch around.home settings).load fs = .ok m fs ∧
      Profile.save { Profile.ofEntries m with category := some (answers.classify Question.builtin) }
        (i.scratch around.home settings) fs = .ok sizes fs'
  | some .plan => fs' = fs ∧ ∃ m, (i.scratch around.home settings).load fs = .ok m fs ∧
      shown = View.plan (Profile.ofEntries m).categoryOrDefault (Profile.ofEntries m).currentPlan
        (Profile.ofEntries m).progress
  | some (.progress report) => ∃ m sizes p, (i.scratch around.home settings).load fs = .ok m fs ∧
      p = { Profile.ofEntries m with progress := some (report.progress settings around.today) } ∧
      p.save (i.scratch around.home settings) fs = .ok sizes fs' ∧
      shown = View.plan p.categoryOrDefault p.currentPlan p.progress
  | some .clean => ∃ existed, (i.scratch around.home settings).clear fs = .ok existed fs'
  | some (.config true) =>
      ∃ written, Settings.create (i.settingsPath around.home) fs = .ok written fs'
  | _ => fs' = fs

/-- What a command that failed has left. -/
def Failed (i : Invocation) (around : Surroundings) (settings : Settings) (fs fs' : Files) : Prop :=
  match i.command with
  | some (.assess _) => Unwritten (i.scratch around.home settings) fs fs'
  | some (.progress _) => Unwritten (i.scratch around.home settings) fs fs'
  | some (.config true) =>
      ∃ fault, Settings.create (i.settingsPath around.home) fs = .error fault fs'
  | _ => fs' = fs

theorem ends_perform (i : Invocation) (around : Surroundings) (settings : Settings) (fs : Files) :
    (i.perform around settings).Ends { files := fs }
      (fun _ st' => i.Performed around settings fs st'.files st'.shown)
      (fun st' => i.Failed around settings fs st'.files) := by
  refine (ends_note _).bind fun _ st₁ h₁ => ?_
  have hfiles : st₁.files = fs := h₁.files_eq
  have hshown : st₁.shown = [] := h₁.shown_eq
  unfold Performed Failed
  rcases i.command with _ | (_ | specs | _ | report | init | _)
  · exact (ends_showText _).mono (fun _ _ h => h.files_eq.trans hfiles)
  · exact (ends_showText _).mono (fun _ _ h => h.files_eq.trans hfiles)
  · rw [← hfiles]
    exact ends_assess _ _ specs around.input
  · rw [← hfiles]
    refine (ends_plan _).mono (fun _ st₂ ⟨m, hm, h⟩ => ⟨h.files_eq, m, hm, ?_⟩)
    rw [h.shown_eq, hshown, List.nil_append]
  · rw [← hfiles]
    refine (ends_recordProgress _ _).mono
      (fun _ st₂ ⟨m, sizes, p, hm, hp, hsave, hview⟩ => ⟨m, sizes, p, hm, hp, hsave, ?_⟩)
    rw [hview, hshown, List.nil_append]
  · rw [← hfiles]
    cases init with
    | true =>
      refine (ends_initSettings _).bind fun _ st₂ ⟨written, h₂⟩ => ?_
      exact (ends_showSettings _ _ _ _ _).mono
        (fun _ st₃ h₃ => ⟨written, by rw [h₃]; exact h₂⟩)
    | false => exact ends_showSettings _ _ _ _ _
  · rw [← hfiles]
    exact ends_clean _

theorem run_of_load {i : Invocation} {around : Surroundings} {settings : Settings} {fs : Files}
    (hload : Settings.loadFrom around.home i.config fs = .ok settings fs) :
    i.run around fs = i.outcome around settings fs := by
  simp only [run, hload]

theorem run_of_unreadable {i : Invocation} {around : Surroundings} {fault : Fault} {fs : Files}
    (hload : Settings.loadFrom around.home i.config fs = .error fault fs) : i.run around fs =
      ⟨1, "", s!"Error: Failed to load configuration\n\nCaused by:\n{causeText fault}\n", fs⟩ := by
  simp only [run, hload]

/-- A run of an invocation has performed its command, or its command failed, or its settings do. -/
theorem run_cases (i : Invocation) (around : Surroundings) (fs : Files) :
    (∃ settings, Settings.loadFrom around.home i.config fs = .ok settings fs ∧
      (∀ path, i.config = some path → fs.contains path = true) ∧
      (((i.run around fs).exit = 0 ∧ ∃ shown,
          (i.run around fs).output =
            shown.render (around.isColoured && i.allowsColour settings) ∧
          i.Performed around settings fs (i.run around fs).files shown) ∨
        ((i.run around fs).exit = 1 ∧ i.Failed around settings fs (i.run around fs).files))) ∨
    ((i.run around fs).exit = 1 ∧ (i.run around fs).files = fs) := by
  rw [run]
  rcases Settings.loadFrom_cases around.home i.config fs with ⟨settings, hload, hconfig⟩ |
    ⟨fault, hload⟩
  · refine .inl ⟨settings, hload, hconfig, ?_⟩
    simp only [hload, outcome]
    have hends := i.ends_perform around settings fs
    unfold Ends at hends
    cases hperform : i.perform around settings { files := fs } with
    | ok _ st' =>
      rw [hperform] at hends
      exact .inl ⟨rfl, st'.shown, rfl, hends⟩
    | error fault st' =>
      rw [hperform] at hends
      exact .inr ⟨rfl, hends⟩
  · rw [hload]
    exact .inr ⟨rfl, rfl⟩

/-- Settings are created only where they are looked for if no path is given. -/
theorem settingsPath_eq {i : Invocation} {home : String} {fs : Files}
    (hconfig : ∀ path, i.config = some path → fs.contains path = true)
    (hnone : fs.contains (i.settingsPath home) = false) :
    i.settingsPath home = Settings.defaultPath home := by
  cases h : i.config with
  | none =>
    rw [settingsPath, h]
    rfl
  | some path =>
    rw [settingsPath, h] at hnone
    exact absurd (hconfig path h) (by rw [show fs.contains path = false from hnone]; nofun)

theorem files_outcome (r : Rejection) (fs : Files) : (r.outcome fs).files = fs := by
  cases r <;> rfl

end Invocation

theorem runProgram_of_parse {args : List String} {i : Invocation}
    (hparse : Invocation.parse args = .ok i) (around : Surroundings) (fs : Files) :
    runProgram args around fs = i.run around fs := by
  rw [runProgram, hparse]

end Temperament
