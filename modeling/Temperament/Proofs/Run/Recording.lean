import Temperament.Proofs.Run.Changes

/-!
# What recording keeps

An assessment and a report each record one part of the profile and read the other.  The entries under
other keys are kept as they are, and the other part reads as before (`runProgram_recording`).  Its
entry is kept unless it does not read as what it should be: what is ignored when the profile is loaded
is gone once the profile is saved (`not_forall_entries_kept`).
-/

namespace Temperament

open Scratch Work

open Profile

/-! ## Recording -/

/-- The profile that a command saves, from the one that it loads. -/
inductive Command.Records (around : Surroundings) (settings : Settings) (p : Profile) :
    Command → Profile → Prop
  | assess (specs : List String) (answers : Answers)
      (h : collected specs around.input = .ok answers) :
      Records around settings p (.assess specs)
        { p with category := some (answers.classify Question.builtin) }
  | progress (report : ReportOptions) :
      Records around settings p (.progress report)
        { p with progress := some (report.progress settings around.today) }

/-- The keys whose entries a command that records does not keep: that of the part which it only reads,
where this part is absent. -/
def Command.Drops (p : Profile) (key : String) : Command → Prop
  | .assess _ => key = progressKey ∧ p.progress = none
  | .progress _ => key = categoryKey ∧ p.category = none
  | _ => False

/-- The part of the profile that a command only reads is the same. -/
def Command.Spares (p p' : Profile) : Command → Prop
  | .assess _ => p'.progress = p.progress
  | .progress _ => p'.category = p.category
  | _ => p' = p

namespace Invocation

variable {i : Invocation} {command : Command} {around : Surroundings} {settings : Settings}
  {fs fs' : Files} {m : Entries} {p p' : Profile}

theorem Performed.saves {shown : Styled} (hcommand : i.command = some command)
    (hwrites : command.writesStore = true)
    (hload : (i.scratch around.home settings).load fs = .ok m fs)
    (h : i.Performed around settings fs fs' shown) :
    ∃ p sizes, command.Records around settings (Profile.ofEntries m) p ∧
      p.save (i.scratch around.home settings) fs = .ok sizes fs' := by
  unfold Performed at h
  rw [hcommand] at h
  cases command with
  | assess specs =>
    obtain ⟨answers, m', sizes, hanswers, hload', hsave⟩ := h
    cases hload.symm.trans hload'
    exact ⟨_, sizes, .assess specs answers hanswers, hsave⟩
  | progress report =>
    obtain ⟨m', sizes, p, hload', rfl, hsave, -⟩ := h
    cases hload.symm.trans hload'
    exact ⟨_, sizes, .progress report, hsave⟩
  | questions | plan | config | clean => cases hwrites

end Invocation

namespace Command.Records

variable {command : Command} {around : Surroundings} {settings : Settings} {m : Entries}
  {p p' : Profile}

theorem spares (h : command.Records around settings p p') : command.Spares p p' := by
  cases h <;> rfl

theorem contains_iff (h : command.Records around settings (Profile.ofEntries m) p) {key : String}
    (hkey : m.contains key = true) :
    (p.entries m).contains key = true ↔ ¬command.Drops (Profile.ofEntries m) key := by
  rw [contains_entries_iff hkey]
  cases h <;> simp [Drops]

end Command.Records

/-- A successful assessment or report keeps the entries under all keys but those of the profile.  The
part of the profile that it only reads is read as before, and of the entries that were there only that
of this part may be gone, if it did not read as what it should be. -/
theorem runProgram_recording {args : List String} {i : Invocation} {command : Command}
    {around : Surroundings} {settings : Settings} {fs : Files} {m : Entries}
    (hparse : Invocation.parse args = .ok i) (hcommand : i.command = some command)
    (hwrites : command.writesStore = true)
    (hsettings : Settings.loadFrom around.home i.config fs = .ok settings fs)
    (hload : (i.scratch around.home settings).load fs = .ok m fs)
    (hexit : (runProgram args around fs).exit = 0) :
    ∃ m', (i.scratch around.home settings).load (runProgram args around fs).files =
        .ok m' (runProgram args around fs).files ∧
      (∀ key, key ≠ categoryKey → key ≠ progressKey → m'.get? key = m.get? key) ∧
      (∀ key, m.contains key = true →
        (m'.contains key = true ↔ ¬command.Drops (Profile.ofEntries m) key)) ∧
      command.Spares (Profile.ofEntries m) (Profile.ofEntries m') := by
  rw [runProgram_of_parse hparse] at hexit ⊢
  rcases i.run_cases around fs with ⟨settings', hsettings', -, ⟨-, shown, -, hdone⟩ | ⟨hone, -⟩⟩ |
    ⟨hone, -⟩
  · cases hsettings.symm.trans hsettings'
    obtain ⟨p, sizes, hrecords, hsave⟩ := hdone.saves hcommand hwrites hload
    refine ⟨p.entries m, load_of_save hload hsave, fun key => get?_entries_of_ne,
      fun key => hrecords.contains_iff, ?_⟩
    rw [ofEntries_entries]
    exact hrecords.spares
  · rw [hone] at hexit
    exact absurd hexit (by decide)
  · rw [hone] at hexit
    exact absurd hexit (by decide)

def reportArgs : List String :=
  ["progress", "--completed-learning", "1", "--completed-sports", "1", "--state-dir", "state"]

/-- A store with an entry of its own and an unknown category. -/
def labelFiles : Files where
  root := .folder [("state", .folder [("session.json", .file
    "\x7b\"note\": \"kept\", \"huidong.personality\": \"wizard\"\x7d".toUTF8)])]

def labelEntries : Entries :=
  (SortedMap.insert ∅ "note" "kept").insert categoryKey "wizard"

/-- A report leaves the note, and takes the place of a category that is none. -/
theorem runProgram_recording_label :
    (runProgram reportArgs .quiet labelFiles).exit = 0 ∧
      ∃ m', Scratch.load ⟨"state"⟩ (runProgram reportArgs .quiet labelFiles).files =
          .ok m' (runProgram reportArgs .quiet labelFiles).files ∧
        m'.get? "note" = some "kept" ∧ m'.contains categoryKey = false := by
  have hholds : Scratch.Holds ⟨"state"⟩ labelFiles (some labelEntries) := by
    refine ⟨"\x7b\"note\": \"kept\", \"huidong.personality\": \"wizard\"\x7d", ?_, ?_⟩
    · decide +kernel
    · decide +kernel
  have hparse : Invocation.parse reportArgs = .ok {
      stateDir := some "state",
      command := some (.progress { completedLearning := 1, completedSports := 1 }) } := by
    decide +kernel
  have hsettings : Settings.loadFrom Surroundings.quiet.home none labelFiles = .ok {} labelFiles :=
    Settings.loadFrom_none_of_contains_eq_false (by decide +kernel)
  have hexit : (runProgram reportArgs .quiet labelFiles).exit = 0 := by decide +kernel
  obtain ⟨m', hload, hothers, hkept, -⟩ :=
    runProgram_recording hparse rfl rfl hsettings hholds.load hexit
  refine ⟨hexit, m', hload, ?_, ?_⟩
  · rw [hothers "note" (by decide) (by decide)]
    decide +kernel
  · have hdropped : Command.Drops (Profile.ofEntries labelEntries) categoryKey
        (.progress { completedLearning := 1, completedSports := 1 }) :=
      ⟨rfl, by decide +kernel⟩
    exact Bool.eq_false_iff.2 fun hthere => (hkept categoryKey (by decide +kernel)).1 hthere hdropped

/-! ## Entries that are lost -/

/-- A store with a report that does not read as one. -/
def brokenFiles : Files where
  root := .folder [("state", .folder [("session.json", .file
    "\x7b\"huidong.progress\": \"broken\"\x7d".toUTF8)])]

def brokenEntries : Entries :=
  SortedMap.insert ∅ progressKey "broken"

/-- What an assessment makes of it. -/
def storedEntries : Entries :=
  SortedMap.insert ∅ categoryKey "social"

def storedArgs : List String :=
  ["assess", "-a", "1=2", "-a", "2=2", "-a", "3=2", "-a", "4=0", "-a", "5=2", "--state-dir", "state"]

/-- An assessment on a store with a report that does not read as one leaves no entry for it. -/
theorem not_forall_entries_kept :
    ¬ ∀ (args : List String) (around : Surroundings) (fs : Files) (i : Invocation)
        (m m' : Entries) (key : String), Invocation.parse args = .ok i →
      i.command.any Command.writesStore = true → (runProgram args around fs).exit = 0 →
      (i.scratch around.home {}).load fs = .ok m fs →
      (i.scratch around.home {}).load (runProgram args around fs).files =
        .ok m' (runProgram args around fs).files →
      m.contains key = true → m'.contains key = true := by
  intro h
  have hholds : Scratch.Holds ⟨"state"⟩ brokenFiles (some brokenEntries) := by
    refine ⟨"\x7b\"huidong.progress\": \"broken\"\x7d", ?_, ?_⟩
    · decide +kernel
    · decide +kernel
  have hafter : Scratch.Holds ⟨"state"⟩ (runProgram storedArgs .quiet brokenFiles).files
      (some storedEntries) := by
    refine ⟨"\x7b\n  \"huidong.personality\": \"social\"\n\x7d", ?_, ?_⟩
    · decide +kernel
    · decide +kernel
  have hkept := h storedArgs .quiet brokenFiles
    { stateDir := some "state",
      command := some (.assess ["1=2", "2=2", "3=2", "4=0", "5=2"]) }
    brokenEntries storedEntries progressKey (by decide +kernel) rfl (by decide +kernel) hholds.load
    hafter.load (by decide +kernel)
  exact absurd hkept (by decide +kernel)

end Temperament
