import Temperament.Run.Basic

/-!
# Commands

What each command does, given the settings, the session store and what is said on the command line.
-/

namespace Temperament

namespace Work

/-! ## Profiles -/

def loadProfile (s : Scratch) : Work Profile := do
  let entries ← filing s.load
  (Profile.ignored entries).forM fun ignored => note (Events.ignored ignored)
  return .ofEntries entries

def saveProfile (s : Scratch) (p : Profile) : Work Unit := do
  let sizes ← filing (p.save s)
  sizes.forM fun size => note (Events.wroteStore s size)

/-- Shows the plan for a profile. -/
def showPlan (p : Profile) : Work Unit := do
  p.progress.toList.forM fun progress => note (Events.adjusted p.categoryOrDefault progress)
  showText (View.plan p.categoryOrDefault p.currentPlan p.progress)

/-! ## Commands -/

/-- Shows the questions at a prompt and takes the answers from the input. -/
def ask (questions : List Question) (input : List UInt8) : Work Answers := do
  let transcript := Questionnaire.run questions input
  showText transcript.shown
  (List.replicate transcript.reads Events.readsPipe).forM note
  ofExcept transcript.outcome

def hint : Styled :=
  View.newline ++
    View.line (plain "运行 " ++ (Style.inColour .green).apply "huidong plan" ++ plain " 查看个性化计划")

def assess (s : Scratch) (v : Verbosity) (specs : List String) (input : List UInt8) :
    Work Unit := do
  let answers ←
    if specs.isEmpty then ask Question.builtin input
    else ofExcept (Questionnaire.answerSpecs Question.builtin specs)
  ofExcept (answers.ensureComplete Question.builtin)
  let board := answers.tally Question.builtin
  let c := answers.classify Question.builtin
  note (Events.classified answers board c)
  let profile ← loadProfile s
  saveProfile s { profile with category := some c }
  note (Events.storedAssessment c)
  if v.showsDetails then
    showText (View.assessment c (some board))
    showText hint
  else
    showText (View.assessment c none)

def plan (s : Scratch) : Work Unit := do
  let profile ← loadProfile s
  if profile.category.isNone then note Events.noAssessment
  showPlan profile

def recordProgress (s : Scratch) (progress : Progress) : Work Unit := do
  let profile := { ← loadProfile s with progress := some progress }
  saveProfile s profile
  note (Events.storedProgress progress)
  showPlan profile

def clean (s : Scratch) : Work Unit := do
  if ← filing s.clear then showText (View.line (plain s!"✓ Cleared session: {s.path}"))
  else showText (View.line (plain "No stored session found."))

/-- Writes the default settings to a path. -/
def initSettings (path : String) : Work Unit := do
  if ← filing (Settings.create path) then
    showText (View.line (plain s!"✓ Wrote default config: {path}"))
  else showText (View.line (plain s!"Config already exists: {path}"))
  showText View.newline

/-- The view of the settings in force; `source` is where they come from. -/
def settingsView (settings : Settings) (source : String) (s : Scratch) (v : Verbosity)
    (isColoured : Bool) : Styled :=
  View.line ((Style.boldInColour .cyan).apply "huidong configuration") ++
    [s!"  Source:          {source}", "", "Paths:",
      s!"  State dir:       {s.folder}",
      s!"  Scratch file:    {s.path}", "", "Display:",
      s!"  Verbosity:       {v.name}",
      "  Color output:    " ++ (if isColoured then "enabled" else "disabled"), "",
      "Progress defaults:",
      s!"  Target learning: {settings.targets.learning}",
      s!"  Target sports:   {settings.targets.sports}"].flatMap fun l => View.line (plain l)

/-- Shows the settings in force and the file at `path`, if it is there, as their source. -/
def showSettings (settings : Settings) (path : String) (s : Scratch) (v : Verbosity)
    (isColoured : Bool) : Work Unit := do
  let source := if (← get).files.contains path then path else "built-in defaults"
  showText (settingsView settings source s v isColoured)

/-- What is shown without a command. -/
def usage : Styled :=
  ["huidong - personality assessment & adaptive plans", "", "Usage:",
    "  huidong questions             List assessment questions",
    "  huidong assess                Answer the questionnaire",
    "  huidong plan                  Show the current plan",
    "  huidong progress ...          Record weekly progress",
    "  huidong config [--init]       Show (or create) configuration",
    "  huidong clean                 Clear stored session", "", "Example:",
    "  huidong assess -a 1=0 -a 2=1 -a 3=0 -a 4=2 -a 5=0", ""].flatMap
      fun l => View.line (plain l)

end Work

/-- The report that options ask for, with `today` for a day that is left out and the targets of the
settings for those left out. -/
def ReportOptions.progress (o : ReportOptions) (settings : Settings) (today : Date) : Progress where
  weekStart := o.weekStart.getD today
  completedLearning := o.completedLearning
  targetLearning := o.targetLearning.getD settings.targets.learning
  completedSports := o.completedSports
  targetSports := o.targetSports.getD settings.targets.sports
  feedback := o.feedback

end Temperament
