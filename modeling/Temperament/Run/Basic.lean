import Temperament.Invocation.Basic
import Temperament.Journal.Basic
import Temperament.Profile
import Temperament.Questionnaire
import Temperament.Settings.File
import Temperament.Styled

/-!
# The work of a run

Work that reads and changes files, shows text, notes events, and may fail.  What was shown and
noted before a failure stays.
-/

namespace Temperament

open Journal

structure RunState where
  files : Files
  /-- What was shown, in order. -/
  shown : Styled := []
  /-- What was noted, in order. -/
  events : List Event := []

abbrev Work := EStateM Fault RunState

namespace Work

def filing {α : Type} (work : Filing α) : Work α := fun s =>
  match work s.files with
  | .ok a files => .ok a { s with files }
  | .error fault files => .error fault { s with files }

def ofExcept {α : Type} : Except Fault α → Work α
  | .ok a => pure a
  | .error fault => throw fault

def showText (t : Styled) : Work Unit :=
  modify fun s => { s with shown := s.shown ++ t }

def note (e : Event) : Work Unit :=
  modify fun s => { s with events := s.events ++ [e] }

end Work

/-! ## Events -/

namespace Events

def usingStorage (s : Scratch) : Event :=
  ⟨.debug, "huidong", "using session storage", [("state_dir", s.folder)]⟩

/-- Before each line that is read at the prompt. -/
def readsPipe : Event :=
  ⟨.debug, "rustyline", "stdin is not a tty", []⟩

def classified (answers : Answers) (board : Scoreboard) (c : Category) : Event :=
  ⟨.debug, "huidong::assessment::classifier", "classified answers",
    [("answered", toString answers.size), ("points", toString board.total), ("category", c.name)]⟩

def adjusted (c : Category) (p : Progress) : Event :=
  ⟨.debug, "huidong::planning::adjuster", "adjusted plan",
    [("category", c.name), ("week_start", p.weekStart.text),
      ("learning", p.learningAdjustment.name), ("sports", p.sportsAdjustment.name),
      ("stressed", toString p.isStressed)]⟩

/-- The reason why a report does not read is left out. -/
def ignored : Profile.Ignored → Event
  | .category fault =>
    ⟨.warn, "huidong::session::context", "ignoring stored category", [("error", fault.message)]⟩
  | .progress =>
    ⟨.warn, "huidong::session::context", "ignoring stored progress record", [("error", "")]⟩

def wroteStore (s : Scratch) (size : Nat) : Event :=
  ⟨.trace, "huidong::session::persistence", "wrote scratch store",
    [("path", s.path), ("entries", toString size)]⟩

def storedAssessment (c : Category) : Event :=
  ⟨.info, "huidong", "stored assessment result", [("category", c.name)]⟩

def noAssessment : Event :=
  ⟨.info, "huidong", "no stored assessment, planning for the default type", []⟩

def storedProgress (p : Progress) : Event :=
  ⟨.info, "huidong", "stored weekly progress", [("week_start", p.weekStart.text)]⟩

end Events

end Temperament
