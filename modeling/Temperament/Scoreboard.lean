import Temperament.Answers
import Temperament.Category

/-!
# The scoreboard

One point for each answered question goes to the category at the chosen position.  The leader is
the category with the most points, the first in canonical order of several.
-/

namespace Temperament

structure Scoreboard where
  explorer : UInt32 := 0
  thinker : UInt32 := 0
  social : UInt32 := 0
  disciplined : UInt32 := 0
  deriving DecidableEq

namespace Scoreboard

def empty : Scoreboard := {}

instance : EmptyCollection Scoreboard := ⟨empty⟩

def score (b : Scoreboard) : Category → UInt32
  | .explorer => b.explorer
  | .thinker => b.thinker
  | .social => b.social
  | .disciplined => b.disciplined

def award (b : Scoreboard) : Category → Scoreboard
  | .explorer => { b with explorer := b.explorer + 1 }
  | .thinker => { b with thinker := b.thinker + 1 }
  | .social => { b with social := b.social + 1 }
  | .disciplined => { b with disciplined := b.disciplined + 1 }

theorem score_award (b : Scoreboard) (c c' : Category) :
    (b.award c).score c' = if c' = c then b.score c' + 1 else b.score c' := by
  cases c <;> cases c' <;> rfl

def ofAwards (cs : List Category) : Scoreboard :=
  cs.foldl award ∅

def total (b : Scoreboard) : UInt32 :=
  b.explorer + b.thinker + b.social + b.disciplined

/-- The scores in canonical order. -/
def breakdown (b : Scoreboard) : List (Category × UInt32) :=
  Category.all.map fun c => (c, b.score c)

/-- The better of two categories; an equal score does not replace the first. -/
def better (b : Scoreboard) (best c : Category) : Category :=
  if b.score best < b.score c then c else best

def leader (b : Scoreboard) : Category :=
  [Category.thinker, .social, .disciplined].foldl b.better .explorer

end Scoreboard

namespace Answers

/-- The category that a question scores for; none without an answer at an option position. -/
def category? (a : Answers) (q : Question) : Option Category :=
  (a.get? q.id).bind fun index => Category.ofPosition? index.toNat

def tally (a : Answers) (questions : List Question) : Scoreboard :=
  Scoreboard.ofAwards (questions.filterMap a.category?)

/-- The category that the answers to a list of questions speak for. -/
def classify (a : Answers) (questions : List Question) : Category :=
  (a.tally questions).leader

end Answers

end Temperament
