import Temperament.Binary64
import Temperament.Date

/-!
# Weekly progress

What a guardian reports of one week: activities done and aimed at, and perhaps some words.
-/

namespace Temperament

structure Progress where
  weekStart : Date
  completedLearning : UInt32
  targetLearning : UInt32
  completedSports : UInt32
  targetSports : UInt32
  feedback : Option String := none
  deriving DecidableEq

/-- The part of a target that was completed; a target of zero counts as one. -/
def completionRatio (completed target : UInt32) : Binary64 :=
  .nearest completed.toNat (max 1 target.toNat)

namespace Progress

def learningCompletion (p : Progress) : Binary64 :=
  completionRatio p.completedLearning p.targetLearning

def sportsCompletion (p : Progress) : Binary64 :=
  completionRatio p.completedSports p.targetSports

end Progress

end Temperament
