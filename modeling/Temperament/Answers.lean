import Temperament.Fault
import Temperament.Question
import Temperament.SortedMap

/-!
# Answers

The option index chosen for each question id.  Answers are partial until every question of a list
has one; `select` is the way in for answers of a respondent, `ofPairs` takes any.
-/

namespace Temperament

structure Answers where
  choices : SortedMap UInt32 UInt64 := ∅
  deriving DecidableEq

namespace Answers

def empty : Answers := {}

instance : EmptyCollection Answers := ⟨empty⟩

def get? (a : Answers) (id : UInt32) : Option UInt64 := a.choices.get? id

def size (a : Answers) : Nat := a.choices.size

def isEmpty (a : Answers) : Bool := a.size == 0

/-- The answers in the order of their ids. -/
def toPairs (a : Answers) : List (UInt32 × UInt64) := a.choices.toList

/-- Any pairs as answers; of several for one id the last counts. -/
def ofPairs (pairs : List (UInt32 × UInt64)) : Answers :=
  ⟨SortedMap.ofList pairs⟩

/-- Answers a question of a list with one of its options, in place of an earlier answer. -/
def select (a : Answers) (questions : List Question) (id : UInt32) (index : UInt64) :
    Except Fault Answers :=
  if !questions.any (·.id == id) then .error (.unknownQuestion id)
  else if index.toNat < optionCount then .ok ⟨a.choices.insert id index⟩
  else .error (.invalidAnswer id index)

def isAnswered (a : Answers) (q : Question) : Bool :=
  (a.get? q.id).isSome

def isComplete (a : Answers) (questions : List Question) : Bool :=
  questions.all a.isAnswered

def ensureComplete (a : Answers) (questions : List Question) : Except Fault Unit :=
  if a.isComplete questions then .ok ()
  else .error (.incomplete (questions.countP a.isAnswered) questions.length)

end Answers

end Temperament
