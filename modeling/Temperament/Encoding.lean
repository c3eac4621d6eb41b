import Temperament.Json.Record
import Temperament.Plan.Basic
import Temperament.Progress
import Temperament.Scoreboard

/-!
# JSON forms

The form in which categories, questions, answers, plans and reports are written as JSON, and the
forms that are read.  A report without words has no `parentFeedback`.
-/

namespace Temperament

open Json

/-- Reads text that must be one JSON value. -/
def Json.decode {α : Type} (ofJson? : Json → Option α) (s : String) : Except Fault α :=
  match (Json.ofText? s).bind ofJson? with
  | some a => .ok a
  | none => .error .malformedJson

namespace Category

def toJson (c : Category) : Json := ofString c.name

/-- A category is its name, or an object whose only key is its name, with the value `null`. -/
def ofJson? : Json → Option Category
  | .string pieces => (pieceText? pieces).bind ofName?
  | .object [(key, .null)] => (pieceText? key).bind ofName?
  | _ => none

end Category

namespace Question

def toJson (q : Question) : Json :=
  ofFields [("id", ofNat q.id.toNat), ("title", ofString q.title),
    ("options", ofStrings q.options.toList)]

def ofJson? (j : Json) : Option Question := do
  let [some id, some title, some options] ← j.fields? ["id", "title", "options"] | none
  let id ← id.uint32?
  let title ← title.string?
  let options ← options.strings?
  if h : options.length = optionCount then some ⟨id, title, ⟨options.toArray, h⟩⟩ else none

end Question

namespace Answers

def toJson (a : Answers) : Json :=
  ofFields [("selections", .object (a.toPairs.map fun (id, index) =>
    (encode (Text.digits id.toNat), ofNat index.toNat)))]

/-- A key that is a plain number, written without escapes and leading zeros. -/
def idOfKey? (key : List Piece) : Option UInt32 := do
  let literal ← plain? key
  if literal.head? = some '0' ∧ literal ≠ ['0'] then none
  else (Text.readNumeral? UInt32.size literal).map UInt32.ofNat

def choiceOfMember? (member : List Piece × Json) : Option (UInt32 × UInt64) := do
  return (← idOfKey? member.1, ← member.2.uint64?)

def ofJson? (j : Json) : Option Answers := do
  let [some (.object members)] ← j.fields? ["selections"] | none
  (members.mapM choiceOfMember?).map ofPairs

end Answers

namespace Plan

def toJson (p : Plan) : Json :=
  ofFields [("learning", ofStrings p.learning), ("sports", ofStrings p.sports),
    ("goals", ofStrings p.goals)]

def ofJson? (j : Json) : Option Plan := do
  let [some learning, some sports, some goals] ← j.fields? ["learning", "sports", "goals"] | none
  return ⟨← learning.strings?, ← sports.strings?, ← goals.strings?⟩

end Plan

namespace Progress

def fieldNames : List String :=
  ["weekStartIsoDate", "completedLearning", "targetLearning", "completedSports", "targetSports",
    "parentFeedback"]

def toJson (p : Progress) : Json :=
  ofFields ([("weekStartIsoDate", ofString p.weekStart.text),
    ("completedLearning", ofNat p.completedLearning.toNat),
    ("targetLearning", ofNat p.targetLearning.toNat),
    ("completedSports", ofNat p.completedSports.toNat),
    ("targetSports", ofNat p.targetSports.toNat)] ++
    p.feedback.toList.map fun words => ("parentFeedback", ofString words))

/-- Words may be left out or be `null`. -/
def feedbackOfJson? : Option Json → Option (Option String)
  | none => some none
  | some .null => some none
  | some j => j.string?.map some

def ofJson? (j : Json) : Option Progress := do
  let [some weekStart, some completedLearning, some targetLearning, some completedSports,
    some targetSports, feedback] ← j.fields? fieldNames | none
  return {
    weekStart := ← weekStart.string?.bind Date.ofText?
    completedLearning := ← completedLearning.uint32?
    targetLearning := ← targetLearning.uint32?
    completedSports := ← completedSports.uint32?
    targetSports := ← targetSports.uint32?
    feedback := ← feedbackOfJson? feedback }

end Progress

end Temperament
