import Temperament.Encoding
import Temperament.Plan.Adjustment
import Temperament.Scratch

/-!
# Profiles

What is known of a child between runs: the category found by the last assessment and the latest
weekly report.  A profile is kept in the scratch store, under one key each; an entry that does not
read as what it should be counts as absent.
-/

namespace Temperament

structure Profile where
  category : Option Category := none
  progress : Option Progress := none
  deriving DecidableEq

namespace Profile

def categoryKey : String := "huidong.personality"

def progressKey : String := "huidong.progress"

/-! ## Reading -/

def categoryOf? (label : String) : Option Category :=
  (Category.parse label).toOption

def progressOf? (text : String) : Option Progress :=
  (Json.decode Progress.ofJson? text).toOption

def ofEntries (entries : Scratch.Entries) : Profile where
  category := (entries.get? categoryKey).bind categoryOf?
  progress := (entries.get? progressKey).bind progressOf?

/-- Entries that are there but do not read as what they should be. -/
inductive Ignored
  | category (fault : Fault)
  | progress

def ignoredCategory (entries : Scratch.Entries) : List Ignored :=
  match (entries.get? categoryKey).map Category.parse with
  | some (.error fault) => [.category fault]
  | _ => []

def ignoredProgress (entries : Scratch.Entries) : List Ignored :=
  match (entries.get? progressKey).map progressOf? with
  | some none => [.progress]
  | _ => []

def ignored (entries : Scratch.Entries) : List Ignored :=
  ignoredCategory entries ++ ignoredProgress entries

def load (s : Scratch) : Filing Profile := do
  return ofEntries (← s.load)

/-! ## Writing -/

def saveCategory (s : Scratch) : Option Category → Filing (Option Nat)
  | some c => some <$> s.insert categoryKey c.name
  | none => s.erase categoryKey

def saveProgress (s : Scratch) : Option Progress → Filing (Option Nat)
  | some p => some <$> s.insert progressKey p.toJson.text
  | none => s.erase progressKey

/-- Writes the category, then the report; what is absent is removed.  The result is the number of
entries after each write. -/
def save (p : Profile) (s : Scratch) : Filing (List Nat) := do
  let first ← saveCategory s p.category
  let second ← saveProgress s p.progress
  return first.toList ++ second.toList

/-! ## Planning -/

/-- The category to plan for; the first one before any assessment. -/
def categoryOrDefault (p : Profile) : Category :=
  p.category.getD default

def currentPlan (p : Profile) : Plan :=
  p.categoryOrDefault.plan.adjust p.progress

end Profile

end Temperament
